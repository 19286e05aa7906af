import CanvasAlbum.Album
import CanvasAlbum.Proofs.Text.Unambiguous

namespace CanvasAlbum
open Text

theorem Field.name_injective : Function.Injective Field.name := by
  intro a b same
  cases a <;> cases b <;> simp [name] at same ⊢

theorem Field.length_name (field : Field) : field.name.toList.length = 1 := by
  cases field <;> rfl

theorem Action.label_injective : Function.Injective Action.label := by
  intro a b same
  cases a <;> cases b <;> simp [label] at same ⊢

theorem Action.plain_of_mem_label (action : Action) :
    ':' ∉ action.label.toList ∧ ')' ∉ action.label.toList := by
  cases action <;> simp [label]

theorem Color.text_selfDelimiting : SelfDelimiting Color.text := by
  intro c d x y same
  simp only [text, String.append_assoc, String.append_right_inj] at same
  rw [Decimal.integer_append_inj ⟨',', rfl, rfl⟩, Decimal.integer_append_inj ⟨',', rfl, rfl⟩,
    Decimal.integer_append_inj ⟨')', rfl, rfl⟩, Int32.toInt_inj, Int32.toInt_inj,
    Int32.toInt_inj] at same
  obtain ⟨red, green, blue, rest⟩ := same
  cases c
  cases d
  simp only at red green blue
  subst red green blue
  exact ⟨rfl, rest⟩

theorem Text.Decimal.natural_append_inj {m n : Nat} {close x y : String} {mark : Char}
    (closes : close.toList.head? = some mark) (other : mark.isDigit = false) :
    natural m ++ (close ++ x) = natural n ++ (close ++ y) ↔ m = n ∧ x = y := by
  have inside (n : Nat) : ∀ c ∈ (natural n).toList, c.isDigit = true := by
    intro c member
    rw [natural, String.toList_ofList] at member
    exact isDigit_of_mem_digits member
  rw [append_closing_inj (inside m) (inside n) ⟨mark, closes, other⟩, natural_injective.eq_iff]

theorem LineFault.message_injective : Function.Injective LineFault.message := by
  intro a b same
  have written := congrArg String.toList same
  cases a <;> cases b
  case tokenCount.tokenCount =>
    have closes : " tokens, found ".toList.head? = some ' ' := by simp
    dsimp only [message] at same
    simp only [String.append_assoc, String.append_right_inj] at same
    rw [Decimal.natural_append_inj closes rfl] at same
    rw [same.1, Decimal.natural_injective same.2]
  case notANumber.notANumber =>
    -- The field comes last and has one letter, so the token is all that may end earlier or later.
    dsimp only [message] at written
    simp only [String.toList_append] at written
    obtain ⟨front, names⟩ := List.append_inj' written (by simp only [Field.length_name])
    have fields := Field.name_injective (String.toList_inj.mp names)
    simp only [List.append_left_inj, List.append_right_inj, String.toList_inj] at front
    rw [fields, front]
  case unknownKind.unknownKind =>
    dsimp only [message] at same
    rw [String.append_left_inj, String.append_right_inj] at same
    rw [same]
  all_goals
    dsimp only [message] at written
    simp at written

theorem Refusal.message_injective : Function.Injective Refusal.message := by
  intro a b same
  have written := congrArg String.toList same
  cases a <;> cases b
  case faultyLine.faultyLine action fault action' fault' =>
    have closes : ": ".toList.head? = some ':' := by simp
    dsimp only [message] at same
    simp only [String.append_assoc, String.append_right_inj] at same
    rw [append_mark_inj action.plain_of_mem_label.1 action'.plain_of_mem_label.1 closes] at same
    rw [Action.label_injective same.1, LineFault.message_injective same.2]
  case nameTaken.nameTaken | noSuchShape.noSuchShape | unknownKind.unknownKind | idTaken.idTaken =>
    dsimp only [message] at same
    rw [String.append_left_inj, String.append_right_inj] at same
    rw [same]
  case channelsOutOfRange.channelsOutOfRange =>
    dsimp only [message] at same
    simp only [String.append_assoc, String.append_right_inj] at same
    rw [(Color.text_selfDelimiting same).1]
  case nothingToCapture.nothingToCapture | noName.noName => rfl
  all_goals
    dsimp only [message] at written
    simp at written

theorem ScriptFault.message_injective : Function.Injective ScriptFault.message := by
  intro a b same
  have closes : ": ".toList.head? = some ':' := by simp
  dsimp only [message] at same
  simp only [String.append_assoc, String.append_right_inj] at same
  rw [Decimal.natural_append_inj closes rfl] at same
  cases a
  cases b
  rw [ScriptFault.mk.injEq]
  exact ⟨same.1, Refusal.message_injective same.2⟩

theorem RunFault.message_injective : Function.Injective RunFault.message := by
  intro a b same
  have written := congrArg String.toList same
  cases a <;> cases b
  case script.script => rw [ScriptFault.message_injective same]
  case operation.operation index action cause index' action' cause' =>
    have opens : " (".toList.head? = some ' ' := by simp
    have closes : ") failed: ".toList.head? = some ')' := by simp
    dsimp only [message] at same
    simp only [String.append_assoc, String.append_right_inj] at same
    rw [Decimal.natural_append_inj opens rfl,
      append_mark_inj action.plain_of_mem_label.2 action'.plain_of_mem_label.2 closes] at same
    obtain ⟨place, action, cause⟩ := same
    rw [Nat.succ.inj place, Action.label_injective action, Refusal.message_injective cause]
  all_goals simp [message, ScriptFault.message] at written

end CanvasAlbum
