import CanvasAlbum.Text.Lowercase
import Mathlib

/-!
# Lower case and ASCII

A text is lowered to a plain one exactly when it is made of ASCII letters only: what lies outside
ASCII leaves a character outside ASCII behind, the Kelvin sign apart, which becomes a k.

* `lowercase_eq_iff`: against plain text without a k, case is a matter of ASCII letters.
-/

namespace CanvasAlbum.Text

/-- ASCII, and not the one letter that a character from outside is lowered to. -/
def IsPlain (c : Char) : Prop := c.toNat < 0x80 ∧ c ≠ 'k'

instance (c : Char) : Decidable (IsPlain c) := inferInstanceAs (Decidable (_ ∧ _))

/-! ## One letter -/

theorem lowerChar_of_ascii {c : Char} (ascii : c.toNat < 0x80) : lowerChar c = [c.toLower] := by
  have table : ∀ code < 0x80, lowerChar (Char.ofNat code) = [(Char.ofNat code).toLower] := by
    decide +kernel
  have lowered := table c.toNat ascii
  rwa [Char.ofNat_toNat] at lowered

def CapitalRun.LeavesPlain (run : CapitalRun) : Prop :=
  (run.first = run.last ∧ run.image = 'k'.toNat) ∨
    (0x80 ≤ run.image ∧ run.image + (run.last - run.first) < 0xD800) ∨
    (0xE000 ≤ run.image ∧ run.image + (run.last - run.first) < 0x110000)

instance (run : CapitalRun) : Decidable run.LeavesPlain := inferInstanceAs (Decidable (_ ∨ _))

theorem capitalRuns_leave_plain : ∀ run ∈ capitalRuns, run.LeavesPlain := by
  decide +kernel

theorem not_plain_of_image {run : CapitalRun} (leaves : run.LeavesPlain) {code : Nat}
    (covered : run.covers code = true) : ¬IsPlain (Char.ofNat (run.image + (code - run.first))) := by
  simp only [CapitalRun.covers, Bool.and_eq_true, decide_eq_true_eq] at covered
  obtain ⟨⟨behind, ahead⟩, -⟩ := covered
  rcases leaves with ⟨single, image⟩ | large
  · have same : code - run.first = 0 := by omega
    rw [same, image]
    decide
  · have valid : (run.image + (code - run.first)).isValidChar := by
      unfold Nat.isValidChar
      omega
    rintro ⟨ascii, -⟩
    rw [Char.toNat_ofNat, if_pos valid] at ascii
    omega

theorem exists_not_plain_of_not_ascii {c : Char} (outside : ¬c.toNat < 0x80) :
    ∃ d ∈ lowerChar c, ¬IsPlain d := by
  unfold lowerChar
  rw [if_neg outside]
  split
  · exact ⟨Char.ofNat 0x307, by simp, by decide⟩
  · cases found : capitalRuns.find? (·.covers c.toNat) with
    | none => exact ⟨c, by simp, fun plain => outside plain.1⟩
    | some run =>
        have listed := List.mem_of_find?_eq_some found
        have covered := List.find?_some found
        exact ⟨_, List.mem_singleton_self _,
          not_plain_of_image (capitalRuns_leave_plain run listed) covered⟩

theorem lowerSigma_not_plain (before after : List Char) : ¬IsPlain (lowerSigma before after) := by
  unfold lowerSigma
  split <;> decide

theorem toLower_of_not_ascii {c : Char} (outside : ¬c.toNat < 0x80) : c.toLower = c := by
  have small : ¬c.isUpper := by
    intro capital
    rw [Char.isUpper, decide_eq_true_eq] at capital
    have bound : c.toNat ≤ 'Z'.toNat := UInt32.le_iff_toNat_le.mp capital.2
    exact outside (Nat.lt_of_le_of_lt bound (by decide))
  exact Char.toLower_eq_of_not_isUpper small

/-! ## Texts -/

theorem lowerBehind_cons_of_ascii (before after : List Char) {c : Char} (ascii : c.toNat < 0x80) :
    lowerBehind before (c :: after) = c.toLower :: lowerBehind (c :: before) after := by
  have ordinary : c ≠ capitalSigma := by
    rintro rfl
    exact absurd ascii (by decide)
  rw [lowerBehind, if_neg ordinary, lowerChar_of_ascii ascii, List.singleton_append]

theorem exists_not_plain_of_cons (before after : List Char) {c : Char} (outside : ¬c.toNat < 0x80) :
    ∃ d ∈ lowerBehind before (c :: after), ¬IsPlain d := by
  rw [lowerBehind]
  split
  · exact ⟨_, List.mem_append_left _ (List.mem_singleton_self _), lowerSigma_not_plain before after⟩
  · obtain ⟨d, member, foreign⟩ := exists_not_plain_of_not_ascii outside
    exact ⟨d, List.mem_append_left _ member, foreign⟩

theorem lowerBehind_eq_iff {target : List Char} (plain : ∀ c ∈ target, IsPlain c)
    (before text : List Char) :
    lowerBehind before text = target ↔ text.map Char.toLower = target := by
  induction text generalizing before target with
  | nil => rfl
  | cons c after ih =>
      by_cases ascii : c.toNat < 0x80
      · rw [lowerBehind_cons_of_ascii before after ascii, List.map_cons]
        cases target with
        | nil => simp
        | cons d rest =>
            rw [List.cons_eq_cons, List.cons_eq_cons, ih (List.forall_mem_cons.mp plain).2]
      · -- A foreign letter leaves something foreign behind on either side.
        constructor
        · rintro rfl
          obtain ⟨d, member, foreign⟩ := exists_not_plain_of_cons before after ascii
          exact absurd (plain d member) foreign
        · rintro rfl
          have remains := plain c.toLower (List.mem_map_of_mem List.mem_cons_self)
          rw [toLower_of_not_ascii ascii] at remains
          exact absurd remains.1 ascii

theorem lowercase_eq_iff {text target : String} (plain : ∀ c ∈ target.toList, IsPlain c) :
    lowercase text = target ↔ text.toList.map Char.toLower = target.toList := by
  rw [lowercase, ← String.toList_inj, String.toList_ofList]
  exact lowerBehind_eq_iff plain [] text.toList

end CanvasAlbum.Text
