import CanvasAlbum.Proofs.Text.Decimal
import Mathlib.Data.List.Induction
import Mathlib.Data.Nat.Digits.Defs

namespace CanvasAlbum.Text.Decimal

def IsNumeral (cs : List Char) : Prop := cs ≠ [] ∧ ∀ c ∈ cs, c.isDigit = true

instance (cs : List Char) : Decidable (IsNumeral cs) := inferInstanceAs (Decidable (_ ∧ _))

def worth (cs : List Char) : Nat :=
  Nat.ofDigits 10 (cs.reverse.map fun c => c.toNat - '0'.toNat)

inductive Literal : List Char → Int → Prop where
  | bare {cs} (numeral : IsNumeral cs) : Literal cs (worth cs)
  | plus {cs} (numeral : IsNumeral cs) : Literal ('+' :: cs) (worth cs)
  | minus {cs} (numeral : IsNumeral cs) : Literal ('-' :: cs) (-worth cs)

def Spells (token : String) (word : Int32) : Prop := Literal token.toList word.toInt

def IsWord (token : String) : Prop := ∃ i, Literal token.toList i ∧ -2 ^ 31 ≤ i ∧ i ≤ 2 ^ 31 - 1

theorem isWord_iff {token : String} : IsWord token ↔ ∃ word, Spells token word := by
  constructor
  · rintro ⟨i, literal, low, high⟩
    refine ⟨Int32.ofInt i, ?_⟩
    rwa [Spells, Int32.toInt_ofInt_of_le (by omega) (by omega)]
  · rintro ⟨word, literal⟩
    have low := word.le_toInt
    have high := word.toInt_lt
    exact ⟨word.toInt, literal, by omega, by omega⟩

theorem value_eq_worth (cs : List Char) : value cs = worth cs := by
  induction cs using List.reverseRecOn with
  | nil => rfl
  | append_singleton cs c ih =>
      rw [value_append_digit, ih, worth, worth, List.reverse_append, List.reverse_singleton,
        List.singleton_append, List.map_cons, Nat.ofDigits_cons]
      exact Nat.add_comm _ _

theorem worth_digits (n : Nat) : worth (digits n) = n := by
  rw [← value_eq_worth, value_digits]

theorem isNumeral_digits (n : Nat) : IsNumeral (digits n) :=
  ⟨digits_ne_nil n, fun _ => isDigit_of_mem_digits⟩

theorem literal_integer (i : Int) : Literal (integer i).toList i := by
  rw [integer_toList]
  split
  · have signed := Literal.minus (isNumeral_digits i.natAbs)
    have value : -(i.natAbs : Int) = i := by omega
    rwa [worth_digits, value] at signed
  · have plain := Literal.bare (isNumeral_digits i.natAbs)
    have value : (i.natAbs : Int) = i := by omega
    rwa [worth_digits, value] at plain

theorem spells_integer (word : Int32) : Spells (integer word.toInt) word :=
  literal_integer word.toInt

theorem natural?_eq_some_iff {cs : List Char} {n : Nat} :
    natural? cs = some n ↔ IsNumeral cs ∧ worth cs = n := by
  rw [natural?, Option.ite_none_right_eq_some, List.all_eq_true, value_eq_worth,
    Option.some.injEq]
  rfl

theorem natural?_map_eq_some_iff {cs : List Char} {sign : Nat → Int} {i : Int} :
    (natural? cs).map sign = some i ↔ IsNumeral cs ∧ sign (worth cs) = i := by
  rw [Option.map_eq_some_iff]
  constructor
  · rintro ⟨n, read, rfl⟩
    obtain ⟨numeral, rfl⟩ := natural?_eq_some_iff.mp read
    exact ⟨numeral, rfl⟩
  · rintro ⟨numeral, rfl⟩
    exact ⟨worth cs, natural?_eq_some_iff.mpr ⟨numeral, rfl⟩, rfl⟩

theorem not_isNumeral_of_sign {sign : Char} {cs : List Char} (mark : sign.isDigit = false) :
    ¬IsNumeral (sign :: cs) := by
  rintro ⟨-, digits⟩
  have digit := digits sign List.mem_cons_self
  rw [mark] at digit
  contradiction

theorem integer?_eq_some_iff {cs : List Char} {i : Int} :
    integer? cs = some i ↔ Literal cs i := by
  unfold integer?
  split
  · rw [natural?_map_eq_some_iff]
    constructor
    · rintro ⟨numeral, rfl⟩
      exact .plus numeral
    · intro literal
      cases literal with
      | bare numeral => exact absurd numeral (not_isNumeral_of_sign rfl)
      | plus numeral => exact ⟨numeral, rfl⟩
  · rw [natural?_map_eq_some_iff]
    constructor
    · rintro ⟨numeral, rfl⟩
      exact .minus numeral
    · intro literal
      cases literal with
      | bare numeral => exact absurd numeral (not_isNumeral_of_sign rfl)
      | minus numeral => exact ⟨numeral, rfl⟩
  · rename_i noPlus noMinus
    rw [natural?_map_eq_some_iff]
    constructor
    · rintro ⟨numeral, rfl⟩
      exact .bare numeral
    · intro literal
      cases literal with
      | bare numeral => exact ⟨numeral, rfl⟩
      | plus numeral => exact absurd rfl (noPlus _)
      | minus numeral => exact absurd rfl (noMinus _)

theorem word?_eq_some_iff {i : Int} {word : Int32} : word? i = some word ↔ i = word.toInt := by
  rw [word?, Option.ite_none_right_eq_some, Option.some.injEq]
  constructor
  · rintro ⟨⟨low, high⟩, rfl⟩
    exact (Int32.toInt_ofInt_of_le low high).symm
  · rintro rfl
    exact ⟨⟨word.le_toInt, word.toInt_lt⟩, word.ofInt_toInt⟩

theorem unsignedWord?_eq_some_iff {i : Int} {word : UInt32} :
    unsignedWord? i = some word ↔ i = word.toNat := by
  rw [unsignedWord?, Option.ite_none_right_eq_some, Option.some.injEq]
  constructor
  · intro ⟨⟨low, high⟩, same⟩
    have small : i.toNat < UInt32.size := by rw [UInt32.size]; omega
    rw [← same, UInt32.toNat_ofNat_of_lt' small, Int.toNat_of_nonneg low]
  · intro same
    have small := word.toNat_lt
    refine ⟨by omega, ?_⟩
    rw [same, Int.toNat_natCast, UInt32.ofNat_toNat]

theorem word32?_eq_some_iff {token : String} {word : Int32} :
    word32? token = some word ↔ Spells token word := by
  rw [word32?, Option.bind_eq_some_iff]
  constructor
  · rintro ⟨i, read, fits⟩
    rw [word?_eq_some_iff.mp fits] at read
    exact integer?_eq_some_iff.mp read
  · intro literal
    exact ⟨word.toInt, integer?_eq_some_iff.mpr literal, word?_eq_some_iff.mpr rfl⟩

theorem word32?_eq_none_iff {token : String} : word32? token = none ↔ ¬IsWord token := by
  rw [Option.eq_none_iff_forall_ne_some, isWord_iff, not_exists]
  exact forall_congr' fun word => not_congr word32?_eq_some_iff

end CanvasAlbum.Text.Decimal
