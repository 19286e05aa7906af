import CanvasAlbum.Json.Codec
import CanvasAlbum.Proofs.Text.Literal
import Mathlib.Data.List.TakeWhile

namespace CanvasAlbum.Json
open Text

def Spaces (gap : List Char) : Prop := ∀ c ∈ gap, isSpace c = true

theorem spaces_nil : Spaces [] := by simp [Spaces]

theorem dropWhile_spaces {gap : List Char} (spaces : Spaces gap) {c : Char} (rest : List Char)
    (mark : isSpace c = false) : (gap ++ c :: rest).dropWhile isSpace = c :: rest := by
  rw [List.dropWhile_append_of_pos spaces, List.dropWhile_cons_of_neg (by simp [mark])]

/-- What may stand behind a number. -/
def EndsNumber (rest : List Char) : Prop := ∀ c ∈ rest.head?, c.isDigit = false

theorem endsNumber_nil : EndsNumber [] := by simp [EndsNumber]

theorem endsNumber_cons {c : Char} (rest : List Char) (mark : c.isDigit = false) :
    EndsNumber (c :: rest) := by
  simpa [EndsNumber] using mark

theorem endsNumber_spaces {gap : List Char} (spaces : Spaces gap) {rest : List Char}
    (ends : EndsNumber rest) : EndsNumber (gap ++ rest) := by
  cases gap with
  | nil => exact ends
  | cons c gap =>
      have space := spaces c List.mem_cons_self
      refine endsNumber_cons _ ?_
      simp only [isSpace, Bool.or_eq_true, beq_iff_eq] at space
      rcases space with ((rfl | rfl) | rfl) | rfl <;> rfl

namespace Reader
variable {ε α β : Type} {s rest : List Char}

/-! ## Readers in sequence -/

theorem bind_eq (r : Reader ε α) (next : α → Reader ε β) (s : List Char) :
    (r >>= next) s = (r s >>= fun p => next p.1 p.2) := rfl

theorem bind_of_ok {r : Reader ε α} {next : α → Reader ε β} {a : α} (done : r s = .ok (a, rest)) :
    (r >>= next) s = next a rest := by
  rw [bind_eq, done]
  rfl

theorem bind_eq_ok {r : Reader ε α} {next : α → Reader ε β} {b : β} :
    (r >>= next) s = .ok (b, rest) ↔ ∃ a left, r s = .ok (a, left) ∧ next a left = .ok (b, rest) := by
  constructor
  · intro done
    rw [bind_eq] at done
    cases answer : r s with
    | error fault =>
        rw [answer] at done
        cases done
    | ok pair =>
        obtain ⟨a, left⟩ := pair
        rw [answer] at done
        exact ⟨a, left, rfl, done⟩
  · rintro ⟨a, left, first, second⟩
    rw [bind_of_ok first, second]

theorem pure_eq (a : α) (s : List Char) : (pure a : Reader ε α) s = .ok (a, s) := rfl

theorem get_eq (s : List Char) : (get : Reader ε (List Char)) s = .ok (s, s) := rfl

theorem map_of_ok {r : Reader ε α} (f : α → β) {a : α} (done : r s = .ok (a, rest)) :
    (f <$> r) s = .ok (f a, rest) := by
  rw [← bind_pure_comp, bind_of_ok done, pure_eq]

theorem run_eq_ok {r : Reader ε α} {text : String} {a : α} :
    r.run text = .ok a ↔
      ∃ rest, r text.toList = .ok (a, rest) ∧ (rest.dropWhile isSpace).isEmpty = true := by
  unfold run
  cases answer : r text.toList with
  | error fault => simp
  | ok pair =>
      obtain ⟨b, left⟩ := pair
      constructor
      · intro done
        simp only at done
        split at done
        · rename_i ended
          cases done
          exact ⟨left, rfl, ended⟩
        · cases done
      · rintro ⟨rest, ⟨⟩, ended⟩
        exact if_pos ended

/-! ## Marks -/

section Marks
variable {gap : List Char} {c : Char}

theorem next_eq (s : List Char) : (next : Reader ε (Option Char)) s =
    .ok ((s.dropWhile isSpace).head?, s.dropWhile isSpace) := rfl

theorem next_here (mark : isSpace c = false) (rest : List Char) :
    (next : Reader ε (Option Char)) (c :: rest) = .ok (some c, c :: rest) := by
  rw [next_eq, List.dropWhile_cons_of_neg (by simp [mark]), List.head?_cons]

theorem next_mark (spaces : Spaces gap) (mark : isSpace c = false) (rest : List Char) :
    (next : Reader ε (Option Char)) (gap ++ c :: rest) = .ok (some c, c :: rest) := by
  rw [next_eq, dropWhile_spaces spaces rest mark, List.head?_cons]

theorem advance_mark (c : Char) (rest : List Char) :
    (advance : Reader ε Unit) (c :: rest) = .ok ((), rest) := rfl

theorem expect_mark (spaces : Spaces gap) (mark : isSpace c = false) (rest : List Char) :
    (expect c : Reader ε Unit) (gap ++ c :: rest) = .ok ((), rest) := by
  rw [expect, bind_of_ok (next_mark spaces mark rest), if_pos rfl, advance_mark]

theorem expect_here (mark : isSpace c = false) (rest : List Char) :
    (expect c : Reader ε Unit) (c :: rest) = .ok ((), rest) := by
  rw [expect, bind_of_ok (next_here mark rest), if_pos rfl, advance_mark]

theorem ofOption_some (a : α) (s : List Char) :
    (ofOption (some a) : Reader ε α) s = .ok (a, s) := rfl

end Marks

/-! ## Texts -/

theorem scanText_quote (escape : (s : List Char) → Option (Char × Shorter s))
    (done rest : List Char) : scanText escape done ('"' :: rest) = some (done.reverse, rest) := by
  rw [scanText, if_pos rfl]

theorem scanText_escape {escape : (s : List Char) → Option (Char × Shorter s)}
    {done s : List Char} {c : Char} {left : Shorter s} (read : escape s = some (c, left)) :
    scanText escape done ('\\' :: s) = scanText escape (c :: done) left.val := by
  rw [scanText, if_neg (by decide), if_pos rfl, read]

theorem scanText_plain (escape : (s : List Char) → Option (Char × Shorter s))
    (done rest : List Char) {c : Char} (noQuote : c ≠ '"') (noEscape : c ≠ '\\')
    (visible : ¬c.toNat < 0x20) :
    scanText escape done (c :: rest) = scanText escape (c :: done) rest := by
  rw [scanText, if_neg noQuote, if_neg noEscape, if_neg visible]

theorem escape?_short {letter c : Char} (rest : List Char) (short : letter ≠ 'u')
    (known : shortEscape? letter = some c) :
    ∃ left, escape? (letter :: rest) = some (c, left) ∧ left.val = rest := by
  rw [escape?, if_neg short, known]
  exact ⟨_, rfl, rfl⟩

theorem hexValue?_digitChar {n : Nat} (small : n < 16) : hexValue? n.digitChar = some n := by
  revert n
  decide

theorem codeUnit?_byteDigits {n : Nat} (control : n < 0x20) (rest : List Char) :
    ∃ left, codeUnit? ('0' :: '0' :: (byteDigits n ++ rest)) = some (n, left) ∧
      left.val = rest := by
  have high : hexValue? (n / 16).digitChar = some (n / 16) := hexValue?_digitChar (by omega)
  have low : hexValue? (n % 16).digitChar = some (n % 16) := hexValue?_digitChar (by omega)
  have zero : hexValue? '0' = some 0 := rfl
  have whole : n / 16 * 16 + n % 16 = n := by omega
  simp [codeUnit?, byteDigits, zero, high, low, whole]

theorem escape?_control {n : Nat} (control : n < 0x20) (rest : List Char) :
    ∃ left, escape? ('u' :: '0' :: '0' :: (byteDigits n ++ rest)) = some (Char.ofNat n, left) ∧
      left.val = rest := by
  obtain ⟨left, unit, same⟩ := codeUnit?_byteDigits control rest
  have noTrailing : isTrailing n = false := by simp [isTrailing]; omega
  have noLeading : isLeading n = false := by simp [isLeading]; omega
  have read : character? ('0' :: '0' :: (byteDigits n ++ rest)) = some (Char.ofNat n, left) := by
    simp [character?, unit, noTrailing, noLeading]
  rw [escape?, if_pos rfl, read]
  exact ⟨_, rfl, same⟩

theorem scanText_escapeChar (done rest : List Char) (c : Char) :
    scanText escape? done (escapeChar c ++ rest) = scanText escape? (c :: done) rest := by
  have short {letter : Char} (plain : letter ≠ 'u') (known : shortEscape? letter = some c) :
      scanText escape? done ('\\' :: letter :: rest) = scanText escape? (c :: done) rest := by
    obtain ⟨left, read, same⟩ := escape?_short rest plain known
    rw [scanText_escape read, same]
  unfold escapeChar
  split_ifs with quote backslash backspace feed newline ret tab control
  · exact short (by decide) (by rw [quote]; rfl)
  · exact short (by decide) (by rw [backslash]; rfl)
  · exact short (by decide) (by rw [backspace]; rfl)
  · exact short (by decide) (by rw [feed]; rfl)
  · exact short (by decide) (by rw [newline]; rfl)
  · exact short (by decide) (by rw [ret]; rfl)
  · exact short (by decide) (by rw [tab]; rfl)
  · obtain ⟨left, read, same⟩ := escape?_control control rest
    rw [Char.ofNat_toNat] at read
    exact (scanText_escape read).trans (by rw [same])
  · exact scanText_plain escape? done rest quote backslash control

theorem scanText_escaped (done cs rest : List Char) :
    scanText escape? done (cs.flatMap escapeChar ++ '"' :: rest) =
      some (done.reverse ++ cs, rest) := by
  induction cs generalizing done with
  | nil => simp [scanText_quote]
  | cons c cs ih =>
      rw [List.flatMap_cons, List.append_assoc, scanText_escapeChar, ih, List.reverse_cons,
        List.append_assoc, List.singleton_append]

theorem text_quote {gap : List Char} (spaces : Spaces gap) (content rest : List Char) :
    (text : Reader ε String) (gap ++ quote content ++ rest) =
      .ok (String.ofList content, rest) := by
  have split : gap ++ quote content ++ rest =
      gap ++ '"' :: (content.flatMap escapeChar ++ '"' :: rest) := by
    simp [quote]
  have scanned : scanText escape? [] (content.flatMap escapeChar ++ '"' :: rest) =
      some (content, rest) := scanText_escaped [] content rest
  rw [split, text, textWith, bind_of_ok (expect_mark spaces rfl _)]
  rw [bind_of_ok (get_eq _), scanned, bind_of_ok (ofOption_some _ _)]
  rfl

/-! ## Numbers -/

theorem digitRun_digits {digits : List Char} (all : ∀ c ∈ digits, c.isDigit = true)
    (ends : EndsNumber rest) :
    (digitRun : Reader ε (List Char)) (digits ++ rest) = .ok (digits, rest) := by
  have stop : rest.takeWhile Char.isDigit = [] ∧ rest.dropWhile Char.isDigit = rest := by
    cases rest with
    | nil => simp
    | cons c rest =>
        have mark : c.isDigit = false := ends c rfl
        simp [mark]
  have run : (digitRun : Reader ε (List Char)) (digits ++ rest) =
      .ok ((digits ++ rest).takeWhile Char.isDigit, (digits ++ rest).dropWhile Char.isDigit) := rfl
  rw [run, List.takeWhile_append_of_pos all, List.dropWhile_append_of_pos all, stop.1, stop.2,
    List.append_nil]

theorem wholeDigits_digits (n : Nat) (ends : EndsNumber rest) :
    (wholeDigits : Reader ε (List Char)) (Decimal.digits n ++ rest) =
      .ok (Decimal.digits n, rest) := by
  have shortest : ¬(Decimal.digits n = [] ∨
      (Decimal.digits n).head? = some '0' ∧ 1 < (Decimal.digits n).length) := by
    rintro (empty | ⟨zero, long⟩)
    · exact Decimal.digits_ne_nil n empty
    · rw [Decimal.digits_head n zero] at long
      simp [Decimal.digits] at long
  rw [wholeDigits, bind_of_ok (digitRun_digits (fun _ => Decimal.isDigit_of_mem_digits) ends),
    if_neg shortest, pure_eq]

section Signs
variable {gap : List Char}

theorem minus_sign (spaces : Spaces gap) (rest : List Char) :
    (minus : Reader ε Bool) (gap ++ '-' :: rest) = .ok (true, rest) := by
  rw [minus, bind_of_ok (next_mark spaces rfl rest), if_pos rfl, bind_of_ok (advance_mark _ _),
    pure_eq]

theorem isSpace_of_isDigit {c : Char} (digit : c.isDigit = true) : isSpace c = false := by
  by_contra space
  have ends : EndsNumber ([c] ++ []) :=
    endsNumber_spaces (by simpa [Spaces] using space) endsNumber_nil
  simpa [digit] using ends c

theorem minus_none (spaces : Spaces gap) (n : Nat) (rest : List Char) :
    (minus : Reader ε Bool) (gap ++ (Decimal.digits n ++ rest)) =
      .ok (false, Decimal.digits n ++ rest) := by
  obtain ⟨d, ds, split⟩ := List.exists_cons_of_ne_nil (Decimal.digits_ne_nil n)
  have digit : d.isDigit = true := Decimal.isDigit_of_mem_digits (n := n) (by simp [split])
  have noSign : some d ≠ some '-' := by
    rintro ⟨⟩
    exact absurd digit (by decide)
  rw [split, List.cons_append, minus, bind_of_ok (next_mark spaces (isSpace_of_isDigit digit) _),
    if_neg noSign, pure_eq]

theorem integer_written (spaces : Spaces gap) (i : Int) (ends : EndsNumber rest) :
    (integer : Reader ε Int) (gap ++ (Decimal.integer i).toList ++ rest) = .ok (i, rest) := by
  rw [Decimal.integer_toList, List.append_assoc, integer]
  split
  · rename_i negative
    have large : i.natAbs ≠ 0 := by omega
    have same : -(i.natAbs : Int) = i := by omega
    rw [List.cons_append, bind_of_ok (minus_sign spaces _), bind_of_ok (wholeDigits_digits _ ends)]
    simp only [Decimal.value_digits, if_neg large, same, if_true, pure_eq]
  · rename_i positive
    have same : (i.natAbs : Int) = i := by omega
    rw [bind_of_ok (minus_none spaces _ _), bind_of_ok (wholeDigits_digits _ ends)]
    simp only [Decimal.value_digits, same, Bool.false_eq_true, if_false, pure_eq]

theorem word32_written (spaces : Spaces gap) (n : Int32) (ends : EndsNumber rest) :
    (word32 : Reader ε Int32) (gap ++ (Decimal.integer n.toInt).toList ++ rest) =
      .ok (n, rest) := by
  rw [word32, bind_of_ok (integer_written spaces n.toInt ends),
    Decimal.word?_eq_some_iff.mpr rfl, ofOption_some]

theorem unsigned32_written (spaces : Spaces gap) (n : UInt32) (ends : EndsNumber rest) :
    (unsigned32 : Reader ε UInt32) (gap ++ (Decimal.integer n.toNat).toList ++ rest) =
      .ok (n, rest) := by
  rw [unsigned32, bind_of_ok (integer_written spaces n.toNat ends),
    Decimal.unsignedWord?_eq_some_iff.mpr rfl, ofOption_some]

end Signs

/-! ## Words -/

theorem literal_here (word : String) {c : Char} {cs : List Char} (split : word.toList = c :: cs)
    (mark : isSpace c = false) (rest : List Char) :
    (literal word : Reader ε Unit) (c :: cs ++ rest) = .ok ((), rest) := by
  have skipped : (skipSpace : Reader ε Unit) (c :: cs ++ rest) = .ok ((), c :: cs ++ rest) :=
    congrArg (fun s => Except.ok ((), s)) (dropWhile_spaces spaces_nil (cs ++ rest) mark)
  have found : (c :: cs).isPrefixOf (c :: cs ++ rest) = true := by
    apply List.isPrefixOf_iff_prefix.mpr
    apply List.prefix_append
  rw [literal, bind_of_ok skipped, bind_of_ok (get_eq _), split, if_pos found, List.drop_left]
  rfl

theorem flag_written {gap : List Char} (spaces : Spaces gap) (b : Bool) (rest : List Char) :
    (flag : Reader ε Bool) (gap ++ (if b then "true" else "false").toList ++ rest) =
      .ok (b, rest) := by
  rw [List.append_assoc, flag]
  cases b with
  | true =>
      have letters : "true".toList = 't' :: ['r', 'u', 'e'] := rfl
      have passed := literal_here (ε := ε) "true" letters rfl rest
      rw [if_pos rfl, letters, List.cons_append, bind_of_ok (next_mark spaces rfl _), if_pos rfl]
      exact bind_of_ok passed
  | false =>
      have letters : "false".toList = 'f' :: ['a', 'l', 's', 'e'] := rfl
      have passed := literal_here (ε := ε) "false" letters rfl rest
      rw [if_neg (by decide), letters, List.cons_append, bind_of_ok (next_mark spaces rfl _),
        if_neg (by decide)]
      exact bind_of_ok passed

end Reader

end CanvasAlbum.Json
