import CanvasAlbum.Proofs.Text.Decimal
import Mathlib.Algebra.Group.Nat.Defs

/-!
# Texts that can be told apart in a row

* `append_closing_inj`: a text ends at the first character that it cannot have.
* `append_last_mark_inj`: a text starts behind the last character that it cannot have.
* `SelfDelimiting`, `SelfDelimitingOn`: a written value ends by itself, whatever comes behind it.
* `SelfDelimitingOn.join_append_inj`: so does a list of such values, if what closes the list looks
  like none of them.
-/

namespace CanvasAlbum.Text

theorem head?_append_of_head? {s x : String} {c : Char} (first : s.toList.head? = some c) :
    (s ++ x).toList.head? = some c := by
  rw [String.toList_append, List.head?_append, first, Option.some_or]

theorem append_ne_append {s t x y : String} {i : Nat} {c d : Char} (hs : s.toList[i]? = some c)
    (ht : t.toList[i]? = some d) (differ : c ≠ d) : s ++ x ≠ t ++ y := by
  have keeps {u z : String} {e : Char} (place : u.toList[i]? = some e) :
      (u ++ z).toList[i]? = some e := by
    rw [String.toList_append, List.getElem?_append_left (List.getElem?_eq_some_iff.mp place).1]
    exact place
  intro same
  have equal : some c = some d := by rw [← keeps (z := x) hs, same, keeps ht]
  exact differ (Option.some.inj equal)

theorem takeWhile_append_of_stop {p : Char → Bool} {s u : List Char}
    (inside : ∀ c ∈ s, p c = true) (stops : ∀ c ∈ u.head?, p c = false) :
    (s ++ u).takeWhile p = s := by
  rw [List.takeWhile_append_of_pos inside]
  cases u with
  | nil => simp
  | cons c u => simp [stops c rfl]

theorem append_closing_inj {p : Char → Bool} {s t close x y : String}
    (hs : ∀ c ∈ s.toList, p c = true) (ht : ∀ c ∈ t.toList, p c = true)
    (closes : ∃ c ∈ close.toList.head?, p c = false) :
    s ++ (close ++ x) = t ++ (close ++ y) ↔ s = t ∧ x = y := by
  have cut {r z : String} (inside : ∀ c ∈ r.toList, p c = true) :
      (r ++ (close ++ z)).toList.takeWhile p = r.toList := by
    rw [String.toList_append]
    apply takeWhile_append_of_stop inside
    obtain ⟨mark, first, outside⟩ := closes
    rw [head?_append_of_head? first]
    rintro c ⟨⟩
    exact outside
  constructor
  · intro same
    have front : s.toList = t.toList := by rw [← cut hs, same, cut ht]
    obtain rfl := String.toList_inj.mp front
    rw [String.append_right_inj, String.append_right_inj] at same
    exact ⟨rfl, same⟩
  · rintro ⟨rfl, rfl⟩
    rfl

theorem forall_bne_of_not_mem {mark : Char} {cs : List Char} (absent : mark ∉ cs) :
    ∀ c ∈ cs, (c != mark) = true := by
  intro c member
  rw [bne_iff_ne]
  rintro rfl
  exact absent member

theorem append_mark_inj {mark : Char} {s t close x y : String} (hs : mark ∉ s.toList)
    (ht : mark ∉ t.toList) (closes : close.toList.head? = some mark) :
    s ++ (close ++ x) = t ++ (close ++ y) ↔ s = t ∧ x = y :=
  append_closing_inj (forall_bne_of_not_mem hs) (forall_bne_of_not_mem ht)
    ⟨mark, closes, by simp⟩

theorem append_last_mark_inj {mark : Char} {s t opening x y : String} (hs : mark ∉ s.toList)
    (ht : mark ∉ t.toList) (opens : opening.toList = [mark]) :
    x ++ (opening ++ s) = y ++ (opening ++ t) ↔ x = y ∧ s = t := by
  have cut {r z : String} (absent : mark ∉ r.toList) :
      ((z ++ (opening ++ r)).toList.reverse.takeWhile (· != mark)).reverse = r.toList := by
    have backward : (z ++ (opening ++ r)).toList.reverse =
        r.toList.reverse ++ mark :: z.toList.reverse := by simp [opens]
    have others := forall_bne_of_not_mem (mt List.mem_reverse.mp absent)
    rw [backward, takeWhile_append_of_stop others (by simp), List.reverse_reverse]
  constructor
  · intro same
    have back : s.toList = t.toList := by rw [← cut hs, same, cut ht]
    obtain rfl := String.toList_inj.mp back
    exact ⟨(String.append_left_inj _).mp same, rfl⟩
  · rintro ⟨rfl, rfl⟩
    rfl

theorem append_mark_ne_append_mark {a b : Char} {left right s t x y : String} (other : a ≠ b)
    (hs : b ∉ s.toList) (ht : a ∉ t.toList) (opens : left.toList = [a])
    (opens' : right.toList = [b]) : x ++ (left ++ s) ≠ y ++ (right ++ t) := by
  intro same
  have written := congrArg String.toList same
  simp only [String.toList_append, opens, opens', List.singleton_append] at written
  rcases List.append_eq_append_iff.mp written with ⟨between, -, behind⟩ | ⟨between, -, behind⟩
  · have member : b ∈ a :: s.toList := by simp [behind]
    exact (List.mem_cons.mp member).elim other.symm hs
  · have member : a ∈ b :: t.toList := by simp [behind]
    exact (List.mem_cons.mp member).elim other ht

/-! ## Values -/

def SelfDelimiting {α : Type} (write : α → String) : Prop :=
  ∀ ⦃a b x y⦄, write a ++ x = write b ++ y → a = b ∧ x = y

/-- Values of one kind end by themselves, and others need not. -/
def SelfDelimitingOn {α : Type} (kind : α → Prop) (write : α → String) : Prop :=
  ∀ ⦃a b x y⦄, kind a → kind b → write a ++ x = write b ++ y → a = b ∧ x = y

section Values
variable {α : Type} {write : α → String}

namespace SelfDelimitingOn

variable {kind : α → Prop}

theorem append_inj (delimited : SelfDelimitingOn kind write) {a b : α} (ha : kind a)
    (hb : kind b) {x y : String} : write a ++ x = write b ++ y ↔ a = b ∧ x = y := by
  refine ⟨fun same => delimited ha hb same, ?_⟩
  rintro ⟨rfl, rfl⟩
  rfl

theorem join_append_inj (delimited : SelfDelimitingOn kind write) {close : String}
    (apart : ∀ a x y, write a ++ x ≠ close ++ y) {as bs : List α} (has : ∀ a ∈ as, kind a)
    (hbs : ∀ b ∈ bs, kind b) {x y : String} :
    String.join (as.map write) ++ (close ++ x) = String.join (bs.map write) ++ (close ++ y) ↔
      as = bs ∧ x = y := by
  induction as generalizing bs with
  | nil =>
      cases bs with
      | nil => simp
      | cons b bs =>
          rw [List.map_cons, String.join_cons, String.append_assoc]
          simpa using (apart b _ _).symm
  | cons a as ih =>
      cases bs with
      | nil =>
          rw [List.map_cons, String.join_cons, String.append_assoc]
          simpa using apart a _ _
      | cons b bs =>
          obtain ⟨ha, has⟩ := List.forall_mem_cons.mp has
          obtain ⟨hb, hbs⟩ := List.forall_mem_cons.mp hbs
          rw [List.map_cons, List.map_cons, String.join_cons, String.join_cons,
            String.append_assoc, String.append_assoc, delimited.append_inj ha hb, ih has hbs,
            List.cons_eq_cons, and_assoc]

end SelfDelimitingOn

namespace SelfDelimiting

theorem on (delimited : SelfDelimiting write) : SelfDelimitingOn (fun _ => True) write :=
  fun _ _ _ _ _ _ same => delimited same

theorem append_inj (delimited : SelfDelimiting write) {a b : α} {x y : String} :
    write a ++ x = write b ++ y ↔ a = b ∧ x = y :=
  delimited.on.append_inj trivial trivial

theorem join_append_inj (delimited : SelfDelimiting write) {close : String}
    (apart : ∀ a x y, write a ++ x ≠ close ++ y) {as bs : List α} {x y : String} :
    String.join (as.map write) ++ (close ++ x) = String.join (bs.map write) ++ (close ++ y) ↔
      as = bs ∧ x = y :=
  delimited.on.join_append_inj apart (fun _ _ => trivial) (fun _ _ => trivial)

end SelfDelimiting

end Values

/-! ## Numbers -/

namespace Decimal

def isSignOrDigit (c : Char) : Bool := c = '-' || c.isDigit

theorem integer_append_inj {i j : Int} {close x y : String}
    (closes : ∃ c ∈ close.toList.head?, isSignOrDigit c = false) :
    integer i ++ (close ++ x) = integer j ++ (close ++ y) ↔ i = j ∧ x = y := by
  have inside (i : Int) : ∀ c ∈ (integer i).toList, isSignOrDigit c = true := by
    intro c member
    rcases sign_or_digit_of_mem_integer member with rfl | digit
    · rfl
    · simp [isSignOrDigit, digit]
  rw [append_closing_inj (inside i) (inside j) closes, integer_injective.eq_iff]

theorem value_zeros_append (k : Nat) (cs : List Char) :
    value (List.replicate k '0' ++ cs) = value cs := by
  induction k with
  | zero => rfl
  | succ k ih => exact ih

theorem padded_injective (width : Nat) : Function.Injective (padded width) := by
  intro m n same
  have filled := congrArg value (String.ofList_inj.mp same)
  rwa [List.leftpad, List.leftpad, value_zeros_append, value_zeros_append, value_digits,
    value_digits] at filled

theorem length_digits_le {width n : Nat} (nonempty : 0 < width) (fits : n < 10 ^ width) :
    (digits n).length ≤ width := by
  fun_induction digits n generalizing width with
  | case1 n small => exact nonempty
  | case2 n large ih =>
      cases width with
      | zero => contradiction
      | succ width =>
          rw [Nat.pow_succ] at fits
          have further : 0 < width := Nat.pos_of_ne_zero fun zero => by
            rw [zero] at fits
            omega
          rw [List.length_append, List.length_singleton]
          exact Nat.succ_le_succ (ih further (by omega))

theorem length_padded {width n : Nat} (nonempty : 0 < width) (fits : n < 10 ^ width) :
    (padded width n).toList.length = width := by
  rw [padded, String.toList_ofList, List.length_leftpad,
    Nat.max_eq_left (length_digits_le nonempty fits)]

theorem padded_selfDelimiting {width : Nat} (nonempty : 0 < width) :
    SelfDelimitingOn (· < 10 ^ width) (padded width) := by
  intro m n x y hm hn same
  have written := congrArg String.toList same
  rw [String.toList_append, String.toList_append] at written
  have length : (padded width m).toList.length = (padded width n).toList.length := by
    rw [length_padded nonempty hm, length_padded nonempty hn]
  obtain ⟨front, back⟩ := List.append_inj written length
  exact ⟨padded_injective width (String.toList_inj.mp front), String.toList_inj.mp back⟩

end Decimal

end CanvasAlbum.Text
