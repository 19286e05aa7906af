import CanvasAlbum.Text.Basic

namespace CanvasAlbum.Text.Decimal

theorem digitChar_value {d : Nat} (small : d < 10) : d.digitChar.toNat - '0'.toNat = d := by
  revert d
  decide

theorem value_append_digit (cs : List Char) (c : Char) :
    value (cs ++ [c]) = 10 * value cs + (c.toNat - '0'.toNat) := by
  simp [value]

theorem value_digits (n : Nat) : value (digits n) = n := by
  fun_induction digits n with
  | case1 n small =>
      simpa [value] using digitChar_value small
  | case2 n large ih =>
      rw [value_append_digit, ih, digitChar_value (Nat.mod_lt n (by decide))]
      exact Nat.div_add_mod n 10

theorem digits_ne_nil (n : Nat) : digits n ≠ [] := by
  unfold digits
  split <;> simp

theorem isDigit_of_mem_digits {n : Nat} {c : Char} (member : c ∈ digits n) : c.isDigit = true := by
  fun_induction digits n with
  | case1 n small =>
      rw [List.mem_singleton.mp member, Nat.isDigit_digitChar]
      exact decide_eq_true small
  | case2 n large ih =>
      rcases List.mem_append.mp member with leading | last
      · exact ih leading
      · rw [List.mem_singleton.mp last, Nat.isDigit_digitChar]
        exact decide_eq_true (Nat.mod_lt n (by decide))

theorem not_mem_natural {n : Nat} {c : Char} (other : c.isDigit = false) :
    c ∉ (natural n).toList := by
  rw [natural, String.toList_ofList]
  intro member
  rw [isDigit_of_mem_digits member] at other
  contradiction

theorem isDigit_of_mem_padded {width n : Nat} {c : Char}
    (member : c ∈ (padded width n).toList) : c.isDigit = true := by
  rw [padded, String.toList_ofList, List.leftpad] at member
  rcases List.mem_append.mp member with zero | digit
  · rw [(List.mem_replicate.mp zero).2]
    rfl
  · exact isDigit_of_mem_digits digit

theorem not_mem_padded {width n : Nat} {c : Char} (other : c.isDigit = false) :
    c ∉ (padded width n).toList := by
  intro member
  rw [isDigit_of_mem_padded member] at other
  contradiction

theorem padded_toList_ne_nil (width n : Nat) : (padded width n).toList ≠ [] := by
  rw [padded, String.toList_ofList, List.leftpad]
  exact List.append_ne_nil_of_right_ne_nil _ (digits_ne_nil n)

theorem digits_head (n : Nat) : (digits n).head? = some '0' → n = 0 := by
  fun_induction digits n with
  | case1 n small =>
      revert n
      decide
  | case2 n large ih =>
      intro zero
      rw [List.head?_append, Option.or_of_isSome (by simp [digits_ne_nil])] at zero
      have vanishes := ih zero
      omega

theorem digits_injective : Function.Injective digits := by
  intro m n same
  rw [← value_digits m, ← value_digits n, same]

theorem natural_injective : Function.Injective natural := by
  intro m n same
  exact digits_injective (String.ofList_inj.mp same)

theorem integer_toList (i : Int) :
    (integer i).toList = if i < 0 then '-' :: digits i.natAbs else digits i.natAbs := by
  unfold integer natural
  split <;> simp

theorem integer_injective : Function.Injective integer := by
  have unsigned {m n : Nat} : '-' :: digits m ≠ digits n := by
    intro same
    have digit := isDigit_of_mem_digits (n := n) (c := '-') (by simp [← same])
    contradiction
  intro i j same
  have written := congrArg String.toList same
  rw [integer_toList, integer_toList] at written
  split at written <;> split at written
  · have equal := digits_injective (List.cons.inj written).2
    omega
  · exact absurd written unsigned
  · exact absurd written.symm unsigned
  · have equal := digits_injective written
    omega

theorem integer_toList_ne_nil (i : Int) : (integer i).toList ≠ [] := by
  rw [integer_toList]
  split
  · simp
  · exact digits_ne_nil i.natAbs

theorem sign_or_digit_of_mem_integer {i : Int} {c : Char} (member : c ∈ (integer i).toList) :
    c = '-' ∨ c.isDigit = true := by
  rw [integer_toList] at member
  split at member
  · rcases List.mem_cons.mp member with sign | digit
    · exact Or.inl sign
    · exact Or.inr (isDigit_of_mem_digits digit)
  · exact Or.inr (isDigit_of_mem_digits member)

end CanvasAlbum.Text.Decimal
