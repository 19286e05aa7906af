import CanvasAlbum.Proofs.Text.Lowercase

namespace CanvasAlbum.Text

def IsCapitalOf (c d : Char) : Prop := 'A' ≤ c ∧ c ≤ 'Z' ∧ d.toNat = c.toNat + 0x20

def SameLetter (c d : Char) : Prop := c = d ∨ IsCapitalOf c d ∨ IsCapitalOf d c

def CaseVariant (s t : String) : Prop := List.Forall₂ SameLetter s.toList t.toList

instance (c d : Char) : Decidable (IsCapitalOf c d) := inferInstanceAs (Decidable (_ ∧ _))

instance (c d : Char) : Decidable (SameLetter c d) := inferInstanceAs (Decidable (_ ∨ _))

instance (s t : String) : Decidable (CaseVariant s t) :=
  inferInstanceAs (Decidable (List.Forall₂ _ _ _))

theorem le_iff_toNat (c d : Char) : c ≤ d ↔ c.toNat ≤ d.toNat := by
  rw [Char.le_def, UInt32.le_iff_toNat_le]
  rfl

theorem toNat_toLower (c : Char) :
    c.toLower.toNat = if 'A' ≤ c ∧ c ≤ 'Z' then c.toNat + 0x20 else c.toNat := by
  have upper : c.isUpper = true ↔ 'A' ≤ c ∧ c ≤ 'Z' := decide_eq_true_iff
  by_cases capital : 'A' ≤ c ∧ c ≤ 'Z'
  · have words : c.val ≥ 'A'.val ∧ c.val ≤ 'Z'.val := capital
    have bound : c.toNat ≤ 'Z'.toNat := (le_iff_toNat c 'Z').mp capital.2
    have last : 'Z'.toNat = 0x5A := rfl
    have added : c.toLower.toNat = (c.toNat + 0x20) % 2 ^ 32 := by
      rw [Char.toLower, dif_pos words]
      exact UInt32.toNat_add ..
    rw [if_pos capital, added]
    omega
  · rw [if_neg capital, Char.toLower_eq_of_not_isUpper (mt upper.mp capital)]

theorem sameLetter_iff {c d : Char} : SameLetter c d ↔ c.toLower = d.toLower := by
  have first : 'A'.toNat = 0x41 := rfl
  have last : 'Z'.toNat = 0x5A := rfl
  rw [← Char.toNat_inj, toNat_toLower, toNat_toLower]
  simp only [SameLetter, IsCapitalOf, ← Char.toNat_inj, le_iff_toNat, first, last]
  split <;> split <;> omega

theorem caseVariant_iff {s t : String} :
    CaseVariant s t ↔ s.toList.map Char.toLower = t.toList.map Char.toLower := by
  have letters : SameLetter = fun c d => c.toLower = d.toLower := by
    funext c d
    exact propext sameLetter_iff
  rw [CaseVariant, letters, ← List.forall₂_eq_eq_eq, List.forall₂_map_left_iff,
    List.forall₂_map_right_iff]

def IsAsciiLetter (c : Char) : Prop :=
  (0x41 ≤ c.toNat ∧ c.toNat ≤ 0x5A) ∨ (0x61 ≤ c.toNat ∧ c.toNat ≤ 0x7A)

theorem IsAsciiLetter.ascii {c : Char} (letter : IsAsciiLetter c) : c.toNat < 0x80 := by
  unfold IsAsciiLetter at letter
  omega

theorem SameLetter.eq_or_letters {c d : Char} (same : SameLetter c d) :
    c = d ∨ (IsAsciiLetter c ∧ IsAsciiLetter d) := by
  have first : 'A'.toNat = 0x41 := rfl
  have last : 'Z'.toNat = 0x5A := rfl
  unfold IsAsciiLetter
  rcases same with rfl | capital | capital
  · exact Or.inl rfl
  all_goals
    simp only [IsCapitalOf, le_iff_toNat, first, last] at capital
    right
    omega

theorem CaseVariant.ascii {s t : String} (variant : CaseVariant s t)
    (ascii : ∀ c ∈ t.toList, c.toNat < 0x80) : ∀ c ∈ s.toList, c.toNat < 0x80 := by
  intro c member
  have lowered : c.toLower ∈ t.toList.map Char.toLower := by
    rw [← caseVariant_iff.mp variant]
    exact List.mem_map_of_mem member
  obtain ⟨d, other, same⟩ := List.mem_map.mp lowered
  rcases (sameLetter_iff.mpr same).eq_or_letters with rfl | ⟨-, letter⟩
  · exact ascii d other
  · exact letter.ascii

theorem SameLetter.lowerChar_eq {c d : Char} (same : SameLetter c d) :
    lowerChar c = lowerChar d := by
  have lowered := sameLetter_iff.mp same
  rcases same.eq_or_letters with rfl | ⟨hc, hd⟩
  · rfl
  · rw [lowerChar_of_ascii hc.ascii, lowerChar_of_ascii hd.ascii, lowered]

theorem SameLetter.sigma_iff {c d : Char} (same : SameLetter c d) :
    c = capitalSigma ↔ d = capitalSigma := by
  have foreign : ¬capitalSigma.toNat < 0x80 := by decide
  rcases same.eq_or_letters with rfl | ⟨hc, hd⟩
  · exact Iff.rfl
  · constructor
    · rintro rfl
      exact absurd hc.ascii foreign
    · rintro rfl
      exact absurd hd.ascii foreign

theorem isCased_of_letter {c : Char} (letter : IsAsciiLetter c) : isCased c = true := by
  have known : (0x41, 0x5A) ∈ casedRanges ∧ (0x61, 0x7A) ∈ casedRanges := by decide
  rw [isCased, Ranges.covers, List.any_eq_true]
  rcases letter with ⟨low, high⟩ | ⟨low, high⟩
  · exact ⟨_, known.1, by simp [low, high]⟩
  · exact ⟨_, known.2, by simp [low, high]⟩

theorem isCaseIgnorable_of_letter {c : Char} (letter : IsAsciiLetter c) :
    isCaseIgnorable c = false := by
  have beside : ∀ range ∈ ignorableRanges,
      range.2 < 0x41 ∨ (0x5A < range.1 ∧ range.2 < 0x61) ∨ 0x7A < range.1 := by decide +kernel
  rw [isCaseIgnorable, Ranges.covers, List.any_eq_false]
  intro range listed
  have apart := beside range listed
  unfold IsAsciiLetter at letter
  simp only [Bool.and_eq_true, decide_eq_true_eq]
  omega

theorem SameLetter.case_eq {c d : Char} (same : SameLetter c d) :
    isCased c = isCased d ∧ isCaseIgnorable c = isCaseIgnorable d := by
  rcases same.eq_or_letters with rfl | ⟨hc, hd⟩
  · exact ⟨rfl, rfl⟩
  · rw [isCased_of_letter hc, isCased_of_letter hd, isCaseIgnorable_of_letter hc,
      isCaseIgnorable_of_letter hd]
    exact ⟨rfl, rfl⟩

theorem startsCased_congr {cs ds : List Char} (same : List.Forall₂ SameLetter cs ds) :
    startsCased cs = startsCased ds := by
  unfold startsCased
  induction same with
  | nil => rfl
  | @cons c d cs ds letter rest ih =>
      obtain ⟨cased, ignorable⟩ := letter.case_eq
      rw [List.dropWhile_cons, List.dropWhile_cons, ignorable]
      by_cases passed : isCaseIgnorable d = true
      · rw [if_pos passed, if_pos passed]
        exact ih
      · rw [if_neg passed, if_neg passed]
        exact cased

theorem lowerBehind_congr {before before' text text' : List Char}
    (behind : List.Forall₂ SameLetter before before')
    (same : List.Forall₂ SameLetter text text') :
    lowerBehind before text = lowerBehind before' text' := by
  induction same generalizing before before' with
  | nil => rfl
  | @cons c d after after' letter rest ih =>
      -- What a sigma becomes hangs on what stands on either side of it, case apart.
      have sigma : lowerSigma before after = lowerSigma before' after' := by
        rw [lowerSigma, startsCased_congr behind, startsCased_congr rest, lowerSigma]
      rw [lowerBehind, lowerBehind, ih (.cons letter behind), sigma, letter.lowerChar_eq]
      simp only [letter.sigma_iff]

theorem lowercase_congr {s t : String} (variant : CaseVariant s t) : lowercase s = lowercase t := by
  rw [lowercase, lowerBehind_congr .nil variant, lowercase]

theorem lowercase_eq_iff_caseVariant {s word : String} (plain : ∀ c ∈ word.toList, IsPlain c)
    (small : word.toList.map Char.toLower = word.toList) :
    lowercase s = word ↔ CaseVariant s word := by
  rw [lowercase_eq_iff plain, caseVariant_iff, small]

end CanvasAlbum.Text
