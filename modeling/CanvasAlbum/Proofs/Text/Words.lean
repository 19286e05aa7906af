import CanvasAlbum.Proofs.Text.Decimal
import CanvasAlbum.Text.Basic

namespace CanvasAlbum.Text

def IsToken (token : String) : Prop := token ≠ "" ∧ ∀ c ∈ token.toList, isBlank c = false

instance (token : String) : Decidable (IsToken token) :=
  decidable_of_iff (token ≠ "" ∧ (token.toList.all fun c => !isBlank c) = true) (by simp [IsToken])

theorem not_mem_of_mem_splitOnP {α : Type} {p : α → Bool} {as piece : List α}
    (member : piece ∈ as.splitOnP p) : ∀ a ∈ piece, p a = false := by
  induction as generalizing piece with
  | nil =>
      rw [List.splitOnP_nil, List.mem_singleton] at member
      simp [member]
  | cons a as ih =>
      rw [List.splitOnP_cons_eq_if_modifyHead] at member
      obtain ⟨first, later, cut⟩ := List.exists_cons_of_ne_nil (List.splitOnP_ne_nil p as)
      rw [cut] at ih member
      split at member
      · rcases List.mem_cons.mp member with rfl | old
        · simp
        · exact ih old
      · rename_i inside
        -- The first piece has grown by `a`; the others are as they were.
        rw [List.modifyHead_cons] at member
        rcases List.mem_cons.mp member with rfl | old
        · exact List.forall_mem_cons.mpr ⟨eq_false_of_ne_true inside, ih List.mem_cons_self⟩
        · exact ih (List.mem_cons_of_mem first old)

theorem words_nil : words [] = [] := rfl

theorem words_append_blank {c : Char} (blank : isBlank c = true) (before after : List Char) :
    words (before ++ c :: after) = words before ++ words after := by
  unfold words
  rw [List.splitOnP_append_cons before after blank, List.filter_append]

theorem mem_words {cs word : List Char} (member : word ∈ words cs) :
    word ≠ [] ∧ ∀ c ∈ word, isBlank c = false := by
  obtain ⟨piece, nonempty⟩ := List.mem_filter.mp member
  exact ⟨of_decide_eq_true nonempty, not_mem_of_mem_splitOnP piece⟩

theorem isToken_of_mem_tokens {line token : String} (member : token ∈ tokens line) :
    IsToken token := by
  obtain ⟨word, inLine, rfl⟩ := List.mem_map.mp member
  obtain ⟨nonempty, plain⟩ := mem_words inLine
  exact ⟨by simpa using nonempty, by simpa using plain⟩

def IsGap (gap : String) : Prop := ∀ c ∈ gap.toList, isBlank c = true

instance (gap : String) : Decidable (IsGap gap) :=
  decidable_of_iff (gap.toList.all isBlank = true) List.all_eq_true

theorem words_gap_append {gap : List Char} (blank : ∀ c ∈ gap, isBlank c = true)
    (cs : List Char) : words (gap ++ cs) = words cs := by
  induction gap with
  | nil => rfl
  | cons c gap ih =>
      obtain ⟨first, rest⟩ := List.forall_mem_cons.mp blank
      rw [← ih rest]
      exact words_append_blank first [] (gap ++ cs)

theorem words_of_word {word : List Char} (nonempty : word ≠ [])
    (plain : ∀ c ∈ word, isBlank c = false) : words word = [word] := by
  rw [words, List.splitOnP_eq_singleton plain]
  simp [nonempty]

theorem tokens_empty : tokens "" = [] := rfl

theorem tokens_gap_append {gap : String} (blank : IsGap gap) (line : String) :
    tokens (gap ++ line) = tokens line := by
  rw [tokens, String.toList_append, words_gap_append blank, tokens]

theorem tokens_append_gap_append {gap : String} (blank : IsGap gap) (nonempty : gap ≠ "")
    (before after : String) : tokens (before ++ gap ++ after) = tokens before ++ tokens after := by
  obtain ⟨c, rest, cut⟩ := List.exists_cons_of_ne_nil (mt String.toList_eq_nil_iff.mp nonempty)
  rw [IsGap, cut] at blank
  obtain ⟨first, others⟩ := List.forall_mem_cons.mp blank
  have whole : (before ++ gap ++ after).toList = before.toList ++ c :: (rest ++ after.toList) := by
    simp [cut]
  rw [tokens, whole, words_append_blank first, words_gap_append others, List.map_append]
  rfl

theorem tokens_append_gap {gap : String} (blank : IsGap gap) (line : String) :
    tokens (line ++ gap) = tokens line := by
  by_cases empty : gap = ""
  · rw [empty, String.append_empty]
  · rw [← String.append_empty (s := line ++ gap), tokens_append_gap_append blank empty,
      tokens_empty, List.append_nil]

theorem tokens_of_isToken {token : String} (isToken : IsToken token) : tokens token = [token] := by
  have nonempty : token.toList ≠ [] := mt String.toList_eq_nil_iff.mp isToken.1
  rw [tokens, words_of_word nonempty isToken.2, List.map_singleton, String.ofList_toList]

/-- Tokens in a row, each with a gap behind it. Only the last gap may be empty. -/
inductive Row : List String → String → Prop where
  | nil : Row [] ""
  | last {token gap} (blank : IsGap gap) : Row [token] (token ++ gap)
  | cons {token gap tokens row} (blank : IsGap gap) (apart : gap ≠ "") (rest : Row tokens row) :
      Row (token :: tokens) (token ++ gap ++ row)

def Spaced (tokens : List String) (line : String) : Prop :=
  ∃ gap row, IsGap gap ∧ Row tokens row ∧ line = gap ++ row

theorem tokens_of_row {row : List String} {line : String} (stands : Row row line)
    (isToken : ∀ token ∈ row, IsToken token) : tokens line = row := by
  induction stands with
  | nil => exact tokens_empty
  | last blank =>
      rw [tokens_append_gap blank, tokens_of_isToken (isToken _ List.mem_cons_self)]
  | cons blank apart _ ih =>
      obtain ⟨here, later⟩ := List.forall_mem_cons.mp isToken
      rw [tokens_append_gap_append blank apart, tokens_of_isToken here, ih later,
        List.singleton_append]

theorem row_intercalate (row : List String) : Row row (" ".intercalate row) := by
  induction row with
  | nil =>
      rw [String.intercalate_nil]
      exact .nil
  | cons token rest ih =>
      cases rest with
      | nil =>
          have alone : Row [token] (token ++ "") := .last (by decide)
          rw [String.append_empty] at alone
          rwa [String.intercalate_singleton]
      | cons next rest =>
          rw [String.intercalate_cons_cons]
          exact .cons (by decide) (by decide) ih

theorem exists_spaced (row : List String) : ∃ line, Spaced row line :=
  ⟨_, "", " ".intercalate row, by decide, row_intercalate row, rfl⟩

theorem tokens_of_spaced {row : List String} {line : String} (spaced : Spaced row line)
    (isToken : ∀ token ∈ row, IsToken token) : tokens line = row := by
  obtain ⟨gap, rest, blank, stands, rfl⟩ := spaced
  rw [tokens_gap_append blank, tokens_of_row stands isToken]

theorem tokens_map {f : Char → Char} (blank : ∀ c, isBlank (f c) = isBlank c)
    (plain : ∀ c, isBlank c = false → f c = c) (line : String) :
    tokens (line.map f) = tokens line := by
  have cut (cs : List Char) : (cs.map f).splitOnP isBlank = cs.splitOnP isBlank := by
    induction cs with
    | nil => rfl
    | cons c cs ih =>
        rw [List.map_cons, List.splitOnP_cons_eq_if_modifyHead, blank, ih,
          List.splitOnP_cons_eq_if_modifyHead]
        split
        · rfl
        · rename_i inside
          rw [plain c (eq_false_of_ne_true inside)]
  rw [tokens, String.toList_map, words, cut, tokens, words]

def OneLine (text : String) : Prop := '\n' ∉ text.toList

instance (text : String) : Decidable (OneLine text) :=
  inferInstanceAs (Decidable ('\n' ∉ text.toList))

@[simp] theorem oneLine_append {s t : String} : OneLine (s ++ t) ↔ OneLine s ∧ OneLine t := by
  simp [OneLine]

@[simp] theorem oneLine_padded (width n : Nat) : OneLine (Decimal.padded width n) :=
  Decimal.not_mem_padded rfl

@[simp] theorem oneLine_natural (n : Nat) : OneLine (Decimal.natural n) :=
  Decimal.not_mem_natural rfl

theorem IsToken.oneLine {token : String} (isToken : IsToken token) : OneLine token := by
  intro newline
  have plain := isToken.2 '\n' newline
  contradiction

theorem oneLine_intercalate {sep : String} {texts : List String} (between : OneLine sep)
    (all : ∀ text ∈ texts, OneLine text) : OneLine (sep.intercalate texts) := by
  induction texts with
  | nil =>
      rw [String.intercalate_nil]
      decide
  | cons first rest ih =>
      obtain ⟨here, later⟩ := List.forall_mem_cons.mp all
      cases rest with
      | nil => rwa [String.intercalate_singleton]
      | cons second rest =>
          rw [String.intercalate_cons_cons, oneLine_append, oneLine_append]
          exact ⟨⟨here, between⟩, ih later⟩

end CanvasAlbum.Text
