import CanvasAlbum.Proofs.Script.Pieces
import Mathlib.Data.List.Basic

/-!
# Spacing makes no difference

A line is its tokens with blanks around them, and in one way only: the tokens are the maximal runs
of characters that are not blank. So the blanks of a line may be changed as long as its tokens stay
apart, and the line is read as before.

* `tokens_eq_iff`: the tokens of a line are what stands on it with blanks around.
* `tokens_eq_append_cons_iff`: they are its maximal runs, each at its place among the others.
* `join_tokens`: together they are the line without its blanks.
* `tokens_are_maximal_runs`: all of this, and what follows for the reading of a line.
-/

namespace CanvasAlbum
open Text

namespace Text

/-! ## A line is its tokens with blanks around them -/

theorem IsToken.grow {token : String} (isToken : IsToken token) {c : Char}
    (plain : isBlank c = false) : IsToken (String.ofList [c] ++ token) :=
  ⟨by simp, by simpa [plain] using isToken.2⟩

theorem isToken_singleton {c : Char} (plain : isBlank c = false) : IsToken (String.ofList [c]) :=
  ⟨by simp, by simpa using plain⟩

theorem Row.grow {row : List String} {line : String} (stands : Row row line)
    (isToken : ∀ token ∈ row, IsToken token) {c : Char} (plain : isBlank c = false) :
    ∃ longer, (∀ token ∈ longer, IsToken token) ∧ Row longer (String.ofList [c] ++ line) := by
  cases stands with
  | nil =>
      exact ⟨_, List.forall_mem_singleton.mpr (isToken_singleton plain), .last (by decide)⟩
  | last blank =>
      have first := List.forall_mem_singleton.mp isToken
      rw [← String.append_assoc]
      exact ⟨_, List.forall_mem_singleton.mpr (first.grow plain), .last blank⟩
  | cons blank apart rest =>
      obtain ⟨first, others⟩ := List.forall_mem_cons.mp isToken
      rw [← String.append_assoc, ← String.append_assoc]
      exact ⟨_, List.forall_mem_cons.mpr ⟨first.grow plain, others⟩, .cons blank apart rest⟩

theorem Spaced.grow {row : List String} {line : String} (spaced : Spaced row line)
    (isToken : ∀ token ∈ row, IsToken token) (c : Char) :
    ∃ longer, (∀ token ∈ longer, IsToken token) ∧ Spaced longer (String.ofList [c] ++ line) := by
  obtain ⟨gap, rest, blanks, stands, rfl⟩ := spaced
  cases blank : isBlank c with
  | true =>
      have longer : IsGap (String.ofList [c] ++ gap) := by simpa [IsGap, blank] using blanks
      exact ⟨row, isToken, _, rest, longer, stands, String.append_assoc.symm⟩
  | false =>
      by_cases apart : gap = ""
      · obtain ⟨longer, isToken, stands⟩ := stands.grow isToken blank
        refine ⟨longer, isToken, "", _, by decide, stands, ?_⟩
        rw [apart, String.empty_append, String.empty_append]
      · refine ⟨String.ofList [c] :: row, ?_, "", _, by decide, .cons blanks apart stands, ?_⟩
        · exact List.forall_mem_cons.mpr ⟨isToken_singleton blank, isToken⟩
        · rw [String.empty_append, String.append_assoc]

theorem exists_tokens (cs : List Char) :
    ∃ row, (∀ token ∈ row, IsToken token) ∧ Spaced row (String.ofList cs) := by
  induction cs with
  | nil => exact ⟨[], by simp, "", "", by decide, .nil, rfl⟩
  | cons c cs ih =>
      obtain ⟨row, isToken, spaced⟩ := ih
      rw [← List.singleton_append, String.ofList_append]
      exact spaced.grow isToken c

theorem tokens_spaced (line : String) : Spaced (tokens line) line := by
  obtain ⟨row, isToken, spaced⟩ := exists_tokens line.toList
  rw [String.ofList_toList] at spaced
  rwa [tokens_of_spaced spaced isToken]

theorem tokens_eq_iff {line : String} {row : List String} :
    tokens line = row ↔ (∀ token ∈ row, IsToken token) ∧ Spaced row line := by
  constructor
  · rintro rfl
    exact ⟨fun _ => isToken_of_mem_tokens, tokens_spaced line⟩
  · rintro ⟨isToken, spaced⟩
    exact tokens_of_spaced spaced isToken

/-! ## Maximal runs -/

def EndsBlank (text : String) : Prop := ∀ c ∈ text.toList.getLast?, isBlank c = true

def StartsBlank (text : String) : Prop := ∀ c ∈ text.toList.head?, isBlank c = true

/-- `run` stands on a line between `before` and `after`, and it cannot be made longer. -/
structure MaximalRun (line before run after : String) : Prop where
  whole : line = before ++ run ++ after
  isToken : IsToken run
  opens : EndsBlank before
  closes : StartsBlank after

theorem EndsBlank.append {a b : String} (ha : EndsBlank a) (hb : EndsBlank b) :
    EndsBlank (a ++ b) := by
  intro c last
  rw [String.toList_append, List.getLast?_append] at last
  rcases Option.or_eq_some_iff.mp last with behind | ⟨-, front⟩
  · exact hb c behind
  · exact ha c front

theorem IsGap.endsBlank {gap : String} (blank : IsGap gap) : EndsBlank gap :=
  fun c last => blank c (List.mem_of_getLast? last)

theorem IsGap.startsBlank {gap : String} (blank : IsGap gap) : StartsBlank gap :=
  fun c first => blank c (List.mem_of_head? first)

theorem IsGap.endsBlank_behind {gap : String} (blank : IsGap gap) (apart : gap ≠ "")
    (token : String) : EndsBlank (token ++ gap) := by
  intro c last
  rw [String.toList_append,
    List.getLast?_append_of_ne_nil _ (mt String.toList_eq_nil_iff.mp apart)] at last
  exact blank.endsBlank c last

theorem IsGap.startsBlank_before {gap : String} (blank : IsGap gap) (apart : gap ≠ "")
    (rest : String) : StartsBlank (gap ++ rest) := by
  intro c first
  rw [String.toList_append,
    List.head?_append_of_ne_nil _ (mt String.toList_eq_nil_iff.mp apart)] at first
  exact blank.startsBlank c first

theorem Row.split {row : List String} {line : String} (stands : Row row line)
    {earlier later : List String} {run : String} (cut : row = earlier ++ run :: later) :
    ∃ before after, line = before ++ run ++ after ∧ Row earlier before ∧ EndsBlank before ∧
      Spaced later after ∧ StartsBlank after := by
  induction stands generalizing earlier with
  | nil => simp at cut
  | @last token gap blank =>
      obtain ⟨rfl, rfl, rfl⟩ : earlier = [] ∧ run = token ∧ later = [] := by
        cases earlier <;> simp_all
      refine ⟨"", gap, ?_, .nil, by simp [EndsBlank], ⟨gap, "", blank, .nil, ?_⟩,
        blank.startsBlank⟩
      · rw [String.empty_append]
      · rw [String.append_empty]
  | @cons token gap tokens row blank apart rest ih =>
      cases earlier with
      | nil =>
          obtain ⟨rfl, rfl⟩ := List.cons_eq_cons.mp cut
          refine ⟨"", gap ++ row, ?_, .nil, by simp [EndsBlank], ⟨gap, row, blank, rest, rfl⟩,
            blank.startsBlank_before apart row⟩
          rw [String.empty_append, String.append_assoc]
      | cons first earlier =>
          obtain ⟨rfl, below⟩ := List.cons_eq_cons.mp cut
          obtain ⟨before, after, rfl, above, opens, behind, closes⟩ := ih below
          refine ⟨token ++ gap ++ before, after, ?_, .cons blank apart above,
            (blank.endsBlank_behind apart token).append opens, behind, closes⟩
          simp only [String.append_assoc]

theorem tokens_append_of_words {before after : String}
    (cut : words (before.toList ++ after.toList) = words before.toList ++ words after.toList) :
    tokens (before ++ after) = tokens before ++ tokens after := by
  rw [tokens, String.toList_append, cut, List.map_append]
  rfl

theorem EndsBlank.tokens_append {before : String} (opens : EndsBlank before) (after : String) :
    tokens (before ++ after) = tokens before ++ tokens after := by
  apply tokens_append_of_words
  cases last : before.toList.getLast? with
  | none =>
      rw [List.getLast?_eq_none_iff.mp last]
      rfl
  | some c =>
      have blank := opens c last
      obtain ⟨front, whole⟩ := List.getLast?_eq_some_iff.mp last
      rw [whole, List.append_assoc, List.singleton_append, words_append_blank blank,
        words_append_blank blank, words_nil, List.append_nil]

theorem StartsBlank.tokens_append {after : String} (closes : StartsBlank after)
    (before : String) : tokens (before ++ after) = tokens before ++ tokens after := by
  apply tokens_append_of_words
  cases whole : after.toList with
  | nil => rw [List.append_nil, words_nil, List.append_nil]
  | cons c rest =>
      have blank : isBlank c = true := closes c (by rw [whole]; rfl)
      have alone : words (c :: rest) = words rest := words_append_blank blank [] rest
      rw [words_append_blank blank, alone]

theorem MaximalRun.tokens_eq {line before run after : String}
    (maximal : MaximalRun line before run after) :
    tokens line = tokens before ++ run :: tokens after := by
  rw [maximal.whole, maximal.closes.tokens_append, maximal.opens.tokens_append,
    tokens_of_isToken maximal.isToken, List.append_assoc, List.singleton_append]

theorem tokens_eq_append_cons_iff {line run : String} {earlier later : List String} :
    tokens line = earlier ++ run :: later ↔
      ∃ before after, MaximalRun line before run after ∧ tokens before = earlier ∧
        tokens after = later := by
  constructor
  · intro cut
    have isToken : ∀ token ∈ earlier ++ run :: later, IsToken token := by
      rw [← cut]
      exact fun _ => isToken_of_mem_tokens
    obtain ⟨above, onward⟩ := List.forall_mem_append.mp isToken
    obtain ⟨here, below⟩ := List.forall_mem_cons.mp onward
    obtain ⟨gap, rest, blank, stands, rfl⟩ := tokens_spaced line
    obtain ⟨before, after, rfl, front, opens, behind, closes⟩ := stands.split cut
    refine ⟨gap ++ before, after, ⟨?_, here, blank.endsBlank.append opens, closes⟩,
      tokens_of_spaced ⟨gap, before, blank, front, rfl⟩ above, tokens_of_spaced behind below⟩
    simp only [String.append_assoc]
  · rintro ⟨before, after, maximal, rfl, rfl⟩
    exact maximal.tokens_eq

/-! ## Other blanks -/

def withoutBlanks (line : String) : String :=
  String.ofList (line.toList.filter fun c => !isBlank c)

theorem withoutBlanks_append (a b : String) :
    withoutBlanks (a ++ b) = withoutBlanks a ++ withoutBlanks b := by
  simp [withoutBlanks]

theorem IsGap.withoutBlanks_eq {gap : String} (blank : IsGap gap) : withoutBlanks gap = "" := by
  have nothing : (gap.toList.filter fun c => !isBlank c) = [] :=
    List.filter_eq_nil_iff.mpr fun c member => by simp [blank c member]
  rw [withoutBlanks, nothing]

theorem IsToken.withoutBlanks_eq {token : String} (isToken : IsToken token) :
    withoutBlanks token = token := by
  have all : (token.toList.filter fun c => !isBlank c) = token.toList :=
    List.filter_eq_self.mpr fun c member => by simp [isToken.2 c member]
  rw [withoutBlanks, all, String.ofList_toList]

theorem Row.withoutBlanks_eq {row : List String} {line : String} (stands : Row row line)
    (isToken : ∀ token ∈ row, IsToken token) : withoutBlanks line = String.join row := by
  induction stands with
  | nil => rfl
  | last blank =>
      have first := List.forall_mem_singleton.mp isToken
      rw [withoutBlanks_append, blank.withoutBlanks_eq, first.withoutBlanks_eq]
      simp
  | cons blank apart rest ih =>
      obtain ⟨first, others⟩ := List.forall_mem_cons.mp isToken
      rw [withoutBlanks_append, withoutBlanks_append, blank.withoutBlanks_eq,
        first.withoutBlanks_eq, ih others, String.append_empty, String.join_cons]

theorem join_tokens (line : String) : String.join (tokens line) = withoutBlanks line := by
  obtain ⟨gap, rest, blank, stands, whole⟩ := tokens_spaced line
  rw [whole, withoutBlanks_append, blank.withoutBlanks_eq, String.empty_append, ← whole]
  exact (stands.withoutBlanks_eq fun _ => isToken_of_mem_tokens).symm

theorem tokens_intercalate {row : List String} (isToken : ∀ token ∈ row, IsToken token) :
    tokens (" ".intercalate row) = row :=
  tokens_of_row (row_intercalate row) isToken

end Text

namespace Script

theorem tokens_are_maximal_runs :
    (∀ line row, tokens line = row ↔ (∀ token ∈ row, IsToken token) ∧ Spaced row line) ∧
    (∀ line earlier run later, tokens line = earlier ++ run :: later ↔
      ∃ before after, MaximalRun line before run after ∧ tokens before = earlier ∧
        tokens after = later) ∧
    ∀ line, String.join (tokens line) = withoutBlanks line ∧
      tokens (" ".intercalate (tokens line)) = tokens line ∧
      readLine (" ".intercalate (tokens line)) = readLine line := by
  refine ⟨fun _ _ => tokens_eq_iff, fun _ _ _ _ => tokens_eq_append_cons_iff, ?_⟩
  intro line
  have same : tokens (" ".intercalate (tokens line)) = tokens line :=
    tokens_intercalate fun _ => isToken_of_mem_tokens
  exact ⟨join_tokens line, same, readLine_of_tokens_eq same⟩

end Script

end CanvasAlbum
