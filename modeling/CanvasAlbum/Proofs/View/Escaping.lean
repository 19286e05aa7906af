import CanvasAlbum.Proofs.View.Markup

namespace CanvasAlbum.Markup

def unescape (text : String) : String := String.ofList (unescapeChars text.toList)

theorem unescape_escape (text : String) : unescape (escape text) = text := by
  rw [unescape, escape, String.toList_ofList, unescapeChars_escaped, String.ofList_toList]

theorem escape_append (s t : String) : escape (s ++ t) = escape s ++ escape t := by
  simp only [escape, String.toList_append, List.flatMap_append, String.ofList_append]

def Escaped (cs : List Char) : Prop := (∀ c ∈ cs, isMark c = false) ∧ EntitiesOnly cs

theorem escaped_escape (text : String) : Escaped (escape text).toList := by
  have unmarked := congrArg String.toList (marks_escape text)
  refine ⟨?_, entitiesOnly_escape text⟩
  simpa [marks] using unmarked

theorem Escaped.behind {cs rest : List Char} (escaped : Escaped cs) (ends : rest <:+ cs) :
    Escaped rest :=
  ⟨fun c member => escaped.1 c (ends.subset member),
    fun tail ampersand => escaped.2 tail (ampersand.trans ends)⟩

theorem exists_escapeChar_of_entity {entity : String} (known : entity ∈ entities) :
    ∃ c, escapeChar c = entity.toList := by
  simp only [entities, List.mem_cons, List.not_mem_nil, or_false] at known
  rcases known with rfl | rfl | rfl | rfl | rfl
  · exact ⟨'&', rfl⟩
  · exact ⟨'<', rfl⟩
  · exact ⟨'>', rfl⟩
  · exact ⟨'"', rfl⟩
  · exact ⟨'\'', rfl⟩

theorem escapeChar_of_plain {c : Char} (unmarked : isMark c = false) (other : c ≠ '&') :
    escapeChar c = [c] := by
  unfold escapeChar
  split
  · exact absurd rfl other
  · exact absurd unmarked (by decide)
  · exact absurd unmarked (by decide)
  · exact absurd unmarked (by decide)
  · exact absurd unmarked (by decide)
  · rfl

theorem Escaped.exists_eq {cs : List Char} (escaped : Escaped cs) :
    ∃ ds : List Char, ds.flatMap escapeChar = cs := by
  cases cs with
  | nil => exact ⟨[], rfl⟩
  | cons c rest =>
      by_cases ampersand : c = '&'
      · subst ampersand
        obtain ⟨entity, known, tail, split⟩ := escaped.2 rest List.suffix_rfl
        obtain ⟨d, written⟩ := exists_escapeChar_of_entity known
        have shorter : tail.length < ('&' :: rest).length := by
          have long : 0 < (escapeChar d).length := by
            unfold escapeChar
            split <;> simp
          rw [← split, ← written, List.length_append]
          omega
        obtain ⟨ds, behind⟩ := (escaped.behind ⟨entity.toList, split⟩).exists_eq
        refine ⟨d :: ds, ?_⟩
        rw [List.flatMap_cons, behind, written, split]
      · obtain ⟨ds, behind⟩ := (escaped.behind (List.suffix_cons c rest)).exists_eq
        have plain := escapeChar_of_plain (escaped.1 c List.mem_cons_self) ampersand
        refine ⟨c :: ds, ?_⟩
        rw [List.flatMap_cons, behind, plain, List.singleton_append]
termination_by cs.length

theorem exists_escape_eq_iff {text : String} :
    (∃ s, escape s = text) ↔ Escaped text.toList := by
  constructor
  · rintro ⟨s, rfl⟩
    exact escaped_escape s
  · intro escaped
    obtain ⟨ds, written⟩ := escaped.exists_eq
    refine ⟨String.ofList ds, ?_⟩
    rw [escape, String.toList_ofList, written, String.ofList_toList]

theorem forall_unmarked_iff {cs : List Char} :
    (∀ c ∈ cs, isMark c = false) ↔ '<' ∉ cs ∧ '>' ∉ cs ∧ '"' ∉ cs ∧ '\'' ∉ cs := by
  constructor
  · intro unmarked
    have absent {mark : Char} (marked : isMark mark = true) : mark ∉ cs := by
      intro member
      rw [unmarked mark member] at marked
      contradiction
    exact ⟨absent (by decide), absent (by decide), absent (by decide), absent (by decide)⟩
  · rintro ⟨opening, closing, double, single⟩ c member
    simp only [isMark, List.contains_eq_mem, List.mem_cons, List.not_mem_nil, or_false,
      decide_eq_false_iff_not, not_or]
    have other {mark : Char} (absent : mark ∉ cs) : c ≠ mark := by
      rintro rfl
      exact absent member
    exact ⟨other opening, other closing, other single, other double⟩

theorem escaping_is_undone :
    (∀ text, unescape (escape text) = text) ∧ Function.Injective escape ∧
    (∀ s t, escape (s ++ t) = escape s ++ escape t) ∧
    ∀ text, (∃ s, escape s = text) ↔
      ('<' ∉ text.toList ∧ '>' ∉ text.toList ∧ '"' ∉ text.toList ∧ '\'' ∉ text.toList) ∧
        EntitiesOnly text.toList := by
  refine ⟨unescape_escape, escape_injective, escape_append, fun text => ?_⟩
  rw [exists_escape_eq_iff, Escaped, forall_unmarked_iff]

example : escape "&amp;lt;" = "&amp;amp;lt;" ∧ unescape "&amp;amp;lt;" = "&amp;lt;" := by
  decide

end CanvasAlbum.Markup
