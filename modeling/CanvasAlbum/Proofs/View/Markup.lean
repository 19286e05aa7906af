import CanvasAlbum.Proofs.Text.Unambiguous
import CanvasAlbum.View.Page

namespace CanvasAlbum.Markup
open Text

def isMark (c : Char) : Bool := ['<', '>', '\'', '"'].contains c

def marks (text : String) : String := String.ofList (text.toList.filter isMark)

def entities : List String := ["&amp;", "&lt;", "&gt;", "&quot;", "&#39;"]

theorem escapeChar_cases (c : Char) :
    (∃ entity ∈ entities, escapeChar c = entity.toList) ∨
    (isMark c = false ∧ c ≠ '&' ∧ escapeChar c = [c]) := by
  unfold escapeChar
  split
  · exact Or.inl ⟨"&amp;", by decide, rfl⟩
  · exact Or.inl ⟨"&lt;", by decide, rfl⟩
  · exact Or.inl ⟨"&gt;", by decide, rfl⟩
  · exact Or.inl ⟨"&quot;", by decide, rfl⟩
  · exact Or.inl ⟨"&#39;", by decide, rfl⟩
  · rename_i ampersand opening closing double single
    right
    refine ⟨?_, ampersand, rfl⟩
    simp only [isMark, List.contains_eq_mem, List.mem_cons, List.not_mem_nil, or_false,
      decide_eq_false_iff_not, not_or]
    exact ⟨opening, closing, single, double⟩

@[simp] theorem marks_append (s t : String) : marks (s ++ t) = marks s ++ marks t := by
  simp [marks]

theorem marks_ofList (cs : List Char) :
    marks (String.ofList cs) = String.ofList (cs.filter isMark) := by
  rw [marks, String.toList_ofList]

theorem marks_join {α : Type} (f : α → String) (as : List α) :
    marks (String.join (as.map f)) = String.join (as.map fun a => marks (f a)) := by
  induction as with
  | nil => rfl
  | cons a as ih => simp only [List.map_cons, String.join_cons, marks_append, ih]

theorem marks_eq_empty {text : String} (unmarked : ∀ c ∈ text.toList, isMark c = false) :
    marks text = "" := by
  rw [marks, List.filter_eq_nil_iff.mpr (by simpa using unmarked), String.ofList_nil]

@[simp] theorem marks_escape (text : String) : marks (escape text) = "" := by
  have entity_unmarked : ∀ entity ∈ entities, ∀ c ∈ entity.toList, isMark c = false := by
    simp [entities, isMark]
  apply marks_eq_empty
  intro c member
  rw [escape, String.toList_ofList, List.mem_flatMap] at member
  obtain ⟨d, -, member⟩ := member
  rcases escapeChar_cases d with ⟨entity, known, written⟩ | ⟨plain, -, written⟩
  · rw [written] at member
    exact entity_unmarked entity known c member
  · rw [written, List.mem_singleton] at member
    rwa [member]

def unescapeChars : List Char → List Char
  | [] => []
  | '&' :: 'a' :: 'm' :: 'p' :: ';' :: rest => '&' :: unescapeChars rest
  | '&' :: 'l' :: 't' :: ';' :: rest => '<' :: unescapeChars rest
  | '&' :: 'g' :: 't' :: ';' :: rest => '>' :: unescapeChars rest
  | '&' :: 'q' :: 'u' :: 'o' :: 't' :: ';' :: rest => '"' :: unescapeChars rest
  | '&' :: '#' :: '3' :: '9' :: ';' :: rest => '\'' :: unescapeChars rest
  | c :: rest => c :: unescapeChars rest

theorem unescapeChars_escapeChar (c : Char) (rest : List Char) :
    unescapeChars (escapeChar c ++ rest) = c :: unescapeChars rest := by
  unfold escapeChar
  split
  · rfl
  · rfl
  · rfl
  · rfl
  · rfl
  · rename_i ampersand _ _ _ _
    rw [List.singleton_append, unescapeChars.eq_def]
    split <;> simp_all

theorem unescapeChars_escaped (cs : List Char) :
    unescapeChars (cs.flatMap escapeChar) = cs := by
  induction cs with
  | nil => rfl
  | cons c cs ih => rw [List.flatMap_cons, unescapeChars_escapeChar, ih]

theorem escape_injective : Function.Injective escape := by
  intro s t same
  have written := String.ofList_inj.mp same
  rw [← String.toList_inj, ← unescapeChars_escaped s.toList, written, unescapeChars_escaped]

theorem escape_append_inj {s t close x y : String}
    (closes : ∃ c ∈ close.toList.head?, isMark c = true) :
    escape s ++ (close ++ x) = escape t ++ (close ++ y) ↔ s = t ∧ x = y := by
  have inside (s : String) : ∀ c ∈ (escape s).toList, (!isMark c) = true := by
    have unmarked := congrArg String.toList (marks_escape s)
    simpa [marks] using unmarked
  have ends : ∃ c ∈ close.toList.head?, (!isMark c) = false := by simpa using closes
  rw [append_closing_inj (inside s) (inside t) ends, escape_injective.eq_iff]

def EntitiesOnly (cs : List Char) : Prop :=
  ∀ rest, '&' :: rest <:+ cs → ∃ entity ∈ entities, entity.toList <+: '&' :: rest

theorem entitiesOnly_nil : EntitiesOnly [] := by
  intro rest ampersand
  simp at ampersand

theorem entitiesOnly_cons {c : Char} {cs : List Char} :
    EntitiesOnly (c :: cs) ↔
      (c = '&' → ∃ entity ∈ entities, entity.toList <+: c :: cs) ∧ EntitiesOnly cs := by
  constructor
  · intro only
    refine ⟨?_, fun rest later => only rest (later.trans (List.suffix_cons c cs))⟩
    rintro rfl
    exact only cs List.suffix_rfl
  · rintro ⟨first, later⟩ rest ampersand
    rcases List.suffix_cons_iff.mp ampersand with here | there
    · injection here with same tail
      subst same tail
      exact first rfl
    · exact later rest there

theorem entitiesOnly_of_not_mem {cs : List Char} (absent : '&' ∉ cs) : EntitiesOnly cs :=
  fun _ ampersand => absurd (ampersand.subset List.mem_cons_self) absent

theorem entitiesOnly_ofList {cs : List Char} (absent : '&' ∉ cs) :
    EntitiesOnly (String.ofList cs).toList := by
  rw [String.toList_ofList]
  exact entitiesOnly_of_not_mem absent

theorem EntitiesOnly.append {cs ds : List Char} (first : EntitiesOnly cs)
    (second : EntitiesOnly ds) : EntitiesOnly (cs ++ ds) := by
  induction cs with
  | nil => exact second
  | cons c cs ih =>
      rw [entitiesOnly_cons] at first
      rw [List.cons_append, entitiesOnly_cons]
      refine ⟨fun ampersand => ?_, ih first.2⟩
      obtain ⟨entity, member, starts⟩ := first.1 ampersand
      exact ⟨entity, member, List.prefix_append_of_prefix starts⟩

theorem entitiesOnly_append {s t : String} (first : EntitiesOnly s.toList)
    (second : EntitiesOnly t.toList) : EntitiesOnly (s ++ t).toList := by
  rw [String.toList_append]
  exact first.append second

theorem entitiesOnly_flatMap {α : Type} {f : α → List Char} {as : List α}
    (each : ∀ a ∈ as, EntitiesOnly (f a)) : EntitiesOnly (as.flatMap f) := by
  induction as with
  | nil => exact entitiesOnly_nil
  | cons a as ih =>
      rw [List.flatMap_cons]
      exact (each a List.mem_cons_self).append
        (ih fun b member => each b (List.mem_cons_of_mem a member))

theorem entitiesOnly_join {α : Type} {f : α → String} {as : List α}
    (each : ∀ a ∈ as, EntitiesOnly (f a).toList) :
    EntitiesOnly (String.join (as.map f)).toList := by
  rw [String.toList_join, List.flatMap_map]
  exact entitiesOnly_flatMap each

theorem entitiesOnly_entity {entity : String} (member : entity ∈ entities) :
    EntitiesOnly entity.toList := by
  -- Behind its first character an entity has no ampersand.
  have shape : ∀ entity ∈ entities, ∃ tail, entity.toList = '&' :: tail ∧ '&' ∉ tail := by
    simp [entities]
  obtain ⟨tail, written, single⟩ := shape entity member
  rw [written, entitiesOnly_cons, ← written]
  exact ⟨fun _ => ⟨entity, member, List.prefix_rfl⟩, entitiesOnly_of_not_mem single⟩

theorem entitiesOnly_escape (text : String) : EntitiesOnly (escape text).toList := by
  rw [escape, String.toList_ofList]
  apply entitiesOnly_flatMap
  intro c _
  rcases escapeChar_cases c with ⟨entity, member, written⟩ | ⟨-, other, written⟩
  · rw [written]
    exact entitiesOnly_entity member
  · rw [written]
    exact entitiesOnly_of_not_mem (by simpa using other.symm)

end CanvasAlbum.Markup
