import CanvasAlbum.Proofs.Script.Grammar
import CanvasAlbum.Proofs.Text.CaseVariants
import CanvasAlbum.View.Format

namespace CanvasAlbum
open Text

namespace Action

theorem small_keyword (action : Action) :
    action.keyword.toList.map Char.toLower = action.keyword.toList := by
  cases action <;> decide

theorem ofKeyword?_iff_caseVariant {keyword : String} {action : Action} :
    ofKeyword? keyword = some action ↔ CaseVariant keyword action.keyword := by
  rw [ofKeyword?_eq_some_iff, Names, caseVariant_iff, small_keyword]

theorem ofKeyword?_isSome_iff {keyword : String} :
    (ofKeyword? keyword).isSome ↔ ∃ word ∈ all.map Action.keyword, CaseVariant keyword word := by
  have complete (action : Action) : action ∈ all := by cases action <;> decide
  simp only [Option.isSome_iff_exists, ofKeyword?_iff_caseVariant, List.mem_map]
  constructor
  · rintro ⟨action, variant⟩
    exact ⟨action.keyword, ⟨action, complete action, rfl⟩, variant⟩
  · rintro ⟨word, ⟨action, -, rfl⟩, variant⟩
    exact ⟨action, variant⟩

end Action

namespace Format

theorem plain_of_mem_table : ∀ entry ∈ table, (∀ c ∈ entry.1.toList, IsPlain c) ∧
    entry.1.toList.map Char.toLower = entry.1.toList := by
  simp [table, IsPlain]

theorem table_lookup_eq_some_iff {word : String} {format : Format} :
    table.lookup word = some format ↔ (word, format) ∈ table := by
  constructor
  · intro found
    obtain ⟨before, after, split, -⟩ := List.lookup_eq_some_iff.mp found
    rw [split]
    exact List.mem_append_right before List.mem_cons_self
  · intro listed
    have keyed : ∀ entry ∈ table, table.lookup entry.1 = some entry.2 := by decide
    exact keyed _ listed

theorem ofName_eq_ok_iff {asked : String} {format : Format} :
    ofName asked = .ok format ↔ (lowercase asked, format) ∈ table := by
  rw [← table_lookup_eq_some_iff, ofName]
  cases table.lookup (lowercase asked) <;> simp

theorem ofName_eq_ok_iff_caseVariant {asked : String} {format : Format} :
    ofName asked = .ok format ↔ ∃ word, (word, format) ∈ table ∧ CaseVariant asked word := by
  rw [ofName_eq_ok_iff]
  constructor
  · intro listed
    obtain ⟨plain, small⟩ := plain_of_mem_table _ listed
    exact ⟨_, listed, (lowercase_eq_iff_caseVariant plain small).mp rfl⟩
  · rintro ⟨word, listed, variant⟩
    obtain ⟨plain, small⟩ := plain_of_mem_table _ listed
    rwa [(lowercase_eq_iff_caseVariant plain small).mpr variant]

theorem ofName_eq_error_of_unknown {asked : String}
    (unknown : ∀ format, ofName asked ≠ .ok format) :
    ofName asked = .error ⟨lowercase asked⟩ := by
  unfold ofName at unknown ⊢
  cases found : table.lookup (lowercase asked) with
  | none => simp only [found]
  | some format =>
      simp only [found] at unknown
      exact absurd rfl (unknown format)

end Format

theorem not_ascii_of_member {text : String} (outside : ∃ c ∈ text.toList, 0x80 ≤ c.toNat)
    {word : String} (ascii : ∀ c ∈ word.toList, c.toNat < 0x80) : ¬CaseVariant text word := by
  intro variant
  obtain ⟨c, member, large⟩ := outside
  have small := variant.ascii ascii c member
  omega

theorem Action.ofKeyword?_of_not_ascii {text : String}
    (outside : ∃ c ∈ text.toList, 0x80 ≤ c.toNat) : Action.ofKeyword? text = none := by
  apply Option.eq_none_iff_forall_ne_some.mpr
  intro action found
  have ascii : ∀ c ∈ action.keyword.toList, c.toNat < 0x80 :=
    fun c member => (action.plain_of_mem_keyword c member).1
  exact not_ascii_of_member outside ascii (ofKeyword?_iff_caseVariant.mp found)

theorem Format.ofName_of_not_ascii {text : String}
    (outside : ∃ c ∈ text.toList, 0x80 ≤ c.toNat) :
    Format.ofName text = .error ⟨lowercase text⟩ := by
  apply ofName_eq_error_of_unknown
  intro format found
  obtain ⟨word, listed, variant⟩ := ofName_eq_ok_iff_caseVariant.mp found
  have ascii : ∀ c ∈ word.toList, c.toNat < 0x80 :=
    fun c member => ((plain_of_mem_table _ listed).1 c member).1
  exact not_ascii_of_member outside ascii variant

theorem names_vary_in_case_alone :
    (∀ keyword action, Action.ofKeyword? keyword = some action ↔
      CaseVariant keyword action.keyword) ∧
    (∀ keyword, (Action.ofKeyword? keyword).isSome ↔
      ∃ word ∈ ["shape", "move", "resize", "color", "remove", "snapshot"],
        CaseVariant keyword word) ∧
    (∀ name format, Format.ofName name = .ok format ↔
      ∃ word, (word, format) ∈ [("web", Format.web), ("html", Format.web), ("text", Format.text),
        ("txt", Format.text), ("json", Format.json)] ∧ CaseVariant name word) ∧
    (∀ first second, CaseVariant first second →
      Action.ofKeyword? first = Action.ofKeyword? second ∧
        Format.ofName first = Format.ofName second) ∧
    ∀ text : String, (∃ c ∈ text.toList, 0x80 ≤ c.toNat) →
      Action.ofKeyword? text = none ∧ Format.ofName text = .error ⟨lowercase text⟩ := by
  refine ⟨fun _ _ => Action.ofKeyword?_iff_caseVariant, fun _ => Action.ofKeyword?_isSome_iff,
    fun _ _ => Format.ofName_eq_ok_iff_caseVariant, fun first second variant => ?_,
    fun text outside =>
      ⟨Action.ofKeyword?_of_not_ascii outside, Format.ofName_of_not_ascii outside⟩⟩
  rw [Action.ofKeyword?, Format.ofName, lowercase_congr variant, Action.ofKeyword?, Format.ofName]
  exact ⟨rfl, rfl⟩

theorem long_s_is_no_s :
    CaseVariant "JsOn" "json" ∧ Format.ofName "JsOn" = Format.ofName "json" ∧
      (∃ c ∈ "re\u017fize".toList, 0x80 ≤ c.toNat) ∧ Action.ofKeyword? "re\u017fize" = none := by
  obtain ⟨-, -, -, same, outside⟩ := names_vary_in_case_alone
  have variant : CaseVariant "JsOn" "json" := by decide +kernel
  have foreign : ∃ c ∈ "re\u017fize".toList, 0x80 ≤ c.toNat := ⟨'\u017f', by decide, by decide⟩
  exact ⟨variant, (same _ _ variant).2, foreign, (outside _ foreign).1⟩

end CanvasAlbum
