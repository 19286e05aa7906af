import CanvasAlbum.Proofs.Drawing.Obeying
import Mathlib.Data.List.Find
import Mathlib.Data.List.Induction

/-!
# The canvas after a run, in closed form

A shape comes from the first creation of its name behind the last removal, and each of its parts
from the last operation behind that which sets it.

* `replay_shapes`: the canvas of a run is the list `survivors`, which is read off the operations
  without carrying them out.
* `canvas_closed_form`: the same of an album, whatever snapshots are taken in between, and that a
  shape is settled by the operations on its own name.
-/

namespace CanvasAlbum

def latest {α : Type} (sets? : Operation → Option α) (first : α) (later : List Operation) : α :=
  (later.filterMap sets?).getLastD first

def Blueprint.reviseAll (b : Blueprint) (later : List Operation) : Blueprint := { b with
  position := latest (·.movedTo? b.name) b.position later
  extent := latest (·.resizedTo? b.name) b.extent later
  color := latest (·.recoloredTo? b.name) b.color later }

/-- Whether the `i`-th operation creates a name and none behind it removes that name. -/
def introduces (operations : List Operation) (name : String) (i : Nat) : Bool :=
  operations[i]?.any (·.creates name) && !(operations.drop (i + 1)).any (·.removes name)

/-- The first creation of a name behind its last removal. -/
def birth? (operations : List Operation) (name : String) : Option Nat :=
  (List.range operations.length).find? (introduces operations name)

/-- What stands on the canvas in the end because of the `i`-th operation. -/
def survivorAt? (operations : List Operation) (i : Nat) : Option Shape :=
  match operations[i]? with
  | some (.create blueprint) =>
    if h : blueprint.name ≠ "" ∧ birth? operations blueprint.name = some i then
      some ⟨blueprint.reviseAll (operations.drop (i + 1)), h.1⟩
    else none
  | _ => none

def survivors (operations : List Operation) : List Shape :=
  (List.range operations.length).filterMap (survivorAt? operations)

theorem introduces_iff {operations : List Operation} {name : String} {i : Nat} :
    introduces operations name i = true ↔
      (∃ b, operations[i]? = some (.create b) ∧ b.name = name) ∧
        ∀ j, i < j → operations[j]? ≠ some (.remove name) := by
  have creation : operations[i]?.any (·.creates name) = true ↔
      ∃ b, operations[i]? = some (.create b) ∧ b.name = name := by
    cases met : operations[i]? with
    | none => simp
    | some operation => cases operation <;> simp [Operation.creates]
  have removal : (operations.drop (i + 1)).any (·.removes name) = false ↔
      ∀ j, i < j → operations[j]? ≠ some (.remove name) := by
    rw [List.any_eq_false]
    constructor
    · intro kept j later met
      have member : Operation.remove name ∈ operations.drop (i + 1) := by
        rw [List.mem_iff_getElem?]
        exact ⟨j - (i + 1), by rw [List.getElem?_drop, Nat.add_sub_cancel' later, met]⟩
      simpa [Operation.removes] using kept _ member
    · intro kept operation member
      obtain ⟨k, met⟩ := List.mem_iff_getElem?.mp member
      rw [List.getElem?_drop] at met
      cases operation with
      | remove other =>
          have different : other ≠ name := by
            rintro rfl
            exact kept (i + 1 + k) (by omega) met
          simp [Operation.removes, different]
      | _ => simp [Operation.removes]
  rw [introduces, Bool.and_eq_true, Bool.not_eq_true', creation, removal]

theorem birth?_isSome_iff {operations : List Operation} {name : String} :
    (birth? operations name).isSome = true ↔
      ∃ i : Nat, (∃ b, operations[i]? = some (.create b) ∧ b.name = name) ∧
        ∀ j, i < j → operations[j]? ≠ some (.remove name) := by
  rw [birth?, List.find?_isSome]
  constructor
  · rintro ⟨i, -, introduced⟩
    exact ⟨i, introduces_iff.mp introduced⟩
  · rintro ⟨i, ⟨b, met, named⟩, kept⟩
    obtain ⟨within, -⟩ := List.getElem?_eq_some_iff.mp met
    exact ⟨i, List.mem_range.mpr within, introduces_iff.mpr ⟨⟨b, met, named⟩, kept⟩⟩

/-! ## One more operation -/

theorem latest_concat {α : Type} (sets? : Operation → Option α) (first : α)
    (later : List Operation) (operation : Operation) :
    latest sets? first (later ++ [operation]) =
      (sets? operation).getD (latest sets? first later) := by
  cases set : sets? operation <;> simp [latest, set]

theorem Blueprint.reviseAll_concat (b : Blueprint) (later : List Operation)
    (operation : Operation) :
    b.reviseAll (later ++ [operation]) = (b.reviseAll later).revise operation := by
  simp only [reviseAll, latest_concat]
  rfl

theorem introduces_append (operations : List Operation) (operation : Operation) (name : String)
    {i : Nat} (earlier : i < operations.length) :
    introduces (operations ++ [operation]) name i =
      (introduces operations name i && !operation.removes name) := by
  unfold introduces
  rw [List.getElem?_append_left earlier, List.drop_append_of_le_length earlier, List.any_append]
  simp [Bool.and_assoc]

theorem introduces_length (operations : List Operation) (operation : Operation) (name : String) :
    introduces (operations ++ [operation]) name operations.length = operation.creates name := by
  unfold introduces
  rw [List.getElem?_concat_length, List.drop_eq_nil_of_le (by simp)]
  simp

theorem birth?_concat (operations : List Operation) (operation : Operation) (name : String) :
    birth? (operations ++ [operation]) name =
      if operation.removes name then none
      else (birth? operations name).or
        (if operation.creates name then some operations.length else none) := by
  have last : [operations.length].find? (introduces (operations ++ [operation]) name) =
      if operation.creates name then some operations.length else none := by
    rw [List.find?_singleton, introduces_length]
  unfold birth?
  rw [List.length_append, List.length_singleton, List.range_succ, List.find?_append, last]
  cases removed : operation.removes name with
  | true =>
      have uncreated : operation.creates name = false := by
        cases operation <;> first | rfl | contradiction
      have undone : (List.range operations.length).find?
          (introduces (operations ++ [operation]) name) = none := by
        apply List.find?_range_eq_none.mpr
        intro i earlier
        rw [introduces_append operations operation name earlier, removed]
        simp
      simp [undone, uncreated]
  | false =>
      have same : (List.range operations.length).find?
            (introduces (operations ++ [operation]) name) =
          (List.range operations.length).find? (introduces operations name) := by
        apply List.find?_congr
        intro i member
        rw [introduces_append operations operation name (List.mem_range.mp member), removed]
        simp
      rw [same]
      rfl

theorem birth?_concat_eq_some_iff (operations : List Operation) (operation : Operation)
    (name : String) {i : Nat} (earlier : i < operations.length) :
    birth? (operations ++ [operation]) name = some i ↔
      operation.removes name = false ∧ birth? operations name = some i := by
  rw [birth?_concat]
  cases removed : operation.removes name with
  | true => simp
  | false =>
      cases born : birth? operations name with
      | some k => simp
      | none =>
          have other : operations.length ≠ i := Nat.ne_of_gt earlier
          cases operation.creates name <;> simp [other]

theorem survivorAt?_append (operations : List Operation) (operation : Operation) {i : Nat}
    (earlier : i < operations.length) :
    survivorAt? (operations ++ [operation]) i =
      ((survivorAt? operations i).filter fun s => !operation.removes s.name).map
        (·.revise operation) := by
  unfold survivorAt?
  rw [List.getElem?_append_left earlier]
  cases operations[i]? with
  | none => rfl
  | some made =>
      cases made with
      | create b =>
          simp only [birth?_concat_eq_some_iff operations operation b.name earlier,
            List.drop_append_of_le_length earlier, Blueprint.reviseAll_concat]
          by_cases born : b.name ≠ "" ∧ birth? operations b.name = some i
          · rw [dif_pos born]
            by_cases removed : operation.removes b.name = true
            · have gone : operation.removes (b.reviseAll (operations.drop (i + 1))).name =
                  true := removed
              rw [dif_neg (by simp [removed])]
              simp [Option.filter, gone]
            · rw [Bool.not_eq_true] at removed
              have stays : operation.removes (b.reviseAll (operations.drop (i + 1))).name =
                  false := removed
              rw [dif_pos ⟨born.1, removed, born.2⟩]
              simp only [Option.filter, stays]
              rfl
          · rw [dif_neg born, dif_neg fun both => born ⟨both.1, both.2.2⟩]
            rfl
      | _ => rfl

theorem survivorAt?_length (operations : List Operation) (b : Blueprint) :
    survivorAt? (operations ++ [.create b]) operations.length =
      if h : b.name ≠ "" ∧ birth? operations b.name = none then some ⟨b, h.1⟩ else none := by
  have born : birth? (operations ++ [.create b]) b.name = some operations.length ↔
      birth? operations b.name = none := by
    rw [birth?_concat]
    cases met : birth? operations b.name with
    | none => simp [Operation.removes, Operation.creates]
    | some i =>
        have within : i < operations.length :=
          List.mem_range.mp (List.mem_of_find?_eq_some met)
        simp [Operation.removes, Nat.ne_of_lt within]
  unfold survivorAt?
  rw [List.getElem?_concat_length]
  simp only [born]
  rw [List.drop_eq_nil_of_le (by simp)]
  rfl

theorem survivors_concat (operations : List Operation) (operation : Operation) :
    survivors (operations ++ [operation]) =
      (((survivors operations).filter fun s => !operation.removes s.name).map
        (·.revise operation)) ++
        (survivorAt? (operations ++ [operation]) operations.length).toList := by
  unfold survivors
  rw [List.length_append, List.length_singleton, Album.filterMap_range_succ,
    List.filter_filterMap, List.map_filterMap]
  congr 1
  apply List.filterMap_congr
  intro i member
  exact survivorAt?_append operations operation (List.mem_range.mp member)

/-! ## The run -/

theorem mem_survivors_names {operations : List Operation} {name : String} :
    name ∈ (survivors operations).map (·.name) ↔
      name ≠ "" ∧ (birth? operations name).isSome = true := by
  constructor
  · intro member
    obtain ⟨s, survives, rfl⟩ := List.mem_map.mp member
    obtain ⟨i, -, met⟩ := List.mem_filterMap.mp survives
    refine ⟨s.name_ne_empty, ?_⟩
    unfold survivorAt? at met
    split at met
    · split at met
      · rename_i born
        obtain rfl := Option.some.inj met
        exact Option.isSome_iff_exists.mpr ⟨i, born.2⟩
      · contradiction
    · contradiction
  · rintro ⟨named, born⟩
    obtain ⟨i, born⟩ := Option.isSome_iff_exists.mp born
    have found := List.find?_range_eq_some.mp born
    obtain ⟨⟨b, met, rfl⟩, -⟩ := introduces_iff.mp found.1
    apply List.mem_map.mpr
    refine ⟨⟨b.reviseAll (operations.drop (i + 1)), named⟩, ?_, rfl⟩
    apply List.mem_filterMap.mpr
    refine ⟨i, found.2.1, ?_⟩
    unfold survivorAt?
    rw [met]
    exact dif_pos ⟨named, born⟩

theorem replay_shapes (operations : List Operation) :
    (Canvas.empty.replay operations).shapes = survivors operations := by
  induction operations using List.reverseRecOn with
  | nil => rfl
  | append_singleton operations operation ih =>
      rw [Canvas.replay_concat, Canvas.obey_shapes, survivors_concat, ih]
      congr 2
      cases operation with
      | create b =>
          -- A name that is free and a name without a birth are the same.
          have free : b.name ≠ "" ∧ b.name ∉ (Canvas.empty.replay operations).names ↔
              b.name ≠ "" ∧ birth? operations b.name = none := by
            rw [Canvas.names, ih, mem_survivors_names, ← Option.not_isSome_iff_eq_none]
            tauto
          rw [survivorAt?_length]
          simp only [Canvas.newcomer?, free]
      | _ =>
          unfold survivorAt?
          rw [List.getElem?_concat_length]
          rfl

-- `A` comes back behind `B`, and green 256 is no color to come to.
example :
    (survivors [.create ⟨"A", .rectangle, ⟨0, 0⟩, ⟨1, 1⟩, ⟨0, 0, 0⟩⟩,
        .create ⟨"B", .oval, ⟨0, 0⟩, ⟨1, 1⟩, ⟨0, 0, 0⟩⟩, .remove "A",
        .create ⟨"A", .oval, ⟨5, 5⟩, ⟨1, 1⟩, ⟨0, 0, 0⟩⟩, .move "B" ⟨7, 8⟩,
        .recolor "B" ⟨1, 2, 3⟩, .recolor "B" ⟨0, 256, 0⟩]).map (·.toBlueprint) =
      [⟨"B", .oval, ⟨7, 8⟩, ⟨1, 1⟩, ⟨1, 2, 3⟩⟩, ⟨"A", .oval, ⟨5, 5⟩, ⟨1, 1⟩, ⟨0, 0, 0⟩⟩] := by
  decide

theorem replay_shape?_own (operations : List Operation) (name : String) {c d : Canvas}
    (agree : c.shape? name = d.shape? name) :
    (c.replay operations).shape? name =
      (d.replay (operations.filter (·.target? = some name))).shape? name := by
  induction operations generalizing c d with
  | nil => exact agree
  | cons operation rest ih =>
      by_cases own : operation.target? = some name
      · rw [List.filter_cons_of_pos (by simp [own])]
        exact ih (Canvas.shape?_obey_congr operation agree)
      · rw [List.filter_cons_of_neg (by simp [own])]
        exact ih ((c.shape?_obey_of_other own).trans agree)

theorem canvas_closed_form (sources : Sources) (operations : List Operation) :
    let canvas := (Album.empty.after sources operations).canvas
    (∀ name, name ∈ canvas.names ↔ name ≠ "" ∧
      ∃ i : Nat, (∃ b, operations[i]? = some (.create b) ∧ b.name = name) ∧
        ∀ j, i < j → operations[j]? ≠ some (.remove name)) ∧
    canvas.shapes = survivors operations ∧
    ∀ name, canvas.shape? name =
      (Album.empty.after sources (operations.filter (·.target? = some name))).canvas.shape?
        name := by
  intro canvas
  have shapes : canvas.shapes = survivors operations := by
    rw [← replay_shapes]
    exact congrArg Canvas.shapes (Album.after_canvas sources .empty operations)
  refine ⟨?_, shapes, ?_⟩
  · intro name
    rw [Canvas.names, shapes, mem_survivors_names, birth?_isSome_iff]
  · intro name
    simp only [canvas, Album.after_canvas]
    exact replay_shape?_own operations name rfl

end CanvasAlbum
