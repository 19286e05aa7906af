import CanvasAlbum.Proofs.Album.Performing
import Mathlib.Data.List.Basic

namespace CanvasAlbum

def Color.Displayable (c : Color) : Prop :=
  ∀ channel ∈ [c.red, c.green, c.blue], 0 ≤ channel.toInt ∧ channel.toInt ≤ 255

theorem Color.inRange_iff (c : Color) : c.inRange = true ↔ c.Displayable := by
  simp only [inRange, Displayable, List.all_eq_true, Bool.and_eq_true, decide_eq_true_eq,
    Int32.le_iff_toInt_le]
  rfl

instance (c : Color) : Decidable c.Displayable :=
  decidable_of_iff _ c.inRange_iff

namespace Operation

def creates (name : String) : Operation → Bool
  | create blueprint => blueprint.name = name
  | _ => false

def removes (name : String) : Operation → Bool
  | remove other => other = name
  | _ => false

def movedTo? (name : String) : Operation → Option Position
  | move other position => if other = name then some position else none
  | _ => none

def resizedTo? (name : String) : Operation → Option Extent
  | resize other extent => if other = name then some extent else none
  | _ => none

/-- A color that cannot be displayed is as good as none. -/
def recoloredTo? (name : String) : Operation → Option Color
  | recolor other color => if other = name ∧ color.Displayable then some color else none
  | _ => none

end Operation

def Blueprint.revise (b : Blueprint) (operation : Operation) : Blueprint := { b with
  position := (operation.movedTo? b.name).getD b.position
  extent := (operation.resizedTo? b.name).getD b.extent
  color := (operation.recoloredTo? b.name).getD b.color }

def Shape.revise (s : Shape) (operation : Operation) : Shape :=
  ⟨s.toBlueprint.revise operation, s.name_ne_empty⟩

namespace Shape

@[simp] theorem revise_name (s : Shape) (operation : Operation) :
    (s.revise operation).name = s.name := rfl

theorem revise_move (s : Shape) (name : String) (position : Position) :
    s.revise (.move name position) = if s.name = name then s.moveTo position else s := by
  by_cases same : name = s.name <;>
    simp [revise, Blueprint.revise, moveTo, Operation.movedTo?, Operation.resizedTo?,
      Operation.recoloredTo?, same, eq_comm]

theorem revise_resize (s : Shape) (name : String) (extent : Extent) :
    s.revise (.resize name extent) = if s.name = name then s.resize extent else s := by
  by_cases same : name = s.name <;>
    simp [revise, Blueprint.revise, resize, Operation.movedTo?, Operation.resizedTo?,
      Operation.recoloredTo?, same, eq_comm]

theorem revise_recolor (s : Shape) (name : String) {color : Color}
    (displayable : color.Displayable) :
    s.revise (.recolor name color) = if s.name = name then s.recolor color else s := by
  by_cases same : name = s.name <;>
    simp [revise, Blueprint.revise, recolor, Operation.movedTo?, Operation.resizedTo?,
      Operation.recoloredTo?, displayable, same, eq_comm]

theorem revise_recolor_of_not_displayable (s : Shape) (name : String) {color : Color}
    (hidden : ¬color.Displayable) : s.revise (.recolor name color) = s := by
  simp [revise, Blueprint.revise, Operation.movedTo?, Operation.resizedTo?,
    Operation.recoloredTo?, hidden]

theorem revise_of_other (s : Shape) {operation : Operation}
    (other : operation.target? ≠ some s.name) : s.revise operation = s := by
  have unmoved : operation.movedTo? s.name = none := by
    cases operation <;> simp_all [Operation.movedTo?, Operation.target?]
  have unresized : operation.resizedTo? s.name = none := by
    cases operation <;> simp_all [Operation.resizedTo?, Operation.target?]
  have unrecolored : operation.recoloredTo? s.name = none := by
    cases operation <;> simp_all [Operation.recoloredTo?, Operation.target?]
  simp [revise, Blueprint.revise, unmoved, unresized, unrecolored]

end Shape

namespace Canvas

def newcomer? (c : Canvas) : Operation → Option Shape
  | .create blueprint =>
    if h : blueprint.name ≠ "" ∧ blueprint.name ∉ c.names then some ⟨blueprint, h.1⟩ else none
  | _ => none

theorem contains_iff {c : Canvas} {name : String} : c.contains name = true ↔ name ∈ c.names := by
  rw [← Bool.not_eq_false, contains_eq_false_iff, not_not]

theorem map_change_of_absent {c : Canvas} {name : String} (absent : name ∉ c.names)
    (change : Shape → Shape) :
    (c.shapes.map fun s => if s.name = name then change s else s) = c.shapes := by
  conv_rhs => rw [← List.map_id c.shapes]
  apply List.map_congr_left
  intro s member
  have other : s.name ≠ name := fun same => absent (same ▸ List.mem_map_of_mem member)
  rw [if_neg other]
  rfl

theorem obey_change_shapes {c : Canvas} {operation : Operation} {name : String}
    (change : Shape → Shape) (keeps : ∀ s, (change s).name = s.name)
    (asked : c.carryOut operation =
      if c.contains name then .ok (c.modify name change keeps) else .error (.noSuchShape name)) :
    (c.obey operation).shapes = c.shapes.map fun s => if s.name = name then change s else s := by
  unfold obey
  rw [asked]
  cases present : c.contains name with
  | true => rfl
  | false => exact (map_change_of_absent (contains_eq_false_iff.mp present) change).symm

theorem obey_create_shapes (c : Canvas) (b : Blueprint) :
    (c.obey (.create b)).shapes = c.shapes ++ (c.newcomer? (.create b)).toList := by
  by_cases unnamed : b.name = ""
  · simp [obey, carryOut, Shape.ofBlueprint, newcomer?, unnamed, bind, Except.bind]
  · by_cases taken : b.name ∈ c.names
    · simp [obey, carryOut, Shape.ofBlueprint, add, newcomer?, unnamed, taken, bind, Except.bind]
    · simp [obey, carryOut, Shape.ofBlueprint, add, newcomer?, unnamed, taken, bind, Except.bind]

theorem obey_remove_shapes (c : Canvas) (name : String) :
    (c.obey (.remove name)).shapes = c.shapes.filter (·.name ≠ name) := by
  cases found : c.shape? name with
  | some s => simp [obey, carryOut, remove, found, Except.map, erase]
  | none =>
      have absent : ∀ s ∈ c.shapes, decide (s.name ≠ name) = true := by
        intro s member
        simpa using List.find?_eq_none.mp found s member
      rw [List.filter_eq_self.mpr absent]
      simp [obey, carryOut, remove, found, Except.map]

theorem obey_shapes (c : Canvas) (operation : Operation) :
    (c.obey operation).shapes =
      ((c.shapes.filter fun s => !operation.removes s.name).map (·.revise operation)) ++
        (c.newcomer? operation).toList := by
  -- Only a removal filters and only a creation appends; the others change shapes in place.
  have inPlace (change : Shape → Shape) (same : ∀ s, change s = s.revise operation)
      (stays : ∀ name, operation.removes name = false) (adds : c.newcomer? operation = none)
      (changed : (c.obey operation).shapes = c.shapes.map change) :
      (c.obey operation).shapes =
        ((c.shapes.filter fun s => !operation.removes s.name).map (·.revise operation)) ++
          (c.newcomer? operation).toList := by
    simp [changed, adds, stays, funext same]
  cases operation with
  | create b =>
      have unrevised : (fun s : Shape => s.revise (.create b)) = id := rfl
      rw [obey_create_shapes, unrevised, List.map_id]
      simp [Operation.removes]
  | move name position =>
      exact inPlace _ (fun s => (s.revise_move name position).symm) (fun _ => rfl) rfl
        (obey_change_shapes (·.moveTo position) (·.moveTo_name position) rfl)
  | resize name extent =>
      exact inPlace _ (fun s => (s.revise_resize name extent).symm) (fun _ => rfl) rfl
        (obey_change_shapes (·.resize extent) (·.resize_name extent) rfl)
  | recolor name color =>
      by_cases displayable : color.Displayable
      · have inRange := color.inRange_iff.mpr displayable
        exact inPlace _ (fun s => (s.revise_recolor name displayable).symm) (fun _ => rfl) rfl
          (obey_change_shapes (·.recolor color) (·.recolor_name color) (by
            simp only [carryOut, Canvas.recolor, inRange, if_true]))
      · have outOfRange : color.inRange = false := by
          rwa [← Bool.not_eq_true, color.inRange_iff]
        have same : c.obey (.recolor name color) = c := by
          cases present : c.contains name <;>
            simp [obey, carryOut, Canvas.recolor, present, outOfRange]
        exact inPlace id
          (fun s => (s.revise_recolor_of_not_displayable name displayable).symm) (fun _ => rfl) rfl
          (by rw [same, List.map_id])
  | remove name =>
      have unrevised : (fun s : Shape => s.revise (.remove name)) = id := rfl
      rw [obey_remove_shapes, unrevised, List.map_id]
      simp [Operation.removes, newcomer?, eq_comm]
  | snapshot description =>
      exact inPlace id (fun _ => rfl) (fun _ => rfl) rfl (List.map_id _).symm

theorem mem_names_iff {c : Canvas} {name : String} :
    name ∈ c.names ↔ (c.shape? name).isSome = true :=
  contains_iff.symm

theorem find?_filter_removes (shapes : List Shape) (operation : Operation) (name : String) :
    (shapes.filter fun s => !operation.removes s.name).find? (·.name = name) =
      if operation.removes name then none else shapes.find? (·.name = name) := by
  rw [List.find?_filter]
  cases removed : operation.removes name with
  | true =>
      apply List.find?_eq_none.mpr
      intro s _ both
      simp only [Bool.not_eq_true', decide_eq_true_eq] at both
      rw [both.2, removed] at both
      exact absurd both.1 (by decide)
  | false =>
      rw [if_neg (by decide)]
      congr 1
      funext s
      by_cases same : s.name = name <;> simp [same, removed]

theorem shape?_obey (c : Canvas) (operation : Operation) (name : String) :
    (c.obey operation).shape? name =
      ((if operation.removes name then none else c.shape? name).map (·.revise operation)).or
        ((c.newcomer? operation).filter (·.name = name)) := by
  have added : (c.newcomer? operation).toList.find? (fun s => decide (s.name = name)) =
      (c.newcomer? operation).filter (·.name = name) := by
    cases c.newcomer? operation <;> simp [Option.filter]
  unfold shape?
  rw [obey_shapes, List.find?_append, List.find?_map, added]
  exact congrArg (fun found => Option.or (Option.map (·.revise operation) found) _)
    (find?_filter_removes c.shapes operation name)

theorem filter_newcomer?_of_other (c : Canvas) {operation : Operation} {name : String}
    (other : operation.target? ≠ some name) :
    (c.newcomer? operation).filter (·.name = name) = none := by
  cases operation with
  | create b =>
      have foreign : b.name ≠ name := fun same => other (congrArg some same)
      simp only [newcomer?]
      split <;> simp [Option.filter, foreign]
  | _ => rfl

theorem shape?_obey_of_other (c : Canvas) {operation : Operation} {name : String}
    (other : operation.target? ≠ some name) : (c.obey operation).shape? name = c.shape? name := by
  have kept : operation.removes name = false := by
    cases operation <;> simp_all [Operation.removes, Operation.target?]
  have unrevised : (c.shape? name).map (·.revise operation) = c.shape? name := by
    cases found : c.shape? name with
    | none => rfl
    | some s =>
        have named : s.name = name := by simpa using List.find?_some found
        subst named
        exact congrArg some (s.revise_of_other other)
  rw [shape?_obey, kept, if_neg (by decide), filter_newcomer?_of_other c other, unrevised,
    Option.or_none]

theorem shape?_obey_congr {c d : Canvas} {name : String} (operation : Operation)
    (agree : c.shape? name = d.shape? name) :
    (c.obey operation).shape? name = (d.obey operation).shape? name := by
  by_cases own : operation.target? = some name
  · rw [shape?_obey, shape?_obey, agree]
    congr 1
    cases operation with
    | create b =>
        obtain rfl := Option.some.inj own
        have taken : b.name ∈ c.names ↔ b.name ∈ d.names := by
          rw [mem_names_iff, mem_names_iff, agree]
        simp only [newcomer?, taken]
    | _ => rfl
  · rw [shape?_obey_of_other c own, shape?_obey_of_other d own, agree]

end Canvas

end CanvasAlbum
