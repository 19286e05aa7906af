import CanvasAlbum.Album
import CanvasAlbum.Proofs.Capture.Freshness

namespace CanvasAlbum

def Operation.captures : Operation → Bool
  | snapshot _ => true
  | _ => false

namespace Canvas

def carryOut (c : Canvas) : Operation → Except Refusal Canvas
  | .create blueprint => Shape.ofBlueprint blueprint >>= c.add
  | .move name position => c.move name position
  | .resize name extent => c.resize name extent
  | .recolor name color => c.recolor name color
  | .remove name => (c.remove name).map (·.2)
  | .snapshot _ => .ok c

def obey (c : Canvas) (operation : Operation) : Canvas :=
  match c.carryOut operation with
  | .ok next => next
  | .error _ => c

def replay (c : Canvas) (operations : List Operation) : Canvas := operations.foldl obey c

theorem obey_of_captures (c : Canvas) {operation : Operation} (captures : operation.captures) :
    c.obey operation = c := by
  cases operation <;> first | contradiction | rfl

@[simp] theorem replay_concat (c : Canvas) (operations : List Operation) (operation : Operation) :
    c.replay (operations ++ [operation]) = (c.replay operations).obey operation := by
  simp [replay]

theorem replay_drawing (c : Canvas) (operations : List Operation) :
    c.replay (operations.filter fun operation => !operation.captures) = c.replay operations := by
  induction operations generalizing c with
  | nil => rfl
  | cons operation rest ih =>
      cases captures : operation.captures with
      | true =>
          rw [List.filter_cons_of_neg (by simp [captures]), ih]
          simp only [replay, List.foldl_cons, obey_of_captures c captures]
      | false =>
          rw [List.filter_cons_of_pos (by simp [captures])]
          exact ih (c.obey operation)

end Canvas

namespace Album

theorem settle_canvas (a : Album) (result : Except Refusal Canvas) :
    (a.settle result).2.canvas = match result with | .ok next => next | .error _ => a.canvas := by
  cases result <;> rfl

@[simp] theorem settle_history (a : Album) (result : Except Refusal Canvas) :
    (a.settle result).2.history = a.history := by
  cases result <;> rfl

theorem settle_of_error (a : Album) {result : Except Refusal Canvas} {cause : Refusal}
    (refused : (a.settle result).1 = .error cause) : (a.settle result).2 = a := by
  cases result with
  | ok next => contradiction
  | error other => rfl

theorem perform_drawing (sources : Sources) (a : Album) {operation : Operation}
    (drawing : operation.captures = false) :
    a.perform sources operation = a.settle (a.canvas.carryOut operation) := by
  cases operation <;> first | contradiction | rfl

theorem capture_of_nonempty (sources : Sources) (a : Album) (description : String)
    (nonempty : a.canvas.isEmpty = false) :
    a.capture sources description =
      (.ok (), { a with
        history := a.history.afterCapture sources description a.canvas.shapes }) := by
  have frozen : a.canvas.capture (a.history.issueStamp sources).1 description =
      .ok (.ofStamp (a.history.issueStamp sources).1 description a.canvas.shapes) := by
    simp [Canvas.capture, nonempty]
  have recorded := History.record_issueStamp sources a.history description a.canvas.shapes
  simp only [capture, frozen, bind, Except.bind, recorded]

theorem perform_snapshot (sources : Sources) (a : Album) (description : String) :
    a.perform sources (.snapshot description) =
      if a.canvas.isEmpty then (.error .nothingToCapture, a)
      else (.ok (), { a with
        history := a.history.afterCapture sources description a.canvas.shapes }) := by
  cases empty : a.canvas.isEmpty with
  | true => simp [perform, empty]
  | false => simp [perform, empty, capture_of_nonempty]

theorem perform_of_error (sources : Sources) (a : Album) {operation : Operation} {cause : Refusal}
    (refused : (a.perform sources operation).1 = .error cause) :
    (a.perform sources operation).2 = a := by
  cases captures : operation.captures with
  | false =>
      rw [perform_drawing sources a captures] at refused ⊢
      exact a.settle_of_error refused
  | true =>
      cases operation <;> try contradiction
      rw [perform_snapshot] at refused ⊢
      cases empty : a.canvas.isEmpty with
      | true => simp
      | false => simp [empty] at refused

@[simp] theorem perform_canvas (sources : Sources) (a : Album) (operation : Operation) :
    (a.perform sources operation).2.canvas = a.canvas.obey operation := by
  cases captures : operation.captures with
  | false =>
      rw [perform_drawing sources a captures, settle_canvas]
      rfl
  | true =>
      rw [Canvas.obey_of_captures _ captures]
      cases operation <;> try contradiction
      rw [perform_snapshot]
      split <;> rfl

theorem filterMap_range_succ {α : Type} (f : Nat → Option α) (n : Nat) :
    (List.range (n + 1)).filterMap f = (List.range n).filterMap f ++ (f n).toList := by
  rw [List.range_succ, List.filterMap_append, List.filterMap_cons]
  cases f n <;> rfl

/-- The album after operations one by one, where refused ones are skipped. -/
def after (sources : Sources) (a : Album) (operations : List Operation) : Album :=
  operations.foldl (fun a operation => (a.perform sources operation).2) a

theorem after_cons (sources : Sources) (a : Album) (operation : Operation)
    (rest : List Operation) :
    a.after sources (operation :: rest) = (a.perform sources operation).2.after sources rest := rfl

theorem after_append (sources : Sources) (a : Album) (earlier later : List Operation) :
    a.after sources (earlier ++ later) = (a.after sources earlier).after sources later :=
  List.foldl_append

theorem after_concat (sources : Sources) (a : Album) (operations : List Operation)
    (operation : Operation) :
    a.after sources (operations ++ [operation]) =
      ((a.after sources operations).perform sources operation).2 := by
  simp [after]

theorem after_canvas (sources : Sources) (a : Album) (operations : List Operation) :
    (a.after sources operations).canvas = a.canvas.replay operations := by
  induction operations generalizing a with
  | nil => rfl
  | cons operation rest ih =>
      rw [after_cons, ih, perform_canvas]
      rfl

end Album

end CanvasAlbum
