import CanvasAlbum.Proofs.Album.Performing
import Mathlib.Data.List.Basic
import Mathlib.Data.List.Induction

namespace CanvasAlbum

def Snapshot.content (s : Snapshot) : String × List Shape := (s.description, s.shapes)

def Canvas.moment? (c : Canvas) : Operation → Option (String × List Shape)
  | .snapshot description => if c.isEmpty then none else some (description, c.shapes)
  | _ => none

/-- What the `i`-th operation captures, by a canvas on which the operations before it have drawn. -/
def momentAt? (operations : List Operation) (i : Nat) : Option (String × List Shape) :=
  operations[i]?.bind
    (Canvas.empty.replay ((operations.take i).filter fun operation => !operation.captures)).moment?

def moments (operations : List Operation) : List (String × List Shape) :=
  (List.range operations.length).filterMap (momentAt? operations)

theorem momentAt?_append (operations : List Operation) (operation : Operation) {i : Nat}
    (earlier : i < operations.length) :
    momentAt? (operations ++ [operation]) i = momentAt? operations i := by
  unfold momentAt?
  rw [List.getElem?_append_left earlier, List.take_append_of_le_length (Nat.le_of_lt earlier)]

theorem momentAt?_length (operations : List Operation) (operation : Operation) :
    momentAt? (operations ++ [operation]) operations.length =
      (Canvas.empty.replay operations).moment? operation := by
  unfold momentAt?
  rw [List.getElem?_concat_length, List.take_left, Canvas.replay_drawing]
  rfl

theorem moments_concat (operations : List Operation) (operation : Operation) :
    moments (operations ++ [operation]) =
      moments operations ++ ((Canvas.empty.replay operations).moment? operation).toList := by
  have before : (List.range operations.length).filterMap
        (momentAt? (operations ++ [operation])) = moments operations := by
    apply List.filterMap_congr
    intro i member
    exact momentAt?_append operations operation (List.mem_range.mp member)
  unfold moments at before ⊢
  rw [List.length_append, List.length_singleton, Album.filterMap_range_succ, before,
    momentAt?_length]

theorem mem_moments {operations : List Operation} {content : String × List Shape}
    (member : content ∈ moments operations) : content.2 ≠ [] ∧ (content.2.map (·.name)).Nodup := by
  obtain ⟨i, -, captured⟩ := List.mem_filterMap.mp member
  obtain ⟨operation, -, captured⟩ := Option.bind_eq_some_iff.mp captured
  cases operation <;> try contradiction
  simp only [Canvas.moment?] at captured
  split at captured
  · contradiction
  · rename_i nonempty
    obtain rfl := Option.some.inj captured
    exact ⟨by simpa [Canvas.isEmpty] using nonempty, Canvas.names_nodup _⟩

namespace Album

theorem perform_snapshots (sources : Sources) (a : Album) (operation : Operation) :
    ∃ taken : Option Snapshot,
      (a.perform sources operation).2.snapshots = a.snapshots ++ taken.toList ∧
      taken.map Snapshot.content = a.canvas.moment? operation := by
  cases captures : operation.captures with
  | false =>
      refine ⟨none, ?_, ?_⟩
      · rw [perform_drawing sources a captures]
        simp [snapshots]
      · cases operation <;> first | contradiction | rfl
  | true =>
      cases operation <;> try contradiction
      rename_i description
      rw [perform_snapshot]
      cases empty : a.canvas.isEmpty with
      | true => exact ⟨none, by simp, by simp [Canvas.moment?, empty]⟩
      | false =>
          refine ⟨some (.ofStamp (a.history.issueStamp sources).1 description a.canvas.shapes),
            ?_, ?_⟩
          · simp [snapshots]
          · simp [Canvas.moment?, empty, Snapshot.content, Snapshot.ofStamp]

theorem snapshots_content (sources : Sources) (operations : List Operation) :
    (empty.after sources operations).snapshots.map Snapshot.content = moments operations := by
  induction operations using List.reverseRecOn with
  | nil => rfl
  | append_singleton operations operation ih =>
      obtain ⟨taken, kept, content⟩ :=
        perform_snapshots sources (empty.after sources operations) operation
      rw [after_canvas] at content
      rw [after_concat, kept, List.map_append, ih, moments_concat]
      congr 1
      rw [show empty.canvas = Canvas.empty from rfl] at content
      rw [← content]
      cases taken <;> rfl

theorem snapshots_prefix (sources : Sources) (a : Album) (operations : List Operation) :
    a.snapshots <+: (a.after sources operations).snapshots := by
  induction operations generalizing a with
  | nil => exact List.prefix_rfl
  | cons operation rest ih =>
      obtain ⟨taken, kept, -⟩ := perform_snapshots sources a operation
      have step : a.snapshots <+: (a.perform sources operation).2.snapshots := by
        rw [kept]
        exact List.prefix_append _ _
      exact step.trans (ih (a.perform sources operation).2)

theorem snapshots_of_drawing (sources : Sources) (a : Album) {operation : Operation}
    (drawing : operation.captures = false) :
    (a.perform sources operation).2.snapshots = a.snapshots := by
  rw [perform_drawing sources a drawing, snapshots, settle_history]
  rfl

theorem snapshots_freeze_their_moment (sources : Sources) (operations : List Operation) :
    let last := empty.after sources operations
    last.snapshots.map Snapshot.content = moments operations ∧
    (∀ i, (empty.after sources (operations.take i)).canvas =
      Canvas.empty.replay ((operations.take i).filter fun operation => !operation.captures)) ∧
    (∀ s ∈ last.snapshots, s.shapes ≠ [] ∧ (s.shapes.map (·.name)).Nodup) ∧
    (∀ later, last.snapshots <+: (empty.after sources (operations ++ later)).snapshots) ∧
    (∀ operation, operation.captures = false →
      (empty.after sources (operations ++ [operation])).snapshots = last.snapshots) ∧
    (empty.after sources (operations.filter fun operation => !operation.captures)).canvas =
      last.canvas := by
  intro last
  refine ⟨snapshots_content sources operations, ?_, ?_, ?_, ?_, ?_⟩
  · intro i
    rw [after_canvas, Canvas.replay_drawing]
    rfl
  · intro s member
    have captured : s.content ∈ moments operations := by
      rw [← snapshots_content sources operations]
      exact List.mem_map_of_mem member
    exact mem_moments captured
  · intro later
    rw [after_append]
    exact snapshots_prefix sources last later
  · intro operation drawing
    rw [after_concat]
    exact snapshots_of_drawing sources last drawing
  · rw [after_canvas, after_canvas, Canvas.replay_drawing]

end Album

end CanvasAlbum
