import CanvasAlbum.Proofs.Album.Batches
import CanvasAlbum.Proofs.Album.Moments

/-!
# Albums in use

An album serves calls of four kinds: one operation, one snapshot, a batch, or a script.

* `afterCalls_eq_after`: whatever is called, the album is one that operations leave.
* `call_seenAlike`: albums that differ in stamps alone give the same answer to a call and differ in
  stamps alone afterwards.
* `sources_reach_stamps_alone`: so the clock and the suffixes have no say in anything else.
-/

namespace CanvasAlbum.Album

inductive Call where
  | perform (operation : Operation)
  | takeSnapshot (description : String)
  | performAll (operations : List Operation)
  | performScript (text : String)

inductive Answer where
  | outcome (result : Except Refusal Unit)
  | count (result : Except RunFault Nat)

def call (sources : Sources) (a : Album) : Call → Answer × Album
  | .perform operation => (a.perform sources operation).map .outcome id
  | .takeSnapshot description => (a.takeSnapshot sources description).map .outcome id
  | .performAll operations => (a.performAll sources operations).map .count id
  | .performScript text => (a.performScript sources text).map .count id

def afterCalls (sources : Sources) (a : Album) (calls : List Call) : Album :=
  calls.foldl (fun a c => (a.call sources c).2) a

/-! ## Calls as operations -/

theorem performAll_eq_after (sources : Sources) (a : Album) (operations : List Operation) :
    ∃ carriedOut, carriedOut <+: operations ∧
      (a.performAll sources operations).2 = a.after sources carriedOut := by
  rcases grants_or_firstRefusal sources a operations with grants | ⟨index, _, _, first⟩
  · exact ⟨operations, List.prefix_rfl, by rw [performAll_of_grants grants]⟩
  · exact ⟨operations.take index, List.take_prefix _ _, by rw [performAll_of_firstRefusal first]⟩

theorem call_eq_after (sources : Sources) (a : Album) (c : Call) :
    ∃ carriedOut, (a.call sources c).2 = a.after sources carriedOut := by
  cases c with
  | perform operation => exact ⟨[operation], rfl⟩
  | takeSnapshot description => exact ⟨[.snapshot description], rfl⟩
  | performAll operations =>
      obtain ⟨carriedOut, -, same⟩ := performAll_eq_after sources a operations
      exact ⟨carriedOut, same⟩
  | performScript text =>
      simp only [call, Prod.map_snd, id_eq]
      cases read : Script.read text with
      | ok operations =>
          obtain ⟨carriedOut, -, same⟩ := performAll_eq_after sources a operations
          rw [performScript_of_read sources a read]
          exact ⟨carriedOut, same⟩
      | error fault =>
          rw [performScript_of_not_read sources a read]
          exact ⟨[], rfl⟩

theorem afterCalls_eq_after (sources : Sources) (a : Album) (calls : List Call) :
    ∃ carriedOut, a.afterCalls sources calls = a.after sources carriedOut := by
  induction calls generalizing a with
  | nil => exact ⟨[], rfl⟩
  | cons c rest ih =>
      obtain ⟨first, here⟩ := call_eq_after sources a c
      obtain ⟨later, there⟩ := ih (a.call sources c).2
      refine ⟨first ++ later, ?_⟩
      rw [after_append, ← here, ← there]
      rfl

/-! ## Two albums side by side -/

/-- Albums of which only the stamps may differ. -/
def SeenAlike (a b : Album) : Prop :=
  a.canvas = b.canvas ∧ a.snapshots.map Snapshot.content = b.snapshots.map Snapshot.content

theorem settle_outcome (a : Album) (result : Except Refusal Canvas) :
    (a.settle result).1 = result.map fun _ => () := by
  cases result <;> rfl

theorem perform_outcome_congr (sources₁ sources₂ : Sources) {a b : Album}
    (canvas : a.canvas = b.canvas) (operation : Operation) :
    (a.perform sources₁ operation).1 = (b.perform sources₂ operation).1 := by
  cases captures : operation.captures with
  | false =>
      rw [perform_drawing sources₁ a captures, perform_drawing sources₂ b captures,
        settle_outcome, settle_outcome, canvas]
  | true =>
      cases operation <;> try contradiction
      rw [perform_snapshot, perform_snapshot, canvas]
      split <;> rfl

theorem perform_content (sources : Sources) (a : Album) (operation : Operation) :
    (a.perform sources operation).2.snapshots.map Snapshot.content =
      a.snapshots.map Snapshot.content ++ (a.canvas.moment? operation).toList := by
  obtain ⟨taken, kept, content⟩ := perform_snapshots sources a operation
  rw [kept, List.map_append, ← content]
  cases taken <;> rfl

theorem perform_seenAlike (sources₁ sources₂ : Sources) {a b : Album} (alike : SeenAlike a b)
    (operation : Operation) :
    SeenAlike (a.perform sources₁ operation).2 (b.perform sources₂ operation).2 := by
  obtain ⟨canvas, content⟩ := alike
  constructor
  · rw [perform_canvas, perform_canvas, canvas]
  · rw [perform_content, perform_content, canvas, content]

theorem performFrom_seenAlike (sources₁ sources₂ : Sources) {a b : Album}
    (alike : SeenAlike a b) (done : Nat) (operations : List Operation) :
    (a.performFrom sources₁ done operations).1 = (b.performFrom sources₂ done operations).1 ∧
      SeenAlike (a.performFrom sources₁ done operations).2
        (b.performFrom sources₂ done operations).2 := by
  induction operations generalizing a b done with
  | nil => exact ⟨rfl, alike⟩
  | cons operation rest ih =>
      have same := perform_outcome_congr sources₁ sources₂ alike.1 operation
      cases answer : (a.perform sources₁ operation).1 with
      | ok success =>
          rw [answer] at same
          rw [performFrom_cons_of_ok done rest answer, performFrom_cons_of_ok done rest same.symm]
          exact ih (perform_seenAlike sources₁ sources₂ alike operation) (done + 1)
      | error cause =>
          rw [answer] at same
          rw [performFrom_cons_of_error done rest answer,
            performFrom_cons_of_error done rest same.symm]
          exact ⟨rfl, alike⟩

theorem performScript_seenAlike (sources₁ sources₂ : Sources) {a b : Album}
    (alike : SeenAlike a b) (text : String) :
    (a.performScript sources₁ text).1 = (b.performScript sources₂ text).1 ∧
      SeenAlike (a.performScript sources₁ text).2 (b.performScript sources₂ text).2 := by
  unfold performScript
  cases Script.read text with
  | ok operations => exact performFrom_seenAlike sources₁ sources₂ alike 0 operations
  | error fault => exact ⟨rfl, alike⟩

theorem call_seenAlike (sources₁ sources₂ : Sources) {a b : Album} (alike : SeenAlike a b)
    (c : Call) :
    (a.call sources₁ c).1 = (b.call sources₂ c).1 ∧
      SeenAlike (a.call sources₁ c).2 (b.call sources₂ c).2 := by
  cases c with
  | perform operation =>
      exact ⟨congrArg Answer.outcome (perform_outcome_congr sources₁ sources₂ alike.1 operation),
        perform_seenAlike sources₁ sources₂ alike operation⟩
  | takeSnapshot description =>
      exact ⟨congrArg Answer.outcome
          (perform_outcome_congr sources₁ sources₂ alike.1 (.snapshot description)),
        perform_seenAlike sources₁ sources₂ alike (.snapshot description)⟩
  | performAll operations =>
      have batch := performFrom_seenAlike sources₁ sources₂ alike 0 operations
      exact ⟨congrArg Answer.count batch.1, batch.2⟩
  | performScript text =>
      have script := performScript_seenAlike sources₁ sources₂ alike text
      exact ⟨congrArg Answer.count script.1, script.2⟩

/-! ## Runs side by side -/

def transcript (sources : Sources) (a : Album) : List Call → List (Answer × Album)
  | [] => []
  | c :: rest => a.call sources c :: (a.call sources c).2.transcript sources rest

def sight (entry : Answer × Album) : Answer × Canvas × List (String × List Shape) :=
  (entry.1, entry.2.canvas, entry.2.snapshots.map Snapshot.content)

theorem transcript_sight (sources₁ sources₂ : Sources) {a b : Album} (alike : SeenAlike a b)
    (calls : List Call) :
    (a.transcript sources₁ calls).map sight = (b.transcript sources₂ calls).map sight := by
  induction calls generalizing a b with
  | nil => rfl
  | cons c rest ih =>
      obtain ⟨answer, later⟩ := call_seenAlike sources₁ sources₂ alike c
      rw [transcript, transcript, List.map_cons, List.map_cons, ih later]
      simp only [sight, answer, later.1, later.2]

theorem sources_reach_stamps_alone (sources₁ sources₂ : Sources) (calls : List Call) :
    (empty.transcript sources₁ calls).map sight = (empty.transcript sources₂ calls).map sight :=
  transcript_sight sources₁ sources₂ ⟨rfl, rfl⟩ calls

end CanvasAlbum.Album
