import CanvasAlbum.Proofs.Album.Calls
import CanvasAlbum.Proofs.Drawing.Obeying
import CanvasAlbum.Proofs.Script.Wording
import CanvasAlbum.Proofs.Text.Words

namespace CanvasAlbum
open Text

namespace Instant

theorem oneLine_yearText (year : Int) : OneLine (yearText year) := by
  have minus : OneLine "-" := by decide
  have plus : OneLine "+" := by decide
  unfold yearText
  split
  · simp [minus]
  · split <;> simp [plus]

theorem oneLine_clockText (t : Instant) : OneLine t.clockText := by
  have colon : OneLine ":" := by decide
  simp [clockText, colon]

theorem oneLine_sortableText (t : Instant) : OneLine t.sortableText := by
  have marks : OneLine "-" ∧ OneLine "T" ∧ OneLine "." := by decide
  simp [sortableText, oneLine_yearText, oneLine_clockText, marks]

theorem oneLine_readableText (t : Instant) : OneLine t.readableText := by
  have marks : OneLine "-" ∧ OneLine " " := by decide
  simp [readableText, oneLine_yearText, oneLine_clockText, marks]

end Instant

namespace History

theorem issueStamp_oneLine (sources : Sources) (h : History) :
    OneLine (h.issueStamp sources).1.id.text ∧ OneLine (h.issueStamp sources).1.timestamp := by
  have dash : OneLine "-" := by decide
  rcases issueStamp_cases sources h with ⟨i, -, -, -, issued⟩ | ⟨-, issued⟩ <;> rw [issued] <;>
    simp [candidate, Stamp.ofInstant, tailed, Instant.oneLine_sortableText,
      Instant.oneLine_readableText, dash]

end History

structure Snapshot.OneLined (s : Snapshot) : Prop where
  id : OneLine s.id.text
  timestamp : OneLine s.timestamp
  description : OneLine s.description
  names : ∀ shape ∈ s.shapes, OneLine shape.name

structure Album.OneLined (a : Album) : Prop where
  names : ∀ name ∈ a.canvas.names, OneLine name
  snapshots : ∀ s ∈ a.snapshots, s.OneLined

theorem Operation.Worded.description {description : String}
    (worded : (snapshot description).Worded) : OneLine description := by
  obtain ⟨tokens, cut, rfl⟩ := worded
  exact oneLine_intercalate (by decide) fun token member => (cut token member).oneLine

theorem Canvas.target_of_mem_names_obey {c : Canvas} {operation : Operation} {name : String}
    (member : name ∈ (c.obey operation).names) :
    operation.target? = some name ∨ name ∈ c.names := by
  by_cases own : operation.target? = some name
  · exact Or.inl own
  · rw [mem_names_iff, shape?_obey_of_other c own, ← mem_names_iff] at member
    exact Or.inr member

namespace Album

theorem empty_oneLined : empty.OneLined where
  names _ member := by cases member
  snapshots _ member := by cases member

theorem perform_oneLined (sources : Sources) {a : Album} (lined : a.OneLined)
    {operation : Operation} (worded : operation.Worded) :
    (a.perform sources operation).2.OneLined where
  names := by
    intro name member
    rw [perform_canvas] at member
    rcases Canvas.target_of_mem_names_obey member with own | old
    · exact (worded.target own).oneLine
    · exact lined.names name old
  snapshots := by
    cases captures : operation.captures with
    | false =>
        rw [snapshots_of_drawing sources a captures]
        exact lined.snapshots
    | true =>
        cases operation <;> try contradiction
        rename_i description
        rw [perform_snapshot]
        split
        · exact lined.snapshots
        · obtain ⟨id, timestamp⟩ := History.issueStamp_oneLine sources a.history
          have taken : (Snapshot.ofStamp (a.history.issueStamp sources).1 description
              a.canvas.shapes).OneLined :=
            ⟨id, timestamp, worded.description,
              fun shape member => lined.names _ (List.mem_map_of_mem member)⟩
          intro s member
          rw [snapshots, History.afterCapture_entries] at member
          rcases List.mem_append.mp member with old | new
          · exact lined.snapshots s old
          · rwa [List.mem_singleton.mp new]

theorem after_oneLined (sources : Sources) {a : Album} (lined : a.OneLined)
    {operations : List Operation} (worded : ∀ operation ∈ operations, operation.Worded) :
    (a.after sources operations).OneLined := by
  induction operations generalizing a with
  | nil => exact lined
  | cons operation rest ih =>
      obtain ⟨here, later⟩ := List.forall_mem_cons.mp worded
      exact ih (perform_oneLined sources lined here) later

theorem performScript_oneLined (sources : Sources) {a : Album} (lined : a.OneLined)
    (text : String) : (a.performScript sources text).2.OneLined := by
  cases read : Script.read text with
  | error fault =>
      rw [performScript_of_not_read sources a read]
      exact lined
  | ok operations =>
      obtain ⟨carriedOut, within, same⟩ := performAll_eq_after sources a operations
      rw [performScript_of_read sources a read, same]
      exact after_oneLined sources lined fun operation member =>
        Script.read_worded read operation (within.subset member)

theorem afterScripts_oneLined (sources : Sources) {a : Album} (lined : a.OneLined)
    (scripts : List String) : (a.afterCalls sources (scripts.map .performScript)).OneLined := by
  induction scripts generalizing a with
  | nil => exact lined
  | cons text rest ih => exact ih (performScript_oneLined sources lined text)

end Album

end CanvasAlbum
