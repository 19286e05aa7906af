import CanvasAlbum.Proofs.Album.Calls
import CanvasAlbum.Proofs.Capture.Freshness

namespace CanvasAlbum
open Text

/-- How the snapshot `s` at the given place comes by its stamp, if the captures before it have used
up `drawn` suffixes. Behind it `next` are used up. -/
def Stamped (sources : Sources) (place : Nat) (earlier : List Snapshot) (drawn : Nat)
    (s : Snapshot) (next : Nat) : Prop :=
  let time := sources.time place
  let plain (i : Nat) : SnapshotId :=
    ⟨time.sortableText ++ Decimal.natural (sources.suffix (drawn + i)).toNat⟩
  let taken := earlier.map (·.id)
  s.timestamp = time.readableText ∧
    ((∃ i < 100, (∀ k < i, plain k ∈ taken) ∧ plain i ∉ taken ∧ s.id = plain i ∧
        next = drawn + (i + 1)) ∨
      ((∀ i < 100, plain i ∈ taken) ∧
        s.id = ⟨(plain 100).text ++ "-" ++ Decimal.natural place⟩ ∧ next = drawn + 101))

theorem Stamped.id_cases {sources : Sources} {place drawn next : Nat} {earlier : List Snapshot}
    {s : Snapshot} (stamped : Stamped sources place earlier drawn s next) :
    ∃ time suffix, s.id = (Stamp.ofInstant time (Decimal.natural suffix)).id ∨
      s.id = History.tailed (Stamp.ofInstant time (Decimal.natural suffix)).id place := by
  obtain ⟨-, ⟨i, -, -, -, plain, -⟩ | ⟨-, tail, -⟩⟩ := stamped
  · exact ⟨_, _, Or.inl plain⟩
  · exact ⟨_, _, Or.inr tail⟩

namespace History

theorem afterCapture_readings (sources : Sources) (h : History) (description : String)
    (shapes : List Shape) :
    (h.afterCapture sources description shapes).readings = h.readings + 1 :=
  issueStamp_readings sources h

theorem afterCapture_stamped (sources : Sources) {h : History} (readings : h.readings = h.size)
    (free : ∀ time suffix,
      tailed (Stamp.ofInstant time (Decimal.natural suffix)).id h.size ∉ h.ids)
    (description : String) (shapes : List Shape) :
    Stamped sources h.size h.entries h.draws
      (.ofStamp (h.issueStamp sources).1 description shapes)
      (h.afterCapture sources description shapes).draws := by
  have draws : (h.afterCapture sources description shapes).draws =
      (h.issueStamp sources).2.draws := rfl
  rw [draws]
  rcases issueStamp_cases sources h with ⟨i, below, new, earlier, issued⟩ | ⟨taken, issued⟩
  · rw [issued]
    rw [readings] at earlier new ⊢
    exact ⟨rfl, Or.inl ⟨i, below, earlier, new, rfl, rfl⟩⟩
  · have tail := freeTail_of_not_mem
      (free (sources.time h.readings) (sources.suffix (h.draws + suffixTries)).toNat)
    rw [issued]
    simp only [candidate, tail]
    rw [readings] at taken ⊢
    exact ⟨rfl, Or.inr ⟨taken, rfl, rfl⟩⟩

structure Numbered (sources : Sources) (h : History) : Prop where
  readings : h.readings = h.size
  stamped : ∃ drawn : Nat → Nat, drawn 0 = 0 ∧ drawn h.size = h.draws ∧
    ∀ j (below : j < h.entries.length),
      Stamped sources j (h.entries.take j) (drawn j) h.entries[j] (drawn (j + 1))

theorem empty_numbered (sources : Sources) : Numbered sources empty where
  readings := rfl
  stamped := ⟨fun _ => 0, rfl, rfl, fun _ below => absurd below (Nat.not_lt_zero _)⟩

theorem Numbered.tail_free {sources : Sources} {h : History} (numbered : Numbered sources h)
    (time : Instant) (suffix : Nat) :
    tailed (Stamp.ofInstant time (Decimal.natural suffix)).id h.size ∉ h.ids := by
  intro member
  obtain ⟨s, recorded, same⟩ := List.mem_map.mp member
  obtain ⟨j, below, rfl⟩ := List.mem_iff_getElem.mp recorded
  obtain ⟨drawn, -, -, stamped⟩ := numbered.stamped
  -- An id with a tail is none without one, and its tail is a place that is taken already.
  obtain ⟨_, _, plain | tail⟩ := (stamped j below).id_cases
  · rw [plain] at same
    exact tailed_ne_ofInstant same.symm
  · rw [tail] at same
    exact Nat.ne_of_lt below (tail_eq_of_tailed_eq same)

theorem Numbered.afterCapture {sources : Sources} {h : History} (numbered : Numbered sources h)
    (description : String) (shapes : List Shape) :
    Numbered sources (h.afterCapture sources description shapes) := by
  have last := afterCapture_stamped sources numbered.readings numbered.tail_free description shapes
  obtain ⟨drawn, start, finish, stamped⟩ := numbered.stamped
  have size := afterCapture_size sources h description shapes
  -- The counts of suffixes so far are as before, with one more behind them.
  let extended (j : Nat) : Nat :=
    if j ≤ h.size then drawn j else (h.afterCapture sources description shapes).draws
  have before {j : Nat} (within : j ≤ h.size) : extended j = drawn j := if_pos within
  have behind : extended (h.size + 1) = (h.afterCapture sources description shapes).draws :=
    if_neg (Nat.not_succ_le_self h.size)
  refine ⟨by rw [afterCapture_readings, numbered.readings, size], extended, ?_, ?_, ?_⟩
  · rw [before (Nat.zero_le _), start]
  · rw [size, behind]
  · intro j below
    simp only [afterCapture_entries, List.length_append, List.length_singleton] at below ⊢
    rcases Nat.lt_succ_iff_lt_or_eq.mp below with earlier | rfl
    · rw [List.take_append_of_le_length (Nat.le_of_lt earlier),
        List.getElem_append_left earlier, before (Nat.le_of_lt earlier), before earlier]
      exact stamped j earlier
    · rw [List.take_left, List.getElem_concat_length rfl]
      rw [← finish, ← behind, ← before (Nat.le_refl h.size)] at last
      exact last

end History

namespace Album

theorem perform_numbered {sources : Sources} {a : Album} (numbered : a.history.Numbered sources)
    (operation : Operation) : (a.perform sources operation).2.history.Numbered sources := by
  cases captures : operation.captures with
  | false =>
      rw [perform_drawing sources a captures, settle_history]
      exact numbered
  | true =>
      cases operation <;> try contradiction
      rename_i description
      rw [perform_snapshot]
      split
      · exact numbered
      · exact numbered.afterCapture description a.canvas.shapes

theorem after_numbered {sources : Sources} {a : Album} (numbered : a.history.Numbered sources)
    (operations : List Operation) : (a.after sources operations).history.Numbered sources := by
  induction operations generalizing a with
  | nil => exact numbered
  | cons operation rest ih => exact ih (perform_numbered numbered operation)

theorem snapshots_follow_the_clock (sources : Sources) (calls : List Call) :
    let a := empty.afterCalls sources calls
    a.history.readings = a.snapshots.length ∧
    (∃ drawn : Nat → Nat, drawn 0 = 0 ∧ drawn a.snapshots.length = a.history.draws ∧
      ∀ j (below : j < a.snapshots.length),
        Stamped sources j (a.snapshots.take j) (drawn j) a.snapshots[j] (drawn (j + 1))) ∧
    ∀ time suffix,
      History.tailed (Stamp.ofInstant time (Decimal.natural suffix)).id a.snapshots.length ∉
        a.history.ids := by
  intro a
  obtain ⟨operations, same⟩ := afterCalls_eq_after sources empty calls
  have numbered : a.history.Numbered sources := by
    rw [show a = empty.after sources operations from same]
    exact after_numbered (History.empty_numbered sources) operations
  exact ⟨numbered.readings, numbered.stamped, numbered.tail_free⟩

end Album

end CanvasAlbum
