import CanvasAlbum.Capture.History
import CanvasAlbum.Proofs.Capture.Freshness

/-!
# Captures of one instant with counted suffixes

Let the clock stand still and the suffixes be counted. The first hundred captures take one suffix
each. From then on every suffix is taken, and a capture goes once around the counter and one step
further, so the counter again stands where the number of captures puts it.

* `startingAt_stream`: the suffixes of a counter in unbounded integers.
* `InStep.issueStamp`: the next id, from the number of captures alone.
* `counted_ids_tell_their_place`: the ids of any number of captures.
-/

namespace CanvasAlbum
open Text

namespace SuffixCounter

/-! ## The counter -/

theorem suffixLimit_toNat : suffixLimit.toNat = 100 := rfl

theorem next_toNat_lt (c : SuffixCounter) : c.next.toNat < 100 := UInt32.lt_iff_toNat_lt.mp c.next_lt

theorem next_add_one_toNat (c : SuffixCounter) : (c.next + 1).toNat = c.next.toNat + 1 := by
  have small := c.next_toNat_lt
  rw [UInt32.toNat_add, UInt32.toNat_one, Nat.mod_eq_of_lt (by omega)]

theorem advance_toNat (c : SuffixCounter) : c.advance.next.toNat = (c.next.toNat + 1) % 100 := by
  rw [advance, UInt32.toNat_mod, next_add_one_toNat, suffixLimit_toNat]

theorem after_toNat (c : SuffixCounter) (n : Nat) :
    (c.after n).next.toNat = (c.next.toNat + n) % 100 := by
  induction n generalizing c with
  | zero => exact (Nat.mod_eq_of_lt c.next_toNat_lt).symm
  | succ n ih =>
      rw [after, ih, advance_toNat]
      omega

theorem stream_toNat (c : SuffixCounter) (n : Nat) :
    (c.stream n).toNat = (c.next.toNat + n) % 100 := by
  rw [stream, after_toNat, suffixLimit_toNat, Nat.add_mod_mod]

theorem startingAt_stream (start : UInt32) (n : Nat) :
    ((startingAt start).stream n).toNat = (start.toNat + n) % 100 := by
  rw [stream_toNat, startingAt, UInt32.toNat_mod, suffixLimit_toNat, Nat.mod_add_mod]

end SuffixCounter

namespace History

/-! ## One capture -/

/-- A clock that stands still, and a counter. -/
def countedSources (t : Instant) (start : UInt32) : Sources :=
  ⟨fun _ => t, (SuffixCounter.startingAt start).stream⟩

def plainId (t : Instant) (n : Nat) : SnapshotId :=
  (Stamp.ofInstant t (Decimal.natural (n % 100))).id

def countedId (t : Instant) (start : UInt32) (k : Nat) : SnapshotId :=
  if k < 100 then plainId t (start.toNat + k) else tailed (plainId t (start.toNat + k)) k

/-- The ids are as counted, and the counter stands where their number puts it. -/
structure InStep (t : Instant) (start : UInt32) (h : History) : Prop where
  ids : h.ids = (List.range h.size).map (countedId t start)
  draws : h.draws % 100 = h.size % 100

variable {t : Instant} {start : UInt32} {h : History}

theorem plainId_inj {m n : Nat} : plainId t m = plainId t n ↔ m % 100 = n % 100 := by
  simp only [plainId, Stamp.ofInstant, SnapshotId.mk.injEq, String.append_right_inj,
    Decimal.natural_injective.eq_iff]

theorem candidate_counted (clock : Nat → Instant) (start : UInt32) (h : History) (t : Instant)
    (i : Nat) :
    candidate ⟨clock, (SuffixCounter.startingAt start).stream⟩ h t i =
      .ofInstant t (Decimal.natural ((start.toNat + (h.draws + i)) % 100)) := by
  rw [candidate, SuffixCounter.startingAt_stream]

theorem candidate_id (t : Instant) (start : UInt32) (h : History) (i : Nat) :
    (candidate (countedSources t start) h t i).id = plainId t (start.toNat + (h.draws + i)) := by
  rw [countedSources, candidate_counted, plainId]

theorem InStep.mem_ids (inStep : InStep t start h) {id : SnapshotId} :
    id ∈ h.ids ↔ ∃ k < h.size, countedId t start k = id := by
  simp only [inStep.ids, List.mem_map, List.mem_range]

theorem InStep.first_free (inStep : InStep t start h) (few : h.size < 100) :
    (candidate (countedSources t start) h t 0).id ∉ h.ids := by
  have phase := inStep.draws
  rw [candidate_id, inStep.mem_ids]
  rintro ⟨k, below, same⟩
  rw [countedId, if_pos (by omega), plainId_inj] at same
  omega

theorem InStep.taken (inStep : InStep t start h) (many : 100 ≤ h.size) (i : Nat) :
    (candidate (countedSources t start) h t i).id ∈ h.ids := by
  have phase := inStep.draws
  have small : (h.size + i) % 100 < 100 := Nat.mod_lt _ (by decide)
  rw [candidate_id, inStep.mem_ids]
  refine ⟨(h.size + i) % 100, by omega, ?_⟩
  rw [countedId, if_pos small, plainId_inj]
  omega

theorem InStep.tail_free (inStep : InStep t start h) (n : Nat) :
    tailed (plainId t n) h.size ∉ h.ids := by
  rw [inStep.mem_ids]
  rintro ⟨k, below, same⟩
  unfold countedId at same
  split at same
  · exact tailed_ne_ofInstant same.symm
  · exact Nat.ne_of_lt below (tail_eq_of_tailed_eq same)

theorem InStep.issueStamp (inStep : InStep t start h) :
    (h.issueStamp (countedSources t start)).1.id = countedId t start h.size ∧
      (h.issueStamp (countedSources t start)).2.draws % 100 = (h.size + 1) % 100 := by
  have phase := inStep.draws
  rcases issueStamp_cases (countedSources t start) h with
    ⟨i, below, new, earlier, issued⟩ | ⟨taken, issued⟩
  · have few : h.size < 100 := Nat.not_le.mp fun many => new (inStep.taken many i)
    obtain rfl : i = 0 := Nat.eq_zero_of_not_pos fun later =>
      inStep.first_free few (earlier 0 later)
    rw [issued]
    constructor
    · refine (candidate_id t start h 0).trans ?_
      rw [countedId, if_pos few, plainId_inj]
      omega
    · show (h.draws + (0 + 1)) % 100 = (h.size + 1) % 100
      omega
  · have many : 100 ≤ h.size :=
      Nat.not_lt.mp fun few => inStep.first_free few (taken 0 (by decide))
    -- The candidate behind the hundred is the first of them again.
    have base : (candidate (countedSources t start) h t suffixTries).id =
        plainId t (start.toNat + h.size) := by
      rw [candidate_id, plainId_inj, suffixTries]
      omega
    rw [issued]
    constructor
    · show tailed (candidate (countedSources t start) h t suffixTries).id
        (freeTail (candidate (countedSources t start) h t suffixTries).id h.ids h.size) =
          countedId t start h.size
      rw [base, freeTail_of_not_mem (inStep.tail_free _), countedId, if_neg (Nat.not_lt.mpr many)]
    · show (h.draws + (suffixTries + 1)) % 100 = (h.size + 1) % 100
      rw [suffixTries]
      omega

/-! ## All captures -/

theorem empty_inStep (t : Instant) (start : UInt32) : InStep t start empty where
  ids := rfl
  draws := rfl

theorem InStep.afterCapture (inStep : InStep t start h) (description : String)
    (shapes : List Shape) :
    InStep t start (h.afterCapture (countedSources t start) description shapes) := by
  obtain ⟨id, draws⟩ := inStep.issueStamp
  constructor
  · rw [afterCapture_size, afterCapture_ids, id, inStep.ids, List.range_succ, List.map_append,
      List.map_singleton]
  · rw [afterCapture_size]
    exact draws

def recordNext (sources : Sources) (h : History) (content : String × List Shape) :
    Except Refusal History :=
  let (stamp, drawn) := h.issueStamp sources
  drawn.record (.ofStamp stamp content.1 content.2)

theorem recordNext_eq (sources : Sources) (h : History) (content : String × List Shape) :
    h.recordNext sources content = .ok (h.afterCapture sources content.1 content.2) :=
  record_issueStamp sources h content.1 content.2

theorem recordNext_run (inStep : InStep t start h) (contents : List (String × List Shape)) :
    ∃ later, contents.foldlM (recordNext (countedSources t start)) h = .ok later ∧
      later.size = h.size + contents.length ∧ InStep t start later := by
  induction contents generalizing h with
  | nil => exact ⟨h, rfl, rfl, inStep⟩
  | cons content rest ih =>
      obtain ⟨later, done, size, kept⟩ := ih (inStep.afterCapture content.1 content.2)
      refine ⟨later, ?_, ?_, kept⟩
      · rw [List.foldlM_cons, recordNext_eq]
        exact done
      · rw [size, afterCapture_size, List.length_cons, Nat.succ_add_eq_add_succ]

theorem counted_ids_tell_their_place (t : Instant) (start : UInt32)
    (contents : List (String × List Shape)) :
    let sources : Sources := ⟨fun _ => t, (SuffixCounter.startingAt start).stream⟩
    ∃ h, contents.foldlM (recordNext sources) empty = .ok h ∧
      h.entries.length = contents.length ∧
      h.ids = (List.range contents.length).map fun k =>
        ⟨t.sortableText ++ Decimal.natural ((start.toNat + k) % 100) ++
          if k < 100 then "" else "-" ++ Decimal.natural k⟩ := by
  intro sources
  obtain ⟨h, done, size, inStep⟩ := recordNext_run (empty_inStep t start) contents
  have length : h.size = contents.length := size.trans (Nat.zero_add _)
  refine ⟨h, done, length, ?_⟩
  rw [inStep.ids, length]
  apply List.map_congr_left
  intro k _
  unfold countedId
  split
  · simp [plainId, Stamp.ofInstant]
  · simp [plainId, Stamp.ofInstant, tailed, String.append_assoc]

end History

end CanvasAlbum
