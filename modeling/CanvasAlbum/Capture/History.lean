import CanvasAlbum.Capture.Snapshot

namespace CanvasAlbum

def suffixLimit : UInt32 := 100

theorem mod_suffixLimit_lt (n : UInt32) : n % suffixLimit < suffixLimit :=
  UInt32.mod_lt n (by decide)

structure SuffixCounter where
  next : UInt32
  next_lt : next < suffixLimit
  deriving DecidableEq

namespace SuffixCounter

def startingAt (start : UInt32) : SuffixCounter := ⟨start % suffixLimit, mod_suffixLimit_lt start⟩

def advance (c : SuffixCounter) : SuffixCounter :=
  ⟨(c.next + 1) % suffixLimit, mod_suffixLimit_lt (c.next + 1)⟩

def after (c : SuffixCounter) : Nat → SuffixCounter
  | 0 => c
  | n + 1 => c.advance.after n

/-- The suffix of the draw that `n` others precede. As many draws as there are suffixes bring the
counter back to where it was, so they are left out. -/
def stream (c : SuffixCounter) (n : Nat) : UInt32 := (c.after (n % suffixLimit.toNat)).next

def take (c : SuffixCounter) : Nat → List UInt32
  | 0 => []
  | n + 1 => c.next :: c.advance.take n

end SuffixCounter

structure SuffixLottery where
  seed : UInt64
  deriving DecidableEq

namespace SuffixLottery

def mix (word : UInt64) : UInt64 :=
  let x := (word ^^^ (word >>> 30)) * 0xBF58476D1CE4E5B9
  let y := (x ^^^ (x >>> 27)) * 0x94D049BB133111EB
  y ^^^ (y >>> 31)

/-- The suffix of the draw that `n` others precede. Its word lies `n + 1` odd steps behind the
seed, so no word comes back before all have been met. -/
def stream (l : SuffixLottery) (n : Nat) : UInt32 :=
  (mix (l.seed + UInt64.ofNat (n + 1) * 0x9E3779B97F4A7C15) % 100).toUInt32

end SuffixLottery

open Text

/-- Where new ids come from: the readings of a clock and the suffixes, both in the order in which
they are taken. -/
structure Sources where
  time : Nat → Instant
  suffix : Nat → UInt32

structure History where
  entries : List Snapshot
  ids_nodup : (entries.map (·.id)).Nodup
  readings : Nat
  draws : Nat

namespace History

def empty : History := ⟨[], List.nodup_nil, 0, 0⟩

def ids (h : History) : List SnapshotId := h.entries.map (·.id)

def size (h : History) : Nat := h.entries.length

def isEmpty (h : History) : Bool := h.entries.isEmpty

def contains (h : History) (id : SnapshotId) : Bool := h.entries.any (·.id = id)

def get? (h : History) (id : SnapshotId) : Option Snapshot := h.entries.find? (·.id = id)

theorem contains_iff {h : History} {id : SnapshotId} : h.contains id = true ↔ id ∈ h.ids := by
  simp [contains, ids]

def tailed (base : SnapshotId) (k : Nat) : SnapshotId := ⟨base.text ++ "-" ++ Decimal.natural k⟩

/-- The least number from `k` on whose tailed id is not among `taken`. Ids met on the way are
struck off, so the search ends; the remaining ids differ from them. -/
def freeTail (base : SnapshotId) (taken : List SnapshotId) (k : Nat) : Nat :=
  if met : tailed base k ∈ taken then freeTail base (taken.erase (tailed base k)) (k + 1) else k
termination_by taken.length
decreasing_by
  rw [List.length_erase_of_mem met]
  exact Nat.sub_lt (List.length_pos_of_mem met) Nat.one_pos

def suffixTries : Nat := 100

def candidate (sources : Sources) (h : History) (time : Instant) (i : Nat) : Stamp :=
  .ofInstant time (Decimal.natural (sources.suffix (h.draws + i)).toNat)

/-- The stamp of the next snapshot. Its id is new: the first of a hundred candidates that is, or
else the candidate after them with the least free tail that is no smaller than the number of
snapshots. -/
def issueStamp (sources : Sources) (h : History) : Stamp × History :=
  let stamp := candidate sources h (sources.time h.readings)
  match (List.range suffixTries).find? fun i => !h.contains (stamp i).id with
  | some i => (stamp i, { h with readings := h.readings + 1, draws := h.draws + (i + 1) })
  | none =>
    let base := stamp suffixTries
    ({ base with id := tailed base.id (freeTail base.id h.ids h.size) },
      { h with readings := h.readings + 1, draws := h.draws + (suffixTries + 1) })

def push (h : History) (s : Snapshot) (new : s.id ∉ h.ids) : History := { h with
  entries := h.entries ++ [s]
  ids_nodup := by
    simp only [List.map_append, List.map_cons, List.map_nil]
    exact List.nodup_append.mpr
      ⟨h.ids_nodup, by simp, fun a ha b hb => by
        rw [List.mem_singleton.mp hb]
        rintro rfl
        exact new ha⟩ }

def record (h : History) (s : Snapshot) : Except Refusal History :=
  if known : s.id ∈ h.ids then .error (.idTaken s.id.text) else .ok (h.push s known)

end History

end CanvasAlbum
