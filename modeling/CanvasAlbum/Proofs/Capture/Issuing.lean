import CanvasAlbum.Proofs.Capture.Freshness
import Mathlib.Order.Bounds.Basic

/-!
# What a stamp takes and gives

One reading of the clock and as many suffixes as it takes to find an id that is new. If none of a
hundred will do, tails are tried one after the other. Since these differ from each other, no more
of them are taken than there are ids, and the search is over soon.

* `freeTail_isLeast`, `freeTail_le`: the search ends at the least free tail, which is not far.
* `tryTails_eq`: going through the tails finds it, with one try for each tail up to it.
* `stamps_take_the_first_free_id`: the whole account of a stamp.
-/

namespace CanvasAlbum.History
open Text

/-! ## The search for a tail -/

theorem mem_of_lt_freeTail (base : SnapshotId) (taken : List SnapshotId) (k : Nat) :
    ∀ j, k ≤ j → j < freeTail base taken k → tailed base j ∈ taken := by
  fun_induction freeTail base taken k with
  | case1 taken k met ih =>
      intro j behind before
      rcases Nat.eq_or_lt_of_le behind with rfl | further
      · exact met
      · exact List.mem_of_mem_erase (ih j further before)
  | case2 taken k free =>
      intro j behind before
      exact absurd before (Nat.not_lt.mpr behind)

theorem freeTail_le (base : SnapshotId) (taken : List SnapshotId) (k : Nat) :
    freeTail base taken k ≤ k + taken.length := by
  fun_induction freeTail base taken k with
  | case1 taken k met ih =>
      have shorter := List.length_erase_of_mem met
      have nonempty := List.length_pos_of_mem met
      omega
  | case2 taken k free => exact Nat.le_add_right k taken.length

theorem freeTail_isLeast (base : SnapshotId) (taken : List SnapshotId) (k : Nat) :
    IsLeast {j | k ≤ j ∧ tailed base j ∉ taken} (freeTail base taken k) := by
  constructor
  · exact ⟨le_freeTail base taken k, freeTail_not_mem base taken k⟩
  · rintro j ⟨behind, free⟩
    exact Nat.not_lt.mp fun before => free (mem_of_lt_freeTail base taken k j behind before)

theorem freeTail_of_mem {base : SnapshotId} {taken : List SnapshotId} {k : Nat}
    (met : tailed base k ∈ taken) : freeTail base taken k = freeTail base taken (k + 1) := by
  obtain ⟨behind, free⟩ := (freeTail_isLeast base taken k).1
  obtain ⟨behind', free'⟩ := (freeTail_isLeast base taken (k + 1)).1
  have further : freeTail base taken k ≠ k := by
    intro same
    rw [same] at free
    exact free met
  apply Nat.le_antisymm
  · exact (freeTail_isLeast base taken k).2 ⟨Nat.le_of_succ_le behind', free'⟩
  · exact (freeTail_isLeast base taken (k + 1)).2 ⟨by omega, free⟩

/-- Goes through the tails from `k` on and gives up after so many tries. -/
def tryTails (base : SnapshotId) (taken : List SnapshotId) : Nat → Nat → Option Nat
  | 0, _ => none
  | tries + 1, k => if tailed base k ∈ taken then tryTails base taken tries (k + 1) else some k

theorem tryTails_eq (base : SnapshotId) (taken : List SnapshotId) (tries k : Nat) :
    tryTails base taken tries k =
      if freeTail base taken k < k + tries then some (freeTail base taken k) else none := by
  induction tries generalizing k with
  | zero => rw [tryTails, Nat.add_zero, if_neg (Nat.not_lt.mpr (le_freeTail base taken k))]
  | succ tries ih =>
      rw [tryTails]
      split
      · rename_i met
        rw [ih, freeTail_of_mem met, Nat.succ_add_eq_add_succ]
      · rename_i free
        rw [freeTail_of_not_mem free, if_pos (Nat.lt_add_of_pos_right (Nat.succ_pos tries))]

/-! ## The whole account -/

theorem stamps_take_the_first_free_id (sources : Sources) (h : History) :
    let time := sources.time h.readings
    let plain (i : Nat) : Stamp :=
      .ofInstant time (Decimal.natural (sources.suffix (h.draws + i)).toNat)
    let tail (k : Nat) : SnapshotId := ⟨(plain 100).id.text ++ "-" ++ Decimal.natural k⟩
    let stamp := (h.issueStamp sources).1
    let later := (h.issueStamp sources).2
    later.entries = h.entries ∧ later.readings = h.readings + 1 ∧
    ((∃ i < 100, (plain i).id ∉ h.ids) →
      ∃ i, IsLeast {i | i < 100 ∧ (plain i).id ∉ h.ids} i ∧ stamp = plain i ∧
        later.draws = h.draws + (i + 1)) ∧
    ((∀ i < 100, (plain i).id ∈ h.ids) →
      ∃ k, IsLeast {k | h.size ≤ k ∧ tail k ∉ h.ids} k ∧ k ≤ 2 * h.size ∧
        stamp = ⟨tail k, time.readableText⟩ ∧ later.draws = h.draws + 101 ∧
        tryTails (plain 100).id h.ids (h.size + 1) h.size = some k ∧
        ∀ tries, tryTails (plain 100).id h.ids tries h.size =
          if k < h.size + tries then some k else none) := by
  intro time plain tail stamp later
  refine ⟨issueStamp_entries sources h, issueStamp_readings sources h, ?_, ?_⟩
  · rintro ⟨free, below, absent⟩
    rcases issueStamp_cases sources h with ⟨i, bound, new, earlier, issued⟩ | ⟨taken, -⟩
    · have least : IsLeast {i | i < 100 ∧ (plain i).id ∉ h.ids} i :=
        ⟨⟨bound, new⟩, fun j free => Nat.not_lt.mp fun before => free.2 (earlier j before)⟩
      exact ⟨i, least, congrArg Prod.fst issued, congrArg (·.2.draws) issued⟩
    · exact absurd (taken free below) absent
  · intro taken
    rcases issueStamp_cases sources h with ⟨i, bound, new, -⟩ | ⟨-, issued⟩
    · exact absurd (taken i bound) new
    · have near := freeTail_le (plain 100).id h.ids h.size
      have size : h.ids.length = h.size := List.length_map _
      refine ⟨freeTail (plain 100).id h.ids h.size, freeTail_isLeast _ _ _, by omega,
        congrArg Prod.fst issued, congrArg (·.2.draws) issued, ?_,
        fun tries => tryTails_eq _ _ tries _⟩
      rw [tryTails_eq, if_pos (by omega)]

/-- One suffix for ever. At first it will do; later it is taken, and so is the tail to start with. -/
theorem stamps_step_over_a_forged_tail :
    let sources : Sources := ⟨fun _ => .epoch, fun _ => 3⟩
    let plain := (Stamp.ofInstant .epoch (Decimal.natural 3)).id
    let h : History := ⟨[⟨plain, "", "first", []⟩, ⟨tailed plain 2, "", "by hand", []⟩],
      by simpa using tailed_ne_ofInstant.symm, 5, 7⟩
    ((∃ i < 100, plain ∉ empty.ids) ∧
      ∃ i, IsLeast {i | i < 100 ∧ plain ∉ empty.ids} i ∧
        (empty.issueStamp sources).2.draws = 0 + (i + 1)) ∧
    (∀ i < 100, plain ∈ h.ids) ∧
      ∃ k, IsLeast {k | 2 ≤ k ∧ tailed plain k ∉ h.ids} k ∧ k ≤ 4 ∧
        (h.issueStamp sources).1 = ⟨tailed plain k, Instant.epoch.readableText⟩ ∧
        (h.issueStamp sources).2.draws = 7 + 101 := by
  intro sources plain h
  have free : ∃ i < 100, plain ∉ empty.ids := ⟨0, by decide, List.not_mem_nil⟩
  have taken : ∀ i < 100, plain ∈ h.ids := fun i _ => List.mem_cons_self
  obtain ⟨i, least, -, drawn⟩ := (stamps_take_the_first_free_id sources empty).2.2.1 free
  obtain ⟨k, tail, near, stamp, used, -, -⟩ := (stamps_take_the_first_free_id sources h).2.2.2 taken
  exact ⟨⟨free, i, least, drawn⟩, taken, k, tail, near, stamp, used⟩

end CanvasAlbum.History
