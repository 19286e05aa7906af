import CanvasAlbum.Proofs.Capture.Counting
import Mathlib.Order.Bounds.Basic

namespace CanvasAlbum
open Text

namespace SuffixCounter

theorem stream_eq (c : SuffixCounter) (n : Nat) : c.stream n = (c.after n).next := by
  rw [← UInt32.toNat_inj, stream_toNat, after_toNat]

theorem take_eq (c : SuffixCounter) (count : Nat) :
    c.take count = (List.range count).map fun m => (c.after m).next := by
  induction count generalizing c with
  | zero => rfl
  | succ count ih =>
      rw [take, ih, List.range_succ_eq_map, List.map_cons, List.map_map]
      rfl

theorem startingAt_after (start : UInt32) (n : Nat) :
    ((startingAt start).after n).next.toNat = (start.toNat + n) % 100 := by
  rw [← stream_eq, startingAt_stream]

theorem exists_draw (place : Nat) {s : Nat} (small : s < 100) :
    ∃ i < 100, (place + i) % 100 = s :=
  ⟨(s + (100 - place % 100)) % 100, Nat.mod_lt _ (by decide), by omega⟩

end SuffixCounter

namespace History

def nextSuffix (start : UInt32) (h : History) : Nat :=
  ((SuffixCounter.startingAt start).after h.draws).next.toNat

section Stamps
variable (clock : Nat → Instant) (start : UInt32) (h : History)

theorem candidate_nextSuffix (t : Instant) (i : Nat) :
    candidate ⟨clock, (SuffixCounter.startingAt start).stream⟩ h t i =
      .ofInstant t (Decimal.natural ((nextSuffix start h + i) % 100)) := by
  rw [candidate_counted, nextSuffix, SuffixCounter.startingAt_after, Nat.mod_add_mod,
    Nat.add_assoc]

theorem nextSuffix_of_draws {later : History} {n : Nat} (draws : later.draws = h.draws + (n + 1)) :
    nextSuffix start later = ((nextSuffix start h + n) % 100 + 1) % 100 := by
  rw [nextSuffix, nextSuffix, SuffixCounter.startingAt_after, SuffixCounter.startingAt_after, draws]
  omega

theorem issueStamp_counted :
    let plain (s : Nat) : Stamp := .ofInstant (clock h.readings) (Decimal.natural s)
    let issued := h.issueStamp ⟨clock, (SuffixCounter.startingAt start).stream⟩
    (∃ i, IsLeast {i | i < 100 ∧ (plain ((nextSuffix start h + i) % 100)).id ∉ h.ids} i ∧
      issued.1 = plain ((nextSuffix start h + i) % 100) ∧
      nextSuffix start issued.2 = ((nextSuffix start h + i) % 100 + 1) % 100) ∨
    ((∀ s < 100, (plain s).id ∈ h.ids) ∧ HasTail issued.1.id) := by
  intro plain issued
  rcases issueStamp_cases ⟨clock, (SuffixCounter.startingAt start).stream⟩ h with
    ⟨i, below, new, earlier, given⟩ | ⟨taken, given⟩
  · left
    simp only [candidate_nextSuffix] at new earlier given
    have least : IsLeast {i | i < 100 ∧ (plain ((nextSuffix start h + i) % 100)).id ∉ h.ids} i :=
      ⟨⟨below, new⟩, fun j free => Nat.not_lt.mp fun before => free.2 (earlier j before)⟩
    refine ⟨i, least, congrArg Prod.fst given, ?_⟩
    apply nextSuffix_of_draws
    exact congrArg (·.2.draws) given
  · right
    simp only [candidate_nextSuffix] at taken
    constructor
    · intro s small
      obtain ⟨i, below, rfl⟩ := SuffixCounter.exists_draw (nextSuffix start h) small
      exact taken i below
    · exact ⟨_, _, congrArg (·.1.id) given⟩

end Stamps

theorem counted_stamps_go_around (clock : Nat → Instant) (start : UInt32) (h : History) :
    let counter := SuffixCounter.startingAt start
    let plain (s : Nat) : Stamp := .ofInstant (clock h.readings) (Decimal.natural s)
    let place := (counter.after h.draws).next.toNat
    let stamp := (h.issueStamp ⟨clock, counter.stream⟩).1
    let later := (h.issueStamp ⟨clock, counter.stream⟩).2
    (¬HasTail stamp.id ↔ ∃ s < 100, (plain s).id ∉ h.ids) ∧
    ((∃ s < 100, (plain s).id ∉ h.ids) →
      ∃ i, IsLeast {i | i < 100 ∧ (plain ((place + i) % 100)).id ∉ h.ids} i ∧
        stamp = plain ((place + i) % 100) ∧
        (counter.after later.draws).next.toNat = ((place + i) % 100 + 1) % 100) ∧
    (∀ count, (counter.take count).map (·.toNat) =
      (List.range count).map fun m => (start.toNat + m) % 100) ∧
    ∀ m, counter.stream m = (counter.after m).next ∧
      (counter.after m).next.toNat = (start.toNat + m) % 100 ∧
      (counter.after m).next < suffixLimit ∧
      ((counter.after m).next + 1).toNat = (counter.after m).next.toNat + 1 := by
  intro counter plain place stamp later
  rw [← and_assoc]
  constructor
  · rcases issueStamp_counted clock start h with ⟨i, least, given, behind⟩ | ⟨taken, tail⟩
    · have free : ∃ s < 100, (plain s).id ∉ h.ids :=
        ⟨(place + i) % 100, Nat.mod_lt _ (by decide), least.1.2⟩
      have plainly : ¬HasTail stamp.id := by
        rw [show stamp = plain ((place + i) % 100) from given]
        exact not_hasTail_ofInstant _ _
      exact ⟨iff_of_true plainly free, fun _ => ⟨i, least, given, behind⟩⟩
    · have full : ¬∃ s < 100, (plain s).id ∉ h.ids := by
        rintro ⟨s, small, free⟩
        exact free (taken s small)
      exact ⟨iff_of_false (not_not_intro tail) full, fun free => absurd free full⟩
  · constructor
    · intro count
      rw [SuffixCounter.take_eq, List.map_map]
      exact List.map_congr_left fun m _ => SuffixCounter.startingAt_after start m
    · intro m
      exact ⟨counter.stream_eq m, SuffixCounter.startingAt_after start m,
        (counter.after m).next_lt, (counter.after m).next_add_one_toNat⟩

/-- The counter stands at the last suffix, which is taken. -/
theorem counter_goes_around_to_zero :
    let counter := SuffixCounter.startingAt 4294967295
    let plain (s : Nat) : Stamp := .ofInstant .epoch (Decimal.natural s)
    let h : History := ⟨[⟨(plain 99).id, "", "by hand", []⟩], by simp, 5, 4⟩
    let issued := h.issueStamp ⟨fun _ => .epoch, counter.stream⟩
    (∃ s < 100, (plain s).id ∉ h.ids) ∧ issued.1 = plain 0 ∧
      (counter.after issued.2.draws).next.toNat = 1 := by
  intro counter plain h issued
  have zero : (plain 0).id ∉ h.ids := by
    intro member
    have same : plainId .epoch 0 = plainId .epoch 99 := List.mem_singleton.mp member
    rw [plainId_inj] at same
    contradiction
  have free : ∃ s < 100, (plain s).id ∉ h.ids := ⟨0, by decide, zero⟩
  have place : (counter.after h.draws).next.toNat = 99 := rfl
  obtain ⟨i, least, stamp, behind⟩ :=
    (counted_stamps_go_around (fun _ => .epoch) 4294967295 h).2.1 free
  rw [place] at least stamp behind
  have second : i = 1 := by
    apply least.unique
    refine ⟨⟨by decide, zero⟩, ?_⟩
    rintro j ⟨-, new⟩
    apply Nat.one_le_iff_ne_zero.mpr
    rintro rfl
    exact new List.mem_cons_self
  subst second
  exact ⟨free, stamp, behind⟩

end History

end CanvasAlbum
