import CanvasAlbum.Capture.History
import CanvasAlbum.Proofs.Text.Unambiguous

namespace CanvasAlbum
open Text

namespace History

theorem tail_eq_of_tailed_eq {base other : SnapshotId} {j k : Nat}
    (same : tailed base j = tailed other k) : j = k := by
  have texts := congrArg SnapshotId.text same
  simp only [tailed, String.append_assoc] at texts
  have digits (n : Nat) : '-' ∉ (Decimal.natural n).toList := Decimal.not_mem_natural rfl
  rw [append_last_mark_inj (digits j) (digits k) rfl] at texts
  exact Decimal.natural_injective texts.2

theorem le_freeTail (base : SnapshotId) (taken : List SnapshotId) (k : Nat) :
    k ≤ freeTail base taken k := by
  fun_induction freeTail base taken k with
  | case1 taken k met ih => exact Nat.le_of_succ_le ih
  | case2 taken k free => exact Nat.le_refl k

theorem freeTail_not_mem (base : SnapshotId) (taken : List SnapshotId) (k : Nat) :
    tailed base (freeTail base taken k) ∉ taken := by
  fun_induction freeTail base taken k with
  | case1 taken k met ih =>
      -- What was struck off has the tail `k`, and the search has gone beyond that.
      have beyond := le_freeTail base (taken.erase (tailed base k)) (k + 1)
      have other : tailed base (freeTail base (taken.erase (tailed base k)) (k + 1)) ≠
          tailed base k := by
        intro same
        have equal := tail_eq_of_tailed_eq same
        omega
      rwa [List.mem_erase_of_ne other] at ih
  | case2 taken k free => exact free

theorem freeTail_of_not_mem {base : SnapshotId} {taken : List SnapshotId} {k : Nat}
    (free : tailed base k ∉ taken) : freeTail base taken k = k := by
  rw [freeTail, dif_neg free]

theorem issueStamp_cases (sources : Sources) (h : History) :
    let stamp := candidate sources h (sources.time h.readings)
    (∃ i < suffixTries, (stamp i).id ∉ h.ids ∧ (∀ j < i, (stamp j).id ∈ h.ids) ∧
      h.issueStamp sources =
        (stamp i, { h with readings := h.readings + 1, draws := h.draws + (i + 1) })) ∨
    ((∀ i < suffixTries, (stamp i).id ∈ h.ids) ∧
      h.issueStamp sources =
        ({ stamp suffixTries with
            id := tailed (stamp suffixTries).id
              (freeTail (stamp suffixTries).id h.ids h.size) },
          { h with readings := h.readings + 1, draws := h.draws + (suffixTries + 1) })) := by
  intro stamp
  cases search : (List.range suffixTries).find? fun i => !h.contains (stamp i).id with
  | some i =>
      left
      have found := List.find?_range_eq_some.mp search
      simp only [Bool.not_eq_true', List.mem_range, Bool.not_eq_false', contains_iff] at found
      refine ⟨i, found.2.1, ?_, fun j earlier => by simpa using found.2.2 j earlier, ?_⟩
      · rw [← contains_iff, found.1]
        exact Bool.false_ne_true
      · unfold issueStamp
        simp only [stamp] at search
        simp only [search, stamp]
  | none =>
      right
      have allTaken := List.find?_range_eq_none.mp search
      refine ⟨fun i below => by simpa [contains_iff] using allTaken i below, ?_⟩
      unfold issueStamp
      simp only [stamp] at search
      simp only [search, stamp]

@[simp] theorem issueStamp_entries (sources : Sources) (h : History) :
    (h.issueStamp sources).2.entries = h.entries := by
  rcases issueStamp_cases sources h with ⟨i, -, -, -, issued⟩ | ⟨-, issued⟩ <;> rw [issued]

@[simp] theorem issueStamp_readings (sources : Sources) (h : History) :
    (h.issueStamp sources).2.readings = h.readings + 1 := by
  rcases issueStamp_cases sources h with ⟨i, -, -, -, issued⟩ | ⟨-, issued⟩ <;> rw [issued]

@[simp] theorem issueStamp_ids (sources : Sources) (h : History) :
    (h.issueStamp sources).2.ids = h.ids := by
  simp [ids]

theorem issueStamp_id_not_mem (sources : Sources) (h : History) :
    (h.issueStamp sources).1.id ∉ h.ids := by
  rcases issueStamp_cases sources h with ⟨i, -, new, -, issued⟩ | ⟨-, issued⟩
  · rw [issued]
    exact new
  · rw [issued]
    exact freeTail_not_mem _ _ _

theorem record_of_not_mem {h : History} {s : Snapshot} (new : s.id ∉ h.ids) :
    h.record s = .ok (h.push s new) := by
  simp only [record, dif_neg new]

theorem record_of_mem {h : History} {s : Snapshot} (known : s.id ∈ h.ids) :
    h.record s = .error (.idTaken s.id.text) := by
  simp only [record, dif_pos known]

def afterCapture (sources : Sources) (h : History) (description : String) (shapes : List Shape) :
    History :=
  (h.issueStamp sources).2.push (.ofStamp (h.issueStamp sources).1 description shapes) <| by
    rw [issueStamp_ids]
    exact issueStamp_id_not_mem sources h

theorem record_issueStamp (sources : Sources) (h : History) (description : String)
    (shapes : List Shape) :
    (h.issueStamp sources).2.record (.ofStamp (h.issueStamp sources).1 description shapes) =
      .ok (h.afterCapture sources description shapes) :=
  record_of_not_mem _

@[simp] theorem afterCapture_entries (sources : Sources) (h : History) (description : String)
    (shapes : List Shape) :
    (h.afterCapture sources description shapes).entries =
      h.entries ++ [.ofStamp (h.issueStamp sources).1 description shapes] := by
  simp [afterCapture, push]

@[simp] theorem afterCapture_ids (sources : Sources) (h : History) (description : String)
    (shapes : List Shape) :
    (h.afterCapture sources description shapes).ids =
      h.ids ++ [(h.issueStamp sources).1.id] := by
  simp [ids, Snapshot.ofStamp]

@[simp] theorem afterCapture_size (sources : Sources) (h : History) (description : String)
    (shapes : List Shape) : (h.afterCapture sources description shapes).size = h.size + 1 := by
  simp [size]

end History

namespace Instant

def dateText (t : Instant) : String :=
  yearText t.year ++ "-" ++ Decimal.padded 2 t.month ++ "-" ++ Decimal.padded 2 t.day

def timeText (t : Instant) : String := t.clockText ++ "." ++ Decimal.padded 6 t.microsecond

theorem sortableText_eq (t : Instant) : t.sortableText = t.dateText ++ ("T" ++ t.timeText) := by
  simp only [sortableText, dateText, timeText, String.append_assoc]

theorem dash_not_mem_timeText (t : Instant) : '-' ∉ t.timeText.toList := by
  have digits {width n : Nat} : '-' ∉ (Decimal.padded width n).toList :=
    Decimal.not_mem_padded rfl
  simp [timeText, clockText, digits]

end Instant

namespace History

theorem ofInstant_id_text (t : Instant) (suffix : String) :
    (Stamp.ofInstant t suffix).id.text = t.dateText ++ ("T" ++ (t.timeText ++ suffix)) := by
  simp only [Stamp.ofInstant, Instant.sortableText_eq, String.append_assoc]

theorem dash_not_mem_timeText_natural (t : Instant) (n : Nat) :
    '-' ∉ (t.timeText ++ Decimal.natural n).toList := by
  rw [String.toList_append, List.mem_append, not_or]
  exact ⟨t.dash_not_mem_timeText, Decimal.not_mem_natural rfl⟩

def HasTail (id : SnapshotId) : Prop := ∃ base k, id = tailed base k

theorem tailed_ne_ofInstant {base : SnapshotId} {k : Nat} {u : Instant} {n : Nat} :
    tailed base k ≠ (Stamp.ofInstant u (Decimal.natural n)).id := by
  intro same
  have texts := congrArg SnapshotId.text same
  simp only [tailed, ofInstant_id_text, String.append_assoc] at texts
  have apart : '-' ≠ 'T' := by decide
  exact append_mark_ne_append_mark apart (Decimal.not_mem_natural rfl)
    (dash_not_mem_timeText_natural u n) rfl rfl texts

theorem not_hasTail_ofInstant (u : Instant) (n : Nat) :
    ¬HasTail (Stamp.ofInstant u (Decimal.natural n)).id := by
  rintro ⟨base, k, same⟩
  exact tailed_ne_ofInstant same.symm

end History

end CanvasAlbum
