import CanvasAlbum.Proofs.Album.Performing
import Mathlib.Data.List.Induction
import Mathlib.Data.List.Nodup

namespace CanvasAlbum.History

inductive Call where
  | issueStamp
  | record (snapshot : Snapshot)
  | perform (canvas : Canvas) (operation : Operation)

def call (sources : Sources) (h : History) : Call → History
  | .issueStamp => (h.issueStamp sources).2
  | .record snapshot =>
    match h.record snapshot with
    | .ok next => next
    | .error _ => h
  | .perform canvas operation => (Album.perform sources ⟨canvas, h⟩ operation).2.history

def afterCalls (sources : Sources) (h : History) (calls : List Call) : History :=
  calls.foldl (call sources) h

theorem perform_grows (sources : Sources) (a : Album) (operation : Operation) :
    (a.perform sources operation).2.history.entries = a.history.entries ∨
    ∃ s : Snapshot, s.id ∉ a.history.ids ∧
      (a.perform sources operation).2.history.entries = a.history.entries ++ [s] := by
  cases captures : operation.captures with
  | false =>
      left
      rw [Album.perform_drawing sources a captures, Album.settle_history]
  | true =>
      cases operation <;> try contradiction
      rename_i description
      rw [Album.perform_snapshot]
      split
      · exact Or.inl rfl
      · right
        exact ⟨_, issueStamp_id_not_mem sources a.history, afterCapture_entries _ _ _ _⟩

theorem call_grows (sources : Sources) (h : History) (c : Call) :
    (h.call sources c).entries = h.entries ∨
    ∃ s : Snapshot, s.id ∉ h.ids ∧ (h.call sources c).entries = h.entries ++ [s] := by
  cases c with
  | issueStamp => exact Or.inl (issueStamp_entries sources h)
  | record snapshot =>
      by_cases known : snapshot.id ∈ h.ids
      · left
        simp only [call, record_of_mem known]
      · right
        exact ⟨snapshot, known, by simp only [call, record_of_not_mem known, push]⟩
  | perform canvas operation => exact perform_grows sources ⟨canvas, h⟩ operation

theorem afterCalls_ids_nodup (sources : Sources) (calls : List Call) :
    (empty.afterCalls sources calls).ids.Nodup := by
  induction calls using List.reverseRecOn with
  | nil => exact List.nodup_nil
  | append_singleton calls c ih =>
      unfold afterCalls at ih ⊢
      rw [List.foldl_append, List.foldl_cons, List.foldl_nil]
      rcases call_grows sources (calls.foldl (call sources) empty) c with kept | ⟨s, new, grown⟩
      · rw [ids, kept]
        exact ih
      · rw [ids, grown, List.map_append, List.map_singleton, ← List.concat_eq_append]
        exact ih.concat new

theorem stamps_stay_new (sources : Sources) (calls : List Call) :
    let h := empty.afterCalls sources calls
    h.ids.Nodup ∧
    (h.issueStamp sources).1.id ∉ h.ids ∧
    (∀ c, (h.call sources c).entries = h.entries ∨
      ∃ s : Snapshot, s.id ∉ h.ids ∧ (h.call sources c).entries = h.entries ++ [s]) ∧
    ∀ (canvas : Canvas) (description : String), canvas.isEmpty = false →
      ∃ next, Album.perform sources ⟨canvas, h⟩ (.snapshot description) = (.ok (), ⟨canvas, next⟩) ∧
        next.entries =
          h.entries ++ [.ofStamp (h.issueStamp sources).1 description canvas.shapes] := by
  intro h
  refine ⟨afterCalls_ids_nodup sources calls, issueStamp_id_not_mem sources h,
    call_grows sources h, ?_⟩
  intro canvas description nonempty
  refine ⟨h.afterCapture sources description canvas.shapes, ?_, afterCapture_entries _ _ _ _⟩
  rw [Album.perform_snapshot, if_neg (by simp [nonempty])]

/-- One suffix for ever, and a snapshot recorded by hand under the id that would come next. -/
theorem stamps_stay_new_beside_forged_tail :
    let sources : Sources := ⟨fun _ => .epoch, fun _ => 3⟩
    let canvas : Canvas :=
      ⟨[⟨⟨"R", .rectangle, ⟨1, 2⟩, ⟨3, 4⟩, ⟨5, 6, 7⟩⟩, by decide⟩], by decide⟩
    let h := empty.afterCalls sources [.perform canvas (.snapshot "first"),
      .record ⟨⟨"1970-01-01T00:00:00.0000003-1"⟩, "", "by hand", []⟩, .issueStamp]
    canvas.isEmpty = false ∧
      ∃ next, Album.perform sources ⟨canvas, h⟩ (.snapshot "next") = (.ok (), ⟨canvas, next⟩) ∧
        next.entries = h.entries ++ [.ofStamp (h.issueStamp sources).1 "next" canvas.shapes] :=
  ⟨rfl, (stamps_stay_new _ _).2.2.2 _ _ rfl⟩

theorem get?_eq_some_iff {h : History} {id : SnapshotId} {s : Snapshot} :
    h.get? id = some s ↔ s ∈ h.entries ∧ s.id = id := by
  constructor
  · intro found
    exact ⟨List.mem_of_find?_eq_some found, by simpa using List.find?_some found⟩
  · rintro ⟨member, rfl⟩
    cases found : h.get? s.id with
    | none => exact absurd (List.find?_eq_none.mp found s member) (by simp)
    | some first =>
        have same : first.id = s.id := by simpa using List.find?_some found
        rw [List.inj_on_of_nodup_map h.ids_nodup (List.mem_of_find?_eq_some found) member same]

theorem contains_iff_get? {h : History} {id : SnapshotId} :
    h.contains id = true ↔ ∃ s, h.get? id = some s := by
  simp only [contains_iff, ids, List.mem_map, get?_eq_some_iff]

theorem count_ids (h : History) (id : SnapshotId) :
    h.ids.count id = if h.contains id then 1 else 0 := by
  have distinct : h.ids.Nodup := h.ids_nodup
  simp only [distinct.count, contains_iff]

theorem ids_getElem? (h : History) (i : Nat) : h.ids[i]? = h.entries[i]?.map Snapshot.id :=
  List.getElem?_map

theorem call_keeps_entries (sources : Sources) (h : History) (c : Call) :
    h.entries <+: (h.call sources c).entries := by
  rcases call_grows sources h c with kept | ⟨s, -, grown⟩
  · simp only [kept, List.prefix_rfl]
  · rw [grown]
    exact List.prefix_append h.entries [s]

theorem calls_keep_entries (sources : Sources) (h : History) (calls : List Call) :
    h.entries <+: (h.afterCalls sources calls).entries := by
  induction calls generalizing h with
  | nil => exact List.prefix_rfl
  | cons c rest ih => exact (call_keeps_entries sources h c).trans (ih (h.call sources c))

theorem get?_afterCalls (sources : Sources) {h : History} (calls : List Call) {id : SnapshotId}
    {s : Snapshot} (found : h.get? id = some s) :
    (h.afterCalls sources calls).get? id = some s := by
  obtain ⟨member, named⟩ := get?_eq_some_iff.mp found
  exact get?_eq_some_iff.mpr ⟨(calls_keep_entries sources h calls).subset member, named⟩

theorem lookups_outlast_calls (sources : Sources) (h : History) (calls : List Call) :
    let later := h.afterCalls sources calls
    h.entries <+: later.entries ∧
    (∀ s ∈ h.entries, h.get? s.id = some s ∧ later.get? s.id = some s) ∧
    (∀ id,
      (h.contains id = true ↔ ∃ s, h.get? id = some s) ∧
      (h.contains id = true ↔ id ∈ h.ids) ∧
      h.ids.count id = if h.contains id then 1 else 0) ∧
    h.ids.length = h.entries.length ∧
    ∀ i : Nat, h.ids[i]? = h.entries[i]?.map Snapshot.id := by
  intro later
  refine ⟨calls_keep_entries sources h calls, ?_, ?_, List.length_map _, ids_getElem? h⟩
  · intro s member
    have found : h.get? s.id = some s := get?_eq_some_iff.mpr ⟨member, rfl⟩
    exact ⟨found, get?_afterCalls sources calls found⟩
  · intro id
    exact ⟨contains_iff_get?, contains_iff, count_ids h id⟩

/-- Another snapshot is recorded under the id of a forged one, and a capture would come by it. -/
theorem forged_tail_is_found_for_ever :
    let sources : Sources := ⟨fun _ => .epoch, fun _ => 3⟩
    let canvas : Canvas :=
      ⟨[⟨⟨"R", .rectangle, ⟨1, 2⟩, ⟨3, 4⟩, ⟨5, 6, 7⟩⟩, by decide⟩], by decide⟩
    let forged : Snapshot := ⟨⟨"1970-01-01T00:00:00.0000003-2"⟩, "", "by hand", []⟩
    let h := empty.afterCalls sources [.record forged]
    let calls : List Call := [.record { forged with description := "again" },
      .perform canvas (.snapshot "plain"), .perform canvas (.snapshot "tailed"),
      .perform .empty (.snapshot "nothing there"), .issueStamp]
    forged ∈ h.entries ∧ (h.afterCalls sources calls).get? forged.id = some forged := by
  intro sources canvas forged h calls
  have member : forged ∈ h.entries := List.mem_singleton.mpr rfl
  exact ⟨member, ((lookups_outlast_calls sources h calls).2.1 forged member).2⟩

end CanvasAlbum.History
