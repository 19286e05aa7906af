import CanvasAlbum.Proofs.Album.OneLined
import CanvasAlbum.Proofs.Text.Unambiguous
import CanvasAlbum.View.Format

/-!
# Listings lose nothing

A listing quotes nothing. But a text that stays on one line ends at the next newline, and behind
each stands a label that says what comes next.

* `shape_selfDelimiting`, `entry_selfDelimiting`: so what is listed ends by itself and tells what it
  shows.
* `listings_lose_nothing`: two listings of such snapshots are the same only if the snapshots are,
  and the snapshots that scripts make are such.
-/

namespace CanvasAlbum.Listing
open Text

/-! ## Shapes -/

theorem number_selfDelimiting : SelfDelimiting number := by
  intro m n x y same
  unfold number at same
  rwa [String.append_assoc, String.append_assoc, Decimal.integer_append_inj ⟨'.', rfl, rfl⟩,
    Int32.toInt_inj] at same

theorem kindName_append_inj {k l : ShapeKind} {x y : String} :
    k.name ++ x = l.name ++ y ↔ k = l ∧ x = y := by
  have apart (u v : String) : "rectangle" ++ u ≠ "oval" ++ v :=
    append_ne_append (i := 0) (c := 'r') (d := 'o') rfl rfl (by decide)
  cases k <;> cases l <;> simp only [ShapeKind.name, String.append_right_inj, true_and]
  · simpa using apart x y
  · simpa using (apart y x).symm

theorem shape_selfDelimiting : SelfDelimitingOn (fun s => OneLine s.name) shape := by
  intro s t x y hs ht same
  unfold shape at same
  simp only [String.append_assoc, String.append_right_inj] at same
  rw [append_mark_inj hs ht rfl, kindName_append_inj] at same
  obtain ⟨name, kind, same⟩ := same
  -- Shapes of one kind have the same labels, so the numbers come off one by one from the left.
  simp only [kind, String.append_right_inj, number_selfDelimiting.append_inj] at same
  obtain ⟨left, top, horizontal, vertical, red, green, blue, rest⟩ := same
  obtain ⟨⟨_, _, ⟨_, _⟩, ⟨_, _⟩, ⟨_, _, _⟩⟩, _⟩ := s
  obtain ⟨⟨_, _, ⟨_, _⟩, ⟨_, _⟩, ⟨_, _, _⟩⟩, _⟩ := t
  simp only at name kind left top horizontal vertical red green blue
  subst name kind left top horizontal vertical red green blue
  exact ⟨rfl, rest⟩

theorem shape_append_ne_newline (s : Shape) (x y : String) : shape s ++ x ≠ "\n" ++ y := by
  unfold shape
  simp only [String.append_assoc]
  exact append_ne_append (i := 0) (c := 'N') (d := '\n') rfl rfl (by decide)

/-! ## Snapshots -/

def entry (s : Snapshot) : String := snapshot s ++ "\n"

theorem entry_selfDelimiting : SelfDelimitingOn Snapshot.OneLined entry := by
  intro s t x y hs ht same
  unfold entry snapshot at same
  simp only [String.append_assoc, String.append_right_inj] at same
  rw [append_mark_inj hs.id ht.id rfl, append_mark_inj hs.timestamp ht.timestamp rfl,
    append_mark_inj hs.description ht.description rfl,
    shape_selfDelimiting.join_append_inj shape_append_ne_newline hs.names ht.names] at same
  obtain ⟨id, timestamp, description, shapes, rest⟩ := same
  obtain ⟨⟨_⟩, _, _, _⟩ := s
  obtain ⟨⟨_⟩, _, _, _⟩ := t
  simp only at id timestamp description shapes
  subst id timestamp description shapes
  exact ⟨rfl, rest⟩

theorem entry_append_ne_mark (s : Snapshot) (x y : String) : entry s ++ x ≠ "." ++ y := by
  unfold entry snapshot
  simp only [String.append_assoc]
  exact append_ne_append (i := 0) (c := 'S') (d := '.') rfl rfl (by decide)

/-! ## Listings -/

theorem album_inj {snapshots₁ snapshots₂ : List Snapshot}
    (lined₁ : ∀ s ∈ snapshots₁, s.OneLined) (lined₂ : ∀ s ∈ snapshots₂, s.OneLined) :
    album snapshots₁ = album snapshots₂ ↔ snapshots₁ = snapshots₂ := by
  constructor
  · intro same
    -- No entry starts with a point, so a point may close the listing.
    have closed : album snapshots₁ ++ ("." ++ "") = album snapshots₂ ++ ("." ++ "") := by rw [same]
    exact ((entry_selfDelimiting.join_append_inj entry_append_ne_mark lined₁ lined₂).mp closed).1
  · exact congrArg album

theorem listings_lose_nothing :
    (∀ (sources : Sources) (scripts : List String),
      ∀ s ∈ (Album.empty.afterCalls sources (scripts.map .performScript)).snapshots, s.OneLined) ∧
    ∀ snapshots₁ snapshots₂ : List Snapshot, (∀ s ∈ snapshots₁, s.OneLined) →
      (∀ s ∈ snapshots₂, s.OneLined) →
      (album snapshots₁ = album snapshots₂ ↔ snapshots₁ = snapshots₂) := by
  constructor
  · intro sources scripts
    exact (Album.afterScripts_oneLined sources Album.empty_oneLined scripts).snapshots
  · exact fun _ _ => album_inj

/-- Descriptions that look like the lines around them. -/
theorem confusing_listings_differ :
    let sources : Sources := ⟨fun _ => .epoch, fun _ => 3⟩
    let scripts := ["shape R oval 0 0 1 1 0 0 0\nsnapshot Shape Information:"]
    let made := (Album.empty.afterCalls sources (scripts.map .performScript)).snapshots
    let circle : Shape := ⟨⟨"Type: oval", .oval, ⟨1, 2⟩, ⟨3, 4⟩, ⟨5, 6, 7⟩⟩, by decide⟩
    let plain : Snapshot := ⟨⟨"1"⟩, "", "Shape Information:", []⟩
    let drawn : Snapshot := ⟨⟨"1"⟩, "", "Name: ", [circle]⟩
    (∃ s ∈ made, s.OneLined) ∧ plain.OneLined ∧ drawn.OneLined ∧
      album [plain, drawn] ≠ album [drawn, plain] := by
  intro sources scripts made circle plain drawn
  have plainLined : plain.OneLined := ⟨by decide, by decide, by decide, by decide⟩
  have drawnLined : drawn.OneLined := ⟨by decide, by decide, by decide, by decide⟩
  have taken : made.length = 1 := by rfl
  obtain ⟨s, member⟩ := List.exists_mem_of_length_pos (taken ▸ Nat.one_pos)
  have forwards : ∀ t ∈ [plain, drawn], t.OneLined := by simp [plainLined, drawnLined]
  have backwards : ∀ t ∈ [drawn, plain], t.OneLined := by simp [plainLined, drawnLined]
  refine ⟨⟨s, member, listings_lose_nothing.1 sources scripts s member⟩, plainLined, drawnLined, ?_⟩
  rw [ne_eq, listings_lose_nothing.2 _ _ forwards backwards]
  decide

end CanvasAlbum.Listing
