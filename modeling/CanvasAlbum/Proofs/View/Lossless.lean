import CanvasAlbum.Proofs.Messages
import CanvasAlbum.Proofs.View.Page

namespace CanvasAlbum.Page
open Text Markup

theorem css_selfDelimiting : SelfDelimiting Color.css := by
  intro c d x y same
  simp only [Color.css, String.append_assoc, String.append_right_inj] at same
  exact Color.text_selfDelimiting same

theorem number_append_inj {m n : Int32} {close x y : String}
    (closes : close.toList.head? = some '\'') :
    number m ++ (close ++ x) = number n ++ (close ++ y) ↔ m = n ∧ x = y := by
  unfold number
  rw [Decimal.integer_append_inj ⟨_, closes, rfl⟩, Int32.toInt_inj]

theorem kind_eq_of_shape_append {s t : Shape} {x y : String}
    (same : shape s ++ x = shape t ++ y) : s.kind = t.kind := by
  have apart (u v : String) : "rect" ++ u ≠ "ellipse" ++ v :=
    append_ne_append (i := 0) (c := 'r') (d := 'e') rfl rfl (by decide)
  unfold shape at same
  cases first : s.kind <;> cases second : t.kind <;>
    simp only [first, second, labels, String.append_assoc, String.append_right_inj] at same ⊢
  · exact absurd same (apart _ _)
  · exact absurd same.symm (apart _ _)

theorem shape_selfDelimiting : SelfDelimiting shape := by
  intro s t x y same
  -- Shapes of one kind have the same labels, so the fields come off one by one from the left.
  have kind := kind_eq_of_shape_append same
  unfold shape at same
  simp only [kind, String.append_assoc, String.append_right_inj] at same
  rw [escape_append_inj ⟨'\'', rfl, rfl⟩, String.append_right_inj, String.append_right_inj,
    number_append_inj rfl, String.append_right_inj, String.append_right_inj,
    number_append_inj rfl, String.append_right_inj, String.append_right_inj,
    number_append_inj rfl, String.append_right_inj, String.append_right_inj,
    number_append_inj rfl, css_selfDelimiting.append_inj, String.append_right_inj] at same
  obtain ⟨name, left, top, horizontal, vertical, color, rest⟩ := same
  obtain ⟨⟨_, _, ⟨_, _⟩, ⟨_, _⟩, _⟩, _⟩ := s
  obtain ⟨⟨_, _, ⟨_, _⟩, ⟨_, _⟩, _⟩, _⟩ := t
  simp only at name kind left top horizontal vertical color
  subst name kind left top horizontal vertical color
  exact ⟨rfl, rest⟩

theorem shape_append_ne_closing (s : Shape) (x y : String) :
    shape s ++ x ≠ "</g>\n</svg>\n" ++ y := by
  unfold shape
  cases s.kind <;> simp only [labels, String.append_assoc] <;> rw [← String.append_assoc]
  · exact append_ne_append (i := 1) (c := 'r') (d := '/') rfl rfl (by decide)
  · exact append_ne_append (i := 1) (c := 'e') (d := '/') rfl rfl (by decide)

def drawing (size : Int64 × Int64) (s : Snapshot) : String :=
  "<p>Snapshot ID: " ++ escape s.id.text ++ "</p>\n<p>Snapshot Timestamp: " ++
    escape s.timestamp ++ "</p>\n<p>Snapshot Description: " ++ escape s.description ++
    "</p>\n\n<svg width='" ++ Decimal.integer size.1.toInt ++ "' height='" ++
    Decimal.integer size.2.toInt ++ "'>\n<g transform=\"translate(0, 0)\">\n" ++
    String.join (s.shapes.map shape) ++ "</g>\n</svg>\n"

theorem snapshot_eq_drawing (options : PageOptions) (s : Snapshot) :
    snapshot options s = drawing (drawingSize options s.shapes) s := by
  unfold snapshot drawing
  generalize drawingSize options s.shapes = size
  cases size
  with_reducible rfl

theorem drawing_selfDelimiting :
    SelfDelimiting fun d : (Int64 × Int64) × Snapshot => drawing d.1 d.2 := by
  rintro ⟨⟨_, _⟩, s⟩ ⟨⟨_, _⟩, t⟩ x y same
  unfold drawing at same
  simp only [String.append_assoc, String.append_right_inj] at same
  rw [escape_append_inj ⟨'<', rfl, rfl⟩, escape_append_inj ⟨'<', rfl, rfl⟩,
    escape_append_inj ⟨'<', rfl, rfl⟩, Decimal.integer_append_inj ⟨'\'', rfl, rfl⟩,
    Decimal.integer_append_inj ⟨'\'', rfl, rfl⟩,
    shape_selfDelimiting.join_append_inj shape_append_ne_closing, Int64.toInt_inj,
    Int64.toInt_inj] at same
  obtain ⟨id, timestamp, description, width, height, shapes, rest⟩ := same
  obtain ⟨⟨_⟩, _, _, _⟩ := s
  obtain ⟨⟨_⟩, _, _, _⟩ := t
  simp only at id timestamp description width height shapes
  subst id timestamp description width height shapes
  exact ⟨rfl, rest⟩

def sized (options : PageOptions) (s : Snapshot) : (Int64 × Int64) × Snapshot :=
  (drawingSize options s.shapes, s)

def panel (d : (Int64 × Int64) × Snapshot) : String :=
  "<div class='snapshot'>\n" ++ drawing d.1 d.2 ++ "</div>\n"

theorem panel_selfDelimiting : SelfDelimiting panel := by
  intro d e x y same
  unfold panel at same
  simp only [String.append_assoc, String.append_right_inj] at same
  obtain ⟨equal, rest⟩ := drawing_selfDelimiting same
  exact ⟨equal, (String.append_right_inj _).mp rest⟩

theorem panel_append_ne_ending (d : (Int64 × Int64) × Snapshot) (x y : String) :
    panel d ++ x ≠ "</body>\n</html>\n" ++ y := by
  unfold panel
  simp only [String.append_assoc]
  exact append_ne_append (i := 1) (c := 'd') (d := '/') rfl rfl (by decide)

theorem panel_sized (options : PageOptions) (s : Snapshot) :
    panel (sized options s) =
      "<div class='snapshot'>\n" ++ snapshot options s ++ "</div>\n" := by
  unfold panel sized
  rw [snapshot_eq_drawing]

theorem album_eq_panels (options : PageOptions) (snapshots : List Snapshot) :
    album options snapshots =
      "<!DOCTYPE html>\n<html>\n<head>\n<title>" ++ (escape options.title ++
        ("</title>\n" ++ (style ++ ("</head>\n<body>\n<h1>" ++ (escape options.heading ++
          ("</h1>\n" ++ (String.join ((snapshots.map (sized options)).map panel) ++
            ("</body>\n</html>\n" ++ "")))))))) := by
  unfold album
  simp only [List.map_map, Function.comp_def, panel_sized, String.append_assoc,
    String.append_empty]

theorem pages_lose_nothing (options₁ options₂ : PageOptions)
    (snapshots₁ snapshots₂ : List Snapshot) :
    album options₁ snapshots₁ = album options₂ snapshots₂ ↔
      snapshots₁ = snapshots₂ ∧ options₁.title = options₂.title ∧
      options₁.heading = options₂.heading ∧
      snapshots₁.map (drawingSize options₁ ·.shapes) =
        snapshots₂.map (drawingSize options₂ ·.shapes) := by
  rw [album_eq_panels, album_eq_panels, String.append_right_inj,
    escape_append_inj ⟨'<', rfl, rfl⟩, String.append_right_inj, String.append_right_inj,
    escape_append_inj ⟨'<', rfl, rfl⟩,
    panel_selfDelimiting.join_append_inj panel_append_ne_ending]
  constructor
  · rintro ⟨title, heading, shown, -⟩
    have snapshots := congrArg (List.map Prod.snd) shown
    have sizes := congrArg (List.map Prod.fst) shown
    rw [List.map_map, List.map_map] at snapshots sizes
    exact ⟨by simpa [sized, Function.comp_def] using snapshots, title, heading, sizes⟩
  · rintro ⟨rfl, title, heading, sizes⟩
    refine ⟨title, heading, ?_, rfl⟩
    apply List.map_congr_left
    intro s member
    rw [sized, sized, List.map_inj_left.mp sizes s member]

end CanvasAlbum.Page
