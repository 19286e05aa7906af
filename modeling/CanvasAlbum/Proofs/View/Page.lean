import CanvasAlbum.Proofs.Text.Decimal
import CanvasAlbum.Proofs.View.Markup
import CanvasAlbum.View.Page

namespace CanvasAlbum.Page
open Text Markup

theorem inert_of_mem_integer {i : Int} {c : Char} (member : c ∈ (Decimal.integer i).toList) :
    isMark c = false ∧ c ≠ '&' := by
  rcases Decimal.sign_or_digit_of_mem_integer member with rfl | digit
  · decide
  · have signs : ∀ mark ∈ ['<', '>', '\'', '"', '&'], mark.isDigit = false := by simp
    have other {mark : Char} (special : mark ∈ ['<', '>', '\'', '"', '&']) : c ≠ mark := by
      rintro rfl
      rw [signs c special] at digit
      contradiction
    refine ⟨?_, other (by decide)⟩
    rw [isMark, List.contains_eq_mem, decide_eq_false_iff_not]
    intro mark
    exact other (List.mem_append_left ['&'] mark) rfl

theorem marks_integer (i : Int) : marks (Decimal.integer i) = "" :=
  marks_eq_empty fun _ member => (inert_of_mem_integer member).1

theorem entitiesOnly_integer (i : Int) : EntitiesOnly (Decimal.integer i).toList :=
  entitiesOnly_of_not_mem fun member => (inert_of_mem_integer member).2 rfl

theorem marks_css (c : Color) : marks c.css = "" := by
  simp only [Color.css, Color.text, marks_append, marks_integer]
  decide

def shapeMarks : String := "<''''''''''''>"

def snapshotMarks (shapes : Nat) : String :=
  "<><><><><><><''''><\"\">" ++ String.join (List.replicate shapes shapeMarks) ++ "<><>"

def albumMarks (shapes : List Nat) : String :=
  "<><><><><><>''<><><><><>" ++
    String.join (shapes.map fun count => "<''>" ++ snapshotMarks count ++ "<>") ++ "<><>"

theorem marks_shape (s : Shape) : marks (shape s) = shapeMarks := by
  unfold shape number
  cases s.kind with
  | rectangle =>
      simp only [labels, marks_append, marks_escape, marks_integer, marks_css]
      decide +kernel
  | oval =>
      simp only [labels, marks_append, marks_escape, marks_integer, marks_css]
      decide +kernel

theorem marks_snapshot (options : PageOptions) (s : Snapshot) :
    marks (snapshot options s) = snapshotMarks s.shapes.length := by
  have shapes : marks (String.join (s.shapes.map shape)) =
      String.join (List.replicate s.shapes.length shapeMarks) := by
    simp only [marks_join, marks_shape, List.map_const']
  have opening : marks "<p>Snapshot ID: " ++ marks "</p>\n<p>Snapshot Timestamp: " ++
        marks "</p>\n<p>Snapshot Description: " ++ marks "</p>\n\n<svg width='" ++
        marks "' height='" ++ marks "'>\n<g transform=\"translate(0, 0)\">\n" =
      "<><><><><><><''''><\"\">" := by decide +kernel
  have closing : marks "</g>\n</svg>\n" = "<><>" := marks_ofList _
  unfold snapshot snapshotMarks
  simp only [marks_append, marks_escape, marks_integer, shapes, String.append_empty, opening,
    closing]

theorem marks_style : marks style = "<>''<>" := by
  have both {s t u v : String} (first : marks s = u) (second : marks t = v) :
      marks (s ++ t) = u ++ v := by
    rw [marks_append, first, second]
  unfold style
  calc marks _ = "<>" ++ "" ++ "''<>" :=
        both (both (marks_ofList _) (marks_ofList _)) (marks_ofList _)
    _ = "<>''<>" := rfl

theorem marks_album (options : PageOptions) (snapshots : List Snapshot) :
    marks (album options snapshots) = albumMarks (snapshots.map (·.shapes.length)) := by
  have opening : marks "<!DOCTYPE html>\n<html>\n<head>\n<title>" ++ marks "</title>\n" ++
        marks style ++ marks "</head>\n<body>\n<h1>" ++ marks "</h1>\n" =
      "<><><><><><>''<><><><><>" := by
    rw [marks_style]
    decide +kernel
  have frame : marks "<div class='snapshot'>\n" = "<''>" := marks_ofList _
  have ending : marks "</div>\n" = "<>" := marks_ofList _
  have closing : marks "</body>\n</html>\n" = "<><>" := marks_ofList _
  unfold album albumMarks
  simp only [marks_append, marks_escape, marks_join, marks_snapshot, String.append_empty, opening,
    frame, ending, closing, List.map_map, Function.comp_def]

theorem entitiesOnly_shape (s : Shape) : EntitiesOnly (shape s).toList := by
  unfold shape number Color.css Color.text
  cases s.kind
  all_goals
    repeat' first
      | with_reducible apply entitiesOnly_append
      | with_reducible exact entitiesOnly_escape _
      | with_reducible exact entitiesOnly_integer _
    all_goals exact entitiesOnly_ofList (by decide)

theorem entitiesOnly_snapshot (options : PageOptions) (s : Snapshot) :
    EntitiesOnly (snapshot options s).toList := by
  have shapes : EntitiesOnly (String.join (s.shapes.map shape)).toList :=
    entitiesOnly_join fun s _ => entitiesOnly_shape s
  unfold snapshot
  repeat' first
    | with_reducible apply entitiesOnly_append
    | with_reducible exact entitiesOnly_escape _
    | with_reducible exact entitiesOnly_integer _
    | with_reducible exact shapes
  all_goals exact entitiesOnly_ofList (by decide)

theorem entitiesOnly_album (options : PageOptions) (snapshots : List Snapshot) :
    EntitiesOnly (album options snapshots).toList := by
  have framed (s : Snapshot) :
      EntitiesOnly ("<div class='snapshot'>\n" ++ snapshot options s ++ "</div>\n").toList :=
    entitiesOnly_append
      (entitiesOnly_append (entitiesOnly_ofList (by decide)) (entitiesOnly_snapshot options s))
      (entitiesOnly_ofList (by decide))
  have drawings : EntitiesOnly (String.join (snapshots.map fun s =>
      "<div class='snapshot'>\n" ++ snapshot options s ++ "</div>\n")).toList :=
    entitiesOnly_join fun s _ => framed s
  unfold album style
  repeat' first
    | with_reducible apply entitiesOnly_append
    | with_reducible exact entitiesOnly_escape _
    | with_reducible exact drawings
  all_goals exact entitiesOnly_ofList (by decide)

theorem pages_share_their_marks {options₁ options₂ : PageOptions}
    {snapshots₁ snapshots₂ : List Snapshot}
    (alike : snapshots₁.map (·.shapes.length) = snapshots₂.map (·.shapes.length)) :
    marks (album options₁ snapshots₁) = marks (album options₂ snapshots₂) ∧
      ∀ options snapshots, EntitiesOnly (album options snapshots).toList := by
  refine ⟨?_, entitiesOnly_album⟩
  rw [marks_album, marks_album, alike]

theorem hostile_text_shares_the_marks :
    let plain : Snapshot :=
      ⟨⟨"1"⟩, "noon", "quiet", [⟨⟨"R", .rectangle, ⟨1, 2⟩, ⟨3, 4⟩, ⟨5, 6, 7⟩⟩, by decide⟩]⟩
    let hostile : Snapshot :=
      ⟨⟨"'><script>"⟩, "</p>", "\"&amp;lt;", [⟨⟨"' onload='", .oval, ⟨0, -1⟩, ⟨-9, 0⟩, ⟨300, -1, 0⟩⟩,
        by decide⟩]⟩
    [plain].map (·.shapes.length) = [hostile].map (·.shapes.length) ∧
      marks (album .standard [plain]) =
        marks (album ⟨"</title>", "<b title=\"", 0, 0⟩ [hostile]) := by
  intro plain hostile
  have alike : [plain].map (·.shapes.length) = [hostile].map (·.shapes.length) := rfl
  exact ⟨alike, (pages_share_their_marks alike).1⟩

end CanvasAlbum.Page
