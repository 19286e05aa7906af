import CanvasAlbum.Capture.Snapshot

namespace CanvasAlbum
open Text

namespace Markup

def escapeChar (c : Char) : List Char :=
  match c with
  | '&' => ['&', 'a', 'm', 'p', ';']
  | '<' => ['&', 'l', 't', ';']
  | '>' => ['&', 'g', 't', ';']
  | '"' => ['&', 'q', 'u', 'o', 't', ';']
  | '\'' => ['&', '#', '3', '9', ';']
  | c => [c]

def escape (text : String) : String := String.ofList (text.toList.flatMap escapeChar)

end Markup

structure PageOptions where
  title : String
  heading : String
  width : UInt32
  height : UInt32
  deriving DecidableEq

def PageOptions.standard : PageOptions :=
  ⟨"Shapes Photo Album", "Welcome To The Album!", 1000, 1000⟩

namespace Page

def drawingSize (options : PageOptions) (shapes : List Shape) : Int64 × Int64 :=
  shapes.foldl (fun (width, height) s => (max width s.bounds.maxX, max height s.bounds.maxY))
    (options.width.toUInt64.toInt64, options.height.toUInt64.toInt64)

structure Labels where
  element : String
  x : String
  y : String
  horizontal : String
  vertical : String

def labels : ShapeKind → Labels
  | .rectangle => ⟨"rect", "x", "y", "width", "height"⟩
  | .oval => ⟨"ellipse", "cx", "cy", "rx", "ry"⟩

def number (n : Int32) : String := Decimal.integer n.toInt

def shape (s : Shape) : String :=
  let labels := labels s.kind
  "<" ++ labels.element ++ " id='" ++ Markup.escape s.name ++ "' " ++
    labels.x ++ "='" ++ number s.position.x ++ "' " ++
    labels.y ++ "='" ++ number s.position.y ++ "' " ++
    labels.horizontal ++ "='" ++ number s.extent.horizontal ++ "' " ++
    labels.vertical ++ "='" ++ number s.extent.vertical ++ "' fill='" ++ s.color.css ++ "' />\n"

def snapshot (options : PageOptions) (s : Snapshot) : String :=
  let (width, height) := drawingSize options s.shapes
  "<p>Snapshot ID: " ++ Markup.escape s.id.text ++ "</p>\n<p>Snapshot Timestamp: " ++
    Markup.escape s.timestamp ++ "</p>\n<p>Snapshot Description: " ++
    Markup.escape s.description ++ "</p>\n\n<svg width='" ++ Decimal.integer width.toInt ++
    "' height='" ++ Decimal.integer height.toInt ++
    "'>\n<g transform=\"translate(0, 0)\">\n" ++ String.join (s.shapes.map shape) ++
    "</g>\n</svg>\n"

def style : String :=
  "<style>\n.snapshot \x7b\n    border: 2px solid black;\n    padding: 10px;\n" ++
    "    margin-bottom: 20px;\n    background-color: rgb(255, 255, 153);\n\x7d\n" ++
    "h1 \x7b\n  font-family: 'Comic Sans MS', cursive;\n  color: orange;\n\x7d\n</style>\n"

def album (options : PageOptions) (snapshots : List Snapshot) : String :=
  "<!DOCTYPE html>\n<html>\n<head>\n<title>" ++ Markup.escape options.title ++ "</title>\n" ++
    style ++ "</head>\n<body>\n<h1>" ++ Markup.escape options.heading ++ "</h1>\n" ++
    String.join (snapshots.map fun s =>
      "<div class='snapshot'>\n" ++ snapshot options s ++ "</div>\n") ++
    "</body>\n</html>\n"

end Page

end CanvasAlbum
