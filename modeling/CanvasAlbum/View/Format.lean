import CanvasAlbum.Capture.Snapshot
import CanvasAlbum.Interchange
import CanvasAlbum.Text.Lowercase
import CanvasAlbum.View.Page

namespace CanvasAlbum
open Text

namespace Listing

def number (n : Int32) : String := Decimal.integer n.toInt ++ ".0"

structure Labels where
  anchor : String
  horizontal : String
  vertical : String

def labels : ShapeKind → Labels
  | .rectangle => ⟨"Min corner", "Width", "Height"⟩
  | .oval => ⟨"Center", "X radius", "Y radius"⟩

def shape (s : Shape) : String :=
  let labels := labels s.kind
  "Name: " ++ s.name ++ "\nType: " ++ s.kind.name ++ "\n" ++
    labels.anchor ++ ": (" ++ number s.position.x ++ "," ++ number s.position.y ++ "), " ++
    labels.horizontal ++ ": " ++ number s.extent.horizontal ++ ", " ++
    labels.vertical ++ ": " ++ number s.extent.vertical ++ ", Color: (" ++
    number s.color.red ++ "," ++ number s.color.green ++ "," ++ number s.color.blue ++ ")\n\n"

def snapshot (s : Snapshot) : String :=
  "Snapshot ID: " ++ s.id.text ++ "\nTimestamp: " ++ s.timestamp ++ "\nDescription: " ++
    s.description ++ "\nShape Information:\n" ++ String.join (s.shapes.map shape)

def album (snapshots : List Snapshot) : String :=
  String.join (snapshots.map fun s => snapshot s ++ "\n")

end Listing

inductive Format where
  | web
  | text
  | json
  deriving DecidableEq

structure UnknownFormat where
  name : String
  deriving DecidableEq

def UnknownFormat.message (e : UnknownFormat) : String := "unknown export format `" ++ e.name ++ "`"

namespace Format

def name : Format → String
  | web => "web"
  | text => "text"
  | json => "json"

def table : List (String × Format) :=
  [("web", web), ("html", web), ("text", text), ("txt", text), ("json", json)]

def ofName (asked : String) : Except UnknownFormat Format :=
  let name := lowercase asked
  match table.lookup name with
  | some format => .ok format
  | none => .error ⟨name⟩

def render (format : Format) (options : PageOptions) (snapshots : List Snapshot) : String :=
  match format with
  | web => Page.album options snapshots
  | text => Listing.album snapshots
  | json => Archive.album snapshots

end Format

end CanvasAlbum
