import CanvasAlbum.Text.Basic

namespace CanvasAlbum
open Text

structure Position where
  x : Int32
  y : Int32
  deriving DecidableEq

/-- The horizontal and vertical size of a shape. Zero and negative sizes are legal. -/
structure Extent where
  horizontal : Int32
  vertical : Int32
  deriving DecidableEq

structure Color where
  red : Int32
  green : Int32
  blue : Int32
  deriving DecidableEq

def Position.text (p : Position) : String :=
  "(" ++ Decimal.integer p.x.toInt ++ "," ++ Decimal.integer p.y.toInt ++ ")"

namespace Color

def text (c : Color) : String :=
  "(" ++ Decimal.integer c.red.toInt ++ "," ++ Decimal.integer c.green.toInt ++ "," ++
    Decimal.integer c.blue.toInt ++ ")"

def css (c : Color) : String := "rgb" ++ c.text

def inRange (c : Color) : Bool :=
  [c.red, c.green, c.blue].all fun channel => 0 ≤ channel && channel ≤ 255

end Color

inductive ShapeKind where
  | rectangle
  | oval
  deriving DecidableEq

namespace ShapeKind

def name : ShapeKind → String
  | rectangle => "rectangle"
  | oval => "oval"

def ofName? (text : String) : Option ShapeKind := [rectangle, oval].find? (·.name = text)

end ShapeKind

/-- All that describes a shape, before its name has been checked. -/
structure Blueprint where
  name : String
  kind : ShapeKind
  position : Position
  extent : Extent
  color : Color
  deriving DecidableEq

structure Shape extends Blueprint where
  name_ne_empty : name ≠ ""
  deriving DecidableEq

/-- The box around a shape. Its ends need up to 34 bits. -/
structure Bounds where
  minX : Int64
  minY : Int64
  maxX : Int64
  maxY : Int64
  deriving DecidableEq

namespace Shape

def moveTo (s : Shape) (position : Position) : Shape := { s with position }

def resize (s : Shape) (extent : Extent) : Shape := { s with extent }

def recolor (s : Shape) (color : Color) : Shape := { s with color }

@[simp] theorem moveTo_name (s : Shape) (p : Position) : (s.moveTo p).name = s.name := rfl

@[simp] theorem resize_name (s : Shape) (e : Extent) : (s.resize e).name = s.name := rfl

@[simp] theorem recolor_name (s : Shape) (c : Color) : (s.recolor c).name = s.name := rfl

/-- A rectangle stands on its position with one corner; an oval has its center there and its extent
as radii. -/
def bounds (s : Shape) : Bounds :=
  let x := s.position.x.toInt64
  let y := s.position.y.toInt64
  let h := s.extent.horizontal.toInt64
  let v := s.extent.vertical.toInt64
  match s.kind with
  | .rectangle => ⟨min x (x + h), min y (y + v), max x (x + h), max y (y + v)⟩
  | .oval => ⟨x - h.abs, y - v.abs, x + h.abs, y + v.abs⟩

end Shape

end CanvasAlbum
