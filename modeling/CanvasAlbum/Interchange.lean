import CanvasAlbum.Capture.Snapshot
import CanvasAlbum.Json.Codec
import CanvasAlbum.Script.Reading

namespace CanvasAlbum
open Json

def Position.codec : Codec Refusal Position :=
  (Fields.required "x" .word32 <| .required "y" .word32 .nil).codec.map
    (fun (x, y, _) => ⟨x, y⟩) (fun p => (p.x, p.y, ()))

def Extent.codec : Codec Refusal Extent :=
  (Fields.required "horizontal" .word32 <| .required "vertical" .word32 .nil).codec.map
    (fun (h, v, _) => ⟨h, v⟩) (fun e => (e.horizontal, e.vertical, ()))

def Color.codec : Codec Refusal Color :=
  (Fields.required "r" .word32 <| .required "g" .word32 <| .required "b" .word32 .nil).codec.map
    (fun (r, g, b, _) => ⟨r, g, b⟩) (fun c => (c.red, c.green, c.blue, ()))

def ShapeKind.codec : Codec Refusal ShapeKind := .names [rectangle, oval] ShapeKind.name

def Blueprint.codec : Codec Refusal Blueprint :=
  (Fields.required "name" .text <| .required "kind" ShapeKind.codec <|
    .required "position" Position.codec <| .required "extent" Extent.codec <|
    .required "color" Color.codec .nil).codec.map
    (fun (name, kind, position, extent, color, _) => ⟨name, kind, position, extent, color⟩)
    (fun b => (b.name, b.kind, b.position, b.extent, b.color, ()))

def Shape.codec : Codec Refusal Shape := Blueprint.codec.refine Shape.ofBlueprint (·.toBlueprint)

def SnapshotId.codec : Codec Refusal SnapshotId := .map .text SnapshotId.mk SnapshotId.text

def Snapshot.codec : Codec Refusal Snapshot :=
  (Fields.required "id" SnapshotId.codec <| .required "timestamp" .text <|
    .required "description" .text <| .required "shapes" (.list Shape.codec) .nil).codec.map
    (fun (id, timestamp, description, shapes, _) => ⟨id, timestamp, description, shapes⟩)
    (fun s => (s.id, s.timestamp, s.description, s.shapes, ()))

namespace Operation

def namedFields {α : Type} (field : String) (codec : Codec Refusal α) :
    Codec Refusal (String × α × Unit) :=
  (Fields.required "name" .text <| .required field codec .nil).codec

def nameFields : Codec Refusal (String × Unit) := (Fields.required "name" .text .nil).codec

def descriptionFields : Codec Refusal (String × Unit) :=
  (Fields.required "description" .text .nil).codec

/-- An operation is an object whose only member is named for what it does. -/
def codec : Codec Refusal Operation where
  write
    | create blueprint => .object [("CreateShape", Blueprint.codec.write blueprint)]
    | move name position =>
      .object [("MoveShape", (namedFields "position" Position.codec).write (name, position, ()))]
    | resize name extent =>
      .object [("ResizeShape", (namedFields "extent" Extent.codec).write (name, extent, ()))]
    | recolor name color =>
      .object [("RecolorShape", (namedFields "color" Color.codec).write (name, color, ()))]
    | remove name => .object [("RemoveShape", nameFields.write (name, ()))]
    | snapshot description => .object [("TakeSnapshot", descriptionFields.write (description, ()))]
  read := .tagged [
    ("CreateShape", create <$> Blueprint.codec.read),
    ("MoveShape", (fun (name, position, _) => move name position) <$>
      (namedFields "position" Position.codec).read),
    ("ResizeShape", (fun (name, extent, _) => resize name extent) <$>
      (namedFields "extent" Extent.codec).read),
    ("RecolorShape", (fun (name, color, _) => recolor name color) <$>
      (namedFields "color" Color.codec).read),
    ("RemoveShape", (fun (name, _) => remove name) <$> nameFields.read),
    ("TakeSnapshot", (fun (description, _) => snapshot description) <$> descriptionFields.read)]

end Operation

namespace Archive

def codec : Codec Refusal (List Snapshot) := .list Snapshot.codec

def album (snapshots : List Snapshot) : String := (codec.write snapshots).render .pretty

def read (text : String) : Except (Fault Refusal) (List Snapshot) := codec.read.run text

end Archive

end CanvasAlbum
