import CanvasAlbum.Drawing.Shape

namespace CanvasAlbum

inductive Action where
  | create
  | move
  | resize
  | recolor
  | remove
  | snapshot
  deriving DecidableEq

namespace Action

def all : List Action := [create, move, resize, recolor, remove, snapshot]

def label : Action → String
  | create => "create"
  | move => "move"
  | resize => "resize"
  | recolor => "change color"
  | remove => "remove"
  | snapshot => "take snapshot"

def keyword : Action → String
  | create => "shape"
  | move => "move"
  | resize => "resize"
  | recolor => "color"
  | remove => "remove"
  | snapshot => "snapshot"

end Action

inductive Field where
  | x
  | y
  | horizontal
  | vertical
  | red
  | green
  | blue
  deriving DecidableEq

def Field.name : Field → String
  | .x => "x"
  | .y => "y"
  | .horizontal => "h"
  | .vertical => "v"
  | .red => "r"
  | .green => "g"
  | .blue => "b"

open Text

inductive LineFault where
  /-- Both counts include the keyword. -/
  | tokenCount (expected found : Nat)
  | notANumber (field : Field) (token : String)
  | unknownKind (token : String)
  deriving DecidableEq

def LineFault.message : LineFault → String
  | tokenCount expected found =>
      "wrong argument count: expected " ++ Decimal.natural expected ++ " tokens, found " ++
        Decimal.natural found
  | notANumber field token => "invalid value `" ++ token ++ "` for " ++ field.name
  | unknownKind token => "unsupported shape kind `" ++ token ++ "`"

inductive Refusal where
  | faultyLine (action : Action) (fault : LineFault)
  | nameTaken (name : String)
  | noSuchShape (name : String)
  | channelsOutOfRange (color : Color)
  | nothingToCapture
  | unknownKind (name : String)
  | noName
  | idTaken (id : String)
  deriving DecidableEq

def Refusal.message : Refusal → String
  | faultyLine action fault =>
      "invalid instruction for action " ++ action.label ++ ": " ++ fault.message
  | nameTaken name => "shape name `" ++ name ++ "` is already taken"
  | noSuchShape name => "shape `" ++ name ++ "` doesn't exist"
  | channelsOutOfRange color =>
      "color value " ++ color.text ++ " is out of bounds, channels must be within 0..=255"
  | nothingToCapture => "no content to take a snapshot of"
  | unknownKind name => "shape kind `" ++ name ++ "` isn't supported"
  | noName => "shape name must not be empty"
  | idTaken id => "snapshot `" ++ id ++ "` is already recorded"

def ShapeKind.ofName (text : String) : Except Refusal ShapeKind :=
  match ofName? text with
  | some kind => .ok kind
  | none => .error (.unknownKind text)

def Shape.ofBlueprint (b : Blueprint) : Except Refusal Shape :=
  if h : b.name = "" then .error .noName else .ok ⟨b, h⟩

end CanvasAlbum
