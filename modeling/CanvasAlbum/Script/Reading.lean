import CanvasAlbum.Refusal
import CanvasAlbum.Text.Lowercase

namespace CanvasAlbum
open Text

inductive Operation where
  | create (blueprint : Blueprint)
  | move (name : String) (position : Position)
  | resize (name : String) (extent : Extent)
  | recolor (name : String) (color : Color)
  | remove (name : String)
  | snapshot (description : String)
  deriving DecidableEq

namespace Operation

def action : Operation → Action
  | create .. => .create
  | move .. => .move
  | resize .. => .resize
  | recolor .. => .recolor
  | remove .. => .remove
  | snapshot .. => .snapshot

def target? : Operation → Option String
  | create blueprint => some blueprint.name
  | move name _ => some name
  | resize name _ => some name
  | recolor name _ => some name
  | remove name => some name
  | snapshot _ => none

end Operation

namespace Instruction

def number (field : Field) (token : String) : Except LineFault Int32 :=
  match Decimal.word32? token with
  | some n => .ok n
  | none => .error (.notANumber field token)

def kind (token : String) : Except LineFault ShapeKind :=
  match ShapeKind.ofName? token with
  | some kind => .ok kind
  | none => .error (.unknownKind token)

def position (x y : String) : Except LineFault Position := do
  let x ← number .x x
  let y ← number .y y
  return ⟨x, y⟩

def extent (h v : String) : Except LineFault Extent := do
  let h ← number .horizontal h
  let v ← number .vertical v
  return ⟨h, v⟩

def color (r g b : String) : Except LineFault Color := do
  let r ← number .red r
  let g ← number .green g
  let b ← number .blue b
  return ⟨r, g, b⟩

def counted (expected : Nat) (tokens : List String)
    (ask : tokens.length = expected → Except LineFault Operation) : Except LineFault Operation :=
  if count : tokens.length = expected then ask count
  else .error (.tokenCount expected tokens.length)

def create (tokens : List String) : Except LineFault Operation :=
  counted 10 tokens fun _ => do
    let kind ← kind tokens[2]
    let position ← position tokens[3] tokens[4]
    let extent ← extent tokens[5] tokens[6]
    let color ← color tokens[7] tokens[8] tokens[9]
    return .create ⟨tokens[1], kind, position, extent, color⟩

def move (tokens : List String) : Except LineFault Operation :=
  counted 4 tokens fun _ => return .move tokens[1] (← position tokens[2] tokens[3])

def resize (tokens : List String) : Except LineFault Operation :=
  counted 4 tokens fun _ => return .resize tokens[1] (← extent tokens[2] tokens[3])

def recolor (tokens : List String) : Except LineFault Operation :=
  counted 5 tokens fun _ => return .recolor tokens[1] (← color tokens[2] tokens[3] tokens[4])

def remove (tokens : List String) : Except LineFault Operation :=
  counted 2 tokens fun _ => return .remove tokens[1]

def snapshot (tokens : List String) : Except LineFault Operation :=
  .ok (.snapshot (" ".intercalate tokens.tail))

def operation : Action → List String → Except LineFault Operation
  | .create => create
  | .move => move
  | .resize => resize
  | .recolor => recolor
  | .remove => remove
  | .snapshot => snapshot

def read (action : Action) (tokens : List String) : Except Refusal Operation :=
  (operation action tokens).mapError (.faultyLine action)

end Instruction

def Action.ofKeyword? (keyword : String) : Option Action :=
  all.find? (·.keyword = lowercase keyword)

/-- The first line at fault. Lines count from 1. -/
structure ScriptFault where
  line : Nat
  cause : Refusal
  deriving DecidableEq

def ScriptFault.message (f : ScriptFault) : String :=
  "line " ++ Decimal.natural f.line ++ ": " ++ f.cause.message

namespace Script

def readLine (line : String) : Except Refusal (Option Operation) :=
  match tokens line with
  | [] => .ok none
  | keyword :: rest =>
    match Action.ofKeyword? keyword with
    | none => .ok none
    | some action => (Instruction.read action (keyword :: rest)).map some

def readLinesFrom (n : Nat) : List String → Except ScriptFault (List Operation)
  | [] => .ok []
  | line :: rest =>
    match readLine line with
    | .error cause => .error ⟨n, cause⟩
    | .ok none => readLinesFrom (n + 1) rest
    | .ok (some operation) => (readLinesFrom (n + 1) rest).map (operation :: ·)

def readLines (lines : List String) : Except ScriptFault (List Operation) := readLinesFrom 1 lines

def read (text : String) : Except ScriptFault (List Operation) := readLines (lines text)

end Script

end CanvasAlbum
