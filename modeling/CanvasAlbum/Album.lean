import CanvasAlbum.Capture.History
import CanvasAlbum.Drawing.Canvas
import CanvasAlbum.Script.Reading

namespace CanvasAlbum
open Text

structure Album where
  canvas : Canvas
  history : History

/-- Why a batch or a script did not run to its end. Operations count from 0 here and from 1 in
messages. -/
inductive RunFault where
  | script (fault : ScriptFault)
  | operation (index : Nat) (action : Action) (cause : Refusal)
  deriving DecidableEq

def RunFault.message : RunFault → String
  | script fault => fault.message
  | operation index action cause =>
      "operation " ++ Decimal.natural (index + 1) ++ " (" ++ action.label ++ ") failed: " ++
        cause.message

namespace Album

def empty : Album := ⟨.empty, .empty⟩

def snapshots (a : Album) : List Snapshot := a.history.entries

def settle (a : Album) : Except Refusal Canvas → Except Refusal Unit × Album
  | .ok canvas => (.ok (), { a with canvas })
  | .error cause => (.error cause, a)

def capture (sources : Sources) (a : Album) (description : String) :
    Except Refusal Unit × Album :=
  let (stamp, drawn) := a.history.issueStamp sources
  match a.canvas.capture stamp description >>= drawn.record with
  | .ok history => (.ok (), { a with history })
  | .error cause => (.error cause, { a with history := drawn })

/-- Carries out one operation. A snapshot of an empty canvas takes nothing from the sources. -/
def perform (sources : Sources) (a : Album) : Operation → Except Refusal Unit × Album
  | .create blueprint => a.settle (Shape.ofBlueprint blueprint >>= a.canvas.add)
  | .move name position => a.settle (a.canvas.move name position)
  | .resize name extent => a.settle (a.canvas.resize name extent)
  | .recolor name color => a.settle (a.canvas.recolor name color)
  | .remove name => a.settle ((a.canvas.remove name).map (·.2))
  | .snapshot description =>
    if a.canvas.isEmpty then (.error .nothingToCapture, a) else a.capture sources description

def takeSnapshot (sources : Sources) (a : Album) (description : String) :
    Except Refusal Unit × Album :=
  a.perform sources (.snapshot description)

def performFrom (sources : Sources) (done : Nat) (a : Album) :
    List Operation → Except RunFault Nat × Album
  | [] => (.ok done, a)
  | operation :: rest =>
    match a.perform sources operation with
    | (.ok (), next) => next.performFrom sources (done + 1) rest
    | (.error cause, next) => (.error (.operation done operation.action cause), next)

def performAll (sources : Sources) (a : Album) (operations : List Operation) :
    Except RunFault Nat × Album :=
  a.performFrom sources 0 operations

def performScript (sources : Sources) (a : Album) (text : String) : Except RunFault Nat × Album :=
  match Script.read text with
  | .ok operations => a.performAll sources operations
  | .error fault => (.error (.script fault), a)

end Album

end CanvasAlbum
