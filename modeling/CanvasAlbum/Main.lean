import CanvasAlbum.Capture.History
import CanvasAlbum.Command.Run
import Std.Time

namespace CanvasAlbum

namespace Command

def isThere : IO.Error → Bool
  | .permissionDenied .. => true
  | _ => false

instance : Storage IO where
  read p := do
    try let _ ← IO.FS.Handle.mk p.text .read
    catch e => return if isThere e then .unreadable else .missing
    try return .text (← IO.FS.readFile p.text)
    catch _ => return .unreadable
  holds p := do
    try
      let _ ← IO.FS.Handle.mk p.text .read
      return true
    catch e => return isThere e
  makeDirectory p := do
    try
      IO.FS.createDirAll p.text
      return true
    catch _ => return false
  write p content := do
    try
      IO.FS.writeFile p.text content
      return true
    catch _ => return false

def readClock : IO Instant := do
  let now ← Std.Time.PlainDateTime.now
  let date := now.date
  let time := now.time
  return (Instant.ofParts? date.year.toInt date.month.val.toNat date.day.val.toNat
    time.hour.val.toNat time.minute.val.toNat time.second.val.toNat
    time.nanosecond.val.toNat).getD .epoch

def readSources (readings : Nat) : IO Sources := do
  let times ← (List.range (readings + 1)).mapM fun _ => readClock
  let seed ← IO.rand 0 0x3FFFFFFFFFFFFFFF
  let times := times.toArray
  return ⟨fun n => times.getD n .epoch, (SuffixLottery.mk (UInt64.ofNat seed)).stream⟩

end Command

end CanvasAlbum

open CanvasAlbum

def main (arguments : List String) : IO UInt32 := do
  let defaultConfig :=
    Config.defaultPath (← IO.getEnv "XDG_CONFIG_HOME") (← IO.getEnv "HOME")
  let report ← Command.report Command.readSources defaultConfig arguments
  IO.print report.output
  match report with
  | .printed _ =>
    if let .ok (.run run) := Request.ofTexts arguments then
      if run.verbose then IO.eprintln ("done with " ++ run.script.quoted)
  | .failed failure =>
    IO.eprintln ("Error: " ++ failure.message)
    if let some cause := failure.cause? then
      IO.eprintln ("\nCaused by:\n    " ++ cause.message)
  | .misused usage => IO.eprintln ("error: " ++ usage.message)
  return report.exitCode.toUInt32
