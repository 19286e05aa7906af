import CanvasAlbum.Album
import CanvasAlbum.Command.Config
import CanvasAlbum.Command.Storage

namespace CanvasAlbum

inductive Failure where
  | configUnreadable (path : Path)
  | configInvalid (path : Path)
  | outputNeeded
  | scriptUnreadable (path : Path)
  | scriptFailed (path : Path) (cause : RunFault)
  | outputExists (path : Path)
  | directoryRefused (path : Path)
  | outputRefused (path : Path)
  deriving DecidableEq

namespace Failure

def message : Failure → String
  | configUnreadable path => "Failed to read config " ++ path.quoted
  | configInvalid path => "Invalid config " ++ path.quoted
  | outputNeeded => "The web view needs an output file (--out)"
  | scriptUnreadable path => "Failed to read script " ++ path.quoted
  | scriptFailed path _ => "Failed to run " ++ path.quoted
  | outputExists path =>
      "Output file " ++ path.quoted ++ " already exists (use --force to replace it)"
  | directoryRefused path => "Failed to create directory " ++ path.quoted
  | outputRefused path => "Failed to save to " ++ path.quoted

def cause? : Failure → Option RunFault
  | scriptFailed _ cause => some cause
  | _ => none

end Failure

namespace Command

variable {m : Type → Type} [Monad m] [Storage m]

def loadConfig (path : Path) : ExceptT Failure m Config := do
  match ← (Storage.read path : m Reading) with
  | .missing => return .standard
  | .unreadable => throw (.configUnreadable path)
  | .text content =>
    match Config.ofText? content with
    | some config => return config
    | none => throw (.configInvalid path)

def readScript (path : Path) : ExceptT Failure m String := do
  match ← (Storage.read path : m Reading) with
  | .text content => return content
  | _ => throw (.scriptUnreadable path)

def snapshots (sources : Sources) (path : Path) (script : String) :
    Except Failure (List Snapshot) :=
  match Album.empty.performScript sources script with
  | (.ok _, album) => .ok album.snapshots
  | (.error cause, _) => .error (.scriptFailed path cause)

def save (path : Path) (content : String) (overwrite : Bool) : ExceptT Failure m Unit := do
  if (← (Storage.holds path : m Bool)) && !overwrite then throw (.outputExists path)
  if let some directory := path.parent? then
    unless ← (Storage.makeDirectory directory : m Bool) do throw (.directoryRefused directory)
  unless ← (Storage.write path content : m Bool) do throw (.outputRefused path)

def emptyNotice : String := "No snapshots in this album.\n"

/-- Runs the command and gives what belongs on standard output. The sources are asked for once, for
as many clock readings as the script has lines, which is never too few. -/
def run (sources : Nat → m Sources) (defaultConfig : Path) (arguments : Arguments) :
    ExceptT Failure m String := do
  let config ← loadConfig (arguments.config.getD defaultConfig)
  let config := config.override arguments
  if arguments.format = .web ∧ arguments.output = none then throw .outputNeeded
  let script ← readScript arguments.script
  let sources ← (sources (Text.lines script).length : m Sources)
  let snapshots ← (snapshots sources arguments.script script : Except Failure _)
  if snapshots.isEmpty then return emptyNotice
  let rendered := arguments.format.render config.pageOptions snapshots
  match arguments.output with
  | none => return rendered
  | some path =>
    save path rendered config.overwrite
    return ""

end Command

inductive Report where
  | printed (output : String)
  | failed (failure : Failure)
  | misused (usage : UsageError)

namespace Report

def exitCode : Report → UInt8
  | printed _ => 0
  | failed _ => 1
  | misused _ => 2

def output : Report → String
  | printed output => output
  | _ => ""

end Report

namespace Command

def versionText : String := "shapealbum 0.1.0\n"

def helpText : String :=
  "Run a shape script and export its snapshots\n\n" ++
    "Usage: shapealbum --in <SCRIPT> --view <VIEW> [OPTIONS] [XMAX] [YMAX]\n\n" ++
    "  -i, --in <SCRIPT>     Action script to run\n" ++
    "  -v, --view <VIEW>     web (html), text (txt) or json\n" ++
    "  -o, --out <FILE>      Output file (required for the web view)\n" ++
    "      --force           Replace the output file if it already exists\n" ++
    "      --config <FILE>   Config file\n" ++
    "      --verbose         Tell when the script is done\n" ++
    "  -h, --help            Print help\n" ++
    "  -V, --version         Print version\n"

def report {m : Type → Type} [Monad m] [Storage m] (sources : Nat → m Sources)
    (defaultConfig : Path) (texts : List String) : m Report :=
  match Request.ofTexts texts with
  | .error usage => return .misused usage
  | .ok .version => return .printed versionText
  | .ok .help => return .printed helpText
  | .ok (.run arguments) => do
    match ← (run sources defaultConfig arguments).run with
    | .ok output => return .printed output
    | .error failure => return .failed failure

end Command

end CanvasAlbum
