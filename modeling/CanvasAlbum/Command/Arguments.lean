import CanvasAlbum.Command.Storage
import CanvasAlbum.View.Format

/-!
# Arguments

Options with a value may have it attached or take the next argument, unless that is an option
itself. Nothing may be said twice. Arguments that are no options are the width and the height;
behind a double dash there are no options any more. A request for the version or for help is met
as soon as it is read, if nothing before it was wrong.
-/

namespace CanvasAlbum
open Text

structure Arguments where
  script : Path
  format : Format
  output : Option Path
  config : Option Path
  force : Bool
  verbose : Bool
  width : Option UInt32
  height : Option UInt32

inductive Setting where
  | script
  | view
  | output
  | config
  deriving DecidableEq

inductive Switch where
  | force
  | verbose
  | help
  | version
  deriving DecidableEq

inductive OptionKey where
  | setting (s : Setting)
  | switch (s : Switch)
  deriving DecidableEq

namespace OptionKey

def longNames : List (String × OptionKey) :=
  [("in", .setting .script), ("view", .setting .view), ("out", .setting .output),
    ("config", .setting .config), ("force", .switch .force), ("verbose", .switch .verbose),
    ("help", .switch .help), ("version", .switch .version)]

def shortNames : List (Char × OptionKey) :=
  [('i', .setting .script), ('v', .setting .view), ('o', .setting .output), ('h', .switch .help),
    ('V', .switch .version)]

end OptionKey

inductive UsageError where
  | unknownOption (text : String)
  | unwantedValue (text : String)
  | missingValue (setting : Setting)
  | repeated (key : OptionKey)
  | invalidValue (text : String)
  | unexpected (text : String)
  | missing (setting : Setting)
  deriving DecidableEq

def UsageError.message : UsageError → String
  | unknownOption text => "unexpected argument '" ++ text ++ "' found"
  | unwantedValue text => "unexpected value in '" ++ text ++ "' found"
  | missingValue _ => "an option lacks its value"
  | repeated _ => "an option cannot be used multiple times"
  | invalidValue text => "invalid value '" ++ text ++ "'"
  | unexpected text => "unexpected argument '" ++ text ++ "' found"
  | missing _ => "a required option was not provided"

inductive Argument where
  | plain (text : String)
  | setting (s : Setting) (attached : Option String)
  | switch (s : Switch)
  | doubleDash

namespace Argument

def attached : List Char → Option String
  | '=' :: value => some (String.ofList value)
  | _ => none

def ofLong (text : String) (cs : List Char) : Except UsageError Argument :=
  let value := attached (cs.dropWhile (· ≠ '='))
  match OptionKey.longNames.lookup (String.ofList (cs.takeWhile (· ≠ '='))) with
  | some (.setting s) => .ok (.setting s value)
  | some (.switch s) => if value.isSome then .error (.unwantedValue text) else .ok (.switch s)
  | none => .error (.unknownOption text)

/-- A value may follow the letter directly or behind an equals sign. What follows the letter of a
switch is not looked at: both such switches end the reading. -/
def ofShort (text : String) (letter : Char) (rest : List Char) : Except UsageError Argument :=
  match OptionKey.shortNames.lookup letter with
  | some (.setting s) =>
    .ok (.setting s (if rest = [] then none else (attached rest).or (some (String.ofList rest))))
  | some (.switch s) => .ok (.switch s)
  | none => .error (.unknownOption text)

def ofText (text : String) : Except UsageError Argument :=
  match text.toList with
  | ['-', '-'] => .ok .doubleDash
  | '-' :: '-' :: cs => ofLong text cs
  | '-' :: letter :: rest => ofShort text letter rest
  | _ => .ok (.plain text)

end Argument

structure Draft where
  script : Option Path
  format : Option Format
  output : Option Path
  config : Option Path
  force : Bool
  verbose : Bool
  width : Option UInt32
  height : Option UInt32

inductive Request where
  | run (arguments : Arguments)
  | help
  | version

namespace Draft

def empty : Draft := ⟨none, none, none, none, false, false, none, none⟩

def path (text : String) : Except UsageError Path :=
  if text = "" then .error (.invalidValue text) else .ok ⟨text⟩

def once {α : Type} (key : OptionKey) (slot : Option α) : Except UsageError Unit :=
  if slot.isSome then .error (.repeated key) else .ok ()

def give (d : Draft) (s : Setting) (value : String) : Except UsageError Draft :=
  match s with
  | .script => do
    once (.setting s) d.script
    return { d with script := ← path value }
  | .view => do
    once (.setting s) d.format
    let format ← (Format.ofName value).mapError fun _ => UsageError.invalidValue value
    return { d with format }
  | .output => do
    once (.setting s) d.output
    return { d with output := ← path value }
  | .config => do
    once (.setting s) d.config
    return { d with config := ← path value }

def size (text : String) : Except UsageError UInt32 :=
  match (Decimal.integer? text.toList).bind Decimal.unsignedWord? with
  | some n => .ok n
  | none => .error (.invalidValue text)

def givePlain (d : Draft) (text : String) : Except UsageError Draft :=
  if d.width.isNone then return { d with width := ← size text }
  else if d.height.isNone then return { d with height := ← size text }
  else .error (.unexpected text)

def finish (d : Draft) : Except UsageError Arguments :=
  match d.script, d.format with
  | some script, some format =>
    .ok ⟨script, format, d.output, d.config, d.force, d.verbose, d.width, d.height⟩
  | none, _ => .error (.missing .script)
  | _, none => .error (.missing .view)

/-- Reads the remaining arguments. `awaiting` is the option that the next one is the value of. -/
def read (d : Draft) (awaiting : Option Setting) : List String → Except UsageError Request
  | [] =>
    match awaiting with
    | some s => .error (.missingValue s)
    | none => d.finish.map .run
  | text :: rest => do
    match ← Argument.ofText text, awaiting with
    | .plain value, some s => (← d.give s value).read none rest
    | _, some s => .error (.missingValue s)
    | .plain value, none => (← d.givePlain value).read none rest
    | .setting s none, none => d.read (some s) rest
    | .setting s (some value), none => (← d.give s value).read none rest
    | .switch .help, none => return .help
    | .switch .version, none => return .version
    | .switch .force, none =>
      if d.force then .error (.repeated (.switch .force))
      else ({ d with force := true } : Draft).read none rest
    | .switch .verbose, none =>
      if d.verbose then .error (.repeated (.switch .verbose))
      else ({ d with verbose := true } : Draft).read none rest
    | .doubleDash, none => return .run (← (← rest.foldlM givePlain d).finish)

end Draft

def Request.ofTexts (texts : List String) : Except UsageError Request := Draft.empty.read none texts

end CanvasAlbum
