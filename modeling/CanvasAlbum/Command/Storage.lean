import CanvasAlbum.Text.Quoted

namespace CanvasAlbum

structure Path where
  text : String
  deriving DecidableEq

namespace Path
open Text

def quoted (p : Path) : String := Text.quoted p.text

def isAbsolute (p : Path) : Bool := p.text.toList.head? = some '/'

def steps (p : Path) : List String := (p.text.toList.splitOn '/').map String.ofList

def join (directory : Path) (name : String) : Path :=
  if directory.text = "" ∨ directory.text.toList.getLast? = some '/' then ⟨directory.text ++ name⟩
  else ⟨directory.text ++ "/" ++ name⟩

def divide (cs : List Char) : List Char × List Char :=
  match cs with
  | '/' :: rest => (['/'], rest)
  | ['.'] => (['.'], [])
  | '.' :: '/' :: rest => (['.'], '/' :: rest)
  | cs => ([], cs)

/-- Drops the steps that lead nowhere from the end of a path, of which the last step comes
first. -/
def trim (steps : List (List Char)) : List (List Char) :=
  steps.dropWhile fun step => step = [] || step = ['.']

def parent? (p : Path) : Option Path :=
  let (front, rest) := divide p.text.toList
  match trim (rest.splitOn '/').reverse with
  | [] => none
  | _ :: before =>
    let directory := front ++ ['/'].intercalate (trim before).reverse
    if directory = [] then none else some ⟨String.ofList directory⟩

end Path

inductive Reading where
  | missing
  | unreadable
  | text (content : String)

/-- A place where files are kept, as seen from a working directory. Changes say whether they were
made. -/
class Storage (m : Type → Type) where
  read : Path → m Reading
  holds : Path → m Bool
  makeDirectory : Path → m Bool
  write : Path → String → m Bool

abbrev Location := List String

inductive Node where
  | directory
  | file (content : ByteArray)

/-- Files and directories below a root directory. Of several nodes at one location the first
counts. -/
structure FileTree where
  workingDirectory : Location
  nodes : List (Location × Node)

namespace FileTree

def node? (t : FileTree) (l : Location) : Option Node :=
  if l = [] then some .directory else t.nodes.lookup l

def isDirectory (t : FileTree) (l : Location) : Bool :=
  match t.node? l with
  | some .directory => true
  | _ => false

def put (t : FileTree) (l : Location) (node : Node) : FileTree :=
  { t with nodes := (l, node) :: t.nodes }

def blank (workingDirectory : Location) : FileTree where
  workingDirectory
  nodes := (List.range workingDirectory.length).map fun n =>
    (workingDirectory.take (n + 1), .directory)

def nameLimit : Nat := 255

def pathLimit : Nat := 4095

def fits (p : Path) : Bool := p.text.utf8ByteSize ≤ pathLimit

def step? (here : Location) (name : String) : Option Location :=
  if name = "" ∨ name = "." then some here
  else if name = ".." then some here.dropLast
  else if name.utf8ByteSize ≤ nameLimit then some (here ++ [name])
  else none

def walk (t : FileTree) (here : Location) : List String → Option Location
  | [] => some here
  | name :: rest =>
    if t.isDirectory here then (step? here name).bind fun there => t.walk there rest else none

def base (t : FileTree) (p : Path) : Location := if p.isAbsolute then [] else t.workingDirectory

def locate? (t : FileTree) (p : Path) : Option Location :=
  if p.text ≠ "" ∧ fits p then t.walk (t.base p) p.steps else none

def lookup (t : FileTree) (p : Path) : Option Node := (t.locate? p).bind t.node?

def read (t : FileTree) (p : Path) : Reading :=
  match t.lookup p with
  | none => .missing
  | some .directory => .unreadable
  | some (.file content) =>
    match String.fromUTF8? content with
    | some text => .text text
    | none => .unreadable

/-- Follows some steps and makes the directories that are missing on the way. Says whether it got
to the end; what was made before it had to stop stays. -/
def walkMaking (t : FileTree) (here : Location) : List String → Bool × FileTree
  | [] => (true, t)
  | name :: rest =>
    match step? here name with
    | none => (false, t)
    | some there =>
      match t.node? there with
      | some .directory => t.walkMaking there rest
      | some (.file _) => (false, t)
      | none => (t.put there .directory).walkMaking there rest

def makeDirectory (t : FileTree) (p : Path) : Bool × FileTree :=
  if fits p then t.walkMaking (t.base p) p.steps else (false, t)

def writeBytes (t : FileTree) (p : Path) (content : ByteArray) : Option FileTree :=
  match t.locate? p with
  | none => none
  | some l => if t.isDirectory l then none else some (t.put l (.file content))

instance : Storage (StateM FileTree) where
  read p := do return (← get).read p
  holds p := do return ((← get).lookup p).isSome
  makeDirectory p := modifyGet (·.makeDirectory p)
  write p text := modifyGet fun t =>
    match t.writeBytes p text.toUTF8 with
    | some written => (true, written)
    | none => (false, t)

end FileTree

end CanvasAlbum
