import CanvasAlbum.Json.Text
import CanvasAlbum.Text.Basic

namespace CanvasAlbum.Json
open Text

inductive Fault (ε : Type) where
  | malformed
  | refused (cause : ε)

abbrev Reader (ε α : Type) := StateT (List Char) (Except (Fault ε)) α

def isSpace (c : Char) : Bool := c == ' ' || c == '\n' || c == '\t' || c == '\r'

namespace Reader

variable {ε α : Type}

def malformed : Reader ε α := throw .malformed

def skipSpace : Reader ε Unit := modify (·.dropWhile isSpace)

def peek : Reader ε (Option Char) := do return (← get).head?

def next : Reader ε (Option Char) := do
  skipSpace
  peek

def advance : Reader ε Unit := modify List.tail

def expect (c : Char) : Reader ε Unit := do
  if (← next) = some c then advance else malformed

def literal (word : String) : Reader ε Unit := do
  skipSpace
  let s ← get
  if word.toList.isPrefixOf s then set (s.drop word.toList.length) else malformed

def digitRun : Reader ε (List Char) := do
  let s ← get
  set (s.dropWhile Char.isDigit)
  return s.takeWhile Char.isDigit

def wholeDigits : Reader ε (List Char) := do
  let digits ← digitRun
  if digits = [] ∨ digits.head? = some '0' ∧ 1 < digits.length then malformed else return digits

def minus : Reader ε Bool := do
  if (← next) = some '-' then
    advance
    return true
  else return false

/-- A whole number. Zero has no sign. -/
def integer : Reader ε Int := do
  let negative ← minus
  let n := Decimal.value (← wholeDigits)
  if negative then
    if n = 0 then malformed else return -n
  else return n

def ofOption : Option α → Reader ε α
  | some a => return a
  | none => malformed

def word32 : Reader ε Int32 := do ofOption (Decimal.word? (← integer))

def unsigned32 : Reader ε UInt32 := do ofOption (Decimal.unsignedWord? (← integer))

def flag : Reader ε Bool := do
  if (← next) = some 't' then
    literal "true"
    return true
  else
    literal "false"
    return false

def textWith (escape : (s : List Char) → Option (Char × Shorter s)) : Reader ε String := do
  expect '"'
  let (cs, rest) ← ofOption (scanText escape [] (← get))
  set rest
  return String.ofList cs

def text : Reader ε String := textWith escape?

def itemsFrom (item : Reader ε α) : Nat → Reader ε (List α)
  | 0 => malformed
  | fuel + 1 => do
    let a ← item
    match ← next with
    | some ',' =>
      advance
      return a :: (← itemsFrom item fuel)
    | some ']' =>
      advance
      return [a]
    | _ => malformed

def array (item : Reader ε α) : Reader ε (List α) := do
  expect '['
  if (← next) = some ']' then
    advance
    return []
  else itemsFrom item (← get).length

def tagged (cases : List (String × Reader ε α)) : Reader ε α := do
  expect '{'
  let body ← ofOption (cases.lookup (← text))
  expect ':'
  let a ← body
  expect '}'
  return a

def refine {β : Type} (r : Reader ε α) (check : α → Except ε β) : Reader ε β := do
  match check (← r) with
  | .ok b => return b
  | .error cause => throw (.refused cause)

def run (r : Reader ε α) (s : String) : Except (Fault ε) α :=
  match r s.toList with
  | .error fault => .error fault
  | .ok (a, rest) => if (rest.dropWhile isSpace).isEmpty then .ok a else .error .malformed

end Reader

end CanvasAlbum.Json
