import CanvasAlbum.Json.Reader
import CanvasAlbum.Json.Skip
import CanvasAlbum.Json.Text
import CanvasAlbum.Text.Basic

/-!
# Codecs

A codec writes the values of a type and reads them back. A record is written as an object with its
fields in order. It is read from an object with its fields in any order, each once, among which
other members are passed over; or from an array of its fields in order.
-/

namespace CanvasAlbum.Json
open Text

structure Layout where
  gap : Nat → List Char
  afterColon : List Char

namespace Layout

def compact : Layout := ⟨fun _ => [], []⟩

def pretty : Layout := ⟨fun depth => '\n' :: List.replicate (2 * depth) ' ', [' ']⟩

end Layout

abbrev Writer := Layout → Nat → List Char

namespace Writer

def integer (i : Int) : Writer := fun _ _ => (Decimal.integer i).toList

def text (s : String) : Writer := fun _ _ => quote s.toList

def flag (b : Bool) : Writer := fun _ _ => (if b then "true" else "false").toList

/-- Items between brackets, with commas between them. Without items there are no blanks either. -/
def bracketed (opening closing : Char) (items : List Writer) : Writer := fun layout depth =>
  if items.isEmpty then [opening, closing]
  else
    opening :: ([','].intercalate (items.map fun item =>
      layout.gap (depth + 1) ++ item layout (depth + 1))) ++ layout.gap depth ++ [closing]

def array (items : List Writer) : Writer := bracketed '[' ']' items

def member (name : String) (value : Writer) : Writer := fun layout depth =>
  quote name.toList ++ ':' :: layout.afterColon ++ value layout depth

def object (members : List (String × Writer)) : Writer :=
  bracketed '{' '}' (members.map fun (name, value) => member name value)

def render (w : Writer) (layout : Layout) : String := String.ofList (w layout 0)

end Writer

structure Codec (ε α : Type) where
  write : α → Writer
  read : Reader ε α

namespace Codec

variable {ε α β : Type}

def word32 : Codec ε Int32 := ⟨fun n => .integer n.toInt, .word32⟩

def unsigned32 : Codec ε UInt32 := ⟨fun n => .integer n.toNat, .unsigned32⟩

def text : Codec ε String := ⟨.text, .text⟩

def flag : Codec ε Bool := ⟨.flag, .flag⟩

def list (item : Codec ε α) : Codec ε (List α) :=
  ⟨fun as => .array (as.map item.write), .array item.read⟩

def map (codec : Codec ε α) (wrap : α → β) (unwrap : β → α) : Codec ε β :=
  ⟨fun b => codec.write (unwrap b), wrap <$> codec.read⟩

def refine (codec : Codec ε α) (check : α → Except ε β) (forget : β → α) : Codec ε β :=
  ⟨fun b => codec.write (forget b), codec.read.refine check⟩

/-- A codec for a type of few values, each written by its name. A name may also be read as a case
without content. -/
def names (values : List α) (name : α → String) : Codec ε α where
  write a := .text (name a)
  read := do
    if (← .next) = some '{' then
      .tagged (values.map fun a => (name a, do
        .literal "null"
        return a))
    else
      let tag ← Reader.text
      .ofOption (values.find? (name · = tag))

end Codec

/-- The fields of a record of type `α`, some of which have been read into slots of type `σ`. -/
structure Fields (ε σ α : Type) where
  start : σ
  member? : String → Option (σ → Reader ε σ)
  finish? : σ → Option α
  items (more : Bool) : Reader ε α
  write : α → List (String × Writer)

namespace Fields

variable {ε σ α β : Type}

def nil : Fields ε Unit Unit where
  start := ()
  member? _ := none
  finish? _ := some ()
  items _ := return ()
  write _ := []

def fill (codec : Codec ε α) : Option α → Reader ε (Option α)
  | some _ => .malformed
  | none => some <$> codec.read

def comma (more : Bool) : Reader ε Unit := if more then .expect ',' else return ()

def required (name : String) (codec : Codec ε α) (others : Fields ε σ β) :
    Fields ε (Option α × σ) (α × β) where
  start := (none, others.start)
  member? key :=
    if key = name then some fun (slot, slots) => do return (← fill codec slot, slots)
    else (others.member? key).map fun read (slot, slots) => do return (slot, ← read slots)
  finish? := fun (slot, slots) => do return (← slot, ← others.finish? slots)
  items more := do
    comma more
    let a ← codec.read
    return (a, ← others.items true)
  write := fun (a, b) => (name, codec.write a) :: others.write b

/-- Puts a field that may be missing in front of the others. An array may end before it. -/
def optional (name : String) (codec : Codec ε α) (fallback : α) (others : Fields ε σ β) :
    Fields ε (Option α × σ) (α × β) :=
  { required name codec others with
    finish? := fun (slot, slots) => do return (slot.getD fallback, ← others.finish? slots)
    items more := do
      if (← .next) = some ']' then return (fallback, ← others.items more)
      else
        comma more
        let a ← codec.read
        return (a, ← others.items true) }

def membersFrom (fields : Fields ε σ α) : Nat → σ → Reader ε σ
  | 0, _ => .malformed
  | fuel + 1, slots => do
    let key ← Reader.text
    .expect ':'
    let slots ← match fields.member? key with
      | some read => read slots
      | none => .skipValue *> pure slots
    match ← .next with
    | some ',' =>
      .advance
      fields.membersFrom fuel slots
    | some '}' =>
      .advance
      return slots
    | _ => .malformed

def members (fields : Fields ε σ α) : Reader ε σ := do
  if (← .next) = some '}' then
    .advance
    return fields.start
  else fields.membersFrom (← get).length fields.start

def read (fields : Fields ε σ α) : Reader ε α := do
  match ← .next with
  | some '{' =>
    .advance
    .ofOption (fields.finish? (← fields.members))
  | some '[' =>
    .advance
    let a ← fields.items false
    .expect ']'
    return a
  | _ => .malformed

def codec (fields : Fields ε σ α) : Codec ε α := ⟨fun a => .object (fields.write a), fields.read⟩

end Fields

end CanvasAlbum.Json
