namespace CanvasAlbum.Json

def byteDigits (n : Nat) : List Char := [(n / 16).digitChar, (n % 16).digitChar]

def escapeChar (c : Char) : List Char :=
  if c = '"' then ['\\', '"']
  else if c = '\\' then ['\\', '\\']
  else if c = '\x08' then ['\\', 'b']
  else if c = '\x0c' then ['\\', 'f']
  else if c = '\n' then ['\\', 'n']
  else if c = '\r' then ['\\', 'r']
  else if c = '\t' then ['\\', 't']
  else if c.toNat < 0x20 then ['\\', 'u', '0', '0'] ++ byteDigits c.toNat
  else [c]

def quote (cs : List Char) : List Char := '"' :: cs.flatMap escapeChar ++ ['"']

abbrev Shorter (s : List Char) := { rest : List Char // rest.length < s.length }

def hexValue? (c : Char) : Option Nat :=
  if '0' ≤ c ∧ c ≤ '9' then some (c.toNat - '0'.toNat)
  else if 'a' ≤ c ∧ c ≤ 'f' then some (10 + (c.toNat - 'a'.toNat))
  else if 'A' ≤ c ∧ c ≤ 'F' then some (10 + (c.toNat - 'A'.toNat))
  else none

def codeUnit? (s : List Char) : Option (Nat × Shorter s) :=
  match s with
  | a :: b :: c :: d :: rest => do
      let a ← hexValue? a
      let b ← hexValue? b
      let c ← hexValue? c
      let d ← hexValue? d
      return (((a * 16 + b) * 16 + c) * 16 + d, ⟨rest, by grind⟩)
  | _ => none

def isLeading (unit : Nat) : Bool := 0xD800 ≤ unit && unit ≤ 0xDBFF

def isTrailing (unit : Nat) : Bool := 0xDC00 ≤ unit && unit ≤ 0xDFFF

def joinUnits (leading trailing : Nat) : Nat :=
  0x10000 + (leading - 0xD800) * 0x400 + (trailing - 0xDC00)

/-- Reads a character from its code units. A surrogate without its partner is no character. -/
def character? (s : List Char) : Option (Char × Shorter s) :=
  match codeUnit? s with
  | none => none
  | some (unit, ⟨rest, shorter⟩) =>
    if isTrailing unit then none
    else if isLeading unit then
      match rest, shorter with
      | '\\' :: 'u' :: second, shorter =>
        match codeUnit? second with
        | none => none
        | some (partner, ⟨rest, shorter'⟩) =>
          if isTrailing partner then
            some (Char.ofNat (joinUnits unit partner), ⟨rest, by grind⟩)
          else none
      | _, _ => none
    else some (Char.ofNat unit, ⟨rest, shorter⟩)

def shortEscape? (c : Char) : Option Char :=
  [('"', '"'), ('\\', '\\'), ('/', '/'), ('b', '\x08'), ('f', '\x0c'), ('n', '\n'), ('r', '\r'),
    ('t', '\t')].lookup c

def escape? (s : List Char) : Option (Char × Shorter s) :=
  match s with
  | [] => none
  | c :: rest =>
    if c = 'u' then (character? rest).map fun (d, left) => (d, ⟨left.val, by grind⟩)
    else (shortEscape? c).map fun d => (d, ⟨rest, by grind⟩)

/-- Reads what follows a backslash in a text that nobody looks at. Code units need no partner, and
each counts as an unknown character. -/
def looseEscape? (s : List Char) : Option (Char × Shorter s) :=
  match s with
  | [] => none
  | c :: rest =>
    if c = 'u' then (codeUnit? rest).map fun (_, left) => ('\ufffd', ⟨left.val, by grind⟩)
    else (shortEscape? c).map fun d => (d, ⟨rest, by grind⟩)

/-- Reads a text to its closing quote. `done` holds the characters so far, last first. -/
def scanText (escape : (s : List Char) → Option (Char × Shorter s)) (done s : List Char) :
    Option (List Char × List Char) :=
  match s with
  | [] => none
  | c :: rest =>
    if c = '"' then some (done.reverse, rest)
    else if c = '\\' then
      match escape rest with
      | none => none
      | some (d, ⟨left, _⟩) => scanText escape (d :: done) left
    else if c.toNat < 0x20 then none
    else scanText escape (c :: done) rest
termination_by s.length
decreasing_by all_goals grind

end CanvasAlbum.Json
