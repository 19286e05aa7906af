import CanvasAlbum.Json.Reader

namespace CanvasAlbum.Json.Reader

inductive Bracket where
  | square
  | curly

/-- Whether a value has to follow, or the rest of what encloses the last one. -/
inductive Awaiting where
  | value
  | rest

variable {ε : Type}

def skipText : Reader ε Unit := do let _ ← textWith looseEscape?

def skipKey : Reader ε Unit := do
  skipText
  expect ':'

def someDigits : Reader ε Unit := do if (← digitRun) = [] then malformed

def skipNumber : Reader ε Unit := do
  let _ ← minus
  let _ ← wholeDigits
  if (← peek) = some '.' then
    advance
    someDigits
  if (← peek) = some 'e' ∨ (← peek) = some 'E' then
    advance
    if (← peek) = some '+' ∨ (← peek) = some '-' then advance
    someDigits

def skipScalar : Reader ε Unit := do
  match ← next with
  | some '"' => skipText
  | some 'n' => literal "null"
  | some 't' => literal "true"
  | some 'f' => literal "false"
  | _ => skipNumber

def skipFrom : Nat → Awaiting → List Bracket → Reader ε Unit
  | 0, _, _ => malformed
  | fuel + 1, .value, enclosing => do
    match ← next with
    | some '[' =>
      advance
      if (← next) = some ']' then
        advance
        skipFrom fuel .rest enclosing
      else skipFrom fuel .value (.square :: enclosing)
    | some '{' =>
      advance
      if (← next) = some '}' then
        advance
        skipFrom fuel .rest enclosing
      else
        skipKey
        skipFrom fuel .value (.curly :: enclosing)
    | _ =>
      skipScalar
      skipFrom fuel .rest enclosing
  | _ + 1, .rest, [] => return ()
  | fuel + 1, .rest, .square :: outer => do
    match ← next with
    | some ',' =>
      advance
      skipFrom fuel .value (.square :: outer)
    | some ']' =>
      advance
      skipFrom fuel .rest outer
    | _ => malformed
  | fuel + 1, .rest, .curly :: outer => do
    match ← next with
    | some ',' =>
      advance
      skipKey
      skipFrom fuel .value (.curly :: outer)
    | some '}' =>
      advance
      skipFrom fuel .rest outer
    | _ => malformed

/-- Passes over any value. Each step but the last takes a character. -/
def skipValue : Reader ε Unit := do skipFrom ((← get).length + 1) .value []

end CanvasAlbum.Json.Reader
