import CanvasAlbum.Refusal

namespace CanvasAlbum
open Text

def isLeapYear (year : Int) : Bool :=
  year % 4 == 0 && (year % 100 != 0 || year % 400 == 0)

def daysInMonth (year : Int) (month : Nat) : Nat :=
  match month with
  | 2 => if isLeapYear year then 29 else 28
  | 4 | 6 | 9 | 11 => 30
  | _ => 31

def nanosecondsPerSecond : Nat := 1000000000

/-- Where the nanoseconds of a second end. Only a 59th second may have a leap second behind it. -/
def nanosecondLimit (second : Nat) : Nat :=
  if second = 59 then 2 * nanosecondsPerSecond else nanosecondsPerSecond

structure Instant where
  year : Int
  month : Nat
  day : Nat
  hour : Nat
  minute : Nat
  second : Nat
  nanosecond : Nat
  month_valid : 1 ≤ month ∧ month ≤ 12
  day_valid : 1 ≤ day ∧ day ≤ daysInMonth year month
  hour_lt : hour < 24
  minute_lt : minute < 60
  second_lt : second < 60
  nanosecond_lt : nanosecond < nanosecondLimit second
  deriving DecidableEq

namespace Instant

def ofParts? (year : Int) (month day hour minute second nanosecond : Nat) : Option Instant :=
  if h : (1 ≤ month ∧ month ≤ 12) ∧ (1 ≤ day ∧ day ≤ daysInMonth year month) ∧ hour < 24 ∧
      minute < 60 ∧ second < 60 ∧ nanosecond < nanosecondLimit second then
    some ⟨year, month, day, hour, minute, second, nanosecond,
      h.1, h.2.1, h.2.2.1, h.2.2.2.1, h.2.2.2.2.1, h.2.2.2.2.2⟩
  else none

def epoch : Instant := ⟨1970, 1, 1, 0, 0, 0, 0, by decide, by decide, by decide, by decide,
  by decide, by decide⟩

def shownSecond (t : Instant) : Nat := t.second + t.nanosecond / nanosecondsPerSecond

def microsecond (t : Instant) : Nat := t.nanosecond % nanosecondsPerSecond / 1000

/-- A year has at least four digits, and a sign when it is negative or has more. -/
def yearText (year : Int) : String :=
  if year < 0 then "-" ++ Decimal.padded 4 year.natAbs
  else if year ≤ 9999 then Decimal.padded 4 year.natAbs
  else "+" ++ Decimal.padded 4 year.natAbs

def clockText (t : Instant) : String :=
  Decimal.padded 2 t.hour ++ ":" ++ Decimal.padded 2 t.minute ++ ":" ++
    Decimal.padded 2 t.shownSecond

def sortableText (t : Instant) : String :=
  yearText t.year ++ "-" ++ Decimal.padded 2 t.month ++ "-" ++ Decimal.padded 2 t.day ++ "T" ++
    t.clockText ++ "." ++ Decimal.padded 6 t.microsecond

def readableText (t : Instant) : String :=
  Decimal.padded 2 t.day ++ "-" ++ Decimal.padded 2 t.month ++ "-" ++ yearText t.year ++ " " ++
    t.clockText

end Instant

structure SnapshotId where
  text : String
  deriving DecidableEq

structure Stamp where
  id : SnapshotId
  timestamp : String
  deriving DecidableEq

namespace Stamp

def ofInstant (time : Instant) (suffix : String) : Stamp :=
  ⟨⟨time.sortableText ++ suffix⟩, time.readableText⟩

end Stamp

structure Snapshot where
  id : SnapshotId
  timestamp : String
  description : String
  shapes : List Shape
  deriving DecidableEq

namespace Snapshot

def ofStamp (stamp : Stamp) (description : String) (shapes : List Shape) : Snapshot :=
  ⟨stamp.id, stamp.timestamp, description, shapes⟩

def shape? (s : Snapshot) (name : String) : Option Shape := s.shapes.find? (·.name = name)

end Snapshot

end CanvasAlbum
