import CanvasAlbum.Drawing.Shape
import Mathlib.Data.Int.Order.Basic

namespace CanvasAlbum

def word64? (i : Int) : Option Int64 :=
  if -0x8000000000000000 ≤ i ∧ i < 0x8000000000000000 then some (Int64.ofInt i) else none

def sum? (a b : Int64) : Option Int64 := word64? (a.toInt + b.toInt)

def difference? (a b : Int64) : Option Int64 := word64? (a.toInt - b.toInt)

def magnitude? (a : Int64) : Option Int64 := word64? a.toInt.natAbs

theorem word64?_eq_some_iff {i : Int} {w : Int64} : word64? i = some w ↔ w.toInt = i := by
  unfold word64?
  constructor
  · intro found
    split at found
    · rename_i fits
      cases found
      exact Int64.toInt_ofInt_of_le fits.1 fits.2
    · cases found
  · rintro rfl
    rw [if_pos ⟨Int64.le_toInt w, Int64.toInt_lt w⟩, Int64.ofInt_toInt]

def Short (w : Int64) : Prop := w.toInt.natAbs ≤ 0x80000000

theorem short_toInt64 (n : Int32) : Short n.toInt64 := by
  have low := Int32.le_toInt n
  have high := Int32.toInt_lt n
  unfold Short
  rw [Int32.toInt_toInt64]
  omega

section Short
variable {a b : Int64}

theorem Short.toInt_add (ha : Short a) (hb : Short b) : (a + b).toInt = a.toInt + b.toInt := by
  unfold Short at ha hb
  rw [Int64.toInt_add]
  apply Int.bmod_eq_of_le <;> omega

theorem Short.toInt_sub (ha : Short a) (hb : Short b) : (a - b).toInt = a.toInt - b.toInt := by
  unfold Short at ha hb
  rw [Int64.toInt_sub]
  apply Int.bmod_eq_of_le <;> omega

theorem Short.toInt_abs (ha : Short a) : a.abs.toInt = a.toInt.natAbs := by
  -- The least word is the only one whose absolute value is no word.
  have other : a.toBitVec ≠ BitVec.intMin 64 := by
    intro least
    unfold Short at ha
    rw [← Int64.toInt_toBitVec, least] at ha
    exact absurd ha (by decide)
  rw [← Int64.toInt_toBitVec, Int64.toBitVec_abs, BitVec.toInt_abs_eq_natAbs, if_neg other,
    Int64.toInt_toBitVec]

theorem Short.abs (ha : Short a) : Short a.abs := by
  unfold Short
  rw [ha.toInt_abs, Int.natAbs_natCast]
  exact ha

theorem sum?_eq (ha : Short a) (hb : Short b) : sum? a b = some (a + b) :=
  word64?_eq_some_iff.mpr (ha.toInt_add hb)

theorem difference?_eq (ha : Short a) (hb : Short b) : difference? a b = some (a - b) :=
  word64?_eq_some_iff.mpr (ha.toInt_sub hb)

theorem magnitude?_eq (ha : Short a) : magnitude? a = some a.abs :=
  word64?_eq_some_iff.mpr ha.toInt_abs

end Short

theorem toInt_max (a b : Int64) : (max a b).toInt = max a.toInt b.toInt := by
  have larger : max a b = if a ≤ b then b else a := rfl
  rw [larger]
  split
  · rename_i le
    rw [Int64.le_iff_toInt_le] at le
    omega
  · rename_i lt
    rw [Int64.le_iff_toInt_le] at lt
    omega

namespace ShapeKind

/-- Where a shape begins and ends in one direction, unless a step needs more than 64 bits. -/
def span? (kind : ShapeKind) (start length : Int64) : Option (Int64 × Int64) :=
  match kind with
  | .rectangle => do
      let far ← sum? start length
      return (min start far, max start far)
  | .oval => do
      let radius ← magnitude? length
      return (← difference? start radius, ← sum? start radius)

def farEnd (kind : ShapeKind) (start length : Int) : Int :=
  match kind with
  | .rectangle => max start (start + length)
  | .oval => start + length.natAbs

section Span
variable {start length : Int64}

theorem span?_rectangle (hs : Short start) (hl : Short length) :
    span? .rectangle start length =
      some (min start (start + length), max start (start + length)) := by
  simp only [span?, sum?_eq hs hl, Option.bind_eq_bind, Option.bind_some, Option.pure_def]

theorem span?_oval (hs : Short start) (hl : Short length) :
    span? .oval start length = some (start - length.abs, start + length.abs) := by
  simp only [span?, magnitude?_eq hl, difference?_eq hs hl.abs, sum?_eq hs hl.abs,
    Option.bind_eq_bind, Option.bind_some, Option.pure_def]

theorem farEnd_rectangle (hs : Short start) (hl : Short length) :
    (max start (start + length)).toInt = farEnd .rectangle start.toInt length.toInt := by
  rw [toInt_max, hs.toInt_add hl, farEnd]

theorem farEnd_oval (hs : Short start) (hl : Short length) :
    (start + length.abs).toInt = farEnd .oval start.toInt length.toInt := by
  rw [hs.toInt_add hl.abs, hl.toInt_abs, farEnd]

end Span

end ShapeKind

namespace Shape

def bounds? (s : Shape) : Option Bounds := do
  let (minX, maxX) ← s.kind.span? s.position.x.toInt64 s.extent.horizontal.toInt64
  let (minY, maxY) ← s.kind.span? s.position.y.toInt64 s.extent.vertical.toInt64
  return ⟨minX, minY, maxX, maxY⟩

def rightEdge (s : Shape) : Int := s.kind.farEnd s.position.x.toInt s.extent.horizontal.toInt

def bottomEdge (s : Shape) : Int := s.kind.farEnd s.position.y.toInt s.extent.vertical.toInt

theorem bounds?_eq (s : Shape) : s.bounds? = some s.bounds := by
  have short := short_toInt64
  unfold bounds? bounds
  cases s.kind with
  | rectangle =>
      simp only [ShapeKind.span?_rectangle (short _) (short _), Option.bind_eq_bind,
        Option.bind_some, Option.pure_def]
  | oval =>
      simp only [ShapeKind.span?_oval (short _) (short _), Option.bind_eq_bind,
        Option.bind_some, Option.pure_def]

theorem bounds_maxX (s : Shape) : s.bounds.maxX.toInt = s.rightEdge := by
  have short := short_toInt64
  unfold bounds rightEdge
  rw [← Int32.toInt_toInt64 s.position.x, ← Int32.toInt_toInt64 s.extent.horizontal]
  cases s.kind with
  | rectangle => exact ShapeKind.farEnd_rectangle (short _) (short _)
  | oval => exact ShapeKind.farEnd_oval (short _) (short _)

theorem bounds_maxY (s : Shape) : s.bounds.maxY.toInt = s.bottomEdge := by
  have short := short_toInt64
  unfold bounds bottomEdge
  rw [← Int32.toInt_toInt64 s.position.y, ← Int32.toInt_toInt64 s.extent.vertical]
  cases s.kind with
  | rectangle => exact ShapeKind.farEnd_rectangle (short _) (short _)
  | oval => exact ShapeKind.farEnd_oval (short _) (short _)

end Shape

end CanvasAlbum
