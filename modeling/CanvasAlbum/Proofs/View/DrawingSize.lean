import CanvasAlbum.Proofs.Drawing.Bounds
import CanvasAlbum.Proofs.View.Lossless
import Mathlib.Order.Bounds.Basic

namespace CanvasAlbum.Page

/-- The width and height of a drawing, unless a step needs more than 64 bits. -/
def drawingSize? (options : PageOptions) (shapes : List Shape) : Option (Int64 × Int64) :=
  shapes.foldlM
    (fun (width, height) s => do
      let box ← s.bounds?
      return (max width box.maxX, max height box.maxY))
    (options.width.toUInt64.toInt64, options.height.toUInt64.toInt64)

def reached (least : UInt32) (edge : Shape → Int) (shapes : List Shape) : List Int :=
  least.toNat :: shapes.map edge

def Covers (least : UInt32) (edge : Shape → Int) (shapes : List Shape) (length : Int) : Prop :=
  least.toNat ≤ length ∧ ∀ shape ∈ shapes, edge shape ≤ length

theorem toInt_widened (n : UInt32) : n.toUInt64.toInt64.toInt = n.toNat := by
  have small : n.toNat < 2 ^ 32 := n.toNat_lt
  rw [← Int64.toInt_toBitVec, UInt64.toBitVec_toInt64, UInt32.toBitVec_toUInt64,
    BitVec.toInt_eq_toNat_of_lt]
  · simp
  · simp only [BitVec.toNat_setWidth, UInt32.toNat_toBitVec]
    omega

theorem drawingSize?_eq (options : PageOptions) (shapes : List Shape) :
    drawingSize? options shapes = some (drawingSize options shapes) := by
  unfold drawingSize? drawingSize
  simp only [Shape.bounds?_eq, Option.bind_eq_bind, Option.bind_some]
  exact List.foldlM_pure ..

theorem drawingSize_toInt (options : PageOptions) (shapes : List Shape) :
    (drawingSize options shapes).1.toInt =
        (shapes.map Shape.rightEdge).foldl max (options.width.toNat : Int) ∧
      (drawingSize options shapes).2.toInt =
        (shapes.map Shape.bottomEdge).foldl max (options.height.toNat : Int) := by
  unfold drawingSize
  rw [← toInt_widened options.width, ← toInt_widened options.height]
  generalize options.width.toUInt64.toInt64 = width
  generalize options.height.toUInt64.toInt64 = height
  induction shapes generalizing width height with
  | nil => exact ⟨rfl, rfl⟩
  | cons s shapes ih =>
      simp only [List.foldl_cons, List.map_cons]
      rw [← s.bounds_maxX, ← s.bounds_maxY, ← toInt_max, ← toInt_max]
      exact ih _ _

theorem isGreatest_foldl_max (least : Int) (edges : List Int) :
    IsGreatest {edge | edge ∈ least :: edges} (edges.foldl max least) :=
  List.max?_eq_some_iff.mp List.max?_cons'

theorem drawingSize_isGreatest (options : PageOptions) (shapes : List Shape) :
    IsGreatest {edge | edge ∈ reached options.width Shape.rightEdge shapes}
        (drawingSize options shapes).1.toInt ∧
      IsGreatest {edge | edge ∈ reached options.height Shape.bottomEdge shapes}
        (drawingSize options shapes).2.toInt := by
  obtain ⟨width, height⟩ := drawingSize_toInt options shapes
  rw [width, height]
  exact ⟨isGreatest_foldl_max _ _, isGreatest_foldl_max _ _⟩

theorem upperBounds_reached (least : UInt32) (edge : Shape → Int) (shapes : List Shape) :
    upperBounds {e | e ∈ reached least edge shapes} = {length | Covers least edge shapes length} := by
  ext length
  simp [upperBounds, reached, Covers]

theorem covers_isLeast {least : UInt32} {edge : Shape → Int} {shapes : List Shape} {length : Int}
    (greatest : IsGreatest {e | e ∈ reached least edge shapes} length) :
    IsLeast {length | Covers least edge shapes length} length := by
  rw [← upperBounds_reached]
  exact greatest.isLUB

theorem Covers.mono {least : UInt32} {edge : Shape → Int} {few many : List Shape} {length : Int}
    (covers : Covers least edge many length) (within : few ⊆ many) :
    Covers least edge few length :=
  ⟨covers.1, fun shape member => covers.2 shape (within member)⟩

theorem drawingSize_le (options : PageOptions) {few many : List Shape} (within : few ⊆ many) :
    (drawingSize options few).1 ≤ (drawingSize options many).1 ∧
      (drawingSize options few).2 ≤ (drawingSize options many).2 := by
  obtain ⟨fewWide, fewHigh⟩ := drawingSize_isGreatest options few
  obtain ⟨manyWide, manyHigh⟩ := drawingSize_isGreatest options many
  rw [Int64.le_iff_toInt_le, Int64.le_iff_toInt_le]
  constructor
  · exact (covers_isLeast fewWide).2 ((covers_isLeast manyWide).1.mono within)
  · exact (covers_isLeast fewHigh).2 ((covers_isLeast manyHigh).1.mono within)

theorem drawingSize_eq_of_perm (options : PageOptions) {shapes others : List Shape}
    (same : shapes.Perm others) : drawingSize options shapes = drawingSize options others := by
  obtain ⟨width, height⟩ := drawingSize_le options same.subset
  obtain ⟨width', height'⟩ := drawingSize_le options same.symm.subset
  exact Prod.ext (Int64.le_antisymm width width') (Int64.le_antisymm height height')

theorem snapshot_eq_drawing_iff {options : PageOptions} {s : Snapshot} {size : Int64 × Int64} :
    snapshot options s = drawing size s ↔ size = drawingSize options s.shapes := by
  rw [snapshot_eq_drawing]
  constructor
  · intro same
    have rest : drawing (drawingSize options s.shapes) s ++ "" = drawing size s ++ "" := by
      rw [same]
    obtain ⟨equal, -⟩ := @drawing_selfDelimiting (drawingSize options s.shapes, s) (size, s) _ _ rest
    exact (Prod.mk.inj equal).1.symm
  · rintro rfl
    rfl

theorem drawings_reach_every_edge (options : PageOptions) :
    (∀ shape : Shape, shape.bounds? = some shape.bounds) ∧
    (∀ s : Snapshot, ∃ size, drawingSize? options s.shapes = some size ∧
      (∀ printed, snapshot options s = drawing printed s ↔ printed = size) ∧
      IsGreatest {edge | edge ∈ reached options.width Shape.rightEdge s.shapes} size.1.toInt ∧
      IsGreatest {edge | edge ∈ reached options.height Shape.bottomEdge s.shapes} size.2.toInt ∧
      IsLeast {width | Covers options.width Shape.rightEdge s.shapes width} size.1.toInt ∧
      IsLeast {height | Covers options.height Shape.bottomEdge s.shapes height} size.2.toInt) ∧
    ∀ (s t : Snapshot) (ofS ofT : Int64 × Int64),
      snapshot options s = drawing ofS s → snapshot options t = drawing ofT t →
      (s.shapes.Perm t.shapes → ofS = ofT) ∧
      (s.shapes ⊆ t.shapes → ofS.1 ≤ ofT.1 ∧ ofS.2 ≤ ofT.2) := by
  refine ⟨Shape.bounds?_eq, fun s => ?_, ?_⟩
  · obtain ⟨width, height⟩ := drawingSize_isGreatest options s.shapes
    exact ⟨_, drawingSize?_eq options s.shapes, fun _ => snapshot_eq_drawing_iff, width, height,
      covers_isLeast width, covers_isLeast height⟩
  · intro s t ofS ofT printedS printedT
    rw [snapshot_eq_drawing_iff] at printedS printedT
    subst printedS printedT
    exact ⟨drawingSize_eq_of_perm options, drawingSize_le options⟩

theorem far_shapes_stretch_a_drawing :
    let options : PageOptions := ⟨"", "", 100, 100⟩
    let beyond : Shape := ⟨⟨"R", .rectangle, ⟨2147483647, -5⟩, ⟨10, -10⟩, ⟨0, 0, 0⟩⟩, by decide⟩
    let deep : Shape :=
      ⟨⟨"O", .oval, ⟨-7, 2147483647⟩, ⟨3, -2147483648⟩, ⟨0, 0, 0⟩⟩, by decide⟩
    let first : Snapshot := ⟨⟨"1"⟩, "noon", "", [beyond]⟩
    let second : Snapshot := ⟨⟨"2"⟩, "noon", "", [deep, beyond]⟩
    let third : Snapshot := ⟨⟨"3"⟩, "noon", "", [beyond, deep]⟩
    snapshot options first = drawing (2147483657, 100) first ∧
      snapshot options second = drawing (2147483657, 4294967295) second ∧
      snapshot options third = drawing (2147483657, 4294967295) third ∧
      second.shapes.Perm third.shapes ∧ first.shapes ⊆ second.shapes ∧
      (100 : Int64) ≤ 4294967295 := by
  intro options beyond deep first second third
  have ofFirst : snapshot options first = drawing (2147483657, 100) first :=
    snapshot_eq_drawing_iff.mpr (by decide)
  have ofSecond : snapshot options second = drawing (2147483657, 4294967295) second :=
    snapshot_eq_drawing_iff.mpr (by decide)
  have perm : second.shapes.Perm third.shapes := List.Perm.swap beyond deep []
  have within : first.shapes ⊆ second.shapes := List.subset_cons_self deep [beyond]
  obtain ⟨-, drawn, between⟩ := drawings_reach_every_edge options
  obtain ⟨size, -, printed, -⟩ := drawn third
  have ofThird := (printed size).mpr rfl
  obtain rfl := (between second third _ _ ofSecond ofThird).1 perm
  exact ⟨ofFirst, ofSecond, ofThird, perm, within,
    ((between first second _ _ ofFirst ofSecond).2 within).2⟩

end CanvasAlbum.Page
