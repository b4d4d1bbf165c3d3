import TiledView.Bitmap.Basic

/-!
# Copying pixels

Everything that moves pixels is a list of row copies (`RowCopy`) carried out one after the other:

* `Bitmap.blit` — copies part of another bitmap, `Bitmap.blitRows` being its copies.
* `Bitmap.shiftWithin` — moves the content of an area within the bitmap itself.  Source and
  destination overlap, so the copies `Bitmap.shiftRows` run bottom-up when content moves down and
  top-down otherwise, and no row is overwritten before it has been read.
-/

namespace TiledView

/-- A copy of `count` neighbouring pixels from index `source` on to index `target` on. -/
structure RowCopy where
  source : Nat
  target : Nat
  count : Nat
  deriving DecidableEq, Repr

/-- Copies a row.  The row is read as a whole before any of it is written, so `source` and `target`
may be the same pixels. -/
@[inline] def copyRow {m n : Nat} (source : Vector UInt32 m) (target : Vector UInt32 n)
    (copy : RowCopy) : Vector UInt32 n :=
  let row := (source.toArray.extract copy.source (copy.source + copy.count)).toList
  writeRun target copy.target row

namespace Bitmap

/-! ## Copying between bitmaps -/

/-- Row copies by which `area` of `source` comes to lie on `dest`.  The area is clipped to the
source first, and it is the origin of what is left that lands on `dest`. -/
def blitRows (target source : Bitmap) (area : Rect .device) (dest : Point .device) :
    List RowCopy :=
  let area := area.intersect source.bounds
  if area.isEmpty then
    []
  else
    let covered := (Rect.ofOriginSize dest area.size).intersect target.bounds
    let x := area.x + (covered.x - dest.x)
    let y := area.y + (covered.y - dest.y)
    (rowsOf covered).map fun row =>
      { source := source.indexOf x (y + (row - covered.y))
        target := target.indexOf covered.x row
        count := covered.width.toNat }

/-- Copies `area` of `source`, clipped to its bounds, so that its origin lands on `dest`. -/
def blit (target source : Bitmap) (area : Rect .device) (dest : Point .device) : Bitmap :=
  let copies := target.blitRows source area dest
  { target with pixels := copies.foldl (copyRow source.pixels) target.pixels }

/-! ## Moving content in place -/

/-- Row copies that move the content of `area` by `(dx, dy)`. -/
def shiftRows (b : Bitmap) (area : Rect .device) (dx dy : Int) : List RowCopy :=
  let area := area.intersect b.bounds
  let dest := (area.offset dx dy).intersect area
  if dx = 0 ∧ dy = 0 then
    []
  else
    let copies := (rowsOf dest).map fun row =>
      { source := b.indexOf (dest.x - dx) (row - dy)
        target := b.indexOf dest.x row
        count := dest.width.toNat }
    if 0 < dy then copies.reverse else copies

/-- Moves the content of `area` by `(dx, dy)`.  Content that leaves the area is dropped, and the
strip it uncovers keeps its previous pixels. -/
def shiftWithin (b : Bitmap) (area : Rect .device) (dx dy : Int) : Bitmap :=
  let copies := b.shiftRows area dx dy
  { b with pixels := copies.foldl (fun pixels copy => copyRow pixels pixels copy) b.pixels }

end Bitmap

end TiledView
