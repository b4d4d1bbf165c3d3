import TiledView.Cache.Drawing
import TiledView.Tiling

/-!
# Tiles

A `Tile` covers some device pixels of the document and has a bitmap for them.  The bitmap is in one
place at a time, which `TileSlot` records: with the tile, or lent to the job that is drawing it.
-/

namespace TiledView

/-- Where the bitmap of a tile is. -/
inductive TileSlot where
  | empty
  | ready (bitmap : Bitmap)
  /-- Lent to a job that has not come back yet. -/
  | lent
  deriving DecidableEq, Repr

structure Tile where
  cell : Cell
  /-- Document area covered by the tile.  Neighbouring tiles share edges exactly. -/
  bounds : Rect .twips
  /-- Device pixels of the tile in document space. -/
  pixels : Rect .device
  slot : TileSlot
  /-- How often the tile has been invalidated. -/
  epoch : Nat
  deriving DecidableEq, Repr

namespace Tile

def bitmap? (t : Tile) : Option Bitmap :=
  match t.slot with
  | .ready bitmap => some bitmap
  | .empty | .lent => none

def isLent (t : Tile) : Bool :=
  match t.slot with
  | .lent => true
  | .empty | .ready _ => false

/-- The bitmap to lend to a job: the tile's own where it has one of the right size, else a cleared
one. -/
def toLend (t : Tile) : Bitmap :=
  let width := t.pixels.width.toNat
  let height := t.pixels.height.toNat
  match t.slot with
  | .ready bitmap =>
    if bitmap.width = width ∧ bitmap.height = height then bitmap else .blank width height
  | .empty | .lent => .blank width height

def raiseEpoch (t : Tile) : Tile := { t with epoch := t.epoch + 1 }

end Tile

end TiledView
