import TiledView.Plane.Rect

/-!
# Tilings

A `Tiling` cuts an extent of device pixels into square tiles, row by row.  The last column and row
are clipped to the extent, so they may be narrower than the edge.

* `Tiling.index`, `Tiling.cell` — between cells and row-major indices.
* `Tiling.rect` — the pixels of a cell.
* `Tiling.overlapping` — the indices of the tiles that meet an area.

Counts of tiles are 32-bit: a longer extent counts as one of `maxExtent` pixels there, while
`overlapping` goes by the whole extent.
-/

namespace TiledView

/-- Column and row of a tile. -/
structure Cell where
  column : Nat
  row : Nat
  deriving DecidableEq, Repr

inductive TilingError where
  /-- No tile has this cell or index. -/
  | outOfBounds
  deriving DecidableEq, Repr

def TilingError.message : TilingError → String
  | .outOfBounds => "tile index out of bounds"

/-- An extent of device pixels, cut into tiles. -/
structure Tiling where
  size : Size .device
  /-- Edge length of a tile. -/
  edge : Nat
  edge_pos : 0 < edge
  deriving DecidableEq, Repr

namespace Tiling

/-- The extent beyond which there are no more tiles along an axis. -/
def maxExtent : Nat := 0xffffffff

/-- Tiling of `size` in tiles of `edge` pixels; no edge is shorter than one pixel. -/
def ofSize (size : Size .device) (edge : Nat) : Tiling := ⟨size, max edge 1, by omega⟩

/-- Number of tiles that cover `extent` pixels along one axis. -/
def tilesAlong (t : Tiling) (extent : Int) : Nat :=
  (min extent.toNat maxExtent + t.edge - 1) / t.edge

def columns (t : Tiling) : Nat := t.tilesAlong t.size.width

def rows (t : Tiling) : Nat := t.tilesAlong t.size.height

/-- Number of tiles. -/
def count (t : Tiling) : Nat := t.columns * t.rows

/-- Index of the tile at a cell. -/
def index (t : Tiling) (cell : Cell) : Except TilingError Nat :=
  if cell.column < t.columns ∧ cell.row < t.rows then
    .ok (cell.row * t.columns + cell.column)
  else
    .error .outOfBounds

/-- Cell of the tile with index `index`. -/
def cell (t : Tiling) (index : Nat) : Except TilingError Cell :=
  if index < t.count then
    .ok ⟨index % t.columns, index / t.columns⟩
  else
    .error .outOfBounds

/-- Pixels of a cell, clipped to the extent. -/
def rect (t : Tiling) (cell : Cell) : Rect .device :=
  let x : Int := cell.column * t.edge
  let y : Int := cell.row * t.edge
  .ofEdges x y (min (x + t.edge) t.size.width) (min (y + t.edge) t.size.height)

/-- Columns or rows of the tiles that meet the pixels from `low` up to, not including, `high`. -/
def span (t : Tiling) (low high : Int) : List Nat :=
  let first := (low / t.edge).toNat
  let last := ((high - 1) / t.edge).toNat
  List.range' first (last + 1 - first)

/-- Indices of the tiles that meet `area`, row by row. -/
def overlapping (t : Tiling) (area : Rect .device) : List Nat :=
  let clipped := area.intersect (.ofSize t.size)
  if clipped.isEmpty then
    []
  else
    (t.span clipped.y clipped.bottom).flatMap fun row =>
      (t.span clipped.x clipped.right).map fun column => row * t.columns + column

end Tiling

end TiledView
