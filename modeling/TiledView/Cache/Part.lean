import TiledView.Cache.Tile
import TiledView.Cache.TileSet
import TiledView.Scale.Conversion

/-!
# The raster cache of one part

A `PartCache` covers one document part at one scale and owns the bitmap of every tile.

* `PartCache.invalidateAll`, `PartCache.invalidate` — take tiles out of use and raise their epochs.
  Bitmaps stay for reuse.
* `PartCache.takeBack` — takes in a result that arrived after its paint pass.

Paint passes over the tiles are in `TiledView.Cache.Pass`.
-/

namespace TiledView

/-- Raster cache for one document part at one scale. -/
structure PartCache (α : Type) where
  part : Nat
  scale : Scale α
  /-- Tells this cache from every other one built for the same document. -/
  generation : Nat
  documentSize : Size .twips
  tiling : Tiling
  tiles : Array Tile
  /-- The tiles whose bitmaps show the document as it is. -/
  valid : TileSet

namespace PartCache

variable {α : Type}

/-! ## Construction and reading -/

/-- The tile in a cell before anything was drawn.  Its bounds in the document are its pixel edges,
each rounded to the nearest twip. -/
def freshTile [Arithmetic α] (scale : Scale α) (tiling : Tiling) (cell : Cell) : Tile :=
  let pixels := tiling.rect cell
  { cell, pixels
    bounds := .ofEdges (scale.nearestTwip pixels.x) (scale.nearestTwip pixels.y)
      (scale.nearestTwip pixels.right) (scale.nearestTwip pixels.bottom)
    slot := .empty
    epoch := 0 }

/-- A cache for a document of size `documentSize`, with every tile empty and invalid. -/
def build [Arithmetic α] (part : Nat) (scale : Scale α) (documentSize : Size .twips)
    (tileEdge generation : Nat) : PartCache α :=
  let tiling := Tiling.ofSize (scale.deviceSize documentSize) tileEdge
  let tileAt index := freshTile scale tiling ⟨index % tiling.columns, index / tiling.columns⟩
  { part, scale, generation, documentSize, tiling
    tiles := (Array.range tiling.count).map tileAt
    valid := .noneOf tiling.count }

/-- The tile in a cell. -/
def tileIn? (c : PartCache α) (cell : Cell) : Option Tile :=
  match c.tiling.index cell with
  | .ok index => c.tiles[index]?
  | .error _ => none

def setSlot (c : PartCache α) (index : Nat) (slot : TileSlot) : PartCache α :=
  { c with tiles := c.tiles.modify index ({ · with slot }) }

def markValid (c : PartCache α) (index : Nat) : PartCache α :=
  { c with valid := (c.valid.insert index).2 }

/-- The key of a job for `tile` made now. -/
def keyOf (c : PartCache α) (index : Nat) (tile : Tile) : TileKey :=
  { generation := c.generation, part := c.part, index, epoch := tile.epoch }

def jobOf (c : PartCache α) (index : Nat) (tile : Tile) : DrawJob :=
  { key := c.keyOf index tile, area := tile.bounds, bitmap := tile.toLend }

/-! ## Invalidation -/

/-- Takes every tile out of use. -/
def invalidateAll (c : PartCache α) : PartCache α :=
  { c with valid := c.valid.clear, tiles := c.tiles.map Tile.raiseEpoch }

def invalidateTile (c : PartCache α) (index : Nat) : PartCache α :=
  { c with
    valid := (c.valid.erase index).2
    tiles := c.tiles.modify index Tile.raiseEpoch }

/-- Indices of the tiles whose bounds overlap `area`, row by row.  There are none where `area` or the
search for them overflows. -/
def intersecting [Arithmetic α] (c : PartCache α) (area : Rect .twips) : List Nat :=
  if area.isEmpty then
    []
  else
    -- Tile bounds are rounded to the nearest twip, so the search is one pixel wider.
    let search := (c.scale.toDevice area).wrappedMargin
    (c.tiling.overlapping search.effective).filter fun index =>
      c.tiles[index]?.any fun tile => tile.bounds.intersects area.effective

/-- Takes every tile out of use whose bounds overlap `area`, and tells how many there were. -/
def invalidate [Arithmetic α] (c : PartCache α) (area : Rect .twips) : Nat × PartCache α :=
  let touched := c.intersecting area
  (touched.length, touched.foldl invalidateTile c)

/-! ## Late results -/

/-- Takes in the result of a job that has outlived its paint pass.

The result of a job of another cache, or for a tile whose bitmap is not lent, changes nothing.
Otherwise the bitmap goes back to its tile, and the tile becomes valid if it was drawn for the
tile's present epoch; then the pixels that can be shown now are returned. -/
def takeBack (c : PartCache α) (key : TileKey) (outcome : DrawOutcome) :
    Option (Rect .device) × PartCache α :=
  match c.tiles[key.index]? with
  | none => (none, c)
  | some tile =>
    if key.generation = c.generation ∧ tile.isLent then
      match outcome with
      | .drawn bitmap =>
        let c := c.setSlot key.index (.ready bitmap)
        if key.epoch = tile.epoch ∧ !c.valid.contains key.index then
          (some tile.pixels, c.markValid key.index)
        else
          (none, c)
      | .failed bitmap _ => (none, c.setSlot key.index (.ready bitmap))
      | .deferred => (none, c.setSlot key.index .empty)
    else
      (none, c)

end PartCache

end TiledView
