import TiledView.Bitmap.Copy
import TiledView.Cache.Part

/-!
# Paint passes over a part

`PartCache.sweep` brings the tiles under a dirty area up to date as far as a deadline allows, and
copies the valid ones to a surface.  `TilePass.visit` is its step for one tile.  `PartCache.paint` is
a sweep over an area that may be any rectangle in 64-bit words.
-/

namespace TiledView

/-- A tile touched by a paint pass. -/
structure TouchedTile where
  part : Nat
  index : Nat
  bounds : Rect .twips
  pixels : Rect .device
  deriving DecidableEq, Repr

/-- Where a paint pass may write. -/
structure PaintWindow where
  /-- Device pixel of the document drawn at surface `(0, 0)`. -/
  origin : Point .device
  /-- The surface pixels that may be written. -/
  clip : Rect .device
  deriving DecidableEq, Repr

/-- Copies the bitmap of a tile that covers `pixels` of the document to the surface. -/
def PaintWindow.copyTile (window : PaintWindow) (surface : Bitmap) (pixels : Rect .device)
    (bitmap : Bitmap) : Bitmap :=
  let onSurface := pixels.offset (-window.origin.x) (-window.origin.y)
  let visible := onSurface.intersect window.clip
  if visible.isEmpty then
    surface
  else
    surface.blit bitmap (visible.offset (-onSurface.x) (-onSurface.y)) visible.origin

/-- A paint pass on its way. -/
structure TilePass (α σ : Type) where
  cache : PartCache α
  surface : Bitmap
  /-- Tiles that are valid and have been copied to the surface. -/
  ready : Array TouchedTile
  /-- Tiles that could not be brought up to date. -/
  pending : Array TouchedTile
  /-- State of the renderer. -/
  renderer : σ

namespace TilePass

variable {α σ : Type}

def touch (pass : TilePass α σ) (index : Nat) (tile : Tile) : TouchedTile :=
  { part := pass.cache.part, index, bounds := tile.bounds, pixels := tile.pixels }

/-- Copies a tile to the surface and reports it as ready. -/
def present (pass : TilePass α σ) (window : PaintWindow) (touched : TouchedTile)
    (bitmap? : Option Bitmap) : TilePass α σ :=
  { pass with
    surface := match bitmap? with
      | some bitmap => window.copyTile pass.surface touched.pixels bitmap
      | none => pass.surface
    ready := pass.ready.push touched }

def postpone (pass : TilePass α σ) (touched : TouchedTile) : TilePass α σ :=
  { pass with pending := pass.pending.push touched }

/-- Has a tile drawn and takes in the outcome. -/
def draw (pass : TilePass α σ) (renderer : Renderer σ) (window : PaintWindow) (deadline : Nat)
    (index : Nat) (tile : Tile) : TilePass α σ :=
  let touched := pass.touch index tile
  let (outcome, s) := renderer.draw (pass.cache.jobOf index tile) deadline pass.renderer
  let pass := { pass with renderer := s }
  match outcome with
  | .drawn bitmap =>
    let cache := (pass.cache.setSlot index (.ready bitmap)).markValid index
    { pass with cache }.present window touched (some bitmap)
  | .deferred => { pass with cache := pass.cache.setSlot index .lent }.postpone touched
  | .failed bitmap _ =>
    { pass with cache := pass.cache.setSlot index (.ready bitmap) }.postpone touched

/-- One tile of a pass: a valid tile is shown, one whose bitmap is lent waits, and any other is
drawn unless the deadline has passed. -/
def visit (renderer : Renderer σ) (window : PaintWindow) (deadline : Nat) (pass : TilePass α σ)
    (index : Nat) : TilePass α σ :=
  match pass.cache.tiles[index]? with
  | none => pass
  | some tile =>
    let touched := pass.touch index tile
    if pass.cache.valid.contains index then
      pass.present window touched tile.bitmap?
    else if tile.isLent then
      pass.postpone touched
    else
      let (now, s) := renderer.now pass.renderer
      let pass := { pass with renderer := s }
      if deadline ≤ now then
        pass.postpone touched
      else
        pass.draw renderer window deadline index tile

end TilePass

namespace PartCache

variable {α σ : Type}

/-- Brings every tile that meets `dirty` up to date where the deadline allows, and copies the valid
ones to `surface`.  `dirty` is in device pixels of the document. -/
def sweep (c : PartCache α) (surface : Bitmap) (window : PaintWindow) (dirty : Rect .device)
    (deadline : Nat) (renderer : Renderer σ) (s : σ) : TilePass α σ :=
  let start : TilePass α σ := { cache := c, surface, ready := #[], pending := #[], renderer := s }
  (c.tiling.overlapping dirty).foldl (TilePass.visit renderer window deadline) start

/-- Sweeps over what `dirty` amounts to in words. -/
def paint (c : PartCache α) (surface : Bitmap) (window : PaintWindow) (dirty : Rect .device)
    (deadline : Nat) (renderer : Renderer σ) (s : σ) : TilePass α σ :=
  c.sweep surface window dirty.effective deadline renderer s

end PartCache

end TiledView
