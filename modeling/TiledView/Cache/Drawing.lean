import TiledView.Bitmap.Basic

/-!
# Having tiles drawn

A tile that needs drawing lends its bitmap to a `DrawJob`.  The answer may come at once, late or not
at all, so a job names what it was made for: `TileKey` holds the generation of the tile's cache and
the epoch of the tile, and an answer whose key no longer matches is stale.

`Renderer` is whoever draws: a pair of actions on a state of its own, one to read the clock and one
to draw a tile, so that any behaviour and any passing of time can be put in its place.
-/

namespace TiledView

/-- Names one request to draw one tile. -/
structure TileKey where
  /-- The cache the request came from. -/
  generation : Nat
  part : Nat
  /-- Index of the tile in its part. -/
  index : Nat
  /-- How often the tile had been invalidated when the request was made. -/
  epoch : Nat
  deriving DecidableEq, Repr

structure DrawJob where
  key : TileKey
  /-- Document area to draw. -/
  area : Rect .twips
  /-- Target raster, already of the tile's size; its content is whatever it last held. -/
  bitmap : Bitmap
  deriving DecidableEq, Repr

inductive DrawError where
  | engineUnavailable
  | abandoned
  deriving DecidableEq, Repr

def DrawError.message : DrawError → String
  | .engineUnavailable => "document engine is unavailable"
  | .abandoned => "render result was dropped before delivery"

/-- What became of a job. -/
inductive DrawOutcome where
  | drawn (bitmap : Bitmap)
  /-- Still running; the bitmap comes back later. -/
  | deferred
  | failed (bitmap : Bitmap) (error : DrawError)
  deriving DecidableEq, Repr

/-- Draws tiles during a paint pass.  Times are in milliseconds. -/
structure Renderer (σ : Type) where
  /-- Reads the clock. -/
  now : σ → Nat × σ
  /-- Draws the area of a job into its bitmap, giving up waiting at the deadline. -/
  draw : DrawJob → (deadline : Nat) → σ → DrawOutcome × σ

end TiledView
