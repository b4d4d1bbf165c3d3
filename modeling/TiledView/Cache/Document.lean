import TiledView.Cache.Part

/-!
# The raster cache of a document

A `DocumentCache` holds one `PartCache` per document part and gives every one it builds a generation
of its own, so that a drawing result can be traced to the very cache it was drawn for.

* `DocumentCache.fit` — matches it to a number of parts, a scale and a document size.  A part cache
  built for another scale or size is replaced, never rescaled.
* `DocumentCache.takeBack` — routes a late result to its part.
-/

namespace TiledView

inductive CacheError where
  /-- No part `part` among `count`. -/
  | partOutOfRange (part count : Nat)
  deriving DecidableEq, Repr

def CacheError.message : CacheError → String
  | .partOutOfRange part count => s!"part index {part} out of range for {count} grid(s)"

/-- One cache per document part. -/
structure DocumentCache where
  /-- Edge length of a tile in device pixels. -/
  tileEdge : Nat
  parts : Array (PartCache Float)
  nextGeneration : Nat

namespace DocumentCache

def defaultTileEdge : Nat := 256

/-- A cache without parts. -/
def ofTileEdge (tileEdge : Nat) : DocumentCache := ⟨tileEdge, #[], 1⟩

/-- The cache of a part that the caller takes to exist. -/
def part (d : DocumentCache) (part : Nat) : Except CacheError (PartCache Float) :=
  match d.parts[part]? with
  | some cache => .ok cache
  | none => .error (.partOutOfRange part d.parts.size)

/-- Puts `cache` in the place of the cache of a part. -/
def setPart (d : DocumentCache) (part : Nat) (cache : PartCache Float) : DocumentCache :=
  { d with parts := d.parts.setIfInBounds part cache }

def modifyPart (d : DocumentCache) (part : Nat) (f : PartCache Float → PartCache Float) :
    DocumentCache :=
  { d with parts := d.parts.modify part f }

/-- A new cache for a part, of the next generation. -/
def build (d : DocumentCache) (part : Nat) (scale : ViewScale) (documentSize : Size .twips) :
    PartCache Float :=
  .build part scale documentSize d.tileEdge d.nextGeneration

/-- Makes sure that a part has a cache of this scale and document size.  Parts are taken in order,
so one without a cache is the next to be added. -/
def fitPart (scale : ViewScale) (documentSize : Size .twips) (d : DocumentCache) (part : Nat) :
    DocumentCache :=
  match d.parts[part]? with
  | some cache =>
    if cache.scale != scale || cache.documentSize != documentSize then
      { d.setPart part (d.build part scale documentSize) with
        nextGeneration := d.nextGeneration + 1 }
    else
      d
  | none =>
    { d with
      parts := d.parts.push (d.build part scale documentSize)
      nextGeneration := d.nextGeneration + 1 }

/-- Matches the cache to `count` parts at `scale`: parts past the count are dropped, stale ones are
replaced and missing ones are added. -/
def fit (d : DocumentCache) (count : Nat) (scale : ViewScale) (documentSize : Size .twips) :
    DocumentCache :=
  (List.range count).foldl (fitPart scale documentSize) { d with parts := d.parts.take count }

def invalidateAll (d : DocumentCache) : DocumentCache :=
  { d with parts := d.parts.map PartCache.invalidateAll }

/-- Drops every part. -/
def clear (d : DocumentCache) : DocumentCache := { d with parts := #[] }

/-- Hands a late result to the cache of its part; see `PartCache.takeBack`. -/
def takeBack (d : DocumentCache) (key : TileKey) (outcome : DrawOutcome) :
    Option (Rect .device) × DocumentCache :=
  match d.parts[key.part]? with
  | none => (none, d)
  | some cache =>
    let (shown, cache) := cache.takeBack key outcome
    (shown, d.setPart key.part cache)

end DocumentCache

end TiledView
