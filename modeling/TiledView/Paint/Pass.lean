import TiledView.Cache.Pass
import TiledView.Paint.Painter

/-!
# Paint passes over the surface

A paint pass works through the damage of a painter, has the tile cache draw what the deadline
allows, and reports which surface rectangles can be shown and which still wait.

* `Painter.paint` — one paint pass (`PaintPass.paintRect` for one damaged rectangle).  Requests that
  arrive while it runs are carried out after it, in the order of their arrival.
-/

namespace TiledView

/-- A paint pass on its way through the damaged rectangles. -/
structure PaintPass (σ : Type) where
  cache : PartCache Float
  surface : Bitmap
  ready : Array (Rect .device)
  pending : Array (Rect .device)
  deferred : List PaintRequest
  /-- State of the renderer. -/
  renderer : σ

namespace PaintPass

variable {σ : Type}

/-- What can be seen of some tiles inside `dirty`, in surface pixels. -/
def onSurface (placement : Placement) (dirty : Rect .device) (touched : Array TouchedTile) :
    Array (Rect .device) :=
  (touched.map fun tile => (placement.toSurface tile.pixels).intersect dirty).filter
    fun rect => !rect.isEmpty

/-- Paints the part of one damaged rectangle that shows document content. -/
def paintRect (renderer : SubmittingRenderer σ) (placement : Placement) (deadline : Nat)
    (pass : PaintPass σ) (rect : Rect .device) : PaintPass σ :=
  let dirty := (rect.intersect pass.surface.bounds).intersect placement.area
  if dirty.isEmpty then
    pass
  else
    let window : PaintWindow := { origin := placement.origin, clip := dirty }
    let tiles := pass.cache.sweep pass.surface window (placement.toDocument dirty) deadline
      renderer.collecting (pass.renderer, [])
    { cache := tiles.cache
      surface := tiles.surface
      ready := pass.ready ++ onSurface placement dirty tiles.ready
      pending := pass.pending ++ onSurface placement dirty tiles.pending
      deferred := pass.deferred ++ tiles.renderer.2
      renderer := tiles.renderer.1 }

end PaintPass

namespace Painter

variable {σ : Type}

/-- Clears a surface that has not been painted yet. -/
def clearSurface (p : Painter) : Painter :=
  if p.unclear then
    { p with unclear := false, surface := p.surface.fill p.settings.background }
  else
    p

/-- Paints `rects`.  Without a cache of the shown part at the right scale nothing is drawn, and all
of them wait. -/
def paintRects (p : Painter) (rects : List (Rect .device)) (renderer : SubmittingRenderer σ)
    (s : σ) : PaintReport × Painter × σ :=
  let waiting : PaintReport := ⟨#[], rects.toArray, false⟩
  let (start, s) := renderer.now s
  match p.cache.parts[p.placement.part]? with
  | none => (waiting, p, s)
  | some cache =>
    if cache.scale == p.placement.scale then
      let pass : PaintPass σ :=
        { cache, surface := p.surface, ready := #[], pending := #[], deferred := p.deferred
          renderer := s }
      let deadline := start + p.settings.budget
      let pass := rects.foldl (PaintPass.paintRect renderer p.placement deadline) pass
      (⟨pass.ready, pass.pending, false⟩,
        { p with
          cache := p.cache.setPart p.placement.part pass.cache
          surface := pass.surface
          deferred := pass.deferred },
        pass.renderer)
    else
      (waiting, p, s)

/-- Runs one paint pass over the accumulated damage. -/
def paint (p : Painter) (renderer : SubmittingRenderer σ) (s : σ) : PaintReport × Painter × σ :=
  let p := p.receive
  if p.surface.isEmpty then
    (.nothing, p, s)
  else
    let cleared := p.unclear
    let bounds := p.surface.bounds
    let rects := p.damage.work bounds
    let started := { p.clearSurface with phase := .painting, damage := .nothing }
    let (painted, p, s) := started.paintRects rects renderer s
    let report : PaintReport :=
      { ready := if cleared then #[bounds] ++ painted.ready else painted.ready
        pending := painted.pending
        cleared }
    (report, { p with phase := .idle }.carryOutDeferred, s)

end Painter

end TiledView
