import TiledView.Bitmap.Copy
import TiledView.Cache.Document
import TiledView.Paint.Damage
import TiledView.Paint.Placement
import TiledView.Paint.Request
import TiledView.Plane.Wrapping

/-!
# Painters

A `Painter` owns the tile cache of a document and the surface bitmap.  Changes reach it as
`PaintRequest`s and leave damage behind for the next paint pass, which is in `TiledView.Paint.Pass`.

* `Painter.request` — carries out a request, or queues it while a paint pass runs.
* `Painter.submit`, `Painter.receive` — the inbox for code that cannot hold the painter.
* `Painter.scroll` — moves surface content instead of painting it again.
-/

namespace TiledView

inductive PaintPhase where
  | idle
  | painting
  deriving DecidableEq, Repr

structure Painter where
  settings : PaintSettings
  phase : PaintPhase
  cache : DocumentCache
  surface : Bitmap
  /-- Whether the surface has yet to be cleared since it got its size. -/
  unclear : Bool
  damage : Damage
  placement : Placement
  /-- Requests that wait for the running paint pass to end. -/
  deferred : List PaintRequest
  /-- Requests that were submitted and not received yet. -/
  inbox : List PaintRequest

inductive PainterError where
  /-- The painter a request was meant for does not exist any more. -/
  | gone
  deriving DecidableEq, Repr

def PainterError.message : PainterError → String
  | .gone => "repaint pipeline is gone"

namespace Painter

/-- A painter without surface and parts. -/
def create (settings : PaintSettings) (tileEdge : Nat) : Painter where
  settings
  phase := .idle
  cache := .ofTileEdge tileEdge
  surface := .empty
  unclear := true
  damage := .nothing
  placement := .initial
  deferred := []
  inbox := []

/-- Surface rectangles that wait for the next paint, in the order they were recorded. -/
def damageList (p : Painter) : List (Rect .device) := p.damage.toList p.surface.bounds

def markDamage (p : Painter) (rect : Rect .device) : Painter :=
  { p with damage := p.damage.mark rect p.surface.bounds }

def modifyCache (p : Painter) (f : DocumentCache → DocumentCache) : Painter :=
  { p with cache := f p.cache }

/-- Greatest side of a surface. -/
def maxSide : Nat := 0xffffffff

/-- Side of a surface: none where the extent does not fit 32 bits. -/
def sideOf (extent : Int) : Nat := if extent ≤ maxSide then extent.toNat else 0

/-- Gives the surface a new bitmap when its size changes.  The next paint clears it. -/
def resize (p : Painter) (size : Size .device) : Painter :=
  let width := sideOf size.width
  let height := sideOf size.height
  if p.surface.width = width ∧ p.surface.height = height then
    p
  else
    { p with surface := .blank width height, unclear := true, damage := .everything }

/-! ## Carrying out requests -/

/-- The strip of `area` that content moving by `shift` uncovers. -/
def uncovered (area : Rect .device) (shift : AxisShift) : Rect .device :=
  let delta := shift.delta
  match shift.axis with
  | .horizontal =>
    if 0 < delta then area.withWidth delta else ⟨area.right + delta, area.y, -delta, area.height⟩
  | .vertical =>
    if 0 < delta then area.withHeight delta else ⟨area.x, area.bottom + delta, area.width, -delta⟩

/-- Moves surface content instead of painting it again.  Only the uncovered strip becomes damage,
unless nothing of the old content stays in sight. -/
def scroll (p : Painter) (area : Rect .device) (shift : AxisShift) : Painter :=
  let area := area.intersect p.surface.bounds
  let (dx, dy, extent) := match shift.axis with
    | .horizontal => (shift.delta, 0, area.width)
    | .vertical => (0, shift.delta, area.height)
  if area.isEmpty ∨ shift.delta = 0 then
    p
  else if extent ≤ shift.delta.natAbs then
    p.markDamage area
  else
    { p with
      surface := p.surface.shiftWithin area dx dy
      damage := p.damage.shift area dx dy }.markDamage (uncovered area shift)

/-- Takes in a late drawing result.  Pixels that can be shown now become damage. -/
def takeBack (p : Painter) (key : TileKey) (outcome : DrawOutcome) : Painter :=
  let (shown, cache) := p.cache.takeBack key outcome
  let p := { p with cache }
  match shown with
  | none => p
  | some pixels =>
    if key.part = p.placement.part then
      p.markDamage ((p.placement.toSurface pixels).intersect p.placement.area)
    else
      p

/-- Carries out a request.  One for a part that does not exist changes nothing, and neither does
damage that overflows. -/
def carryOut (p : Painter) : PaintRequest → Painter
  | .staleArea part area =>
    p.modifyCache (·.modifyPart part fun cache => (cache.invalidate area).2)
  | .stalePart part => p.modifyCache (·.modifyPart part PartCache.invalidateAll)
  | .damaged rect => p.markDamage rect.effective
  | .scroll area shift => p.scroll area shift
  | .lateResult key outcome => p.takeBack key outcome

/-- Carries out a request, or queues it while a paint pass runs. -/
def request (p : Painter) (request : PaintRequest) : Painter :=
  match p.phase with
  | .idle => p.carryOut request
  | .painting => { p with deferred := p.deferred ++ [request] }

/-- Leaves a request for the next `receive`. -/
def submit (p : Painter) (request : PaintRequest) : Painter :=
  { p with inbox := p.inbox ++ [request] }

/-- Submits a request to a painter that may be gone. -/
def submit? (p? : Option Painter) (request : PaintRequest) : Except PainterError Painter :=
  match p? with
  | some p => .ok (p.submit request)
  | none => .error .gone

/-- Receives everything that has been submitted. -/
def receive (p : Painter) : Painter := p.inbox.foldl Painter.request { p with inbox := [] }

/-- Has the whole surface painted again, without touching the validity of tiles. -/
def redraw (p : Painter) : Painter := p.request (.damaged p.surface.bounds)

/-- Carries out the requests that waited for the end of a paint pass. -/
def carryOutDeferred (p : Painter) : Painter :=
  (p.deferred.foldl carryOut { p with deferred := [] }).receive

end Painter

end TiledView
