import TiledView.Cache.Drawing

/-!
# What a painter is asked for, and what it reports

* `PaintRequest` — a change to the tile cache or the surface.
* `PaintReport` — what a paint pass has brought about.
* `SubmittingRenderer` — a renderer that may submit requests of its own while it draws.
-/

namespace TiledView

/-- A change to the tile cache or the surface. -/
inductive PaintRequest where
  /-- The document has changed in an area of a part. -/
  | staleArea (part : Nat) (area : Rect .twips)
  /-- The document has changed in a whole part. -/
  | stalePart (part : Nat)
  /-- Surface pixels are to be painted again on the next pass. -/
  | damaged (rect : Rect .device)
  /-- Surface content is to be moved within an area. -/
  | scroll (area : Rect .device) (shift : AxisShift)
  /-- The result of a job has arrived after its pass. -/
  | lateResult (key : TileKey) (outcome : DrawOutcome)
  deriving DecidableEq, Repr

structure PaintSettings where
  /-- Milliseconds a paint pass may spend on drawing tiles. -/
  budget : Nat
  /-- Packed premultiplied colour the surface is cleared to. -/
  background : UInt32
  deriving DecidableEq, Repr

def PaintSettings.default : PaintSettings := { budget := 12, background := 0 }

instance : Inhabited PaintSettings := ⟨.default⟩

/-- Outcome of one paint pass, in surface pixels. -/
structure PaintReport where
  /-- Rectangles that may be shown now.  On a clearing pass the whole surface is one of them, which
  then means cleared to the background, not that every tile in it is valid. -/
  ready : Array (Rect .device)
  /-- Rectangles whose tiles missed the deadline or failed. -/
  pending : Array (Rect .device)
  /-- Whether the surface was cleared to the background before painting. -/
  cleared : Bool
  deriving DecidableEq, Repr

/-- The report of a pass that did nothing. -/
def PaintReport.nothing : PaintReport := ⟨#[], #[], false⟩

/-- A renderer that may submit requests to the painter while it draws. -/
structure SubmittingRenderer (σ : Type) where
  now : σ → Nat × σ
  draw : DrawJob → (deadline : Nat) → σ → (DrawOutcome × List PaintRequest) × σ

namespace SubmittingRenderer

variable {σ : Type}

/-- A renderer that submits nothing. -/
def ofRenderer (r : Renderer σ) : SubmittingRenderer σ where
  now := r.now
  draw job deadline s :=
    let (outcome, s) := r.draw job deadline s
    ((outcome, []), s)

/-- The renderer with its submissions collected beside its state, in order. -/
def collecting (r : SubmittingRenderer σ) : Renderer (σ × List PaintRequest) where
  now s :=
    let (time, state) := r.now s.1
    (time, state, s.2)
  draw job deadline s :=
    let ((outcome, requests), state) := r.draw job deadline s.1
    (outcome, state, s.2 ++ requests)

end SubmittingRenderer

end TiledView
