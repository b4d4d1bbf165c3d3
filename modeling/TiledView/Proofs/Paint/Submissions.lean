import TiledView.Proofs.Paint.Reachable

/-!
# Requests that arrive while a pass runs

A renderer may submit requests while it draws.  They wait, and the pass carries them out when it is
over.  `Painter.paint_eq_quiet_then_requests` says that this is all: the pass is the one of the same
renderer with its submissions taken away (`SubmittingRenderer.collecting`), and after it the
requests are given to the painter one by one, in the order in which they were submitted.

The proof follows the two passes side by side.  `PaintPass.quiet` is the state of the quiet pass
that corresponds to a state of the loud one: what has been submitted waits beside the renderer's
state instead of among the deferred requests.
-/

namespace TiledView

variable {σ : Type}

namespace SubmittingRenderer

/-- The renderer that answers each job in the same way, in no time. -/
def constant (answer : DrawJob → DrawOutcome × List PaintRequest) : SubmittingRenderer Unit where
  now s := (0, s)
  draw job _ s := (answer job, s)

/-- The renderer without its submissions. -/
def quiet (renderer : SubmittingRenderer σ) : SubmittingRenderer (σ × List PaintRequest) :=
  .ofRenderer renderer.collecting

/-- Collecting what a renderer submits and collecting what it has collected come to the same. -/
lemma collecting_maps (renderer : SubmittingRenderer σ) (before : List PaintRequest) :
    renderer.collecting.Maps (fun s => ((s.1, before ++ s.2), [])) renderer.quiet.collecting where
  now := fun _ => rfl
  draw := by
    intro job deadline s
    show (_, (_, (before ++ s.2) ++ _), _) = (_, (_, before ++ (s.2 ++ _)), _)
    rw [List.append_assoc]
    rfl

end SubmittingRenderer

namespace PaintPass

/-- The state of the quiet pass. -/
def quiet (pass : PaintPass σ) : PaintPass (σ × List PaintRequest) where
  cache := pass.cache
  surface := pass.surface
  ready := pass.ready
  pending := pass.pending
  deferred := []
  renderer := (pass.renderer, pass.deferred)

variable {renderer : SubmittingRenderer σ} {placement : Placement} {deadline : Nat}

lemma paintRect_quiet (pass : PaintPass σ) (rect : Rect .device) :
    pass.quiet.paintRect renderer.quiet placement deadline rect =
      (pass.paintRect renderer placement deadline rect).quiet := by
  have start : ((pass.renderer, pass.deferred), ([] : List PaintRequest)) =
      ((pass.renderer, pass.deferred ++ []), []) := by rw [List.append_nil]
  have tiles := fun window dirty => pass.cache.sweep_mapState
    (renderer.collecting_maps pass.deferred) pass.surface window dirty deadline (pass.renderer, [])
  by_cases empty : ((rect.intersect pass.surface.bounds).intersect placement.area).isEmpty = true
  · exact (if_pos empty).trans (congrArg quiet (if_pos empty).symm)
  · refine (if_neg empty).trans (Eq.trans ?_ (congrArg quiet (if_neg empty).symm))
    dsimp only [quiet]
    rw [start, tiles]
    rfl

lemma foldl_paintRect_quiet (rects : List (Rect .device)) (pass : PaintPass σ) :
    rects.foldl (paintRect renderer.quiet placement deadline) pass.quiet =
      (rects.foldl (paintRect renderer placement deadline) pass).quiet := by
  induction rects generalizing pass with
  | nil => rfl
  | cons rect rects ih => rw [List.foldl_cons, List.foldl_cons, paintRect_quiet, ih]

end PaintPass

namespace Painter

variable {p : Painter}

lemma paintRects_quiet (deferred : p.deferred = []) (rects : List (Rect .device))
    (renderer : SubmittingRenderer σ) (s : σ) :
    p.paintRects rects renderer.quiet (s, []) =
      let loud := p.paintRects rects renderer s
      (loud.1, { loud.2.1 with deferred := [] }, (loud.2.2, loud.2.1.deferred)) := by
  have same : ({ p with deferred := [] } : Painter) = p := by rw [← deferred]
  cases shown : p.shown? with
  | none =>
      rw [paintRects_of_not_shown rects renderer s shown,
        paintRects_of_not_shown rects renderer.quiet (s, []) shown]
      dsimp only
      rw [same, deferred]
      rfl
  | some cache =>
      have pass : p.passOver rects renderer.quiet (s, []) cache =
          (p.passOver rects renderer s cache).quiet := by
        rw [passOver, passOver, ← PaintPass.foldl_paintRect_quiet, PaintPass.quiet, deferred]
        rfl
      rw [paintRects_of_shown rects renderer s shown,
        paintRects_of_shown rects renderer.quiet (s, []) shown, pass]
      rfl

/-- **A paint during which requests arrive is the paint followed by the requests.** -/
theorem paint_eq_quiet_then_requests (reachable : Reachable (fun _ _ => True) p)
    (renderer : SubmittingRenderer σ) (s : σ) :
    let quiet := p.paint (.ofRenderer renderer.collecting) (s, [])
    p.paint renderer s = (quiet.1, quiet.2.2.2.foldl Painter.request quiet.2.1, quiet.2.2.1) ∧
      (p.paint renderer s).2.1.deferred = [] := by
  have honest := reachable.honest
  refine ⟨?_, (queues_paint honest.idle honest.deferred renderer s).1⟩
  have received := honest.receive
  by_cases empty : p.receive.surface.isEmpty = true
  · rw [paint_of_isEmpty empty, paint_of_isEmpty empty]
    rfl
  · obtain ⟨-, deferred, inbox⟩ := clearSurface_eq p.receive
    have noInbox := (rest_receive honest.idle).2.1
    have painted := paintRects_quiet (p := p.receive.started) (deferred.trans received.deferred)
      (p.receive.damage.work p.receive.surface.bounds) renderer s
    have left := (rest_paintRects p.receive.started
      (p.receive.damage.work p.receive.surface.bounds) renderer s).1
    rw [paint_of_not_isEmpty empty, paint_of_not_isEmpty empty, ← SubmittingRenderer.quiet]
    dsimp only
    rw [painted]
    generalize p.receive.started.paintRects (p.receive.damage.work p.receive.surface.bounds)
      renderer s = loud at left ⊢
    replace left : loud.2.1.inbox = [] := left.trans (inbox.trans noInbox)
    have after := carryOutDeferred_eq (p := { loud.2.1 with phase := .idle }) rfl left
    have quietAfter :=
      carryOutDeferred_eq (p := { loud.2.1 with phase := .idle, deferred := [] }) rfl left
    dsimp only
    rw [after, quietAfter]
    rfl

theorem paint_eq_quiet_then_requests_threePixels :
    let renderer : SubmittingRenderer Unit := .constant fun job =>
      (.drawn job.bitmap, [.stalePart 0, .damaged ⟨0, 0, 1, 1⟩])
    let p := threePixels.resize ⟨2, 1⟩
    let quiet := p.paint (.ofRenderer renderer.collecting) ((), [])
    Reachable (fun _ _ => True) p ∧ quiet.2.2.2 = [.stalePart 0, .damaged ⟨0, 0, 1, 1⟩] ∧
      p.paint renderer () = (quiet.1, quiet.2.2.2.foldl Painter.request quiet.2.1, quiet.2.2.1) ∧
      (p.paint renderer ()).2.1.deferred = [] := by
  have reachable : Reachable (fun _ _ => True) (threePixels.resize ⟨2, 1⟩) :=
    reachable_threePixels.step (.resize _ ⟨2, 1⟩)
  exact ⟨reachable, by decide +kernel, paint_eq_quiet_then_requests reachable _ ()⟩

end Painter

end TiledView
