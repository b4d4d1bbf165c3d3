import TiledView.Proofs.Viewer.Geometry
import TiledView.Simulation.RecordingEngine
import TiledView.Viewer.Basic

/-!
# Viewers that can come about

`Viewer.Reachable v` holds of the viewers that calls of the host and callbacks of engines can lead
to, in any order.  Nothing is assumed of the engines: each call may find them in any state, with any
answers and any progress.  One call is left out, a zoom that is refused because the scroll offset
cannot follow it; `TiledView.Proofs.Viewport` tells why.

Every call leaves the display settled, so the copies of the geometry never drift apart
(`Viewer.geometry_aligned`).
-/

namespace TiledView

namespace Viewer

/-- One call, or the arrival of a callback. -/
inductive Step : Viewer → Viewer → Prop where
  | openDocument {ε : Type} [Engine ε] (v : Viewer) (engines : Engines ε) (engine : EngineId)
      (choice : ViewChoice) : Step v (v.openDocument engines engine choice).2.1
  | closeDocument {ε : Type} [Engine ε] (v : Viewer) (engines : Engines ε) :
      Step v (v.closeDocument engines).2.1
  | deliver (v : Viewer) (callback : Callback) : Step v (v.deliver callback).2
  | process {ε : Type} [Engine ε] (v : Viewer) (engines : Engines ε) :
      Step v (v.process engines).1
  | paint {ε σ : Type} [Engine ε] (v : Viewer) (engines : Engines ε)
      (surroundings : Surroundings σ) (t : σ) : Step v (v.paint engines surroundings t).2.1
  | setViewRect (v : Viewer) (cssRect : Rect .css) (deviceScale : Float) :
      Step v (v.setViewRect cssRect deviceScale).2
  | setZoom (v : Viewer) (zoom : Float)
      (follows : (v.setZoom zoom).1 ≠ .error (.viewport .nonFiniteValue)) :
      Step v (v.setZoom zoom).2
  | scrollTo (v : Viewer) (position : Point .css Float) : Step v (v.scrollTo position).2
  | showPart (v : Viewer) (part : Nat) : Step v (v.showPart part).2
  | redraw (v : Viewer) : Step v v.redraw
  | askFor (v : Viewer) (kind : CallbackKind) : Step v (v.askFor kind)
  | takeNotices (v : Viewer) : Step v v.takeNotices.2
  | submit (v : Viewer) (request : PaintRequest) :
      Step v (v.modifyDisplay fun d => { d with painter := d.painter.submit request })

/-- The viewers that calls and callbacks can lead to. -/
inductive Reachable : Viewer → Prop where
  | create (settings : ViewerSettings) : Reachable (create settings)
  | step {v v' : Viewer} (reachable : Reachable v) (step : Step v v') : Reachable v'

variable {v v' : Viewer} {ε σ : Type}

lemma settled_create (settings : ViewerSettings) : (create settings).display.Settled where
  steady :=
    { sane := Viewport.sane_initial
      idle := rfl
      inPlace := by
        intro part cache found
        exact absurd found (by simp [create, Painter.create, DocumentCache.ofTileEdge])
      surface := rfl }
  cached := fun _ shown => by cases shown
  placed := fun _ shown => by cases shown

/-! ## Requests of the host -/

lemma settled_redraw (steady : v.display.Steady)
    (cached : ∀ document, v.display.attached? = some document →
      v.display.Cached document.session) : v.redraw.display.Settled :=
  (Display.sameGeometry_redraw _).settled (Display.settled_fitAreas steady cached)

lemma applyViewport_fst (v : Viewer) (changed : Except ViewportError ViewportChange × Viewport) :
    (v.applyViewport changed).1 = changed.1.mapError .viewport := by
  rw [applyViewport]
  split
  · next error refused =>
    rw [refused]
    rfl
  · next change told =>
    rw [told]
    rfl

lemma settled_applyViewport (h : v.display.Settled)
    {changed : Except ViewportError ViewportChange × Viewport}
    (moves : v.display.viewport.Moves changed) : (v.applyViewport changed).2.display.Settled := by
  cases moves with
  | refused => exact h
  | unchanged => exact h
  | changed scaleChanged surfaceResized viewport sane same =>
      exact Display.settled_follow h.steady sane scaleChanged same

theorem settled_setZoom (h : v.display.Settled) (zoom : Float)
    (follows : (v.setZoom zoom).1 ≠ .error (.viewport .nonFiniteValue)) :
    (v.setZoom zoom).2.display.Settled := by
  refine settled_applyViewport h (Viewport.setZoom_moves h.steady.sane zoom ?_)
  intro refused
  refine follows ?_
  rw [setZoom, applyViewport_fst, refused]
  rfl

theorem settled_scrollTo (h : v.display.Settled) (position : Point .css Float) :
    (v.scrollTo position).2.display.Settled := by
  rw [scrollTo]
  split_ifs
  · rcases v.display.viewport.scrollTo_eq position v.display.documentSize with
      ⟨error, refused⟩ | ⟨shifts, scroll, scrolled⟩
    · rw [refused]
      exact h
    · rw [scrolled]
      exact Display.settled_scroll h scroll v.display.viewport.shownArea shifts
  · exact h

theorem settled_showPart (h : v.display.Settled) (part : Nat) :
    (v.showPart part).2.display.Settled := by
  rw [showPart]
  cases shown : v.display.attached? with
  | none => exact h
  | some document =>
      dsimp only
      split_ifs with stays
      · exact h
      · refine settled_redraw ⟨h.steady.sane.with_scroll .zero, h.steady.idle, h.steady.inPlace,
          h.steady.surface⟩ ?_
        intro document' shown'
        obtain rfl : document = document' := Option.some.inj (shown.symm.trans shown')
        refine ⟨(h.cached document shown).serves, ?_⟩
        show part < document.session.drawnParts
        omega

/-! ## Callbacks and late drawings -/

/-- A property of displays that outlives callbacks: it stays while the geometry does, a new document
size keeps it, and so does a recovery with the recomputation of the areas after it. -/
structure Kept (P : Display → Prop) : Prop where
  same : ∀ d d' : Display, d.SameGeometry d' → P d → P d'
  sizeChange : ∀ {ε : Type} [Engine ε] (d : Display) (payload : Payload) (engines : Engines ε),
    P d → P (d.onSizeChange payload engines).1
  recover : ∀ {ε : Type} [Engine ε] (d : Display) (engines : Engines ε),
    P d → P (d.recover engines).1.fitAreas

namespace Kept

variable {P : Display → Prop} (kept : Kept P)

include kept

lemma takeInResults (h : P v.display) (engines : Engines ε) :
    P (v.takeInResults engines).1.display := by
  have collected := kept.same _ _ (v.display.sameGeometry_collectLate engines) h
  exact kept.same _ _ (Display.sameGeometry_painter _ (Painter.sameFrame_receive _)) collected

variable [Engine ε]

/-- What a viewer does about a callback. -/
lemma run (handler : Handler) (callback : Callback) (payload : Payload)
    {d : Display × Engines ε} (h : P d.1) : P (handler.run callback payload d).1 := by
  cases handler with
  | invalidation => exact kept.same _ _ (d.1.sameGeometry_onInvalidation callback) h
  | sizeChange => exact kept.sizeChange d.1 payload d.2 h
  | status => exact kept.same _ _ (d.1.sameGeometry_onStatus callback) h
  | relay => exact kept.same _ _ (d.1.sameGeometry_relay callback payload) h

lemma handle (callback : Callback) {v : Viewer × Engines ε} (h : P v.1.display) :
    P (handle v callback).1.display := by
  refine List.foldlRecOn (motive := fun result : Display × Engines ε => P result.1)
    (v.1.dispatcher.registeredFor callback.code) _ h ?_
  intro result ih registration _
  exact kept.run registration.handler callback callback.decode ih

theorem process (h : P v.display) (engines : Engines ε) : P (v.process engines).1.display := by
  have handled : P (v.inbox.callbacks.foldl Viewer.handle
      ({ v with inbox := v.inbox.emptied }, engines)).1.display := by
    refine List.foldlRecOn (motive := fun result : Viewer × Engines ε => P result.1.display)
      v.inbox.callbacks Viewer.handle h ?_
    intro result ih callback _
    exact kept.handle callback ih
  simp only [Viewer.process]
  refine kept.takeInResults ?_ _
  split_ifs
  · exact kept.same _ _ (Display.sameGeometry_redraw _) (kept.recover _ _ handled)
  · exact handled

end Kept

lemma kept_settled : Kept Display.Settled where
  same := fun _ _ same => same.settled
  sizeChange := fun _ payload engines h => Display.settled_onSizeChange h payload engines
  recover := fun _ engines h => Display.settled_recover h engines

lemma settled_takeInResults (h : v.display.Settled) (engines : Engines ε) :
    (v.takeInResults engines).1.display.Settled := kept_settled.takeInResults h engines

section Engines

variable [Engine ε]

/-! ## Documents -/

/-- Without a document there is nothing to keep together but what holds anyway. -/
lemma settled_closeDocument (h : v.display.Settled) (engines : Engines ε) :
    (v.closeDocument engines).2.1.display.Settled := by
  have closed : Display.Settled
      { v.display with
        document? := none
        late := []
        painter := v.display.painter.modifyCache .clear } := by
    refine ⟨⟨h.steady.sane, h.steady.idle, ?_, h.steady.surface⟩, ?_, ?_⟩
    · intro part cache found
      exact absurd found (by simp [Painter.modifyCache, DocumentCache.clear])
    · intro document shown
      cases shown
    · intro document shown
      cases shown
  rw [closeDocument]
  dsimp only
  split <;> exact closed

lemma display_registerHandlers (v : Viewer) : v.registerHandlers.display = v.display := by
  refine List.foldlRecOn (motive := fun result : Viewer => result.display = v.display)
    v.handlers register rfl ?_
  intro result ih entry _
  exact ih

lemma display_present (v : Viewer) (document : ShownDocument) :
    (v.present document).display =
      { v.display with document? := some document, part := 0
        }.fitCache.fitAreas.fitAreas.redraw := by
  show (registerHandlers _).display.fitCache.fitAreas.fitAreas.redraw = _
  rw [display_registerHandlers]
  rfl

lemma settled_present (h : v.display.Steady) (document : ShownDocument) :
    (v.present document).display.Settled := by
  have steady : Display.Steady { v.display with document? := some document, part := 0 } :=
    ⟨h.sane, h.idle, h.inPlace, h.surface⟩
  have settled := Display.settled_refit steady
  rw [display_present]
  exact (Display.sameGeometry_redraw _).settled
    (Display.settled_fitAreas settled.steady settled.cached)

lemma settled_openFirst (h : v.display.Settled) (engines : Engines ε) (engine : EngineId)
    (choice : ViewChoice) : (v.openFirst engines engine choice).2.1.display.Settled := by
  rw [openFirst]
  dsimp only
  split
  · exact h
  · exact settled_present h.steady _

theorem settled_openDocument (h : v.display.Settled) (engines : Engines ε) (engine : EngineId)
    (choice : ViewChoice) : (v.openDocument engines engine choice).2.1.display.Settled := by
  rw [openDocument]
  split
  · exact settled_openFirst h engines engine choice
  · have closed := settled_closeDocument h engines
    split
    · next failed => exact failed ▸ closed
    · next done =>
      rw [done] at closed
      exact settled_openFirst closed _ engine choice

theorem settled_process (h : v.display.Settled) (engines : Engines ε) :
    (v.process engines).1.display.Settled := kept_settled.process h engines

/-! ## Painting -/

/-- What is still pending after a pass is asked for again, and nothing moves. -/
lemma sameGeometry_paintDocument (idle : v.display.painter.phase = .idle) (engine : EngineId)
    (view : ViewId) (engines : Engines ε) (surroundings : Surroundings σ) (t : σ) :
    Display.SameGeometry v.display
      (v.paintDocument engine view engines surroundings t).2.1.display := by
  refine ⟨rfl, rfl, rfl, ?_⟩
  refine (Painter.sameFrame_paint v.display.painter idle
    (.ofRenderer (engineRenderer surroundings engine view))
    { engines, late := v.display.late, surroundings := t }).trans ?_
  simp only [paintDocument, modifyDisplay, ← Array.foldl_toList]
  exact Painter.sameFrame_foldl (fun p rect => p.sameFrame_request (.damaged rect)) _ _

theorem settled_paint (h : v.display.Settled) (engines : Engines ε)
    (surroundings : Surroundings σ) (t : σ) :
    (v.paint engines surroundings t).2.1.display.Settled := by
  have processed := settled_process h engines
  rw [paint]
  dsimp only
  split
  · exact processed
  · split
    · exact processed
    · exact (sameGeometry_paintDocument processed.steady.idle _ _ _ _ _).settled processed

end Engines

/-! ## Runs -/

/-- **Every call leaves the display settled.** -/
theorem settled_step (h : v.display.Settled) (step : Step v v') : v'.display.Settled := by
  cases step with
  | openDocument _ engines engine choice => exact settled_openDocument h engines engine choice
  | closeDocument _ engines => exact settled_closeDocument h engines
  | deliver => exact h
  | process _ engines => exact settled_process h engines
  | paint _ engines surroundings t => exact settled_paint h engines surroundings t
  | setViewRect _ cssRect deviceScale =>
      exact settled_applyViewport h (Viewport.setViewRect_moves h.steady.sane cssRect deviceScale)
  | setZoom _ zoom follows => exact settled_setZoom h zoom follows
  | scrollTo _ position => exact settled_scrollTo h position
  | showPart _ part => exact settled_showPart h part
  | redraw => exact settled_redraw h.steady h.cached
  | askFor _ kind =>
      rw [askFor]
      split_ifs <;> exact h
  | takeNotices => exact Display.SameGeometry.settled (d := v.display) ⟨rfl, rfl, rfl, .refl _⟩ h
  | submit _ request =>
      have same : Painter.SameFrame v.display.painter (v.display.painter.submit request) :=
        ⟨rfl, rfl, rfl, rfl, rfl⟩
      exact (Display.sameGeometry_painter v.display same).settled h

lemma Reachable.settled (h : v.Reachable) : v.display.Settled := by
  induction h with
  | create settings => exact settled_create settings
  | step _ step ih => exact settled_step ih step

/-- **The copies of the geometry never drift apart.**  Whatever calls and callbacks led to a viewer,
with whatever answers of engines: while a document is shown, there is one tile cache for each of its
parts, at its place, of its size and at the scale of the viewport; the part that is shown is one of
them; the painter knows where the document sits; and the surface has the size that the viewport asks
for. -/
theorem geometry_aligned (h : v.Reachable) {document : ShownDocument}
    (shown : v.display.attached? = some document) : v.display.Aligned document.session :=
  h.settled.aligned shown

/-- An engine with three slides. -/
def slideShow : Engines Simulation.RecordingEngine :=
  #[.start (.create .presentation 3 ⟨600, 450⟩ "" false)]

/-- The second of three slides at zoom two, on a display with two device pixels to a pixel. -/
def secondSlide : Viewer :=
  let v := ((create .default).setViewRect ⟨0, 0, 30, 20⟩ 2).2
  let v := (v.openDocument slideShow 0 .selected).2.1
  let v := (v.setZoom 2).2
  (v.showPart 1).2

lemma reachable_secondSlide : secondSlide.Reachable :=
  .step (.step (.step (.step (.create _) (.setViewRect _ _ _)) (.openDocument _ slideShow 0 _))
    (.setZoom _ 2 (by decide +kernel))) (.showPart _ 1)

theorem geometry_aligned_secondSlide : ∃ document, secondSlide.display.attached? = some document ∧
    document.session.drawnParts = 3 ∧ secondSlide.display.Aligned document.session := by
  have three : secondSlide.display.attached?.map (·.session.drawnParts) = some 3 := by
    decide +kernel
  obtain ⟨document, shown, parts⟩ := Option.map_eq_some_iff.1 three
  exact ⟨document, shown, parts, geometry_aligned reachable_secondSlide shown⟩

end Viewer

end TiledView
