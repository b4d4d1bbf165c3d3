import TiledView.Proofs.Viewer.Steps

/-!
# What every call keeps

`Display.Regular settings d` holds between any two calls, whatever the engines answer, whether or
not a document is shown, and also after a zoom that the scroll offset could not follow.

* No paint pass is running, and the caches are sound.
* The surface has the size that the place of the view and the device scale ask for, and both
  factors of the scale are finite.  Nothing before the origin of the document is shown.
* The document that is shown has a view.  While none is shown there are no caches and no drawing is
  late.

The lemmas have one case for each `Display.Edit` and `Display.Step`, and `Viewer.regular_run` is the
result.
-/

namespace TiledView

open Relation (ReflTransGen)

lemma Painter.rest_resize (p : Painter) (size : Size .device) :
    (p.resize size).settings = p.settings ∧ (p.resize size).inbox = p.inbox := by
  simp only [resize]
  split_ifs <;> exact ⟨rfl, rfl⟩

lemma Viewport.surfaceSize_initial : initial.surfaceSize =
    initial.cssRect.size.scaleUp initial.deviceScale := by decide +kernel

namespace Display

variable {settings : ViewerSettings} {d d' : Display} {ok : TileKey → DrawOutcome → Prop}

structure Regular (settings : ViewerSettings) (d : Display) : Prop where
  honest : d.painter.Honest fun _ _ => True
  paintSettings : d.painter.settings = settings.paint
  tileEdge : d.painter.cache.tileEdge = settings.tileEdge
  surface : d.painter.surface.size = Painter.surfaceFor d.viewport.surfaceSize
  zoom : d.viewport.zoom.isFinite = true
  deviceScale : d.viewport.deviceScale.isFinite = true
  surfaceSize : d.viewport.surfaceSize = d.viewport.cssRect.size.scaleUp d.viewport.deviceScale
  anchored : d.viewport.Anchored
  attached : ∀ document, d.document? = some document → document.session.isAttached = true
  closed : d.document? = none → d.late = [] ∧ d.painter.cache.parts = #[]

namespace Regular

lemma steady (h : d.Regular settings) : d.Steady where
  sane := by
    refine ⟨h.zoom, h.deviceScale, ?_, ?_⟩ <;> rw [h.surfaceSize]
    · exact Int.le_max_right _ _
    · exact Int.le_max_right _ _
  idle := h.honest.idle
  inPlace := h.honest.sound.inPlace
  surface := h.surface

lemma attached?_eq (h : d.Regular settings) : d.attached? = d.document? := by
  cases shown : d.document? with
  | none => rw [attached?, shown, Option.filter_none]
  | some document => rw [attached?, shown, Option.filter_some, if_pos (h.attached document shown)]

/-- The same caches up to drawing, at the same place. -/
lemma repaint (h : d.Regular settings) {painter : Painter} {late : List LateDrawing}
    (honest : painter.Honest fun _ _ => True) (same : d.painter.SameFrame painter)
    (none : d.document? = none → late = []) : Regular settings { d with painter, late } where
  honest := honest
  paintSettings := same.settings.trans h.paintSettings
  tileEdge := (DocumentCache.outline_fields same.outline).1.trans h.tileEdge
  surface := same.size.trans h.surface
  zoom := h.zoom
  deviceScale := h.deviceScale
  surfaceSize := h.surfaceSize
  anchored := h.anchored
  attached := h.attached
  closed := by
    intro closed
    refine ⟨none closed, Array.eq_empty_of_size_eq_zero ?_⟩
    rw [DocumentCache.size_of_outline same.outline, (h.closed closed).2]
    rfl

lemma request (h : d.Regular settings) (request : PaintRequest) :
    (d.request request).Regular settings :=
  h.repaint (h.honest.request request.delivers_true) (Painter.sameFrame_request d.painter request)
    fun closed => (h.closed closed).1

/-- Other caches for the document that is shown. -/
lemma recache (h : d.Regular settings) (action : CacheAction)
    (answers : ∀ answer ∈ d.painter.cache.answered action, True)
    (none : d.document? = none → (d.painter.cache.act action).parts = #[]) :
    Regular settings { d with painter := d.painter.modifyCache (·.act action) } where
  honest := h.honest.cache answers
  paintSettings := h.paintSettings
  tileEdge := DocumentCache.tileEdge_act.trans h.tileEdge
  surface := h.surface
  zoom := h.zoom
  deviceScale := h.deviceScale
  surfaceSize := h.surfaceSize
  anchored := h.anchored
  attached := h.attached
  closed := fun closed => ⟨(h.closed closed).1, none closed⟩

lemma fitCache (h : d.Regular settings) : d.fitCache.Regular settings := by
  cases shown : d.attached? with
  | none =>
      rw [Display.fitCache, shown]
      exact h
  | some document =>
      have fitted := h.recache (.fit document.session.drawnParts d.viewport.scale
        document.session.documentSize) (fun _ _ => trivial) fun closed => by
          rw [h.attached?_eq, closed] at shown
          cases shown
      rw [fitCache_of_attached shown]
      exact { fitted with }

lemma collectLate {ε : Type} (h : d.Regular settings) (engines : Engines ε) :
    (d.collectLate engines).1.Regular settings := by
  cases shown : d.document? with
  | none =>
      rw [Display.collectLate, (h.closed shown).1]
      exact h.repaint h.honest (.refl _) fun _ => rfl
  | some document =>
      have showing : d.document? ≠ none := shown ▸ Option.some_ne_none document
      have started : Regular settings { d with late := [] } :=
        h.repaint h.honest (.refl _) fun _ => rfl
      refine (List.foldlRecOn (motive := fun result : Display × Engines ε =>
        result.1.Regular settings ∧ result.1.document? ≠ none) d.late _ ⟨started, showing⟩ ?_).1
      rintro result ⟨regular, showing⟩ late _
      rw [collectOne]
      split
      · exact ⟨regular.request _, showing⟩
      · exact ⟨regular.repaint regular.honest (.refl _) fun closed => absurd closed showing,
          showing⟩

lemma edit (h : d.Regular settings) (edit : Edit d d') : d'.Regular settings := by
  cases edit with
  | notices => exact { h with }
  | place => exact { h with honest := h.honest.place _ }
  | session _ document session shown view =>
      refine { h with
        attached := ?_
        closed := fun closed => absurd closed (Option.some_ne_none _) }
      rintro _ ⟨⟩
      rw [Session.isAttached, view]
      exact h.attached document shown
  | viewport _ viewport same anchored =>
      refine { h with
        surface := ?_, zoom := ?_, deviceScale := ?_, surfaceSize := ?_
        anchored := anchored h.anchored }
      · rw [same.surfaceSize, h.surface]
      · rw [same.zoom, h.zoom]
      · rw [same.deviceScale, h.deviceScale]
      · rw [same.surfaceSize, same.cssRect, same.deviceScale, h.surfaceSize]
  | fitCache => exact h.fitCache
  | staleAll =>
      refine h.recache .staleAll (fun _ _ => trivial) fun closed => ?_
      rw [DocumentCache.act, DocumentCache.invalidateAll, (h.closed closed).2, Array.map_empty]
  | request _ request => exact h.request request
  | collectLate _ engines => exact h.collectLate engines
  | receive =>
      exact h.repaint h.honest.receive (Painter.sameFrame_receive d.painter)
        fun closed => (h.closed closed).1

lemma edits (h : d.Regular settings) (edits : Edits d d') : d'.Regular settings :=
  keeps_of_chain (fun _ _ edit h => h.edit edit) edits h

/-- **Every step keeps a display regular.** -/
theorem step (h : d.Regular settings) (step : Step ok d d') : d'.Regular settings := by
  cases step with
  | edit _ _ edit => exact h.edit edit
  | openDocument _ document closed attached =>
      refine { h with
        attached := ?_
        closed := fun closed => absurd closed (Option.some_ne_none _) }
      rintro _ ⟨⟩
      exact attached
  | closeDocument =>
      have cleared := h.recache .clear (fun _ _ => trivial) fun _ => rfl
      exact { cleared with
        attached := fun _ shown => absurd shown.symm (Option.some_ne_none _)
        closed := fun _ => ⟨rfl, rfl⟩ }
  | part => exact { h with }
  | zoom _ zoom scroll finite anchored =>
      exact { h with zoom := finite, anchored := anchored h.anchored }
  | viewRect _ viewport painter zoom finite surfaceSize resized anchored =>
      rcases resized with rfl | ⟨same, rfl⟩
      · obtain ⟨-, cache, -⟩ := d.painter.resize_eq viewport.surfaceSize
        exact { h with
          honest := h.honest.resize _
          paintSettings := (d.painter.rest_resize _).1.trans h.paintSettings
          tileEdge := by rw [cache, h.tileEdge]
          surface := d.painter.size_resize _
          zoom := by rw [zoom, h.zoom]
          deviceScale := finite
          surfaceSize
          anchored := anchored h.anchored
          closed := by rw [cache]; exact h.closed }
      · exact { h with
          surface := by rw [same, h.surface]
          zoom := by rw [zoom, h.zoom]
          deviceScale := finite
          surfaceSize
          anchored := anchored h.anchored }
  | submit _ request delivers =>
      exact h.repaint (h.honest.submit request.delivers_true) ⟨rfl, rfl, rfl, rfl, rfl⟩
        fun closed => (h.closed closed).1
  | paint _ showing engines engine view surroundings t =>
      refine h.repaint (h.honest.paint (fun _ _ _ => ?_) _)
        (Painter.sameFrame_paint d.painter h.honest.idle _ _) fun closed => absurd closed showing
      exact ⟨trivial, fun request _ => request.delivers_true⟩

end Regular

end Display

namespace Viewer

open Display

variable {settings : ViewerSettings} {calls : List Call} {ok : TileKey → DrawOutcome → Prop}

lemma regular_create (settings : ViewerSettings) :
    (create settings).display.Regular settings where
  honest := .create _ _
  paintSettings := rfl
  tileEdge := rfl
  surface := rfl
  zoom := Viewport.sane_initial.zoom
  deviceScale := Viewport.sane_initial.deviceScale
  surfaceSize := Viewport.surfaceSize_initial
  anchored := Viewport.anchored_initial
  attached := fun _ shown => absurd shown.symm (Option.some_ne_none _)
  closed := fun _ => ⟨rfl, rfl⟩

/-- An invariant of displays that every step keeps, and that a new display has. -/
theorem run_steps {P : Display → Prop} (create : P (create settings).display)
    (step : ∀ d d', d.Regular settings → Display.Step ok d d' → P d → P d')
    (submits : ∀ call ∈ calls, call.Submits ok) : P (run settings calls).display := by
  suffices h : (run settings calls).display.Regular settings ∧ P (run settings calls).display from
    h.2
  refine run_rec (P := fun v => v.display.Regular settings ∧ P v.display)
    ⟨regular_create settings, create⟩ ?_
  rintro v call mem ⟨regular, h⟩
  refine keeps_of_chain (P := fun d => d.Regular settings ∧ P d) ?_
    (v.steps_after (submits call mem)) ⟨regular, h⟩
  rintro d d' next ⟨regular, h⟩
  exact ⟨regular.step next, step d d' regular next h⟩

/-- **Every run leaves the display regular.** -/
theorem regular_run (settings : ViewerSettings) (calls : List Call) :
    (run settings calls).display.Regular settings := by
  have submits : ∀ call ∈ calls, call.Submits fun _ _ => True := fun call _ => call.submits_true
  exact run_steps (regular_create settings) (fun _ _ regular next _ => regular.step next) submits

end Viewer

end TiledView
