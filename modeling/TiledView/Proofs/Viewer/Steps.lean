import Mathlib.Logic.Relation
import TiledView.Proofs.Paint.Lending
import TiledView.Proofs.Viewer.Calls
import TiledView.Proofs.Viewer.Reachable

/-!
# What calls make of a display

Whatever a call is about, what it does to the display is a chain of a few elementary changes.

* `Display.Edit` — the changes that callbacks, late drawings and recoveries are made of.  None of
  them opens or closes a document, and none changes the size of the surface or the scale.
* `Display.Step ok` — these, and the changes that only the host can bring about.  `ok` restricts the
  drawings that may be submitted from outside of the viewer.

`Viewer.edited_process` and `Viewer.steps_after` take the calls apart.  An invariant of displays is
then one case for each elementary change, and holds after every run (`Viewer.run_steps`).
-/

namespace TiledView

open Relation (ReflTransGen)

variable {ε σ : Type}

/-! ## Sessions keep their view -/

namespace Session

lemma view?_recordStatus (s : Session) (payload : String) :
    (s.recordStatus payload).view? = s.view? := by
  simp only [recordStatus]
  split_ifs <;> rfl

lemma view?_markDrawn (s : Session) : s.markDrawn.2.view? = s.view? := by
  rw [markDrawn]
  split_ifs <;> rfl

lemma view?_reload {ρ : Type} [Engine ε] (s : Session) (q : TaskQueue ε ρ) :
    (s.reload q).2.1.view? = s.view? := by
  rw [reload]
  split
  · rfl
  · split <;> rfl

/-- Attaching succeeds only with a view. -/
lemma isAttached_attach {ρ : Type} [Engine ε] {s s' : Session} {choice : ViewChoice}
    {q q' : TaskQueue ε ρ} {view : ViewId} (attached : s.attach choice q = (.ok view, s', q')) :
    s'.isAttached = true := by
  rw [attach] at attached
  split at attached
  · next view' found =>
    cases attached
    rw [isAttached, found]
    rfl
  · split at attached
    · cases attached
    · next view' q'' _ =>
      have view? := view?_reload { s with view? := some view' } q''
      rw [Prod.mk.injEq, Prod.mk.injEq] at attached
      rw [← attached.2.1, isAttached, view?]
      rfl

end Session

/-! ## Viewports of the same size and scale -/

namespace Viewport

/-- The same place in the page, at the same scale. -/
structure SameFrame (v v' : Viewport) : Prop where
  cssRect : v'.cssRect = v.cssRect
  surfaceSize : v'.surfaceSize = v.surfaceSize
  zoom : v'.zoom = v.zoom
  deviceScale : v'.deviceScale = v.deviceScale

namespace SameFrame

variable {v v' v'' : Viewport}

lemma refl (v : Viewport) : v.SameFrame v := ⟨rfl, rfl, rfl, rfl⟩

lemma trans (h : v.SameFrame v') (h' : v'.SameFrame v'') : v.SameFrame v'' where
  cssRect := h'.cssRect.trans h.cssRect
  surfaceSize := h'.surfaceSize.trans h.surfaceSize
  zoom := h'.zoom.trans h.zoom
  deviceScale := h'.deviceScale.trans h.deviceScale

end SameFrame

lemma sameFrame_scroll (v : Viewport) (scroll : Point .device) :
    v.SameFrame { v with scroll } := ⟨rfl, rfl, rfl, rfl⟩

lemma sameFrame_clampScroll (v : Viewport) (documentSize : Size .twips) :
    v.SameFrame (v.clampScroll documentSize).2 := by
  obtain ⟨scroll, clamped⟩ := v.clampScroll_eq documentSize
  rw [clamped]
  exact v.sameFrame_scroll scroll

end Viewport

namespace Display

variable {d d' : Display}

/-! ## Elementary changes -/

/-- A change that callbacks, late drawings and recoveries are made of. -/
inductive Edit : Display → Display → Prop where
  | notices (d : Display) (notices : List HostNotice) : Edit d { d with notices }
  /-- The session of the document that is shown changes, and keeps its view. -/
  | session (d : Display) (document : ShownDocument) (session : Session)
      (shown : d.document? = some document) (view : session.view? = document.session.view?) :
      Edit d { d with document? := some { document with session } }
  | viewport (d : Display) (viewport : Viewport) (same : d.viewport.SameFrame viewport)
      (anchored : d.viewport.Anchored → viewport.Anchored) :
      Edit d { d with viewport }
  | place (d : Display) : Edit d d.place
  | fitCache (d : Display) : Edit d d.fitCache
  | staleAll (d : Display) :
      Edit d { d with painter := d.painter.modifyCache DocumentCache.invalidateAll }
  | request (d : Display) (request : PaintRequest) (quiet : request.IsQuiet) :
      Edit d (d.request request)
  | collectLate {ε : Type} (d : Display) (engines : Engines ε) :
      Edit d (d.collectLate engines).1
  | receive (d : Display) : Edit d { d with painter := d.painter.receive }

/-- An elementary change, where drawings that `ok` allows may be submitted from outside. -/
inductive Step (ok : TileKey → DrawOutcome → Prop) : Display → Display → Prop where
  | edit (d d' : Display) (edit : Edit d d') : Step ok d d'
  | openDocument (d : Display) (document : ShownDocument) (closed : d.document? = none)
      (attached : document.session.isAttached = true) :
      Step ok d { d with document? := some document, part := 0 }
  | closeDocument (d : Display) :
      Step ok d
        { d with document? := none, late := [], painter := d.painter.modifyCache .clear }
  | part (d : Display) (part : Nat) : Step ok d { d with part }
  | zoom (d : Display) (zoom : Float) (scroll : Point .device) (finite : zoom.isFinite = true)
      (anchored : d.viewport.Anchored → Viewport.Anchored { d.viewport with zoom, scroll }) :
      Step ok d { d with viewport := { d.viewport with zoom, scroll } }
  /-- The view has got a new place, and the surface the size that goes with it. -/
  | viewRect (d : Display) (viewport : Viewport) (painter : Painter)
      (zoom : viewport.zoom = d.viewport.zoom) (finite : viewport.deviceScale.isFinite = true)
      (surfaceSize : viewport.surfaceSize = viewport.cssRect.size.scaleUp viewport.deviceScale)
      (resized : painter = d.painter.resize viewport.surfaceSize ∨
        viewport.surfaceSize = d.viewport.surfaceSize ∧ painter = d.painter)
      (anchored : d.viewport.Anchored → viewport.Anchored) :
      Step ok d { d with viewport, painter }
  | submit (d : Display) (request : PaintRequest) (delivers : request.Delivers ok) :
      Step ok d { d with painter := d.painter.submit request }
  | paint {ε σ : Type} [Engine ε] (d : Display) (showing : d.document? ≠ none)
      (engines : Engines ε) (engine : EngineId) (view : ViewId) (surroundings : Surroundings σ)
      (t : σ) :
      Step ok d
        (let painted := d.painter.paint
          (.ofRenderer (engineRenderer surroundings engine view)) ⟨engines, d.late, t⟩
        { d with painter := painted.2.1, late := painted.2.2.late })

/-- A chain of edits. -/
abbrev Edits : Display → Display → Prop := ReflTransGen Edit

/-- A chain of elementary changes. -/
abbrev Steps (ok : TileKey → DrawOutcome → Prop) : Display → Display → Prop :=
  ReflTransGen (Step ok)

/-- A property that no link of a chain takes away. -/
lemma keeps_of_chain {r : Display → Display → Prop} {P : Display → Prop}
    (keeps : ∀ d d', r d d' → P d → P d') (chain : ReflTransGen r d d') (h : P d) : P d' := by
  induction chain with
  | refl => exact h
  | tail _ link ih => exact keeps _ _ link ih

/-! ## Edits -/

lemma Edits.single (edit : Edit d d') : Edits d d' := ReflTransGen.single edit

lemma Edits.steps {ok : TileKey → DrawOutcome → Prop} (edits : Edits d d') : Steps ok d d' :=
  ReflTransGen.mono (fun d d' edit => Step.edit d d' edit) d d' edits

/-- A further edit that is not always made. -/
lemma Edits.ite {d'' : Display} {p : Prop} [Decidable p] (edits : Edits d d')
    (edits' : Edits d' d'') : Edits d (if p then d'' else d') := by
  split_ifs
  · exact edits.trans edits'
  · exact edits

lemma edits_foldl {β : Type} {f : Display → β → Display} (hf : ∀ d b, Edits d (f d b))
    (bs : List β) (d : Display) : Edits d (bs.foldl f d) := by
  induction bs generalizing d with
  | nil => exact .refl
  | cons b bs ih => exact (hf d b).trans (ih (f d b))

lemma edits_setSession (d : Display) {session : Session}
    (view : ∀ old, d.session? = some old → session.view? = old.view?) :
    Edits d (d.setSession session) := by
  cases shown : d.document? with
  | none =>
      have same : d.setSession session = d := by rw [setSession, shown, Option.map_none, ← shown]
      rw [same]
  | some document =>
      rw [setSession, shown]
      refine .single (.session d document session shown (view _ ?_))
      rw [session?, shown, Option.map_some]

lemma edits_request (d : Display) (request : PaintRequest) (quiet : request.IsQuiet) :
    Edits d (d.request request) := .single (.request d request quiet)

lemma edits_redraw (d : Display) : Edits d d.redraw :=
  d.edits_request (.damaged d.painter.surface.bounds) trivial

lemma edits_fitAreas (d : Display) : Edits d d.fitAreas := by
  have same := d.viewport.sameFrame_clampScroll d.documentSize
  have areas := Edit.viewport d
    ((d.viewport.clampScroll d.documentSize).2.updateAreas d.documentSize d.pages)
    ⟨same.cssRect, same.surfaceSize, same.zoom, same.deviceScale⟩
    fun h => (d.viewport.anchored_clampScroll _ h.area h.deviceScale).updateAreas _ _
  exact .tail (.single areas) (.place _)

lemma edits_refit (d : Display) : Edits d d.fitCache.fitAreas.redraw :=
  .trans (.single (.fitCache d)) ((edits_fitAreas _).trans (edits_redraw _))

lemma edits_onInvalidation (d : Display) (callback : Callback) :
    Edits d (d.onInvalidation callback) := by
  rw [onInvalidation]
  cases shown : d.attached? with
  | none => exact .refl
  | some document =>
      have marked : Edits d (d.setSession document.session.markDrawn.2) := by
        refine d.edits_setSession fun old hold => ?_
        obtain rfl : document.session = old :=
          Option.some.inj ((session?_of_attached? shown).symm.trans hold)
        exact document.session.view?_markDrawn
      have told : ∀ notices,
          Edits d { d.setSession document.session.markDrawn.2 with notices } :=
        fun notices => marked.tail (.notices _ notices)
      dsimp only
      split
      · refine .ite ((told _).trans (edits_request _ _ ?_)) (edits_redraw _)
        exact trivial
      · refine .ite ((told _).trans (edits_request _ _ ?_)) (edits_request _ _ ?_) <;>
          exact trivial
      · exact told _

lemma edits_onStatus (d : Display) (callback : Callback) : Edits d (d.onStatus callback) := by
  rw [onStatus]
  split
  · next session text shown _ =>
    refine d.edits_setSession fun old hold => ?_
    obtain rfl : session = old := Option.some.inj (shown.symm.trans hold)
    exact session.view?_recordStatus text
  · exact .refl

section Engines

variable [Engine ε]

lemma edits_reload (d : Display) (engines : Engines ε) : Edits d (d.reload engines).2.1 := by
  rw [reload]
  cases shown : d.attached? with
  | none => exact .refl
  | some document =>
      refine d.edits_setSession fun old hold => ?_
      obtain rfl : document.session = old :=
        Option.some.inj ((session?_of_attached? shown).symm.trans hold)
      rw [Engines.use]
      split
      · rfl
      · exact document.session.view?_reload _

lemma edits_onSizeChange (d : Display) (payload : Payload) (engines : Engines ε) :
    Edits d (d.onSizeChange payload engines).1 := by
  rw [onSizeChange]
  split
  · exact .refl
  · refine .trans (.trans (d.edits_reload engines) ?_) (edits_refit _)
    split
    · next session size _ shown _ =>
      refine edits_setSession _ fun old hold => ?_
      obtain rfl : session = old := Option.some.inj (shown.symm.trans hold)
      rfl
    · exact .refl

lemma edits_recover (d : Display) (engines : Engines ε) : Edits d (d.recover engines).1 := by
  rw [recover]
  split_ifs
  · exact ((d.edits_reload engines).tail (.fitCache _)).tail (.staleAll _)
  · exact .refl

end Engines

end Display

namespace Viewer

open Display

variable {ok : TileKey → DrawOutcome → Prop} {v v' v'' : Viewer}

lemma edits_redraw (v : Viewer) : Edits v.display v.redraw.display :=
  v.display.edits_fitAreas.trans (Display.edits_redraw _)

/-- `v'` is `v` with an edited display. -/
structure Edited (v v' : Viewer) : Prop where
  settings : v'.settings = v.settings
  dispatcher : v'.dispatcher = v.dispatcher
  registrations : v'.registrations = v.registrations
  askedFor : v'.askedFor = v.askedFor
  inbox : v'.inbox = v.inbox
  edits : Edits v.display v'.display

lemma edited_display (v : Viewer) {display : Display} (edits : Edits v.display display) :
    Edited v { v with display } := ⟨rfl, rfl, rfl, rfl, rfl, edits⟩

lemma Edited.refl (v : Viewer) : Edited v v := edited_display v .refl

lemma Edited.trans (h : Edited v v') (h' : Edited v' v'') : Edited v v'' where
  settings := h'.settings.trans h.settings
  dispatcher := h'.dispatcher.trans h.dispatcher
  registrations := h'.registrations.trans h.registrations
  askedFor := h'.askedFor.trans h.askedFor
  inbox := h'.inbox.trans h.inbox
  edits := h.edits.trans h'.edits

lemma edited_takeInResults (v : Viewer) (engines : Engines ε) :
    Edited v (v.takeInResults engines).1 :=
  edited_display v (.tail (.single (.collectLate v.display engines)) (.receive _))

section Engines

variable [Engine ε]

lemma edits_run (handler : Handler) (callback : Callback) (payload : Payload)
    (d : Display × Engines ε) : Edits d.1 (handler.run callback payload d).1 := by
  cases handler with
  | invalidation => exact d.1.edits_onInvalidation callback
  | sizeChange => exact d.1.edits_onSizeChange payload d.2
  | status => exact d.1.edits_onStatus callback
  | relay => exact .single (.notices d.1 _)

lemma edited_handle (v : Viewer × Engines ε) (callback : Callback) :
    Edited v.1 (handle v callback).1 := by
  refine edited_display v.1 ?_
  refine List.foldlRecOn (motive := fun result : Display × Engines ε =>
    Edits v.1.display result.1) (v.1.dispatcher.registeredFor callback.code) _ .refl ?_
  intro result ih registration _
  exact ih.trans (edits_run registration.handler callback callback.decode result)

lemma edited_foldl_handle (callbacks : List Callback) (v : Viewer × Engines ε) :
    Edited v.1 (callbacks.foldl handle v).1 := by
  refine List.foldlRecOn (motive := fun result : Viewer × Engines ε => Edited v.1 result.1)
    callbacks handle (.refl v.1) ?_
  intro result ih callback _
  exact ih.trans (edited_handle result callback)

lemma edited_recover (v : Viewer) (engines : Engines ε) : Edited v (v.recover engines).1 :=
  edited_display v
    ((v.display.edits_recover engines).trans (Viewer.edits_redraw { v with display := _ }))

/-- **Processing empties the inbox and edits the display.** -/
theorem edited_process (v : Viewer) (engines : Engines ε) :
    Edited { v with inbox := v.inbox.emptied } (v.process engines).1 := by
  have handled : Edited { v with inbox := v.inbox.emptied } _ :=
    edited_foldl_handle v.inbox.callbacks ({ v with inbox := v.inbox.emptied }, engines)
  simp only [process]
  refine Edited.trans ?_ (edited_takeInResults _ _)
  split_ifs
  · exact handled.trans (edited_recover _ _)
  · exact handled

/-! ## Documents -/

/-- Closing a document takes its handlers and its caches away, whatever the engine says. -/
lemma closeDocument_eq (v : Viewer) (engines : Engines ε) :
    (v.closeDocument engines).2.1 = v.removeHandlers.modifyDisplay fun d =>
      { d with document? := none, late := [], painter := d.painter.modifyCache .clear } := by
  rw [closeDocument]
  dsimp only
  split <;> rfl

lemma steps_closeDocument (v : Viewer) (engines : Engines ε) :
    Steps ok v.display (v.closeDocument engines).2.1.display := by
  rw [closeDocument_eq]
  exact .single (.closeDocument v.display)

/-- A session that has been started has a view. -/
lemma isAttached_startSession {language : String} {choice : ViewChoice} {q : TaskQueue ε Bitmap}
    {session : Session} (started : (startSession language choice q).1 = .ok session) :
    session.isAttached = true := by
  rw [startSession] at started
  rcases attached : Session.initial.attach choice q with ⟨error | view, s, q'⟩
  · rw [attached] at started
    cases started
  · rw [attached] at started
    dsimp only at started
    split at started
    · cases started
    · cases started
      exact Session.isAttached_attach attached

/-- Opening a document starts showing it, or changes nothing. -/
lemma openFirst_eq (v : Viewer) (engines : Engines ε) (engine : EngineId) (choice : ViewChoice) :
    (v.openFirst engines engine choice).2.1 = v ∨
      ∃ session : Session, session.isAttached = true ∧
        (v.openFirst engines engine choice).2.1 = v.present ⟨engine, session⟩ := by
  rw [openFirst]
  dsimp only
  split
  · exact .inl rfl
  · next session started =>
    refine .inr ⟨session, ?_, rfl⟩
    rw [Engines.use] at started
    split at started
    · cases started
    · exact isAttached_startSession started

/-- What follows the opening of a document in the strict sense. -/
lemma edits_present (v : Viewer) (document : ShownDocument) :
    Edits { v.display with document? := some document, part := 0 }
      (v.present document).display := by
  rw [display_present]
  exact .trans (.single (.fitCache _))
    (.trans (edits_fitAreas _) ((edits_fitAreas _).trans (Display.edits_redraw _)))

lemma steps_present (v : Viewer) (document : ShownDocument) (closed : v.display.document? = none)
    (attached : document.session.isAttached = true) :
    Steps ok v.display (v.present document).display :=
  .head (.openDocument v.display document closed attached) (edits_present v document).steps

lemma steps_openFirst (closed : v.display.document? = none) (engines : Engines ε)
    (engine : EngineId) (choice : ViewChoice) :
    Steps ok v.display (v.openFirst engines engine choice).2.1.display := by
  rcases openFirst_eq v engines engine choice with same | ⟨session, attached, same⟩ <;> rw [same]
  exact steps_present v _ closed attached

lemma steps_openDocument (v : Viewer) (engines : Engines ε) (engine : EngineId)
    (choice : ViewChoice) : Steps ok v.display (v.openDocument engines engine choice).2.1.display := by
  rw [openDocument]
  split
  · next closed => exact steps_openFirst closed engines engine choice
  · have closed : Steps ok _ _ := steps_closeDocument v engines
    have none : (v.closeDocument engines).2.1.display.document? = none := by
      rw [closeDocument_eq]
      rfl
    split
    · next failed => exact failed ▸ closed
    · next done =>
      rw [done] at closed none
      exact closed.trans (steps_openFirst none _ engine choice)

/-! ## Painting -/

lemma steps_paintDocument (showing : v.display.document? ≠ none) (engine : EngineId)
    (view : ViewId) (engines : Engines ε) (surroundings : Surroundings σ) (t : σ) :
    Steps ok v.display (v.paintDocument engine view engines surroundings t).2.1.display := by
  have again : ∀ (rects : List (Rect .device)) (d : Display), Edits d
      { d with painter := rects.foldl (fun p rect => p.request (.damaged rect)) d.painter } := by
    intro rects
    induction rects with
    | nil => exact fun _ => .refl
    | cons rect rects ih =>
        exact fun d => (d.edits_request (.damaged rect) trivial).trans (ih _)
  refine ReflTransGen.head (.paint v.display showing engines engine view surroundings t) ?_
  simp only [paintDocument, modifyDisplay, ← Array.foldl_toList]
  exact (again _ _).steps

lemma steps_paint (v : Viewer) (engines : Engines ε) (surroundings : Surroundings σ) (t : σ) :
    Steps ok v.display (v.paint engines surroundings t).2.1.display := by
  have processed : Steps ok v.display (v.process engines).1.display :=
    (edited_process v engines).edits.steps
  rw [paint]
  dsimp only
  split
  · exact processed
  · next shown =>
    split
    · exact processed
    · refine processed.trans (steps_paintDocument ?_ _ _ _ _ _)
      rw [shown]
      exact Option.some_ne_none _

end Engines

/-! ## Requests of the host -/

lemma steps_setViewRect (v : Viewer) (cssRect : Rect .css) (deviceScale : Float) :
    Steps ok v.display (v.setViewRect cssRect deviceScale).2.display := by
  rw [setViewRect]
  simp only [Viewport.setViewRect]
  split_ifs with refused unchanged
  · exact .refl
  · exact .refl
  · have positive : isPositiveFinite deviceScale = true := by simpa using refused
    dsimp only [applyViewport, modifyDisplay, follow]
    refine ReflTransGen.trans (.single (.viewRect v.display _ _ ?_ ?_ ?_ ?_ ?_))
      (Edits.steps (edits_refit _))
    · rfl
    · exact Viewport.isFinite_of_isPositiveFinite positive
    · rfl
    · dsimp only
      split_ifs with resized
      · exact .inl rfl
      · exact .inr ⟨by simpa using resized, rfl⟩
    · exact fun h => ⟨h.area, h.scroll, positive⟩

lemma steps_setZoom (v : Viewer) (zoom : Float) :
    Steps ok v.display (v.setZoom zoom).2.display := by
  rw [setZoom, Viewport.setZoom]
  split_ifs with refused unchanged
  · exact .refl
  · exact .refl
  · have finite : zoom.isFinite = true :=
      Viewport.isFinite_of_isPositiveFinite (by simpa using refused)
    split
    · refine .single (.zoom v.display zoom v.display.viewport.scroll finite fun h => ?_)
      exact ⟨h.area, h.scroll, h.deviceScale⟩
    · next scroll _ =>
      dsimp only
      have within := Viewport.anchored_clampScroll
        { v.display.viewport with zoom, scroll } v.display.documentSize
      obtain ⟨clamped, same⟩ := Viewport.clampScroll_eq
        { v.display.viewport with zoom, scroll } v.display.documentSize
      rw [same] at within ⊢
      refine .head (.zoom v.display zoom clamped finite fun h => ?_) (Edits.steps (edits_refit _))
      exact within h.area h.deviceScale

lemma steps_scrollTo (v : Viewer) (position : Point .css Float) :
    Steps ok v.display (v.scrollTo position).2.display := by
  rw [scrollTo]
  split_ifs
  · have anchored (h : v.display.viewport.Anchored) := h.scrollTo position v.display.documentSize
    rcases v.display.viewport.scrollTo_eq position v.display.documentSize with
      ⟨error, refused⟩ | ⟨shifts, scroll, scrolled⟩
    · rw [refused]
      exact .refl
    · rw [scrolled] at anchored ⊢
      refine Edits.steps (.trans (.single (.viewport v.display _ ?_ anchored)) (.tail
        (edits_foldl ?_ shifts _) (.place _)))
      · exact v.display.viewport.sameFrame_scroll scroll
      · exact fun d shift => d.edits_request (.scroll _ shift) trivial
  · exact .refl

lemma steps_showPart (v : Viewer) (part : Nat) :
    Steps ok v.display (v.showPart part).2.display := by
  rw [showPart]
  split
  · exact .refl
  · split_ifs
    · exact .refl
    · refine ReflTransGen.head (.part v.display part) (Edits.steps ?_)
      have home := Edit.viewport { v.display with part } v.display.viewport.scrollHome
        (Viewport.sameFrame_scroll _ .zero)
        fun h => ⟨h.area, ⟨Int.le_refl 0, Int.le_refl 0⟩, h.deviceScale⟩
      exact .trans (.tail (.single home) (.place _))
        ((edits_fitAreas _).trans (Display.edits_redraw _))

/-! ## Runs -/

/-- A call that submits no drawing but what `ok` allows. -/
def Call.Submits (ok : TileKey → DrawOutcome → Prop) : Call → Prop
  | .submit request => request.Delivers ok
  | _ => True

lemma Call.submits_true (call : Call) : call.Submits fun _ _ => True := by
  cases call with
  | submit request => exact request.delivers_true
  | _ => trivial

/-- **A call changes a display step by step.** -/
theorem steps_after (v : Viewer) {call : Call} (submits : call.Submits ok) :
    Steps ok v.display (v.after call).display := by
  cases call with
  | openDocument engines engine choice => exact steps_openDocument v engines engine choice
  | closeDocument engines => exact steps_closeDocument v engines
  | deliver => exact .refl
  | takeNotices => exact .single (.edit _ _ (.notices v.display []))
  | process engines => exact (edited_process v engines).edits.steps
  | paint engines surroundings t => exact steps_paint v engines surroundings t
  | setViewRect cssRect deviceScale => exact steps_setViewRect v cssRect deviceScale
  | setZoom zoom => exact steps_setZoom v zoom
  | scrollTo position => exact steps_scrollTo v position
  | showPart part => exact steps_showPart v part
  | redraw => exact (Viewer.edits_redraw v).steps
  | askFor kind =>
      have same : (v.askFor kind).display = v.display := by
        rw [askFor]
        split_ifs <;> rfl
      exact same ▸ .refl
  | submit request => exact .single (.submit v.display request submits)

end Viewer

end TiledView
