import TiledView.Callback.Invalidation
import TiledView.Document.Session
import TiledView.Paint.Pass
import TiledView.Viewer.EngineDrawing
import TiledView.Viewport

/-!
# Displays

A `Display` is everything a callback may change: the session of the shown document, the viewport,
the painter with its tile cache, and the notices waiting for the host.  Several of its parts hold
copies of the same geometry, and three operations bring them together again:

* `Display.fitCache` — the tile cache, after the document's parts or the scale changed;
* `Display.fitAreas` — viewport areas and scroll offset, after the document's extent changed;
* `Display.place` — the painter's placement, after anything in the viewport changed.

What a display does about callbacks is in `Display.onInvalidation`, `Display.onSizeChange` and
`Display.onStatus`.
-/

namespace TiledView

/-- Something to tell the host page. -/
inductive HostNotice where
  /-- The view drew for the first time; the command statuses were reported before. -/
  | ready (statuses : List Payload)
  /-- A callback of a kind the host asked for. -/
  | callback (callback : Callback) (payload : Payload)
  deriving Repr

/-- The document that is shown. -/
structure ShownDocument where
  engine : EngineId
  session : Session
  deriving DecidableEq, Repr

structure Display where
  document? : Option ShownDocument
  viewport : Viewport
  painter : Painter
  /-- The part that is shown. -/
  part : Nat
  /-- Drawing tasks that missed their paint pass, oldest first. -/
  late : List LateDrawing
  notices : List HostNotice

namespace Display

variable {ε : Type}

/-! ## The document -/

def session? (d : Display) : Option Session := d.document?.map (·.session)

/-- The document, if its session has a view. -/
def attached? (d : Display) : Option ShownDocument := d.document?.filter (·.session.isAttached)

def isAttached (d : Display) : Bool := d.attached?.isSome

def setSession (d : Display) (session : Session) : Display :=
  { d with document? := d.document?.map ({ · with session }) }

/-- Size of the document, or nothing without one. -/
def documentSize (d : Display) : Size .twips :=
  match d.session? with
  | some session => session.documentSize
  | none => .zero

def pages (d : Display) : List (Rect .twips) :=
  match d.session? with
  | some session => session.pages
  | none => []

def request (d : Display) (request : PaintRequest) : Display :=
  { d with painter := d.painter.request request }

/-! ## Keeping the geometry together -/

/-- Tells the painter where the document sits on the surface. -/
def place (d : Display) : Display :=
  let placement : Placement :=
    { area := d.viewport.shownArea
      scroll := d.viewport.scroll
      scale := d.viewport.scale
      part := d.part }
  { d with painter := { d.painter with placement } }

/-- Matches the tile cache to the document's parts at the present scale. -/
def fitCache (d : Display) : Display :=
  match d.attached? with
  | none => d
  | some { session, .. } =>
    let part := if session.drawnParts ≤ d.part then 0 else d.part
    let fit (cache : DocumentCache) :=
      cache.fit session.drawnParts d.viewport.scale session.documentSize
    { d with part, painter := d.painter.modifyCache fit }

/-- Recomputes the areas and pulls the scroll offset back inside the document. -/
def fitAreas (d : Display) : Display :=
  let viewport := (d.viewport.clampScroll d.documentSize).2
  { d with viewport := viewport.updateAreas d.documentSize d.pages }.place

/-- Has the whole surface painted again. -/
def redraw (d : Display) : Display := { d with painter := d.painter.redraw }

/-- Follows a change of the viewport. -/
def follow (d : Display) : ViewportChange → Display
  | .unchanged => d
  | .changed _ surfaceResized =>
    let painter :=
      if surfaceResized then d.painter.resize d.viewport.surfaceSize else d.painter
    { d with painter }.fitCache.fitAreas.redraw

/-- Reads the outline of the document anew. -/
def reload [Engine ε] (d : Display) (engines : Engines ε) :
    Except SessionError Unit × Display × Engines ε :=
  match d.attached? with
  | none => (.error .notAttached, d, engines)
  | some { engine, session } =>
    let ((reloaded, session), engines) :=
      engines.use engine (fun error => (Except.error (.engine error), session)) fun queue =>
        let (reloaded, session, queue) := session.reload queue
        ((reloaded, session), queue)
    (reloaded, d.setSession session, engines)

/-- Reads the outline of the document anew and takes every tile out of use. -/
def recover [Engine ε] (d : Display) (engines : Engines ε) : Display × Engines ε :=
  if d.isAttached then
    let (_, d, engines) := d.reload engines
    let d := d.fitCache
    ({ d with painter := d.painter.modifyCache DocumentCache.invalidateAll }, engines)
  else
    (d, engines)

/-! ## Callbacks -/

/-- Takes in an invalidation.  The first one since the view was attached tells the host that the
view is ready. -/
def onInvalidation (d : Display) (callback : Callback) : Display :=
  match d.attached? with
  | none => d
  | some { session, .. } =>
    let (statuses?, session) := session.markDrawn
    let d := { d.setSession session with
      notices := d.notices ++ (statuses?.map HostNotice.ready).toList }
    let target (part? : Option Nat) := if session.kind.hasOnePart then 0 else part?.getD d.part
    match Invalidation.ofText (callback.text?.getD "") with
    | .wholePart part? =>
      let d' := d.request (.stalePart (target part?))
      if target part? = d.part then d'.redraw else d'
    | .area rect part? =>
      let d' := d.request (.staleArea (target part?) rect)
      if target part? = d.part then
        d'.request (.damaged (d.viewport.toSurface (d.viewport.scale.toDevice rect)))
      else
        d'
    | .nothing => d

/-- The document size that a payload tells. -/
def sizeOfPayload? (payload : Payload) : Option (Size .twips) :=
  match payload.numbers? with
  | some (width :: height :: _) => some ⟨width.toInt64.toInt, height.toInt64.toInt⟩
  | _ => none

/-- Takes in a new document size.  It is read from the engine; where the engine does not answer, the
size told by the callback has to do. -/
def onSizeChange [Engine ε] (d : Display) (payload : Payload) (engines : Engines ε) :
    Display × Engines ε :=
  match d.attached? with
  | none => (d, engines)
  | some _ =>
    let (reloaded, d, engines) := d.reload engines
    let d := match reloaded, d.session?, sizeOfPayload? payload with
      | .error _, some session, some size => d.setSession (session.withSize size)
      | _, _, _ => d
    (d.fitCache.fitAreas.redraw, engines)

/-- Takes in a command status.  Payloads that are not text are ignored. -/
def onStatus (d : Display) (callback : Callback) : Display :=
  match d.session?, callback.text? with
  | some session, some text => d.setSession (session.recordStatus text)
  | _, _ => d

/-- Passes a callback on to the host. -/
def relay (d : Display) (callback : Callback) (payload : Payload) : Display :=
  { d with notices := d.notices ++ [.callback callback payload] }

/-! ## Late drawings -/

/-- Hands the outcome of one late drawing to the painter, if there is one by now. -/
def collectOne (d : Display × Engines ε) (late : LateDrawing) : Display × Engines ε :=
  let (d, engines) := d
  match late.collect engines with
  | (some outcome, engines) => (d.request (.lateResult late.key outcome), engines)
  | (none, engines) => ({ d with late := d.late ++ [late] }, engines)

/-- Hands the outcomes of late drawings to the painter, oldest first. -/
def collectLate (d : Display) (engines : Engines ε) : Display × Engines ε :=
  d.late.foldl collectOne ({ d with late := [] }, engines)

end Display

end TiledView
