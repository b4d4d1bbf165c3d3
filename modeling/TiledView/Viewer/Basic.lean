import TiledView.Callback.Dispatcher
import TiledView.Viewer.Display
import TiledView.Viewer.Inbox

/-!
# Viewers

A `Viewer` is one document view inside a host page.  It attaches to an engine view, keeps the tile
cache in step with the viewport and turns engine callbacks into invalidations.  The host drives it:
it reports geometry, has callbacks processed, paints, and shows what is ready.

* `Viewer.openDocument`, `Viewer.closeDocument` — start and stop showing a document.
* `Viewer.deliver`, `Viewer.process` — callbacks, from their arrival to their handlers.
* `Viewer.paint` — one paint pass.
* `Viewer.setViewRect`, `Viewer.setZoom`, `Viewer.scrollTo`, `Viewer.showPart` — what the host asks
  for.
* `Viewer.askFor`, `Viewer.takeNotices` — what the host is told.
-/

namespace TiledView

inductive ViewerError where
  /-- No document is shown. -/
  | nothingShown
  | session (error : SessionError)
  | engine (error : EngineError)
  | viewport (error : ViewportError)
  deriving DecidableEq, Repr

def ViewerError.message : ViewerError → String
  | .nothingShown => "no document is mounted"
  | .session error => error.message
  | .engine error => error.message
  | .viewport error => error.message

structure ViewerSettings where
  /-- Edge length of a tile in device pixels. -/
  tileEdge : Nat
  paint : PaintSettings
  /-- Callbacks that may wait to be processed. -/
  inboxCapacity : Nat
  /-- Language of the views that are opened. -/
  language : String
  deriving DecidableEq, Repr

def ViewerSettings.default : ViewerSettings where
  tileEdge := DocumentCache.defaultTileEdge
  paint := .default
  inboxCapacity := 1024
  language := "en-US"

instance : Inhabited ViewerSettings := ⟨.default⟩

/-- What a viewer does about a callback. -/
inductive Handler where
  | invalidation
  | sizeChange
  | status
  | relay
  deriving DecidableEq, Repr

/-- Runs a handler. -/
def Handler.run {ε : Type} [Engine ε] (handler : Handler) (callback : Callback)
    (payload : Payload) (d : Display × Engines ε) : Display × Engines ε :=
  match handler with
  | .invalidation => (d.1.onInvalidation callback, d.2)
  | .sizeChange => d.1.onSizeChange payload d.2
  | .status => (d.1.onStatus callback, d.2)
  | .relay => (d.1.relay callback payload, d.2)

structure Viewer where
  settings : ViewerSettings
  dispatcher : Dispatcher Handler
  /-- The registrations made for the document that is shown. -/
  registrations : List RegistrationId
  /-- The kinds of callbacks the host asked for. -/
  askedFor : List CallbackKind
  display : Display
  inbox : Inbox

namespace Viewer

variable {ε σ : Type}

/-! ## Construction and reading -/

def create (settings : ViewerSettings) : Viewer where
  settings
  dispatcher := .empty
  registrations := []
  askedFor := []
  display :=
    { document? := none
      viewport := .initial
      painter := .create settings.paint settings.tileEdge
      part := 0
      late := []
      notices := [] }
  inbox := .ofCapacity settings.inboxCapacity

/-- Whether a document is shown. -/
def isShowing (v : Viewer) : Bool := v.display.isAttached

/-- Whether surface damage waits for a paint pass. -/
def needsPaint (v : Viewer) : Bool := !v.display.painter.damageList.isEmpty

/-- Number of drawings that the engine owes after their paint pass ended. -/
def lateCount (v : Viewer) : Nat := v.display.late.length

def surface (v : Viewer) : Bitmap := v.display.painter.surface

def canCopy (v : Viewer) : Bool := v.display.session?.any (·.canCopy)

def canUndo (v : Viewer) : Bool := v.display.session?.any (·.canUndo)

def canRedo (v : Viewer) : Bool := v.display.session?.any (·.canRedo)

def modifyDisplay (v : Viewer) (f : Display → Display) : Viewer :=
  { v with display := f v.display }

/-- Recomputes the viewport areas and has the whole surface painted again. -/
def redraw (v : Viewer) : Viewer := v.modifyDisplay fun d => d.fitAreas.redraw

/-! ## Handlers -/

/-- Asks for callbacks of a kind to be passed on to the host, from the next document on. -/
def askFor (v : Viewer) (kind : CallbackKind) : Viewer :=
  if kind ∈ v.askedFor then v else { v with askedFor := v.askedFor ++ [kind] }

/-- The handlers that a document is served by. -/
def handlers (v : Viewer) : List (CallbackKind × Handler) :=
  [(.invalidateTiles, .invalidation), (.documentSizeChanged, .sizeChange),
    (.stateChanged, .status)] ++ v.askedFor.map fun kind => (kind, .relay)

def register (v : Viewer) (entry : CallbackKind × Handler) : Viewer :=
  let (id, dispatcher) := v.dispatcher.register entry.1.code entry.2
  { v with dispatcher, registrations := v.registrations ++ [id] }

def registerHandlers (v : Viewer) : Viewer := v.handlers.foldl register v

def removeHandlers (v : Viewer) : Viewer :=
  { v with
    dispatcher := v.registrations.foldl (fun d id => (d.remove id).2) v.dispatcher
    registrations := [] }

/-! ## Documents -/

/-- Stops showing a document: handlers go first, then the tile cache, then the engine view. -/
def closeDocument [Engine ε] (v : Viewer) (engines : Engines ε) :
    Except ViewerError Unit × Viewer × Engines ε :=
  let document? := v.display.document?
  let v := v.removeHandlers.modifyDisplay fun d =>
    { d with document? := none, late := [], painter := d.painter.modifyCache .clear }
  match document? with
  | none => (.ok (), v, engines)
  | some { engine, session } =>
    let (detached, engines) := engines.use engine (fun error => .error (.engine error))
      fun queue =>
        let (detached, _, queue) := session.detach queue
        (detached, queue)
    (detached.mapError .session, v, engines)

/-- Prepares a view: its language, and nothing selected. -/
def prepareView [Engine ε] (view : ViewId) (language : String) (engine : ε) : Unit × ε :=
  ((), Engine.clearSelection (Engine.setLanguage view language engine))

/-- Attaches a session to a document and prepares its view. -/
def startSession [Engine ε] (language : String) (choice : ViewChoice) (q : TaskQueue ε Bitmap) :
    Except ViewerError Session × TaskQueue ε Bitmap :=
  match Session.initial.attach choice q with
  | (.error error, _, q) => (.error (.session error), q)
  | (.ok view, session, q) =>
    match q.awaitIn view (prepareView view language) with
    | (.error error, q) => (.error (.engine error), q)
    | (.ok (), q) => (.ok session, q)

/-- Starts showing a document that a session is attached to. -/
def present (v : Viewer) (document : ShownDocument) : Viewer :=
  let v := v.modifyDisplay fun d => { d with document? := some document, part := 0 }
  (v.registerHandlers.modifyDisplay fun d => d.fitCache.fitAreas).redraw

/-- Starts showing the document of an engine, where none is shown. -/
def openFirst [Engine ε] (v : Viewer) (engines : Engines ε) (engine : EngineId)
    (choice : ViewChoice) : Except ViewerError Unit × Viewer × Engines ε :=
  let (started, engines) :=
    engines.use engine (fun error => .error (.session (.engine error)))
      (startSession v.settings.language choice)
  match started with
  | .error error => (.error error, v, engines)
  | .ok session => (.ok (), v.present ⟨engine, session⟩, engines)

/-- Shows the document of an engine.  A document already shown is closed first, and if that fails
nothing is shown. -/
def openDocument [Engine ε] (v : Viewer) (engines : Engines ε) (engine : EngineId)
    (choice : ViewChoice) : Except ViewerError Unit × Viewer × Engines ε :=
  match v.display.document? with
  | none => v.openFirst engines engine choice
  | some _ =>
    match v.closeDocument engines with
    | (.error error, v, engines) => (.error error, v, engines)
    | (.ok (), v, engines) => v.openFirst engines engine choice

/-! ## Callbacks -/

/-- Puts a callback of the engine into the inbox, and tells whether there was room for it. -/
def deliver (v : Viewer) (callback : Callback) : Bool × Viewer :=
  let (kept, inbox) := v.inbox.put callback
  (kept, { v with inbox })

/-- Runs the handlers of one callback. -/
def handle [Engine ε] (v : Viewer × Engines ε) (callback : Callback) : Viewer × Engines ε :=
  let (viewer, engines) := v
  let (_, display, engines) :=
    viewer.dispatcher.dispatch Handler.run callback (viewer.display, engines)
  ({ viewer with display }, engines)

/-- Makes up for callbacks that were dropped. -/
def recover [Engine ε] (v : Viewer) (engines : Engines ε) : Viewer × Engines ε :=
  let (display, engines) := v.display.recover engines
  ({ v with display }.redraw, engines)

/-- Takes in the late drawings that are finished, and what was submitted to the painter. -/
def takeInResults (v : Viewer) (engines : Engines ε) : Viewer × Engines ε :=
  let (display, engines) := v.display.collectLate engines
  ({ v with display := { display with painter := display.painter.receive } }, engines)

/-- Processes waiting callbacks and finished late drawings. -/
def process [Engine ε] (v : Viewer) (engines : Engines ε) : Viewer × Engines ε :=
  let inbox := v.inbox
  let (v, engines) := inbox.callbacks.foldl handle ({ v with inbox := inbox.emptied }, engines)
  let (v, engines) := if inbox.overflowed then v.recover engines else (v, engines)
  v.takeInResults engines

/-! ## Painting -/

/-- Runs a paint pass for an attached document.  What is still pending is queued for the next
pass. -/
def paintDocument [Engine ε] (v : Viewer) (engine : EngineId) (view : ViewId)
    (engines : Engines ε) (surroundings : Surroundings σ) (t : σ) :
    PaintReport × Viewer × Engines ε × σ :=
  let renderer := SubmittingRenderer.ofRenderer (engineRenderer surroundings engine view)
  let start : EngineDrawing ε σ := { engines, late := v.display.late, surroundings := t }
  let (report, painter, drawing) := v.display.painter.paint renderer start
  let painter := report.pending.foldl (fun p rect => p.request (.damaged rect)) painter
  (report, v.modifyDisplay fun d => { d with painter, late := drawing.late },
    drawing.engines, drawing.surroundings)

/-- Processes what is waiting and runs one paint pass. -/
def paint [Engine ε] (v : Viewer) (engines : Engines ε) (surroundings : Surroundings σ) (t : σ) :
    PaintReport × Viewer × Engines ε × σ :=
  let (v, engines) := v.process engines
  match v.display.document? with
  | none => (.nothing, v, engines, t)
  | some { engine, session } =>
    match session.view? with
    | none => (.nothing, v, engines, t)
    | some view => v.paintDocument engine view engines surroundings t

/-! ## Requests of the host -/

/-- Takes in a change of the viewport. -/
def applyViewport (v : Viewer) (changed : Except ViewportError ViewportChange × Viewport) :
    Except ViewerError ViewportChange × Viewer :=
  let v := v.modifyDisplay fun d => { d with viewport := changed.2 }
  match changed.1 with
  | .error error => (.error (.viewport error), v)
  | .ok change => (.ok change, v.modifyDisplay fun d => d.follow change)

def setViewRect (v : Viewer) (cssRect : Rect .css) (deviceScale : Float) :
    Except ViewerError ViewportChange × Viewer :=
  v.applyViewport (v.display.viewport.setViewRect cssRect deviceScale)

def setZoom (v : Viewer) (zoom : Float) : Except ViewerError ViewportChange × Viewer :=
  v.applyViewport (v.display.viewport.setZoom zoom v.display.documentSize)

/-- Scrolls to a position, moving surface content instead of painting it again. -/
def scrollTo (v : Viewer) (position : Point .css Float) : Except ViewerError Unit × Viewer :=
  if v.isShowing then
    let (scrolled, viewport) := v.display.viewport.scrollTo position v.display.documentSize
    let v := v.modifyDisplay fun d => { d with viewport }
    match scrolled with
    | .error error => (.error (.viewport error), v)
    | .ok shifts =>
      let area := viewport.shownArea
      (.ok (), v.modifyDisplay fun d =>
        (shifts.foldl (fun d shift => d.request (.scroll area shift)) d).place)
  else
    (.error .nothingShown, v)

/-- Shows another part of the document.  A part that does not exist is not shown. -/
def showPart (v : Viewer) (part : Nat) : Except ViewerError Unit × Viewer :=
  match v.display.attached? with
  | none => (.error .nothingShown, v)
  | some { session, .. } =>
    if session.drawnParts ≤ part ∨ part = v.display.part then
      (.ok (), v)
    else
      let v := v.modifyDisplay fun d =>
        { d with part, viewport := d.viewport.scrollHome }.place
      (.ok (), v.redraw)

def documentPoint? (v : Viewer) (point : Point .device Float) : Option (Point .twips) :=
  v.display.viewport.documentPoint? point

/-- Hands out the notices that wait for the host. -/
def takeNotices (v : Viewer) : List HostNotice × Viewer :=
  (v.display.notices, v.modifyDisplay fun d => { d with notices := [] })

end Viewer

end TiledView
