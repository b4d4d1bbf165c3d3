import TiledView.Callback.Basic
import TiledView.Document.Backlog
import TiledView.Document.CommandTable
import TiledView.Engine.TaskQueue
import TiledView.Scale.Conversion

/-!
# Document sessions

A `Session` is one engine view of a document, with everything the host reads about the document.
Sessions share the engine's `TaskQueue`, which every operation that talks to the engine is given and
hands back.

* `Session.attach`, `Session.detach` — take a view and give it up.
* `Session.reload` — reads the outline of the document anew.
* `Session.recordStatus`, `Session.markDrawn` — command statuses, and the ones held back for the
  host until the first draw.
-/

namespace TiledView

inductive SessionError where
  /-- The session has no view. -/
  | notAttached
  | engine (error : EngineError)
  deriving DecidableEq, Repr

def SessionError.message : SessionError → String
  | .notAttached => "document is not mounted"
  | .engine error => error.message

/-- Which view a session takes. -/
inductive ViewChoice where
  /-- The engine's selected view, or a new one where there is none. -/
  | selected
  /-- A new view. -/
  | new
  deriving DecidableEq, Repr

/-- What an engine tells about its document in one call. -/
structure DocumentOutline where
  kind : DocumentKind
  partCount : Nat
  size : Size .twips
  pageText : String
  deriving DecidableEq, Repr

def DocumentOutline.ofEngine {ε : Type} [Engine ε] (engine : ε) : DocumentOutline where
  kind := Engine.kind engine
  partCount := Engine.partCount engine
  size := Engine.documentSize engine
  pageText := Engine.pageText engine

structure Session where
  view? : Option ViewId
  kind : DocumentKind
  /-- Number of parts that the engine reports. -/
  partCount : Nat
  documentSize : Size .twips
  pages : List (Rect .twips)
  commands : CommandTable
  backlog : Backlog
  deriving DecidableEq, Repr

namespace Session

variable {ε ρ : Type} [Engine ε]

/-- A session without a view. -/
def initial : Session where
  view? := none
  kind := .other
  partCount := 0
  documentSize := .zero
  pages := []
  commands := .empty
  backlog := .empty

def isAttached (s : Session) : Bool := s.view?.isSome

/-! ## Views -/

/-- Obtains a view to attach to. -/
def obtainView (choice : ViewChoice) (q : TaskQueue ε ρ) :
    Except EngineError ViewId × TaskQueue ε ρ :=
  match choice with
  | .new => q.openView
  | .selected =>
    match q.selectedView with
    | (.error error, q) => (.error error, q)
    | (.ok (some view), q) => (.ok view, q)
    | (.ok none, q) => q.openView

/-- Reads kind, part count, size and pages in one engine call. -/
def reload (s : Session) (q : TaskQueue ε ρ) :
    Except SessionError Unit × Session × TaskQueue ε ρ :=
  match s.view? with
  | none => (.error .notAttached, s, q)
  | some view =>
    match q.awaitIn view fun engine => (DocumentOutline.ofEngine engine, engine) with
    | (.error error, q) => (.error (.engine error), s, q)
    | (.ok outline, q) =>
      (.ok (),
        { s with
          kind := outline.kind
          partCount := outline.partCount
          documentSize := outline.size
          pages := (Numerals.rects (.ofText outline.pageText)).1 },
        q)

/-- Takes a view and reads the outline of the document.  A session that has a view stays with it.
The session counts as attached from the moment it has a view, so also when the outline cannot be
read. -/
def attach (s : Session) (choice : ViewChoice) (q : TaskQueue ε ρ) :
    Except SessionError ViewId × Session × TaskQueue ε ρ :=
  match s.view? with
  | some view => (.ok view, s, q)
  | none =>
    match obtainView choice q with
    | (.error error, q) => (.error (.engine error), s, q)
    | (.ok view, q) =>
      let (reloaded, s, q) := { s with view? := some view }.reload q
      (reloaded.map fun _ => view, s, q)

/-- Gives the view up.  It is closed only while the engine still reports views; a document being
torn down may already have none. -/
def detach (s : Session) (q : TaskQueue ε ρ) : Except SessionError Unit × Session × TaskQueue ε ρ :=
  match s.view? with
  | none => (.ok (), s, q)
  | some view =>
    let s := { s with view? := none, backlog := .empty }
    match q.viewCount with
    | (.error error, q) => (.error (.engine error), s, q)
    | (.ok count, q) =>
      if 0 < count then
        let (closed, q) := q.closeView view
        (closed.mapError .engine, s, q)
      else
        (.ok (), s, q)

/-! ## Command statuses -/

/-- Records a command status.  Until the first draw it is also held back for the host. -/
def recordStatus (s : Session) (payload : String) : Session :=
  let s := { s with commands := (s.commands.record payload).2 }
  if !s.isAttached || !s.backlog.isReleased then
    { s with backlog := (s.backlog.hold payload).2 }
  else
    s

/-- Takes note that the view has drawn.  The first time since it was attached hands out the statuses
that were held back, decoded. -/
def markDrawn (s : Session) : Option (List Payload) × Session :=
  if s.isAttached then
    let (payloads?, backlog) := s.backlog.release
    let decode payload := Payload.decode CallbackKind.stateChanged.code (some (.ofText payload))
    (payloads?.map (·.map decode), { s with backlog })
  else
    (none, s)

def hasDrawn (s : Session) : Bool := s.isAttached && s.backlog.isReleased

/-! ## The document -/

/-- Number of parts that are drawn apart from each other. -/
def drawnParts (s : Session) : Nat := if s.kind.hasOnePart then 1 else max s.partCount 1

def withSize (s : Session) (size : Size .twips) : Session := { s with documentSize := size }

def cssSize (s : Session) (zoom : Float) : Size .css Float := s.documentSize.zoomed zoom

/-- Page rectangles in pixels at zoom, each component rounded up. -/
def cssPages (s : Session) (zoom : Float) : List (Rect .css) :=
  let factor := zoom / twipsPerPixel
  let scale (n : Int) := snapCeil (Float.ofInt n * factor)
  s.pages.map fun r => ⟨scale r.x, scale r.y, scale r.width, scale r.height⟩

def canCopy (s : Session) : Bool := s.commands.canCopy

def canUndo (s : Session) : Bool := s.commands.canUndo

def canRedo (s : Session) : Bool := s.commands.canRedo

end Session

end TiledView
