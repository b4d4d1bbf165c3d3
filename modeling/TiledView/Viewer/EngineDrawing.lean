import TiledView.Cache.Drawing
import TiledView.Engine.TaskQueue

/-!
# Drawing tiles through an engine

A viewer has its tiles drawn by the engine behind its document, one task for each tile.  A paint
pass waits for a task until its deadline; after that the task stays in the queue and its result is
collected later.

* `Engines` — the engines a viewer may show documents of, each behind its task queue.
* `Surroundings` — what happens meanwhile: time passes, and engines get on with their tasks.
* `LateDrawing` — a task that missed its deadline; `LateDrawing.collect` asks for its result.
* `engineRenderer` — the renderer made of these.
-/

namespace TiledView

/-! ## Engines -/

/-- Names one of the engines. -/
abbrev EngineId := Nat

/-- Engines that draw tiles, each behind its task queue. -/
abbrev Engines (ε : Type) := Array (TaskQueue ε Bitmap)

variable {ε α σ : Type}

/-- Uses the task queue of an engine.  An engine that does not exist is closed. -/
def Engines.use (engines : Engines ε) (id : EngineId) (closed : EngineError → α)
    (action : TaskQueue ε Bitmap → α × TaskQueue ε Bitmap) : α × Engines ε :=
  match engines[id]? with
  | none => (closed .closed, engines)
  | some queue =>
    let (result, queue) := action queue
    (result, engines.setIfInBounds id queue)

/-- What happens while a viewer waits for an engine. -/
structure Surroundings (σ : Type) where
  /-- Reads the clock, in milliseconds. -/
  now : σ → Nat × σ
  /-- How many queued tasks an engine finishes while it is waited for until a deadline. -/
  progress : EngineId → (deadline : Nat) → σ → Nat × σ

/-! ## Late drawings -/

/-- A drawing task that missed its paint pass. -/
structure LateDrawing where
  key : TileKey
  width : Nat
  height : Nat
  engine : EngineId
  ticket : Ticket
  deriving DecidableEq, Repr

/-- The outcome of a late drawing, once the engine answered or went away. -/
def LateDrawing.collect (late : LateDrawing) (engines : Engines ε) :
    Option DrawOutcome × Engines ε :=
  let (reply, engines) := engines.use late.engine Except.error (·.collect late.ticket)
  match reply with
  | .ok (some bitmap) => (some (.drawn bitmap), engines)
  | .ok none => (none, engines)
  | .error _ => (some (.failed (.blank late.width late.height) .abandoned), engines)

/-! ## The renderer -/

/-- What drawing through an engine changes. -/
structure EngineDrawing (ε σ : Type) where
  engines : Engines ε
  /-- Tasks that missed their paint pass, oldest first. -/
  late : List LateDrawing
  surroundings : σ

namespace EngineDrawing

/-- Outcome of a job that the engine does not answer. -/
def unanswered (job : DrawJob) : DrawOutcome :=
  .failed (.blank job.bitmap.width job.bitmap.height) .engineUnavailable

/-- Has the engine draw a tile in `view`, and waits for it until the deadline. -/
def draw [Engine ε] (surroundings : Surroundings σ) (engine : EngineId) (view : ViewId)
    (job : DrawJob) (deadline : Nat) (d : EngineDrawing ε σ) : DrawOutcome × EngineDrawing ε σ :=
  let task := Engine.drawBitmap job.bitmap job.area
  let (posted, engines) := d.engines.use engine Except.error (·.postIn view task)
  match posted with
  | .error _ => (unanswered job, { d with engines })
  | .ok ticket =>
    let (count, state) := surroundings.progress engine deadline d.surroundings
    let (reply, engines) := engines.use engine Except.error fun queue =>
      (queue.advance count).collect ticket
    let d := { d with engines, surroundings := state }
    match reply with
    | .ok (some bitmap) => (.drawn bitmap, d)
    | .ok none =>
      let late : LateDrawing :=
        { key := job.key, width := job.bitmap.width, height := job.bitmap.height, engine, ticket }
      (.deferred, { d with late := d.late ++ [late] })
    | .error _ => (unanswered job, d)

end EngineDrawing

/-- Draws tiles in `view` of an engine. -/
def engineRenderer [Engine ε] (surroundings : Surroundings σ) (engine : EngineId) (view : ViewId) :
    Renderer (EngineDrawing ε σ) where
  now d :=
    let (time, state) := surroundings.now d.surroundings
    (time, { d with surroundings := state })
  draw := EngineDrawing.draw surroundings engine view

end TiledView
