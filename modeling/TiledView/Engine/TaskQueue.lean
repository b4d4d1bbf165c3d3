import TiledView.Engine.Basic

/-!
# Task queues

A document engine answers one call at a time.  A `TaskQueue` owns the engine and the tasks that wait
for it, and runs them one after the other in the order they were posted.  A task that is meant for a
view selects it first, so that owners of different views never see each other's selection.

* `TaskQueue.await`, `TaskQueue.awaitIn` — have a task run and wait for its result.
* `TaskQueue.post`, `TaskQueue.postIn` — leave a task in the queue; its `Ticket` stands for the
  result, which `TaskQueue.collect` fetches.
* `TaskQueue.step`, `TaskQueue.advance`, `TaskQueue.settle` — the progress of the queue.  How far it
  has come when somebody looks is up to its surroundings.
* `TaskQueue.shutdown`, `TaskQueue.crash` — the two ways in which a queue ends.

A queue that is to end still runs `remaining?` tasks.  Every other task is dropped, and whoever
waits for it learns that the queue is closed.
-/

namespace TiledView

inductive EngineError where
  /-- The task queue of the engine has ended. -/
  | closed
  deriving DecidableEq, Repr

def EngineError.message : EngineError → String
  | .closed => "document engine sequence is closed"

/-- One call of an engine, with a result in `ρ`. -/
structure EngineTask (ε ρ : Type) where
  /-- The view to select before the call. -/
  view? : Option ViewId
  body : ε → ρ × ε

/-- Stands for the result of a posted task.  Tickets count up from zero. -/
abbrev Ticket := Nat

/-- What has become of a posted task. -/
inductive Reply (ρ : Type) where
  | waiting
  | answered (value : ρ)
  /-- Answered, and the answer has been collected. -/
  | collected
  /-- Never to be run. -/
  | dropped
  deriving DecidableEq, Repr

/-- An engine with the tasks that wait for it. -/
structure TaskQueue (ε ρ : Type) where
  engine : ε
  /-- Tasks in the order they were posted. -/
  waiting : List (Ticket × EngineTask ε ρ)
  /-- Replies to all tasks that were ever posted, by ticket. -/
  replies : Array (Reply ρ)
  /-- How many more tasks will be run, if the queue is to end. -/
  remaining? : Option Nat

namespace TaskQueue

variable {ε ρ α : Type}

def start (engine : ε) : TaskQueue ε ρ := ⟨engine, [], #[], none⟩

def isClosed (q : TaskQueue ε ρ) : Bool := q.remaining? == some 0

/-! ## Running tasks -/

def setReply (q : TaskQueue ε ρ) (ticket : Ticket) (reply : Reply ρ) : TaskQueue ε ρ :=
  { q with replies := q.replies.setIfInBounds ticket reply }

/-- Drops the tasks that will not be run any more. -/
def dropWaiting (q : TaskQueue ε ρ) : TaskQueue ε ρ :=
  q.waiting.foldl (fun q entry => q.setReply entry.1 .dropped) { q with waiting := [] }

/-- Counts a task that has been run. -/
def countDown (q : TaskQueue ε ρ) : TaskQueue ε ρ :=
  let q := { q with remaining? := q.remaining?.map (· - 1) }
  if q.isClosed then q.dropWaiting else q

def select [Engine ε] (view? : Option ViewId) (engine : ε) : ε :=
  match view? with
  | some view => Engine.selectView view engine
  | none => engine

/-- Runs the oldest task. -/
def step [Engine ε] (q : TaskQueue ε ρ) : TaskQueue ε ρ :=
  match q.waiting with
  | [] => q
  | (ticket, task) :: waiting =>
    let (value, engine) := task.body (select task.view? q.engine)
    ({ q with engine, waiting }.setReply ticket (.answered value)).countDown

/-- Runs the `count` oldest tasks. -/
def advance [Engine ε] (q : TaskQueue ε ρ) : (count : Nat) → TaskQueue ε ρ
  | 0 => q
  | count + 1 => q.step.advance count

/-- Runs every task that was posted. -/
def settle [Engine ε] (q : TaskQueue ε ρ) : TaskQueue ε ρ := q.advance q.waiting.length

/-! ## Ending -/

/-- Lets the queue end after the tasks that are in it now. -/
def shutdown (q : TaskQueue ε ρ) : TaskQueue ε ρ :=
  let left := match q.remaining? with
    | some n => min n q.waiting.length
    | none => q.waiting.length
  { q with remaining? := some left }

/-- Ends the queue in the middle of the oldest task, when it has selected its view. -/
def crash [Engine ε] (q : TaskQueue ε ρ) : TaskQueue ε ρ :=
  let engine := match q.waiting with
    | [] => q.engine
    | (_, task) :: _ => select task.view? q.engine
  { q with engine, remaining? := some 0 }.dropWaiting

/-! ## Posting and waiting -/

/-- Leaves a task in the queue. -/
def post (q : TaskQueue ε ρ) (task : EngineTask ε ρ) : Except EngineError Ticket × TaskQueue ε ρ :=
  if q.isClosed then
    (.error .closed, q)
  else
    let ticket := q.replies.size
    (.ok ticket,
      { q with waiting := q.waiting ++ [(ticket, task)], replies := q.replies.push .waiting })

/-- Leaves a task for `view` in the queue. -/
def postIn (q : TaskQueue ε ρ) (view : ViewId) (body : ε → ρ × ε) :
    Except EngineError Ticket × TaskQueue ε ρ :=
  q.post ⟨some view, body⟩

/-- Fetches the result of a posted task; `none` while the task has not been run.  A result can be
fetched once. -/
def collect (q : TaskQueue ε ρ) (ticket : Ticket) :
    Except EngineError (Option ρ) × TaskQueue ε ρ :=
  match q.replies[ticket]? with
  | some .waiting => (.ok none, q)
  | some (.answered value) => (.ok (some value), q.setReply ticket .collected)
  | some .collected | some .dropped | none => (.error .closed, q)

/-- Runs a call behind all posted tasks and waits for its result. -/
def await [Engine ε] (q : TaskQueue ε ρ) (body : ε → α × ε) :
    Except EngineError α × TaskQueue ε ρ :=
  let q := q.settle
  if q.isClosed then
    (.error .closed, q)
  else
    let (value, engine) := body q.engine
    (.ok value, { q with engine }.countDown)

/-- Selects `view`, runs a call and waits for its result. -/
def awaitIn [Engine ε] (q : TaskQueue ε ρ) (view : ViewId) (body : ε → α × ε) :
    Except EngineError α × TaskQueue ε ρ :=
  q.await fun engine => body (Engine.selectView view engine)

/-- Waits for an answer that leaves the engine as it is. -/
def ask [Engine ε] (q : TaskQueue ε ρ) (question : ε → α) :
    Except EngineError α × TaskQueue ε ρ :=
  q.await fun engine => (question engine, engine)

def openView [Engine ε] (q : TaskQueue ε ρ) : Except EngineError ViewId × TaskQueue ε ρ :=
  q.await Engine.openView

/-- The engine's selected view, for adopting one that somebody else opened. -/
def selectedView [Engine ε] (q : TaskQueue ε ρ) :
    Except EngineError (Option ViewId) × TaskQueue ε ρ :=
  q.ask Engine.selectedView

def viewCount [Engine ε] (q : TaskQueue ε ρ) : Except EngineError Nat × TaskQueue ε ρ :=
  q.ask Engine.viewCount

def closeView [Engine ε] (q : TaskQueue ε ρ) (view : ViewId) :
    Except EngineError Unit × TaskQueue ε ρ :=
  q.await fun engine => ((), Engine.closeView view engine)

end TaskQueue

end TiledView
