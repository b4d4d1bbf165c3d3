import Mathlib.Data.List.Nodup
import Mathlib.Tactic.Common
import TiledView.Engine.TaskQueue

/-!
# Calls that interleave

Any number of owners post tasks to an engine, in any order, while a thread takes one task after the
other, selects its view, carries it out and replies.  Only the thread touches the engine, but whoever
posts may do so between any two of these four moves.  An `EngineThread` is a `TaskQueue` whose thread
may be in the middle of the oldest task; four moves are one `TaskQueue.step`
(`EngineThread.proceed_four`).

Owners are not told apart: a ticket stands for a call, and whoever has it waits for its reply.  A
shutdown takes effect with the last task before it.  That the thread takes a while to notice it is the
same as one more task before the shutdown that does nothing.

* `ThreadLog` — goes along with a run and writes down what was posted, when the shutdown came, what
  every body found and gave, and which answers were fetched.
* `ThreadLog.carryOut` — what tasks come to that are carried out one after the other.
-/

namespace TiledView

variable {ε ρ : Type}

/-! ## Threads -/

/-- How far a thread has come with the oldest task. -/
inductive ThreadPhase (ρ : Type) where
  | idle
  | taken
  | selected
  | answered (value : ρ)

/-- A task queue whose thread may be in the middle of the oldest task. -/
structure EngineThread (ε ρ : Type) where
  queue : TaskQueue ε ρ
  phase : ThreadPhase ρ

/-- A call that was carried out. -/
structure CarriedOut (ε ρ : Type) where
  ticket : Ticket
  task : EngineTask ε ρ
  /-- The engine as the body of the task found it. -/
  found : ε
  value : ρ

/-- The task, as it was posted. -/
def CarriedOut.entry (r : CarriedOut ε ρ) : Ticket × EngineTask ε ρ := (r.ticket, r.task)

namespace EngineThread

variable [Engine ε]

/-- The next move of the thread.  It waits while there is no task. -/
def proceed (t : EngineThread ε ρ) : EngineThread ε ρ :=
  match t.queue.waiting with
  | [] => t
  | (ticket, task) :: waiting =>
    match t.phase with
    | .idle => { t with phase := .taken }
    | .taken =>
      { queue := { t.queue with engine := TaskQueue.select task.view? t.queue.engine }
        phase := .selected }
    | .selected =>
      let (value, engine) := task.body t.queue.engine
      { queue := { t.queue with engine }, phase := .answered value }
    | .answered value =>
      { queue := ({ t.queue with waiting }.setReply ticket (.answered value)).countDown
        phase := .idle }

/-- The call that the next move carries out, if it does. -/
def running? (t : EngineThread ε ρ) : Option (CarriedOut ε ρ) :=
  match t.queue.waiting, t.phase with
  | (ticket, task) :: _, .selected =>
    some ⟨ticket, task, t.queue.engine, (task.body t.queue.engine).1⟩
  | _, _ => none

/-- **Four moves are one step of the queue.** -/
theorem proceed_four (q : TaskQueue ε ρ) :
    (EngineThread.mk q .idle).proceed.proceed.proceed.proceed = ⟨q.step, .idle⟩ := by
  rcases q with ⟨engine, waiting, replies, remaining?⟩
  cases waiting <;> rfl

end EngineThread

/-! ## Runs under log -/

/-- What owners and the thread do. -/
inductive ThreadAct (ε ρ : Type) where
  | post (task : EngineTask ε ρ)
  | collect (ticket : Ticket)
  | shutdown
  | proceed

/-- A thread, and what has happened to it. -/
structure ThreadLog (ε ρ : Type) where
  thread : EngineThread ε ρ
  /-- The tasks that were accepted, oldest first. -/
  posted : List (Ticket × EngineTask ε ρ)
  /-- How many of them came before the shutdown, once it has come. -/
  due? : Option Nat
  /-- The calls that were carried out, oldest first. -/
  ran : List (CarriedOut ε ρ)
  /-- What owners were told when they asked for a result. -/
  answers : List (Ticket × Except EngineError (Option ρ))

namespace ThreadLog

def create (engine : ε) : ThreadLog ε ρ := ⟨⟨.start engine, .idle⟩, [], none, [], []⟩

def queue (l : ThreadLog ε ρ) : TaskQueue ε ρ := l.thread.queue

def setQueue (l : ThreadLog ε ρ) (queue : TaskQueue ε ρ) : ThreadLog ε ρ :=
  { l with thread := { l.thread with queue } }

/-- The tasks that are to be run: those that came before the shutdown. -/
def due (l : ThreadLog ε ρ) : List (Ticket × EngineTask ε ρ) :=
  match l.due? with
  | some count => l.posted.take count
  | none => l.posted

section Engine

variable [Engine ε]

/-- Goes along with an act. -/
def after (l : ThreadLog ε ρ) : ThreadAct ε ρ → ThreadLog ε ρ
  | .post task =>
    match l.queue.post task with
    | (.ok ticket, queue) => { l.setQueue queue with posted := l.posted ++ [(ticket, task)] }
    | (.error _, queue) => l.setQueue queue
  | .collect ticket =>
    let (answer, queue) := l.queue.collect ticket
    { l.setQueue queue with answers := l.answers ++ [(ticket, answer)] }
  | .shutdown =>
    { l.setQueue l.queue.shutdown with due? := l.due?.or (some l.posted.length) }
  | .proceed =>
    { l with thread := l.thread.proceed, ran := l.ran ++ l.thread.running?.toList }

/-- Goes along with acts, one after the other. -/
def run (engine : ε) (acts : List (ThreadAct ε ρ)) : ThreadLog ε ρ :=
  acts.foldl after (create engine)

/-- Lets the thread go on for some moves. -/
def goOn (l : ThreadLog ε ρ) : (moves : Nat) → ThreadLog ε ρ
  | 0 => l
  | moves + 1 => (l.after .proceed).goOn moves

/-- Lets the thread go on until nothing waits for it. -/
def settle (l : ThreadLog ε ρ) : ThreadLog ε ρ := l.goOn (4 * l.queue.waiting.length)

end Engine

/-! ## One call after the other -/

section CarryOut

variable [Engine ε]

/-- The engine after some calls. -/
def engineAfter (engine : ε) (entries : List (Ticket × EngineTask ε ρ)) : ε :=
  entries.foldl (fun engine entry =>
    (entry.2.body (TaskQueue.select entry.2.view? engine)).2) engine

/-- What an entry comes to if the engine is as given. -/
def carriedOut (engine : ε) (entry : Ticket × EngineTask ε ρ) : CarriedOut ε ρ :=
  let found := TaskQueue.select entry.2.view? engine
  ⟨entry.1, entry.2, found, (entry.2.body found).1⟩

/-- What calls come to that are carried out one after the other, each in its own view. -/
def carryOut (engine : ε) : List (Ticket × EngineTask ε ρ) → List (CarriedOut ε ρ)
  | [] => []
  | entry :: entries =>
    carriedOut engine entry ::
      carryOut (entry.2.body (TaskQueue.select entry.2.view? engine)).2 entries

variable {engine : ε} {entries : List (Ticket × EngineTask ε ρ)}

lemma carryOut_concat (entry : Ticket × EngineTask ε ρ) :
    carryOut engine (entries ++ [entry]) =
      carryOut engine entries ++ [carriedOut (engineAfter engine entries) entry] := by
  induction entries generalizing engine with
  | nil => rfl
  | cons first entries ih => exact congrArg (_ :: ·) ih

lemma engineAfter_concat (entry : Ticket × EngineTask ε ρ) :
    engineAfter engine (entries ++ [entry]) =
      (entry.2.body (TaskQueue.select entry.2.view? (engineAfter engine entries))).2 :=
  List.foldl_concat ..

/-- Every call finds the engine as the calls before it and its own view leave it. -/
lemma exists_of_mem_carryOut {r : CarriedOut ε ρ} (mem : r ∈ carryOut engine entries) :
    ∃ before, r = carriedOut before r.entry := by
  induction entries generalizing engine with
  | nil => cases mem
  | cons first entries ih =>
      rcases List.mem_cons.1 mem with rfl | mem
      · exact ⟨engine, rfl⟩
      · exact ih mem

end CarryOut

end ThreadLog

end TiledView
