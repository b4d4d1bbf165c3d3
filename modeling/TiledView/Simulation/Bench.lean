import TiledView.Document.Session
import TiledView.Simulation.RecordingEngine

/-!
# An engine on a bench

A `Bench` runs a recording engine behind a task queue and can hold up its drawing: while the gate is
closed, a task that draws stays where it is and everything behind it waits.
-/

namespace TiledView.Simulation

/-! ## Tasks -/

/-- A task to post to a recording engine. -/
inductive BenchTask where
  | outline
  | draw (width height : Nat) (area : Rect .twips)
  | language (text : String)
  | clearSelection
  deriving DecidableEq, Repr

inductive BenchResult where
  | outline (outline : DocumentOutline) (selected? : Option ViewId)
  | pixels (colours : List UInt32)
  | done
  deriving DecidableEq, Repr

namespace BenchTask

def draws : BenchTask → Bool
  | .draw _ _ _ => true
  | .outline | .language _ | .clearSelection => false

/-- Carries out a task for a view. -/
def run (task : BenchTask) (view : ViewId) (e : RecordingEngine) : BenchResult × RecordingEngine :=
  match task with
  | .outline => (.outline (.ofEngine e) e.selected?, e)
  | .draw width height area =>
    let (bitmap, e) := Engine.drawBitmap (.blank width height) area e
    (.pixels bitmap.pixels.toList, e)
  | .language text => (.done, Engine.setLanguage view text e)
  | .clearSelection => (.done, Engine.clearSelection e)

end BenchTask

/-! ## The bench -/

/-- A recording engine behind its task queue. -/
structure Bench (ρ : Type) where
  queue : TaskQueue RecordingEngine ρ
  gateOpen : Bool
  /-- Tasks that do not draw, so that a closed gate does not hold them up. -/
  quick : List Ticket

namespace Bench

variable {ρ α : Type}

def ofEngine (engine : RecordingEngine) : Bench ρ := ⟨.start engine, true, []⟩

def modifyEngine (b : Bench ρ) (f : RecordingEngine → RecordingEngine) : Bench ρ :=
  { b with queue := { b.queue with engine := f b.queue.engine } }

/-- Lets the queue come as far as the gate allows. -/
def run (b : Bench ρ) : Bench ρ :=
  let passing := b.queue.waiting.takeWhile fun entry => b.gateOpen || entry.1 ∈ b.quick
  { b with queue := b.queue.advance passing.length }

/-- Opens or closes the gate. -/
def setGate (b : Bench ρ) (gateOpen : Bool) : Bench ρ := { b with gateOpen }.run

/-- Ends the queue after the tasks in it.  The gate opens for them. -/
def shutdown (b : Bench ρ) : Bench ρ :=
  let b := b.setGate true
  { b with queue := b.queue.shutdown }

/-- Ends the queue in the middle of a drawing task, one for view zero if none is held up.  The gate
opens, but nothing comes through it any more. -/
def crash (b : Bench ρ) : Bench ρ :=
  let b := { b with gateOpen := true }
  if b.queue.isClosed then
    b
  else
    let b := if b.queue.waiting.isEmpty then b.modifyEngine (Engine.selectView 0) else b
    { b with queue := b.queue.crash }

/-- Does something with the queue. -/
def use (b : Bench ρ) (action : TaskQueue RecordingEngine ρ → α × TaskQueue RecordingEngine ρ) :
    α × Bench ρ :=
  let (result, queue) := action b.queue
  (result, { b with queue })

/-- Takes the log, oldest entry first. -/
def takeLog (b : Bench ρ) : List LogEntry × Bench ρ :=
  (b.queue.engine.log.reverse, b.modifyEngine ({ · with log := [] }))

end Bench

/-- Posts a task for a view. -/
def Bench.post (b : Bench BenchResult) (view : ViewId) (task : BenchTask) :
    Except EngineError Ticket × Bench BenchResult :=
  match b.queue.postIn view (task.run view) with
  | (.error error, queue) => (.error error, { b with queue })
  | (.ok ticket, queue) =>
    let quick := if task.draws then b.quick else ticket :: b.quick
    (.ok ticket, { b with queue, quick }.run)

end TiledView.Simulation
