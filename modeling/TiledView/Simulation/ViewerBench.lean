import TiledView.Simulation.Bench
import TiledView.Viewer.Basic

/-!
# A viewer among recording engines

`ViewerBench` puts a viewer and the engines it may show documents of together, with a clock that
stands still except while the viewer waits in vain.  An engine whose gate is open draws a tile at
once; behind a closed gate every deadline passes.
-/

namespace TiledView.Simulation

/-- The clock, and which gates are open. -/
structure Meanwhile where
  clock : Nat
  gates : Array Bool
  deriving DecidableEq, Repr

/-- An open gate lets the awaited task through; at a closed one the deadline passes. -/
def Meanwhile.surroundings : Surroundings Meanwhile where
  now m := (m.clock, m)
  progress engine deadline m :=
    if m.gates[engine]?.getD true then (1, m) else (0, { m with clock := max m.clock deadline })

structure ViewerBench where
  viewer : Viewer
  benches : Array (Bench Bitmap)
  clock : Nat
  /-- Whether callbacks are delivered to a viewer that is gone. -/
  receiverGone : Bool

namespace ViewerBench

variable {α : Type}

def create (settings : ViewerSettings) (engines : List RecordingEngine) : ViewerBench where
  viewer := .create settings
  benches := (engines.map Bench.ofEngine).toArray
  clock := 0
  receiverGone := false

/-- Does something with one of the benches. -/
def onBench? (b : ViewerBench) (engine : EngineId) (action : Bench Bitmap → α × Bench Bitmap) :
    Option (α × ViewerBench) :=
  b.benches[engine]?.map fun bench =>
    let (result, bench) := action bench
    (result, { b with benches := b.benches.setIfInBounds engine bench })

/-- Has the viewer do something that engines have no part in. -/
def onViewer (b : ViewerBench) (action : Viewer → α × Viewer) : α × ViewerBench :=
  let (result, viewer) := action b.viewer
  (result, { b with viewer })

/-- Has the viewer do something with the engines. -/
def withEngines (b : ViewerBench)
    (action : Viewer → Engines RecordingEngine → α × Viewer × Engines RecordingEngine) :
    α × ViewerBench :=
  let (result, viewer, engines) := action b.viewer (b.benches.map (·.queue))
  let benches := b.benches.zipWith (fun bench queue => { bench with queue }) engines
  (result, { b with viewer, benches })

/-- Delivers a callback.  A viewer that is gone takes nothing. -/
def deliver (b : ViewerBench) (callback : Callback) : Bool × ViewerBench :=
  if b.receiverGone then (false, b) else b.onViewer (·.deliver callback)

/-- Runs a paint pass. -/
def paint (b : ViewerBench) : PaintReport × ViewerBench :=
  let start : Meanwhile := ⟨b.clock, b.benches.map (·.gateOpen)⟩
  let ((report, clock), b) := b.withEngines fun viewer engines =>
    let (report, viewer, engines, m) := viewer.paint engines Meanwhile.surroundings start
    ((report, m.clock), viewer, engines)
  (report, { b with clock })

/-- Puts a new viewer in the place of the old one, which closes its document on its way out.
Callbacks are still delivered to the old viewer. -/
def replace (b : ViewerBench) : ViewerBench :=
  let (_, b) := b.withEngines fun viewer engines => viewer.closeDocument engines
  { b with viewer := .create b.viewer.settings, receiverGone := true }

end ViewerBench

end TiledView.Simulation
