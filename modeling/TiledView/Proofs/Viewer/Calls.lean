import Mathlib.Tactic.Common
import TiledView.Viewer.Basic

/-!
# Runs of calls

A `Viewer.Call` is one call of the host, or the arrival of a callback, and `Viewer.run` carries out
a list of them, from the creation of a viewer on.  Engines are named anew at each call that has to
do with them, so they may have got on in any way between two calls, and every call may fail.

`Viewer.run_rec` is how something is proved of all runs: it holds of a new viewer, and no call of
the run takes it away.
-/

namespace TiledView

namespace Viewer

/-- One call, or the arrival of a callback. -/
inductive Call : Type 1 where
  | openDocument {ε : Type} [Engine ε] (engines : Engines ε) (engine : EngineId)
      (choice : ViewChoice)
  | closeDocument {ε : Type} [Engine ε] (engines : Engines ε)
  | deliver (callback : Callback)
  | process {ε : Type} [Engine ε] (engines : Engines ε)
  | paint {ε σ : Type} [Engine ε] (engines : Engines ε) (surroundings : Surroundings σ) (t : σ)
  | setViewRect (cssRect : Rect .css) (deviceScale : Float)
  | setZoom (zoom : Float)
  | scrollTo (position : Point .css Float)
  | showPart (part : Nat)
  | redraw
  | askFor (kind : CallbackKind)
  | takeNotices
  /-- Something outside of the viewer submits a request to its painter. -/
  | submit (request : PaintRequest)

/-- The viewer after a call. -/
def after (v : Viewer) : Call → Viewer
  | @Call.openDocument _ _ engines engine choice => (v.openDocument engines engine choice).2.1
  | @Call.closeDocument _ _ engines => (v.closeDocument engines).2.1
  | .deliver callback => (v.deliver callback).2
  | @Call.process _ _ engines => (v.process engines).1
  | @Call.paint _ _ _ engines surroundings t => (v.paint engines surroundings t).2.1
  | .setViewRect cssRect deviceScale => (v.setViewRect cssRect deviceScale).2
  | .setZoom zoom => (v.setZoom zoom).2
  | .scrollTo position => (v.scrollTo position).2
  | .showPart part => (v.showPart part).2
  | .redraw => v.redraw
  | .askFor kind => v.askFor kind
  | .takeNotices => v.takeNotices.2
  | .submit request => v.modifyDisplay fun d => { d with painter := d.painter.submit request }

/-- The viewer after some calls, one after the other. -/
def run (settings : ViewerSettings) (calls : List Call) : Viewer :=
  calls.foldl after (create settings)

lemma run_concat (settings : ViewerSettings) (calls : List Call) (call : Call) :
    run settings (calls ++ [call]) = (run settings calls).after call := by
  rw [run, List.foldl_append]
  rfl

/-- A property of new viewers that no call of a run takes away. -/
theorem run_rec {P : Viewer → Prop} {settings : ViewerSettings} {calls : List Call}
    (create : P (create settings)) (step : ∀ v, ∀ call ∈ calls, P v → P (v.after call)) :
    P (run settings calls) :=
  List.foldlRecOn calls after create fun v h call mem => step v call mem h

end Viewer

end TiledView
