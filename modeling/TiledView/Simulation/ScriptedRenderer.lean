import TiledView.Paint.Request
import TiledView.Simulation.RecordingEngine

/-!
# A renderer that follows a script

`ScriptedRenderer` draws tiles in colours that tell which call they come from, and a script says of
each call whether it is answered, deferred or failed.  It keeps the jobs it deferred, so that their
results can be delivered later (`LateAnswer`), and may submit paint requests while a pass runs.
-/

namespace TiledView.Simulation

/-- What the renderer does on a call. -/
inductive Cue where
  | draw
  /-- Return the lent bitmap untouched. -/
  | keep
  /-- Return a bitmap that is two pixels wider and one higher. -/
  | grow
  | defer
  /-- Fail with the lent bitmap untouched. -/
  | fail
  /-- Draw, then fail. -/
  | drawAndFail
  /-- Draw after the deadline. -/
  | expire
  deriving DecidableEq, Repr

/-! ## Late answers -/

/-- What has become of a deferred job. -/
inductive LateKind where
  | drawn (colour : UInt32)
  | kept
  | failed
  | deferred
  deriving DecidableEq, Repr

/-- The late result of a deferred job.  Parts of the job's key may be replaced. -/
structure LateAnswer where
  job : Nat
  kind : LateKind
  generation? : Option Nat
  part? : Option Nat
  index? : Option Nat
  epoch? : Option Nat
  deriving DecidableEq, Repr

namespace LateAnswer

def key (a : LateAnswer) (key : TileKey) : TileKey where
  generation := a.generation?.getD key.generation
  part := a.part?.getD key.part
  index := a.index?.getD key.index
  epoch := a.epoch?.getD key.epoch

def outcome (a : LateAnswer) (bitmap : Bitmap) : DrawOutcome :=
  match a.kind with
  | .drawn colour => .drawn (bitmap.fill colour)
  | .kept => .drawn bitmap
  | .failed => .failed bitmap .abandoned
  | .deferred => .deferred

/-- Key and outcome of the result, if its job has been deferred. -/
def resolve? (a : LateAnswer) (jobs : Array DrawJob) : Option (TileKey × DrawOutcome) :=
  jobs[a.job]?.map fun job => (a.key job.key, a.outcome job.bitmap)

end LateAnswer

/-- A paint request, or the late result of a job that is looked up when the request is made. -/
inductive ScriptedRequest where
  | plain (request : PaintRequest)
  | late (answer : LateAnswer)
  deriving DecidableEq, Repr

def ScriptedRequest.resolve? (r : ScriptedRequest) (jobs : Array DrawJob) : Option PaintRequest :=
  match r with
  | .plain request => some request
  | .late answer => (answer.resolve? jobs).map fun (key, outcome) => .lateResult key outcome

/-! ## The renderer -/

structure ScriptedRenderer where
  /-- The time, in milliseconds. -/
  clock : Nat
  /-- Whether tiles are drawn in a pattern instead of one colour. -/
  pattern : Bool
  /-- What to do on the next calls; after that every call draws. -/
  script : List Cue
  /-- Requests to submit during this pass, by the number of the call they start. -/
  submissions : List (Nat × List ScriptedRequest)
  /-- How many calls there have been. -/
  calls : Nat
  /-- The jobs received in this pass. -/
  received : Array DrawJob
  /-- The jobs that were deferred. -/
  deferred : Array DrawJob

namespace ScriptedRenderer

def create (pattern : Bool) : ScriptedRenderer where
  clock := 0
  pattern
  script := []
  submissions := []
  calls := 0
  received := #[]
  deferred := #[]

/-- Gets ready for a paint pass. -/
def begin (r : ScriptedRenderer) (script : List Cue)
    (submissions : List (Nat × List ScriptedRequest)) : ScriptedRenderer :=
  { r with script, submissions, received := #[] }

/-- The picture for a job, of the given size. -/
def picture (r : ScriptedRenderer) (key : TileKey) (width height : Nat) : Bitmap :=
  let base := (key.part * 100000 + key.index * 100 + r.calls).toUInt32
  if r.pattern then .ofFn width height (patternColour base) else .filled width height base

/-- Carries out a cue for a job. -/
def follow (r : ScriptedRenderer) (cue : Cue) (job : DrawJob) (deadline : Nat) :
    DrawOutcome × ScriptedRenderer :=
  let width := job.bitmap.width
  let height := job.bitmap.height
  match cue with
  | .draw => (.drawn (r.picture job.key width height), r)
  | .keep => (.drawn job.bitmap, r)
  | .grow => (.drawn (r.picture job.key (width + 2) (height + 1)), r)
  | .defer => (.deferred, { r with deferred := r.deferred.push job })
  | .fail => (.failed job.bitmap .engineUnavailable, r)
  | .drawAndFail => (.failed (r.picture job.key width height) .engineUnavailable, r)
  | .expire =>
    (.drawn (r.picture job.key width height), { r with clock := max r.clock deadline })

/-- The requests to submit at the start of the present call. -/
def requests (r : ScriptedRenderer) : List PaintRequest :=
  let due := r.submissions.filter fun submission => submission.1 == r.received.size
  (due.flatMap (·.2)).filterMap (·.resolve? r.deferred)

/-- Answers a call. -/
def answer (job : DrawJob) (deadline : Nat) (r : ScriptedRenderer) :
    (DrawOutcome × List PaintRequest) × ScriptedRenderer :=
  let r := { r with calls := r.calls + 1, received := r.received.push job }
  let requests := r.requests
  let (outcome, r) := { r with script := r.script.tail }.follow (r.script.headD .draw) job deadline
  ((outcome, requests), r)

end ScriptedRenderer

/-- A scripted renderer that may submit requests. -/
def submittingRenderer : SubmittingRenderer ScriptedRenderer where
  now r := (r.clock, r)
  draw := ScriptedRenderer.answer

/-- A scripted renderer whose submissions go nowhere. -/
def scriptedRenderer : Renderer ScriptedRenderer where
  now r := (r.clock, r)
  draw job deadline r :=
    let ((outcome, _), r) := ScriptedRenderer.answer job deadline r
    (outcome, r)

end TiledView.Simulation
