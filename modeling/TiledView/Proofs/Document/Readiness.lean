import Mathlib.Data.List.DropRight
import TiledView.Proofs.Engine.Views

/-!
# The first draw of a view

Command statuses that are reported before a view has drawn are held back, and the host gets them all
at once when the view draws for the first time.  Sessions may be attached and detached any number of
times, and statuses may be reported at any time, also while a session has no view.

`Session.chronicle` goes along with a run of calls and writes down what happened
(`Session.Event`).  What counts at any time is the *period* since the session last gave a view up,
or since it was created (`Session.Chronicle.period`).

* `Session.Chronicle.Kept` — the backlog is what a period has brought so far: all payloads in it,
  until they are announced.
* `Session.ready_once` — what `Session.markDrawn` answers, read off the period alone.
-/

namespace TiledView

namespace Session

variable {ε ρ : Type} [Engine ε] {s : Session}

/-! ## What calls do to the backlog -/

/-- Reading the outline anew leaves the view and the backlog alone. -/
lemma reload_eq (s : Session) (q : TaskQueue ε ρ) :
    (s.reload q).2.1.isAttached = s.isAttached ∧ (s.reload q).2.1.backlog = s.backlog := by
  rw [reload]
  split
  · exact ⟨rfl, rfl⟩
  · split <;> exact ⟨rfl, rfl⟩

lemma backlog_attach (s : Session) (choice : ViewChoice) (q : TaskQueue ε ρ) :
    (s.attach choice q).2.1.backlog = s.backlog := by
  rw [attach]
  split
  · rfl
  · split
    · rfl
    · exact (reload_eq _ _).2

lemma attach_of_isAttached (attached : s.isAttached = true) (choice : ViewChoice)
    (q : TaskQueue ε ρ) : (s.attach choice q).2.1 = s := by
  obtain ⟨view, found⟩ := Option.isSome_iff_exists.1 attached
  rw [attach, found]

/-- A view is given up, and the backlog is empty again, also where the engine does not answer. -/
lemma detach_of_isAttached (attached : s.isAttached = true) (q : TaskQueue ε ρ) :
    (s.detach q).2.1 = { s with view? := none, backlog := .empty } := by
  obtain ⟨view, found⟩ := Option.isSome_iff_exists.1 attached
  rw [detach, found]
  dsimp only
  split
  · rfl
  · split <;> rfl

lemma detach_of_not_isAttached (detached : s.isAttached = false) (q : TaskQueue ε ρ) :
    (s.detach q).2.1 = s := by
  have none : s.view? = none := Option.not_isSome_iff_eq_none.1 (Bool.eq_false_iff.1 detached)
  rw [detach, none]

lemma isAttached_recordStatus (s : Session) (payload : String) :
    (s.recordStatus payload).isAttached = s.isAttached := by
  simp only [recordStatus]
  split_ifs <;> rfl

lemma backlog_recordStatus_of_holding {payloads : List String}
    (holding : s.backlog = .holding payloads) (payload : String) :
    (s.recordStatus payload).backlog = .holding (payloads ++ [payload]) := by
  simp only [recordStatus, holding, Backlog.isReleased, Backlog.hold, Bool.not_false, Bool.or_true,
    if_true]

/-- Once a view has drawn, nothing is held back. -/
lemma backlog_recordStatus_of_released (attached : s.isAttached = true)
    (released : s.backlog = .released) (payload : String) :
    (s.recordStatus payload).backlog = .released := by
  have shown : s.view?.isSome = true := attached
  simp only [recordStatus, isAttached, shown, released, Backlog.isReleased, Bool.not_true,
    Bool.or_false, Bool.false_eq_true, if_false]

lemma markDrawn_of_not_isAttached (detached : s.isAttached = false) : s.markDrawn = (none, s) := by
  rw [markDrawn, detached]
  rfl

/-- A status as the host gets it. -/
def decodeStatus (payload : String) : Payload :=
  .decode CallbackKind.stateChanged.code (some (.ofText payload))

lemma markDrawn_of_holding {payloads : List String} (attached : s.isAttached = true)
    (holding : s.backlog = .holding payloads) :
    s.markDrawn = (some (payloads.map decodeStatus), { s with backlog := .released }) := by
  rw [markDrawn, attached, holding]
  rfl

lemma markDrawn_of_released (attached : s.isAttached = true) (released : s.backlog = .released) :
    s.markDrawn = (none, s) := by
  obtain ⟨view?, kind, partCount, documentSize, pages, commands, backlog⟩ := s
  obtain rfl : backlog = .released := released
  rw [markDrawn, attached]
  rfl

/-! ## Runs -/

/-- A call of a session.  The engine is named anew at each call that has to do with it, so it may
have got on in any way between two calls. -/
inductive Call : Type 1 where
  | attach {ε ρ : Type} [Engine ε] (queue : TaskQueue ε ρ) (choice : ViewChoice)
  | detach {ε ρ : Type} [Engine ε] (queue : TaskQueue ε ρ)
  | reload {ε ρ : Type} [Engine ε] (queue : TaskQueue ε ρ)
  | withSize (size : Size .twips)
  | recordStatus (payload : String)
  | markDrawn

/-- The session after a call. -/
def after (s : Session) : Call → Session
  | @Call.attach _ _ _ queue choice => (s.attach choice queue).2.1
  | @Call.detach _ _ _ queue => (s.detach queue).2.1
  | @Call.reload _ _ _ queue => (s.reload queue).2.1
  | .withSize size => s.withSize size
  | .recordStatus payload => s.recordStatus payload
  | .markDrawn => s.markDrawn.2

/-- Something that happened to a session. -/
inductive Event where
  /-- It got a view, where it had none. -/
  | attached
  /-- It gave its view up. -/
  | detached
  | recorded (payload : String)
  /-- It was asked about its first draw, and this was the answer. -/
  | told (statuses? : Option (List Payload))

namespace Event

def isDetached : Event → Bool
  | .detached => true
  | .attached | .recorded _ | .told _ => false

def payload? : Event → Option String
  | .recorded payload => some payload
  | .attached | .detached | .told _ => none

/-- The statuses that the host was given. -/
def announcement? : Event → Option (List Payload)
  | .told statuses? => statuses?
  | .attached | .detached | .recorded _ => none

end Event

/-- What happens in a call. -/
def note (s : Session) : Call → List Event
  | @Call.attach _ _ _ queue choice =>
    if !s.isAttached && (s.attach choice queue).2.1.isAttached then [.attached] else []
  | @Call.detach _ _ _ _ => if s.isAttached then [.detached] else []
  | @Call.reload _ _ _ _ | .withSize _ => []
  | .recordStatus payload => [.recorded payload]
  | .markDrawn => [.told s.markDrawn.1]

/-- A session and what has happened to it, oldest first. -/
structure Chronicle where
  session : Session
  events : List Event

/-- The chronicle of a new session with some calls, one after the other. -/
def chronicle (calls : List Call) : Chronicle :=
  calls.foldl (fun c call => ⟨c.session.after call, c.events ++ c.session.note call⟩) ⟨.initial, []⟩

namespace Chronicle

variable {c : Chronicle}

/-- What happened since the session last gave a view up, or since it was created. -/
def period (c : Chronicle) : List Event := c.events.rtakeWhile fun event => !event.isDetached

/-- The payloads that were recorded in this period. -/
def payloads (c : Chronicle) : List String := c.period.filterMap Event.payload?

/-- What the host was given in this period. -/
def announcements (c : Chronicle) : List (List Payload) := c.period.filterMap Event.announcement?

/-- The chronicle with one more event, which left a session behind. -/
def add (c : Chronicle) (session : Session) (event : Event) : Chronicle :=
  ⟨session, c.events ++ [event]⟩

lemma period_add (session : Session) {event : Event} (stays : event.isDetached = false) :
    (c.add session event).period = c.period ++ [event] :=
  List.rtakeWhile_concat_pos _ _ _ (by rw [stays]; rfl)

lemma period_add_detached (session : Session) : (c.add session .detached).period = [] :=
  List.rtakeWhile_concat_neg _ _ _ (by decide)

lemma payloads_add (session : Session) {event : Event} (stays : event.isDetached = false) :
    (c.add session event).payloads = c.payloads ++ event.payload?.toList := by
  rw [payloads, period_add session stays, List.filterMap_append]
  cases event <;> rfl

lemma announcements_add (session : Session) {event : Event} (stays : event.isDetached = false) :
    (c.add session event).announcements = c.announcements ++ event.announcement?.toList := by
  rw [announcements, period_add session stays, List.filterMap_append]
  cases event with
  | told statuses? => cases statuses? <;> rfl
  | attached | detached | recorded => rfl

/-! ## What every chronicle satisfies -/

/-- The session is as the period has left it. -/
structure Kept (c : Chronicle) : Prop where
  attached : c.session.isAttached = true ↔ .attached ∈ c.period
  /-- The payloads of the period wait, as long as nothing was announced. -/
  holding : c.announcements = [] → c.session.backlog = .holding c.payloads
  /-- Nothing is announced while there is no view. -/
  released : c.announcements ≠ [] →
    c.session.isAttached = true ∧ c.session.backlog = .released
  once : c.announcements.length ≤ 1

namespace Kept

variable {session : Session}

/-- What does not change the view or the backlog. -/
lemma congr (h : c.Kept) (attached : session.isAttached = c.session.isAttached)
    (backlog : session.backlog = c.session.backlog) : Kept ⟨session, c.events⟩ where
  attached := by
    rw [attached]
    exact h.attached
  holding := fun quiet => backlog.trans (h.holding quiet)
  released := by
    rw [attached, backlog]
    exact h.released
  once := h.once

lemma attach (h : c.Kept) (attached : session.isAttached = true)
    (backlog : session.backlog = c.session.backlog) : (c.add session .attached).Kept := by
  have announcements : (c.add session .attached).announcements = c.announcements := by
    rw [announcements_add session rfl, Event.announcement?, Option.toList_none, List.append_nil]
  have payloads : (c.add session .attached).payloads = c.payloads := by
    rw [payloads_add session rfl, Event.payload?, Option.toList_none, List.append_nil]
  refine ⟨?_, ?_, ?_, ?_⟩
  · rw [period_add session rfl]
    exact ⟨fun _ => List.mem_append_right _ (List.mem_singleton_self _), fun _ => attached⟩
  · rw [announcements, payloads]
    exact fun quiet => backlog.trans (h.holding quiet)
  · rw [announcements]
    exact fun announced => ⟨attached, backlog.trans (h.released announced).2⟩
  · rw [announcements]
    exact h.once

/-- A period ends, and the next one starts with an empty backlog. -/
lemma detach (detached : session.isAttached = false) (backlog : session.backlog = .empty) :
    (c.add session .detached).Kept := by
  have period := c.period_add_detached session
  have announcements : (c.add session .detached).announcements = [] := by
    rw [Chronicle.announcements, period, List.filterMap_nil]
  refine ⟨?_, ?_, ?_, ?_⟩
  · rw [period]
    exact ⟨fun attached => absurd (detached.symm.trans attached) Bool.false_ne_true,
      fun mem => absurd mem List.not_mem_nil⟩
  · rw [Chronicle.payloads, period]
    exact fun _ => backlog
  · exact fun announced => absurd announcements announced
  · rw [announcements]
    exact Nat.zero_le 1

lemma record (h : c.Kept) (payload : String) :
    (c.add (c.session.recordStatus payload) (.recorded payload)).Kept := by
  have attached := c.session.isAttached_recordStatus payload
  have announcements : (c.add (c.session.recordStatus payload) (.recorded payload)).announcements =
      c.announcements := by
    rw [announcements_add _ rfl, Event.announcement?, Option.toList_none, List.append_nil]
  refine ⟨?_, ?_, ?_, ?_⟩
  · rw [period_add _ rfl, List.mem_append]
    refine (attached ▸ h.attached).trans ⟨.inl, fun mem => mem.resolve_right ?_⟩
    exact fun new => Event.noConfusion (List.mem_singleton.1 new)
  · rw [announcements, payloads_add _ rfl]
    exact fun quiet => backlog_recordStatus_of_holding (h.holding quiet) payload
  · rw [announcements]
    intro announced
    obtain ⟨shown, released⟩ := h.released announced
    exact ⟨attached.trans shown, backlog_recordStatus_of_released shown released payload⟩
  · rw [announcements]
    exact h.once

/-- The first question after the session got its view is answered, with all payloads of the period,
and no other one. -/
lemma markDrawn_eq (h : c.Kept) :
    c.session.markDrawn.1 =
      if c.session.isAttached && c.announcements.isEmpty then
        some (c.payloads.map decodeStatus)
      else
        none := by
  cases attached : c.session.isAttached with
  | false => rw [markDrawn_of_not_isAttached attached, Bool.false_and, if_neg Bool.false_ne_true]
  | true =>
      cases announced : c.announcements with
      | nil =>
          rw [markDrawn_of_holding attached (h.holding announced)]
          rfl
      | cons =>
          rw [markDrawn_of_released attached (h.released (by simp [announced])).2]
          rfl

lemma tell (h : c.Kept) :
    (c.add c.session.markDrawn.2 (.told c.session.markDrawn.1)).Kept := by
  have mem : .attached ∈ (c.add c.session.markDrawn.2 (.told c.session.markDrawn.1)).period ↔
      .attached ∈ c.period := by
    rw [period_add _ rfl, List.mem_append, List.mem_singleton]
    exact ⟨fun mem => mem.resolve_right Event.noConfusion, .inl⟩
  have payloads : (c.add c.session.markDrawn.2 (.told c.session.markDrawn.1)).payloads =
      c.payloads := by
    rw [payloads_add _ rfl, Event.payload?, Option.toList_none, List.append_nil]
  have announcements : (c.add c.session.markDrawn.2 (.told c.session.markDrawn.1)).announcements =
      c.announcements ++ c.session.markDrawn.1.toList := announcements_add _ rfl
  -- Nothing changes, unless the session has a view and nothing was announced yet.
  have quiet : c.session.markDrawn = (none, c.session) →
      (c.add c.session.markDrawn.2 (.told c.session.markDrawn.1)).Kept := by
    intro same
    rw [same, Option.toList_none, List.append_nil] at announcements
    rw [same] at mem payloads ⊢
    exact ⟨h.attached.trans mem.symm, by rw [announcements, payloads]; exact h.holding,
      by rw [announcements]; exact h.released, by rw [announcements]; exact h.once⟩
  cases attached : c.session.isAttached with
  | false => exact quiet (markDrawn_of_not_isAttached attached)
  | true =>
      by_cases announced : c.announcements = []
      · have first := markDrawn_of_holding attached (h.holding announced)
        rw [first, announced] at announcements
        rw [first] at mem ⊢
        refine ⟨?_, ?_, fun _ => ⟨attached, rfl⟩, ?_⟩
        · exact ⟨fun _ => mem.2 (h.attached.1 attached), fun _ => attached⟩
        · rw [announcements]
          exact fun none => absurd none (List.cons_ne_nil _ _)
        · rw [announcements]
          exact Nat.le_refl 1
      · exact quiet (markDrawn_of_released attached (h.released announced).2)

/-- **Every call leaves the session as the period has it.** -/
theorem after (h : c.Kept) (call : Call) :
    Kept ⟨c.session.after call, c.events ++ c.session.note call⟩ := by
  cases call with
  | attach queue choice =>
      have backlog := c.session.backlog_attach choice queue
      simp only [note, Session.after]
      cases attached : c.session.isAttached with
      | true =>
          rw [attach_of_isAttached attached]
          simpa using h
      | false =>
          cases taken : (c.session.attach choice queue).2.1.isAttached with
          | true => exact h.attach taken backlog
          | false => simpa using h.congr (taken.trans attached.symm) backlog
  | detach queue =>
      simp only [note, Session.after]
      cases attached : c.session.isAttached with
      | true =>
          rw [detach_of_isAttached attached]
          exact detach rfl rfl
      | false =>
          rw [detach_of_not_isAttached attached]
          simpa using h
  | reload queue =>
      obtain ⟨attached, backlog⟩ := reload_eq c.session queue
      simpa [note, Session.after] using h.congr attached backlog
  | withSize size =>
      have same : Kept ⟨c.session.withSize size, c.events⟩ := h.congr rfl rfl
      simpa [note, Session.after] using same
  | recordStatus payload => exact h.record payload
  | markDrawn => exact h.tell

end Kept

end Chronicle

lemma kept_chronicle (calls : List Call) : (chronicle calls).Kept :=
  List.foldlRecOn calls _
    ⟨⟨fun attached => absurd attached Bool.false_ne_true, fun mem => absurd mem List.not_mem_nil⟩,
      fun _ => rfl, fun announced => absurd rfl announced, Nat.zero_le 1⟩
    fun _ kept call _ => kept.after call

/-- **A view is announced once, with the statuses that were held back for it.**  Whenever a session
is asked about its first draw, it answers exactly if it has a view and has not answered since it got
it; the answer is all statuses that were recorded since the session last gave a view up, or since it
was created, in order.  On a live queue, attaching gets a view. -/
theorem ready_once (calls : List Call) :
    let c := chronicle calls
    (c.session.isAttached = true ↔ .attached ∈ c.period) ∧
    c.announcements.length ≤ 1 ∧
    (c.session.markDrawn.1 =
      if c.session.isAttached && c.announcements.isEmpty then
        some (c.payloads.map decodeStatus)
      else
        none) ∧
    ∀ {ε ρ : Type} [Engine ε] (queue : TaskQueue ε ρ) (choice : ViewChoice), queue.Live →
      (c.session.attach choice queue).2.1.isAttached = true := by
  have kept := kept_chronicle calls
  refine ⟨kept.attached, kept.once, kept.markDrawn_eq, ?_⟩
  intro ε ρ _ queue choice live
  cases attached : (chronicle calls).session.isAttached with
  | true =>
      rw [attach_of_isAttached attached]
      exact attached
  | false =>
      have detached := Option.not_isSome_iff_eq_none.1 (Bool.eq_false_iff.1 attached)
      rw [isAttached, (attach_of_live live detached choice).1]
      rfl

/-- An engine with a letter. -/
def letterQueue : TaskQueue Simulation.RecordingEngine Unit :=
  .start (.create .text 1 ⟨900, 450⟩ "" false)

/-- A status is reported before a view is taken, and another one after it. -/
def reportedEarly : List Call :=
  [.recordStatus ".uno:Bold=true", .attach letterQueue .selected, .recordStatus ".uno:Undo=enabled"]

/-- Both are announced, once; the next view starts anew. -/
theorem ready_once_reportedEarly :
    let again := reportedEarly ++ [.markDrawn, .recordStatus ".uno:Bold=false", .detach letterQueue]
    letterQueue.Live ∧
    (chronicle reportedEarly).session.markDrawn.1.map (·.map Payload.text?) =
      some [some ".uno:Bold=true", some ".uno:Undo=enabled"] ∧
    (chronicle (reportedEarly ++ [.markDrawn])).session.markDrawn.1.isNone = true ∧
    ((chronicle again).session.attach .selected letterQueue).2.1.isAttached = true ∧
    (chronicle (again ++ [.attach letterQueue .selected])).session.markDrawn.1.map (·.length) =
      some 0 := by
  have live : letterQueue.Live := TaskQueue.live_start _
  refine ⟨live, by decide +kernel, by decide +kernel, ?_, by decide +kernel⟩
  exact (ready_once _).2.2.2 letterQueue .selected live

end Session

end TiledView
