import TiledView.Proofs.Document.Sharing
import TiledView.Proofs.Engine.Endings

/-!
# Sessions whose engine ends meanwhile

To attach a session takes two or three calls of the engine, to detach it one or two, and the queue
of the engine may end before, between or after them.  What becomes of the session depends on nothing
but how many calls the queue still answers (`TaskQueue.Answers`).

* `Session.Attaches` — the three ways in which attaching may go.  Where the queue ends after the
  view was obtained and before the outline is read, attaching fails, and all the same the session
  counts as attached: the next attach takes it at its word.
* `Session.exchange_detach` — detaching gives the view up in any case.
* `SharedDocument.refused_iff` — a failed attach leaves the session as it was, for good, exactly if
  no view was obtained.
-/

namespace TiledView

namespace Session

variable {ε ρ : Type} [Engine ε] {s : Session} {q : TaskQueue ε ρ} {choice : ViewChoice}
  {view : ViewId}

/-! ## Obtaining a view -/

/-- How many calls it takes to obtain a view. -/
def callsToObtain (choice : ViewChoice) (engine : ε) : Nat :=
  match choice with
  | .new => 1
  | .selected =>
    match Engine.selectedView engine with
    | some _ => 1
    | none => 2

lemma callsToObtain_pos (choice : ViewChoice) (engine : ε) : 1 ≤ callsToObtain choice engine := by
  cases choice with
  | new => exact Nat.le_refl 1
  | selected =>
      simp only [callsToObtain]
      split <;> omega

lemma exchange_obtainView (choice : ViewChoice) (q : TaskQueue ε ρ) :
    q.Exchange (callsToObtain choice q.settle.engine) (obtained choice q.settle.engine).1
      (obtained choice q.settle.engine).2 (obtainView choice q) := by
  cases choice with
  | new => exact q.exchange_await Engine.openView
  | selected =>
      have asked := q.exchange_await fun engine => (Engine.selectedView engine, engine)
      rw [obtainView, TaskQueue.selectedView, TaskQueue.ask, callsToObtain, obtained]
      generalize q.await (fun engine => (Engine.selectedView engine, engine)) = result at asked ⊢
      cases selected : Engine.selectedView q.settle.engine with
      | some view =>
          rw [selected] at asked
          cases asked with
          | answered queue lasts same left => exact .answered queue lasts same left
          | closed queue ends ended => exact .closed queue ends ended
      | none =>
          rw [selected] at asked
          cases asked with
          | answered queue lasts same left =>
              rw [show q.settle.engine = queue.settle.engine from same.symm]
              exact (queue.exchange_await Engine.openView).after left
          | closed queue ends ended =>
              exact .closed queue (fun lasts => ends (lasts.mono (Nat.le_succ 1))) ended

/-! ## Reloading -/

/-- What comes of reloading a session that has a view. -/
inductive Reloads (s : Session) (q : TaskQueue ε ρ) :
    Except SessionError Unit × Session × TaskQueue ε ρ → Prop where
  | answered (session : Session) (queue : TaskQueue ε ρ) (lasts : q.Answers 1)
      (view : session.view? = s.view?) (left : ∀ n, queue.Answers n ↔ q.Answers (n + 1)) :
      Reloads s q (.ok (), session, queue)
  | closed (queue : TaskQueue ε ρ) (ends : ¬ q.Answers 1) (ended : ¬ queue.Answers 1) :
      Reloads s q (.error (.engine .closed), s, queue)

lemma reloads (attached : s.isAttached = true) (q : TaskQueue ε ρ) : s.Reloads q (s.reload q) := by
  obtain ⟨view, found⟩ := Option.isSome_iff_exists.1 attached
  have asked : q.Exchange 1 _ _
      (q.awaitIn view fun engine => (DocumentOutline.ofEngine engine, engine)) := q.exchange_await _
  rw [reload, found]
  dsimp only
  cases h : q.awaitIn view fun engine => (DocumentOutline.ofEngine engine, engine) with
  | mk answer queue =>
      rw [h] at asked
      cases asked with
      | answered queue lasts same left => exact .answered _ queue lasts found.symm left
      | closed queue ends ended => exact .closed queue ends ended

omit [Engine ε] in
lemma Reloads.ended {result : Except SessionError Unit × Session × TaskQueue ε ρ}
    (h : s.Reloads q result) (ended : ¬ q.Answers 1) : ¬ result.2.2.Answers 1 := by
  cases h with
  | answered session queue lasts => exact absurd lasts ended
  | closed queue ends ended' => exact ended'

/-- A reload that fails changes nothing. -/
lemma reload_failed {error : SessionError} (failed : (s.reload q).1 = .error error) :
    (s.reload q).2.1 = s := by
  by_cases attached : s.isAttached = true
  · have reloads := reloads attached q
    generalize s.reload q = result at failed reloads ⊢
    cases reloads with
    | answered => cases failed
    | closed => rfl
  · rw [reload, Option.not_isSome_iff_eq_none.1 attached]

/-! ## Attaching -/

/-- What comes of attaching a session that has no view.  When the queue ends before the outline has
been read, the session keeps the view that it has obtained. -/
inductive Attaches (s : Session) (choice : ViewChoice) (q : TaskQueue ε ρ) :
    Except SessionError ViewId × Session × TaskQueue ε ρ → Prop where
  | attached (session : Session) (queue : TaskQueue ε ρ)
      (lasts : q.Answers (callsToObtain choice q.settle.engine + 1))
      (view : session.view? = some (obtained choice q.settle.engine).1)
      (left : ∀ n, queue.Answers n ↔ q.Answers (n + (callsToObtain choice q.settle.engine + 1))) :
      Attaches s choice q (.ok (obtained choice q.settle.engine).1, session, queue)
  | unread (queue : TaskQueue ε ρ) (lasts : q.Answers (callsToObtain choice q.settle.engine))
      (ends : ¬ q.Answers (callsToObtain choice q.settle.engine + 1)) (ended : ¬ queue.Answers 1) :
      Attaches s choice q (.error (.engine .closed),
        { s with view? := some (obtained choice q.settle.engine).1 }, queue)
  | refused (queue : TaskQueue ε ρ) (ends : ¬ q.Answers (callsToObtain choice q.settle.engine))
      (ended : ¬ queue.Answers 1) : Attaches s choice q (.error (.engine .closed), s, queue)

lemma attaches (detached : s.isAttached = false) (choice : ViewChoice) (q : TaskQueue ε ρ) :
    s.Attaches choice q (s.attach choice q) := by
  have none : s.view? = none := Option.not_isSome_iff_eq_none.1 (Bool.eq_false_iff.1 detached)
  have asked := exchange_obtainView choice q
  rw [attach, none]
  dsimp only
  cases h : obtainView choice q with
  | mk answer queue =>
      rw [h] at asked
      cases asked with
      | closed queue ends ended => exact .refused queue ends ended
      | answered queue lasts same left =>
          have read := reloads (s := { s with view? := some (obtained choice q.settle.engine).1 })
            rfl queue
          have once : queue.Answers 1 ↔ q.Answers (callsToObtain choice q.settle.engine + 1) := by
            rw [left, Nat.add_comm]
          dsimp only
          generalize reload { s with view? := some (obtained choice q.settle.engine).1 } queue =
            result at read ⊢
          cases read with
          | answered session queue' lasts' view left'' =>
              refine .attached session queue' (once.1 lasts') view fun n => ?_
              rw [left'', left, Nat.add_assoc, Nat.add_comm 1]
          | closed queue' ends ended =>
              exact .unread queue' lasts (fun lasts' => ends (once.2 lasts')) ended

/-- Nothing can be attached to a queue that has ended. -/
lemma attach_of_ended (detached : s.isAttached = false) (ended : ¬ q.Answers 1)
    (choice : ViewChoice) :
    (s.attach choice q).1 = .error (.engine .closed) ∧ (s.attach choice q).2.1 = s ∧
      ¬ (s.attach choice q).2.2.Answers 1 := by
  have attaches := attaches detached choice q
  have pos := callsToObtain_pos choice q.settle.engine
  generalize s.attach choice q = result at attaches ⊢
  cases attaches with
  | attached session queue lasts => exact absurd (lasts.mono (by omega)) ended
  | unread queue lasts => exact absurd (lasts.mono pos) ended
  | refused queue ends ended' => exact ⟨rfl, rfl, ended'⟩

/-! ## Detaching -/

/-- How many calls it takes to give a view up. -/
def callsToDetach (engine : ε) : Nat := if 0 < Engine.viewCount engine then 2 else 1

/-- Detaching gives the view up, and has it closed if the engine can be told. -/
lemma exchange_detach (attached : s.isAttached = true) (q : TaskQueue ε ρ) :
    ∃ answer queue,
      s.detach q = (answer.mapError .engine, { s with view? := none, backlog := .empty }, queue) ∧
      q.Exchange (callsToDetach q.settle.engine) ()
        ((s.closing? q.settle.engine).elim q.settle.engine fun view =>
          Engine.closeView view q.settle.engine) (answer, queue) := by
  obtain ⟨view, found⟩ := Option.isSome_iff_exists.1 attached
  have asked : q.Exchange 1 _ _ q.viewCount :=
    q.exchange_await fun engine => (Engine.viewCount engine, engine)
  rw [detach, closing?, found, callsToDetach, Option.filter_some]
  dsimp only
  cases h : q.viewCount with
  | mk answer queue =>
      rw [h] at asked
      cases asked with
      | closed queue ends ended =>
          refine ⟨.error .closed, queue, rfl, .closed queue (fun lasts => ends ?_) ended⟩
          exact lasts.mono (by split_ifs <;> omega)
      | answered queue lasts same left =>
          dsimp only
          by_cases some : 0 < Engine.viewCount q.settle.engine
          · have told := queue.exchange_await fun engine => ((), Engine.closeView view engine)
            rw [if_pos some, if_pos some, if_pos (decide_eq_true some)]
            rw [show queue.settle.engine = q.settle.engine from same] at told
            exact ⟨(queue.closeView view).1, _, rfl, told.after left⟩
          · rw [if_neg some, if_neg some, if_neg (by simpa using some)]
            exact ⟨.ok (), queue, rfl, .answered queue lasts same left⟩

end Session

namespace SharedDocument

open Session (callsToObtain obtained)

variable {ε ρ : Type} [Engine ε] {d : SharedDocument ε ρ} {id : SessionId}

/-! ## Sessions of a queue that has ended -/

lemma ended_after (ended : ¬ d.queue.Answers 1) (call : Call) :
    ¬ (d.after call).queue.Answers 1 := by
  cases call with
  | attach id choice =>
      cases held : d.view? id with
      | none => exact (Session.attach_of_ended (congrArg Option.isSome held) ended choice).2.2
      | some view =>
          rw [after_attach_of_attached held]
          exact ended
  | detach id =>
      cases held : d.view? id with
      | none =>
          rw [after_detach_of_detached held]
          exact ended
      | some view =>
          obtain ⟨answer, queue, detaches, exchange⟩ :=
            Session.exchange_detach (Option.isSome_of_mem held) d.queue
          show ¬ ((d.sessions id).detach d.queue).2.2.Answers 1
          rw [detaches]
          exact exchange.ended ended
  | reload id =>
      cases held : d.view? id with
      | none =>
          rw [after_reload_of_detached held]
          exact ended
      | some view => exact (Session.reloads (Option.isSome_of_mem held) d.queue).ended ended

/-- A session without a view stays as it is, whatever any session is asked for. -/
lemma sessions_after_of_ended (ended : ¬ d.queue.Answers 1) (detached : d.view? id = none)
    (call : Call) : (d.after call).sessions id = d.sessions id := by
  cases call with
  | attach other choice =>
      by_cases same : id = other
      · subst same
        rw [after]
        dsimp only
        rw [Function.update_self]
        exact (Session.attach_of_ended (congrArg Option.isSome detached) ended choice).2.1
      · exact Function.update_of_ne same _ _
  | detach other =>
      by_cases same : id = other
      · rw [← same, after_detach_of_detached detached]
      · exact Function.update_of_ne same _ _
  | reload other =>
      by_cases same : id = other
      · rw [← same, after_reload_of_detached detached]
      · exact Function.update_of_ne same _ _

lemma sessions_foldl_of_ended (ended : ¬ d.queue.Answers 1) (detached : d.view? id = none)
    (calls : List Call) :
    (calls.foldl after d).sessions id = d.sessions id ∧
      ¬ (calls.foldl after d).queue.Answers 1 := by
  induction calls generalizing d with
  | nil => exact ⟨rfl, ended⟩
  | cons call calls ih =>
      have same := sessions_after_of_ended ended detached call
      obtain ⟨rest, ended'⟩ := ih (d := d.after call) (ended_after ended call)
        ((congrArg Session.view? same).trans detached)
      exact ⟨rest.trans same, ended'⟩

/-! ## Attaching and reloading, if it goes wrong -/

/-- Session `id` is refused a view for good: it is as it was before it asked for one, and it is not
attached any more, whatever the sessions of the document are asked for. -/
structure Refused (d : SharedDocument ε ρ) (id : SessionId) (choice : ViewChoice) : Prop where
  unchanged : (d.after (.attach id choice)).sessions id = d.sessions id
  forever : ∀ (calls : List Call) (again : ViewChoice),
    let later := calls.foldl after (d.after (.attach id choice))
    later.sessions id = d.sessions id ∧
      ((later.sessions id).attach again later.queue).1 = .error (.engine .closed)

lemma sessions_attach (d : SharedDocument ε ρ) (id : SessionId) (choice : ViewChoice) :
    (d.after (.attach id choice)).sessions id = ((d.sessions id).attach choice d.queue).2.1 :=
  Function.update_self id _ _

lemma refused_of_ended {choice : ViewChoice} (detached : d.view? id = none)
    (unchanged : (d.after (.attach id choice)).sessions id = d.sessions id)
    (ended : ¬ (d.after (.attach id choice)).queue.Answers 1) : d.Refused id choice where
  unchanged := unchanged
  forever calls again := by
    have detached' : (d.after (.attach id choice)).view? id = none :=
      (congrArg Session.view? unchanged).trans detached
    obtain ⟨same, ended'⟩ := sessions_foldl_of_ended ended detached' calls
    rw [unchanged] at same
    refine ⟨same, (Session.attach_of_ended ?_ ended' again).1⟩
    rw [same]
    exact congrArg Option.isSome detached

/-- **What a failed attach leaves behind.**  Attaching a session that has no view fails exactly if
the queue does not last until the outline has been read.  The session is refused for good then,
exactly if the queue does not even last until a view has been obtained.  If it does, the session
counts as attached to that view, and the next attach succeeds.  A reload that fails changes
nothing. -/
theorem refused_iff (d : SharedDocument ε ρ) (id : SessionId) :
    (d.view? id = none → ∀ choice : ViewChoice,
      let calls := callsToObtain choice d.queue.settle.engine
      let answer := ((d.sessions id).attach choice d.queue).1
      let left := d.after (.attach id choice)
      ((∃ error, answer = .error error) ↔ ¬ d.queue.Answers (calls + 1)) ∧
      ∀ error, answer = .error error →
        error = .engine .closed ∧ (d.Refused id choice ↔ ¬ d.queue.Answers calls) ∧
        (d.queue.Answers calls →
          let view := (obtained choice d.queue.settle.engine).1
          left.sessions id = { d.sessions id with view? := some view } ∧
            ∀ again, ((left.sessions id).attach again left.queue).1 = .ok view)) ∧
    ∀ error, ((d.sessions id).reload d.queue).1 = .error error →
      (d.after (.reload id)).sessions id = d.sessions id := by
  refine ⟨fun detached choice => ?_, fun error failed => ?_⟩
  · have attaches := Session.attaches (congrArg Option.isSome detached) choice d.queue
    have sessions := d.sessions_attach id choice
    have queue : (d.after (.attach id choice)).queue =
      ((d.sessions id).attach choice d.queue).2.2 := rfl
    dsimp only
    generalize (d.sessions id).attach choice d.queue = result at attaches sessions queue ⊢
    cases attaches with
    | attached session queue' lasts =>
        exact ⟨⟨nofun, fun ends => absurd lasts ends⟩, nofun⟩
    | unread queue' lasts ends =>
        refine ⟨⟨fun _ => ends, fun _ => ⟨_, rfl⟩⟩, ?_⟩
        rintro error ⟨⟩
        refine ⟨rfl, ⟨fun refused => ?_, fun ends' => absurd lasts ends'⟩, fun _ => ⟨sessions, ?_⟩⟩
        · have same := congrArg Session.view? (sessions.symm.trans refused.unchanged)
          cases same.trans detached
        · intro again
          rw [sessions]
          rfl
    | refused queue' ends ended =>
        refine ⟨⟨fun _ lasts => ends (lasts.mono (Nat.le_succ _)), fun _ => ⟨_, rfl⟩⟩, ?_⟩
        rintro error ⟨⟩
        refine ⟨rfl, ⟨fun _ => ends, fun _ => ?_⟩, fun lasts => absurd lasts ends⟩
        exact refused_of_ended detached sessions (by rwa [queue])
  · exact (Function.update_self id _ _).trans (Session.reload_failed failed)

/-! ## An engine that ends early -/

/-- A letter whose engine ends after some calls. -/
def endingLetter (calls : Nat) : SharedDocument Simulation.RecordingEngine Bitmap :=
  let letter := start emptyLetter
  { letter with queue := { letter.queue with remaining? := some calls } }

/-- Where the engine ends as soon as it has answered that no view is selected, the session is
refused for good.  Where it ends after an attach, the reload that follows changes nothing. -/
theorem refused_iff_unopened :
    let attached := (endingLetter 2).after (.attach 0 .new)
    (((endingLetter 1).sessions 0).attach .selected (endingLetter 1).queue).1 =
        .error (.engine .closed) ∧
      (endingLetter 1).Refused 0 .selected ∧
      ((attached.sessions 0).reload attached.queue).1 = .error (.engine .closed) ∧
      (attached.after (.reload 0)).sessions 0 = attached.sessions 0 := by
  intro attached
  have failed : (((endingLetter 1).sessions 0).attach .selected (endingLetter 1).queue).1 =
    .error (.engine .closed) := by decide +kernel
  have unread : ((attached.sessions 0).reload attached.queue).1 = .error (.engine .closed) := by
    decide +kernel
  obtain ⟨-, refused, -⟩ :=
    ((refused_iff (endingLetter 1) 0).1 rfl .selected).2 (.engine .closed) failed
  have ends : ¬ (endingLetter 1).queue.Answers 2 := fun lasts => absurd (lasts 1 rfl) (by decide)
  exact ⟨failed, refused.2 ends, unread, (refused_iff attached 0).2 _ unread⟩

/-- Where the engine ends as soon as it has opened a view, attaching fails, and yet the session has
that view and the next attach succeeds. -/
theorem attached_unread :
    let left := (endingLetter 1).after (.attach 0 .new)
    (((endingLetter 1).sessions 0).attach .new (endingLetter 1).queue).1 =
        .error (.engine .closed) ∧
      left.view? 0 = some 0 ∧ ((left.sessions 0).attach .new left.queue).1 = .ok 0 ∧
      ¬ (endingLetter 1).Refused 0 .new := by
  intro left
  have shown : left.view? 0 = some 0 := by decide +kernel
  refine ⟨by decide +kernel, shown, by decide +kernel, fun refused => ?_⟩
  have none : left.view? 0 = none := congrArg Session.view? refused.unchanged
  rw [none] at shown
  cases shown

end SharedDocument

end TiledView
