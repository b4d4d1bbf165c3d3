import Mathlib.Tactic.Common
import TiledView.Document.Session
import TiledView.Viewer.EngineDrawing

/-!
# Replies that are owed

A task queue owes a reply from the moment a task is posted until it has run or is dropped
(`TaskQueue.Owes`).  Only posting makes a queue owe anything: a reply that has come, or will never
come, is not owed again, whatever else the queue is used for.  A late drawing is collected as soon
as its reply is not owed any more (`LateDrawing.collect_eq_none_iff`).
-/

namespace TiledView

variable {ε ρ α : Type}

namespace TaskQueue

variable {q : TaskQueue ε ρ} {ticket other : Ticket}

/-- The task of a ticket has neither run nor been dropped. -/
def Owes (q : TaskQueue ε ρ) (ticket : Ticket) : Prop := q.replies[ticket]? = some .waiting

lemma owes_of_setReply {reply : Reply ρ} (come : reply ≠ .waiting)
    (h : (q.setReply other reply).Owes ticket) : q.Owes ticket := by
  rw [Owes, setReply, Array.getElem?_setIfInBounds] at h
  split_ifs at h with same
  · exact absurd (Option.some.inj h) come
  · exact h

lemma owes_of_dropWaiting (h : q.dropWaiting.Owes ticket) : q.Owes ticket := by
  have kept : ({ q with waiting := [] } : TaskQueue ε ρ).Owes ticket → q.Owes ticket := id
  refine List.foldlRecOn (motive := fun result : TaskQueue ε ρ =>
    result.Owes ticket → q.Owes ticket) q.waiting _ kept ?_ h
  intro result ih entry _ h
  refine ih (owes_of_setReply ?_ h)
  nofun

lemma owes_of_countDown (h : q.countDown.Owes ticket) : q.Owes ticket := by
  simp only [countDown] at h
  split_ifs at h
  · have dropped : ({ q with remaining? := q.remaining?.map (· - 1) } : TaskQueue ε ρ).Owes
        ticket := owes_of_dropWaiting h
    exact dropped
  · exact h

lemma owes_of_collect (h : (q.collect other).2.Owes ticket) : q.Owes ticket := by
  rw [collect] at h
  split at h
  · exact h
  · refine owes_of_setReply ?_ h
    nofun
  all_goals exact h

lemma collect_eq_waiting_iff : (q.collect ticket).1 = .ok none ↔ q.Owes ticket := by
  rw [collect, Owes]
  split
  · next waiting => simp [waiting]
  · next answered => simp [answered]
  all_goals next come => simp [come]

section Engine

variable [Engine ε]

lemma owes_of_step (h : q.step.Owes ticket) : q.Owes ticket := by
  rw [step] at h
  split at h
  · exact h
  · dsimp only at h
    have replied := owes_of_countDown h
    refine owes_of_setReply ?_ replied
    nofun

lemma owes_of_advance {count : Nat} (h : (q.advance count).Owes ticket) : q.Owes ticket := by
  induction count generalizing q with
  | zero => exact h
  | succ count ih => exact owes_of_step (ih h)

lemma owes_of_await {body : ε → α × ε} (h : (q.await body).2.Owes ticket) : q.Owes ticket := by
  simp only [await] at h
  split_ifs at h
  · exact owes_of_advance h
  · have counted : ({ q.settle with engine := (body q.settle.engine).2 } : TaskQueue ε ρ).Owes
        ticket := owes_of_countDown h
    exact owes_of_advance counted

/-- Reading the outline of a document posts nothing. -/
lemma owes_of_reload {s : Session} (h : (s.reload q).2.2.Owes ticket) : q.Owes ticket := by
  rw [Session.reload] at h
  split at h
  · exact h
  · rw [awaitIn] at h
    split at h
    · next failed => exact owes_of_await ((congrArg Prod.snd failed).symm ▸ h)
    · next told => exact owes_of_await ((congrArg Prod.snd told).symm ▸ h)

end Engine

end TaskQueue

/-! ## Several engines -/

/-- The engine of a late drawing owes it. -/
def Engines.Owes (engines : Engines ε) (late : LateDrawing) : Prop :=
  ∃ queue, engines[late.engine]? = some queue ∧ queue.Owes late.ticket

variable {engines : Engines ε} {late : LateDrawing}
  {action : TaskQueue ε Bitmap → α × TaskQueue ε Bitmap}

/-- A use changes the queue that is used. -/
lemma Engines.getElem?_use (engines : Engines ε) (id other : EngineId)
    (closed : EngineError → α) (action : TaskQueue ε Bitmap → α × TaskQueue ε Bitmap) :
    (engines.use id closed action).2[other]? =
      if id = other then engines[other]?.map fun queue => (action queue).2 else engines[other]? := by
  rw [use]
  split
  · next none =>
    split_ifs with here
    · rw [← here, none, Option.map_none]
    · rfl
  · next queue found =>
    dsimp only
    rw [Array.getElem?_setIfInBounds]
    split_ifs with here inside
    · rw [← here, found, Option.map_some]
    · exact absurd (Array.getElem?_eq_some_iff.1 found).1 inside
    · rfl

/-- What a use of one queue does not make it owe, the engines do not come to owe either. -/
lemma Engines.owes_of_use (id : EngineId) (closed : EngineError → α)
    (owes : ∀ queue : TaskQueue ε Bitmap, (action queue).2.Owes late.ticket →
      queue.Owes late.ticket)
    (h : Engines.Owes (engines.use id closed action).2 late) : engines.Owes late := by
  obtain ⟨queue, found, hqueue⟩ := h
  rw [getElem?_use] at found
  split_ifs at found
  · obtain ⟨before, hbefore, rfl⟩ := Option.map_eq_some_iff.1 found
    exact ⟨before, hbefore, owes before hqueue⟩
  · exact ⟨queue, found, hqueue⟩

namespace LateDrawing

lemma owes_of_collect {other : LateDrawing} (h : Engines.Owes (other.collect engines).2 late) :
    engines.Owes late := by
  have owes : ∀ queue : TaskQueue ε Bitmap, (queue.collect other.ticket).2.Owes late.ticket →
      queue.Owes late.ticket := fun _ => TaskQueue.owes_of_collect
  refine Engines.owes_of_use other.engine Except.error owes ?_
  rw [collect] at h
  generalize engines.use other.engine Except.error (·.collect other.ticket) = used at h ⊢
  rcases used with ⟨_ | _ | _, engines'⟩ <;> exact h

/-- **A late drawing is waited for while its engine owes it.** -/
theorem collect_eq_none_iff : (late.collect engines).1 = none ↔ engines.Owes late := by
  rw [collect, Engines.Owes, Engines.use]
  cases found : engines[late.engine]? with
  | none => simp
  | some queue =>
      simp only [Option.some.injEq, exists_eq_left']
      rw [← TaskQueue.collect_eq_waiting_iff]
      rcases queue.collect late.ticket with ⟨_ | _ | _, q⟩ <;> simp

end LateDrawing

end TiledView
