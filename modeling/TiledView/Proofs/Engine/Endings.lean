import TiledView.Proofs.Engine.Bookkeeping

/-!
# Queues that end while somebody waits

Whoever waits for an engine does so behind every task that is in the queue, so what matters of a
queue that is to end is how many calls it answers after these (`TaskQueue.callsLeft?`).  A run of
calls by one owner is answered as far as that goes: `TaskQueue.Answers q n` says that the next `n`
calls are, and each of them takes one away (`TaskQueue.answers_await`).
-/

namespace TiledView

variable {ε ρ α : Type}

namespace TaskQueue

variable {q : TaskQueue ε ρ}

/-- How many calls a queue that is to end answers behind the tasks that wait in it. -/
def callsLeft? (q : TaskQueue ε ρ) : Option Nat := q.remaining?.map (· - q.waiting.length)

/-- The queue lasts for `n` more calls. -/
def Answers (q : TaskQueue ε ρ) (n : Nat) : Prop := ∀ left, q.callsLeft? = some left → n ≤ left

lemma answers_of_lasting (lasting : q.remaining? = none) (n : Nat) : q.Answers n := by
  intro left ends
  rw [callsLeft?, lasting] at ends
  cases ends

lemma Answers.mono {m n : Nat} (h : q.Answers n) (le : m ≤ n) : q.Answers m :=
  fun left ends => Nat.le_trans le (h left ends)

/-! ## Running what waits -/

lemma remaining?_countDown (q : TaskQueue ε ρ) :
    q.countDown.remaining? = q.remaining?.map (· - 1) := by
  simp only [countDown, ThreadLog.dropWaiting_eq]
  split_ifs <;> rfl

lemma waiting_countDown (q : TaskQueue ε ρ) :
    q.countDown.waiting = if q.countDown.isClosed then [] else q.waiting := by
  rw [isClosed, remaining?_countDown]
  simp only [countDown, isClosed, ThreadLog.dropWaiting_eq]
  split_ifs <;> rfl

lemma countDown_of_idle (idle : q.waiting = []) :
    q.countDown = { q with remaining? := q.remaining?.map (· - 1) } := by
  simp only [countDown, ThreadLog.dropWaiting_eq, idle]
  split_ifs <;> rfl

section Settle

variable [Engine ε]

lemma waiting_step (q : TaskQueue ε ρ) :
    q.step.waiting = [] ∨ q.step.waiting = q.waiting.tail := by
  rw [step]
  split
  · next none => exact .inl none
  · next some =>
    rw [some, waiting_countDown]
    split_ifs
    · exact .inl rfl
    · exact .inr rfl

/-- Running a task takes nothing away from the calls behind it. -/
lemma callsLeft?_step (q : TaskQueue ε ρ) : q.step.callsLeft? = q.callsLeft? := by
  rw [step]
  split
  · rfl
  · next some =>
    rw [callsLeft?, callsLeft?, waiting_countDown, isClosed, remaining?_countDown, some]
    cases ends : q.remaining? with
    | none => simp only [setReply, Option.map_none]
    | some count =>
        simp only [setReply, Option.map_some, Option.some.injEq, beq_iff_eq]
        split_ifs <;> simp only [List.length_nil, List.length_cons] <;> omega

lemma advance_of_idle (idle : q.waiting = []) (count : Nat) : q.advance count = q := by
  induction count with
  | zero => rfl
  | succ count ih =>
      have same : q.step = q := by rw [step, idle]
      rw [advance, same, ih]

lemma waiting_advance {count : Nat} (le : q.waiting.length ≤ count) :
    (q.advance count).waiting = [] := by
  induction count generalizing q with
  | zero => exact List.length_eq_zero_iff.1 (Nat.le_zero.1 le)
  | succ count ih =>
      refine ih ?_
      rcases q.waiting_step with none | rest
      · rw [none]
        exact Nat.zero_le count
      · rw [rest, List.length_tail]
        omega

lemma callsLeft?_advance (q : TaskQueue ε ρ) (count : Nat) :
    (q.advance count).callsLeft? = q.callsLeft? := by
  induction count generalizing q with
  | zero => rfl
  | succ count ih => exact (ih q.step).trans q.callsLeft?_step

lemma waiting_settle (q : TaskQueue ε ρ) : q.settle.waiting = [] := waiting_advance (Nat.le_refl _)

lemma settle_of_idle (idle : q.waiting = []) : q.settle = q := advance_of_idle idle _

/-- Behind the tasks that waited, there are as many calls left as the queue still runs. -/
lemma callsLeft?_eq_remaining? (q : TaskQueue ε ρ) : q.callsLeft? = q.settle.remaining? := by
  rw [← callsLeft?_advance q q.waiting.length, callsLeft?]
  show q.settle.remaining?.map _ = _
  rw [show (q.advance q.waiting.length).waiting = [] from q.waiting_settle]
  exact congrFun Option.map_id _

lemma answers_settle (q : TaskQueue ε ρ) {n : Nat} : q.settle.Answers n ↔ q.Answers n := by
  rw [Answers, Answers, settle, callsLeft?_advance]

lemma isClosed_settle_iff (q : TaskQueue ε ρ) : q.settle.isClosed = true ↔ ¬ q.Answers 1 := by
  rw [isClosed, beq_iff_eq, ← callsLeft?_eq_remaining?, Answers]
  cases q.callsLeft? with
  | none => simp
  | some left =>
      simp only [Option.some.injEq, forall_eq']
      omega

/-! ## Waiting for answers -/

/-- A queue that lasts answers, and has one call less to answer then. -/
lemma await_of_answers (answers : q.Answers 1) (body : ε → α × ε) :
    q.await body = (.ok (body q.settle.engine).1,
      { q.settle with
        engine := (body q.settle.engine).2
        remaining? := q.callsLeft?.map (· - 1) }) := by
  have lasts : ¬ q.settle.isClosed = true := fun closed => q.isClosed_settle_iff.1 closed answers
  have idle : ({ q.settle with engine := (body q.settle.engine).2 } : TaskQueue ε ρ).waiting = [] :=
    q.waiting_settle
  simp only [await]
  rw [if_neg lasts, countDown_of_idle idle, callsLeft?_eq_remaining?]

lemma answers_await (answers : q.Answers 1) (body : ε → α × ε) (n : Nat) :
    (q.await body).2.Answers n ↔ q.Answers (n + 1) := by
  rw [await_of_answers answers, Answers, Answers, callsLeft?]
  dsimp only
  rw [q.waiting_settle]
  cases left : q.callsLeft? with
  | none => exact ⟨nofun, nofun⟩
  | some left' =>
      have := answers left' left
      simp only [Option.map_some, List.length_nil, Option.some.injEq, forall_eq']
      omega

/-- A queue that has ended by then does not. -/
lemma await_of_not_answers (ends : ¬ q.Answers 1) (body : ε → α × ε) :
    q.await body = (.error .closed, q.settle) := by
  rw [await]
  exact if_pos (q.isClosed_settle_iff.2 ends)

/-! ## Exchanges -/

/-- What comes of an exchange with the engine that takes `calls` calls.  If all of them are answered
it brings `value` and leaves the engine as `engine`, and otherwise the queue has ended. -/
inductive Exchange (q : TaskQueue ε ρ) (calls : Nat) (value : α) (engine : ε) :
    Except EngineError α × TaskQueue ε ρ → Prop where
  | answered (queue : TaskQueue ε ρ) (lasts : q.Answers calls)
      (same : queue.settle.engine = engine) (left : ∀ n, queue.Answers n ↔ q.Answers (n + calls)) :
      Exchange q calls value engine (.ok value, queue)
  | closed (queue : TaskQueue ε ρ) (ends : ¬ q.Answers calls) (ended : ¬ queue.Answers 1) :
      Exchange q calls value engine (.error .closed, queue)

lemma exchange_await (q : TaskQueue ε ρ) (body : ε → α × ε) :
    q.Exchange 1 (body q.settle.engine).1 (body q.settle.engine).2 (q.await body) := by
  by_cases lasts : q.Answers 1
  · have left := answers_await lasts body
    rw [await_of_answers lasts] at left ⊢
    refine .answered _ lasts ?_ left
    rw [settle_of_idle]
    exact q.waiting_settle
  · rw [await_of_not_answers lasts]
    exact .closed _ lasts (q.answers_settle.not.2 lasts)

/-- A queue that has ended before an exchange has ended after it. -/
lemma Exchange.ended {calls : Nat} {value : α} {engine : ε}
    {result : Except EngineError α × TaskQueue ε ρ} (h : q.Exchange calls value engine result)
    (ended : ¬ q.Answers 1) : ¬ result.2.Answers 1 := by
  cases h with
  | answered queue lasts same left =>
      exact fun answers => ended (((left 1).1 answers).mono (Nat.le_add_right 1 calls))
  | closed queue ends ended' => exact ended'

/-- An exchange that follows another one. -/
lemma Exchange.after {queue : TaskQueue ε ρ} {before calls : Nat} {value : α} {engine : ε}
    {result : Except EngineError α × TaskQueue ε ρ} (h : queue.Exchange calls value engine result)
    (left : ∀ n, queue.Answers n ↔ q.Answers (n + before)) :
    q.Exchange (calls + before) value engine result := by
  cases h with
  | answered queue' lasts same left' =>
      refine .answered queue' ((left calls).1 lasts) same fun n => ?_
      rw [left', left, Nat.add_assoc]
  | closed queue' ends ended =>
      exact .closed queue' (fun lasts => ends ((left calls).2 lasts)) ended

end Settle

end TaskQueue

end TiledView
