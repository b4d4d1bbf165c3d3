import TiledView.Proofs.Engine.Bookkeeping
import TiledView.Simulation.RecordingEngine

/-!
# Owners who share an engine

Calls of different owners never see each other's view, run once and in order, and are answered each
with its own result (`ThreadLog.Isolated`).  A thread that is left to its work comes to its end
(`ThreadLog.waiting_settle`), for every move brings it closer, so nobody waits in vain: a call is
answered, or its owner learns that the queue is closed.

`TaskQueue.await` is such a call in one step (`ThreadLog.Right.waits`).
-/

namespace TiledView

variable {ε ρ : Type}

namespace ThreadLog

/-! ## Going on -/

section GoOn

variable [Engine ε] {engine : ε} {l : ThreadLog ε ρ} {done : List (CarriedOut ε ρ)}
  {lost : List (Ticket × EngineTask ε ρ)} {moves : Nat}

/-- How many moves it takes until nothing waits, at most. -/
def toGo (l : ThreadLog ε ρ) : Nat :=
  4 * l.queue.waiting.length -
    match l.thread.phase with
    | .idle => 0
    | .taken => 1
    | .selected => 2
    | .answered _ => 3

omit [Engine ε] in
lemma length_waiting_countDown (q : TaskQueue ε ρ) :
    q.countDown.waiting.length ≤ q.waiting.length := by
  rw [TaskQueue.countDown]
  split_ifs
  · rw [dropWaiting_eq]
    exact Nat.zero_le _
  · exact Nat.le_refl _

/-- Every move brings the thread closer to the end of its work. -/
lemma toGo_after_proceed (some : l.queue.waiting ≠ []) : (l.after .proceed).toGo < l.toGo := by
  obtain ⟨entry, waiting, oldest⟩ := List.exists_cons_of_ne_nil some
  have length : l.queue.waiting.length = waiting.length + 1 := congrArg List.length oldest
  cases phase : l.thread.phase with
  | idle =>
      rw [after_proceed_idle oldest phase, toGo, toGo, phase]
      show 4 * l.queue.waiting.length - 1 < 4 * l.queue.waiting.length
      omega
  | taken =>
      rw [after_proceed_taken oldest phase, toGo, toGo, phase]
      show 4 * l.queue.waiting.length - 2 < 4 * l.queue.waiting.length - 1
      omega
  | selected =>
      rw [after_proceed_selected oldest phase, toGo, toGo, phase]
      show 4 * l.queue.waiting.length - 3 < 4 * l.queue.waiting.length - 2
      omega
  | answered value =>
      rw [after_proceed_answered oldest phase, toGo, toGo, phase]
      have le : _ ≤ waiting.length := length_waiting_countDown
        ({ l.queue with waiting }.setReply entry.1 (.answered value))
      show 4 * (TaskQueue.countDown _).waiting.length < 4 * l.queue.waiting.length - 3
      omega

lemma exists_right_goOn (h : l.Right engine done lost) (moves : Nat) :
    ∃ done lost, (l.goOn moves).Right engine done lost := by
  induction moves generalizing l done lost with
  | zero => exact ⟨done, lost, h⟩
  | succ moves ih =>
      obtain ⟨done, lost, h⟩ := h.proceed
      exact ih h

lemma waiting_goOn (enough : l.toGo ≤ moves) : (l.goOn moves).queue.waiting = [] := by
  induction moves generalizing l with
  | zero =>
      by_contra some
      exact absurd (toGo_after_proceed some) (Nat.not_lt_of_le (Nat.le_trans enough (Nat.zero_le _)))
  | succ moves ih =>
      rw [goOn]
      by_cases waits : l.queue.waiting = []
      · rw [after_proceed_of_nil waits]
        refine ih ?_
        rw [toGo, waits]
        exact Nat.le_trans (Nat.sub_le _ _) (Nat.zero_le _)
      · exact ih (Nat.le_of_lt_succ (Nat.lt_of_lt_of_le (toGo_after_proceed waits) enough))

/-- The thread leaves alone what owners do. -/
lemma goOn_eq :
    l.goOn moves = { l with thread := (l.goOn moves).thread, ran := (l.goOn moves).ran } := by
  induction moves generalizing l with
  | zero => rfl
  | succ moves ih => exact ih (l := l.after .proceed)

lemma ran_goOn : l.ran <+: (l.goOn moves).ran := by
  induction moves generalizing l with
  | zero => exact List.prefix_refl _
  | succ moves ih => exact (List.prefix_append ..).trans (ih (l := l.after .proceed))

@[simp]
lemma posted_settle : l.settle.posted = l.posted := by rw [settle, goOn_eq]

@[simp]
lemma due?_settle : l.settle.due? = l.due? := by rw [settle, goOn_eq]

@[simp]
lemma answers_settle : l.settle.answers = l.answers := by rw [settle, goOn_eq]

lemma due_settle : l.settle.due = l.due := by
  rw [due, due, posted_settle, due?_settle]

/-- What waits is replied to or dropped in the end. -/
lemma waiting_settle : l.settle.queue.waiting = [] := waiting_goOn (Nat.sub_le _ _)

/-- Once nothing waits, what was due has been carried out and the rest is lost. -/
lemma Right.due_eq (h : l.Right engine done lost) (idle : l.queue.waiting = []) :
    l.due = done.map CarriedOut.entry := by
  have posted := h.posted
  rw [idle, List.nil_append] at posted
  have count := h.due
  rw [due]
  cases remaining : l.queue.remaining? with
  | none =>
      obtain rfl : lost = [] := h.lasting (by rw [TaskQueue.isClosed, remaining]; rfl)
      rw [count, remaining, posted]
      exact List.append_nil _
  | some left =>
      have none_left : left = 0 := by
        have le := h.remaining left remaining
        rw [idle] at le
        exact Nat.le_zero.1 le
      rw [count, remaining, posted, none_left]
      exact List.take_left' (by simp)

/-- A thread for which nothing waits has replied to whatever it has carried out. -/
lemma Right.idle (h : l.Right engine done lost) (none_waits : l.queue.waiting = []) :
    l.ran = done ∧ l.queue.engine = engineAfter engine l.due := by
  rw [h.due_eq none_waits]
  cases h.underway with
  | idle phase ran still => exact ⟨ran, still⟩
  | taken phase ran some still => exact absurd none_waits some
  | selected phase ran oldest select =>
      rw [none_waits] at oldest
      cases oldest
  | answered phase ran oldest called =>
      rw [none_waits] at oldest
      cases oldest

lemma Right.isClosed_iff (h : l.Right engine done lost) (none_waits : l.queue.waiting = []) :
    l.queue.isClosed = true ↔ l.due? ≠ none := by
  rw [h.due, TaskQueue.isClosed]
  cases remaining : l.queue.remaining? with
  | none => simp
  | some left =>
      have le := h.remaining left remaining
      rw [none_waits] at le
      simp [Nat.le_zero.1 le]

/-- Calls that were replied to have tickets of their own. -/
lemma Right.eq_of_ticket (h : l.Right engine done lost) {r other : CarriedOut ε ρ}
    (mem : r ∈ done) (hother : other ∈ done) (same : r.ticket = other.ticket) : r = other := by
  have nodup : (l.posted.map Prod.fst).Nodup := h.tickets ▸ List.nodup_range
  rw [h.posted, List.map_append, List.map_map] at nodup
  exact List.inj_on_of_nodup_map nodup.of_append_left mem hother same

end GoOn

/-! ## Owners get on with each other -/

/-- What a call comes to whose owner waits: its task is posted, the thread goes on, and the result
is fetched. -/
def call [Engine ε] (l : ThreadLog ε ρ) (task : EngineTask ε ρ) :
    Except EngineError (Option ρ) :=
  match (l.queue.post task).1 with
  | .error error => .error error
  | .ok ticket => ((l.after (.post task)).settle.queue.collect ticket).1

/-- Owners do not get into each other's way. -/
structure Isolated [Engine ε] (engine : ε) (l : ThreadLog ε ρ) : Prop where
  /-- Whatever was carried out found its own view selected. -/
  ownView : ∀ r ∈ l.ran, r.value = (r.task.body r.found).1 ∧
    ∀ view, r.task.view? = some view → Engine.selectedView r.found = some view
  /-- What was posted before the shutdown is carried out once, in the order it was posted. -/
  inOrder : l.posted.map Prod.fst = List.range l.posted.length ∧
    l.ran <+: l.settle.ran ∧ l.settle.ran = carryOut engine l.due
  /-- Nobody is told the result of another task. -/
  told : ∀ ticket value, (ticket, .ok (some value)) ∈ l.answers →
    ∃ r ∈ l.ran, r.ticket = ticket ∧ r.value = value
  /-- Everybody is told the result of their task in the end, and nothing else until then. -/
  answered : ∀ r ∈ l.settle.ran, (r.ticket, .ok (some r.value)) ∈ l.answers ∨
    ((l.queue.collect r.ticket).1 = .ok none ∨
      (l.queue.collect r.ticket).1 = .ok (some r.value)) ∧
    (l.settle.queue.collect r.ticket).1 = .ok (some r.value)
  /-- A task is accepted unless the shutdown has come. -/
  accepted : ∀ task, (l.queue.post task).1 = .ok l.posted.length ∨
    l.due? ≠ none ∧ (l.queue.post task).1 = .error .closed
  /-- What is accepted after the shutdown never runs, and its owner is told so. -/
  late : ∀ count, l.due? = some count → ∀ entry ∈ l.posted.drop count,
    entry.1 ∉ l.settle.ran.map CarriedOut.ticket ∧
      (l.settle.queue.collect entry.1).1 = .error .closed
  /-- Waiting for a call is posting it, leaving the thread to its work, and fetching the result. -/
  waits : l.thread.phase = .idle → ∀ (α : Type) (tag : α → ρ) (view? : Option ViewId)
    (body : ε → α × ε),
    (l.queue.await fun engine => body (TaskQueue.select view? engine)).1.map (some <| tag ·) =
      l.call ⟨view?, fun engine => (body engine).map tag id⟩

section Isolated

variable [Engine ε] {engine : ε} {l : ThreadLog ε ρ} {done : List (CarriedOut ε ρ)}
  {lost : List (Ticket × EngineTask ε ρ)}

lemma Right.ownView (h : l.Right engine done lost)
    (selects : ∀ view (e : ε), Engine.selectedView (Engine.selectView view e) = some view) :
    ∀ r ∈ l.ran, r.value = (r.task.body r.found).1 ∧
      ∀ view, r.task.view? = some view → Engine.selectedView r.found = some view := by
  intro r mem
  rw [h.carried] at mem
  obtain ⟨before, result⟩ := exists_of_mem_carryOut mem
  rw [result]
  refine ⟨rfl, fun view own => ?_⟩
  have own : r.task.view? = some view := own
  show Engine.selectedView (TaskQueue.select r.task.view? before) = some view
  rw [own]
  exact selects view before

lemma Right.settle (h : l.Right engine done lost) :
    ∃ lost, l.settle.Right engine l.settle.ran lost ∧ l.settle.ran = carryOut engine l.due ∧
      l.settle.ran.map CarriedOut.entry = l.due := by
  obtain ⟨done, lost, settled⟩ := exists_right_goOn h (4 * l.queue.waiting.length)
  have entries := settled.due_eq waiting_settle
  obtain ⟨ran, -⟩ := settled.idle waiting_settle
  subst ran
  have due : l.settle.ran.map CarriedOut.entry = l.due := entries.symm.trans due_settle
  exact ⟨lost, settled, due ▸ settled.carried, due⟩

lemma Right.mem_ran (h : l.Right engine done lost) {r : CarriedOut ε ρ} (mem : r ∈ done) :
    r ∈ l.ran := by
  cases h.underway with
  | idle phase ran => exact ran ▸ mem
  | taken phase ran => exact ran ▸ mem
  | selected phase ran => exact ran ▸ mem
  | answered phase ran => exact ran ▸ List.mem_append_left _ mem

lemma Right.size_replies (h : l.Right engine done lost) :
    l.queue.replies.size = l.posted.length := by
  rw [← List.length_range (n := l.queue.replies.size), ← h.tickets, List.length_map]

lemma Right.answered_of_ran (h : l.Right engine done lost) {r : CarriedOut ε ρ}
    (mem : r ∈ l.settle.ran) : (r.ticket, .ok (some r.value)) ∈ l.answers ∨
      ((l.queue.collect r.ticket).1 = .ok none ∨
        (l.queue.collect r.ticket).1 = .ok (some r.value)) ∧
      (l.settle.queue.collect r.ticket).1 = .ok (some r.value) := by
  refine or_iff_not_imp_left.2 fun untold => ?_
  obtain ⟨lost', settled, -⟩ := h.settle
  have reads : l.settle.queue.replies[r.ticket]? = some (.answered r.value) := by
    refine (settled.answered r mem).resolve_right fun told => untold ?_
    rw [← answers_settle]
    exact told.2
  refine ⟨?_, collect_of_answered reads⟩
  have lt : r.ticket < l.queue.replies.size := by
    obtain ⟨lt, -⟩ := Array.getElem?_eq_some_iff.1 reads
    rwa [settled.size_replies, posted_settle, ← h.size_replies] at lt
  obtain ⟨c, hc, same⟩ | ⟨entry, hentry, same⟩ | ⟨entry, hentry, same⟩ := h.cases_of_lt lt
  · obtain rfl : c = r :=
      settled.eq_of_ticket (ran_goOn.subset (h.mem_ran hc)) mem same
    refine .inr (collect_of_answered ?_)
    exact (h.answered c hc).resolve_right fun told => untold told.2
  · exact .inl (collect_of_waiting (same ▸ h.waiting entry hentry))
  · -- Tasks are lost only once nothing waits, and then the thread does nothing any more.
    have closed : l.queue.isClosed = true := by
      by_contra lasting
      rw [h.lasting (Bool.eq_false_iff.2 lasting)] at hentry
      cases hentry
    have ended : l.settle = l := by
      rw [ThreadLog.settle, h.closed closed]
      rfl
    rw [ended, ← same, h.dropped entry hentry] at reads
    cases reads

lemma Right.lt_of_mem (h : l.Right engine done lost) {r : CarriedOut ε ρ} (mem : r ∈ done) :
    r.ticket < l.posted.length := by
  rw [← h.size_replies]
  rcases h.answered r mem with reads | ⟨reads, -⟩
  · exact (Array.getElem?_eq_some_iff.1 reads).1
  · exact (Array.getElem?_eq_some_iff.1 reads).1

lemma Right.due_le (h : l.Right engine done lost) {count : Nat} (ends : l.due? = some count) :
    count ≤ l.posted.length := by
  obtain ⟨left, remaining, rfl⟩ := Option.map_eq_some_iff.1 (h.due.symm.trans ends)
  rw [h.posted, List.length_append, List.length_map, List.length_append]
  have le := h.remaining left remaining
  omega

lemma Right.accepted (h : l.Right engine done lost) (task : EngineTask ε ρ) :
    (l.queue.post task).1 = .ok l.posted.length ∨
      l.due? ≠ none ∧ (l.queue.post task).1 = .error .closed := by
  rw [TaskQueue.post]
  split_ifs with closed
  · exact .inr ⟨(h.isClosed_iff (h.closed closed)).1 closed, rfl⟩
  · exact .inl (congrArg _ h.size_replies)

lemma Right.late (h : l.Right engine done lost) {count : Nat} (ends : l.due? = some count)
    {entry : Ticket × EngineTask ε ρ} (mem : entry ∈ l.posted.drop count) :
    entry.1 ∉ l.settle.ran.map CarriedOut.ticket ∧
      (l.settle.queue.collect entry.1).1 = .error .closed := by
  obtain ⟨lost', settled, -, ran⟩ := h.settle
  have lost : l.posted.drop count = lost' := by
    have posted := settled.posted
    rw [waiting_settle, List.nil_append, ran, due, ends, posted_settle] at posted
    exact List.append_cancel_left ((List.take_append_drop count l.posted).trans posted)
  have dropped := settled.dropped entry (lost ▸ mem)
  refine ⟨fun runs => ?_, collect_of_dropped dropped⟩
  obtain ⟨r, hr, same⟩ := List.mem_map.1 runs
  have reads : l.settle.queue.replies[r.ticket]? = some .dropped := same ▸ dropped
  exact (settled.reply_eq hr reads).elim nofun nofun

lemma thread_goOn (idle : l.thread.phase = .idle) (count : Nat) :
    (l.goOn (4 * count)).thread = ⟨l.queue.advance count, .idle⟩ := by
  induction count generalizing l with
  | zero =>
      rw [← idle]
      rfl
  | succ count ih =>
      let next := (((l.after .proceed).after .proceed).after .proceed).after .proceed
      have step : next.thread = ⟨l.queue.step, .idle⟩ := by
        rw [← EngineThread.proceed_four, ← idle]
        rfl
      have rest : (next.goOn (4 * count)).thread = ⟨next.queue.advance count, .idle⟩ :=
        ih (congrArg EngineThread.phase step)
      rwa [queue, step] at rest

lemma after_post {task : EngineTask ε ρ} {ticket : Ticket}
    (accepted : (l.queue.post task).1 = .ok ticket) :
    (l.after (.post task)).posted = l.posted ++ [(ticket, task)] ∧
      (l.after (.post task)).due? = l.due? ∧ (l.after (.post task)).answers = l.answers := by
  rw [ThreadLog.after]
  split
  · next other queue posted =>
    rw [posted] at accepted
    obtain rfl := Except.ok.inj accepted
    exact ⟨rfl, rfl, rfl⟩
  · next error queue refused =>
    rw [refused] at accepted
    cases accepted

lemma Right.call_of_due (h : l.Right engine done lost) (lasts : l.due? = none)
    (task : EngineTask ε ρ) : l.call task =
      .ok (some (carriedOut (engineAfter engine l.posted) (l.posted.length, task)).value) := by
  have accepted : (l.queue.post task).1 = .ok l.posted.length :=
    (h.accepted task).resolve_right fun refused => refused.1 lasts
  obtain ⟨posted, due, answers⟩ := after_post accepted
  have last : (l.after (.post task)).settle.ran = carryOut engine l.posted ++
      [carriedOut (engineAfter engine l.posted) (l.posted.length, task)] := by
    obtain ⟨-, -, ran, -⟩ := (h.post task).settle
    rw [ran, ThreadLog.due, due, lasts, posted, carryOut_concat]
  have mem := last ▸ List.mem_concat_self
  rw [call, accepted]
  refine ((h.post task).answered_of_ran mem).elim (fun told => ?_) And.right
  -- Nobody was told anything about a ticket that had not been given out.
  obtain ⟨r, hr, own, -⟩ := h.told _ _ (answers ▸ told)
  exact absurd own (Nat.ne_of_lt (h.lt_of_mem hr))

lemma Right.call_of_late (h : l.Right engine done lost) {count : Nat}
    (ends : l.due? = some count) (task : EngineTask ε ρ) : l.call task = .error .closed := by
  rw [call]
  rcases h.accepted task with accepted | ⟨-, refused⟩
  · obtain ⟨posted, due, -⟩ := after_post accepted
    have mem : (l.posted.length, task) ∈ (l.after (.post task)).posted.drop count := by
      rw [posted, List.drop_append_of_le_length (h.due_le ends)]
      exact List.mem_concat_self
    rw [accepted]
    exact ((h.post task).late (due.trans ends) mem).2
  · rw [refused]

/-- **Waiting for a call is posting it, leaving the thread to its work and fetching the result.** -/
lemma Right.waits (h : l.Right engine done lost) (idle : l.thread.phase = .idle) {α : Type}
    (tag : α → ρ) (view? : Option ViewId) (body : ε → α × ε) :
    (l.queue.await fun engine => body (TaskQueue.select view? engine)).1.map (some <| tag ·) =
      l.call ⟨view?, fun engine => (body engine).map tag id⟩ := by
  obtain ⟨lost', settled, -⟩ := h.settle
  have queue : l.queue.settle = l.settle.queue :=
    (congrArg EngineThread.queue (thread_goOn idle _)).symm
  have closed := settled.isClosed_iff waiting_settle
  obtain ⟨-, still⟩ := settled.idle waiting_settle
  rw [due?_settle] at closed
  rw [due_settle] at still
  rw [TaskQueue.await, queue]
  cases ends : l.due? with
  | none =>
      rw [h.call_of_due ends, if_neg (mt closed.1 (not_not_intro ends)), still, due, ends]
      rfl
  | some count =>
      rw [h.call_of_late ends, if_pos (closed.2 (ends ▸ Option.some_ne_none count))]
      rfl

lemma Right.isolated_of_selects (h : l.Right engine done lost)
    (selects : ∀ view (e : ε), Engine.selectedView (Engine.selectView view e) = some view) :
    l.Isolated engine where
  ownView := h.ownView selects
  inOrder := by
    obtain ⟨-, -, ran, -⟩ := h.settle
    exact ⟨h.size_replies ▸ h.tickets, ran_goOn, ran⟩
  told := by
    intro ticket value told
    obtain ⟨r, mem, own⟩ := h.told ticket value told
    exact ⟨r, h.mem_ran mem, own⟩
  answered := fun r mem => h.answered_of_ran mem
  accepted := h.accepted
  late := fun count ends entry mem => h.late ends mem
  waits := fun idle α tag view? body => h.waits idle tag view? body

/-- **Owners who share an engine do not get into each other's way**, in whatever order they and the
thread take their turns and whenever the queue is shut down. -/
theorem isolated
    (selects : ∀ view (e : ε), Engine.selectedView (Engine.selectView view e) = some view)
    (engine : ε) (acts : List (ThreadAct ε ρ)) : (run engine acts).Isolated engine := by
  obtain ⟨done, lost, h⟩ := exists_right engine acts
  exact h.isolated_of_selects selects

/-- Two owners take turns with the thread.  A shutdown comes when the task of the first is under
way and that of the second waits; what is posted after it is lost. -/
theorem isolated_twoOwners :
    (∀ view (e : Simulation.RecordingEngine),
      Engine.selectedView (Engine.selectView view e) = some view) ∧
    let engine : Simulation.RecordingEngine := .create .text 1 ⟨60, 30⟩ "" false
    let look (view : ViewId) : EngineTask Simulation.RecordingEngine (Option ViewId) :=
      ⟨some view, fun e => (Engine.selectedView e, e)⟩
    let l := run engine [.post (look 0), .proceed, .post (look 1), .proceed, .shutdown, .proceed,
      .post (look 1), .proceed, .collect 1, .proceed, .proceed, .proceed, .proceed, .collect 1,
      .collect 0, .collect 2]
    l.Isolated engine ∧ l.due? = some 2 ∧ l.posted.map Prod.fst = [0, 1, 2] ∧
      l.ran.map (fun r => (r.ticket, r.value)) = [(0, some 0), (1, some 1)] ∧
      l.answers = [(1, .ok none), (1, .ok (some (some 1))), (0, .ok (some (some 0))),
        (2, .error .closed)] :=
  ⟨fun _ _ => rfl, isolated (fun _ _ => rfl) _ _, rfl, rfl, rfl, rfl⟩

end Isolated

end ThreadLog

end TiledView
