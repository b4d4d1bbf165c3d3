import TiledView.Proofs.Engine.Thread

/-!
# The books of an engine thread

What a `ThreadLog` says about the queue it goes along with.  Move by move, the calls that were
replied to, the tasks that wait, and the tasks that are lost are all that was posted, in this order.

* `ThreadLog.Underway` — how far the thread has come with the oldest task, and in which state this
  leaves the engine.
* `ThreadLog.Right` — the books are right: results stand in the replies of their own tickets, and
  what was carried out is what carrying out the tasks one after the other comes to.
* `ThreadLog.exists_right` — whatever owners and the thread do, the books stay right.
-/

namespace TiledView

variable {ε ρ : Type}

namespace ThreadLog

/-! ## Replies -/

section Replies

variable {q : TaskQueue ε ρ} {ticket : Ticket}

lemma collect_of_waiting
    (reads : q.replies[ticket]? = some .waiting) : (q.collect ticket).1 = .ok none := by
  rw [TaskQueue.collect, reads]

lemma collect_of_answered {value : ρ}
    (reads : q.replies[ticket]? = some (.answered value)) :
    (q.collect ticket).1 = .ok (some value) := by
  rw [TaskQueue.collect, reads]

lemma collect_of_dropped
    (reads : q.replies[ticket]? = some .dropped) : (q.collect ticket).1 = .error .closed := by
  rw [TaskQueue.collect, reads]

end Replies

/-! ### Dropped tasks -/

section Dropped

variable {entries : List (Ticket × EngineTask ε ρ)} {replies : Array (Reply ρ)} {ticket : Ticket}

/-- Replies once some tasks are dropped. -/
def dropAll (entries : List (Ticket × EngineTask ε ρ)) (replies : Array (Reply ρ)) :
    Array (Reply ρ) :=
  entries.foldl (fun replies entry => replies.setIfInBounds entry.1 .dropped) replies

lemma dropWaiting_eq (q : TaskQueue ε ρ) :
    q.dropWaiting = { q with waiting := [], replies := dropAll q.waiting q.replies } := by
  have each (entries : List (Ticket × EngineTask ε ρ)) (q : TaskQueue ε ρ) :
      entries.foldl (fun q entry => q.setReply entry.1 .dropped) q =
        { q with replies := dropAll entries q.replies } := by
    induction entries generalizing q with
    | nil => rfl
    | cons entry entries ih => exact ih (q.setReply entry.1 .dropped)
  exact each q.waiting { q with waiting := [] }

lemma size_dropAll : (dropAll entries replies).size = replies.size := by
  induction entries generalizing replies with
  | nil => rfl
  | cons entry entries ih => exact ih.trans Array.size_setIfInBounds

lemma dropAll_of_notMem (other : ticket ∉ entries.map Prod.fst) :
    (dropAll entries replies)[ticket]? = replies[ticket]? := by
  induction entries generalizing replies with
  | nil => rfl
  | cons entry entries ih =>
      rw [List.map_cons, List.mem_cons, not_or] at other
      refine (ih other.2).trans ?_
      rw [Array.getElem?_setIfInBounds, if_neg (Ne.symm other.1)]

lemma dropAll_of_mem (mem : ticket ∈ entries.map Prod.fst) (lt : ticket < replies.size) :
    (dropAll entries replies)[ticket]? = some .dropped := by
  induction entries generalizing replies with
  | nil => cases mem
  | cons entry entries ih =>
      by_cases later : ticket ∈ entries.map Prod.fst
      · exact ih later (Array.size_setIfInBounds.symm ▸ lt)
      · obtain rfl : ticket = entry.1 := (List.mem_cons.1 mem).resolve_right later
        refine (dropAll_of_notMem later).trans ?_
        rw [Array.getElem?_setIfInBounds, if_pos rfl, if_pos lt]

end Dropped

/-! ## What the log says about the queue -/

/-- What has become of the oldest task, after the calls in `done` were replied to. -/
inductive Underway [Engine ε] (engine : ε) (l : ThreadLog ε ρ) (done : List (CarriedOut ε ρ)) :
    Prop where
  | idle (phase : l.thread.phase = .idle) (ran : l.ran = done)
      (still : l.queue.engine = engineAfter engine (done.map CarriedOut.entry))
  | taken (phase : l.thread.phase = .taken) (ran : l.ran = done) (some : l.queue.waiting ≠ [])
      (still : l.queue.engine = engineAfter engine (done.map CarriedOut.entry))
  | selected {entry : Ticket × EngineTask ε ρ} {waiting : List (Ticket × EngineTask ε ρ)}
      (phase : l.thread.phase = .selected) (ran : l.ran = done)
      (oldest : l.queue.waiting = entry :: waiting)
      (select : l.queue.engine =
        TaskQueue.select entry.2.view? (engineAfter engine (done.map CarriedOut.entry)))
  | answered {r : CarriedOut ε ρ} {waiting : List (Ticket × EngineTask ε ρ)}
      (phase : l.thread.phase = .answered r.value) (ran : l.ran = done ++ [r])
      (oldest : l.queue.waiting = r.entry :: waiting)
      (called : l.queue.engine = engineAfter engine ((done ++ [r]).map CarriedOut.entry))

/-- What owners do leaves the oldest task and the engine alone. -/
lemma Underway.mono [Engine ε] {engine : ε} {l l' : ThreadLog ε ρ} {done : List (CarriedOut ε ρ)}
    (h : l.Underway engine done) (phase : l'.thread.phase = l.thread.phase) (ran : l'.ran = l.ran)
    (same : l'.queue.engine = l.queue.engine)
    (waiting : l.queue.waiting <+: l'.queue.waiting) : l'.Underway engine done := by
  obtain ⟨more, waiting⟩ := waiting
  cases h with
  | idle idle before still =>
      exact .idle (phase.trans idle) (ran.trans before) (same.trans still)
  | taken taken before some still =>
      refine .taken (phase.trans taken) (ran.trans before) ?_ (same.trans still)
      rw [← waiting]
      exact List.append_ne_nil_of_left_ne_nil some more
  | selected selected before oldest select =>
      exact .selected (phase.trans selected) (ran.trans before)
        (waiting.symm.trans (congrArg (· ++ more) oldest)) (same.trans select)
  | answered answered before oldest called =>
      exact .answered (phase.trans answered) (ran.trans before)
        (waiting.symm.trans (congrArg (· ++ more) oldest)) (same.trans called)

/-- The calls in `done` were replied to, the tasks in `lost` never will be, and the others wait. -/
structure Books [Engine ε] (engine : ε) (l : ThreadLog ε ρ) (done : List (CarriedOut ε ρ))
    (lost : List (Ticket × EngineTask ε ρ)) : Prop where
  posted : l.posted = done.map CarriedOut.entry ++ (l.queue.waiting ++ lost)
  tickets : l.posted.map Prod.fst = List.range l.queue.replies.size
  underway : l.Underway engine done
  carried : l.ran = carryOut engine (l.ran.map CarriedOut.entry)
  /-- A result stands in the reply of its own ticket, or was fetched from there. -/
  answered : ∀ r ∈ done, l.queue.replies[r.ticket]? = some (.answered r.value) ∨
    l.queue.replies[r.ticket]? = some .collected ∧ (r.ticket, .ok (some r.value)) ∈ l.answers
  waiting : ∀ entry ∈ l.queue.waiting, l.queue.replies[entry.1]? = some .waiting
  dropped : ∀ entry ∈ lost, l.queue.replies[entry.1]? = some .dropped
  due : l.due? = l.queue.remaining?.map (done.length + ·)
  remaining : ∀ count, l.queue.remaining? = some count → count ≤ l.queue.waiting.length
  told : ∀ ticket value, (ticket, .ok (some value)) ∈ l.answers →
    ∃ r ∈ done, r.ticket = ticket ∧ r.value = value

/-- Whoever was replied to has the result to fetch, or has fetched it. -/
lemma Books.reply_eq [Engine ε] {engine : ε} {l : ThreadLog ε ρ} {done : List (CarriedOut ε ρ)}
    {lost : List (Ticket × EngineTask ε ρ)} (h : l.Books engine done lost) {r : CarriedOut ε ρ}
    (mem : r ∈ done) {reply : Reply ρ} (reads : l.queue.replies[r.ticket]? = some reply) :
    reply = .answered r.value ∨ reply = .collected := by
  rcases h.answered r mem with own | ⟨own, -⟩
  · exact .inl (Option.some.inj (reads.symm.trans own))
  · exact .inr (Option.some.inj (reads.symm.trans own))

/-- Tasks are lost when the queue closes, and not before. -/
structure Right [Engine ε] (engine : ε) (l : ThreadLog ε ρ) (done : List (CarriedOut ε ρ))
    (lost : List (Ticket × EngineTask ε ρ)) : Prop extends l.Books engine done lost where
  closed : l.queue.isClosed = true → l.queue.waiting = []
  lasting : l.queue.isClosed = false → lost = []

namespace Right

variable [Engine ε] {engine : ε} {l : ThreadLog ε ρ} {done : List (CarriedOut ε ρ)}
  {lost : List (Ticket × EngineTask ε ρ)}

lemma create (engine : ε) : (ThreadLog.create engine : ThreadLog ε ρ).Right engine [] [] where
  posted := rfl
  tickets := rfl
  underway := .idle rfl rfl rfl
  carried := rfl
  answered := nofun
  waiting := nofun
  dropped := nofun
  due := rfl
  remaining := nofun
  closed := nofun
  lasting := fun _ => rfl
  told := nofun

/-- What a ticket stands for: a call that was replied to, a task that waits, or one that is lost. -/
lemma cases_of_lt (h : l.Right engine done lost) {ticket : Ticket}
    (lt : ticket < l.queue.replies.size) :
    (∃ r ∈ done, r.ticket = ticket) ∨ (∃ entry ∈ l.queue.waiting, entry.1 = ticket) ∨
      ∃ entry ∈ lost, entry.1 = ticket := by
  have listed : ticket ∈ l.posted.map Prod.fst := by
    rw [h.tickets]
    exact List.mem_range.2 lt
  rw [h.posted, List.map_append, List.map_append, List.mem_append, List.mem_append,
    List.map_map] at listed
  rcases listed with replied | waits | never
  · exact .inl (List.mem_map.1 replied)
  · exact .inr (.inl (List.mem_map.1 waits))
  · exact .inr (.inr (List.mem_map.1 never))

/-! ### What owners do -/

lemma post (h : l.Right engine done lost) (task : EngineTask ε ρ) :
    (l.after (.post task)).Right engine done lost := by
  rw [after, TaskQueue.post]
  by_cases closed : l.queue.isClosed = true
  · rw [if_pos closed]
    exact h
  rw [if_neg closed]
  obtain rfl : lost = [] := h.lasting (by simpa using closed)
  have still {ticket : Ticket} {reply : Reply ρ} (found : l.queue.replies[ticket]? = some reply) :
      (l.queue.replies.push .waiting)[ticket]? = some reply := by
    obtain ⟨lt, -⟩ := Array.getElem?_eq_some_iff.1 found
    rw [Array.getElem?_push, if_neg (Nat.ne_of_lt lt), found]
  refine ⟨⟨?_, ?_, ?_, h.carried, ?_, ?_, nofun, h.due, ?_, h.told⟩,
    fun closes => absurd closes closed, fun _ => rfl⟩
  · show l.posted ++ _ = _ ++ (l.queue.waiting ++ _ ++ [])
    rw [h.posted, List.append_nil, List.append_nil, List.append_assoc]
  · show (l.posted ++ _).map _ = List.range (l.queue.replies.push _).size
    rw [List.map_append, h.tickets, Array.size_push, List.range_succ]
    rfl
  · exact h.underway.mono rfl rfl rfl (List.prefix_append _ _)
  · intro r mem
    exact (h.answered r mem).imp still fun told => ⟨still told.1, told.2⟩
  · intro entry mem
    rcases List.mem_append.1 mem with mem | mem
    · exact still (h.waiting entry mem)
    · obtain rfl := List.mem_singleton.1 mem
      exact Array.getElem?_push_size
  · intro count left
    refine Nat.le_trans (h.remaining count left) ?_
    show _ ≤ (l.queue.waiting ++ _).length
    simp

/-- Being told something else than a result changes nothing. -/
lemma answers (h : l.Right engine done lost) {ticket : Ticket} {answer : Except EngineError (Option ρ)}
    (other : ∀ value, answer ≠ .ok (some value)) :
    ThreadLog.Right engine { l with answers := l.answers ++ [(ticket, answer)] } done lost where
  __ := h
  underway := h.underway.mono rfl rfl rfl (List.prefix_refl _)
  answered := fun r mem => (h.answered r mem).imp_right fun told =>
    ⟨told.1, List.mem_append_left _ told.2⟩
  told := by
    intro t value mem
    rcases List.mem_append.1 mem with mem | mem
    · exact h.told t value mem
    · exact absurd (congrArg Prod.snd (List.mem_singleton.1 mem)).symm (other value)

/-- A result is fetched. -/
lemma fetch (h : l.Right engine done lost) {r : CarriedOut ε ρ} (mem : r ∈ done)
    (found : l.queue.replies[r.ticket]? = some (.answered r.value)) :
    ThreadLog.Right engine { l.setQueue (l.queue.setReply r.ticket .collected) with
      answers := l.answers ++ [(r.ticket, .ok (some r.value))] } done lost := by
  obtain ⟨lt, -⟩ := Array.getElem?_eq_some_iff.1 found
  have still {ticket : Ticket} {reply : Reply ρ} (other : reply ≠ .answered r.value)
      (reads : l.queue.replies[ticket]? = some reply) :
      (l.queue.replies.setIfInBounds r.ticket .collected)[ticket]? = some reply := by
    have ne : r.ticket ≠ ticket := by
      rintro rfl
      rw [found] at reads
      exact other (Option.some.inj reads).symm
    rw [Array.getElem?_setIfInBounds, if_neg ne, reads]
  refine ⟨⟨h.posted, ?_, ?_, h.carried, ?_, ?_, ?_, h.due, h.remaining, ?_⟩, h.closed, h.lasting⟩
  · exact h.tickets.trans (congrArg _ Array.size_setIfInBounds.symm)
  · exact h.underway.mono rfl rfl rfl (List.prefix_refl _)
  · intro other hother
    by_cases same : r.ticket = other.ticket
    · -- Two calls with one ticket have one result.
      have value : r.value = other.value :=
        (h.reply_eq hother (same ▸ found)).elim Reply.answered.inj nofun
      refine .inr ⟨?_, List.mem_append_right _ ?_⟩
      · show (l.queue.replies.setIfInBounds _ _)[_]? = _
        rw [Array.getElem?_setIfInBounds, if_pos same, if_pos lt]
      · rw [← same, ← value]
        exact List.mem_singleton_self _
    · have kept : (l.queue.replies.setIfInBounds r.ticket .collected)[other.ticket]? =
          l.queue.replies[other.ticket]? := by
        rw [Array.getElem?_setIfInBounds, if_neg same]
      exact (h.answered other hother).imp kept.trans fun told =>
        ⟨kept.trans told.1, List.mem_append_left _ told.2⟩
  · exact fun entry hentry => still nofun (h.waiting entry hentry)
  · exact fun entry hentry => still nofun (h.dropped entry hentry)
  · intro ticket value told
    rcases List.mem_append.1 told with told | told
    · exact h.told ticket value told
    · obtain ⟨rfl, same⟩ := Prod.mk.inj (List.mem_singleton.1 told)
      exact ⟨r, mem, rfl, (Option.some.inj (Except.ok.inj same)).symm⟩

lemma collect (h : l.Right engine done lost) (ticket : Ticket) :
    (l.after (.collect ticket)).Right engine done lost := by
  cases found : l.queue.replies[ticket]? with
  | none =>
      simp only [after, TaskQueue.collect, found]
      exact h.answers nofun
  | some reply =>
      simp only [after, TaskQueue.collect, found]
      cases reply with
      | waiting => exact h.answers nofun
      | answered value =>
          obtain ⟨lt, -⟩ := Array.getElem?_eq_some_iff.1 found
          -- Who is told something is told the result of its own call.
          obtain ⟨r, mem, own⟩ | ⟨entry, mem, own⟩ | ⟨entry, mem, own⟩ := h.cases_of_lt lt
          · obtain rfl := own
            obtain rfl : value = r.value :=
              (h.reply_eq mem found).elim Reply.answered.inj nofun
            exact h.fetch mem found
          · rw [← own, h.waiting entry mem] at found
            cases found
          · rw [← own, h.dropped entry mem] at found
            cases found
      | collected => exact h.answers nofun
      | dropped => exact h.answers nofun

lemma shutdown (h : l.Right engine done lost) : (l.after .shutdown).Right engine done lost := by
  cases remaining : l.queue.remaining? with
  | none =>
      obtain rfl : lost = [] := h.lasting (by simp [TaskQueue.isClosed, remaining])
      have ends : l.queue.shutdown =
          { l.queue with remaining? := some l.queue.waiting.length } := by
        rw [TaskQueue.shutdown, remaining]
      have first : l.due? = none := by rw [h.due, remaining]; rfl
      rw [after, ends, first]
      refine ⟨⟨h.posted, h.tickets, h.underway.mono rfl rfl rfl (List.prefix_refl _), h.carried,
        h.answered, h.waiting, h.dropped, ?_, ?_, h.told⟩, ?_, fun _ => rfl⟩
      · show some l.posted.length = some (done.length + l.queue.waiting.length)
        rw [h.posted, List.append_nil, List.length_append, List.length_map]
      · rintro count ⟨⟩
        exact Nat.le_refl _
      · intro closed
        exact List.length_eq_zero_iff.1 (Option.some.inj (eq_of_beq closed))
  | some count =>
      -- A second shutdown changes nothing, for what is left to be run waits already.
      have ends : l.queue.shutdown = l.queue := by
        rw [TaskQueue.shutdown, remaining]
        simp only [Nat.min_eq_left (h.remaining count remaining)]
        rw [← remaining]
      have again : l.due?.or (some l.posted.length) = l.due? := by
        rw [h.due, remaining]
        rfl
      rw [after, ends, again]
      exact h

end Right

/-! ### What the thread does -/

namespace Books

variable [Engine ε] {engine : ε} {l : ThreadLog ε ρ} {done : List (CarriedOut ε ρ)}

lemma nodup_waiting {lost : List (Ticket × EngineTask ε ρ)} (h : l.Books engine done lost) :
    (l.queue.waiting.map Prod.fst).Nodup := by
  have nodup : (l.posted.map Prod.fst).Nodup := h.tickets ▸ List.nodup_range
  rw [h.posted, List.map_append, List.map_append] at nodup
  exact nodup.of_append_right.of_append_left

/-- Who was replied to does not wait any more. -/
lemma ne_of_waiting {lost : List (Ticket × EngineTask ε ρ)} (h : l.Books engine done lost)
    {ticket : Ticket} (waits : l.queue.replies[ticket]? = some .waiting) {r : CarriedOut ε ρ}
    (mem : r ∈ done) : ticket ≠ r.ticket := by
  rintro rfl
  exact (h.reply_eq mem waits).elim nofun nofun

/-- The owner of the oldest task will find its result. -/
lemma reply (h : l.Books engine done []) {r : CarriedOut ε ρ}
    {waiting : List (Ticket × EngineTask ε ρ)} (ran : l.ran = done ++ [r])
    (oldest : l.queue.waiting = r.entry :: waiting)
    (called : l.queue.engine = engineAfter engine ((done ++ [r]).map CarriedOut.entry))
    (lasting : l.queue.isClosed = false) :
    Books engine { l with
      thread :=
        { queue := { ({ l.queue with waiting }.setReply r.ticket (.answered r.value)) with
            remaining? := l.queue.remaining?.map (· - 1) }
          phase := .idle } } (done ++ [r]) [] := by
  have waits : l.queue.replies[r.ticket]? = some .waiting :=
    h.waiting r.entry (oldest ▸ List.mem_cons_self)
  obtain ⟨lt, -⟩ := Array.getElem?_eq_some_iff.1 waits
  have still {ticket : Ticket} (other : r.ticket ≠ ticket) :
      (l.queue.replies.setIfInBounds r.ticket (.answered r.value))[ticket]? =
        l.queue.replies[ticket]? := by
    rw [Array.getElem?_setIfInBounds, if_neg other]
  refine ⟨?_, ?_, .idle rfl ran called, h.carried, ?_, ?_, nofun, ?_, ?_, ?_⟩
  · show l.posted = _ ++ (waiting ++ [])
    rw [h.posted, oldest, List.map_append, List.append_assoc]
    rfl
  · exact h.tickets.trans (congrArg _ Array.size_setIfInBounds.symm)
  · intro c mem
    rcases List.mem_append.1 mem with mem | mem
    · have kept := still (h.ne_of_waiting waits mem)
      exact (h.answered c mem).imp kept.trans fun told => ⟨kept.trans told.1, told.2⟩
    · obtain rfl := List.mem_singleton.1 mem
      refine .inl ?_
      show (l.queue.replies.setIfInBounds _ _)[_]? = _
      rw [Array.getElem?_setIfInBounds, if_pos rfl, if_pos lt]
  · intro entry mem
    have nodup : (r.ticket :: waiting.map Prod.fst).Nodup := by
      have all := h.nodup_waiting
      rw [oldest] at all
      exact all
    have other : r.ticket ≠ entry.1 := by
      intro same
      exact (List.nodup_cons.1 nodup).1 (same ▸ List.mem_map_of_mem mem)
    exact (still other).trans (h.waiting entry (oldest ▸ List.mem_cons_of_mem _ mem))
  · show l.due? = (l.queue.remaining?.map _).map _
    rw [h.due, List.length_append, List.length_singleton]
    cases remaining : l.queue.remaining? with
    | none => rfl
    | some count =>
        have left : count ≠ 0 := by
          rintro rfl
          rw [TaskQueue.isClosed, remaining] at lasting
          cases lasting
        have counted : done.length + count = done.length + 1 + (count - 1) := by omega
        exact congrArg some counted
  · intro count left
    obtain ⟨before, remaining, rfl⟩ := Option.map_eq_some_iff.1 left
    have le := h.remaining before remaining
    rw [oldest, List.length_cons] at le
    exact Nat.sub_le_of_le_add le
  · intro ticket value told
    obtain ⟨c, mem, own⟩ := h.told ticket value told
    exact ⟨c, List.mem_append_left _ mem, own⟩

/-- A queue that closes drops what waits for it. -/
lemma drop (h : l.Books engine done []) (ran : l.ran = done) (idle : l.thread.phase = .idle)
    (still : l.queue.engine = engineAfter engine (done.map CarriedOut.entry))
    (closed : l.queue.isClosed = true) :
    (l.setQueue l.queue.dropWaiting).Right engine done l.queue.waiting := by
  have other {r : CarriedOut ε ρ} (mem : r ∈ done) :
      r.ticket ∉ l.queue.waiting.map Prod.fst := by
    intro waits
    obtain ⟨entry, hentry, same⟩ := List.mem_map.1 waits
    exact h.ne_of_waiting (h.waiting entry hentry) mem same
  rw [dropWaiting_eq]
  refine ⟨⟨?_, ?_, .idle idle ran still, h.carried, ?_, nofun, ?_, h.due, ?_, h.told⟩,
    fun _ => rfl, fun lasting => ?_⟩
  · show l.posted = _ ++ ([] ++ l.queue.waiting)
    rw [h.posted, List.append_nil, List.nil_append]
  · exact h.tickets.trans (congrArg _ size_dropAll.symm)
  · intro r mem
    have kept : (dropAll l.queue.waiting l.queue.replies)[r.ticket]? =
        l.queue.replies[r.ticket]? := dropAll_of_notMem (other mem)
    exact (h.answered r mem).imp kept.trans fun told => ⟨kept.trans told.1, told.2⟩
  · intro entry mem
    obtain ⟨lt, -⟩ := Array.getElem?_eq_some_iff.1 (h.waiting entry mem)
    exact dropAll_of_mem (List.mem_map_of_mem mem) lt
  · intro count left
    rw [TaskQueue.isClosed] at closed
    have none_left : count = 0 := Option.some.inj (left.symm.trans (eq_of_beq closed))
    rw [none_left]
    exact Nat.zero_le _
  · exact absurd closed (lasting ▸ Bool.false_ne_true)

end Books

section Moves

variable [Engine ε] {engine : ε} {l : ThreadLog ε ρ} {done : List (CarriedOut ε ρ)}
  {lost : List (Ticket × EngineTask ε ρ)} {entry : Ticket × EngineTask ε ρ}
  {waiting : List (Ticket × EngineTask ε ρ)}

lemma after_proceed_of_nil (none_waits : l.queue.waiting = []) : l.after .proceed = l := by
  have none_waits : l.thread.queue.waiting = [] := none_waits
  simp [after, EngineThread.proceed, EngineThread.running?, none_waits]

lemma after_proceed_idle (oldest : l.queue.waiting = entry :: waiting)
    (phase : l.thread.phase = .idle) :
    l.after .proceed = { l with thread := { l.thread with phase := .taken } } := by
  have oldest : l.thread.queue.waiting = entry :: waiting := oldest
  simp [after, EngineThread.proceed, EngineThread.running?, oldest, phase]

lemma after_proceed_taken (oldest : l.queue.waiting = entry :: waiting)
    (phase : l.thread.phase = .taken) :
    l.after .proceed = { l with thread :=
      { queue := { l.queue with engine := TaskQueue.select entry.2.view? l.queue.engine }
        phase := .selected } } := by
  have oldest : l.thread.queue.waiting = entry :: waiting := oldest
  simp [after, queue, EngineThread.proceed, EngineThread.running?, oldest, phase]

lemma after_proceed_selected (oldest : l.queue.waiting = entry :: waiting)
    (phase : l.thread.phase = .selected) :
    l.after .proceed = { l with
      thread :=
        { queue := { l.queue with engine := (entry.2.body l.queue.engine).2 }
          phase := .answered (entry.2.body l.queue.engine).1 }
      ran := l.ran ++ [⟨entry.1, entry.2, l.queue.engine, (entry.2.body l.queue.engine).1⟩] } := by
  have oldest : l.thread.queue.waiting = entry :: waiting := oldest
  simp [after, queue, EngineThread.proceed, EngineThread.running?, oldest, phase]

lemma after_proceed_answered {value : ρ} (oldest : l.queue.waiting = entry :: waiting)
    (phase : l.thread.phase = .answered value) :
    l.after .proceed = { l with thread :=
      { queue := ({ l.queue with waiting }.setReply entry.1 (.answered value)).countDown
        phase := .idle } } := by
  have oldest : l.thread.queue.waiting = entry :: waiting := oldest
  simp [after, queue, EngineThread.proceed, EngineThread.running?, oldest, phase]

lemma Right.proceed (h : l.Right engine done lost) :
    ∃ done lost, (l.after .proceed).Right engine done lost := by
  cases waits : l.queue.waiting with
  | nil =>
      rw [after_proceed_of_nil waits]
      exact ⟨done, lost, h⟩
  | cons entry waiting =>
      have lasting : l.queue.isClosed = false := by
        refine Bool.eq_false_iff.2 fun closed => ?_
        rw [h.closed closed] at waits
        cases waits
      obtain rfl : lost = [] := h.lasting lasting
      cases h.underway with
      | idle phase ran still =>
          rw [after_proceed_idle waits phase]
          refine ⟨done, [], { h with underway := .taken rfl ran ?_ still }⟩
          exact waits ▸ List.cons_ne_nil entry waiting
      | taken phase ran some still =>
          rw [after_proceed_taken waits phase]
          exact ⟨done, [], { h with underway := .selected rfl ran waits (still ▸ rfl) }⟩
      | @selected entry waiting phase ran oldest select =>
          rw [after_proceed_selected oldest phase]
          let r : CarriedOut ε ρ :=
            ⟨entry.1, entry.2, l.queue.engine, (entry.2.body l.queue.engine).1⟩
          have result : r = carriedOut (engineAfter engine (l.ran.map CarriedOut.entry)) entry := by
            rw [carriedOut, ran, ← select]
          have called : (entry.2.body l.queue.engine).2 =
              engineAfter engine ((done ++ [r]).map CarriedOut.entry) := by
            rw [List.map_append, List.map_singleton, engineAfter_concat]
            exact congrArg (fun engine => (entry.2.body engine).2) select
          have carried : l.ran ++ [r] =
              carryOut engine ((l.ran ++ [r]).map CarriedOut.entry) := by
            rw [List.map_append, List.map_singleton, carryOut_concat, ← h.carried]
            exact congrArg (l.ran ++ [·]) result
          exact ⟨done, [], { h with
            underway := .answered (r := r) rfl (congrArg (· ++ [r]) ran) oldest called
            carried }⟩
      | @answered r waiting phase ran oldest called =>
          rw [after_proceed_answered oldest phase]
          have told := h.toBooks.reply ran oldest called lasting
          rw [TaskQueue.countDown]
          dsimp only
          split_ifs with closes
          · exact ⟨_, _, told.drop ran rfl called closes⟩
          · refine ⟨_, [], told, fun closed => absurd closed closes, fun _ => rfl⟩

/-- **Whatever owners and the thread do, the books stay right.** -/
lemma Right.after (h : l.Right engine done lost) (act : ThreadAct ε ρ) :
    ∃ done lost, (l.after act).Right engine done lost := by
  cases act with
  | post task => exact ⟨done, lost, h.post task⟩
  | collect ticket => exact ⟨done, lost, h.collect ticket⟩
  | shutdown => exact ⟨done, lost, h.shutdown⟩
  | proceed => exact h.proceed

lemma exists_right (engine : ε) (acts : List (ThreadAct ε ρ)) :
    ∃ done lost, (run engine acts).Right engine done lost := by
  refine List.foldlRecOn (motive := fun l : ThreadLog ε ρ => ∃ done lost, l.Right engine done lost)
    acts after ⟨[], [], .create engine⟩ ?_
  intro l ⟨done, lost, h⟩ act _
  exact h.after act

end Moves

end ThreadLog

end TiledView
