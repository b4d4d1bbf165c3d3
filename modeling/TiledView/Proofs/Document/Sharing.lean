import Mathlib.Data.List.Infix
import TiledView.Proofs.Engine.Views

/-!
# Sessions that share an engine

Any number of sessions may share the queue of one engine, and attach, detach and reload in any
order.  A session that attaches to the view that is selected may adopt one that another session
holds, and nobody keeps count: whoever detaches first has the view closed.  Nor does anybody check
that the view which an engine says is selected still exists.

* `SharedDocument` — an engine with its sessions; `SharedDocument.closed` records which views it was
  told to close.
* `SharedDocument.Effect` — what a call comes to, while the queue lasts.
* `SharedDocument.IsNamed` — every view that is held was given out.  This is so in any run, and
  hence the only way to hold a view that another session holds is to adopt it
  (`SharedDocument.adopts_of_shared`).
* `SharedDocument.alive_iff` — the views of all attached sessions exist at all times exactly if no
  session detaches while another one holds its view, and none adopts a view that does not exist.
  Then no view is closed twice.
* `SharedDocument.spares_of_first` — this is so if a session attaches to the selected view only
  while no other session is attached and that view exists, as the first session of a document does.
-/

namespace TiledView

/-- Names one of the sessions that share an engine. -/
abbrev SessionId := Nat

/-- An engine with the sessions that share it. -/
structure SharedDocument (ε ρ : Type) where
  queue : TaskQueue ε ρ
  sessions : SessionId → Session
  /-- The views that the engine was told to close, oldest first. -/
  closed : List ViewId

namespace SharedDocument

variable {ε ρ : Type} [Engine ε] {keeping : ViewKeeping ε} {d : SharedDocument ε ρ} {engine : ε}

/-! ## Calls -/

/-- What a session may be asked for. -/
inductive Call where
  | attach (id : SessionId) (choice : ViewChoice)
  | detach (id : SessionId)
  | reload (id : SessionId)
  deriving DecidableEq

/-- The sessions and their engine after a call. -/
def after (d : SharedDocument ε ρ) : Call → SharedDocument ε ρ
  | .attach id choice =>
    let (_, session, queue) := (d.sessions id).attach choice d.queue
    { d with queue, sessions := Function.update d.sessions id session }
  | .detach id =>
    let (_, session, queue) := (d.sessions id).detach d.queue
    { queue
      sessions := Function.update d.sessions id session
      closed := d.closed ++ ((d.sessions id).closing? d.queue.engine).toList }
  | .reload id =>
    let (_, session, queue) := (d.sessions id).reload d.queue
    { d with queue, sessions := Function.update d.sessions id session }

/-- An engine without sessions that have a view. -/
def start (engine : ε) : SharedDocument ε ρ := ⟨.start engine, fun _ => .initial, []⟩

/-- The sessions and their engine after some calls, one after the other. -/
def run (engine : ε) (calls : List Call) : SharedDocument ε ρ := calls.foldl after (start engine)

lemma run_concat (engine : ε) (calls : List Call) (call : Call) :
    (run engine (calls ++ [call]) : SharedDocument ε ρ) = (run engine calls).after call := by
  rw [run, List.foldl_append]
  rfl

/-- The view that a session holds. -/
def view? (d : SharedDocument ε ρ) (id : SessionId) : Option ViewId := (d.sessions id).view?

/-- The views of all attached sessions exist. -/
def Alive (keeping : ViewKeeping ε) (d : SharedDocument ε ρ) : Prop :=
  ∀ id view, d.view? id = some view → view ∈ keeping.views d.queue.engine

/-- A call that detaches a session from a view which another session holds. -/
def Takes (d : SharedDocument ε ρ) : Call → Prop
  | .detach id => ∃ other view, other ≠ id ∧ d.view? id = some view ∧ d.view? other = some view
  | _ => False

/-- A call by which session `id` adopts the view that is selected. -/
def Adopts (d : SharedDocument ε ρ) (call : Call) (id : SessionId) (view : ViewId) : Prop :=
  call = .attach id .selected ∧ d.view? id = none ∧
    Engine.selectedView d.queue.engine = some view

/-- A call by which a session adopts a view that does not exist. -/
def Dangles (keeping : ViewKeeping ε) (d : SharedDocument ε ρ) (call : Call) : Prop :=
  ∃ id view, d.Adopts call id view ∧ view ∉ keeping.views d.queue.engine

/-- No call of a run leaves a session without its view: none takes the view of another session away,
and none has a session adopt a view that does not exist. -/
def Spares (ρ : Type) (keeping : ViewKeeping ε) (engine : ε) (calls : List Call) : Prop :=
  ∀ earlier call, earlier ++ [call] <+: calls →
    let d : SharedDocument ε ρ := run engine earlier
    ¬ d.Takes call ∧ ¬ d.Dangles keeping call

/-! ## What every call keeps -/

/-- The books of the engine are in order, and the views that are held were given out. -/
structure Named (keeping : ViewKeeping ε) (queue : TaskQueue ε ρ)
    (held : SessionId → Option ViewId) : Prop where
  live : queue.Live
  sound : keeping.Sound queue.engine
  issued : ∀ id view, held id = some view → keeping.issued queue.engine view

namespace Named

variable {queue : TaskQueue ε ρ} {held : SessionId → Option ViewId} {view : ViewId}

/-- Selecting a view that was given out. -/
lemma select (h : Named keeping queue held) (issued : keeping.issued queue.engine view) :
    Named keeping { queue with engine := Engine.selectView view queue.engine } held where
  live := h.live.with_engine _
  sound := keeping.sound_select h.sound issued
  issued := by
    dsimp only
    rw [keeping.issued_select]
    exact h.issued

/-- Opening a view. -/
lemma openView (h : Named keeping queue held) :
    Named keeping { queue with engine := (Engine.openView queue.engine).2 } held where
  live := h.live.with_engine _
  sound := keeping.sound_open h.sound
  issued id view holds := (keeping.issued_open h.sound).2 (.inl (h.issued id view holds))

/-- A view that a session obtains has been given out. -/
lemma obtained (h : Named keeping queue held) (choice : ViewChoice) :
    Named keeping { queue with engine := (Session.obtained choice queue.engine).2 } held ∧
      keeping.issued (Session.obtained choice queue.engine).2
        (Session.obtained choice queue.engine).1 := by
  have opened := And.intro h.openView ((keeping.issued_open h.sound).2 (.inr rfl))
  cases choice with
  | new => exact opened
  | selected =>
      simp only [Session.obtained]
      split
      · next selected => exact ⟨h, keeping.issued_of_selected h.sound selected⟩
      · exact opened

/-- A session comes to hold a view that was given out. -/
lemma hold (h : Named keeping queue held) (id : SessionId)
    (issued : keeping.issued queue.engine view) :
    Named keeping queue (Function.update held id (some view)) where
  live := h.live
  sound := h.sound
  issued other view' holds := by
    rw [Function.update_apply] at holds
    split_ifs at holds
    · cases holds
      exact issued
    · exact h.issued other view' holds

/-- A session gives its view up. -/
lemma release (h : Named keeping queue held) (id : SessionId) :
    Named keeping queue (Function.update held id none) where
  live := h.live
  sound := h.sound
  issued other view' holds := by
    rw [Function.update_apply] at holds
    split_ifs at holds
    exact h.issued other view' holds

/-- Closing a view that was given out. -/
lemma closeView (h : Named keeping queue held) (issued : keeping.issued queue.engine view) :
    Named keeping { queue with engine := Engine.closeView view queue.engine } held where
  live := h.live.with_engine _
  sound := keeping.sound_close h.sound issued
  issued := by
    dsimp only
    rw [keeping.issued_close]
    exact h.issued

end Named

/-! ## What a call keeps that spares all views -/

/-- The views that are held exist, and the views that were closed were closed once and are gone. -/
structure Kept (keeping : ViewKeeping ε) (queue : TaskQueue ε ρ)
    (held : SessionId → Option ViewId) (closed : List ViewId) : Prop
    extends Named keeping queue held where
  alive : ∀ id view, held id = some view → view ∈ keeping.views queue.engine
  once : closed.Nodup
  gone : ∀ view ∈ closed,
    keeping.issued queue.engine view ∧ view ∉ keeping.views queue.engine

namespace Kept

variable {queue : TaskQueue ε ρ} {held : SessionId → Option ViewId} {closed : List ViewId}
  {view : ViewId}

/-- Selecting a view that was given out. -/
lemma select (h : Kept keeping queue held closed) (issued : keeping.issued queue.engine view) :
    Kept keeping { queue with engine := Engine.selectView view queue.engine } held closed where
  toNamed := h.toNamed.select issued
  alive := by
    dsimp only
    rw [keeping.views_select]
    exact h.alive
  once := h.once
  gone := by
    dsimp only
    rw [keeping.views_select, keeping.issued_select]
    exact h.gone

/-- Opening a view, which is none of those that were closed. -/
lemma openView (h : Kept keeping queue held closed) :
    Kept keeping { queue with engine := (Engine.openView queue.engine).2 } held closed where
  toNamed := h.toNamed.openView
  alive id view holds := (keeping.mem_open h.sound).2 (.inl (h.alive id view holds))
  once := h.once
  gone view mem := by
    obtain ⟨issued, absent⟩ := h.gone view mem
    refine ⟨(keeping.issued_open h.sound).2 (.inl issued), fun present => ?_⟩
    rcases (keeping.mem_open h.sound).1 present with old | rfl
    · exact absent old
    · exact keeping.fresh h.sound issued

/-- A view that a session obtains exists from then on, unless it is selected and does not exist. -/
lemma obtained (h : Kept keeping queue held closed) (choice : ViewChoice)
    (exists_selected : choice = .selected → ∀ view,
      Engine.selectedView queue.engine = some view → view ∈ keeping.views queue.engine) :
    Kept keeping { queue with engine := (Session.obtained choice queue.engine).2 } held closed ∧
      (Session.obtained choice queue.engine).1 ∈
        keeping.views (Session.obtained choice queue.engine).2 := by
  have opened := And.intro h.openView ((keeping.mem_open h.sound).2 (.inr rfl))
  cases choice with
  | new => exact opened
  | selected =>
      simp only [Session.obtained]
      split
      · next selected => exact ⟨h, exists_selected rfl _ selected⟩
      · exact opened

/-- A session comes to hold a view that exists. -/
lemma hold (h : Kept keeping queue held closed) (id : SessionId)
    (mem : view ∈ keeping.views queue.engine) :
    Kept keeping queue (Function.update held id (some view)) closed where
  toNamed := h.toNamed.hold id (keeping.issued_of_mem h.sound mem)
  alive other view' holds := by
    rw [Function.update_apply] at holds
    split_ifs at holds
    · cases holds
      exact mem
    · exact h.alive other view' holds
  once := h.once
  gone := h.gone

/-- Closing a view that nobody holds any more. -/
lemma closeView (h : Kept keeping queue held closed) {id : SessionId} (holds : held id = some view)
    (alone : ∀ other, other ≠ id → held other ≠ some view) :
    Kept keeping { queue with engine := Engine.closeView view queue.engine }
      (Function.update held id none) (closed ++ [view]) where
  toNamed := (h.toNamed.closeView (h.issued id view holds)).release id
  alive other view' holds' := by
    rw [Function.update_apply] at holds'
    split_ifs at holds' with same
    refine (keeping.mem_close h.sound).2 ⟨h.alive other view' holds', ?_⟩
    rintro rfl
    exact alone other same holds'
  once := by
    refine List.nodup_append.2 ⟨h.once, List.nodup_singleton _, ?_⟩
    rintro other mem _ new rfl
    rw [List.mem_singleton.1 new] at mem
    exact (h.gone view mem).2 (h.alive id view holds)
  gone other mem := by
    rw [keeping.issued_close, keeping.mem_close h.sound]
    rcases List.mem_append.1 mem with old | new
    · exact ⟨(h.gone other old).1, fun present => (h.gone other old).2 present.1⟩
    · rw [List.mem_singleton.1 new]
      exact ⟨h.issued id view holds, fun still => still.2 rfl⟩

end Kept

/-! ## Calls, one by one -/

/-- `Named` of everything that a shared document consists of. -/
abbrev IsNamed (keeping : ViewKeeping ε) (d : SharedDocument ε ρ) : Prop :=
  Named keeping d.queue d.view?

/-- `Kept` of everything that a shared document consists of. -/
abbrev IsKept (keeping : ViewKeeping ε) (d : SharedDocument ε ρ) : Prop :=
  Kept keeping d.queue d.view? d.closed

omit [Engine ε] in
lemma view?_update (d : SharedDocument ε ρ) (queue : TaskQueue ε ρ) (id : SessionId)
    (session : Session) (closed : List ViewId) :
    view? ⟨queue, Function.update d.sessions id session, closed⟩ =
      Function.update d.view? id session.view? := by
  funext other
  show (Function.update d.sessions id session other).view? = _
  rw [Function.update_apply, Function.update_apply]
  split_ifs <;> rfl

/-- The view that a session holds after it was asked to attach, if it did not hold one before. -/
lemma after_attach (live : d.queue.Live) {id : SessionId} (detached : d.view? id = none)
    (choice : ViewChoice) :
    (d.after (.attach id choice)).view? =
        Function.update d.view? id (some (Session.obtained choice d.queue.engine).1) ∧
      (d.after (.attach id choice)).queue =
        { d.queue with
          engine := Engine.selectView (Session.obtained choice d.queue.engine).1
            (Session.obtained choice d.queue.engine).2 } ∧
      (d.after (.attach id choice)).closed = d.closed := by
  obtain ⟨view, queue⟩ := Session.attach_of_live live detached choice
  refine ⟨?_, queue, rfl⟩
  rw [← view]
  exact d.view?_update _ id _ _

lemma after_attach_of_attached {id : SessionId} {view : ViewId} (attached : d.view? id = some view)
    (choice : ViewChoice) : d.after (.attach id choice) = d := by
  have same : (d.sessions id).attach choice d.queue = (.ok view, d.sessions id, d.queue) := by
    rw [Session.attach, show (d.sessions id).view? = some view from attached]
  rw [after, same]
  dsimp only
  rw [Function.update_eq_self]

/-- A session that gives up a view has it closed, if the engine still counts any. -/
lemma after_detach (live : d.queue.Live) {id : SessionId} {view : ViewId}
    (attached : d.view? id = some view) :
    (d.after (.detach id)).view? = Function.update d.view? id none ∧
      if 0 < Engine.viewCount d.queue.engine then
        (d.after (.detach id)).queue =
            { d.queue with engine := Engine.closeView view d.queue.engine } ∧
          (d.after (.detach id)).closed = d.closed ++ [view]
      else
        (d.after (.detach id)).queue = d.queue ∧ (d.after (.detach id)).closed = d.closed := by
  obtain ⟨none, queue⟩ := Session.detach_of_live (s := d.sessions id) live
  have moved := d.view?_update ((d.sessions id).detach d.queue).2.2 id
    ((d.sessions id).detach d.queue).2.1
    (d.closed ++ ((d.sessions id).closing? d.queue.engine).toList)
  rw [none] at moved
  refine ⟨moved, ?_⟩
  have closing : (d.sessions id).closing? d.queue.engine =
      if 0 < Engine.viewCount d.queue.engine then some view else Option.none := by
    rw [Session.closing?, show (d.sessions id).view? = some view from attached, Option.filter_some]
    simp only [decide_eq_true_eq]
  rw [closing] at queue
  split_ifs at closing queue ⊢
  · refine ⟨queue, ?_⟩
    rw [after, closing]
    rfl
  · refine ⟨queue, ?_⟩
    rw [after, closing]
    exact List.append_nil _

/-- The engine counts a view that exists. -/
lemma IsKept.counted (h : d.IsKept keeping) {id : SessionId} {view : ViewId}
    (attached : d.view? id = some view) : 0 < Engine.viewCount d.queue.engine := by
  rw [keeping.viewCount_eq h.sound]
  exact List.length_pos_of_mem (h.alive id view attached)

lemma after_detach_of_detached {id : SessionId} (detached : d.view? id = none) :
    d.after (.detach id) = d := by
  have none : (d.sessions id).view? = none := detached
  have same : (d.sessions id).detach d.queue = (.ok (), d.sessions id, d.queue) := by
    rw [Session.detach, none]
  rw [after, same, Session.closing?, none]
  dsimp only
  rw [Function.update_eq_self, Option.filter_none, Option.toList_none, List.append_nil]

lemma after_reload (live : d.queue.Live) {id : SessionId} {view : ViewId}
    (attached : d.view? id = some view) :
    (d.after (.reload id)).view? = d.view? ∧
      (d.after (.reload id)).queue =
        { d.queue with engine := Engine.selectView view d.queue.engine } ∧
      (d.after (.reload id)).closed = d.closed := by
  obtain ⟨⟨-, kept⟩, queue⟩ := Session.reload_of_live (s := d.sessions id) live attached
  have moved := d.view?_update ((d.sessions id).reload d.queue).2.2 id
    ((d.sessions id).reload d.queue).2.1 d.closed
  rw [kept, ← attached, Function.update_eq_self] at moved
  exact ⟨moved, queue, rfl⟩

lemma after_reload_of_detached {id : SessionId} (detached : d.view? id = none) :
    d.after (.reload id) = d := by
  have same : (d.sessions id).reload d.queue = (.error .notAttached, d.sessions id, d.queue) := by
    rw [Session.reload, show (d.sessions id).view? = none from detached]
  rw [after, same]
  dsimp only
  rw [Function.update_eq_self]

/-- What a call comes to while the queue lasts: the queue, the views that are held and the views
that have been closed. -/
inductive Effect (d : SharedDocument ε ρ) :
    Call → TaskQueue ε ρ → (SessionId → Option ViewId) → List ViewId → Prop where
  /-- A session that has a view already, or has none to give up or to read. -/
  | idle (call : Call) : Effect d call d.queue d.view? d.closed
  | attach (id : SessionId) (choice : ViewChoice) (detached : d.view? id = none) :
      Effect d (.attach id choice)
        { d.queue with
          engine := Engine.selectView (Session.obtained choice d.queue.engine).1
            (Session.obtained choice d.queue.engine).2 }
        (Function.update d.view? id (some (Session.obtained choice d.queue.engine).1)) d.closed
  | close (id : SessionId) (view : ViewId) (attached : d.view? id = some view) :
      Effect d (.detach id) { d.queue with engine := Engine.closeView view d.queue.engine }
        (Function.update d.view? id none) (d.closed ++ [view])
  /-- The engine counts no views any more, so it is not told. -/
  | leave (id : SessionId) (view : ViewId) (attached : d.view? id = some view)
      (uncounted : ¬ 0 < Engine.viewCount d.queue.engine) :
      Effect d (.detach id) d.queue (Function.update d.view? id none) d.closed
  | reload (id : SessionId) (view : ViewId) (attached : d.view? id = some view) :
      Effect d (.reload id) { d.queue with engine := Engine.selectView view d.queue.engine }
        d.view? d.closed

lemma effect (live : d.queue.Live) (call : Call) :
    d.Effect call (d.after call).queue (d.after call).view? (d.after call).closed := by
  cases call with
  | attach id choice =>
      cases held : d.view? id with
      | none =>
          obtain ⟨holds, queue, closed⟩ := after_attach live held choice
          rw [holds, queue, closed]
          exact .attach id choice held
      | some view =>
          rw [after_attach_of_attached held]
          exact .idle _
  | detach id =>
      cases held : d.view? id with
      | none =>
          rw [after_detach_of_detached held]
          exact .idle _
      | some view =>
          obtain ⟨none, queue⟩ := after_detach live held
          split_ifs at queue with counted <;> rw [none, queue.1, queue.2]
          · exact .close id view held
          · exact .leave id view held counted
  | reload id =>
      cases held : d.view? id with
      | none =>
          rw [after_reload_of_detached held]
          exact .idle _
      | some view =>
          obtain ⟨same, queue, closed⟩ := after_reload live held
          rw [same, queue, closed]
          exact .reload id view held

/-- **Every call leaves all views that are held given out.** -/
theorem IsNamed.after (h : d.IsNamed keeping) (call : Call) : (d.after call).IsNamed keeping := by
  have effect := effect h.live call
  rw [IsNamed]
  generalize (d.after call).queue = queue, (d.after call).view? = held,
    (d.after call).closed = closed at effect ⊢
  cases effect with
  | idle => exact h
  | attach id choice detached =>
      obtain ⟨named, issued⟩ := h.obtained choice
      refine (named.select issued).hold id ?_
      dsimp only
      rwa [keeping.issued_select]
  | close id view attached => exact (h.closeView (h.issued id view attached)).release id
  | leave id => exact h.release id
  | reload id view attached => exact h.select (h.issued id view attached)

/-- **A call keeps everything in order** that leaves no session without its view. -/
theorem IsKept.after (h : d.IsKept keeping) {call : Call} (spares : ¬ d.Takes call)
    (sees : ¬ d.Dangles keeping call) : (d.after call).IsKept keeping := by
  have effect := effect h.live call
  rw [IsKept]
  generalize (d.after call).queue = queue, (d.after call).view? = held,
    (d.after call).closed = closed at effect ⊢
  cases effect with
  | idle => exact h
  | attach id choice detached =>
      obtain ⟨kept, mem⟩ := h.obtained choice fun chosen view selected => by
        subst chosen
        exact not_not.1 fun absent => sees ⟨id, view, ⟨rfl, detached, selected⟩, absent⟩
      refine (kept.select (keeping.issued_of_mem kept.sound mem)).hold id ?_
      dsimp only
      rwa [keeping.views_select]
  | close id view attached =>
      exact h.closeView attached fun other apart same => spares ⟨other, view, apart, attached, same⟩
  | leave id view attached uncounted => exact absurd (h.counted attached) uncounted
  | reload id view attached => exact h.select (h.issued id view attached)

/-- A session whose view was taken away is left with one that does not exist. -/
lemma not_alive_of_takes (h : d.IsKept keeping) {call : Call} (takes : d.Takes call) :
    ¬ (d.after call).Alive keeping := by
  cases call with
  | attach | reload => exact absurd takes id
  | detach id =>
      obtain ⟨other, view, apart, held, same⟩ := takes
      obtain ⟨none, detached⟩ := after_detach h.live held
      rw [if_pos (h.counted held)] at detached
      intro alive
      have present := alive other view (by rw [none, Function.update_of_ne apart, same])
      rw [detached.1] at present
      exact ((keeping.mem_close h.sound).1 present).2 rfl

/-- And so is one that has adopted such a view. -/
lemma not_alive_of_dangles (live : d.queue.Live) {call : Call} (dangles : d.Dangles keeping call) :
    ¬ (d.after call).Alive keeping := by
  obtain ⟨id, view, ⟨rfl, held, selected⟩, absent⟩ := dangles
  obtain ⟨holds, queue, -⟩ := after_attach live held .selected
  have adopted : Session.obtained .selected d.queue.engine = (view, d.queue.engine) := by
    rw [Session.obtained, selected]
  rw [adopted] at holds queue
  intro alive
  have present := alive id view (by rw [holds, Function.update_self])
  rw [queue, keeping.views_select] at present
  exact absent present

/-! ## Who shares a view -/

/-- What a session obtains without adopting it, nobody holds. -/
lemma not_held_of_not_adopts (h : d.IsNamed keeping) {id : SessionId}
    (detached : d.view? id = none) (choice : ViewChoice) {view : ViewId}
    (obtained : (Session.obtained choice d.queue.engine).1 = view)
    (opened : ¬ d.Adopts (.attach id choice) id view) (other : SessionId) :
    d.view? other ≠ some view := by
  intro held
  have fresh : (Engine.openView d.queue.engine).1 ≠ view := by
    rintro rfl
    exact keeping.fresh h.sound (h.issued other _ held)
  cases choice with
  | new => exact fresh obtained
  | selected =>
      simp only [Session.obtained] at obtained
      split at obtained
      · next selected => exact opened ⟨rfl, detached, obtained ▸ selected⟩
      · exact fresh obtained

/-- **Two sessions come to hold one view only if one of them adopts it.** -/
theorem adopts_of_shared (h : d.IsNamed keeping) {call : Call} {id other : SessionId}
    {view : ViewId} (apart : id ≠ other) (hid : (d.after call).view? id = some view)
    (hother : (d.after call).view? other = some view) :
    (d.view? id = some view ∧ d.view? other = some view) ∨
      d.Adopts call id view ∨ d.Adopts call other view := by
  have effect := effect h.live call
  generalize (d.after call).queue = queue, (d.after call).view? = held,
    (d.after call).closed = closed at effect hid hother
  cases effect with
  | idle | reload => exact .inl ⟨hid, hother⟩
  | close | leave =>
      rw [Function.update_apply] at hid hother
      split_ifs at hid hother
      exact .inl ⟨hid, hother⟩
  | attach new choice detached =>
      rw [Function.update_apply] at hid hother
      by_contra none
      rw [not_or, not_or] at none
      split_ifs at hid hother with here there there
      · exact apart (here.trans there.symm)
      · subst here
        exact not_held_of_not_adopts h detached choice (Option.some.inj hid) none.2.1 other hother
      · subst there
        exact not_held_of_not_adopts h detached choice (Option.some.inj hother) none.2.2 id hid
      · exact none.1 ⟨hid, hother⟩

/-! ## Runs -/

lemma Spares.earlier {calls later : List Call} (h : Spares ρ keeping engine (calls ++ later)) :
    Spares ρ keeping engine calls :=
  fun earlier call before => h earlier call (before.trans (List.prefix_append calls later))

lemma isNamed_start (sound : keeping.Sound engine) :
    (start engine : SharedDocument ε ρ).IsNamed keeping :=
  ⟨TaskQueue.live_start engine, sound, fun _ _ none => absurd none.symm (Option.some_ne_none _)⟩

lemma isNamed_run (sound : keeping.Sound engine) (calls : List Call) :
    (run engine calls : SharedDocument ε ρ).IsNamed keeping :=
  List.foldlRecOn (motive := fun d : SharedDocument ε ρ => d.IsNamed keeping) calls after
    (isNamed_start sound) fun _ named call _ => named.after call

lemma isKept_run (sound : keeping.Sound engine) {calls : List Call}
    (spares : Spares ρ keeping engine calls) :
    (run engine calls : SharedDocument ε ρ).IsKept keeping := by
  induction calls using List.reverseRecOn with
  | nil =>
      exact ⟨isNamed_start sound, fun _ _ none => absurd none.symm (Option.some_ne_none _),
        List.nodup_nil, fun _ mem => absurd mem List.not_mem_nil⟩
  | append_singleton calls call ih =>
      obtain ⟨takes, dangles⟩ := spares calls call List.prefix_rfl
      rw [run_concat]
      exact (ih spares.earlier).after takes dangles

/-- Where all views exist at all times, no session was left without its view. -/
lemma spares_of_alive (sound : keeping.Sound engine) {calls : List Call}
    (alive : ∀ earlier, earlier <+: calls →
      (run engine earlier : SharedDocument ε ρ).Alive keeping) :
    Spares ρ keeping engine calls := by
  induction calls using List.reverseRecOn with
  | nil =>
      intro earlier call before
      exact absurd (List.prefix_nil.1 before) (by simp)
  | append_singleton calls call ih =>
      have spares := ih fun earlier before => alive earlier (before.trans (List.prefix_append _ _))
      intro earlier other before
      rcases List.prefix_concat_iff.1 before with same | old
      · obtain ⟨rfl, last⟩ := List.append_inj' same rfl
        cases last
        have kept := isKept_run (ρ := ρ) sound spares
        have after := alive _ List.prefix_rfl
        rw [run_concat] at after
        exact ⟨fun takes => not_alive_of_takes kept takes after,
          fun dangles => not_alive_of_dangles kept.live dangles after⟩
      · exact spares earlier other old

/-- **The views of all attached sessions exist at all times**, in a run of any calls of any number
of sessions, exactly if no session is detached while another one holds its view and none adopts a
selected view that does not exist.  Then the engine is told to close no view twice.  And in any run
at all, two sessions come to hold one view only where one of them adopts the view that is
selected. -/
theorem alive_iff (keeping : ViewKeeping ε) {engine : ε} (sound : keeping.Sound engine)
    (calls : List Call) :
    ((∀ earlier, earlier <+: calls → (run engine earlier : SharedDocument ε ρ).Alive keeping) ↔
      Spares ρ keeping engine calls) ∧
    (Spares ρ keeping engine calls → (run engine calls : SharedDocument ε ρ).closed.Nodup) ∧
    ∀ (call : Call) (id other : SessionId) (view : ViewId), id ≠ other →
      let d : SharedDocument ε ρ := run engine calls
      (d.after call).view? id = some view → (d.after call).view? other = some view →
        (d.view? id = some view ∧ d.view? other = some view) ∨
          d.Adopts call id view ∨ d.Adopts call other view := by
  refine ⟨⟨spares_of_alive sound, fun spares earlier before => ?_⟩, fun spares => ?_, ?_⟩
  · obtain ⟨later, rfl⟩ := before
    exact (isKept_run sound spares.earlier).alive
  · exact (isKept_run sound spares).once
  · intro call id other view apart d hid hother
    exact adopts_of_shared (isNamed_run sound calls) apart hid hother

/-! ## The first session of a document -/

/-- No two sessions hold the same view. -/
def Apart (held : SessionId → Option ViewId) : Prop :=
  ∀ id other view, held id = some view → held other = some view → id = other

omit [Engine ε] in
lemma Apart.not_takes (apart : Apart d.view?) (call : Call) : ¬ d.Takes call := by
  cases call with
  | attach | reload => exact fun takes => takes
  | detach id =>
      rintro ⟨other, view, ne, held, same⟩
      exact ne (apart other id view same held)

/-- Sessions stay apart if one adopts a view only while no other is attached. -/
lemma Apart.after (apart : Apart d.view?) (h : d.IsNamed keeping) {call : Call}
    (first : ∀ id, call = .attach id .selected → ∀ other, d.view? other = none) :
    Apart (d.after call).view? := by
  intro id other view hid hother
  by_contra ne
  rcases adopts_of_shared h ne hid hother with ⟨old, old'⟩ | ⟨rfl, -⟩ | ⟨rfl, -⟩
  · exact ne (apart id other view old old')
  · have none := first id rfl
    rw [(after_attach h.live (none id) .selected).1, Function.update_of_ne (Ne.symm ne),
      none] at hother
    cases hother
  · have none := first other rfl
    rw [(after_attach h.live (none other) .selected).1, Function.update_of_ne ne, none] at hid
    cases hid

/-- **The first session of a document may take the view that is selected.**  If sessions do so only
while no other one is attached, and that view exists, no session is ever left without its view. -/
theorem spares_of_first (keeping : ViewKeeping ε) {engine : ε} (sound : keeping.Sound engine)
    {calls : List Call}
    (first : ∀ earlier id, earlier ++ [.attach id .selected] <+: calls →
      let d : SharedDocument ε ρ := run engine earlier
      (∀ other, d.view? other = none) ∧
        ∀ view, Engine.selectedView d.queue.engine = some view →
          view ∈ keeping.views d.queue.engine) :
    Spares ρ keeping engine calls := by
  suffices h : Spares ρ keeping engine calls ∧
    Apart (run engine calls : SharedDocument ε ρ).view? from h.1
  induction calls using List.reverseRecOn with
  | nil =>
      refine ⟨fun earlier call before => absurd (List.prefix_nil.1 before) (by simp), ?_⟩
      exact fun _ _ _ none => absurd none.symm (Option.some_ne_none _)
  | append_singleton calls call ih =>
      obtain ⟨spares, apart⟩ := ih fun earlier id before =>
        first earlier id (before.trans (List.prefix_append _ _))
      constructor
      · intro earlier other before
        rcases List.prefix_concat_iff.1 before with same | old
        · obtain ⟨rfl, last⟩ := List.append_inj' same rfl
          cases last
          refine ⟨apart.not_takes call, ?_⟩
          rintro ⟨id, view, ⟨rfl, -, selected⟩, absent⟩
          exact absent ((first earlier id List.prefix_rfl).2 view selected)
        · exact spares earlier other old
      · rw [run_concat]
        refine apart.after (isNamed_run sound calls) ?_
        rintro id rfl
        exact (first calls id List.prefix_rfl).1

/-! ## Examples -/

/-- An engine with an empty letter and no views. -/
def emptyLetter : Simulation.RecordingEngine := .create .text 1 ⟨60, 30⟩ "" false

/-- Two sessions with views of their own, of which the first is detached. -/
def apartCalls : List Call := [.attach 0 .new, .attach 1 .new, .detach 0]

/-- Nobody shares a view, so the second session still has its own.  If the first one comes to hold
the same view next, it adopts it. -/
theorem alive_iff_apart :
    let d : SharedDocument Simulation.RecordingEngine Bitmap := run emptyLetter apartCalls
    Spares Bitmap Simulation.RecordingEngine.viewKeeping emptyLetter apartCalls ∧
      d.view? 1 = some 1 ∧ (1 : ViewId) ∈ d.queue.engine.views ∧ d.closed.Nodup ∧
      (d.after (.attach 0 .selected)).view? 0 = some 1 ∧ d.Adopts (.attach 0 .selected) 0 1 := by
  intro d
  have sound : Simulation.RecordingEngine.viewKeeping.Sound emptyLetter :=
    Simulation.RecordingEngine.inOrder_create _ _ _ _ _
  have spares : Spares Bitmap Simulation.RecordingEngine.viewKeeping emptyLetter apartCalls := by
    refine spares_of_first Simulation.RecordingEngine.viewKeeping sound fun earlier id before => ?_
    have mem := before.subset (List.mem_append_right _ (List.mem_singleton_self _))
    simp [apartCalls] at mem
  obtain ⟨alive, once, shared⟩ :=
    alive_iff (ρ := Bitmap) Simulation.RecordingEngine.viewKeeping sound apartCalls
  have held : d.view? 1 = some 1 := by decide +kernel
  have zero : (d.after (.attach 0 .selected)).view? 0 = some 1 := by decide +kernel
  have one : (d.after (.attach 0 .selected)).view? 1 = some 1 := by decide +kernel
  have free : d.view? 0 ≠ some 1 := by decide +kernel
  refine ⟨spares, held, alive.2 spares apartCalls List.prefix_rfl 1 1 held, once spares, zero, ?_⟩
  rcases shared (.attach 0 .selected) 0 1 1 (by decide) zero one with ⟨old, -⟩ | adopts | ⟨other, -⟩
  · exact absurd old free
  · exact adopts
  · cases other

/-- A session adopts the view of another one, which is then detached.  A third one has a view of its
own. -/
def adopted : List Call := [.attach 0 .new, .attach 1 .selected, .attach 2 .new, .detach 0]

/-- The session is left with a view that does not exist.  When it is detached as well, the engine is
told to close that view once more. -/
theorem adopted_gone :
    (run emptyLetter adopted : SharedDocument _ Bitmap).view? 1 = some 0 ∧
      (0 : ViewId) ∉ (run emptyLetter adopted : SharedDocument _ Bitmap).queue.engine.views ∧
      (run emptyLetter (adopted ++ [.detach 1]) : SharedDocument _ Bitmap).closed = [0, 0] := by
  decide +kernel

/-- If it is reloaded instead, that view is selected, and the next session adopts it. -/
example :
    let d : SharedDocument _ Bitmap := run emptyLetter (adopted ++ [.reload 1])
    d.Dangles Simulation.RecordingEngine.viewKeeping (.attach 3 .selected) := by
  refine ⟨3, 0, ⟨rfl, ?_, ?_⟩, ?_⟩
  · decide +kernel
  · decide +kernel
  · show (0 : ViewId) ∉ Simulation.RecordingEngine.views _
    decide +kernel

end SharedDocument

end TiledView
