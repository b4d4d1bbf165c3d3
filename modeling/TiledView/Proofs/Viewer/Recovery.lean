import TiledView.Proofs.Paint.Outdated
import TiledView.Proofs.Viewer.Arrivals
import TiledView.Proofs.Viewer.Lending

/-!
# After callbacks were lost

The inbox of a viewer is bounded, and a callback that finds it full is lost.  It may have been an
invalidation or a new document size, so the next time callbacks are processed the viewer takes
nothing to be up to date: it reads the outline of the document anew, takes every tile out of use and
damages the whole surface.

Late drawings are collected after that.  They were asked for before, and `Painter.Outdated` sees to
it that they make nothing valid, whichever cache they are for.  `Viewer.stale_of_lost` puts this
together.
-/

namespace TiledView

variable {ε α ρ : Type}

/-! ## What the engine tells -/

namespace TaskQueue

lemma engine_dropWaiting (q : TaskQueue ε ρ) : q.dropWaiting.engine = q.engine :=
  List.foldlRecOn (motive := fun result : TaskQueue ε ρ => result.engine = q.engine) q.waiting _
    rfl fun _ ih _ _ => ih

lemma engine_countDown (q : TaskQueue ε ρ) : q.countDown.engine = q.engine := by
  simp only [countDown]
  split_ifs
  · exact engine_dropWaiting _
  · rfl

lemma engine_collect (q : TaskQueue ε ρ) (ticket : Ticket) :
    (q.collect ticket).2.engine = q.engine := by
  rw [collect]
  split <;> rfl

/-- A call that was answered has run, and left the engine to the queue. -/
lemma await_of_ok [Engine ε] {q : TaskQueue ε ρ} {body : ε → α × ε} {value : α}
    (answered : (q.await body).1 = .ok value) :
    body q.settle.engine = (value, (q.await body).2.engine) := by
  simp only [await] at answered ⊢
  split_ifs at answered ⊢
  rw [engine_countDown]
  exact Prod.ext (Except.ok.inj answered) rfl

end TaskQueue

/-- Asking for a late drawing changes no engine. -/
lemma LateDrawing.engine_collect (late : LateDrawing) {engines : Engines ε} {id : EngineId}
    {queue : TaskQueue ε Bitmap} (found : engines[id]? = some queue) :
    ∃ queue', (late.collect engines).2[id]? = some queue' ∧ queue'.engine = queue.engine := by
  have used : ∃ queue', (engines.use late.engine Except.error
      (·.collect late.ticket)).2[id]? = some queue' ∧ queue'.engine = queue.engine := by
    rw [Engines.getElem?_use, found]
    split_ifs
    · exact ⟨_, rfl, queue.engine_collect late.ticket⟩
    · exact ⟨queue, rfl, rfl⟩
  rw [collect]
  generalize engines.use late.engine Except.error (·.collect late.ticket) = result at used ⊢
  rcases result with ⟨_ | _ | _, engines'⟩ <;> exact used

/-- A session knows of its document what the engine told. -/
structure Session.Tells (s : Session) (outline : DocumentOutline) : Prop where
  kind : s.kind = outline.kind
  partCount : s.partCount = outline.partCount
  documentSize : s.documentSize = outline.size
  pages : s.pages = (Numerals.rects (.ofText outline.pageText)).1

/-- A session that was reloaded knows what the engine tells now. -/
lemma Session.tells_reload [Engine ε] {s : Session} {q : TaskQueue ε ρ}
    (reloaded : (s.reload q).1 = .ok ()) :
    (s.reload q).2.1.Tells (.ofEngine (s.reload q).2.2.engine) := by
  rw [reload] at reloaded ⊢
  split at reloaded
  · cases reloaded
  · next view _ =>
    split at reloaded
    · cases reloaded
    · next outline q' told =>
      rw [TaskQueue.awaitIn] at told
      have ran := TaskQueue.await_of_ok (congrArg Prod.fst told)
      rw [told, Prod.mk.injEq] at ran
      obtain ⟨rfl, engine⟩ := ran
      rw [engine]
      exact ⟨rfl, rfl, rfl, rfl⟩

namespace Display

variable {settings : ViewerSettings} {d d' : Display} {engines engines' : Engines ε}

/-- A document is shown, and its session knows what its engine tells. -/
def Informed [Engine ε] (d : Display) (engines : Engines ε) : Prop :=
  ∃ document queue, d.document? = some document ∧ engines[document.engine]? = some queue ∧
    document.session.Tells (.ofEngine queue.engine)

lemma informed_reload [Engine ε] (reloaded : (d.reload engines).1 = .ok ()) :
    (d.reload engines).2.1.Informed (d.reload engines).2.2 := by
  rw [reload] at reloaded ⊢
  cases shown : d.attached? with
  | none =>
      rw [shown] at reloaded
      cases reloaded
  | some document =>
      rw [shown] at reloaded
      dsimp only [Engines.use] at reloaded ⊢
      split at reloaded
      · cases reloaded
      · next queue found =>
        have tells := Session.tells_reload reloaded
        rw [attached?, Option.filter_eq_some_iff] at shown
        refine ⟨{ document with session := (document.session.reload queue).2.1 },
          (document.session.reload queue).2.2, ?_, ?_, tells⟩
        · rw [setSession, shown.1]
          rfl
        · exact Array.getElem?_setIfInBounds_self_of_lt (Array.getElem?_eq_some_iff.1 found).1

/-- Collecting late drawings changes neither the document nor any engine. -/
lemma Informed.collectLate [Engine ε] (h : d.Informed engines) :
    (d.collectLate engines).1.Informed (d.collectLate engines).2 := by
  refine List.foldlRecOn (motive := fun result : Display × Engines ε => result.1.Informed result.2)
    d.late _ h ?_
  rintro ⟨d, engines⟩ ⟨document, queue, shown, found, tells⟩ late _
  obtain ⟨queue', found', same⟩ := late.engine_collect found
  rw [← same] at tells
  rw [collectOne]
  split
  all_goals
    next collected =>
    rw [collected] at found'
    exact ⟨document, queue', shown, found', tells⟩

lemma document?_collectLate (d : Display) (engines : Engines ε) :
    (d.collectLate engines).1.document? = d.document? := by
  refine List.foldlRecOn (motive := fun result : Display × Engines ε =>
    result.1.document? = d.document?) d.late _ rfl ?_
  intro result ih late _
  rw [← ih, collectOne]
  split <;> rfl

lemma Informed.of_document? [Engine ε] (h : d.Informed engines)
    (same : d'.document? = d.document?) : d'.Informed engines := by
  obtain ⟨document, queue, shown, found, tells⟩ := h
  exact ⟨document, queue, same.trans shown, found, tells⟩

/-! ## Recovering -/

/-- A display between two calls, with no drawing submitted from outside. -/
structure Recoverable (settings : ViewerSettings) (d : Display) : Prop where
  regular : d.Regular settings
  /-- No late drawing is ahead of the caches. -/
  booked : d.Booked (fun _ _ => False) fun cache keys => ∀ key ∈ keys, cache.Behind 0 key

lemma Recoverable.edits (h : d.Recoverable settings) (edits : Edits d d') :
    d'.Recoverable settings :=
  keeps_of_chain (fun _ _ edit h => ⟨h.regular.edit edit,
    h.booked.edit (DocumentCache.ledger_behind _) h.regular edit⟩) edits h

variable [Engine ε]

/-- **A recovery takes every tile out of use**, and every late drawing is from before it. -/
lemma stale_recover (h : d.Recoverable settings) (engines : Engines ε) :
    (d.recover engines).1.painter.cache.Stale ∧
      ∀ key ∈ (d.recover engines).1.late.map (·.key),
        (d.recover engines).1.painter.cache.Behind 1 key := by
  by_cases showing : d.isAttached = true
  · have fitted := h.edits ((d.edits_reload engines).tail (.fitCache _))
    have recovered : (d.recover engines).1 =
        { (d.reload engines).2.1.fitCache with
          painter := (d.reload engines).2.1.fitCache.painter.modifyCache
            DocumentCache.invalidateAll } := by
      rw [recover, if_pos showing]
    rw [recovered]
    refine ⟨DocumentCache.stale_invalidateAll _, fun key mem => ?_⟩
    have behind : DocumentCache.Behind 0 _ key := fitted.booked.books key mem
    show ((d.reload engines).2.1.fitCache.painter.cache.act .staleAll).Behind 1 key
    exact behind.outdate fitted.regular.honest.sound.inPlace trivial
  · have closed : d.document? = none := by
      rw [isAttached, Bool.not_eq_true, Option.isSome_eq_false_iff, Option.isNone_iff_eq_none,
        h.regular.attached?_eq] at showing
      exact showing
    obtain ⟨late, parts⟩ := h.regular.closed closed
    rw [recover, if_neg showing]
    refine ⟨DocumentCache.stale_of_empty parts, ?_⟩
    rw [late]
    exact fun _ mem => absurd mem List.not_mem_nil

omit [Engine ε] in
/-- Late drawings that are collected leave a painter outdated. -/
lemma outdated_collectLate (engines : Engines ε) (h : d.painter.Outdated (d.late.map (·.key))) :
    (d.collectLate engines).1.painter.Outdated (d.late.map (·.key)) := by
  have start : (({ d with late := [] }, engines) : Display × Engines ε).1.painter.Outdated
      (d.late.map (·.key)) := h
  refine List.foldlRecOn (motive := fun result : Display × Engines ε =>
    result.1.painter.Outdated (d.late.map (·.key))) d.late _ start ?_
  intro result ih late mem
  rw [collectOne]
  split
  · exact ih.request (List.mem_map_of_mem mem)
  · exact ih

end Display

namespace Viewer

open Display

variable {settings : ViewerSettings} {v : Viewer}

/-! ## Lost callbacks -/

/-- A call that processes the callbacks that wait. -/
def Call.Processes : Call → Prop
  | @Call.process _ _ _ | @Call.paint _ _ _ _ _ _ => True
  | _ => False

/-- Until callbacks are processed, it is not forgotten that one was lost. -/
lemma overflowed_after {call : Call} (unprocessed : ¬ call.Processes)
    (lost : v.inbox.overflowed = true) : (v.after call).inbox.overflowed = true := by
  cases call with
  | openDocument engines engine choice =>
      exact (congrArg Inbox.overflowed (inbox_openDocument v engines engine choice)).trans lost
  | closeDocument engines =>
      exact (congrArg Inbox.overflowed (inbox_closeDocument v engines)).trans lost
  | deliver callback =>
      show (v.inbox.put callback).2.overflowed = true
      rw [Inbox.put]
      split_ifs
      · exact lost
      · rfl
  | process | paint => exact (unprocessed trivial).elim
  | setViewRect | setZoom =>
      exact (congrArg Inbox.overflowed (undisturbed_applyViewport v _).inbox).trans lost
  | scrollTo position =>
      exact (congrArg Inbox.overflowed (undisturbed_scrollTo v position).inbox).trans lost
  | showPart part =>
      exact (congrArg Inbox.overflowed (undisturbed_showPart v part).inbox).trans lost
  | askFor kind =>
      exact (congrArg Inbox.overflowed (undisturbed_askFor v kind).inbox).trans lost
  | redraw | takeNotices | submit => exact lost

lemma overflowed_deliver {callback : Callback} (lost : (v.deliver callback).1 = false) :
    (v.deliver callback).2.inbox.overflowed = true := by
  simp only [deliver, Inbox.put] at lost ⊢
  split_ifs at lost ⊢
  rfl

section Engines

variable [Engine ε]

/-- The viewer after the handlers of all waiting callbacks have run. -/
def handleAll (v : Viewer) (engines : Engines ε) : Viewer × Engines ε :=
  v.inbox.callbacks.foldl handle ({ v with inbox := v.inbox.emptied }, engines)

/-- The viewer after it has made up for lost callbacks, before late drawings are collected. -/
def madeUp (v : Viewer) (engines : Engines ε) : Viewer × Engines ε :=
  (v.handleAll engines).1.recover (v.handleAll engines).2

lemma process_of_overflowed (lost : v.inbox.overflowed = true) (engines : Engines ε) :
    v.process engines = (v.madeUp engines).1.takeInResults (v.madeUp engines).2 := by
  simp only [process]
  rw [if_pos lost]
  rfl

lemma recoverable_handleAll (h : v.display.Recoverable settings) (engines : Engines ε) :
    (v.handleAll engines).1.display.Recoverable settings :=
  h.edits (edited_foldl_handle v.inbox.callbacks ({ v with inbox := v.inbox.emptied }, engines)).edits

lemma outdated_madeUp (h : v.display.Recoverable settings) (engines : Engines ε) :
    (v.madeUp engines).1.display.painter.Outdated
      ((v.madeUp engines).1.display.late.map (·.key)) := by
  have handled := recoverable_handleAll h engines
  have recovered := handled.edits (edits_recover _ (v.handleAll engines).2)
  obtain ⟨stale, behind⟩ := stale_recover handled (v.handleAll engines).2
  exact .of_redraw recovered.regular.honest.idle recovered.regular.honest.sound.inPlace stale behind

lemma outdated_process (h : v.display.Recoverable settings) (lost : v.inbox.overflowed = true)
    (engines : Engines ε) :
    (v.process engines).1.display.painter.Outdated
      ((v.madeUp engines).1.display.late.map (·.key)) := by
  have collected := outdated_collectLate (v.madeUp engines).2 (outdated_madeUp h engines)
  have recovered := (recoverable_handleAll h engines).edits
    (edited_recover _ (v.handleAll engines).2).edits
  have gathered := recovered.edits (.single (.collectLate _ (v.madeUp engines).2))
  rw [process_of_overflowed lost]
  exact collected.receive fun request mem =>
    PaintRequest.IsQuiet.delivers (gathered.booked.waiting request mem)

/-- The engine of the document answers when its outline is read anew. -/
def Answered (v : Viewer) (engines : Engines ε) : Prop :=
  ((v.handleAll engines).1.display.reload (v.handleAll engines).2).1 = .ok ()

lemma Answered.isAttached {engines : Engines ε} (answered : v.Answered engines) :
    (v.handleAll engines).1.display.isAttached = true := by
  rw [Answered, reload] at answered
  split at answered
  · cases answered
  · next shown =>
    rw [Display.isAttached, shown]
    rfl

/-- The session knows what the engine tells, also after late drawings were collected. -/
lemma informed_process {engines : Engines ε} (lost : v.inbox.overflowed = true)
    (answered : v.Answered engines) :
    (v.process engines).1.display.Informed (v.process engines).2 := by
  have reloaded := informed_reload answered
  have recovered : ((v.handleAll engines).1.display.recover (v.handleAll engines).2).1.Informed
      ((v.handleAll engines).1.display.recover (v.handleAll engines).2).2 := by
    rw [Display.recover, if_pos answered.isAttached]
    exact reloaded.of_document? (document?_fitCache _)
  have made : (v.madeUp engines).1.display.Informed (v.madeUp engines).2 :=
    recovered.of_document? rfl
  rw [process_of_overflowed lost]
  exact made.collectLate.of_document? rfl

/-- The geometry is that of the document. -/
lemma settled_process_of_answered {engines : Engines ε} (h : v.display.Recoverable settings)
    (lost : v.inbox.overflowed = true) (answered : v.Answered engines) :
    (v.process engines).1.display.Settled := by
  have steady := (recoverable_handleAll h engines).regular.steady
  have recovered := settled_recover_of_isAttached steady (v.handleAll engines).2
    answered.isAttached
  have made : (v.madeUp engines).1.display.Settled := (sameGeometry_redraw _).settled recovered
  rw [process_of_overflowed lost]
  exact settled_takeInResults made _

/-- The areas of the viewport are those of the document. -/
lemma updateAreas_process {engines : Engines ε} (lost : v.inbox.overflowed = true)
    {document : ShownDocument} (shown : (v.process engines).1.display.document? = some document) :
    (v.process engines).1.display.viewport.updateAreas document.session.documentSize
      document.session.pages = (v.process engines).1.display.viewport := by
  rw [process_of_overflowed lost] at shown ⊢
  have same := (v.madeUp engines).1.display.document?_collectLate (v.madeUp engines).2
  have viewport := ((v.madeUp engines).1.display.sameGeometry_collectLate
    (v.madeUp engines).2).viewport
  have made : (v.madeUp engines).1.display.session? = some document.session := by
    rw [session?, ← same]
    exact congrArg (Option.map ShownDocument.session) shown
  have size : (v.madeUp engines).1.display.documentSize = document.session.documentSize := by
    rw [documentSize, made]
  have pages : (v.madeUp engines).1.display.pages = document.session.pages := by
    rw [Display.pages, made]
  rw [← size, ← pages]
  show ((v.madeUp engines).1.display.collectLate _).1.viewport.updateAreas _ _ =
    ((v.madeUp engines).1.display.collectLate _).1.viewport
  rw [viewport]
  rfl

end Engines

/-- **Lost callbacks never leave a stale tile valid.**  Let a callback be lost, and then anything
happen but that callbacks are processed.  When they are processed at last, whatever is waiting,
whatever drawings are finished and whatever requests were submitted except for drawings, then no
tile is valid afterwards, and the whole surface is damaged unless it is empty.  If the engine
answers, caches and areas are those of the document as the engine has it. -/
theorem stale_of_lost {before between : List Call} {callback : Callback}
    (lost : ((run settings before).deliver callback).1 = false)
    (unprocessed : ∀ call ∈ between, ¬ call.Processes)
    (quiet : ∀ request ∈
      (run settings (before ++ .deliver callback :: between)).display.painter.inbox,
        request.IsQuiet) [Engine ε] (engines : Engines ε) :
    let v := run settings (before ++ .deliver callback :: between)
    let processed := (v.process engines).1
    let engines' := (v.process engines).2
    (∀ (part : Nat) (c : PartCache Float), processed.display.painter.cache.parts[part]? = some c →
      ∀ index, c.valid.contains index = false) ∧
    (processed.surface.isEmpty = false →
      processed.display.painter.damageList = [processed.surface.bounds]) ∧
    (v.Answered engines → ∃ document queue, processed.display.document? = some document ∧
      engines'[document.engine]? = some queue ∧
      document.session.Tells (.ofEngine queue.engine) ∧
      processed.display.Aligned document.session ∧
      processed.display.viewport.updateAreas document.session.documentSize document.session.pages =
        processed.display.viewport) := by
  have overflowed :
      (run settings (before ++ .deliver callback :: between)).inbox.overflowed = true := by
    rw [run, List.foldl_append, List.foldl_cons]
    refine List.foldlRecOn (motive := fun v : Viewer => v.inbox.overflowed = true) between after
      (overflowed_deliver lost) ?_
    exact fun v ih call mem => overflowed_after (unprocessed call mem) ih
  generalize same : before ++ .deliver callback :: between = calls at quiet overflowed ⊢
  have recoverable : (run settings calls).display.Recoverable settings := by
    have submits : ∀ call ∈ calls, call.Submits fun _ _ => True := fun call _ => call.submits_true
    have booked := booked_run (DocumentCache.ledger_behind _) settings submits
    exact ⟨regular_run settings calls, booked.books, quiet⟩
  have outdated := outdated_process recoverable overflowed engines
  refine ⟨outdated.stale, fun nonempty => ?_, fun answered => ?_⟩
  · rw [Painter.damageList]
    rw [outdated.damaged nonempty]
    rfl
  · obtain ⟨document, queue, shown, found, tells⟩ := informed_process overflowed answered
    have settled := settled_process_of_answered recoverable overflowed answered
    have regular := (recoverable.edits (edited_process _ engines).edits).regular
    exact ⟨document, queue, shown, found, tells,
      settled.aligned (regular.attached?_eq.trans shown), updateAreas_process overflowed shown⟩

/-! ## An example -/

/-- No callback finds room. -/
def roomless : ViewerSettings := { ViewerSettings.default with inboxCapacity := 0 }

/-- The tile of a letter is late when a callback is lost, and drawn when callbacks are processed. -/
def letterLost : List Call :=
  letterPainted ++ .deliver (.ofText CallbackKind.invalidateTiles.code "EMPTY") ::
    [.submit (.stalePart 0)]

theorem stale_of_lost_letter :
    (run roomless letterLost).display.late.length = 1 ∧
    ((run roomless letterLost).process letterDrawn).1.display.late.length = 0 ∧
    ((run roomless letterLost).process letterDrawn).1.display.painter.damageList =
      [⟨0, 0, 4, 2⟩] ∧
    (∀ (part : Nat) (c : PartCache Float),
      ((run roomless letterLost).process letterDrawn).1.display.painter.cache.parts[part]? =
        some c → ∀ index, c.valid.contains index = false) ∧
    ∃ (document : ShownDocument) (queue : TaskQueue Simulation.RecordingEngine Bitmap),
      ((run roomless letterLost).process letterDrawn).2[document.engine]? = some queue ∧
      document.session.Tells (.ofEngine queue.engine) ∧
      ((run roomless letterLost).process letterDrawn).1.display.Aligned document.session := by
  have lost : ((run roomless letterPainted).deliver
      (.ofText CallbackKind.invalidateTiles.code "EMPTY")).1 = false := by decide +kernel
  have unprocessed : ∀ call ∈ [Call.submit (.stalePart 0)], ¬ call.Processes := by
    intro call mem
    rw [List.mem_singleton.1 mem]
    exact id
  have waiting : (run roomless letterLost).display.painter.inbox = [.stalePart 0] := by
    decide +kernel
  have quiet : ∀ request ∈ (run roomless letterLost).display.painter.inbox,
      request.IsQuiet := by
    rw [waiting]
    intro request mem
    rw [List.mem_singleton.1 mem]
    trivial
  have surface : ((run roomless letterLost).process letterDrawn).1.surface.isEmpty = false ∧
      ((run roomless letterLost).process letterDrawn).1.surface.bounds = ⟨0, 0, 4, 2⟩ := by
    decide +kernel
  have answered : (run roomless letterLost).Answered letterDrawn := by
    unfold Answered
    decide +kernel
  have recovered := stale_of_lost lost unprocessed quiet letterDrawn
  rw [← letterLost] at recovered
  obtain ⟨stale, damaged, told⟩ := recovered
  obtain ⟨document, queue, -, found, tells, aligned, -⟩ := told answered
  refine ⟨by decide +kernel, by decide +kernel, ?_, stale, document, queue, found, tells, aligned⟩
  exact (damaged surface.1).trans (congrArg (fun bounds => [bounds]) surface.2)

end Viewer

end TiledView
