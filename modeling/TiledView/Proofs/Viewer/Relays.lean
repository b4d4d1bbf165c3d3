import TiledView.Proofs.Viewer.Arrivals
import TiledView.Proofs.Viewer.Regular

/-!
# Callbacks that are passed on to the host

The host asks for kinds of callbacks, and gets those of the kinds it had asked for when the document
was opened.  Every opening registers a handler for each of these kinds, and every closing takes them
back; a handler that stayed, or a kind that is listed twice, would pass a callback on twice.

* `Viewer.RelayLog` — goes along with a run and writes down what was asked for, which callbacks were
  accepted and dispatched, and what the host has taken.
* `Viewer.relayed_once` — what the host gets is read off that log: every callback dispatched while a
  document was shown, if its kind had been asked for before the document was opened, once.
-/

namespace TiledView

lemma CallbackKind.code_injective : Function.Injective code := fun kind other same =>
  Option.some.inj <| by rw [← ofCode?_code kind, same, ofCode?_code]

/-- The callback that a notice passes on, with its payload. -/
def HostNotice.callback? : HostNotice → Option (Callback × Payload)
  | .ready _ => none
  | .callback delivered payload => some (delivered, payload)

/-! ## What displays pass on -/

namespace Display

variable {ε : Type}

/-- The callbacks that wait for the host, oldest first. -/
def relayed (d : Display) : List (Callback × Payload) := d.notices.filterMap HostNotice.callback?

lemma notices_fitCache (d : Display) : d.fitCache.notices = d.notices := by
  rw [fitCache]
  split <;> rfl

/-- That the view is ready is no callback. -/
lemma relayed_onInvalidation (d : Display) (callback : Callback) :
    (d.onInvalidation callback).relayed = d.relayed := by
  rw [onInvalidation]
  split
  · rfl
  · next shown =>
    have told (statuses? : Option (List Payload)) :
        (d.notices ++ (statuses?.map HostNotice.ready).toList).filterMap HostNotice.callback? =
          d.relayed := by
      cases statuses? <;> simp [relayed, HostNotice.callback?]
    dsimp only
    split
    · split_ifs <;> exact told _
    · split_ifs <;> exact told _
    · exact told _

lemma notices_onStatus (d : Display) (callback : Callback) :
    (d.onStatus callback).notices = d.notices := by
  rw [onStatus]
  split <;> rfl

lemma notices_collectLate (d : Display) (engines : Engines ε) :
    (d.collectLate engines).1.notices = d.notices := by
  refine List.foldlRecOn (motive := fun result : Display × Engines ε =>
    result.1.notices = d.notices) d.late _ rfl ?_
  intro result ih late _
  rw [collectOne]
  split <;> exact ih

section Engines

variable [Engine ε]

lemma notices_reload (d : Display) (engines : Engines ε) :
    (d.reload engines).2.1.notices = d.notices := by
  rw [reload]
  split <;> rfl

lemma notices_onSizeChange (d : Display) (payload : Payload) (engines : Engines ε) :
    (d.onSizeChange payload engines).1.notices = d.notices := by
  rw [onSizeChange]
  split
  · rfl
  · refine (notices_fitCache _).trans ?_
    split <;> exact d.notices_reload engines

lemma notices_recover (d : Display) (engines : Engines ε) :
    (d.recover engines).1.notices = d.notices := by
  rw [recover]
  split_ifs
  · exact (notices_fitCache _).trans (d.notices_reload engines)
  · rfl

/-- Only a relay passes a callback on. -/
lemma relayed_run (handler : Handler) (callback : Callback) (payload : Payload)
    (d : Display × Engines ε) :
    (handler.run callback payload d).1.relayed =
      d.1.relayed ++ List.replicate ([handler].count .relay) (callback, payload) := by
  cases handler with
  | invalidation => exact (d.1.relayed_onInvalidation callback).trans (List.append_nil _).symm
  | sizeChange =>
      refine Eq.trans ?_ (List.append_nil _).symm
      exact congrArg (List.filterMap _) (d.1.notices_onSizeChange payload d.2)
  | status =>
      refine Eq.trans ?_ (List.append_nil _).symm
      exact congrArg (List.filterMap _) (d.1.notices_onStatus callback)
  | relay => simp [Handler.run, relay, relayed, HostNotice.callback?]

lemma relayed_foldl_run (registrations : List (Registration Handler)) (callback : Callback)
    (payload : Payload) (d : Display × Engines ε) :
    (registrations.foldl (fun d r => r.handler.run callback payload d) d).1.relayed =
      d.1.relayed ++
        List.replicate ((registrations.map (·.handler)).count .relay) (callback, payload) := by
  induction registrations generalizing d with
  | nil => exact (List.append_nil _).symm
  | cons r rest ih =>
      rw [List.foldl_cons, ih, relayed_run, List.append_assoc, List.replicate_append_replicate,
        ← List.count_append]
      rfl

end Engines

end Display

namespace Viewer

variable {ε σ : Type} {v v' : Viewer}

/-- The codes that are served, and by which handlers. -/
def services (v : Viewer) : List (Int × Handler) :=
  v.dispatcher.registrations.map fun r => (r.code, r.handler)

/-- What the handlers of a callback pass on to the host, one after the other. -/
def passedOn (v : Viewer) (callback : Callback) : List (Callback × Payload) :=
  List.replicate (v.services.count (callback.code, .relay)) (callback, callback.decode)

section Engines

variable [Engine ε]

/-- A callback is passed on by every relay that is registered for its code. -/
lemma relayed_handle (v : Viewer × Engines ε) (callback : Callback) :
    (handle v callback).1.display.relayed = v.1.display.relayed ++ v.1.passedOn callback := by
  have relays : ((v.1.dispatcher.registeredFor callback.code).map (·.handler)).count .relay =
      v.1.services.count (callback.code, .relay) := by
    simp only [services, Dispatcher.registeredFor, List.count_eq_countP, List.countP_map,
      List.countP_filter]
    refine List.countP_congr fun r _ => ?_
    simp [Prod.ext_iff, and_comm]
  rw [passedOn, ← relays]
  exact Display.relayed_foldl_run _ callback callback.decode (v.1.display, v.2)

lemma passedOn_handle (v : Viewer × Engines ε) (callback : Callback) :
    (handle v callback).1.passedOn = v.1.passedOn := by
  funext other
  rw [passedOn, services, (edited_handle v callback).dispatcher]
  rfl

lemma relayed_foldl_handle (callbacks : List Callback) (v : Viewer × Engines ε) :
    (callbacks.foldl handle v).1.display.relayed =
      v.1.display.relayed ++ callbacks.flatMap v.1.passedOn := by
  induction callbacks generalizing v with
  | nil => exact (List.append_nil _).symm
  | cons callback rest ih =>
      rw [List.foldl_cons, ih, relayed_handle, passedOn_handle, List.append_assoc,
        List.flatMap_cons]

/-- Processing passes on what waits in the inbox, in the order of its arrival. -/
lemma relayed_process (v : Viewer) (engines : Engines ε) :
    (v.process engines).1.display.relayed =
      v.display.relayed ++ v.inbox.callbacks.flatMap v.passedOn := by
  have handled := relayed_foldl_handle v.inbox.callbacks
    ({ v with inbox := v.inbox.emptied }, engines)
  refine Eq.trans ?_ handled
  rw [process]
  dsimp only
  refine (congrArg (List.filterMap _) (Display.notices_collectLate _ _)).trans ?_
  split_ifs
  · exact congrArg (List.filterMap _) (Display.notices_recover _ _)
  · rfl

/-- Beyond the processing, a paint pass neither asks nor tells the host anything. -/
lemma same_paint (v : Viewer) (engines : Engines ε) (surroundings : Surroundings σ) (t : σ) :
    (v.paint engines surroundings t).2.1.askedFor = (v.process engines).1.askedFor ∧
      (v.paint engines surroundings t).2.1.display.notices =
        (v.process engines).1.display.notices := by
  rw [paint]
  dsimp only
  split
  · exact ⟨rfl, rfl⟩
  · split <;> exact ⟨rfl, rfl⟩

/-! ## Documents -/

lemma notices_closeDocument (v : Viewer) (engines : Engines ε) :
    (v.closeDocument engines).2.1.display.notices = v.display.notices := by
  rw [closeDocument_eq]
  rfl

lemma notices_openFirst (v : Viewer) (engines : Engines ε) (engine : EngineId)
    (choice : ViewChoice) :
    (v.openFirst engines engine choice).2.1.display.notices = v.display.notices := by
  rcases openFirst_eq v engines engine choice with same | ⟨session, -, same⟩ <;> rw [same]
  rw [display_present]
  exact Display.notices_fitCache _

lemma notices_openDocument (v : Viewer) (engines : Engines ε) (engine : EngineId)
    (choice : ViewChoice) :
    (v.openDocument engines engine choice).2.1.display.notices = v.display.notices := by
  rw [openDocument]
  split
  · exact notices_openFirst v engines engine choice
  · have closed := notices_closeDocument v engines
    split
    · next failed => exact failed ▸ closed
    · next done =>
      rw [done] at closed
      exact (notices_openFirst _ _ engine choice).trans closed

lemma askedFor_openFirst (v : Viewer) (engines : Engines ε) (engine : EngineId)
    (choice : ViewChoice) :
    (v.openFirst engines engine choice).2.1.askedFor = v.askedFor := by
  rcases openFirst_eq v engines engine choice with same | ⟨session, -, same⟩ <;> rw [same]
  exact List.foldlRecOn (motive := fun result : Viewer => result.askedFor = v.askedFor) _ register
    rfl fun _ ih _ _ => ih

lemma askedFor_openDocument (v : Viewer) (engines : Engines ε) (engine : EngineId)
    (choice : ViewChoice) :
    (v.openDocument engines engine choice).2.1.askedFor = v.askedFor := by
  rw [openDocument]
  split
  · exact askedFor_openFirst v engines engine choice
  · have closed : (v.closeDocument engines).2.1.askedFor = v.askedFor := by
      rw [closeDocument_eq]
      rfl
    split
    · next failed => exact failed ▸ closed
    · next done =>
      rw [done] at closed
      exact (askedFor_openFirst _ _ engine choice).trans closed

end Engines

/-! ## Requests of the host -/

/-- Nothing changes that has to do with callbacks, asked for or told. -/
structure Quiet (v v' : Viewer) : Prop extends Undisturbed v v' where
  askedFor : v'.askedFor = v.askedFor
  notices : v'.display.notices = v.display.notices

lemma quiet_applyViewport (v : Viewer)
    (changed : Except ViewportError ViewportChange × Viewport) :
    Quiet v (v.applyViewport changed).2 := by
  refine ⟨undisturbed_applyViewport v changed, ?_, ?_⟩ <;> rw [applyViewport]
  · split <;> rfl
  · split
    · rfl
    · next change _ =>
      cases change with
      | unchanged => rfl
      | changed scaleChanged surfaceResized => exact Display.notices_fitCache _

lemma quiet_scrollTo (v : Viewer) (position : Point .css Float) :
    Quiet v (v.scrollTo position).2 := by
  have requested (area : Rect .device) (shifts : List AxisShift) (d : Display) :
      (shifts.foldl (fun d shift => d.request (.scroll area shift)) d).notices = d.notices := by
    induction shifts generalizing d with
    | nil => rfl
    | cons shift rest ih => exact ih _
  refine ⟨undisturbed_scrollTo v position, ?_, ?_⟩ <;> rw [scrollTo] <;> split_ifs
  · dsimp only
    split <;> rfl
  · rfl
  · dsimp only
    split
    · rfl
    · exact requested _ _ _
  · rfl

lemma quiet_showPart (v : Viewer) (part : Nat) : Quiet v (v.showPart part).2 := by
  refine ⟨undisturbed_showPart v part, ?_, ?_⟩ <;> rw [showPart] <;> split <;>
    first | rfl | (split_ifs <;> rfl)

lemma display_askFor (v : Viewer) (kind : CallbackKind) : (v.askFor kind).display = v.display := by
  rw [askFor]
  split_ifs <;> rfl

/-- Asking for a kind lists it, once. -/
lemma mem_askedFor_askFor (v : Viewer) (kind other : CallbackKind) :
    other ∈ (v.askFor kind).askedFor ↔ other ∈ v.askedFor ∨ other = kind := by
  rw [askFor]
  split_ifs with known
  · exact ⟨.inl, fun h => h.elim id fun same => same ▸ known⟩
  · exact List.mem_append.trans (or_congr_right List.mem_singleton)

lemma nodup_askedFor_askFor (nodup : v.askedFor.Nodup) (kind : CallbackKind) :
    (v.askFor kind).askedFor.Nodup := by
  rw [askFor]
  split_ifs with known
  · exact nodup
  · show (v.askedFor ++ [kind]).Nodup
    rw [← List.concat_eq_append]
    exact nodup.concat known

/-! ## What is served -/

lemma services_registerHandlers (v : Viewer) :
    v.registerHandlers.services =
      v.services ++ v.handlers.map fun entry => (entry.1.code, entry.2) := by
  suffices h : ∀ (entries : List (CallbackKind × Handler)) (v : Viewer),
      (entries.foldl register v).services =
        v.services ++ entries.map fun entry => (entry.1.code, entry.2) from h v.handlers v
  intro entries
  induction entries with
  | nil => exact fun v => (List.append_nil _).symm
  | cons entry rest ih =>
      intro v
      have first : (v.register entry).services = v.services ++ [(entry.1.code, entry.2)] := by
        simp [register, services, Dispatcher.register]
      rw [List.foldl_cons, ih, first, List.append_assoc]
      rfl

/-- The handlers of a document relay each kind that was asked for once. -/
lemma count_relays (nodup : v.askedFor.Nodup) (code : Int) :
    (v.handlers.map fun entry => (entry.1.code, entry.2)).count (code, .relay) =
      if ∃ kind ∈ v.askedFor, kind.code = code then 1 else 0 := by
  have relays : (v.askedFor.map fun kind => (kind.code, Handler.relay)).Nodup :=
    nodup.map fun kind other same => CallbackKind.code_injective (Prod.mk.inj same).1
  have listed : (v.handlers.map fun entry => (entry.1.code, entry.2)) =
      [(CallbackKind.invalidateTiles.code, .invalidation),
        (CallbackKind.documentSizeChanged.code, .sizeChange),
        (CallbackKind.stateChanged.code, .status)] ++
      v.askedFor.map fun kind => (kind.code, Handler.relay) := by
    simp [handlers, Function.comp_def]
  rw [listed, List.count_append, relays.count]
  simp

lemma Undisturbed.services (same : Undisturbed v v') : v'.services = v.services := by
  rw [Viewer.services, same.dispatcher]
  rfl

lemma Undisturbed.shown (same : Undisturbed v v') (showing : v'.display.document? ≠ none) :
    v.display.document? ≠ none := by
  intro closed
  refine showing (Option.isNone_iff_eq_none.1 ?_)
  rw [same.document?, closed]
  rfl

lemma services_of_closed (tied : v.Tied) (closed : v.display.document? = none) :
    v.services = [] := by
  have none := tied.registered.trans (tied.closed closed)
  rw [services, List.map_eq_nil_iff.1 none, List.map_nil]

section Engines

variable [Engine ε]

/-- A document that is opened is served by its own handlers alone. -/
lemma services_openFirst (tied : v.Tied) (closed : v.display.document? = none)
    {engines : Engines ε} {engine : EngineId} {choice : ViewChoice}
    (opened : (v.openFirst engines engine choice).1 = .ok ()) :
    (v.openFirst engines engine choice).2.1.services =
      v.handlers.map fun entry => (entry.1.code, entry.2) := by
  rw [openFirst] at opened ⊢
  dsimp only at opened ⊢
  split at opened
  · cases opened
  · refine (services_registerHandlers _).trans ?_
    refine (congrArg (· ++ _) (services_of_closed tied closed)).trans ?_
    rfl

lemma services_openDocument (tied : v.Tied) {engines : Engines ε} {engine : EngineId}
    {choice : ViewChoice} (opened : (v.openDocument engines engine choice).1 = .ok ()) :
    (v.openDocument engines engine choice).2.1.services =
      v.handlers.map fun entry => (entry.1.code, entry.2) := by
  rw [openDocument] at opened ⊢
  split at opened
  · next closed => exact services_openFirst tied closed opened
  · have tied := tied_closeDocument tied engines
    have same := closeDocument_eq v engines
    split at opened
    · cases opened
    · next done =>
      rw [done] at tied same
      refine (services_openFirst tied (same ▸ rfl) opened).trans ?_
      rw [handlers, same]
      rfl

end Engines

/-! ## Going along with a run -/

/-- A viewer, and what it was asked for and has done about callbacks. -/
structure RelayLog where
  viewer : Viewer
  /-- The kinds the host has asked for, as often as it did. -/
  asked : List CallbackKind
  /-- What it had asked for when the last document was opened. -/
  askedBefore : List CallbackKind
  /-- The callbacks that the inbox accepted. -/
  accepted : List Callback
  /-- Those of them that still wait. -/
  waiting : List Callback
  /-- The callbacks that were dispatched.  Where a document was shown then, they stand with what the
  host had asked for before the document was opened. -/
  dispatched : List (Callback × Option (List CallbackKind))
  /-- The notices that the host has taken. -/
  taken : List HostNotice

namespace RelayLog

def create (settings : ViewerSettings) : RelayLog := ⟨.create settings, [], [], [], [], [], []⟩

/-- What had been asked for before the document that is shown was opened. -/
def askedBefore? (l : RelayLog) : Option (List CallbackKind) :=
  if l.viewer.isShowing then some l.askedBefore else none

/-- Everything that waits is dispatched. -/
def dispatchAll (l : RelayLog) : RelayLog :=
  { l with
    waiting := []
    dispatched := l.dispatched ++ l.waiting.map fun callback => (callback, l.askedBefore?) }

/-- What a call adds to the log. -/
def note (l : RelayLog) : Call → RelayLog
  | @Call.openDocument _ _ engines engine choice =>
    match (l.viewer.openDocument engines engine choice).1 with
    | .ok () => { l with askedBefore := l.asked }
    | .error _ => l
  | .deliver callback =>
    if (l.viewer.deliver callback).1 then
      { l with accepted := l.accepted ++ [callback], waiting := l.waiting ++ [callback] }
    else l
  | @Call.process _ _ _ | @Call.paint _ _ _ _ _ _ => l.dispatchAll
  | .askFor kind => { l with asked := l.asked ++ [kind] }
  | .takeNotices => { l with taken := l.taken ++ l.viewer.takeNotices.1 }
  | _ => l

/-- Goes along with a call. -/
def after (l : RelayLog) (call : Call) : RelayLog :=
  { l.note call with viewer := l.viewer.after call }

/-- What the host gets to know of a callback that was dispatched. -/
def told? : Callback × Option (List CallbackKind) → Option (Callback × Payload)
  | (_, none) => none
  | (callback, some asked) =>
    if ∃ kind ∈ asked, kind.code = callback.code then some (callback, callback.decode) else none

/-- What the host has got, and what waits for it. -/
def got (l : RelayLog) : List (Callback × Payload) :=
  (l.taken ++ l.viewer.display.notices).filterMap HostNotice.callback?

end RelayLog

/-- A run under log. -/
def relayLog (settings : ViewerSettings) (calls : List Call) : RelayLog :=
  calls.foldl RelayLog.after (.create settings)

/-- Keeping a log changes nothing. -/
lemma viewer_relayLog (settings : ViewerSettings) (calls : List Call) :
    (relayLog settings calls).viewer = run settings calls :=
  (List.foldl_hom RelayLog.viewer fun _ _ => rfl).symm

namespace RelayLog

/-- What the log says is right. -/
structure Kept (l : RelayLog) : Prop where
  tied : l.viewer.Tied
  nodup : l.viewer.askedFor.Nodup
  asked : ∀ kind, kind ∈ l.viewer.askedFor ↔ kind ∈ l.asked
  /-- While a document is shown, each kind asked for before it was opened has one relay. -/
  relays : l.viewer.display.document? ≠ none → ∀ code,
    l.viewer.services.count (code, .relay) =
      if ∃ kind ∈ l.askedBefore, kind.code = code then 1 else 0
  waiting : l.waiting = l.viewer.inbox.callbacks
  accepted : l.dispatched.map Prod.fst ++ l.waiting = l.accepted
  got : l.got = l.dispatched.filterMap told?

variable {l : RelayLog} {viewer : Viewer}

lemma kept_create (settings : ViewerSettings) : (create settings).Kept where
  tied := ⟨rfl, fun _ => rfl⟩
  nodup := .nil
  asked := fun _ => Iff.rfl
  relays := fun showing => absurd rfl showing
  waiting := rfl
  accepted := rfl
  got := rfl

namespace Kept

/-- The handlers pass on what the log says the host gets. -/
lemma passedOn_eq (h : l.Kept)
    (attached : l.viewer.display.attached? = l.viewer.display.document?) (callback : Callback) :
    l.viewer.passedOn callback = (told? (callback, l.askedBefore?)).toList := by
  rw [passedOn, askedBefore?, isShowing, Display.isAttached, attached]
  cases shown : l.viewer.display.document? with
  | none =>
      rw [services_of_closed h.tied shown]
      rfl
  | some document =>
      rw [h.relays (shown ▸ Option.some_ne_none document)]
      simp only [Option.isSome_some, if_true, told?]
      split_ifs <;> rfl

lemma quiet (h : l.Kept) (same : Quiet l.viewer viewer) : Kept { l with viewer } where
  tied := same.tied h.tied
  nodup := same.askedFor ▸ h.nodup
  asked := same.askedFor ▸ h.asked
  relays := by
    intro showing code
    rw [same.services]
    exact h.relays (same.shown showing) code
  waiting := by rw [same.inbox, h.waiting]
  accepted := h.accepted
  got := by rw [← h.got, RelayLog.got, same.notices, RelayLog.got]

/-- Nothing is shown any more. -/
lemma closed (h : l.Kept) (tied : viewer.Tied) (inbox : viewer.inbox = l.viewer.inbox)
    (askedFor : viewer.askedFor = l.viewer.askedFor)
    (notices : viewer.display.notices = l.viewer.display.notices)
    (closed : viewer.display.document? = none) : Kept { l with viewer } where
  tied := tied
  nodup := askedFor ▸ h.nodup
  asked := askedFor ▸ h.asked
  relays := fun showing => absurd closed showing
  waiting := by rw [inbox, h.waiting]
  accepted := h.accepted
  got := by rw [← h.got, RelayLog.got, notices, RelayLog.got]

lemma openDocument {ε : Type} [Engine ε] (h : l.Kept) (engines : Engines ε) (engine : EngineId)
    (choice : ViewChoice) : (l.after (.openDocument engines engine choice)).Kept := by
  have tied := tied_openDocument h.tied engines engine choice
  have inbox := inbox_openDocument l.viewer engines engine choice
  have askedFor := askedFor_openDocument l.viewer engines engine choice
  have notices := notices_openDocument l.viewer engines engine choice
  simp only [RelayLog.after, note]
  split
  · next opened =>
    refine ⟨tied, askedFor ▸ h.nodup, askedFor ▸ h.asked, fun _ code => ?_, ?_, h.accepted, ?_⟩
    · refine (congrArg _ (services_openDocument h.tied opened)).trans ?_
      rw [count_relays h.nodup]
      simp only [h.asked]
    · exact h.waiting.trans (congrArg Inbox.callbacks inbox).symm
    · exact (congrArg (fun told => (l.taken ++ told).filterMap _) notices).trans h.got
  · next failed =>
    exact h.closed tied inbox askedFor notices (document?_openDocument_of_error failed)

lemma closeDocument {ε : Type} [Engine ε] (h : l.Kept) (engines : Engines ε) :
    (l.after (.closeDocument engines)).Kept := by
  have same := closeDocument_eq l.viewer engines
  have tied := tied_closeDocument h.tied engines
  refine h.closed tied (inbox_closeDocument _ engines) ?_ (notices_closeDocument _ engines) ?_ <;>
    · rw [Viewer.after, same]
      rfl

lemma deliver (h : l.Kept) (callback : Callback) : (l.after (.deliver callback)).Kept := by
  have tied : l.viewer.Tied := h.tied
  rw [RelayLog.after, note, Viewer.after, Viewer.deliver, Inbox.put]
  by_cases room : l.viewer.inbox.callbacks.length < l.viewer.inbox.capacity
  · rw [if_pos room]
    refine ⟨⟨tied.registered, tied.closed⟩, h.nodup, h.asked, h.relays, ?_, ?_, h.got⟩
    · exact congrArg (· ++ [callback]) h.waiting
    · exact (List.append_assoc _ _ _).symm.trans (congrArg (· ++ [callback]) h.accepted)
  · rw [if_neg room]
    exact ⟨⟨tied.registered, tied.closed⟩, h.nodup, h.asked, h.relays, h.waiting, h.accepted,
      h.got⟩

/-- Whatever waits is passed on if it is asked for, and nothing else is. -/
lemma dispatchAll (h : l.Kept)
    (attached : l.viewer.display.attached? = l.viewer.display.document?)
    (same : Undisturbed { l.viewer with inbox := l.viewer.inbox.emptied } viewer)
    (askedFor : viewer.askedFor = l.viewer.askedFor)
    (relayed : viewer.display.relayed =
      l.viewer.display.relayed ++ l.viewer.inbox.callbacks.flatMap l.viewer.passedOn) :
    Kept { l.dispatchAll with viewer } where
  tied := same.tied ⟨h.tied.registered, h.tied.closed⟩
  nodup := askedFor ▸ h.nodup
  asked := askedFor ▸ h.asked
  relays := by
    intro showing code
    rw [same.services]
    exact h.relays (same.shown showing) code
  waiting := by
    rw [same.inbox]
    rfl
  accepted := by
    refine Eq.trans ?_ h.accepted
    simp [RelayLog.dispatchAll, Function.comp_def]
  got := by
    have now : l.viewer.passedOn = fun callback => (told? (callback, l.askedBefore?)).toList :=
      funext (h.passedOn_eq attached)
    calc
      _ = l.taken.filterMap HostNotice.callback? ++ viewer.display.relayed := List.filterMap_append
      _ = l.got ++ l.waiting.flatMap fun callback => (told? (callback, l.askedBefore?)).toList := by
          rw [relayed, now, h.waiting, ← List.append_assoc, RelayLog.got, List.filterMap_append]
          rfl
      _ = l.dispatched.filterMap told? ++
            (l.waiting.map fun callback => (callback, l.askedBefore?)).filterMap told? := by
          rw [h.got, List.filterMap_map, List.filterMap_eq_flatMap_toList _ l.waiting]
          rfl
      _ = _ := List.filterMap_append.symm

lemma process {ε : Type} [Engine ε] (h : l.Kept)
    (attached : l.viewer.display.attached? = l.viewer.display.document?) (engines : Engines ε) :
    (l.after (.process engines)).Kept :=
  h.dispatchAll attached (undisturbed_process l.viewer engines)
    (edited_process l.viewer engines).askedFor (relayed_process l.viewer engines)

lemma paint {ε σ : Type} [Engine ε] (h : l.Kept)
    (attached : l.viewer.display.attached? = l.viewer.display.document?) (engines : Engines ε)
    (surroundings : Surroundings σ) (t : σ) : (l.after (.paint engines surroundings t)).Kept := by
  obtain ⟨askedFor, notices⟩ := same_paint l.viewer engines surroundings t
  refine h.dispatchAll attached (undisturbed_paint l.viewer engines surroundings t) ?_ ?_
  · exact askedFor.trans (edited_process l.viewer engines).askedFor
  · exact (congrArg (List.filterMap _) notices).trans (relayed_process l.viewer engines)

lemma askFor (h : l.Kept) (kind : CallbackKind) : (l.after (.askFor kind)).Kept := by
  have same := undisturbed_askFor l.viewer kind
  have display := display_askFor l.viewer kind
  refine ⟨same.tied h.tied, nodup_askedFor_askFor h.nodup kind, fun other => ?_,
    fun showing code => ?_, ?_, h.accepted, ?_⟩
  · show other ∈ (l.viewer.askFor kind).askedFor ↔ other ∈ l.asked ++ [kind]
    rw [mem_askedFor_askFor, h.asked, List.mem_append, List.mem_singleton]
  · show List.count _ (l.viewer.askFor kind).services = _
    rw [same.services]
    exact h.relays (same.shown showing) code
  · exact h.waiting.trans (congrArg Inbox.callbacks same.inbox).symm
  · exact (congrArg (fun d : Display => (l.taken ++ d.notices).filterMap _) display).trans h.got

/-- What the host takes no longer waits for it. -/
lemma takeNotices (h : l.Kept) : (l.after .takeNotices).Kept :=
  ⟨⟨h.tied.registered, h.tied.closed⟩, h.nodup, h.asked, h.relays, h.waiting, h.accepted,
    (congrArg (List.filterMap _) (List.append_nil _)).trans h.got⟩

/-- **Every call keeps the log right.** -/
theorem after (h : l.Kept)
    (attached : l.viewer.display.attached? = l.viewer.display.document?) (call : Call) :
    (l.after call).Kept := by
  cases call with
  | openDocument engines engine choice => exact h.openDocument engines engine choice
  | closeDocument engines => exact h.closeDocument engines
  | deliver callback => exact h.deliver callback
  | process engines => exact h.process attached engines
  | paint engines surroundings t => exact h.paint attached engines surroundings t
  | setViewRect cssRect deviceScale => exact h.quiet (quiet_applyViewport _ _)
  | setZoom zoom => exact h.quiet (quiet_applyViewport _ _)
  | scrollTo position => exact h.quiet (quiet_scrollTo _ position)
  | showPart part => exact h.quiet (quiet_showPart _ part)
  | askFor kind => exact h.askFor kind
  | takeNotices => exact h.takeNotices
  | redraw | submit => exact h.quiet ⟨⟨rfl, rfl, rfl, rfl⟩, rfl, rfl⟩

end Kept

end RelayLog

lemma kept_relayLog (settings : ViewerSettings) (calls : List Call) :
    (relayLog settings calls).Kept := by
  induction calls using List.reverseRecOn with
  | nil => exact RelayLog.kept_create settings
  | append_singleton earlier call ih =>
      rw [relayLog, List.foldl_concat, ← relayLog]
      refine ih.after ?_ call
      rw [viewer_relayLog]
      exact (regular_run settings earlier).attached?_eq

/-- **Callbacks reach the host once and in order.**  Along every run, what the host has taken and
what waits for it are together the callbacks that were dispatched while a document was shown and
whose kind had been asked for before that document was opened: each of them once, in the order in
which they were accepted, with its decoded payload.  A host that takes its notices has got them
all. -/
theorem relayed_once (settings : ViewerSettings) (calls : List Call) :
    let l := relayLog settings calls
    l.viewer = run settings calls ∧
    (l.waiting = l.viewer.inbox.callbacks ∧ l.dispatched.map Prod.fst ++ l.waiting = l.accepted) ∧
    (l.taken ++ l.viewer.display.notices).filterMap HostNotice.callback? =
      l.dispatched.filterMap RelayLog.told? ∧
    (relayLog settings (calls ++ [.takeNotices])).taken.filterMap HostNotice.callback? =
      l.dispatched.filterMap RelayLog.told? := by
  have kept := kept_relayLog settings calls
  refine ⟨viewer_relayLog settings calls, ⟨kept.waiting, kept.accepted⟩, kept.got, ?_⟩
  rw [relayLog, List.foldl_concat, ← relayLog]
  exact kept.got

/-- A letter whose host asks for cell cursors twice, and for parts only after it was opened. -/
def askedTwice : List Call :=
  let opened := (create .default).openDocument twoLetters 0 .selected
  [.askFor .cellCursor, .askFor .cellCursor, .openDocument twoLetters 0 .selected,
    .askFor .setPart, .deliver (.ofText CallbackKind.cellCursor.code "1,2"),
    .deliver (.ofText CallbackKind.setPart.code "3"), .process opened.2.2, .takeNotices]

example : ((relayLog .default askedTwice).taken.filterMap HostNotice.callback?).map (·.1.code) =
    [CallbackKind.cellCursor.code] := by decide +kernel

end Viewer

end TiledView
