import TiledView.Proofs.Viewer.Steps
import TiledView.Simulation.RecordingEngine

/-!
# The document that a callback is handled for

The inbox of a viewer knows of no documents.  It is not emptied when a document is closed, and a
callback that waits in it then is handled for the document that is opened next.

`Watch` goes along with a run and writes down for every callback which document was shown when it
arrived, and which when its handlers ran; documents are numbered in the order of their opening.
`Viewer.handled_for_own_iff` says how the two compare: they are the same exactly when no document
was opened while the callback waited.  That they may differ is
`Viewer.handled_for_other_letter`.
-/

namespace TiledView

/-! ## Dispatching -/

namespace Dispatcher

variable {η κ : Type}

lemma registrations_foldl_remove (ids : List RegistrationId) (d : Dispatcher η) :
    (ids.foldl (fun d id => (d.remove id).2) d).registrations =
      d.registrations.filter fun r => r.id ∉ ids := by
  induction ids generalizing d with
  | nil => simp
  | cons id ids ih =>
      rw [List.foldl_cons, ih, remove, List.filter_filter]
      refine List.filter_congr fun r _ => ?_
      rw [Bool.eq_iff_iff]
      simp [and_comm]

/-- A callback without handlers does nothing. -/
lemma dispatch_of_not_serves {d : Dispatcher η} {callback : Callback}
    (none : d.serves callback.code = false) (run : η → Callback → Payload → κ → κ) (context : κ) :
    (d.dispatch run callback context).2 = context := by
  have nothing : d.registeredFor callback.code = [] := by
    rw [registeredFor, List.filter_eq_nil_iff]
    exact List.any_eq_false.1 none
  rw [dispatch, nothing]
  rfl

end Dispatcher

/-! ## Whether a document is shown -/

namespace Display

variable {ε : Type} {d d' : Display}

@[simp] lemma document?_fitCache (d : Display) : d.fitCache.document? = d.document? := by
  rw [fitCache]
  split <;> rfl

/-- Edits neither open nor close a document. -/
lemma Edit.isNone (edit : Edit d d') : d'.document?.isNone = d.document?.isNone := by
  cases edit with
  | notices | viewport | place | staleAll | request | receive => rfl
  | session _ document session shown => rw [shown]; rfl
  | fitCache => rw [document?_fitCache]
  | collectLate _ engines =>
      refine List.foldlRecOn (motive := fun result : Display × Engines _ =>
        result.1.document?.isNone = d.document?.isNone) d.late _ rfl ?_
      intro result ih late _
      rw [← ih, collectOne]
      split <;> rfl

lemma Edits.isNone (edits : Edits d d') : d'.document?.isNone = d.document?.isNone :=
  keeps_of_chain (P := fun other => other.document?.isNone = d.document?.isNone)
    (fun _ _ edit same => edit.isNone.trans same) edits rfl

end Display

namespace Viewer

open Display

variable {ε σ : Type} {v v' : Viewer}

/-! ## Handlers -/

/-- The registrations in force are those of the viewer, and there are none while nothing is
shown. -/
structure Tied (v : Viewer) : Prop where
  registered : v.dispatcher.registrations.map (·.id) = v.registrations
  closed : v.display.document? = none → v.registrations = []

/-- Handlers, waiting callbacks and the document are the same. -/
structure Undisturbed (v v' : Viewer) : Prop where
  dispatcher : v'.dispatcher = v.dispatcher
  registrations : v'.registrations = v.registrations
  inbox : v'.inbox = v.inbox
  document? : v'.display.document?.isNone = v.display.document?.isNone

lemma Undisturbed.tied (h : Undisturbed v v') (tied : v.Tied) : v'.Tied where
  registered := by rw [h.dispatcher, h.registrations, tied.registered]
  closed := by
    intro closed
    rw [h.registrations]
    refine tied.closed (Option.isNone_iff_eq_none.1 ?_)
    rw [← h.document?, closed]
    rfl

lemma Tied.serves_eq_false (tied : v.Tied) (closed : v.display.document? = none) (code : Int) :
    v.dispatcher.serves code = false := by
  have none := tied.registered.trans (tied.closed closed)
  rw [Dispatcher.serves, List.map_eq_nil_iff.1 none, List.any_nil]

/-- A callback without handlers changes nothing. -/
lemma handle_of_not_serves [Engine ε] {callback : Callback}
    (none : v.dispatcher.serves callback.code = false) (engines : Engines ε) :
    handle (v, engines) callback = (v, engines) := by
  have same := Dispatcher.dispatch_of_not_serves none Handler.run (v.display, engines)
  exact congrArg (fun d : Display × Engines ε => ({ v with display := d.1 }, d.2)) same

lemma registered_registerHandlers (registered : v.dispatcher.registrations.map (·.id) =
    v.registrations) : v.registerHandlers.dispatcher.registrations.map (·.id) =
      v.registerHandlers.registrations := by
  refine List.foldlRecOn (motive := fun result : Viewer =>
    result.dispatcher.registrations.map (·.id) = result.registrations) v.handlers register
    registered ?_
  intro result ih entry _
  simp only [register, Dispatcher.register, List.map_append, ih]
  rfl

lemma dispatcher_removeHandlers (tied : v.Tied) :
    v.removeHandlers.dispatcher.registrations = [] := by
  rw [removeHandlers, Dispatcher.registrations_foldl_remove, ← tied.registered,
    List.filter_eq_nil_iff]
  intro r mem
  simpa using ⟨r, mem, rfl⟩

/-- What is presented is shown. -/
lemma document?_present (v : Viewer) (document : ShownDocument) :
    (v.present document).display.document? = some document := by
  rw [display_present]
  exact Display.document?_fitCache _

section Engines

variable [Engine ε]

lemma tied_closeDocument (tied : v.Tied) (engines : Engines ε) :
    (v.closeDocument engines).2.1.Tied := by
  rw [closeDocument_eq]
  refine ⟨?_, fun _ => rfl⟩
  show v.removeHandlers.dispatcher.registrations.map (·.id) = []
  rw [dispatcher_removeHandlers tied, List.map_nil]

lemma tied_present (tied : v.Tied) (document : ShownDocument) : (v.present document).Tied where
  registered := registered_registerHandlers tied.registered
  closed := fun closed => by rw [document?_present] at closed; cases closed

@[simp] lemma inbox_registerHandlers (v : Viewer) : v.registerHandlers.inbox = v.inbox :=
  List.foldlRecOn (motive := fun result : Viewer => result.inbox = v.inbox) v.handlers register
    rfl fun _ ih _ _ => ih

lemma inbox_openFirst (v : Viewer) (engines : Engines ε) (engine : EngineId)
    (choice : ViewChoice) : (v.openFirst engines engine choice).2.1.inbox = v.inbox := by
  rcases openFirst_eq v engines engine choice with same | ⟨session, -, same⟩ <;> rw [same]
  exact inbox_registerHandlers _

lemma inbox_closeDocument (v : Viewer) (engines : Engines ε) :
    (v.closeDocument engines).2.1.inbox = v.inbox := by
  rw [closeDocument_eq]
  rfl

/-- Neither closing nor opening a document empties the inbox. -/
lemma inbox_openDocument (v : Viewer) (engines : Engines ε) (engine : EngineId)
    (choice : ViewChoice) : (v.openDocument engines engine choice).2.1.inbox = v.inbox := by
  rw [openDocument]
  split
  · exact inbox_openFirst v engines engine choice
  · have closed := inbox_closeDocument v engines
    split
    · next failed => exact failed ▸ closed
    · next done =>
      rw [done] at closed
      exact (inbox_openFirst _ _ engine choice).trans closed

lemma document?_openFirst_of_error {error : ViewerError} {engines : Engines ε} {engine : EngineId}
    {choice : ViewChoice} (failed : (v.openFirst engines engine choice).1 = .error error) :
    (v.openFirst engines engine choice).2.1 = v := by
  rw [openFirst] at failed ⊢
  dsimp only at failed ⊢
  split at failed
  · rfl
  · cases failed

/-- Where a document cannot be opened, none is shown. -/
lemma document?_openDocument_of_error {error : ViewerError} {engines : Engines ε}
    {engine : EngineId} {choice : ViewChoice}
    (failed : (v.openDocument engines engine choice).1 = .error error) :
    (v.openDocument engines engine choice).2.1.display.document? = none := by
  rw [openDocument] at failed ⊢
  split at failed
  · next closed =>
    rw [document?_openFirst_of_error failed]
    exact closed
  · have closed : (v.closeDocument engines).2.1.display.document? = none := by
      rw [closeDocument_eq]
      rfl
    split at failed
    · next refused =>
      rw [refused] at closed
      exact closed
    · next done =>
      rw [done] at closed
      rw [document?_openFirst_of_error failed]
      exact closed

lemma tied_openFirst (tied : v.Tied) (engines : Engines ε) (engine : EngineId)
    (choice : ViewChoice) : (v.openFirst engines engine choice).2.1.Tied := by
  rcases openFirst_eq v engines engine choice with same | ⟨session, -, same⟩ <;> rw [same]
  · exact tied
  · exact tied_present tied _

lemma tied_openDocument (tied : v.Tied) (engines : Engines ε) (engine : EngineId)
    (choice : ViewChoice) : (v.openDocument engines engine choice).2.1.Tied := by
  rw [openDocument]
  split
  · exact tied_openFirst tied engines engine choice
  · have closed := tied_closeDocument tied engines
    split
    · next failed => exact failed ▸ closed
    · next done =>
      rw [done] at closed
      exact tied_openFirst closed _ engine choice

/-- Processing handles callbacks, and nothing else that matters here. -/
lemma undisturbed_process (v : Viewer) (engines : Engines ε) :
    Undisturbed { v with inbox := v.inbox.emptied } (v.process engines).1 := by
  have edited := edited_process v engines
  exact ⟨edited.dispatcher, edited.registrations, edited.inbox, edited.edits.isNone⟩

lemma undisturbed_paint (v : Viewer) (engines : Engines ε) (surroundings : Surroundings σ)
    (t : σ) : Undisturbed { v with inbox := v.inbox.emptied }
      (v.paint engines surroundings t).2.1 := by
  have processed := undisturbed_process v engines
  rw [paint]
  dsimp only
  split
  · exact processed
  · split
    · exact processed
    · exact ⟨processed.dispatcher, processed.registrations, processed.inbox, processed.document?⟩

end Engines

/-! ## Requests of the host -/

lemma undisturbed_applyViewport (v : Viewer)
    (changed : Except ViewportError ViewportChange × Viewport) :
    Undisturbed v (v.applyViewport changed).2 := by
  rw [applyViewport]
  split
  · exact ⟨rfl, rfl, rfl, rfl⟩
  · next change _ =>
    refine ⟨rfl, rfl, rfl, ?_⟩
    cases change with
    | unchanged => rfl
    | changed scaleChanged surfaceResized =>
        show (fitCache _).document?.isNone = _
        rw [document?_fitCache]
        rfl

lemma undisturbed_scrollTo (v : Viewer) (position : Point .css Float) :
    Undisturbed v (v.scrollTo position).2 := by
  rw [scrollTo]
  split_ifs
  · rcases v.display.viewport.scrollTo_eq position v.display.documentSize with
      ⟨error, refused⟩ | ⟨shifts, scroll, scrolled⟩
    · rw [refused]
      exact ⟨rfl, rfl, rfl, rfl⟩
    · rw [scrolled]
      have moved := edits_foldl (fun (d : Display) (shift : AxisShift) =>
        d.edits_request (.scroll v.display.viewport.shownArea shift) trivial) shifts
        { v.display with viewport := { v.display.viewport with scroll } }
      exact ⟨rfl, rfl, rfl, moved.isNone⟩
  · exact ⟨rfl, rfl, rfl, rfl⟩

lemma undisturbed_showPart (v : Viewer) (part : Nat) : Undisturbed v (v.showPart part).2 := by
  rw [showPart]
  split
  · exact ⟨rfl, rfl, rfl, rfl⟩
  · split_ifs <;> exact ⟨rfl, rfl, rfl, rfl⟩

lemma undisturbed_askFor (v : Viewer) (kind : CallbackKind) : Undisturbed v (v.askFor kind) := by
  rw [askFor]
  split_ifs <;> exact ⟨rfl, rfl, rfl, rfl⟩

/-! ## Watching a run -/

/-- A callback that was put into the inbox. -/
structure Arrival where
  callback : Callback
  /-- The document that was shown when the callback arrived. -/
  document? : Option Nat
  /-- Whether a document was opened while the callback waited. -/
  overtaken : Bool

/-- A viewer and the callbacks that it has got. -/
structure Watch where
  viewer : Viewer
  /-- How many documents were opened.  The one that is shown is the last of them. -/
  opened : Nat
  /-- The callbacks in the inbox, oldest first. -/
  waiting : List Arrival
  /-- The callbacks that handlers ran for, and the document that was shown then. -/
  handled : List (Arrival × Option Nat)

namespace Watch

def create (settings : ViewerSettings) : Watch := ⟨.create settings, 0, [], []⟩

/-- The number of the document that is shown. -/
def shown? (w : Watch) : Option Nat := w.viewer.display.document?.map fun _ => w.opened

/-- A document has been opened. -/
def openNext (w : Watch) : Watch :=
  { w with
    opened := w.opened + 1
    waiting := w.waiting.map ({ · with overtaken := true }) }

/-- The inbox has been emptied. -/
def handle (w : Watch) : Watch :=
  { w with
    waiting := []
    handled := w.handled ++ (w.waiting.filter fun arrival =>
      w.viewer.dispatcher.serves arrival.callback.code).map fun arrival => (arrival, w.shown?) }

/-- A callback has been put into the inbox. -/
def receive (w : Watch) (callback : Callback) : Watch :=
  { w with waiting := w.waiting ++ [⟨callback, w.shown?, false⟩] }

/-- What a call adds to what is written down. -/
def note (w : Watch) : Call → Watch
  | @Call.openDocument _ _ engines engine choice =>
    match (w.viewer.openDocument engines engine choice).1 with
    | .ok () => w.openNext
    | .error _ => w
  | .deliver callback => if (w.viewer.deliver callback).1 then w.receive callback else w
  | @Call.process _ _ _ | @Call.paint _ _ _ _ _ _ => w.handle
  | _ => w

/-- Goes along with a call. -/
def after (w : Watch) (call : Call) : Watch :=
  { w.note call with viewer := w.viewer.after call }

end Watch

/-- A run under watch. -/
def watch (settings : ViewerSettings) (calls : List Call) : Watch :=
  calls.foldl Watch.after (.create settings)

/-- Watching changes nothing. -/
lemma viewer_watch (settings : ViewerSettings) (calls : List Call) :
    (watch settings calls).viewer = run settings calls :=
  (List.foldl_hom Watch.viewer fun _ _ => rfl).symm

namespace Watch

/-- What is written down is right. -/
structure Proper (w : Watch) : Prop where
  tied : w.viewer.Tied
  waiting : w.waiting.map (·.callback) = w.viewer.inbox.callbacks
  /-- No callback is of a document that was not opened yet. -/
  opened : ∀ arrival ∈ w.waiting, ∀ n, arrival.document? = some n → n ≤ w.opened
  /-- While a document is shown, the waiting callbacks of others are those that were overtaken. -/
  own : w.viewer.display.document? ≠ none → ∀ arrival ∈ w.waiting,
    (arrival.document? = some w.opened ↔ arrival.overtaken = false)
  handled : ∀ entry ∈ w.handled, ∃ n, entry.2 = some n ∧
    (entry.1.document? = some n ↔ entry.1.overtaken = false)

variable {w : Watch} {viewer : Viewer}

lemma proper_create (settings : ViewerSettings) : (create settings).Proper where
  tied := ⟨rfl, fun _ => rfl⟩
  waiting := rfl
  opened := fun _ mem => absurd mem List.not_mem_nil
  own := fun _ _ mem => absurd mem List.not_mem_nil
  handled := fun _ mem => absurd mem List.not_mem_nil

namespace Proper

lemma undisturbed (h : w.Proper) (same : Undisturbed w.viewer viewer) :
    Proper { w with viewer } where
  tied := same.tied h.tied
  waiting := by rw [same.inbox, h.waiting]
  opened := h.opened
  own := by
    intro showing
    refine h.own fun closed => showing (Option.isNone_iff_eq_none.1 ?_)
    rw [same.document?, closed]
    rfl
  handled := h.handled

/-- Nothing is shown any more. -/
lemma closed (h : w.Proper) (tied : viewer.Tied) (inbox : viewer.inbox = w.viewer.inbox)
    (closed : viewer.display.document? = none) : Proper { w with viewer } where
  tied := tied
  waiting := by rw [inbox, h.waiting]
  opened := h.opened
  own := fun showing => absurd closed showing
  handled := h.handled

/-- Everything that waits is of an earlier document than the new one. -/
lemma openNext (h : w.Proper) (tied : viewer.Tied) (inbox : viewer.inbox = w.viewer.inbox) :
    Proper { w.openNext with viewer } where
  tied := tied
  waiting := by
    rw [inbox, ← h.waiting, Watch.openNext, List.map_map]
    rfl
  opened := by
    intro arrival mem n document
    obtain ⟨old, hold, rfl⟩ := List.mem_map.1 mem
    exact Nat.le_succ_of_le (h.opened old hold n document)
  own := by
    intro _ arrival mem
    obtain ⟨old, hold, rfl⟩ := List.mem_map.1 mem
    refine ⟨fun document => ?_, fun overtaken => by cases overtaken⟩
    have le := h.opened old hold _ document
    exact absurd le (Nat.not_succ_le_self _)
  handled := h.handled

lemma receive (h : w.Proper) (callback : Callback) (dispatcher : viewer.Tied)
    (inbox : viewer.inbox.callbacks = w.viewer.inbox.callbacks ++ [callback])
    (display : viewer.display = w.viewer.display) : Proper { w.receive callback with viewer } where
  tied := dispatcher
  waiting := by rw [inbox, ← h.waiting, Watch.receive, List.map_append]; rfl
  opened := by
    intro arrival mem n document
    rcases List.mem_append.1 mem with old | new
    · exact h.opened arrival old n document
    · rw [List.mem_singleton.1 new] at document
      obtain ⟨-, -, rfl⟩ := Option.map_eq_some_iff.1 document
      exact Nat.le_refl _
  own := by
    intro showing arrival mem
    rw [display] at showing
    rcases List.mem_append.1 mem with old | new
    · exact h.own showing arrival old
    · obtain ⟨document, shown⟩ := Option.ne_none_iff_exists'.1 showing
      rw [List.mem_singleton.1 new]
      simp only [shown?, shown, Option.map_some]
      exact ⟨fun _ => trivial, fun _ => rfl⟩
  handled := h.handled

/-- Handlers run for waiting callbacks only while a document is shown. -/
lemma handle (h : w.Proper) (same : Undisturbed { w.viewer with inbox := w.viewer.inbox.emptied } viewer) :
    Proper { w.handle with viewer } where
  tied := same.tied ⟨h.tied.registered, h.tied.closed⟩
  waiting := by
    rw [same.inbox]
    rfl
  opened := fun _ mem => absurd mem List.not_mem_nil
  own := fun _ _ mem => absurd mem List.not_mem_nil
  handled := by
    intro entry mem
    rcases List.mem_append.1 mem with old | new
    · exact h.handled entry old
    · obtain ⟨arrival, served, rfl⟩ := List.mem_map.1 new
      obtain ⟨waiting, serves⟩ := List.mem_filter.1 served
      cases shown : w.viewer.display.document? with
      | none =>
          rw [h.tied.serves_eq_false shown] at serves
          cases serves
      | some document =>
          refine ⟨w.opened, ?_, ?_⟩
          · simp only [shown?, shown, Option.map_some]
          · exact h.own (shown ▸ Option.some_ne_none document) arrival waiting

/-- **Every call keeps what is written down right.** -/
theorem after (h : w.Proper) (call : Call) : (w.after call).Proper := by
  cases call with
  | openDocument engines engine choice =>
      have tied := tied_openDocument h.tied engines engine choice
      have inbox := inbox_openDocument w.viewer engines engine choice
      simp only [Watch.after, note]
      split
      · exact h.openNext tied inbox
      · next error failed => exact h.closed tied inbox (document?_openDocument_of_error failed)
  | closeDocument engines =>
      refine h.closed (tied_closeDocument h.tied engines) (inbox_closeDocument _ engines) ?_
      simp only [Viewer.after, closeDocument_eq]
      rfl
  | deliver callback =>
      rw [Watch.after, note, Viewer.after, deliver, Inbox.put]
      by_cases room : w.viewer.inbox.callbacks.length < w.viewer.inbox.capacity
      · rw [if_pos room]
        exact h.receive callback ⟨h.tied.registered, h.tied.closed⟩ rfl rfl
      · rw [if_neg room]
        exact ⟨⟨h.tied.registered, h.tied.closed⟩, h.waiting, h.opened, h.own, h.handled⟩
  | process engines => exact h.handle (undisturbed_process w.viewer engines)
  | paint engines surroundings t =>
      exact h.handle (undisturbed_paint w.viewer engines surroundings t)
  | setViewRect cssRect deviceScale => exact h.undisturbed (undisturbed_applyViewport _ _)
  | setZoom zoom => exact h.undisturbed (undisturbed_applyViewport _ _)
  | scrollTo position => exact h.undisturbed (undisturbed_scrollTo _ position)
  | showPart part => exact h.undisturbed (undisturbed_showPart _ part)
  | askFor kind => exact h.undisturbed (undisturbed_askFor _ kind)
  | redraw | takeNotices | submit => exact h.undisturbed ⟨rfl, rfl, rfl, rfl⟩

end Proper

end Watch

lemma proper_watch (settings : ViewerSettings) (calls : List Call) :
    (watch settings calls).Proper :=
  List.foldlRecOn calls Watch.after (Watch.proper_create settings) fun _ h call _ => h.after call

/-- **Which document a callback is handled for.**  Along every run, the handlers that run for a
callback are those of a document that is shown then, and it is the one that was shown when the
callback arrived exactly if no document was opened while the callback waited.  Without a handler in
force, a callback changes neither the viewer nor an engine; so it is while nothing is shown. -/
theorem handled_for_own_iff (settings : ViewerSettings) (calls : List Call) :
    let w := watch settings calls
    w.viewer = run settings calls ∧ w.waiting.map (·.callback) = w.viewer.inbox.callbacks ∧
      (∀ entry ∈ w.handled, ∃ n, entry.2 = some n ∧
        (entry.1.document? = some n ↔ entry.1.overtaken = false)) ∧
      (w.viewer.display.document? = none → ∀ code, w.viewer.dispatcher.serves code = false) ∧
      ∀ {ε : Type} [Engine ε] (engines : Engines ε) (callback : Callback),
        w.viewer.dispatcher.serves callback.code = false →
          handle (w.viewer, engines) callback = (w.viewer, engines) := by
  have proper := proper_watch settings calls
  refine ⟨viewer_watch settings calls, proper.waiting, proper.handled,
    fun closed => proper.tied.serves_eq_false closed, ?_⟩
  intro ε _ engines callback none
  exact handle_of_not_serves none engines

/-! ## A callback that waited too long -/

/-- Two engines, each with a letter of one page. -/
def twoLetters : Engines Simulation.RecordingEngine :=
  #[.start (.create .text 1 ⟨900, 450⟩ "" false), .start (.create .text 1 ⟨900, 450⟩ "" false)]

/-- The first letter is shown when a command status and an invalidation arrive; before they are
processed, the second letter is opened. -/
def lettersMixedUp : List Call :=
  let first := ((create .default).setViewRect ⟨0, 0, 4, 2⟩ 1).2.openDocument twoLetters 0 .selected
  let second := first.2.1.openDocument first.2.2 1 .selected
  [.setViewRect ⟨0, 0, 4, 2⟩ 1, .openDocument twoLetters 0 .selected,
    .deliver (.ofText CallbackKind.stateChanged.code ".uno:Undo=enabled"),
    .deliver (.ofText CallbackKind.invalidateTiles.code "EMPTY"),
    .openDocument first.2.2 1 .selected, .process second.2.2]

/-- Before a document is opened, callbacks have no handlers. -/
theorem handled_for_own_iff_unopened :
    let w := watch .default (lettersMixedUp.take 1)
    let callback := Callback.ofText CallbackKind.invalidateTiles.code "EMPTY"
    w.viewer.display.document? = none ∧ w.viewer.dispatcher.serves callback.code = false ∧
      handle (w.viewer, twoLetters) callback = (w.viewer, twoLetters) := by
  have closed : (watch .default (lettersMixedUp.take 1)).viewer.display.document? = none := by
    decide +kernel
  have own := handled_for_own_iff .default (lettersMixedUp.take 1)
  have none := own.2.2.2.1 closed
  exact ⟨closed, none _, own.2.2.2.2 twoLetters _ (none _)⟩

/-- Callbacks of one document are handled for another: they change its command statuses and tell the
host that it is ready. -/
theorem handled_for_other_letter :
    (¬ ∀ (settings : ViewerSettings) (calls : List Call),
      ∀ entry ∈ (watch settings calls).handled, ∀ n, entry.1.document? = some n →
        entry.2 = some n) ∧
    (run .default (lettersMixedUp.take 5)).canUndo = false ∧
    (run .default lettersMixedUp).canUndo = true ∧
    (run .default (lettersMixedUp.take 5)).display.notices.length = 0 ∧
    (run .default lettersMixedUp).display.notices.length = 1 := by
  refine ⟨?_, by decide +kernel, by decide +kernel, by decide +kernel, by decide +kernel⟩
  intro own
  have first : (watch .default lettersMixedUp).handled.head?.map
      (fun entry => (entry.1.document?, entry.2)) = some (some 1, some 2) := by decide +kernel
  obtain ⟨entry, found, mixed⟩ := Option.map_eq_some_iff.1 first
  have same := own .default lettersMixedUp entry (List.mem_of_mem_head? found) 1
    (congrArg Prod.fst mixed)
  rw [congrArg Prod.snd mixed] at same
  exact absurd (Option.some.inj same) (by decide)

end Viewer

end TiledView
