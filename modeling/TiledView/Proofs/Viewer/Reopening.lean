import TiledView.Proofs.Document.Attaching
import TiledView.Proofs.Viewer.Arrivals
import TiledView.Proofs.Viewer.Lending

/-!
# Opening a document after another one

A viewer that shows a document closes it before it opens the next one.  The handlers, the caches and
the late drawings of the old document go first, and nothing can keep them; but its engine has to be
told that the view is given up, and the queue of this engine may have ended.

* `Viewer.opens_iff` — the next document is opened exactly if the engine of the old one answers what
  it takes to close it (`ShownDocument.CanClose`).  If it does not, nothing is shown and nothing is
  left of the old document, and opening the next one a second time succeeds.
* `Viewer.Renewed` — nothing of the old document has got into the new one.
-/

namespace TiledView

variable {ε : Type}

/-- The engine of a document answers what it takes to close it. -/
def ShownDocument.CanClose [Engine ε] (document : ShownDocument) (engines : Engines ε) : Prop :=
  ∃ queue, engines[document.engine]? = some queue ∧
    queue.Answers (Session.callsToDetach queue.settle.engine)

/-- Gives up the view of a document. -/
def ShownDocument.release [Engine ε] (document : ShownDocument) (engines : Engines ε) :
    Except SessionError Unit × Engines ε :=
  engines.use document.engine (fun error => .error (.engine error)) fun queue =>
    ((document.session.detach queue).1, (document.session.detach queue).2.2)

namespace ShownDocument

variable [Engine ε] {document : ShownDocument} {engines : Engines ε} {engine : EngineId}

lemma release_ok_iff (attached : document.session.isAttached = true) (engines : Engines ε) :
    (document.release engines).1 = .ok () ↔ document.CanClose engines := by
  rw [release, Engines.use, CanClose]
  cases found : engines[document.engine]? with
  | none => simp
  | some queue =>
      obtain ⟨answer, queue', detached, exchange⟩ := Session.exchange_detach attached queue
      simp only [detached, Option.some.injEq, exists_eq_left']
      cases exchange with
      | answered _ lasts => exact ⟨fun _ => lasts, fun _ => rfl⟩
      | closed _ ends => exact ⟨fun ok => (by cases ok), fun lasts => absurd lasts ends⟩

/-- Releasing a document does not end any queue. -/
lemma answers_release (attached : document.session.isAttached = true) {queue : TaskQueue ε Bitmap}
    (found : engines[engine]? = some queue) (lasting : ∀ n, queue.Answers n) :
    ∃ queue', (document.release engines).2[engine]? = some queue' ∧ ∀ n, queue'.Answers n := by
  rw [release, Engines.getElem?_use, found]
  split_ifs
  · obtain ⟨answer, queue', detached, exchange⟩ := Session.exchange_detach attached queue
    refine ⟨queue', by rw [Option.map_some, detached], ?_⟩
    cases exchange with
    | answered _ _ _ left => exact fun n => (left n).2 (lasting _)
    | closed _ ends => exact absurd (lasting _) ends
  · exact ⟨queue, rfl, lasting⟩

end ShownDocument

namespace Viewer

variable [Engine ε] {v v' : Viewer} {engines : Engines ε} {engine : EngineId} {choice : ViewChoice}
  {document : ShownDocument} {queue : TaskQueue ε Bitmap}

/-! ## Closing -/

lemma closeDocument_of_shown (shown : v.display.document? = some document) (engines : Engines ε) :
    (v.closeDocument engines).1 = (document.release engines).1.mapError .session ∧
      (v.closeDocument engines).2.2 = (document.release engines).2 := by
  rw [closeDocument, shown]
  exact ⟨rfl, rfl⟩

lemma closeDocument_of_not_shown (closed : v.display.document? = none) (engines : Engines ε) :
    (v.closeDocument engines).1 = .ok () ∧ (v.closeDocument engines).2.2 = engines := by
  rw [closeDocument, closed]
  exact ⟨rfl, rfl⟩

/-- Closing goes well exactly if the engine of what is shown answers. -/
lemma closeDocument_ok_iff
    (attached : ∀ document, v.display.document? = some document →
      document.session.isAttached = true) (engines : Engines ε) :
    (v.closeDocument engines).1 = .ok () ↔
      ∀ document, v.display.document? = some document → document.CanClose engines := by
  cases shown : v.display.document? with
  | none => exact ⟨fun _ _ => nofun, fun _ => (closeDocument_of_not_shown shown engines).1⟩
  | some document =>
      have closes := document.release_ok_iff (attached document shown) engines
      rw [(closeDocument_of_shown shown engines).1]
      simp only [Option.some.injEq, forall_eq']
      rw [← closes]
      cases (document.release engines).1 with
      | ok => exact ⟨fun _ => rfl, fun _ => rfl⟩
      | error => exact ⟨nofun, nofun⟩

/-- Closing a document does not end any queue. -/
lemma answers_closeDocument
    (attached : ∀ document, v.display.document? = some document →
      document.session.isAttached = true)
    (found : engines[engine]? = some queue) (lasting : ∀ n, queue.Answers n) :
    ∃ queue', (v.closeDocument engines).2.2[engine]? = some queue' ∧ ∀ n, queue'.Answers n := by
  cases shown : v.display.document? with
  | none =>
      rw [(closeDocument_of_not_shown shown engines).2]
      exact ⟨queue, found, lasting⟩
  | some document =>
      rw [(closeDocument_of_shown shown engines).2]
      exact document.answers_release (attached document shown) found lasting

/-! ## Opening -/

lemma startSession_of_lasting (lasting : ∀ n, queue.Answers n) (language : String)
    (choice : ViewChoice) : ∃ session queue',
      startSession language choice queue = (.ok session, queue') ∧
        session.view? = some (Session.obtained choice queue.settle.engine).1 := by
  have attaches := Session.attaches (s := .initial) rfl choice queue
  rw [startSession]
  generalize Session.initial.attach choice queue = result at attaches ⊢
  cases attaches with
  | attached session queue' _ view left =>
      have ready := TaskQueue.await_of_answers ((left 1).2 (lasting _))
        fun engine => prepareView (Session.obtained choice queue.settle.engine).1 language
          (Engine.selectView (Session.obtained choice queue.settle.engine).1 engine)
      dsimp only
      rw [TaskQueue.awaitIn, ready]
      exact ⟨session, _, rfl, view⟩
  | unread _ _ ends => exact absurd (lasting _) ends
  | refused _ ends => exact absurd (lasting _) ends

/-- A document is opened where none is shown, if its engine lasts. -/
lemma openFirst_of_lasting (found : engines[engine]? = some queue) (lasting : ∀ n, queue.Answers n)
    (v : Viewer) (choice : ViewChoice) : ∃ session engines',
      v.openFirst engines engine choice = (.ok (), v.present ⟨engine, session⟩, engines') ∧
        session.view? = some (Session.obtained choice queue.settle.engine).1 := by
  obtain ⟨session, queue', started, view⟩ :=
    startSession_of_lasting lasting v.settings.language choice
  refine ⟨session, engines.setIfInBounds engine queue', ?_, view⟩
  rw [openFirst, Engines.use, found]
  dsimp only
  rw [started]

/-! ## What is left of the old document -/

/-- Nothing is shown, and nothing is left of what was shown before. -/
structure Bare (v : Viewer) : Prop where
  document? : v.display.document? = none
  caches : v.display.painter.cache.parts = #[]
  late : v.display.late = []
  registrations : v.dispatcher.registrations = []

/-- `v'` shows a document of `engine` in `view`.  All of its caches and registrations were made
after `v`, and no drawing is late. -/
structure Renewed (v : Viewer) (engine : EngineId) (view : ViewId) (v' : Viewer) : Prop where
  shown : ∃ session, v'.display.document? = some ⟨engine, session⟩ ∧ session.view? = some view
  caches : ∀ (part : Nat) (c : PartCache Float), v'.display.painter.cache.parts[part]? = some c →
    v.display.painter.cache.nextGeneration ≤ c.generation
  late : v'.display.late = []
  registrations : ∀ r ∈ v'.dispatcher.registrations, v.dispatcher.nextId ≤ r.id

lemma Renewed.of_counters {v'' : Viewer} {view : ViewId} (h : v'.Renewed engine view v'')
    (generation : v'.display.painter.cache.nextGeneration =
      v.display.painter.cache.nextGeneration)
    (id : v'.dispatcher.nextId = v.dispatcher.nextId) : v.Renewed engine view v'' where
  shown := h.shown
  caches := generation ▸ h.caches
  late := h.late
  registrations := id ▸ h.registrations

lemma bare_of_closed {settings : ViewerSettings} (regular : v.display.Regular settings)
    (tied : v.Tied) (closed : v.display.document? = none) : v.Bare where
  document? := closed
  caches := (regular.closed closed).2
  late := (regular.closed closed).1
  registrations := List.map_eq_nil_iff.1 (tied.registered.trans (tied.closed closed))

lemma bare_closeDocument (tied : v.Tied) (engines : Engines ε) :
    (v.closeDocument engines).2.1.Bare := by
  rw [closeDocument_eq]
  exact ⟨rfl, rfl, rfl, dispatcher_removeHandlers tied⟩

/-- Closing a document takes no generation and no registration number back. -/
lemma counters_closeDocument (v : Viewer) (engines : Engines ε) :
    (v.closeDocument engines).2.1.display.painter.cache.nextGeneration =
        v.display.painter.cache.nextGeneration ∧
      (v.closeDocument engines).2.1.dispatcher.nextId = v.dispatcher.nextId := by
  rw [closeDocument_eq]
  refine ⟨rfl, ?_⟩
  exact List.foldlRecOn (motive := fun d : Dispatcher Handler => d.nextId = v.dispatcher.nextId)
    v.registrations _ rfl fun _ ih _ _ => ih

lemma cache_redraw (d : Display) : d.redraw.painter.cache = d.painter.cache := by
  rw [Display.redraw, Painter.redraw, Painter.request]
  split <;> rfl

/-- Where there are no caches, all that are fitted are new. -/
lemma generation_fitCache {d : Display} (none : d.painter.cache.parts = #[]) {part : Nat}
    {c : PartCache Float} (found : d.fitCache.painter.cache.parts[part]? = some c) :
    d.painter.cache.nextGeneration ≤ c.generation := by
  cases shown : d.attached? with
  | none =>
      rw [Display.fitCache, shown, none] at found
      cases found
  | some document =>
      rw [Display.fitCache_of_attached shown] at found
      obtain ⟨-, size, -, fitted⟩ := DocumentCache.fit_spec d.painter.cache
        document.session.drawnParts d.viewport.scale document.session.documentSize
      obtain ⟨c', found', fits⟩ := fitted part (size ▸ (Array.getElem?_eq_some_iff.1 found).1)
      obtain rfl : c' = c := Option.some.inj (found'.symm.trans found)
      cases fits with
      | kept _ old =>
          rw [none] at old
          cases old
      | built generation fresh => exact fresh.1

lemma registrations_registerHandlers (bare : v.dispatcher.registrations = []) :
    ∀ r ∈ v.registerHandlers.dispatcher.registrations, v.dispatcher.nextId ≤ r.id := by
  refine (List.foldlRecOn (motive := fun result : Viewer =>
    v.dispatcher.nextId ≤ result.dispatcher.nextId ∧
      ∀ r ∈ result.dispatcher.registrations, v.dispatcher.nextId ≤ r.id) v.handlers register
    ⟨Nat.le_refl _, bare ▸ fun _ mem => absurd mem List.not_mem_nil⟩ ?_).2
  rintro result ⟨le, old⟩ entry -
  refine ⟨Nat.le_succ_of_le le, fun r mem => ?_⟩
  rcases List.mem_append.1 mem with before | new
  · exact old r before
  · rw [List.mem_singleton.1 new]
    exact le

lemma renewed_present (document : ShownDocument) (bare : v.Bare) {view : ViewId}
    (obtained : document.session.view? = some view) :
    v.Renewed document.engine view (v.present document) where
  shown := ⟨document.session, document?_present v document, obtained⟩
  caches := by
    intro part c found
    rw [display_present, cache_redraw] at found
    exact generation_fitCache (d := { v.display with document? := some document, part := 0 })
      bare.caches found
  late := by
    rw [display_present]
    exact (Display.late_fitCache _).trans bare.late
  registrations := registrations_registerHandlers
    (v := v.modifyDisplay fun d => { d with document? := some document, part := 0 })
    bare.registrations

/-- What is opened where nothing is left. -/
lemma renewed_openFirst (bare : v.Bare) (found : engines[engine]? = some queue)
    (lasting : ∀ n, queue.Answers n) (choice : ViewChoice) :
    (v.openDocument engines engine choice).1 = .ok () ∧
      v.Renewed engine (Session.obtained choice queue.settle.engine).1
        (v.openDocument engines engine choice).2.1 := by
  obtain ⟨session, engines', opened, view⟩ := openFirst_of_lasting found lasting v choice
  rw [openDocument, bare.document?]
  dsimp only
  rw [opened]
  exact ⟨rfl, renewed_present ⟨engine, session⟩ bare view⟩

/-! ## Opening the next document -/

/-- **Opening a document after another one.**  It succeeds exactly if the engine of the old document
answers what it takes to close it.  If so, nothing of the old document is left in the new one.
Otherwise nothing is shown and nothing is left, and opening the document again succeeds. -/
theorem opens_iff (settings : ViewerSettings) (calls : List Call) (engines : Engines ε)
    {engine : EngineId} {queue : TaskQueue ε Bitmap} (found : engines[engine]? = some queue)
    (lasting : queue.remaining? = none) (choice : ViewChoice) :
    let v := run settings calls
    let opened := v.openDocument engines engine choice
    let again := opened.2.1.openDocument opened.2.2 engine choice
    ∃ queue', (v.closeDocument engines).2.2[engine]? = some queue' ∧
      let view := (Session.obtained choice queue'.settle.engine).1
      (opened.1 = .ok () ↔
        ∀ document, v.display.document? = some document → document.CanClose engines) ∧
      (opened.1 = .ok () → v.Renewed engine view opened.2.1) ∧
      (opened.1 ≠ .ok () →
        opened.2.1.Bare ∧ again.1 = .ok () ∧ v.Renewed engine view again.2.1) := by
  have regular := regular_run settings calls
  have tied : (run settings calls).Tied :=
    viewer_watch settings calls ▸ (proper_watch settings calls).tied
  have answers := TaskQueue.answers_of_lasting lasting
  generalize run settings calls = v at regular tied
  have closable := closeDocument_ok_iff regular.attached engines
  cases shown : v.display.document? with
  | none =>
      obtain ⟨closed, free⟩ := closeDocument_of_not_shown shown engines
      have bare := bare_of_closed regular tied shown
      obtain ⟨opened, renewed⟩ := renewed_openFirst bare found answers choice
      exact ⟨queue, free.symm ▸ found, ⟨fun _ => closable.1 closed, fun _ => opened⟩,
        fun _ => renewed, fun failed => absurd opened failed⟩
  | some document =>
      obtain ⟨queue', found', answers'⟩ :=
        answers_closeDocument (v := v) regular.attached found answers
      have bare := bare_closeDocument tied engines
      obtain ⟨generation, id⟩ := counters_closeDocument v engines
      refine ⟨queue', found', ?_⟩
      rw [← closable, openDocument, shown]
      generalize v.closeDocument engines = result at found' bare generation id ⊢
      obtain ⟨answer, v', engines'⟩ := result
      obtain ⟨opened, renewed⟩ := renewed_openFirst bare found' answers' choice
      replace renewed := renewed.of_counters generation id
      -- What follows a failed closing is the second call, and it starts from the same bare viewer.
      cases answer with
      | ok =>
          rw [openDocument, bare.document?] at opened renewed
          exact ⟨⟨fun _ => rfl, fun _ => opened⟩, fun _ => renewed,
            fun failed => absurd opened failed⟩
      | error => exact ⟨Iff.rfl, fun ok => (by cases ok), fun _ => ⟨bare, opened, renewed⟩⟩

/-- An engine that has ended, and one that has not. -/
def endedLetter : Engines Simulation.RecordingEngine :=
  let letter : TaskQueue Simulation.RecordingEngine Bitmap :=
    .start (.create .text 1 ⟨900, 450⟩ "" false)
  #[letter.shutdown, letter]

theorem opens_iff_endedLetter :
    let v := run .default [.openDocument twoLetters 0 .selected]
    let opened := v.openDocument endedLetter 1 .selected
    let again := opened.2.1.openDocument opened.2.2 1 .selected
    endedLetter[1]? = some (.start (.create .text 1 ⟨900, 450⟩ "" false)) ∧
      opened.1 = .error (.session (.engine .closed)) ∧ opened.2.1.Bare ∧ again.1 = .ok () ∧
      ∃ view, v.Renewed 1 view again.2.1 := by
  have failed : ((run .default [.openDocument twoLetters 0 .selected]).openDocument endedLetter 1
      .selected).1 = .error (.session (.engine .closed)) := by decide +kernel
  have found : endedLetter[1]? = some (.start (.create .text 1 ⟨900, 450⟩ "" false)) := rfl
  obtain ⟨queue, -, -, -, left⟩ := opens_iff .default [.openDocument twoLetters 0 .selected]
    endedLetter found rfl .selected
  obtain ⟨bare, again, renewed⟩ := left (by rw [failed]; nofun)
  exact ⟨found, failed, bare, again, _, renewed⟩

/-- A document is not opened because the engine of another one has ended. -/
theorem refused_endedLetter :
    let v := run .default [.openDocument twoLetters 0 .selected]
    let opened := v.openDocument endedLetter 1 .selected
    v.isShowing = true ∧ (endedLetter[1]?.map (·.remaining?)) = some none ∧
      opened.1 = .error (.session (.engine .closed)) ∧ opened.2.1.isShowing = false := by
  decide +kernel

end Viewer

end TiledView
