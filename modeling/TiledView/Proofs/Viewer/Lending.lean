import TiledView.Proofs.Engine.Replies
import TiledView.Proofs.Viewer.Regular
import TiledView.Simulation.ViewerBench

/-!
# No tile is stuck

A tile whose bitmap is lent is neither drawn again nor shown, so its bitmap has to come back.  The
viewer remembers every drawing that missed its paint pass.  `Display.Booked` says that the keys of
these drawings are books of the tile cache, which every call keeps.

* `Viewer.booked_run` — this holds after every run, for each ledger: the late drawings owe the
  bitmaps that are lent, each of them one, if nothing but the viewer delivers drawings.
* `Viewer.owes_of_mem_late_process` — processing keeps a late drawing only while its engine owes it.
* `Viewer.lent_iff_late` — so a lent tile is home again once its drawing was answered or dropped
  and callbacks were processed.
-/

namespace TiledView

variable {ε σ : Type}

/-- In a list without repetitions, an entry is told by what makes it differ from the others. -/
lemma filter_eq_singleton_of_nodup_map {α β : Type} [DecidableEq β] {f : α → β} {l : List α}
    (once : (l.map f).Nodup) {a : α} (mem : a ∈ l) : l.filter (fun b => f b = f a) = [a] := by
  induction l with
  | nil => exact absurd mem List.not_mem_nil
  | cons b l ih =>
      obtain ⟨apart, once⟩ := List.nodup_cons.1 once
      rcases List.mem_cons.1 mem with rfl | later
      · rw [List.filter_cons_of_pos (by exact decide_eq_true rfl), List.filter_eq_nil_iff.2]
        intro other hother same
        exact apart (List.mem_map.2 ⟨other, hother, of_decide_eq_true same⟩)
      · rw [List.filter_cons_of_neg, ih once later]
        intro same
        exact apart (List.mem_map.2 ⟨a, later, (of_decide_eq_true same).symm⟩)

/-! ## The renderer of a viewer -/

section Renderer

variable [Engine ε]

/-- A drawing that is put off is a late one, and no other drawing is. -/
lemma EngineDrawing.late_draw (surroundings : Surroundings σ) (engine : EngineId) (view : ViewId)
    (job : DrawJob) (deadline : Nat) (s : EngineDrawing ε σ) :
    let drawn := EngineDrawing.draw surroundings engine view job deadline s
    (drawn.1 = .deferred ∧ drawn.2.late.map (·.key) = s.late.map (·.key) ++ [job.key]) ∨
      (drawn.1 ≠ .deferred ∧ drawn.2.late.map (·.key) = s.late.map (·.key)) := by
  simp only [draw]
  rcases s.engines.use engine Except.error
    (·.postIn view (Engine.drawBitmap job.bitmap job.area)) with ⟨_ | ticket, engines⟩
  · exact .inr ⟨nofun, rfl⟩
  · dsimp only
    rcases engines.use engine Except.error (fun queue => (queue.advance
      (surroundings.progress engine deadline s.surroundings).1).collect ticket) with
      ⟨_ | _ | _, engines'⟩
    · exact .inr ⟨nofun, rfl⟩
    · exact .inl ⟨rfl, List.map_append⟩
    · exact .inr ⟨nofun, rfl⟩

/-- The late drawings are the books of the renderer. -/
lemma books_engineRenderer (surroundings : Surroundings σ) (engine : EngineId) (view : ViewId) :
    (SubmittingRenderer.ofRenderer (engineRenderer (ε := ε) surroundings engine view)).Books
      fun s => s.late.map (·.key) where
  now := fun _ => rfl
  deferred := by
    intro job deadline s deferred
    rcases EngineDrawing.late_draw surroundings engine view job deadline s with
      ⟨-, late⟩ | ⟨answered, -⟩
    · exact late
    · exact absurd deferred answered
  answered := by
    intro job deadline s answered
    rcases EngineDrawing.late_draw surroundings engine view job deadline s with
      ⟨deferred, -⟩ | ⟨-, late⟩
    · exact absurd deferred answered
    · exact late

end Renderer

/-! ## Displays -/

namespace Display

variable {settings : ViewerSettings} {d d' : Display}

/-- The late drawings are the books of the caches, and nothing but what `ok` allows has been
submitted from outside. -/
structure Booked (ok : TileKey → DrawOutcome → Prop) (P : DocumentCache → List TileKey → Prop)
    (d : Display) : Prop where
  books : P d.painter.cache (d.late.map (·.key))
  waiting : ∀ request ∈ d.painter.inbox, request.Delivers ok

section Ledger

variable {ok : TileKey → DrawOutcome → Prop} {P : DocumentCache → List TileKey → Prop}
  (ledger : DocumentCache.Ledger ok P)

include ledger

/-- Handing on the outcomes of late drawings: `lates` are still to be asked for. -/
lemma booked_foldl_collectOne (lates : List LateDrawing) {d : Display × Engines ε}
    (idle : d.1.painter.phase = .idle) (inPlace : d.1.painter.cache.InPlace)
    (waiting : ∀ request ∈ d.1.painter.inbox, request.Delivers ok)
    (h : P d.1.painter.cache (d.1.late.map (·.key) ++ lates.map (·.key))) :
    (lates.foldl collectOne d).1.Booked ok P := by
  induction lates generalizing d with
  | nil =>
      rw [List.map_nil, List.append_nil] at h
      exact ⟨h, waiting⟩
  | cons late lates ih =>
      rw [List.foldl_cons, collectOne]
      split
      · next outcome engines _ =>
        have taken := ledger.takeBack h inPlace outcome
        refine ih ?_ ?_ ?_ ?_
        all_goals
          dsimp only [Display.request]
          rw [Painter.request_of_idle idle]
        · exact (Painter.sameFrame_carryOut _ _).phase.trans idle
        · rw [Painter.carryOut, Painter.cache_takeBack]
          exact DocumentCache.InPlace.of_outline inPlace (DocumentCache.outline_takeBack _ _)
        · rw [(Painter.rest_carryOut _ _).2.1]
          exact waiting
        · rw [Painter.carryOut, Painter.cache_takeBack]
          exact taken
      · refine ih idle inPlace waiting ?_
        rw [List.map_append, List.append_assoc]
        exact h

lemma Booked.edit (h : d.Booked ok P) (regular : d.Regular settings) (edit : Edit d d') :
    d'.Booked ok P := by
  have sound := regular.honest.sound
  cases edit with
  | notices | session | viewport | place => exact ⟨h.books, h.waiting⟩
  | fitCache =>
      cases shown : d.attached? with
      | none =>
          rw [fitCache, shown]
          exact h
      | some document =>
          rw [fitCache_of_attached shown]
          exact ⟨ledger.carry h.books (.fit sound.inPlace _ _ _), h.waiting⟩
  | staleAll => exact ⟨ledger.carry h.books (.invalidateAll sound.inPlace), h.waiting⟩
  | request _ request quiet =>
      have inbox := (Painter.rest_carryOut d.painter request).2.1
      rw [Display.request, Painter.request_of_idle regular.honest.idle]
      exact ⟨Painter.books_carryOut ledger sound.inPlace quiet.delivers h.books,
        inbox.symm ▸ h.waiting⟩
  | collectLate _ engines =>
      exact booked_foldl_collectOne ledger (d := ({ d with late := [] }, engines)) d.late
        regular.honest.idle sound.inPlace h.waiting h.books
  | receive =>
      refine ⟨Painter.books_receive ledger regular.honest h.waiting h.books, ?_⟩
      rw [(Painter.rest_receive regular.honest.idle).2.1]
      exact fun _ mem => absurd mem List.not_mem_nil

/-- **Every step keeps the books.** -/
theorem Booked.step (h : d.Booked ok P) (regular : d.Regular settings)
    (step : Display.Step ok d d') : d'.Booked ok P := by
  cases step with
  | edit _ _ edit => exact h.edit ledger regular edit
  | openDocument | part | zoom => exact ⟨h.books, h.waiting⟩
  | closeDocument => exact ⟨ledger.empty rfl, h.waiting⟩
  | viewRect _ viewport painter _ _ _ resized =>
      rcases resized with rfl | ⟨-, rfl⟩
      · obtain ⟨-, cache, -⟩ := d.painter.resize_eq viewport.surfaceSize
        exact ⟨cache.symm ▸ h.books, (d.painter.rest_resize _).2.symm ▸ h.waiting⟩
      · exact ⟨h.books, h.waiting⟩
  | submit _ request delivers =>
      refine ⟨h.books, fun other mem => ?_⟩
      rcases List.mem_append.1 mem with old | new
      · exact h.waiting other old
      · exact List.mem_singleton.1 new ▸ delivers
  | paint _ _ engines engine view surroundings t =>
      refine ⟨Painter.books_paint ledger regular.honest h.waiting (books_engineRenderer _ _ _)
        (fun _ _ _ _ mem => absurd mem List.not_mem_nil) _ h.books, ?_⟩
      rw [(Painter.queues_paint regular.honest.idle regular.honest.deferred _ _).2]
      exact fun _ mem => absurd mem List.not_mem_nil

end Ledger

/-! ## What is still late -/

/-- The late drawings are the same, and no engine has come to owe one. -/
structure Waits (d d' : Display × Engines ε) : Prop where
  late : d'.1.late = d.1.late
  owes : ∀ late, d'.2.Owes late → d.2.Owes late

namespace Waits

variable {d d' d'' : Display × Engines ε}

lemma refl (d : Display × Engines ε) : Waits d d := ⟨rfl, fun _ h => h⟩

lemma trans (h : Waits d d') (h' : Waits d' d'') : Waits d d'' :=
  ⟨h'.late.trans h.late, fun late owes => h.owes late (h'.owes late owes)⟩

end Waits

@[simp] lemma late_fitCache (d : Display) : d.fitCache.late = d.late := by
  rw [fitCache]
  split <;> rfl

lemma late_onInvalidation (d : Display) (callback : Callback) :
    (d.onInvalidation callback).late = d.late := by
  rw [onInvalidation]
  split
  · rfl
  · dsimp only
    split
    · split_ifs <;> rfl
    · split_ifs <;> rfl
    · rfl

lemma late_onStatus (d : Display) (callback : Callback) : (d.onStatus callback).late = d.late := by
  rw [onStatus]
  split <;> rfl

section Engines

variable [Engine ε]

lemma waits_reload (d : Display) (engines : Engines ε) :
    Waits (d, engines) ((d.reload engines).2.1, (d.reload engines).2.2) := by
  rw [reload]
  split
  · exact .refl _
  · exact ⟨rfl, fun late => Engines.owes_of_use _ _ fun queue => TaskQueue.owes_of_reload⟩

lemma waits_onSizeChange (d : Display) (payload : Payload) (engines : Engines ε) :
    Waits (d, engines) (d.onSizeChange payload engines) := by
  rw [onSizeChange]
  split
  · exact .refl _
  · refine (waits_reload d engines).trans ⟨?_, fun _ h => h⟩
    show (fitCache _).late = _
    rw [late_fitCache]
    split <;> rfl

lemma waits_recover (d : Display) (engines : Engines ε) :
    Waits (d, engines) (d.recover engines) := by
  rw [recover]
  split_ifs
  · refine (waits_reload d engines).trans ⟨?_, fun _ h => h⟩
    exact late_fitCache _
  · exact .refl _

lemma waits_run (handler : Handler) (callback : Callback) (payload : Payload)
    (d : Display × Engines ε) : Waits d (handler.run callback payload d) := by
  cases handler with
  | invalidation => exact ⟨d.1.late_onInvalidation callback, fun _ h => h⟩
  | sizeChange => exact waits_onSizeChange d.1 payload d.2
  | status => exact ⟨d.1.late_onStatus callback, fun _ h => h⟩
  | relay => exact ⟨rfl, fun _ h => h⟩

end Engines

/-- Of the drawings that are asked for, those stay late that an engine owes. -/
lemma mem_late_foldl_collectOne (lates : List LateDrawing) {d : Display × Engines ε}
    {late : LateDrawing} (mem : late ∈ (lates.foldl collectOne d).1.late) :
    late ∈ d.1.late ∨ late ∈ lates ∧ d.2.Owes late := by
  induction lates generalizing d with
  | nil => exact .inl mem
  | cons other lates ih =>
      rw [List.foldl_cons] at mem
      have collected : (collectOne d other).2 = (other.collect d.2).2 := by
        rw [collectOne]
        split
        all_goals next same => exact (congrArg Prod.snd same).symm
      rcases ih mem with old | ⟨later, owes⟩
      · rw [collectOne] at old
        split at old
        · exact .inl old
        · next waiting =>
          rcases List.mem_append.1 old with old | new
          · exact .inl old
          · rw [List.mem_singleton.1 new]
            have none := congrArg Prod.fst waiting
            exact .inr ⟨List.mem_cons_self, LateDrawing.collect_eq_none_iff.1 none⟩
      · rw [collected] at owes
        exact .inr ⟨List.mem_cons_of_mem _ later, LateDrawing.owes_of_collect owes⟩

lemma mem_late_collectLate {d : Display} {engines : Engines ε} {late : LateDrawing}
    (mem : late ∈ (d.collectLate engines).1.late) : late ∈ d.late ∧ engines.Owes late :=
  (mem_late_foldl_collectOne (d := ({ d with late := [] }, engines)) d.late mem).resolve_left
    List.not_mem_nil

end Display

namespace Viewer

open Display

variable {settings : ViewerSettings} {calls : List Call}

/-- **After every run**, the late drawings are the books of the caches. -/
theorem booked_run {ok : TileKey → DrawOutcome → Prop} {P : DocumentCache → List TileKey → Prop}
    (ledger : DocumentCache.Ledger ok P) (settings : ViewerSettings)
    (submits : ∀ call ∈ calls, call.Submits ok) :
    (run settings calls).display.Booked ok P :=
  run_steps ⟨ledger.empty rfl, fun _ mem => absurd mem List.not_mem_nil⟩
    (fun _ _ regular step h => h.step ledger regular step) submits

section Engines

variable [Engine ε] {v : Viewer}

lemma waits_foldl_handle (callbacks : List Callback) (v : Viewer × Engines ε) :
    Waits (v.1.display, v.2)
      ((callbacks.foldl handle v).1.display, (callbacks.foldl handle v).2) := by
  refine List.foldlRecOn (motive := fun result : Viewer × Engines ε =>
    Waits (v.1.display, v.2) (result.1.display, result.2)) callbacks handle (.refl _) ?_
  intro result ih callback _
  refine ih.trans ?_
  refine List.foldlRecOn (motive := fun d : Display × Engines ε =>
    Waits (result.1.display, result.2) d) (result.1.dispatcher.registeredFor callback.code) _
    (.refl _) ?_
  intro d ih registration _
  exact ih.trans (waits_run registration.handler callback callback.decode d)

/-- Processing keeps a late drawing only while its engine owes it. -/
theorem owes_of_mem_late_process {engines : Engines ε} {late : LateDrawing}
    (mem : late ∈ (v.process engines).1.display.late) :
    late ∈ v.display.late ∧ engines.Owes late := by
  have handled := waits_foldl_handle v.inbox.callbacks
    ({ v with inbox := v.inbox.emptied }, engines)
  simp only [process] at mem
  generalize v.inbox.callbacks.foldl handle ({ v with inbox := v.inbox.emptied }, engines) =
    result at handled mem
  have recovered : Waits (v.display, engines)
      ((if v.inbox.overflowed then result.1.recover result.2 else result).1.display,
        (if v.inbox.overflowed then result.1.recover result.2 else result).2) := by
    split_ifs
    · have again := waits_recover result.1.display result.2
      exact handled.trans ⟨again.late, again.owes⟩
    · exact handled
  obtain ⟨kept, owes⟩ := mem_late_collectLate mem
  exact ⟨recovered.late ▸ kept, recovered.owes late owes⟩

/-- Where no late drawing of a tile is owed any more, processing brings its bitmap home. -/
lemma home_of_not_owed (quiet : ∀ call ∈ calls, call.Submits fun _ _ => False)
    {engines : Engines ε} {part index : Nat} {c : PartCache Float} {tile : Tile}
    (come : ∀ late ∈ (run settings calls).display.late, late.key.place = c.placeOf index →
      ¬ engines.Owes late)
    (found : ((run settings calls).process engines).1.display.painter.cache.parts[part]? = some c)
    (htile : c.tiles[index]? = some tile) : tile.isLent = false := by
  have after : run settings (calls ++ [.process engines]) =
      ((run settings calls).process engines).1 := run_concat settings calls (.process engines)
  have quiet' : ∀ call ∈ calls ++ [.process engines], call.Submits fun _ _ => False := by
    intro call mem
    rcases List.mem_append.1 mem with old | new
    · exact quiet call old
    · rw [List.mem_singleton.1 new]
      exact trivial
  have lends := (booked_run DocumentCache.ledger_lends settings quiet').books
  rw [after] at lends
  have lent : c.lent? index = some tile.isLent := by rw [PartCache.lent?, htile, Option.map_some]
  rw [Bool.eq_false_iff]
  intro away
  obtain ⟨key, hkey, place⟩ := List.mem_map.1 ((lends.lent part c found index _ lent).1 away)
  obtain ⟨late, mem, rfl⟩ := List.mem_map.1 hkey
  obtain ⟨kept, owes⟩ := owes_of_mem_late_process mem
  exact come late kept place owes

end Engines

/-- **No tile is stuck.**  After every run in which nothing but the viewer delivers drawings, whatever
the engines answer: a tile is lent exactly if one of the late drawings is for it.  Then it is the
only one, and not for a later epoch of the tile; and once its engine does not owe it any more, the
tile is home again when callbacks have been processed, and is drawn by the next pass that comes to
it in time. -/
theorem lent_iff_late (quiet : ∀ call ∈ calls, call.Submits fun _ _ => False) {part : Nat}
    {c : PartCache Float}
    (found : (run settings calls).display.painter.cache.parts[part]? = some c) {index : Nat}
    {tile : Tile} (htile : c.tiles[index]? = some tile) :
    (tile.isLent = true ↔ ∃ late ∈ (run settings calls).display.late,
      late.key.place = c.placeOf index) ∧
    ∀ late ∈ (run settings calls).display.late, late.key.place = c.placeOf index →
      (run settings calls).display.late.filter (·.key.place = c.placeOf index) = [late] ∧
      late.key.epoch ≤ tile.epoch ∧
      ∀ {ε : Type} [Engine ε] (engines : Engines ε), (late.collect engines).1 ≠ none →
        ∀ (c' : PartCache Float) (tile' : Tile),
          ((run settings calls).process engines).1.display.painter.cache.parts[part]? = some c' →
          c'.generation = c.generation → c'.tiles[index]? = some tile' →
            tile'.isLent = false ∧ (c'.valid.contains index = false →
              ∀ {τ : Type} (renderer : Renderer τ) (deadline : Nat) (pass : TilePass Float τ),
                pass.cache = c' → (renderer.now pass.renderer).1 < deadline →
                  pass.Asks renderer deadline index tile') := by
  have lends := (booked_run DocumentCache.ledger_lends settings quiet).books
  have inPlace := (regular_run settings calls).honest.sound.inPlace
  have lent : c.lent? index = some tile.isLent := by rw [PartCache.lent?, htile, Option.map_some]
  refine ⟨?_, fun late mem place => ?_⟩
  · rw [lends.lent part c found index _ lent, List.map_map]
    exact List.mem_map
  have only : (run settings calls).display.late.filter (·.key.place = c.placeOf index) =
      [late] := by
    have once := lends.once
    rw [List.map_map] at once
    rw [← place]
    exact filter_eq_singleton_of_nodup_map once mem
  have place_part : late.key.part = part :=
    (congrArg (fun place => place.2.1) place).trans (inPlace part c found)
  have place_index : late.key.index = index := congrArg (fun place => place.2.2) place
  refine ⟨only, ?_, ?_⟩
  · have behind := (lends.behind late.key (List.mem_map_of_mem mem)).2
    exact behind c (place_part ▸ found) (congrArg Prod.fst place).symm tile (place_index ▸ htile)
  · intro ε _ engines come c' tile' found' generation htile'
    have place' : c'.placeOf index = c.placeOf index := by
      have part' := (regular_run settings (calls ++ [.process engines])).honest.sound.inPlace part c'
      rw [run_concat] at part'
      rw [PartCache.placeOf, generation, part' found', ← inPlace part c found]
      rfl
    have home : tile'.isLent = false := by
      refine home_of_not_owed quiet (fun other hother same => ?_) found' htile'
      have mine : other ∈ [late] := by
        rw [← only]
        exact List.mem_filter.2 ⟨hother, decide_eq_true (same.trans place')⟩
      rw [List.mem_singleton.1 mine, ← LateDrawing.collect_eq_none_iff]
      exact come
    refine ⟨home, fun invalid τ renderer deadline pass same inTime => ?_⟩
    subst same
    exact ⟨htile', invalid, home, inTime⟩

/-! ## An example -/

/-- An engine with a letter of a few pixels. -/
def letter : Engines Simulation.RecordingEngine := #[.start (.create .text 1 ⟨60, 30⟩ "" false)]

/-- The letter is opened. -/
def letterOpened : Viewer × Engines Simulation.RecordingEngine :=
  (((create .default).setViewRect ⟨0, 0, 4, 2⟩ 1).2.openDocument letter 0 .selected).2

/-- The letter is opened and painted, and its engine lets the deadline pass. -/
def letterPainted : List Call :=
  [.setViewRect ⟨0, 0, 4, 2⟩ 1, .openDocument letter 0 .selected,
    .paint letterOpened.2 Simulation.Meanwhile.surroundings ⟨0, #[false]⟩]

/-- The engine after it has drawn the letter at last. -/
def letterDrawn : Engines Simulation.RecordingEngine :=
  (letterOpened.1.paint letterOpened.2 Simulation.Meanwhile.surroundings ⟨0, #[false]⟩).2.2.1.map
    TaskQueue.settle

/-- The tile of the letter is lent to the one late drawing, and comes home when that is drawn. -/
theorem lent_iff_late_letter : ∃ c tile late c' tile',
    (run .default letterPainted).display.painter.cache.parts[0]? = some c ∧
    c.tiles[0]? = some tile ∧ tile.isLent = true ∧
    (run .default letterPainted).display.late.filter (·.key.place = c.placeOf 0) = [late] ∧
    ((run .default letterPainted).process letterDrawn).1.display.painter.cache.parts[0]? =
      some c' ∧
    c'.tiles[0]? = some tile' ∧ tile'.isLent = false := by
  have quiet : ∀ call ∈ letterPainted, call.Submits fun _ _ => False := by
    intro call mem
    rw [letterPainted, List.mem_cons, List.mem_cons, List.mem_singleton] at mem
    rcases mem with rfl | rfl | rfl <;> exact trivial
  have before : ((run .default letterPainted).display.painter.cache.parts[0]?.any fun c =>
      c.generation == 1 && c.tiles[0]?.any (·.isLent)) = true := by decide +kernel
  have after : (((run .default letterPainted).process letterDrawn).1.display.painter.cache.parts[0]?.any
      fun c => c.generation == 1 && c.tiles[0]?.isSome) = true := by decide +kernel
  have drawn : ((run .default letterPainted).display.late.all fun late =>
      (late.collect letterDrawn).1.isSome) = true := by decide +kernel
  obtain ⟨c, found, facts⟩ := (Option.any_eq_true _ _).1 before
  obtain ⟨generation, lent⟩ := Bool.and_eq_true_iff.1 facts
  obtain ⟨tile, htile, away⟩ := (Option.any_eq_true _ _).1 lent
  obtain ⟨c', found', facts'⟩ := (Option.any_eq_true _ _).1 after
  obtain ⟨generation', some'⟩ := Bool.and_eq_true_iff.1 facts'
  obtain ⟨tile', htile'⟩ := Option.isSome_iff_exists.1 some'
  have lends := lent_iff_late quiet found htile
  obtain ⟨late, mem, place⟩ := lends.1.1 away
  obtain ⟨only, -, home⟩ := lends.2 late mem place
  have come := Option.isSome_iff_ne_none.1 (List.all_eq_true.1 drawn late mem)
  have same : c'.generation = c.generation := by
    rw [beq_iff_eq.1 generation, beq_iff_eq.1 generation']
  exact ⟨c, tile, late, c', tile', found, htile, away, only, found', htile',
    (home letterDrawn come c' tile' found' same htile').1⟩

end Viewer

end TiledView
