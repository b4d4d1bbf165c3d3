import TiledView.Proofs.Viewer.Relays

/-!
# What a shown document can rely on

While a document is shown, two things hold after every call, and also between two callbacks that
are processed one after the other.

* There is a tile cache for each part of the document, and the part that is shown is one of them
  (`Display.Housed`).  This does not depend on the scale: a zoom that the scroll offset could not
  follow leaves caches of the old scale, but it leaves one for each part.
* The callbacks that are handled are those of the document, each by its own handler, and besides the
  kinds the host asked for (`Viewer.Served`).
-/

namespace TiledView

namespace Display

variable {d d' : Display}

/-! ## A cache for each part -/

/-- There is a cache for each part of the document, and the part that is shown is one of them. -/
def Housed (d : Display) : Prop := ∀ layout, d.layout? = some layout →
  d.painter.cache.parts.size = layout.1 ∧ d.part < layout.1

lemma layout?_of_attached? {document : ShownDocument} (shown : d.attached? = some document) :
    d.layout? = some (document.session.drawnParts, document.session.documentSize) := by
  rw [layout?, shown, Option.map_some]

namespace Housed

lemma of_layout {layout : Nat × Size .twips} (shown : d.layout? = some layout)
    (count : d.painter.cache.parts.size = layout.1) (part_lt : d.part < layout.1) : d.Housed := by
  rintro other found
  obtain rfl := Option.some.inj (shown.symm.trans found)
  exact ⟨count, part_lt⟩

lemma of_eq (h : d.Housed) (layout : d'.layout? = d.layout?) (part : d'.part = d.part)
    (count : d'.painter.cache.parts.size = d.painter.cache.parts.size) : d'.Housed := by
  intro shown mem
  rw [count, part]
  exact h shown (layout ▸ mem)

lemma same (h : d.Housed) (same : SameGeometry d d') : d'.Housed :=
  h.of_eq same.layout same.part (DocumentCache.size_of_outline same.painter.outline)

lemma of_closed (closed : d.document? = none) : d.Housed := by
  intro layout shown
  rw [layout?, attached?, closed] at shown
  cases shown

lemma part_lt (h : d.Housed) (attached : d.isAttached = true) :
    d.part < d.painter.cache.parts.size := by
  obtain ⟨document, shown⟩ := Option.isSome_iff_exists.1 attached
  obtain ⟨count, part_lt⟩ := h _ (layout?_of_attached? shown)
  rw [count]
  exact part_lt

end Housed

/-- **Fitting gives each part a cache**, whatever there was before. -/
lemma housed_fitCache (d : Display) : d.fitCache.Housed := by
  cases shown : d.attached? with
  | none =>
      intro layout found
      rw [fitCache, shown, layout?, shown] at found
      cases found
  | some document =>
      obtain ⟨-, size, -⟩ := d.painter.cache.fit_spec document.session.drawnParts d.viewport.scale
        document.session.documentSize
      have pos := document.session.drawnParts_pos
      rw [fitCache_of_attached shown]
      refine .of_layout (layout?_of_attached? (show attached? _ = some document from shown)) size ?_
      dsimp only
      split_ifs <;> omega

lemma housed_fitAreas (h : d.Housed) : d.fitAreas.Housed := h.of_eq rfl rfl rfl

lemma housed_redraw (h : d.Housed) : d.redraw.Housed := h.same (sameGeometry_redraw d)

lemma housed_refit (d : Display) : d.fitCache.fitAreas.redraw.Housed :=
  housed_redraw (housed_fitAreas d.housed_fitCache)

lemma housed_follow (h : d.Housed) (change : ViewportChange) : (d.follow change).Housed := by
  cases change with
  | unchanged => exact h
  | changed scaleChanged surfaceResized => exact housed_refit _

section Engines

variable {ε : Type} [Engine ε]

lemma housed_onSizeChange (h : d.Housed) (payload : Payload) (engines : Engines ε) :
    (d.onSizeChange payload engines).1.Housed := by
  rw [onSizeChange]
  split
  · exact h
  · exact housed_refit _

lemma housed_recover (h : d.Housed) (engines : Engines ε) : (d.recover engines).1.Housed := by
  rw [recover]
  split_ifs
  · refine (housed_fitCache (d.reload engines).2.1).of_eq rfl rfl ?_
    exact Array.size_map
  · exact h

end Engines

end Display

namespace Viewer

open Display

variable {ε σ : Type} {v v' : Viewer}

lemma kept_housed : Kept Housed where
  same _ _ same h := h.same same
  sizeChange _ payload engines h := housed_onSizeChange h payload engines
  recover _ engines h := housed_fitAreas (housed_recover h engines)

lemma housed_applyViewport (h : v.display.Housed)
    (changed : Except ViewportError ViewportChange × Viewport) :
    (v.applyViewport changed).2.display.Housed := by
  have moved : Housed { v.display with viewport := changed.2 } := h.of_eq rfl rfl rfl
  rw [applyViewport]
  split
  · exact moved
  · exact housed_follow moved _

lemma housed_scrollTo (h : v.display.Housed) (position : Point .css Float) :
    (v.scrollTo position).2.display.Housed := by
  have requested (area : Rect .device) (shifts : List AxisShift) (d : Display) (h : d.Housed) :
      (shifts.foldl (fun d shift => d.request (.scroll area shift)) d).Housed :=
    h.same (sameGeometry_foldl (fun d shift => d.sameGeometry_request (.scroll area shift)) _ d)
  have moved : Housed { v.display with
      viewport := (v.display.viewport.scrollTo position v.display.documentSize).2 } :=
    h.of_eq rfl rfl rfl
  rw [scrollTo]
  split_ifs
  · dsimp only
    split
    · exact moved
    · next shifts _ => exact (requested _ shifts _ moved).of_eq rfl rfl rfl
  · exact h

lemma housed_showPart (h : v.display.Housed) (part : Nat) :
    (v.showPart part).2.display.Housed := by
  rw [showPart]
  cases shown : v.display.attached? with
  | none => exact h
  | some document =>
      dsimp only
      split_ifs with stays
      · exact h
      · obtain ⟨count, -⟩ := h _ (layout?_of_attached? shown)
        refine housed_redraw (housed_fitAreas ?_)
        refine .of_layout (layout?_of_attached? (show attached? _ = some document from shown)) count ?_
        show part < document.session.drawnParts
        omega

section Engines

variable [Engine ε]

lemma housed_closeDocument (v : Viewer) (engines : Engines ε) :
    (v.closeDocument engines).2.1.display.Housed := by
  rw [closeDocument_eq]
  exact .of_closed rfl

lemma housed_openFirst (h : v.display.Housed) (engines : Engines ε) (engine : EngineId)
    (choice : ViewChoice) : (v.openFirst engines engine choice).2.1.display.Housed := by
  rcases openFirst_eq v engines engine choice with same | ⟨session, -, same⟩ <;> rw [same]
  · exact h
  · rw [display_present]
    exact housed_redraw (housed_fitAreas (housed_fitAreas (housed_fitCache _)))

lemma housed_openDocument (h : v.display.Housed) (engines : Engines ε) (engine : EngineId)
    (choice : ViewChoice) : (v.openDocument engines engine choice).2.1.display.Housed := by
  rw [openDocument]
  split
  · exact housed_openFirst h engines engine choice
  · have closed := housed_closeDocument v engines
    split
    · next failed => exact failed ▸ closed
    · next done =>
      rw [done] at closed
      exact housed_openFirst closed _ engine choice

lemma housed_paint {settings : ViewerSettings} (regular : v.display.Regular settings)
    (h : v.display.Housed) (engines : Engines ε) (surroundings : Surroundings σ) (t : σ) :
    (v.paint engines surroundings t).2.1.display.Housed := by
  have processed := kept_housed.process h engines
  have idle := (regular.edits (edited_process v engines).edits).honest.idle
  rw [paint]
  dsimp only
  split
  · exact processed
  · split
    · exact processed
    · exact processed.same (sameGeometry_paintDocument idle _ _ _ _ _)

end Engines

/-- **Every run leaves each part of a shown document a cache.** -/
theorem housed_run (settings : ViewerSettings) (calls : List Call) :
    (run settings calls).display.Housed := by
  induction calls using List.reverseRecOn with
  | nil => exact .of_closed rfl
  | append_singleton earlier call ih =>
      rw [run_concat]
      cases call with
      | openDocument engines engine choice => exact housed_openDocument ih engines engine choice
      | closeDocument engines => exact housed_closeDocument _ engines
      | deliver | takeNotices | submit => exact ih.of_eq rfl rfl rfl
      | process engines => exact kept_housed.process ih engines
      | paint engines surroundings t =>
          exact housed_paint (regular_run settings earlier) ih engines surroundings t
      | setViewRect => exact housed_applyViewport ih _
      | setZoom => exact housed_applyViewport ih _
      | scrollTo position => exact housed_scrollTo ih position
      | showPart part => exact housed_showPart ih part
      | redraw => exact housed_redraw (housed_fitAreas ih)
      | askFor kind =>
          rw [after, display_askFor]
          exact ih

/-! ## Who is served -/

/-- What a document is served by whose host had asked for some kinds. -/
def ownServices (asked : List CallbackKind) : List (Int × Handler) :=
  [(CallbackKind.invalidateTiles.code, .invalidation),
    (CallbackKind.documentSizeChanged.code, .sizeChange),
    (CallbackKind.stateChanged.code, .status)] ++ asked.map fun kind => (kind.code, .relay)

lemma handlers_eq_ownServices (v : Viewer) :
    (v.handlers.map fun entry => (entry.1.code, entry.2)) = ownServices v.askedFor := by
  simp [handlers, ownServices, Function.comp_def]

/-- While a document is shown, callbacks are handled by its own handlers and by relays. -/
structure Served (v : Viewer) : Prop where
  tied : v.Tied
  own : v.display.document? ≠ none → ∃ asked, v.services = ownServices asked

namespace Served

lemma of_closed (tied : v.Tied) (closed : v.display.document? = none) : v.Served :=
  ⟨tied, fun showing => absurd closed showing⟩

lemma undisturbed (h : v.Served) (same : Undisturbed v v') : v'.Served where
  tied := same.tied h.tied
  own showing := same.services ▸ h.own (same.shown showing)

/-- What waits in the inbox does not change who is served. -/
lemma emptied (h : v.Served) : Served { v with inbox := v.inbox.emptied } :=
  ⟨⟨h.tied.registered, h.tied.closed⟩, h.own⟩

section Engines

variable [Engine ε]

lemma openDocument (h : v.Served) (engines : Engines ε) (engine : EngineId)
    (choice : ViewChoice) : (v.openDocument engines engine choice).2.1.Served := by
  have tied := tied_openDocument h.tied engines engine choice
  cases opened : (v.openDocument engines engine choice).1 with
  | error => exact .of_closed tied (document?_openDocument_of_error opened)
  | ok =>
      refine ⟨tied, fun _ => ⟨v.askedFor, ?_⟩⟩
      rw [services_openDocument h.tied opened, handlers_eq_ownServices]

lemma closeDocument (h : v.Served) (engines : Engines ε) :
    (v.closeDocument engines).2.1.Served := by
  refine .of_closed (tied_closeDocument h.tied engines) ?_
  rw [closeDocument_eq]
  rfl

lemma process (h : v.Served) (engines : Engines ε) : (v.process engines).1.Served :=
  h.emptied.undisturbed (undisturbed_process v engines)

lemma paint (h : v.Served) (engines : Engines ε) (surroundings : Surroundings σ) (t : σ) :
    (v.paint engines surroundings t).2.1.Served :=
  h.emptied.undisturbed (undisturbed_paint v engines surroundings t)

end Engines

end Served

/-- **In every run a document that is shown is served by its own handlers.** -/
theorem served_run (settings : ViewerSettings) (calls : List Call) :
    (run settings calls).Served := by
  refine run_rec (.of_closed ⟨rfl, fun _ => rfl⟩ rfl) fun v call _ h => ?_
  cases call with
  | openDocument engines engine choice => exact h.openDocument engines engine choice
  | closeDocument engines => exact h.closeDocument engines
  | process engines => exact h.process engines
  | paint engines surroundings t => exact h.paint engines surroundings t
  | setViewRect | setZoom => exact h.undisturbed (undisturbed_applyViewport _ _)
  | scrollTo position => exact h.undisturbed (undisturbed_scrollTo _ position)
  | showPart part => exact h.undisturbed (undisturbed_showPart _ part)
  | askFor kind => exact h.undisturbed (undisturbed_askFor _ kind)
  | deliver | redraw | takeNotices | submit => exact ⟨⟨h.tied.registered, h.tied.closed⟩, h.own⟩

/-- The handlers of an invalidation are the one of the document, and relays. -/
lemma Served.handlers_invalidateTiles (h : v.Served) (showing : v.display.document? ≠ none) :
    ∃ count, (v.dispatcher.registeredFor CallbackKind.invalidateTiles.code).map (·.handler) =
      .invalidation :: List.replicate count .relay := by
  obtain ⟨asked, own⟩ := h.own showing
  have filtered : (v.dispatcher.registeredFor CallbackKind.invalidateTiles.code).map (·.handler) =
      (v.services.filter (·.1 == CallbackKind.invalidateTiles.code)).map (·.2) := by
    simp [services, Dispatcher.registeredFor, List.filter_map, Function.comp_def]
  have relays (asked : List CallbackKind) :
      ((asked.map fun kind => (kind.code, Handler.relay)).filter
        (·.1 == CallbackKind.invalidateTiles.code)).map (·.2) =
      List.replicate (asked.countP (·.code == CallbackKind.invalidateTiles.code)) .relay := by
    simp [List.filter_map, Function.comp_def, List.countP_eq_length_filter, List.map_const']
  refine ⟨asked.countP (·.code == CallbackKind.invalidateTiles.code), ?_⟩
  rw [filtered, own, ownServices, List.filter_append, List.map_append, relays]
  rfl

end Viewer

end TiledView
