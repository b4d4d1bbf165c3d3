import TiledView.Proofs.Paint.Mirror
import TiledView.Proofs.Viewer.Arrivals
import TiledView.Proofs.Viewer.Lending

/-!
# What a document finds when it is opened

A viewer outlives the documents that it shows, and so do its surface and its scroll offset.  This
file is about the first paint after a document has been opened, where none was shown before.

* The surface is damaged all over then, whatever has happened since (`Painter.AllDamaged`), and the
  caches are of the very scale of the viewport (`Display.Scaled`).
* The scroll offset is within the limits of the new document (`Display.ScrolledWithin`), and that is
  all that is done about it.

So every pixel of the area that the document is shown in is painted.  What lies outside of it is not
touched, unless the surface is new (`Viewer.Opening.Complete.at?_painted`).
-/

namespace TiledView

variable {ε σ : Type}

/-! ## Scroll offsets within a document -/

namespace Viewport

variable {v : Viewport} {documentSize : Size .twips} {q : Point .device}

/-- The scroll offset is one that the document allows. -/
structure Within (v : Viewport) (documentSize : Size .twips) : Prop where
  left : 0 ≤ v.scroll.x
  right : v.scroll.x ≤ (v.scrollLimit documentSize).x
  top : 0 ≤ v.scroll.y
  bottom : v.scroll.y ≤ (v.scrollLimit documentSize).y

lemma within_clampScroll (v : Viewport) (documentSize : Size .twips) :
    (v.clampScroll documentSize).2.Within documentSize := by
  have limit : 0 ≤ (v.scrollLimit documentSize).x ∧ 0 ≤ (v.scrollLimit documentSize).y :=
    ⟨Int.le_max_right _ _, Int.le_max_right _ _⟩
  have x := clampInt_mem v.scroll.x limit.1
  have y := clampInt_mem v.scroll.y limit.2
  have scroll := v.scroll_clampScroll documentSize
  obtain ⟨clamped, same⟩ := v.clampScroll_eq documentSize
  rw [same] at scroll ⊢
  subst scroll
  exact ⟨x.1, x.2, y.1, y.2⟩

/-- Behind every pixel of the surface that is inside the extent of the document, there is a pixel of
the document. -/
lemma Within.mem_extent (h : v.Within documentSize) (shown : q ∈ v.surfaceWithin documentSize) :
    q.offset v.scroll.x v.scroll.y ∈ Rect.ofSize (v.deviceExtent documentSize) := by
  obtain ⟨left, right, top, bottom⟩ := h
  simp only [scrollLimit] at right bottom
  simp only [surfaceWithin, Rect.mem_def, Rect.right, Rect.bottom] at shown
  rw [Rect.mem_ofSize, Point.x_offset, Point.y_offset]
  omega

end Viewport

namespace Display

variable {d d' : Display}

/-- The scroll offset is one that the document that is shown allows. -/
def ScrolledWithin (d : Display) : Prop :=
  ∀ document, d.attached? = some document → d.viewport.Within document.session.documentSize

lemma scrolledWithin_fitAreas (d : Display) : d.fitAreas.ScrolledWithin := by
  intro document shown
  have size : d.documentSize = document.session.documentSize := by
    have found : d.session? = some document.session := session?_of_attached? shown
    rw [documentSize, found]
  obtain ⟨left, right, top, bottom⟩ := d.viewport.within_clampScroll d.documentSize
  rw [size] at left right top bottom
  rw [fitAreas, size]
  exact ⟨left, right, top, bottom⟩

lemma SameGeometry.scrolledWithin (h : SameGeometry d d') (before : d.ScrolledWithin) :
    d'.ScrolledWithin := by
  intro document shown
  obtain ⟨old, found, -, size⟩ := h.shown shown
  rw [h.viewport, ← size]
  exact before old found

lemma kept_scrolledWithin : Viewer.Kept ScrolledWithin where
  same := fun _ _ same => same.scrolledWithin
  sizeChange := by
    intro ε _ d payload engines h
    rw [onSizeChange]
    split
    · exact h
    · exact (sameGeometry_redraw _).scrolledWithin (scrolledWithin_fitAreas _)
  recover := fun _ _ _ => scrolledWithin_fitAreas _

/-! ## Caches of the scale of the viewport -/

/-- Every part cache has the scale of the viewport, to the bit. -/
def Scaled (d : Display) : Prop :=
  ∀ (part : Nat) (c : PartCache Float), d.painter.cache.parts[part]? = some c →
    c.scale = d.viewport.scale

lemma Scaled.of_outline (h : d.Scaled) {painter : Painter}
    (same : painter.cache.outline = d.painter.cache.outline) : Scaled { d with painter } := by
  intro part c found
  obtain ⟨old, hold, outline⟩ := DocumentCache.part_of_outline same.symm found
  rw [← (PartCache.outline_fields outline).2.1]
  exact h part old hold

lemma Scaled.fitCache (h : d.Scaled) : d.fitCache.Scaled := by
  rw [Display.fitCache]
  split
  · exact h
  · intro part c found
    obtain ⟨-, size, -, fitted⟩ := DocumentCache.fit_spec d.painter.cache _ _ _
    obtain ⟨c', found', hfitted⟩ := fitted part (size ▸ (Array.getElem?_eq_some_iff.1 found).1)
    obtain rfl : c' = c := Option.some.inj (found'.symm.trans found)
    cases hfitted with
    | kept _ found => exact h part _ found
    | built => rfl

lemma Scaled.edit (h : d.Scaled) (edit : Edit d d') : d'.Scaled := by
  cases edit with
  | notices | place | session => exact h
  | viewport _ viewport same =>
      intro part c found
      rw [h part c found]
      exact congrArg₂ Scale.mk same.zoom.symm same.deviceScale.symm
  | fitCache => exact h.fitCache
  | staleAll => exact h.of_outline DocumentCache.outline_invalidateAll
  | request _ request => exact h.of_outline (Painter.sameFrame_request d.painter request).outline
  | collectLate _ engines =>
      have same := d.sameGeometry_collectLate engines
      have scaled : Scaled { d with painter := (d.collectLate engines).1.painter } :=
        h.of_outline same.painter.outline
      intro part c found
      rw [same.viewport]
      exact scaled part c found
  | receive => exact h.of_outline (Painter.sameFrame_receive d.painter).outline

lemma Scaled.edits (h : d.Scaled) (edits : Edits d d') : d'.Scaled :=
  keeps_of_chain (fun _ _ edit h => h.edit edit) edits h

/-! ## Views that stay in place -/

lemma Edit.sameFrame (edit : Edit d d') : d.viewport.SameFrame d'.viewport := by
  cases edit with
  | notices | place | session | staleAll | request | receive => exact .refl _
  | viewport _ viewport same => exact same
  | fitCache =>
      rw [Display.fitCache]
      split <;> exact .refl _
  | collectLate _ engines =>
      rw [(d.sameGeometry_collectLate engines).viewport]
      exact .refl _

lemma Edits.sameFrame (edits : Edits d d') : d.viewport.SameFrame d'.viewport :=
  keeps_of_chain (P := fun other => d.viewport.SameFrame other.viewport)
    (fun _ _ edit same => same.trans edit.sameFrame) edits (.refl _)

/-! ## Damage -/

/-- No edit takes damage back. -/
lemma Edit.allDamaged (edit : Edit d d') (h : d.painter.AllDamaged) : d'.painter.AllDamaged := by
  cases edit with
  | notices | place | session | viewport | staleAll => exact h
  | fitCache =>
      rw [Display.fitCache]
      split <;> exact h
  | request _ request => exact h.request request
  | collectLate _ engines =>
      refine List.foldlRecOn (motive := fun result : Display × Engines _ =>
        result.1.painter.AllDamaged) d.late _ h ?_
      intro result ih late _
      rw [collectOne]
      split
      · exact ih.request _
      · exact ih
  | receive => exact h.receive

end Display

/-- There is a cache of the part that is shown, and the painter finds it. -/
lemma Display.Settled.exists_shown {d : Display} (h : d.Settled) {document : ShownDocument}
    (shown : d.attached? = some document) :
    ∃ c, d.painter.cache.parts[d.part]? = some c ∧ d.painter.shown? = some c := by
  obtain ⟨serves, part_lt⟩ := h.cached document shown
  have placed := (h.placed document shown).placement
  obtain ⟨c, found⟩ : ∃ c, d.painter.cache.parts[d.part]? = some c :=
    ⟨_, Array.getElem?_eq_getElem (serves.count ▸ part_lt)⟩
  obtain ⟨-, -, scale⟩ := serves.parts d.part c found
  refine ⟨c, found, Painter.shown?_eq_some_iff.2 ?_⟩
  rw [placed]
  exact ⟨found, scale⟩

/-- A display that waits for the first paint of a document. -/
structure Display.Fresh (settings : ViewerSettings) (d : Display) : Prop where
  regular : d.Regular settings
  settled : d.Settled
  scaled : d.Scaled
  within : d.ScrolledWithin
  damaged : d.painter.AllDamaged
  showing : d.document?.isNone = false

namespace Display.Fresh

variable {settings : ViewerSettings} {d : Display}

lemma exists_document (h : d.Fresh settings) :
    ∃ document, d.document? = some document ∧ d.attached? = some document ∧
      d.documentSize = document.session.documentSize := by
  obtain ⟨document, shown⟩ := Option.isSome_iff_exists.1 (Option.isNone_eq_false_iff.1 h.showing)
  have attached := h.regular.attached?_eq.trans shown
  refine ⟨document, shown, attached, ?_⟩
  have found : d.session? = some document.session := session?_of_attached? attached
  rw [documentSize, found]

lemma shownArea (h : d.Fresh settings) :
    d.viewport.shownArea = d.viewport.surfaceWithin d.documentSize := by
  obtain ⟨document, -, attached, size⟩ := h.exists_document
  rw [size]
  exact (h.settled.placed document attached).shownArea

/-- The pixel of the document at surface `(0, 0)` is the scroll offset. -/
lemma origin (h : d.Fresh settings) : d.painter.placement.origin = d.viewport.scroll := by
  obtain ⟨document, -, attached, -⟩ := h.exists_document
  rw [(h.settled.placed document attached).placement, Placement.origin, h.shownArea]
  simp only [Viewport.surfaceWithin, Int.sub_zero]

lemma exists_shown (h : d.Fresh settings) : ∃ c, d.painter.shown? = some c ∧
    c.tiling = .ofSize (d.viewport.deviceExtent d.documentSize) settings.tileEdge := by
  obtain ⟨document, -, attached, size⟩ := h.exists_document
  obtain ⟨c, found, shown⟩ := h.settled.exists_shown attached
  obtain ⟨-, documentSize, -⟩ := (h.settled.cached document attached).serves.parts d.part c found
  have built := (h.regular.honest.sound d.part c found).built
  rw [h.scaled d.part c found, documentSize, h.regular.tileEdge, ← size] at built
  refine ⟨c, shown, ?_⟩
  show c.outline.tiling = _
  rw [built]
  rfl

end Display.Fresh

/-! ## The first paint of a document -/

namespace Viewer

open Display

variable {settings : ViewerSettings} {v : Viewer}

lemma inbox_takeInResults (h : v.display.Regular settings) (engines : Engines ε) :
    (v.takeInResults engines).1.display.painter.inbox = [] :=
  (Painter.rest_receive (h.collectLate engines).honest.idle).2.1

/-- Nothing that has been submitted outlives the processing. -/
lemma inbox_process [Engine ε] (h : v.display.Regular settings) (engines : Engines ε) :
    (v.process engines).1.display.painter.inbox = [] := by
  have handled := h.edits
    (edited_foldl_handle v.inbox.callbacks ({ v with inbox := v.inbox.emptied }, engines)).edits
  simp only [process]
  split_ifs
  · exact inbox_takeInResults (handled.edits (edited_recover _ _).edits) _
  · exact inbox_takeInResults handled _

/-- A document that has been opened, where none was shown, is presented. -/
lemma openDocument_of_closed [Engine ε] {engines : Engines ε} {engine : EngineId}
    {choice : ViewChoice} (closed : v.display.document? = none)
    (opened : (v.openDocument engines engine choice).1 = .ok ()) :
    ∃ session, (v.openDocument engines engine choice).2.1 = v.present ⟨engine, session⟩ := by
  rw [openDocument, closed] at opened ⊢
  simp only [openFirst] at opened ⊢
  split at opened
  · cases opened
  · exact ⟨_, rfl⟩

lemma allDamaged_present (h : v.display.Steady) (document : ShownDocument) :
    (v.present document).display.painter.AllDamaged := by
  have started : Display.Steady { v.display with document? := some document, part := 0 } :=
    ⟨h.sane, h.idle, h.inPlace, h.surface⟩
  rw [display_present]
  exact .of_redraw (steady_fitCache started).idle

lemma scrolledWithin_present (v : Viewer) (document : ShownDocument) :
    (v.present document).display.ScrolledWithin := by
  rw [display_present]
  exact (sameGeometry_redraw _).scrolledWithin (scrolledWithin_fitAreas _)

lemma paint_of_showing [Engine ε] {engines : Engines ε} {surroundings : Surroundings σ} {t : σ}
    {document : ShownDocument} {view : ViewId}
    (shown : (v.process engines).1.display.document? = some document)
    (found : document.session.view? = some view) :
    v.paint engines surroundings t =
      (v.process engines).1.paintDocument document.engine view (v.process engines).2
        surroundings t := by
  rw [paint]
  dsimp only
  rw [shown]
  dsimp only
  rw [found]

/-- A pass with nothing pending leaves the painter as it is. -/
lemma paintDocument_eq [Engine ε] (v : Viewer) (engine : EngineId) (view : ViewId)
    (engines : Engines ε) (surroundings : Surroundings σ) (t : σ) :
    let renderer := engineRenderer (ε := ε) surroundings engine view
    let pass := v.display.painter.paint (.ofRenderer renderer) ⟨engines, v.display.late, t⟩
    let painted := v.paintDocument engine view engines surroundings t
    painted.1 = pass.1 ∧ painted.2.1.display.part = v.display.part ∧
      (pass.1.pending = #[] → painted.2.1.display.painter = pass.2.1) := by
  refine ⟨rfl, rfl, fun nothing => ?_⟩
  simp only [paintDocument, modifyDisplay]
  rw [nothing]
  rfl

/-- The opening of a document after some calls, and the first paint of it. -/
structure Opening (ε σ : Type) where
  before : List Call
  engines : Engines ε
  engine : EngineId
  choice : ViewChoice
  surroundings : Surroundings σ
  start : σ

namespace Opening

variable [Engine ε] (settings : ViewerSettings) (o : Opening ε σ)

/-- What opening the document comes to. -/
def opened : Except ViewerError Unit × Viewer × Engines ε :=
  (run settings o.before).openDocument o.engines o.engine o.choice

/-- The display when it is about to be painted: everything that was waiting has been processed. -/
def processed : Display := ((o.opened settings).2.1.process (o.opened settings).2.2).1.display

/-- What painting the document comes to. -/
def painted : PaintReport × Viewer × Engines ε × σ :=
  (o.opened settings).2.1.paint (o.opened settings).2.2 o.surroundings o.start

/-- What is on the surface when it is about to be painted: what has been left there, or the
background where the surface is new. -/
def leftover : Bitmap := (o.processed settings).painter.clearSurface.surface

/-- The document, cut into tiles. -/
def tiling : Tiling :=
  .ofSize ((o.processed settings).viewport.deviceExtent (o.processed settings).documentSize)
    settings.tileEdge

/-- No document was shown before, opening this one succeeds, nothing of it is left to be painted,
and what has been drawn of it is `content`. -/
structure Complete (content : Nat → Bitmap) : Prop where
  closed : (run settings o.before).display.document? = none
  opened : (o.opened settings).1 = .ok ()
  pending : (o.painted settings).1.pending = #[]
  drawn : ∀ c, (o.painted settings).2.1.display.painter.cache.parts[
      (o.painted settings).2.1.display.part]? = some c →
    ∀ index tile bitmap, c.tiles[index]? = some tile → tile.slot = .ready bitmap →
      bitmap = content index

variable {settings o} {content : Nat → Bitmap}

namespace Complete

/-- **A document that has just been opened has to be painted from scratch.** -/
lemma fresh_opened (h : o.Complete settings content) :
    (o.opened settings).2.1.display.Fresh settings := by
  have before := regular_run settings o.before
  have regular : (o.opened settings).2.1.display.Regular settings := by
    have after := regular_run settings (o.before ++ [.openDocument o.engines o.engine o.choice])
    rwa [run_concat] at after
  obtain ⟨session, presented⟩ : ∃ session, (o.opened settings).2.1 =
      (run settings o.before).present ⟨o.engine, session⟩ :=
    openDocument_of_closed h.closed h.opened
  have scaled : Scaled { (run settings o.before).display with
      document? := some ⟨o.engine, session⟩, part := 0 } := by
    intro part c found
    rw [(before.closed h.closed).2, Array.getElem?_empty] at found
    cases found
  rw [presented] at regular ⊢
  exact {
    regular
    settled := settled_present before.steady _
    scaled := scaled.edits (edits_present _ _)
    within := scrolledWithin_present _ _
    damaged := allDamaged_present before.steady _
    showing := by
      rw [document?_present]
      rfl }

/-- Callbacks that are waiting do not change that. -/
lemma fresh_processed (h : o.Complete settings content) : (o.processed settings).Fresh settings := by
  have opened := h.fresh_opened
  have edits := (edited_process (o.opened settings).2.1 (o.opened settings).2.2).edits
  exact {
    regular := opened.regular.edits edits
    settled := settled_process opened.settled _
    scaled := opened.scaled.edits edits
    within := kept_scrolledWithin.process opened.within _
    damaged := keeps_of_chain (fun _ _ edit => edit.allDamaged) edits opened.damaged
    showing := edits.isNone.trans opened.showing }

/-- Painting the document is one pass of the painter, which leaves nothing to be asked for again. -/
lemma exists_paint (h : o.Complete settings content) :
    ∃ (renderer : Renderer (EngineDrawing ε σ)) (start : EngineDrawing ε σ),
      ((o.processed settings).painter.paint (.ofRenderer renderer) start).1.pending = #[] ∧
      (o.painted settings).2.1.display.painter =
        ((o.processed settings).painter.paint (.ofRenderer renderer) start).2.1 ∧
      (o.painted settings).2.1.display.part = (o.processed settings).part := by
  have fresh := h.fresh_processed
  have pending := h.pending
  obtain ⟨document, shown, -, -⟩ := fresh.exists_document
  obtain ⟨view, found⟩ := Option.isSome_iff_exists.1 (fresh.regular.attached document shown)
  rw [painted, paint_of_showing shown found] at pending ⊢
  obtain ⟨report, part, painter⟩ := paintDocument_eq
    ((o.opened settings).2.1.process (o.opened settings).2.2).1 document.engine view
    ((o.opened settings).2.1.process (o.opened settings).2.2).2 o.surroundings o.start
  rw [report] at pending
  exact ⟨_, _, pending, painter pending, part⟩

/-- **What the surface shows after the first paint.**  In the area of the document it is the
document, and elsewhere it is what was left there. -/
lemma at?_painted (h : o.Complete settings content) (fits : (o.tiling settings).Fits content)
    (hwidth : (o.tiling settings).size.width ≤ Tiling.maxExtent)
    (hheight : (o.tiling settings).size.height ≤ Tiling.maxExtent) {q : Point .device}
    (hbounds : q ∈ (o.processed settings).painter.surface.bounds) :
    (o.painted settings).2.1.surface.at? q =
      if q ∈ (o.processed settings).viewport.shownArea then
        (o.tiling settings).picture content
          (q.offset (o.processed settings).viewport.scroll.x
            (o.processed settings).viewport.scroll.y)
      else
        (o.leftover settings).at? q := by
  have fresh := h.fresh_processed
  obtain ⟨document, -, attached, size⟩ := fresh.exists_document
  obtain ⟨c, shown, tiling⟩ := fresh.exists_shown
  change c.tiling = o.tiling settings at tiling
  obtain ⟨renderer, start, pending, painter, part⟩ := h.exists_paint
  have placed := (fresh.settled.placed document attached).placement
  have nonempty : (o.processed settings).painter.surface.isEmpty = false :=
    Bool.eq_false_iff.2 fun empty => Bitmap.not_mem_bounds_of_isEmpty empty hbounds
  obtain ⟨outside, inside⟩ := Painter.at?_paint_of_everything fresh.regular.honest
    (inbox_process h.fresh_opened.regular _) (fresh.damaged nonempty) shown renderer start hbounds
  rw [fresh.origin, placed, tiling] at inside
  rw [placed] at outside
  rw [surface, painter]
  split_ifs with area
  · have extent := (fresh.within document attached).mem_extent (size ▸ fresh.shownArea ▸ area)
    rw [← size] at extent
    rcases inside area extent hwidth hheight with
      ⟨rect, mem, -⟩ | ⟨cache, tile, found, htile, pixels, bitmap, ready, shows⟩
    · rw [pending] at mem
      exact absurd mem (Array.not_mem_empty rect)
    · obtain rfl := h.drawn cache (by rw [painter, part]; exact found) _ tile bitmap htile ready
      have sized := fits _ (Tiling.indexAt_lt_count extent hwidth hheight)
      rw [pixels] at shows
      rw [shows sized.1 sized.2]
      exact (Tiling.picture_of_mem_rect (Tiling.mem_rect_indexAt extent hwidth)).symm
  · exact outside area

lemma size_painted (h : o.Complete settings content) :
    (o.painted settings).2.1.surface.size = (o.processed settings).painter.surface.size := by
  obtain ⟨renderer, start, -, painter, -⟩ := h.exists_paint
  rw [surface, painter]
  exact (Painter.sameFrame_paint _ h.fresh_processed.regular.honest.idle _ start).size

lemma sameFrame_processed (h : o.Complete settings content) :
    (run settings o.before).display.viewport.SameFrame (o.processed settings).viewport := by
  obtain ⟨session, presented⟩ := openDocument_of_closed h.closed h.opened
  have opened := (edits_present (run settings o.before) ⟨o.engine, session⟩).sameFrame
  rw [← presented] at opened
  exact opened.trans
    (edited_process (o.opened settings).2.1 (o.opened settings).2.2).edits.sameFrame

end Complete

end Opening

variable [Engine ε] {a b : Opening ε σ} {content : Nat → Bitmap}

/-- Two openings of the same document, in views of the same place and scale. -/
structure Opening.Alike (settings : ViewerSettings) (a b : Opening ε σ) : Prop where
  cssRect : (run settings b.before).display.viewport.cssRect =
    (run settings a.before).display.viewport.cssRect
  deviceScale : (run settings b.before).display.viewport.deviceScale =
    (run settings a.before).display.viewport.deviceScale
  zoom : (run settings b.before).display.viewport.zoom =
    (run settings a.before).display.viewport.zoom
  documentSize : (b.processed settings).documentSize = (a.processed settings).documentSize

namespace Opening.Alike

/-- The document takes the same tiles, and the same area of surfaces of the same size. -/
lemma geometry (alike : Alike settings a b) (ha : a.Complete settings content)
    (hb : b.Complete settings content) :
    b.tiling settings = a.tiling settings ∧
    (b.processed settings).viewport.shownArea = (a.processed settings).viewport.shownArea ∧
    (b.processed settings).painter.surface.size = (a.processed settings).painter.surface.size := by
  have frame := ha.sameFrame_processed
  have frame' := hb.sameFrame_processed
  have zoom := frame'.zoom.trans (alike.zoom.trans frame.zoom.symm)
  have deviceScale := frame'.deviceScale.trans (alike.deviceScale.trans frame.deviceScale.symm)
  have cssRect := frame'.cssRect.trans (alike.cssRect.trans frame.cssRect.symm)
  have scale : (b.processed settings).viewport.scale = (a.processed settings).viewport.scale :=
    congrArg₂ Scale.mk zoom deviceScale
  have extent : (b.processed settings).viewport.deviceExtent (b.processed settings).documentSize =
      (a.processed settings).viewport.deviceExtent (a.processed settings).documentSize := by
    rw [Viewport.deviceExtent, scale, alike.documentSize]
    rfl
  have surfaceSize : (b.processed settings).viewport.surfaceSize =
      (a.processed settings).viewport.surfaceSize := by
    rw [hb.fresh_processed.regular.surfaceSize, ha.fresh_processed.regular.surfaceSize, cssRect,
      deviceScale]
  refine ⟨?_, ?_, ?_⟩
  · rw [tiling, extent]
    rfl
  · rw [hb.fresh_processed.shownArea, ha.fresh_processed.shownArea, Viewport.surfaceWithin, extent,
      surfaceSize]
    rfl
  · rw [hb.fresh_processed.regular.surface, ha.fresh_processed.regular.surface, surfaceSize]

end Opening.Alike

/-- **What a document leaves on the screen for the next one.**  Take two viewers of the same
settings that show no document, after any calls, and have both of them open the same document in
the same place and paint it completely.  The surfaces are equal exactly if the scroll offsets that
were left behind make no difference to what is shown of the document, and the same was left on the
surface outside of its area. -/
theorem surface_eq_iff (ha : a.Complete settings content) (hb : b.Complete settings content)
    (alike : Opening.Alike settings a b) (fits : (a.tiling settings).Fits content)
    (hwidth : (a.tiling settings).size.width ≤ Tiling.maxExtent)
    (hheight : (a.tiling settings).size.height ≤ Tiling.maxExtent) :
    let area := (a.processed settings).viewport.shownArea
    let picture := (a.tiling settings).picture content
    let scroll := (a.processed settings).viewport.scroll
    let scroll' := (b.processed settings).viewport.scroll
    (b.painted settings).2.1.surface = (a.painted settings).2.1.surface ↔
      ∀ q ∈ (a.painted settings).2.1.surface.bounds,
        (q ∈ area → picture (q.offset scroll'.x scroll'.y) = picture (q.offset scroll.x scroll.y)) ∧
        (q ∉ area → (b.leftover settings).at? q = (a.leftover settings).at? q) := by
  obtain ⟨tiling, shownArea, size⟩ := alike.geometry ha hb
  have bounds : (a.painted settings).2.1.surface.bounds =
      (a.processed settings).painter.surface.bounds := congrArg Rect.ofSize ha.size_painted
  have shows := fun q (inside : q ∈ (a.processed settings).painter.surface.bounds) =>
    ha.at?_painted fits hwidth hheight inside
  have shows' := fun q (inside : q ∈ (b.processed settings).painter.surface.bounds) =>
    hb.at?_painted (tiling ▸ fits) (tiling ▸ hwidth) (tiling ▸ hheight) inside
  rw [tiling, shownArea, show (b.processed settings).painter.surface.bounds = _ from
    congrArg Rect.ofSize size] at shows'
  dsimp only
  constructor
  · intro same q inside
    rw [bounds] at inside
    have colours :
        (b.painted settings).2.1.surface.at? q = (a.painted settings).2.1.surface.at? q :=
      congrArg (·.at? q) same
    rw [shows q inside, shows' q inside] at colours
    constructor
    · intro area
      rwa [if_pos area, if_pos area] at colours
    · intro outside
      rwa [if_neg outside, if_neg outside] at colours
  · intro same
    refine Bitmap.eq_of_at? ((hb.size_painted.trans size).trans ha.size_painted.symm) ?_
    intro q inside
    obtain ⟨inArea, outside⟩ := same q inside
    rw [bounds] at inside
    rw [shows q inside, shows' q inside]
    split_ifs with area
    · exact inArea area
    · exact outside area

/-! ## An example -/

/-- A viewer that clears its surface to colour nine. -/
def tinted : ViewerSettings :=
  { ViewerSettings.default with paint := { PaintSettings.default with background := 9 } }

/-- A card of half the width of the letter. -/
def card : Engines Simulation.RecordingEngine :=
  #[.start (.create .text 1 ⟨30, 30⟩ "" false)]

/-- The opening of the card after some calls. -/
def cardAfter (before : List Call) : Opening Simulation.RecordingEngine Simulation.Meanwhile where
  before
  engines := card
  engine := 0
  choice := .selected
  surroundings := Simulation.Meanwhile.surroundings
  start := ⟨0, #[]⟩

/-- A view for the letter, which the card does not fill. -/
def emptyView : List Call := [.setViewRect ⟨0, 0, 4, 2⟩ 1]

/-- The same view, where the letter has been shown before. -/
def letterShown : List Call :=
  emptyView ++ [.openDocument letter 0 .selected,
    .paint letterOpened.2 Simulation.Meanwhile.surroundings ⟨0, #[]⟩,
    .closeDocument letterOpened.2]

/-- The card is drawn in colour one. -/
def cardContent : Nat → Bitmap := fun _ => .filled 2 2 1

lemma complete_of_uniform {o : Opening ε σ} {bitmap : Bitmap}
    (closed : (run settings o.before).display.document? = none)
    (opened : (o.opened settings).1 = .ok ()) (pending : (o.painted settings).1.pending = #[])
    (uniform : (o.painted settings).2.1.display.painter.cache.parts.all fun c =>
      c.tiles.all fun tile => tile.bitmap?.all (· = bitmap)) :
    o.Complete settings fun _ => bitmap where
  closed
  opened
  pending
  drawn := by
    intro c found index tile bitmap' htile ready
    have all := Array.all_eq_true_iff_forall_mem.1 uniform c (Array.mem_of_getElem? found)
    have one := Array.all_eq_true_iff_forall_mem.1 all tile (Array.mem_of_getElem? htile)
    rw [Tile.bitmap?, ready] at one
    simpa using one

lemma complete_cardFirst : (cardAfter emptyView).Complete tinted cardContent :=
  complete_of_uniform (by decide +kernel) (by decide +kernel) (by decide +kernel)
    (by decide +kernel)

lemma complete_cardLater : (cardAfter letterShown).Complete tinted cardContent :=
  complete_of_uniform (by decide +kernel) (by decide +kernel) (by decide +kernel)
    (by decide +kernel)

lemma alike_card : Opening.Alike tinted (cardAfter emptyView) (cardAfter letterShown) :=
  ⟨by decide +kernel, by decide +kernel, by decide +kernel, by decide +kernel⟩

lemma tiling_card : (cardAfter emptyView).tiling tinted = .ofSize ⟨2, 2⟩ 256 := by decide +kernel

lemma fits_card : ((cardAfter emptyView).tiling tinted).Fits cardContent := by
  rw [tiling_card, Tiling.Fits]
  decide +kernel

/-- Beside the card, the surface shows the background in one viewer and the letter in the other. -/
theorem surface_eq_iff_card :
    ((cardAfter emptyView).leftover tinted).at? ⟨2, 0⟩ = some 9 ∧
    ((cardAfter letterShown).leftover tinted).at? ⟨2, 0⟩ = some 1 ∧
    ((cardAfter letterShown).painted tinted).2.1.surface ≠
      ((cardAfter emptyView).painted tinted).2.1.surface := by
  have background : ((cardAfter emptyView).leftover tinted).at? ⟨2, 0⟩ = some 9 := by
    decide +kernel
  have letter : ((cardAfter letterShown).leftover tinted).at? ⟨2, 0⟩ = some 1 := by
    decide +kernel
  have inside : (⟨2, 0⟩ : Point .device) ∈
      ((cardAfter emptyView).painted tinted).2.1.surface.bounds := by decide +kernel
  have outside : (⟨2, 0⟩ : Point .device) ∉
      ((cardAfter emptyView).processed tinted).viewport.shownArea := by decide +kernel
  have iff := surface_eq_iff complete_cardFirst complete_cardLater alike_card fits_card
    (by rw [tiling_card]; decide) (by rw [tiling_card]; decide)
  refine ⟨background, letter, fun same => ?_⟩
  have left := (iff.1 same _ inside).2 outside
  rw [background, letter] at left
  cases left

/-- Documents do leak into each other through the surface, even when the same fresh engine draws the
same pixels: the card is painted in two views, and in one of them the letter stays beside it. -/
theorem surfaces_differ_card : ¬ ∀ (settings : ViewerSettings)
    (a b : Opening Simulation.RecordingEngine Simulation.Meanwhile) (content : Nat → Bitmap),
      a.Complete settings content → b.Complete settings content →
      Opening.Alike settings a b → (a.tiling settings).Fits content →
      (∃ fresh, a.engines[a.engine]? = some (.start fresh)) → b.engines = a.engines →
      b.engine = a.engine → b.choice = a.choice →
      (b.painted settings).2.1.surface = (a.painted settings).2.1.surface := by
  intro never
  have same := never tinted (cardAfter emptyView) (cardAfter letterShown) cardContent
    complete_cardFirst complete_cardLater alike_card fits_card ⟨_, rfl⟩ rfl rfl rfl
  have first : ((cardAfter emptyView).painted tinted).2.1.surface.at? ⟨2, 0⟩ = some 9 := by
    decide +kernel
  have later : ((cardAfter letterShown).painted tinted).2.1.surface.at? ⟨2, 0⟩ = some 1 := by
    decide +kernel
  rw [same, first] at later
  cases later

end Viewer

end TiledView
