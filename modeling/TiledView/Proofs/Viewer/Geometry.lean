import TiledView.Proofs.Cache.Action
import TiledView.Proofs.Viewer.Display
import TiledView.Proofs.Viewport

/-!
# Keeping the geometry together

The geometry of a display is kept four times: by the session, by the viewport, by the tile caches
and by the placement of the painter.  `Display.Aligned` says that the copies agree.  It comes about
in two halves, as the display itself brings them about:

* `Display.Cached` — the caches are those of the document, which `Display.fitCache` sees to;
* `Display.Placed` — the painter knows where the document sits, which `Display.fitAreas` sees to.

Neither could be restored without `Display.Steady`, which holds whether or not a document is shown:
no paint pass is running, every part cache stands at its own place, and the surface has the size
that the viewport asks for.  `Display.Settled` is all of these together.
-/

namespace TiledView

/-! ## Caches -/

namespace DocumentCache

variable {d d' : DocumentCache} {count : Nat} {scale : ViewScale} {documentSize : Size .twips}

/-- One cache for each of `count` parts, of this scale and document size. -/
structure Serves (d : DocumentCache) (count : Nat) (scale : ViewScale)
    (documentSize : Size .twips) : Prop where
  count : d.parts.size = count
  parts : ∀ (part : Nat) (cache : PartCache Float), d.parts[part]? = some cache →
    cache.part = part ∧ cache.documentSize = documentSize ∧ (cache.scale == scale) = true

lemma Serves.of_outline (h : d.Serves count scale documentSize) (same : d'.outline = d.outline) :
    d'.Serves count scale documentSize where
  count := (size_of_outline same).trans h.count
  parts := by
    intro part cache found
    obtain ⟨old, hold, outline⟩ := part_of_outline same.symm found
    obtain ⟨hpart, hscale, -, hsize, -⟩ := PartCache.outline_fields outline
    rw [← hpart, ← hscale, ← hsize]
    exact h.parts part old hold

/-- **Fitted caches serve what they were fitted to.** -/
theorem serves_fit (inPlace : d.InPlace) (itself : (scale == scale) = true) :
    (d.fit count scale documentSize).Serves count scale documentSize := by
  obtain ⟨-, size, -, fitted⟩ := fit_spec d count scale documentSize
  refine ⟨size, ?_⟩
  intro part cache found
  obtain ⟨c, hc, hfitted⟩ := fitted part (size ▸ (Array.getElem?_eq_some_iff.1 found).1)
  rw [found, Option.some.injEq] at hc
  subst hc
  cases hfitted with
  | kept c old keeps => exact ⟨inPlace part _ old, keeps.2, keeps.1⟩
  | built => exact ⟨rfl, rfl, itself⟩

end DocumentCache

namespace Painter

/-- The bitmap that a surface of size `size` gets. -/
def surfaceFor (size : Size .device) : Size .device := ⟨sideOf size.width, sideOf size.height⟩

lemma size_resize (p : Painter) (size : Size .device) :
    (p.resize size).surface.size = surfaceFor size := by
  simp only [resize]
  split_ifs with same
  · rw [surfaceFor, ← same.1, ← same.2]
    rfl
  · rfl

lemma resize_eq (p : Painter) (size : Size .device) : (p.resize size).phase = p.phase ∧
    (p.resize size).cache = p.cache ∧ (p.resize size).placement = p.placement := by
  simp only [resize]
  split_ifs <;> exact ⟨rfl, rfl, rfl⟩

end Painter

lemma Session.drawnParts_pos (s : Session) : 0 < s.drawnParts := by
  rw [drawnParts]
  split_ifs <;> omega

/-- The surface clamped to the extent of a document. -/
def Viewport.surfaceWithin (v : Viewport) (documentSize : Size .twips) : Rect .device :=
  ⟨0, 0, min (v.deviceExtent documentSize).width v.surfaceSize.width,
    min (v.deviceExtent documentSize).height v.surfaceSize.height⟩

namespace Display

variable {d d' : Display} {session session' : Session} {document : ShownDocument}

/-! ## The invariants -/

/-- What holds whether or not a document is shown. -/
structure Steady (d : Display) : Prop where
  sane : d.viewport.Sane
  idle : d.painter.phase = .idle
  inPlace : d.painter.cache.InPlace
  surface : d.painter.surface.size = Painter.surfaceFor d.viewport.surfaceSize

/-- The caches are those of the document, and the part that is shown is one of them. -/
structure Cached (d : Display) (session : Session) : Prop where
  serves : d.painter.cache.Serves session.drawnParts d.viewport.scale session.documentSize
  part_lt : d.part < session.drawnParts

/-- The painter knows where the document sits on the surface. -/
structure Placed (d : Display) (session : Session) : Prop where
  placement : d.painter.placement =
    { area := d.viewport.shownArea
      scroll := d.viewport.scroll
      scale := d.viewport.scale
      part := d.part }
  shownArea : d.viewport.shownArea = d.viewport.surfaceWithin session.documentSize

/-- All copies of the geometry agree with those of a document with `session`. -/
structure Aligned (d : Display) (session : Session) : Prop
    extends Cached d session, Placed d session where
  surface : d.viewport.surfaceSize.width ≤ Painter.maxSide →
    d.viewport.surfaceSize.height ≤ Painter.maxSide →
      d.painter.surface.size = d.viewport.surfaceSize

/-- The geometry is together, whatever document is shown. -/
structure Settled (d : Display) : Prop where
  steady : d.Steady
  cached : ∀ document, d.attached? = some document → d.Cached document.session
  placed : ∀ document, d.attached? = some document → d.Placed document.session

namespace SameGeometry

lemma steady (h : SameGeometry d d') (before : d.Steady) : d'.Steady where
  sane := h.viewport ▸ before.sane
  idle := h.painter.phase.trans before.idle
  inPlace := before.inPlace.of_outline h.painter.outline
  surface := by rw [h.painter.size, h.viewport, before.surface]

/-- What is shown afterwards is laid out like what was shown before. -/
lemma shown (h : SameGeometry d d') (shown : d'.attached? = some document) :
    ∃ before, d.attached? = some before ∧
      before.session.drawnParts = document.session.drawnParts ∧
      before.session.documentSize = document.session.documentSize := by
  have layout := h.layout
  rw [layout?, shown, Option.map_some, eq_comm, layout?, Option.map_eq_some_iff] at layout
  obtain ⟨before, found, same⟩ := layout
  exact ⟨before, found, congrArg Prod.fst same, congrArg Prod.snd same⟩

lemma cached (h : SameGeometry d d')
    (before : ∀ document, d.attached? = some document → d.Cached document.session)
    (shown : d'.attached? = some document) : d'.Cached document.session := by
  obtain ⟨old, found, parts, size⟩ := h.shown shown
  obtain ⟨serves, part_lt⟩ := before old found
  rw [parts, size] at serves
  rw [parts] at part_lt
  exact ⟨h.viewport ▸ serves.of_outline h.painter.outline, h.part ▸ part_lt⟩

lemma shownArea (h : SameGeometry d d')
    (before : ∀ document, d.attached? = some document →
      d.viewport.shownArea = d.viewport.surfaceWithin document.session.documentSize)
    (shown : d'.attached? = some document) :
    d'.viewport.shownArea = d'.viewport.surfaceWithin document.session.documentSize := by
  obtain ⟨old, found, -, size⟩ := h.shown shown
  rw [h.viewport, ← size]
  exact before old found

lemma settled (h : SameGeometry d d') (before : d.Settled) : d'.Settled where
  steady := h.steady before.steady
  cached := fun _ => h.cached before.cached
  placed := by
    intro document shown
    refine ⟨?_, h.shownArea (fun _ found => (before.placed _ found).shownArea) shown⟩
    obtain ⟨old, found, -, -⟩ := h.shown shown
    rw [h.painter.placement, h.viewport, h.part]
    exact (before.placed old found).placement

end SameGeometry

/-! ## Bringing the geometry together -/

lemma fitCache_of_attached (shown : d.attached? = some document) :
    d.fitCache =
      { d with
        part := if document.session.drawnParts ≤ d.part then 0 else d.part
        painter := d.painter.modifyCache fun cache =>
          cache.fit document.session.drawnParts d.viewport.scale
            document.session.documentSize } := by
  rw [fitCache, shown]

lemma steady_fitCache (h : d.Steady) : d.fitCache.Steady := by
  cases shown : d.attached? with
  | none =>
      rw [fitCache, shown]
      exact h
  | some document =>
      rw [fitCache_of_attached shown]
      refine ⟨h.sane, h.idle, ?_, h.surface⟩
      intro part cache found
      exact ((DocumentCache.serves_fit h.inPlace h.sane.scale_beq).parts part cache found).1

/-- **Fitting makes the caches those of the document.** -/
theorem cached_fitCache (h : d.Steady) (shown : d.fitCache.attached? = some document) :
    d.fitCache.Cached document.session := by
  cases before : d.attached? with
  | none =>
      rw [fitCache, before] at shown
      cases before.symm.trans shown
  | some old =>
      rw [fitCache_of_attached before] at shown ⊢
      obtain rfl : old = document := Option.some.inj (before.symm.trans shown)
      refine ⟨DocumentCache.serves_fit h.inPlace h.sane.scale_beq, ?_⟩
      have pos := old.session.drawnParts_pos
      dsimp only
      split_ifs <;> omega

/-- **Recomputing the areas settles a display** whose caches are right. -/
theorem settled_fitAreas (h : d.Steady)
    (cached : ∀ document, d.attached? = some document → d.Cached document.session) :
    d.fitAreas.Settled := by
  obtain ⟨scroll, clamped⟩ := d.viewport.clampScroll_eq d.documentSize
  rw [fitAreas, clamped]
  refine ⟨⟨(h.sane.with_scroll scroll).updateAreas d.pages, h.idle, h.inPlace, h.surface⟩, ?_, ?_⟩
  · intro document shown
    obtain ⟨serves, part_lt⟩ := cached document shown
    exact ⟨serves, part_lt⟩
  · intro document shown
    have size : d.documentSize = document.session.documentSize := by
      have found : d.session? = some document.session := session?_of_attached? shown
      rw [documentSize, found]
    refine ⟨rfl, ?_⟩
    rw [← size]
    rfl

lemma settled_refit (h : d.Steady) : d.fitCache.fitAreas.Settled :=
  settled_fitAreas (steady_fitCache h) fun _ => cached_fitCache h

/-- Telling the painter where the document sits is enough where the areas are right. -/
lemma settled_place (h : d.Steady)
    (cached : ∀ document, d.attached? = some document → d.Cached document.session)
    (shownArea : ∀ document, d.attached? = some document →
      d.viewport.shownArea = d.viewport.surfaceWithin document.session.documentSize) :
    d.place.Settled where
  steady := ⟨h.sane, h.idle, h.inPlace, h.surface⟩
  cached := by
    intro document shown
    obtain ⟨serves, part_lt⟩ := cached document shown
    exact ⟨serves, part_lt⟩
  placed := fun document shown => ⟨rfl, shownArea document shown⟩

/-- **A settled display shows an aligned document.** -/
theorem Settled.aligned (h : d.Settled) (shown : d.attached? = some document) :
    d.Aligned document.session where
  toCached := h.cached document shown
  toPlaced := h.placed document shown
  surface := by
    intro width height
    have nonneg := h.steady.sane
    rw [h.steady.surface, Painter.surfaceFor, Painter.sideOf, Painter.sideOf, if_pos width,
      if_pos height, Int.toNat_of_nonneg nonneg.width, Int.toNat_of_nonneg nonneg.height]

/-! ## Changes of the geometry -/

/-- **Following a viewport that moved settles the display.** -/
theorem settled_follow (h : d.Steady) {viewport : Viewport} (sane : viewport.Sane)
    (scaleChanged : Bool) {surfaceResized : Bool}
    (same : surfaceResized = false → viewport.surfaceSize = d.viewport.surfaceSize) :
    (follow { d with viewport } (.changed scaleChanged surfaceResized)).Settled := by
  refine (sameGeometry_redraw _).settled (settled_refit ?_)
  cases surfaceResized with
  | false => exact ⟨sane, h.idle, h.inPlace, h.surface.trans (by rw [same rfl])⟩
  | true =>
      obtain ⟨phase, cache, -⟩ := d.painter.resize_eq viewport.surfaceSize
      refine ⟨sane, phase.trans h.idle, ?_, d.painter.size_resize viewport.surfaceSize⟩
      show (d.painter.resize viewport.surfaceSize).cache.InPlace
      rw [cache]
      exact h.inPlace

lemma sameGeometry_foldl {β : Type} {f : Display → β → Display}
    (hf : ∀ d b, SameGeometry d (f d b)) (bs : List β) (d : Display) :
    SameGeometry d (bs.foldl f d) := by
  induction bs generalizing d with
  | nil => exact .refl d
  | cons b bs ih => exact (hf d b).trans (ih (f d b))

/-- **Scrolling keeps a display settled.** -/
theorem settled_scroll (h : d.Settled) (scroll : Point .device) (area : Rect .device)
    (shifts : List AxisShift) :
    (shifts.foldl (fun (d : Display) shift => d.request (.scroll area shift))
      { d with viewport := { d.viewport with scroll } }).place.Settled := by
  have moved := sameGeometry_foldl
    (fun (d : Display) (shift : AxisShift) => sameGeometry_request d (.scroll area shift))
    shifts { d with viewport := { d.viewport with scroll } }
  refine settled_place (moved.steady ?_) (fun _ => moved.cached ?_) (fun _ => moved.shownArea ?_)
  · exact ⟨h.steady.sane.with_scroll scroll, h.steady.idle, h.steady.inPlace, h.steady.surface⟩
  · intro document shown
    obtain ⟨serves, part_lt⟩ := h.cached document shown
    exact ⟨serves, part_lt⟩
  · exact fun document shown => (h.placed document shown).shownArea

/-! ## Reading the document anew -/

variable {ε : Type} [Engine ε]

lemma steady_setSession (h : d.Steady) (session : Session) : (d.setSession session).Steady :=
  ⟨h.sane, h.idle, h.inPlace, h.surface⟩

lemma steady_reload (h : d.Steady) (engines : Engines ε) : (d.reload engines).2.1.Steady := by
  rw [reload]
  split
  · exact h
  · exact steady_setSession h _

/-- **A new document size settles the display**, whether or not the engine tells it. -/
theorem settled_onSizeChange (h : d.Settled) (payload : Payload) (engines : Engines ε) :
    (d.onSizeChange payload engines).1.Settled := by
  rw [onSizeChange]
  split
  · exact h
  · refine (sameGeometry_redraw _).settled (settled_refit ?_)
    split
    · exact steady_setSession (steady_reload h.steady engines) _
    · exact steady_reload h.steady engines

/-- A recovery brings the geometry of the document together, whatever it was before. -/
lemma settled_recover_of_isAttached (h : d.Steady) (engines : Engines ε)
    (showing : d.isAttached = true) : (d.recover engines).1.fitAreas.Settled := by
  rw [recover, if_pos showing]
  have fitted := steady_fitCache (steady_reload h engines)
  have stale : ∀ d : Display, SameGeometry d
      { d with painter := d.painter.modifyCache DocumentCache.invalidateAll } :=
    fun d => ⟨rfl, rfl, rfl, rfl, rfl, rfl, rfl, DocumentCache.outline_invalidateAll⟩
  refine settled_fitAreas ((stale _).steady fitted) fun _ => (stale _).cached ?_
  exact fun _ => cached_fitCache (steady_reload h engines)

/-- **A recovery leaves the caches right**; the areas are recomputed after it. -/
theorem settled_recover (h : d.Settled) (engines : Engines ε) :
    (d.recover engines).1.fitAreas.Settled := by
  by_cases showing : d.isAttached = true
  · exact settled_recover_of_isAttached h.steady engines showing
  · rw [recover, if_neg showing]
    exact settled_fitAreas h.steady h.cached

end Display

end TiledView
