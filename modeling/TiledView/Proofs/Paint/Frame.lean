import TiledView.Paint.Pass
import TiledView.Proofs.Cache.Outline

/-!
# What painting leaves alone

Requests and paint passes change pixels, damage and the state of tiles.  They do not change where
the document sits on the surface, nor how large the surface is, nor what the caches were built as.
`Painter.SameFrame` collects what stays, and there is one lemma for each operation of a painter:

* `Painter.sameFrame_request`, `Painter.sameFrame_receive` — requests, given directly or submitted;
* `Painter.sameFrame_paint` — a paint pass, with whatever its renderer submits meanwhile.
-/

namespace TiledView

variable {α σ : Type}

/-! ## Surfaces are small -/

lemma Painter.sideOf_le (extent : Int) : sideOf extent ≤ maxSide := by
  rw [sideOf]
  split
  · exact Int.toNat_le.2 ‹_›
  · exact Nat.zero_le _

lemma Painter.sideOf_le_maxInt64 (extent : Int) : (sideOf extent : Int) ≤ Rounding.maxInt64 :=
  Int.le_trans (Int.ofNat_le.2 (sideOf_le extent)) (by decide)

/-! ## Surfaces keep their size -/

lemma Bitmap.size_copyTile (window : PaintWindow) (surface : Bitmap) (pixels : Rect .device)
    (bitmap : Bitmap) : (window.copyTile surface pixels bitmap).size = surface.size := by
  simp only [PaintWindow.copyTile]
  split_ifs <;> rfl

lemma TilePass.size_present (pass : TilePass α σ) (window : PaintWindow) (touched : TouchedTile)
    (bitmap? : Option Bitmap) :
    (pass.present window touched bitmap?).surface.size = pass.surface.size := by
  cases bitmap? with
  | none => rfl
  | some bitmap => exact Bitmap.size_copyTile window pass.surface touched.pixels bitmap

lemma TilePass.size_visited {renderer : Renderer σ} {window : PaintWindow} {deadline index : Nat}
    {pass pass' : TilePass α σ} (visited : Visited renderer window deadline pass index pass') :
    pass'.surface.size = pass.surface.size := by
  cases visited with
  | missing | lent | late | deferred | failed => rfl
  | shown | drawn => exact size_present _ window _ _

lemma PartCache.size_sweep (c : PartCache α) (surface : Bitmap) (window : PaintWindow)
    (dirty : Rect .device) (deadline : Nat) (renderer : Renderer σ) (s : σ) :
    (c.sweep surface window dirty deadline renderer s).surface.size = surface.size := by
  refine sweep_rec (P := fun pass => pass.surface.size = surface.size) c surface dirty s rfl ?_
  intro pass index pass' visited ih
  exact (TilePass.size_visited visited).trans ih

lemma PaintPass.paintRect_frame (renderer : SubmittingRenderer σ) (placement : Placement)
    (deadline : Nat) (pass : PaintPass σ) (rect : Rect .device) :
    (pass.paintRect renderer placement deadline rect).cache.outline = pass.cache.outline ∧
      (pass.paintRect renderer placement deadline rect).surface.size = pass.surface.size := by
  simp only [paintRect]
  split_ifs
  · exact ⟨rfl, rfl⟩
  · exact ⟨PartCache.outline_sweep .., PartCache.size_sweep ..⟩

lemma PaintPass.foldl_paintRect_frame (renderer : SubmittingRenderer σ) (placement : Placement)
    (deadline : Nat) (rects : List (Rect .device)) (pass : PaintPass σ) :
    (rects.foldl (paintRect renderer placement deadline) pass).cache.outline =
        pass.cache.outline ∧
      (rects.foldl (paintRect renderer placement deadline) pass).surface.size =
        pass.surface.size := by
  refine List.foldlRecOn (motive := fun result : PaintPass σ =>
    result.cache.outline = pass.cache.outline ∧ result.surface.size = pass.surface.size)
    rects _ ⟨rfl, rfl⟩ ?_
  intro result ih rect _
  have frame := paintRect_frame renderer placement deadline result rect
  exact ⟨frame.1.trans ih.1, frame.2.trans ih.2⟩

namespace Painter

/-! ## Requests, taken apart -/

/-- How far a shift moves content, in both directions. -/
def offsetOf (shift : AxisShift) : Int × Int :=
  match shift.axis with
  | .horizontal => (shift.delta, 0)
  | .vertical => (0, shift.delta)

/-- What scrolling can come to: nothing to do, nothing to keep, or content that moves. -/
lemma scroll_eq (p : Painter) (area : Rect .device) (shift : AxisShift) :
    (((area.intersect p.surface.bounds).isEmpty = true ∨ shift.delta = 0) ∧
      p.scroll area shift = p) ∨
    p.scroll area shift = p.markDamage (area.intersect p.surface.bounds) ∨
    p.scroll area shift =
      { p with
        surface := p.surface.shiftWithin (area.intersect p.surface.bounds) (offsetOf shift).1
          (offsetOf shift).2
        damage := p.damage.shift (area.intersect p.surface.bounds) (offsetOf shift).1
          (offsetOf shift).2 }.markDamage (uncovered (area.intersect p.surface.bounds) shift) := by
  obtain ⟨axis, delta⟩ := shift
  cases axis <;>
  · simp only [scroll]
    split_ifs with none beyond
    · exact .inl ⟨none, rfl⟩
    · exact .inr (.inl rfl)
    · exact .inr (.inr rfl)

/-- A late result changes the cache, and of the rest the damage at most. -/
lemma takeBack_eq (p : Painter) (key : TileKey) (outcome : DrawOutcome) :
    p.takeBack key outcome = { p with cache := (p.cache.takeBack key outcome).2 } ∨
      ∃ rect, p.takeBack key outcome =
        { p with cache := (p.cache.takeBack key outcome).2 }.markDamage rect := by
  simp only [takeBack]
  split
  · exact .inl rfl
  · split_ifs
    · exact .inr ⟨_, rfl⟩
    · exact .inl rfl

/-! ## Frames -/

/-- `p'` shows the same document at the same place of a surface of the same size as `p`. -/
structure SameFrame (p p' : Painter) : Prop where
  settings : p'.settings = p.settings
  phase : p'.phase = p.phase
  placement : p'.placement = p.placement
  size : p'.surface.size = p.surface.size
  outline : p'.cache.outline = p.cache.outline

namespace SameFrame

variable {p p' p'' : Painter}

lemma refl (p : Painter) : SameFrame p p := ⟨rfl, rfl, rfl, rfl, rfl⟩

lemma symm (h : SameFrame p p') : SameFrame p' p :=
  ⟨h.settings.symm, h.phase.symm, h.placement.symm, h.size.symm, h.outline.symm⟩

lemma trans (h : SameFrame p p') (h' : SameFrame p' p'') : SameFrame p p'' where
  settings := h'.settings.trans h.settings
  phase := h'.phase.trans h.phase
  placement := h'.placement.trans h.placement
  size := h'.size.trans h.size
  outline := h'.outline.trans h.outline

lemma bounds (h : SameFrame p p') : p'.surface.bounds = p.surface.bounds :=
  congrArg Rect.ofSize h.size

end SameFrame

lemma sameFrame_markDamage (p : Painter) (rect : Rect .device) :
    SameFrame p (p.markDamage rect) := ⟨rfl, rfl, rfl, rfl, rfl⟩

lemma sameFrame_scroll (p : Painter) (area : Rect .device) (shift : AxisShift) :
    SameFrame p (p.scroll area shift) := by
  rcases scroll_eq p area shift with ⟨-, same⟩ | same | same <;> rw [same]
  · exact .refl p
  · exact sameFrame_markDamage p _
  · exact ⟨rfl, rfl, rfl, rfl, rfl⟩

lemma sameFrame_takeBack (p : Painter) (key : TileKey) (outcome : DrawOutcome) :
    SameFrame p (p.takeBack key outcome) := by
  have outline := DocumentCache.outline_takeBack (d := p.cache) key outcome
  rcases takeBack_eq p key outcome with same | ⟨rect, same⟩ <;> rw [same]
  · exact ⟨rfl, rfl, rfl, rfl, outline⟩
  · exact ⟨rfl, rfl, rfl, rfl, outline⟩

lemma sameFrame_carryOut (p : Painter) (request : PaintRequest) :
    SameFrame p (p.carryOut request) := by
  cases request with
  | staleArea part area =>
      exact ⟨rfl, rfl, rfl, rfl,
        DocumentCache.outline_modifyPart part fun c => c.outline_invalidate area⟩
  | stalePart part =>
      exact ⟨rfl, rfl, rfl, rfl,
        DocumentCache.outline_modifyPart part fun c => c.outline_invalidateAll⟩
  | damaged rect => exact sameFrame_markDamage p rect.effective
  | scroll area shift => exact sameFrame_scroll p area shift
  | lateResult key outcome => exact sameFrame_takeBack p key outcome

theorem sameFrame_request (p : Painter) (request : PaintRequest) :
    SameFrame p (p.request request) := by
  rw [Painter.request]
  split
  · exact sameFrame_carryOut p request
  · exact ⟨rfl, rfl, rfl, rfl, rfl⟩

lemma sameFrame_foldl {β : Type} {f : Painter → β → Painter} (hf : ∀ p b, SameFrame p (f p b))
    (bs : List β) (p : Painter) : SameFrame p (bs.foldl f p) := by
  induction bs generalizing p with
  | nil => exact .refl p
  | cons b bs ih => exact (hf p b).trans (ih (f p b))

theorem sameFrame_receive (p : Painter) : SameFrame p p.receive := by
  have emptied : SameFrame p { p with inbox := [] } := ⟨rfl, rfl, rfl, rfl, rfl⟩
  exact emptied.trans (sameFrame_foldl sameFrame_request p.inbox _)

lemma sameFrame_carryOutDeferred (p : Painter) : SameFrame p p.carryOutDeferred := by
  have emptied : SameFrame p { p with deferred := [] } := ⟨rfl, rfl, rfl, rfl, rfl⟩
  have carried := sameFrame_foldl sameFrame_carryOut p.deferred { p with deferred := [] }
  exact (emptied.trans carried).trans (sameFrame_receive _)

lemma sameFrame_clearSurface (p : Painter) : SameFrame p p.clearSurface := by
  rw [clearSurface]
  split_ifs <;> exact ⟨rfl, rfl, rfl, rfl, rfl⟩

/-! ## A paint pass, taken apart -/

section Rects

variable {p : Painter} {cache : PartCache Float} (rects : List (Rect .device))
  (renderer : SubmittingRenderer σ) (s : σ)

/-- The pass in which the damaged rectangles of a part are painted. -/
def passOver (p : Painter) (cache : PartCache Float) : PaintPass σ :=
  rects.foldl (PaintPass.paintRect renderer p.placement ((renderer.now s).1 + p.settings.budget))
    { cache, surface := p.surface, ready := #[], pending := #[], deferred := p.deferred
      renderer := (renderer.now s).2 }

/-- The cache that a pass works on: the one of the shown part, if it is of the right scale. -/
def shown? (p : Painter) : Option (PartCache Float) :=
  p.cache.parts[p.placement.part]?.filter (·.scale == p.placement.scale)

lemma shown?_eq_some_iff : p.shown? = some cache ↔ p.cache.parts[p.placement.part]? = some cache ∧
    (cache.scale == p.placement.scale) = true := Option.filter_eq_some_iff

lemma paintRects_of_shown (shown : p.shown? = some cache) :
    p.paintRects rects renderer s =
      let pass := p.passOver rects renderer s cache
      (⟨pass.ready, pass.pending, false⟩,
        { p with
          cache := p.cache.setPart p.placement.part pass.cache
          surface := pass.surface
          deferred := pass.deferred },
        pass.renderer) := by
  obtain ⟨found, scale⟩ := shown?_eq_some_iff.1 shown
  rw [paintRects, found]
  exact if_pos scale

/-- Without a cache of the shown part at the right scale, nothing is painted and everything
waits. -/
lemma paintRects_of_not_shown (shown : p.shown? = none) :
    p.paintRects rects renderer s = (⟨#[], rects.toArray, false⟩, p, (renderer.now s).2) := by
  simp only [paintRects]
  split
  · rfl
  · next cache found =>
    rw [shown?, found] at shown
    exact if_neg (Option.filter_eq_none_iff.1 shown cache rfl)

lemma sameFrame_paintRects (p : Painter) : SameFrame p (p.paintRects rects renderer s).2.1 := by
  cases shown : p.shown? with
  | none =>
      rw [paintRects_of_not_shown rects renderer s shown]
      exact .refl p
  | some cache =>
      rw [paintRects_of_shown rects renderer s shown]
      obtain ⟨outline, size⟩ := PaintPass.foldl_paintRect_frame renderer p.placement
        ((renderer.now s).1 + p.settings.budget) rects
        { cache, surface := p.surface, ready := #[], pending := #[], deferred := p.deferred
          renderer := (renderer.now s).2 }
      have found := (shown?_eq_some_iff.1 shown).1
      exact ⟨rfl, rfl, rfl, size, DocumentCache.outline_setPart found outline⟩

end Rects

/-- The painter when its damage has been taken out and its surface cleared. -/
def started (p : Painter) : Painter :=
  { p.clearSurface with phase := .painting, damage := .nothing }

lemma paint_of_isEmpty {p : Painter} (empty : p.receive.surface.isEmpty = true)
    (renderer : SubmittingRenderer σ) (s : σ) :
    p.paint renderer s = (.nothing, p.receive, s) := if_pos empty

lemma paint_of_not_isEmpty {p : Painter} (nonempty : ¬ p.receive.surface.isEmpty = true)
    (renderer : SubmittingRenderer σ) (s : σ) :
    p.paint renderer s =
      let bounds := p.receive.surface.bounds
      let painted := p.receive.started.paintRects (p.receive.damage.work bounds) renderer s
      ({ ready := if p.receive.unclear then #[bounds] ++ painted.1.ready else painted.1.ready
         pending := painted.1.pending
         cleared := p.receive.unclear },
        { painted.2.1 with phase := .idle }.carryOutDeferred, painted.2.2) := if_neg nonempty

/-- **A paint pass leaves the frame alone.** -/
theorem sameFrame_paint (p : Painter) (idle : p.phase = .idle) (renderer : SubmittingRenderer σ)
    (s : σ) : SameFrame p (p.paint renderer s).2.1 := by
  have received := sameFrame_receive p
  by_cases empty : p.receive.surface.isEmpty = true
  · rw [paint_of_isEmpty empty]
    exact received
  · rw [paint_of_not_isEmpty empty]
    have cleared := received.trans (sameFrame_clearSurface p.receive)
    have painted := sameFrame_paintRects (p.receive.damage.work p.receive.surface.bounds)
      renderer s p.receive.started
    refine SameFrame.trans ?_ (sameFrame_carryOutDeferred _)
    exact ⟨painted.settings.trans cleared.settings, idle.symm,
      painted.placement.trans cleared.placement, painted.size.trans cleared.size,
      painted.outline.trans cleared.outline⟩

end Painter

end TiledView
