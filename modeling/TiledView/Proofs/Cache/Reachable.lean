import TiledView.Proofs.Cache.Marks

/-!
# The part caches that calls lead to

`PartCache.Reachable c` holds of the caches that a sequence of calls leads to from a new one.
Invalidations, paint passes and late results come in any order.  Renderers answer as they like, with
bitmaps of any size, and a late result may be for any key, also for one that no job ever had.

* `PartCache.Reachable.exists_outline` — drawing aside, the cache is still the one that was built.
* `PartCache.Reachable.marks` — all its tiles can be marked.
-/

namespace TiledView

namespace PartCache

variable {α : Type} [Arithmetic α] {c c' : PartCache α}

/-- What one call makes of a part cache. -/
inductive Step (c : PartCache α) : PartCache α → Prop where
  | invalidateAll : Step c c.invalidateAll
  | invalidate (area : Rect .twips) : Step c (c.invalidate area).2
  | takeBack (key : TileKey) (outcome : DrawOutcome) : Step c (c.takeBack key outcome).2
  /-- A pass over any area, so also over what is left of one that overflows. -/
  | paint {σ : Type} (surface : Bitmap) (window : PaintWindow) (dirty : Rect .device)
      (deadline : Nat) (renderer : Renderer σ) (s : σ) :
      Step c (c.sweep surface window dirty deadline renderer s).cache

inductive Reachable : PartCache α → Prop where
  | build (part : Nat) (scale : Scale α) (documentSize : Size .twips)
      (tileEdge generation : Nat) :
      Reachable (build part scale documentSize tileEdge generation)
  | step {c c' : PartCache α} (reachable : Reachable c) (step : Step c c') : Reachable c'

lemma Step.outline (step : Step c c') : c'.outline = c.outline := by
  cases step with
  | invalidateAll => exact outline_invalidateAll
  | invalidate area => exact outline_invalidate area
  | takeBack key outcome => exact outline_takeBack key outcome
  | paint surface window dirty deadline renderer s =>
      exact outline_sweep surface window dirty deadline renderer s

lemma Marks.step (h : c.Marks) (step : Step c c') : c'.Marks := by
  cases step with
  | invalidateAll => exact h.invalidateAll
  | invalidate area => exact h.invalidate area
  | takeBack key outcome => exact h.takeBack key outcome
  | paint surface window dirty deadline renderer s =>
      exact h.sweep surface window dirty deadline renderer s

/-- **What a cache was built as can still be read off it.** -/
theorem Reachable.exists_outline (reachable : c.Reachable) :
    ∃ part scale documentSize tileEdge generation,
      c.outline = .build part scale documentSize tileEdge generation := by
  induction reachable with
  | build part scale documentSize tileEdge generation =>
      exact ⟨part, scale, documentSize, tileEdge, generation, outline_build ..⟩
  | step _ step ih =>
      obtain ⟨part, scale, documentSize, tileEdge, generation, built⟩ := ih
      exact ⟨part, scale, documentSize, tileEdge, generation, step.outline.trans built⟩

theorem Reachable.marks (reachable : c.Reachable) : c.Marks := by
  induction reachable with
  | build => exact .build ..
  | step _ step ih => exact ih.step step

end PartCache

end TiledView
