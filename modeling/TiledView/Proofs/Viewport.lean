import TiledView.Proofs.Scale.Products

/-!
# Changes of a viewport

What a display has to follow when its viewport changes.

* `Viewport.Sane` — zoom and device scale are finite and the surface has no negative side.  Every
  change keeps a viewport sane, since the host's values are checked and sizes are rounded to zero
  or above.
* `Viewport.Moves` — the outcomes that a change may have: it is refused or found to change nothing,
  and the viewport is the one before, or it tells of every new surface size.  A zoom that the scroll
  offset could not follow is the one outcome outside of these: it is refused and in force all the
  same.
* `Viewport.clampScroll_eq`, `Viewport.scrollTo_eq` — scrolling moves the scroll offset only.
* `Viewport.Anchored` — the shown area begins at the origin of the surface and shows nothing before
  the origin of the document.  Every change keeps a viewport anchored.
-/

namespace TiledView

namespace Viewport

variable {v : Viewport} {documentSize : Size .twips}

/-- A scale made of finite factors, and a surface without negative sides. -/
structure Sane (v : Viewport) : Prop where
  zoom : v.zoom.isFinite = true
  deviceScale : v.deviceScale.isFinite = true
  width : 0 ≤ v.surfaceSize.width
  height : 0 ≤ v.surfaceSize.height

lemma sane_initial : Sane initial := ⟨by decide +kernel, by decide +kernel, by decide, by decide⟩

/-- A cache built at the scale of a viewport is one of that scale. -/
lemma Sane.scale_beq (h : v.Sane) : (v.scale == v.scale) = true :=
  Scale.beq_self h.zoom h.deviceScale

lemma Sane.with_scroll (h : v.Sane) (scroll : Point .device) : Sane { v with scroll } :=
  ⟨h.zoom, h.deviceScale, h.width, h.height⟩

lemma Sane.updateAreas (h : v.Sane) (pages : List (Rect .twips)) :
    (v.updateAreas documentSize pages).Sane := ⟨h.zoom, h.deviceScale, h.width, h.height⟩

lemma isFinite_of_isPositiveFinite {x : Float} (h : isPositiveFinite x = true) :
    x.isFinite = true := by
  rw [isPositiveFinite, Bool.and_eq_true] at h
  exact h.1

/-! ## Scrolling -/

lemma clampScroll_eq (v : Viewport) (documentSize : Size .twips) :
    ∃ scroll, (v.clampScroll documentSize).2 = { v with scroll } := by
  simp only [clampScroll]
  split_ifs
  · exact ⟨v.scroll, rfl⟩
  · exact ⟨_, rfl⟩

lemma scrollTo_eq (v : Viewport) (requested : Point .css Float) (documentSize : Size .twips) :
    (∃ error, v.scrollTo requested documentSize = (.error error, v)) ∨
      ∃ shifts scroll, v.scrollTo requested documentSize = (.ok shifts, { v with scroll }) := by
  rw [scrollTo]
  split_ifs
  · exact .inl ⟨_, rfl⟩
  · exact .inr ⟨_, _, rfl⟩

lemma clampInt_mem (n : Int) {high : Int} (nonneg : 0 ≤ high) :
    0 ≤ clampInt n high ∧ clampInt n high ≤ high := by
  rw [clampInt]
  split_ifs <;> omega

lemma scroll_clampScroll (v : Viewport) (documentSize : Size .twips) :
    (v.clampScroll documentSize).2.scroll =
      ⟨clampInt v.scroll.x (v.scrollLimit documentSize).x,
        clampInt v.scroll.y (v.scrollLimit documentSize).y⟩ := by
  simp only [clampScroll]
  split_ifs with same
  · exact same.symm
  · rfl

/-- What a target along one axis is rounded to is not before the origin. -/
lemma nearest_clampFloat_nonneg {target limit deviceScale : Float} (finite : target.isFinite = true)
    (nonneg : ¬ limit < 0) (positive : isPositiveFinite deviceScale = true) :
    0 ≤ Rounding.nearest (clampFloat target limit * deviceScale) := by
  rw [Double.nearest_mul (Double.isLength_clampFloat finite nonneg)
    (Double.isLength_of_isPositiveFinite positive), Rounding.saturate, Rounding.minInt64,
    Rounding.maxInt64]
  omega

/-! ## Where the document begins -/

/-- The shown area begins at the origin of the surface, and what is shown there is not before the
origin of the document. -/
structure Anchored (v : Viewport) : Prop where
  area : v.shownArea.x = 0 ∧ v.shownArea.y = 0
  scroll : 0 ≤ v.scroll.x ∧ 0 ≤ v.scroll.y
  deviceScale : isPositiveFinite v.deviceScale = true

lemma anchored_initial : Anchored initial :=
  ⟨⟨rfl, rfl⟩, ⟨Int.le_refl 0, Int.le_refl 0⟩, by decide +kernel⟩

/-- Clamping does not look at where the scroll offset was. -/
lemma anchored_clampScroll (v : Viewport) (documentSize : Size .twips)
    (area : v.shownArea.x = 0 ∧ v.shownArea.y = 0)
    (deviceScale : isPositiveFinite v.deviceScale = true) :
    (v.clampScroll documentSize).2.Anchored := by
  have clamped := v.scroll_clampScroll documentSize
  obtain ⟨scroll, same⟩ := v.clampScroll_eq documentSize
  rw [same] at clamped ⊢
  subst clamped
  have x := clampInt_mem v.scroll.x (Int.le_max_right _ 0 : 0 ≤ (v.scrollLimit documentSize).x)
  have y := clampInt_mem v.scroll.y (Int.le_max_right _ 0 : 0 ≤ (v.scrollLimit documentSize).y)
  exact ⟨area, ⟨x.1, y.1⟩, deviceScale⟩

namespace Anchored

lemma updateAreas (h : v.Anchored) (documentSize : Size .twips) (pages : List (Rect .twips)) :
    (v.updateAreas documentSize pages).Anchored := ⟨⟨rfl, rfl⟩, h.scroll, h.deviceScale⟩

lemma scrollTo (h : v.Anchored) (requested : Point .css Float) (documentSize : Size .twips) :
    (v.scrollTo requested documentSize).2.Anchored := by
  rw [Viewport.scrollTo]
  split_ifs with wild
  · exact h
  · have finite : requested.isFinite = true := by simpa using wild
    obtain ⟨x, y⟩ := Bool.and_eq_true_iff.1 finite
    refine ⟨h.area, ⟨?_, ?_⟩, h.deviceScale⟩
    · exact nearest_clampFloat_nonneg x (Double.number_nonNegative _).2 h.deviceScale
    · exact nearest_clampFloat_nonneg y (Double.number_nonNegative _).2 h.deviceScale

end Anchored

/-! ## Geometry from the host -/

/-- The outcomes that a change of the viewport may have. -/
inductive Moves (v : Viewport) : Except ViewportError ViewportChange × Viewport → Prop where
  | refused (error : ViewportError) : Moves v (.error error, v)
  | unchanged : Moves v (.ok .unchanged, v)
  | changed (scaleChanged surfaceResized : Bool) (v' : Viewport) (sane : v'.Sane)
      (same : surfaceResized = false → v'.surfaceSize = v.surfaceSize) :
      Moves v (.ok (.changed scaleChanged surfaceResized), v')

/-- **A new place of the view** is refused, or told with the new surface size. -/
theorem setViewRect_moves (sane : v.Sane) (cssRect : Rect .css) (deviceScale : Float) :
    v.Moves (v.setViewRect cssRect deviceScale) := by
  simp only [setViewRect]
  split_ifs with refused unchanged
  · exact .refused _
  · exact .unchanged
  · refine .changed _ _ _ ⟨sane.zoom, ?_, Int.le_max_right _ _, Int.le_max_right _ _⟩ ?_
    · exact isFinite_of_isPositiveFinite (by simpa using refused)
    · intro same
      simpa using same

lemma finiteQuotient_error {x y : Float} {error : ViewportError}
    (h : finiteQuotient x y = .error error) : error = .nonFiniteValue := by
  rw [finiteQuotient] at h
  split_ifs at h
  exact (Except.error.inj h).symm

lemma finiteProduct_error {x y : Float} {error : ViewportError}
    (h : finiteProduct x y = .error error) : error = .nonFiniteValue := by
  rw [finiteProduct] at h
  split_ifs at h
  exact (Except.error.inj h).symm

/-- The scroll offset follows the zoom, or a value on the way is not finite. -/
lemma zoomedScroll_error {scroll : Point .device} {oldZoom zoom : Float} {error : ViewportError}
    (h : zoomedScroll scroll oldZoom zoom = .error error) : error = .nonFiniteValue := by
  rw [zoomedScroll] at h
  cases hratio : finiteQuotient zoom oldZoom with
  | error e =>
      rw [hratio] at h
      cases h
      exact finiteQuotient_error hratio
  | ok ratio =>
      rw [hratio] at h
      cases hx : finiteProduct (.ofInt scroll.x) ratio with
      | error e =>
          simp only [bind, Except.bind, hx] at h
          cases h
          exact finiteProduct_error hx
      | ok x =>
          cases hy : finiteProduct (.ofInt scroll.y) ratio with
          | error e =>
              simp only [bind, Except.bind, hx, hy] at h
              cases h
              exact finiteProduct_error hy
          | ok y =>
              simp only [bind, Except.bind, hx, hy] at h
              cases h

/-- **A new zoom** is refused or told, unless the scroll offset cannot follow it. -/
theorem setZoom_moves (sane : v.Sane) (zoom : Float)
    (follows : (v.setZoom zoom documentSize).1 ≠ .error .nonFiniteValue) :
    v.Moves (v.setZoom zoom documentSize) := by
  rw [setZoom] at follows ⊢
  split_ifs at follows ⊢ with refused unchanged
  · exact .refused _
  · exact .unchanged
  · split at follows
    · next error failed => exact absurd (congrArg Except.error (zoomedScroll_error failed)) follows
    · next scroll followed =>
      dsimp only
      obtain ⟨clamped, same⟩ := clampScroll_eq { v with zoom, scroll } documentSize
      rw [same]
      refine .changed _ _ _ ⟨?_, sane.deviceScale, sane.width, sane.height⟩ fun _ => rfl
      exact isFinite_of_isPositiveFinite (by simpa using refused)

end Viewport

end TiledView
