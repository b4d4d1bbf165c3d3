import TiledView.Proofs.Scale.Products
import TiledView.Proofs.Viewer.Opening

/-!
# The two clamps of the scroll offset

A change of the zoom clamps the scroll offset in device pixels.  A scroll target is clamped at zoom,
and rounded to a device pixel afterwards.

* `Viewport.Fits` — what both are for: the offset is in the range of the document, so that clamping
  leaves it where it is and the window does not reach past the last pixel of the document.
* `Viewport.scroll_scrollTo_mono` — a farther target is not rounded to a nearer offset, and no
  offset is negative.
* `Viewport.clamps_agree_iff` — so whether the two clamps agree is decided at the far end: every
  target fits a document exactly if the farthest one does.

At the far end they need not agree.  With a fractional device scale, the extents of the document and
of the surface are rounded up, each by itself, and their difference may be half a pixel less than the
exact one, which the target is rounded from (`Viewport.clamps_disagree_letter`).
-/

namespace TiledView

open Double

namespace Viewport

variable {v : Viewport} {documentSize : Size .twips} {requested other : Point .css Float}

/-! ## Offsets that fit -/

/-- The scroll offset fits the document. -/
structure Fits (v : Viewport) (documentSize : Size .twips) : Prop where
  within : v.Within documentSize
  /-- Clamping leaves it where it is. -/
  still : v.clampScroll documentSize = (false, v)
  /-- The window does not reach past the last pixel of the document. -/
  inside : ∀ q ∈ v.surfaceWithin documentSize,
    q.offset v.scroll.x v.scroll.y ∈ Rect.ofSize (v.deviceExtent documentSize)

lemma clampInt_eq_self {n high : Int} (nonneg : 0 ≤ n) (le : n ≤ high) : clampInt n high = n := by
  rw [clampInt, if_neg (Int.not_lt.2 nonneg), if_neg (Int.not_lt.2 le)]

/-- An offset in the range is all it takes. -/
lemma Within.fits (h : v.Within documentSize) : v.Fits documentSize := by
  refine ⟨h, ?_, fun q shown => h.mem_extent shown⟩
  rw [clampScroll, clampInt_eq_self h.left h.right, clampInt_eq_self h.top h.bottom]
  exact if_pos rfl

/-- **A new zoom leaves an offset that fits.** -/
lemma fits_setZoom {zoom : Float} {scaleChanged surfaceResized : Bool}
    (changed : (v.setZoom zoom documentSize).1 = .ok (.changed scaleChanged surfaceResized)) :
    (v.setZoom zoom documentSize).2.Fits documentSize := by
  rw [setZoom] at changed ⊢
  split_ifs at changed ⊢
  · cases changed
  · split at changed
    · cases changed
    · exact (within_clampScroll _ documentSize).fits

/-! ## Scroll targets -/

/-- The range of scroll targets, in pixels at zoom. -/
def targetLimit (v : Viewport) (documentSize : Size .twips) : Point .css Float :=
  let extent := v.cssExtent documentSize
  ⟨nonNegative (extent.width - .ofInt v.cssRect.width),
    nonNegative (extent.height - .ofInt v.cssRect.height)⟩

/-- The device pixel at which a target along one axis comes to lie. -/
def landing (limit deviceScale target : Float) : Int :=
  Rounding.nearest (clampFloat target limit * deviceScale)

lemma scrollTo_of_isFinite (finite : requested.isFinite = true) :
    (∃ shifts, (v.scrollTo requested documentSize).1 = .ok shifts) ∧
      (v.scrollTo requested documentSize).2 = { v with scroll :=
        ⟨landing (v.targetLimit documentSize).x v.deviceScale requested.x,
          landing (v.targetLimit documentSize).y v.deviceScale requested.y⟩ } := by
  rw [scrollTo, finite]
  exact ⟨⟨_, rfl⟩, rfl⟩

/-- How far one may scroll does not depend on where one is. -/
lemma scrollLimit_scrollTo (finite : requested.isFinite = true) :
    (v.scrollTo requested documentSize).2.scrollLimit documentSize = v.scrollLimit documentSize := by
  rw [(scrollTo_of_isFinite finite).2]
  rfl

section Landing

variable {limit deviceScale target : Float}

/-- How far a target of some magnitude comes to lie. -/
def reach (limit deviceScale : Float) (n : Nat) : Int :=
  Rounding.saturate (toInteger (rounded (min n (magnitude limit) * magnitude deviceScale)))

lemma reach_mono {m n : Nat} (le : m ≤ n) : reach limit deviceScale m ≤ reach limit deviceScale n := by
  have nearer : min m (magnitude limit) ≤ min n (magnitude limit) :=
    min_le_min_right _ le
  have product := rounded_mono (Nat.mul_le_mul_right (magnitude deviceScale) nearer)
  exact saturate_mono (Int.ofNat_le.2 (toInteger_mono product))

lemma reach_nonneg (n : Nat) : 0 ≤ reach limit deviceScale n := by
  rw [reach, Rounding.saturate, Rounding.minInt64, Rounding.maxInt64]
  omega

/-- **Where a target comes to lie depends on its magnitude only.** -/
lemma landing_eq_reach (positive : isPositiveFinite deviceScale = true)
    (limits : limit.isNaN = false ∧ ¬limit < 0) (finite : target.isFinite = true) :
    landing limit deviceScale target = reach limit deviceScale (magnitude target) := by
  rw [landing, nearest_mul (isLength_clampFloat finite limits.2)
    (isLength_of_isPositiveFinite positive),
    magnitude_clampFloat (isNaN_of_isFinite finite) limits.1, reach]

end Landing

/-! ## The far end -/

/-- The target that is farthest to the right and to the bottom. -/
def farthest : Point .css Float := ⟨largest, largest⟩

lemma isFinite_farthest : farthest.isFinite = true := by
  rw [farthest, Point.isFinite, isFinite_largest, Bool.and_self]

lemma number_targetLimit (v : Viewport) (documentSize : Size .twips) :
    ((v.targetLimit documentSize).x.isNaN = false ∧ ¬(v.targetLimit documentSize).x < 0) ∧
      (v.targetLimit documentSize).y.isNaN = false ∧ ¬(v.targetLimit documentSize).y < 0 :=
  ⟨number_nonNegative _, number_nonNegative _⟩

/-- A farther target does not come to lie nearer, and none comes to lie before the origin. -/
lemma scroll_scrollTo_mono (positive : isPositiveFinite v.deviceScale = true)
    (documentSize : Size .twips) (finite : requested.isFinite = true) (finite' : other.isFinite = true)
    (x : magnitude requested.x ≤ magnitude other.x) (y : magnitude requested.y ≤ magnitude other.y) :
    let nearer := (v.scrollTo requested documentSize).2.scroll
    let farther := (v.scrollTo other documentSize).2.scroll
    0 ≤ nearer.x ∧ nearer.x ≤ farther.x ∧ 0 ≤ nearer.y ∧ nearer.y ≤ farther.y := by
  have finite_xy := Bool.and_eq_true_iff.1 finite
  have finite_xy' := Bool.and_eq_true_iff.1 finite'
  obtain ⟨limit_x, limit_y⟩ := v.number_targetLimit documentSize
  rw [(scrollTo_of_isFinite finite).2, (scrollTo_of_isFinite finite').2]
  dsimp only
  rw [landing_eq_reach positive limit_x finite_xy.1, landing_eq_reach positive limit_y finite_xy.2,
    landing_eq_reach positive limit_x finite_xy'.1, landing_eq_reach positive limit_y finite_xy'.2]
  exact ⟨reach_nonneg _, reach_mono x, reach_nonneg _, reach_mono y⟩

/-- **The two clamps agree about a document exactly if they do so at its far end.**  A new zoom
leaves an offset that fits, always.  A scroll target is followed to an offset between the origin and
the far end, always.  Every target is followed to an offset that fits exactly if the farthest one
is. -/
theorem clamps_agree_iff (positive : isPositiveFinite v.deviceScale = true)
    (documentSize : Size .twips) :
    (∀ zoom scaleChanged surfaceResized,
      (v.setZoom zoom documentSize).1 = .ok (.changed scaleChanged surfaceResized) →
        (v.setZoom zoom documentSize).2.Fits documentSize) ∧
    (∀ requested : Point .css Float, requested.isFinite = true →
      let scroll := (v.scrollTo requested documentSize).2.scroll
      let farEnd := (v.scrollTo farthest documentSize).2.scroll
      (∃ shifts, (v.scrollTo requested documentSize).1 = .ok shifts) ∧
        0 ≤ scroll.x ∧ scroll.x ≤ farEnd.x ∧ 0 ≤ scroll.y ∧ scroll.y ≤ farEnd.y) ∧
    ((∀ requested : Point .css Float, requested.isFinite = true →
        (v.scrollTo requested documentSize).2.Fits documentSize) ↔
      (v.scrollTo farthest documentSize).2.Within documentSize) := by
  have bounds (requested : Point .css Float) (finite : requested.isFinite = true) :=
    scroll_scrollTo_mono positive documentSize finite isFinite_farthest
      (magnitude_le_largest (Bool.and_eq_true_iff.1 finite).1)
      (magnitude_le_largest (Bool.and_eq_true_iff.1 finite).2)
  refine ⟨fun zoom _ _ changed => fits_setZoom changed, fun requested finite => ?_, ?_⟩
  · exact ⟨(scrollTo_of_isFinite finite).1, bounds requested finite⟩
  · refine ⟨fun all => (all farthest isFinite_farthest).within, fun far requested finite => ?_⟩
    obtain ⟨left, right, top, bottom⟩ := bounds requested finite
    have limit : (v.scrollTo requested documentSize).2.scrollLimit documentSize =
        (v.scrollTo farthest documentSize).2.scrollLimit documentSize :=
      (scrollLimit_scrollTo finite).trans (scrollLimit_scrollTo isFinite_farthest).symm
    refine Within.fits ⟨left, ?_, top, ?_⟩
    · rw [limit]
      exact Int.le_trans right far.right
    · rw [limit]
      exact Int.le_trans bottom far.bottom

/-- On a display of scale one, every target fits a letter page. -/
theorem clamps_agree_letter :
    let v := (initial.setViewRect ⟨0, 0, 801, 601⟩ 1).2
    let letter : Size .twips := ⟨12240, 15840⟩
    isPositiveFinite v.deviceScale = true ∧
      ∀ requested : Point .css Float, requested.isFinite = true →
        (v.scrollTo requested letter).2.Fits letter := by
  intro v letter
  have positive : isPositiveFinite v.deviceScale = true := by decide +kernel
  refine ⟨positive, (clamps_agree_iff positive letter).2.2.2 ?_⟩
  exact ⟨by decide +kernel, by decide +kernel, by decide +kernel, by decide +kernel⟩

/-- At a device scale of five quarters, the surface of the same window is rounded up by three
quarters of a pixel, and the target at the far end by one quarter.  The offset is one pixel out of
its range, and the window shows a row and a column behind the end of the page. -/
theorem clamps_disagree_letter :
    let v := (initial.setViewRect ⟨0, 0, 801, 601⟩ 1.25).2
    let letter : Size .twips := ⟨12240, 15840⟩
    let scrolled := (v.scrollTo ⟨15, 455⟩ letter).2
    isPositiveFinite v.zoom = true ∧ isPositiveFinite v.deviceScale = true ∧
      (v.scrollTo ⟨15, 455⟩ letter).1.isOk = true ∧ scrolled.scroll = ⟨19, 569⟩ ∧
      scrolled.scrollLimit letter = ⟨18, 568⟩ ∧ (scrolled.clampScroll letter).1 = true ∧
      ¬scrolled.Fits letter := by
  intro v letter scrolled
  have moves : (scrolled.clampScroll letter).1 = true := by decide +kernel
  refine ⟨by decide +kernel, by decide +kernel, by decide +kernel, by decide +kernel,
    by decide +kernel, moves, fun fits => ?_⟩
  rw [fits.still] at moves
  cases moves

end Viewport

end TiledView
