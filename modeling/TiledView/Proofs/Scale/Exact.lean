import Mathlib.Algebra.Order.Field.Rat
import Mathlib.Data.Rat.Floor
import Mathlib.Tactic.Linarith
import Mathlib.Tactic.NormNum
import Mathlib.Tactic.Ring
import TiledView.Scale.Conversion

/-!
# Conversions without errors in between

Where the numbers in between are rationals, a conversion of an edge is off by its last rounding and
by nothing else.  Rounding to the nearest twip does not pass an integer, so a tile whose bounds reach
past an edge of an area has pixels past the place of this edge:

* `Scale.le_snapCeil_of_nearestTwip_lt` — the near edge of the tile is at most the far edge of the
  pixels that the area touches;
* `Scale.snapFloor_le_of_lt_nearestTwip` — and the far edge of the tile is at least their near edge.

Snapping can move the edge of an area past the edge of a tile, but not by a pixel.  Integers are
64-bit ones, and what is rounded to the end of their range may have been anything beyond it; so these
facts are about edges within the range.

Edges that are rounded to the nearest twip keep their order (`Scale.nearestTwip_le_nearestTwip`).
-/

namespace TiledView

open Rounding (minInt64 maxInt64 le_saturate saturate_le saturate_le_saturate)

/-! ## Rounding rationals -/

section Rounding

variable {q : Rat} {n : Int}

lemma le_nearest (h : n ≤ q) (high : n ≤ maxInt64) : n ≤ Arithmetic.nearest q := by
  refine le_saturate ?_ high
  split_ifs
  · rw [Rat.le_floor_iff]
    linarith
  · rw [le_neg, ← Int.lt_add_one_iff, Rat.floor_lt_iff]
    push_cast
    linarith

lemma nearest_le (h : q ≤ n) (low : minInt64 ≤ n) : Arithmetic.nearest q ≤ n := by
  refine saturate_le ?_ low
  split_ifs
  · rw [← Int.lt_add_one_iff, Rat.floor_lt_iff]
    push_cast
    linarith
  · rw [neg_le, Rat.le_floor_iff]
    push_cast
    linarith

/-- Rounding to the nearest integer keeps order, though halves are rounded down below zero and up
above it. -/
lemma nearest_le_nearest {r : Rat} (le : q ≤ r) : Arithmetic.nearest q ≤ Arithmetic.nearest r := by
  have floors {a b : Rat} (le : a ≤ b) : a.floor ≤ b.floor := Int.floor_mono le
  by_cases negative : q < 0
  · by_cases past : 0 ≤ r
    · have below : Arithmetic.nearest q ≤ 0 := nearest_le (mod_cast negative.le) (by decide)
      have above : 0 ≤ Arithmetic.nearest r := le_nearest (mod_cast past) (by decide)
      exact below.trans above
    · simp only [Arithmetic.nearest, if_neg negative.not_ge, if_neg past]
      exact saturate_le_saturate (neg_le_neg (floors (by linarith)))
  · simp only [Arithmetic.nearest, if_pos (not_lt.1 negative), if_pos ((not_lt.1 negative).trans le)]
    exact saturate_le_saturate (floors (by linarith))

/-- A far edge does not snap to an integer below one that it has passed. -/
lemma le_snapCeil (h : n < q) (high : n ≤ maxInt64) : n ≤ snapCeil q := by
  refine le_saturate ?_ high
  rw [← Int.sub_one_lt_iff]
  refine Rat.lt_ceil_iff.2 ?_
  show ((n - 1 : Int) : Rat) < q - 1 / 1000000
  push_cast
  linarith

/-- A near edge does not snap to an integer above one that it has not reached. -/
lemma snapFloor_le (h : q < n) (low : minInt64 ≤ n) : snapFloor q ≤ n := by
  refine saturate_le ?_ low
  rw [← Int.lt_add_one_iff]
  refine Rat.floor_lt_iff.2 ?_
  show q + 1 / 1000000 < ((n + 1 : Int) : Rat)
  push_cast
  linarith

end Rounding

/-! ## Edges of tiles and of areas -/

namespace Scale

variable {s : Scale Rat} {edge limit : Int}

lemma pixelsPerTwip_pos (pos : 0 < s.value) : 0 < s.pixelsPerTwip := by
  have twips : (0 : Rat) < twipsPerPixel := by decide +kernel
  exact div_pos pos twips

lemma deviceEdge_eq (s : Scale Rat) (edge : Int) : s.deviceEdge edge = edge * s.pixelsPerTwip := by
  show (edge : Rat) * s.zoom / twipsPerPixel * s.deviceScale =
    edge * (s.zoom * s.deviceScale / twipsPerPixel)
  ring

lemma nearestTwip_eq (s : Scale Rat) (edge : Int) :
    s.nearestTwip edge = Arithmetic.nearest (edge / s.pixelsPerTwip : Rat) :=
  congrArg Arithmetic.nearest (mul_one_div (edge : Rat) s.pixelsPerTwip)

lemma nearestTwip_zero (s : Scale Rat) : s.nearestTwip 0 = 0 := by
  rw [nearestTwip_eq, Int.cast_zero, zero_div]
  exact le_antisymm (nearest_le le_rfl (by decide)) (le_nearest le_rfl (by decide))

lemma nearestTwip_le_nearestTwip (pos : 0 < s.value) {edge' : Int} (le : edge ≤ edge') :
    s.nearestTwip edge ≤ s.nearestTwip edge' := by
  rw [nearestTwip_eq, nearestTwip_eq]
  refine nearest_le_nearest ?_
  exact (div_le_div_iff_of_pos_right (pixelsPerTwip_pos pos)).2 (mod_cast le)

lemma le_snapCeil_of_nearestTwip_lt (pos : 0 < s.value) (h : s.nearestTwip edge < limit)
    (hedge : edge ≤ maxInt64) (hlimit : limit ≤ maxInt64) :
    edge ≤ snapCeil (s.deviceEdge limit) := by
  refine le_snapCeil ?_ hedge
  rw [deviceEdge_eq]
  by_contra reached
  refine absurd h (Int.not_lt.2 ?_)
  rw [nearestTwip_eq]
  exact le_nearest ((le_div_iff₀ (pixelsPerTwip_pos pos)).2 (not_lt.1 reached)) hlimit

lemma snapFloor_le_of_lt_nearestTwip (pos : 0 < s.value) (h : limit < s.nearestTwip edge)
    (hedge : minInt64 ≤ edge) (hlimit : minInt64 ≤ limit) :
    snapFloor (s.deviceEdge limit) ≤ edge := by
  refine snapFloor_le ?_ hedge
  rw [deviceEdge_eq]
  by_contra passed
  refine absurd h (Int.not_lt.2 ?_)
  rw [nearestTwip_eq]
  exact nearest_le ((div_le_iff₀ (pixelsPerTwip_pos pos)).2 (not_lt.1 passed)) hlimit

end Scale

end TiledView
