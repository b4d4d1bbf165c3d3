import TiledView.Proofs.Plane.Regions

/-!
# Rectangles whose edges wrap around

The numbers of a rectangle are 64-bit words (`Rect.InWords`), and so are its far edges, unless they
wrap around.

* `Rect.wrappedIntersects_eq` — a test for common pixels with far edges that may wrap around is the
  exact one on what the rectangles amount to.  So `Rect.effective` is all that has to be known of a
  rectangle for `Rect.intersects`, and with it for `Rect.intersect` (`Rect.wrappedIntersect_eq`).
* `Rect.wrappedMargin_eq`, `Rect.not_mem_effective_wrappedMargin` — the margin around a rectangle that
  is given by its edges.  Either all of it fits, and then it is the exact one; or what is left of it
  has no pixel that could be on a surface or in an extent.
-/

namespace TiledView

open Rounding (wrap wrap_eq_self minInt64 maxInt64)

variable {space : Space}

/-! ## Sums -/

namespace Rounding

lemma wrap_le {n : Int} (low : minInt64 ≤ n) : wrap n ≤ n := by
  simp only [minInt64, wrap, Int.bmod_def] at *
  omega

/-- A sum of two words that is too great. -/
lemma wrap_of_maxInt64_lt {n : Int} (great : maxInt64 < n) (bound : n ≤ 2 * maxInt64) :
    wrap n = n - 0x10000000000000000 := by
  simp only [maxInt64, wrap, Int.bmod_def] at *
  omega

lemma wrap_add_one {n : Int} (low : minInt64 ≤ n) (high : n ≤ maxInt64) :
    wrap (n + 1) = if n = maxInt64 then minInt64 else n + 1 := by
  simp only [minInt64, maxInt64, wrap, Int.bmod_def] at *
  split_ifs <;> omega

lemma wrap_sub_one {n : Int} (low : minInt64 ≤ n) (high : n ≤ maxInt64) :
    wrap (n - 1) = if n = minInt64 then maxInt64 else n - 1 := by
  simp only [minInt64, maxInt64, wrap, Int.bmod_def] at *
  split_ifs <;> omega

end Rounding

namespace Rect

variable {r s : Rect space}

/-- The numbers of `r` are words. -/
structure InWords (r : Rect space) : Prop where
  left : minInt64 ≤ r.x ∧ r.x ≤ maxInt64
  top : minInt64 ≤ r.y ∧ r.y ≤ maxInt64
  width : minInt64 ≤ r.width ∧ r.width ≤ maxInt64
  height : minInt64 ≤ r.height ∧ r.height ≤ maxInt64

instance (r : Rect space) : Decidable r.InWords :=
  decidable_of_iff ((minInt64 ≤ r.x ∧ r.x ≤ maxInt64) ∧ (minInt64 ≤ r.y ∧ r.y ≤ maxInt64) ∧
    (minInt64 ≤ r.width ∧ r.width ≤ maxInt64) ∧ minInt64 ≤ r.height ∧ r.height ≤ maxInt64)
    ⟨fun ⟨left, top, width, height⟩ => ⟨left, top, width, height⟩,
      fun ⟨left, top, width, height⟩ => ⟨left, top, width, height⟩⟩

/-! ## Common pixels -/

/-- Whether two rectangles share a pixel, by far edges that may wrap around. -/
def wrappedIntersects (r s : Rect space) : Bool :=
  !r.isEmpty && !s.isEmpty && r.x < s.wrappedRight && s.x < r.wrappedRight &&
    r.y < s.wrappedBottom && s.y < r.wrappedBottom

/-- The common part of two rectangles, from far edges that may wrap around. -/
def wrappedIntersect (r s : Rect space) : Rect space :=
  if r.wrappedIntersects s then
    wrappedOfEdges (max r.x s.x) (max r.y s.y) (min r.wrappedRight s.wrappedRight)
      (min r.wrappedBottom s.wrappedBottom)
  else
    empty

lemma isEmpty_eq_false : r.isEmpty = false ↔ 0 < r.width ∧ 0 < r.height := by
  simp only [isEmpty, Bool.or_eq_false_iff, decide_eq_false_iff_not]
  omega

lemma intersects_def : r.intersects s = true ↔ (0 < r.width ∧ 0 < r.height) ∧
    (0 < s.width ∧ 0 < s.height) ∧ r.x < s.right ∧ s.x < r.right ∧ r.y < s.bottom ∧
      s.y < r.bottom := by
  simp only [intersects, Bool.and_eq_true, Bool.not_eq_true', isEmpty_eq_false, decide_eq_true_eq,
    and_assoc]

lemma wrappedIntersects_def : r.wrappedIntersects s = true ↔ (0 < r.width ∧ 0 < r.height) ∧
    (0 < s.width ∧ 0 < s.height) ∧ r.x < s.wrappedRight ∧ s.x < r.wrappedRight ∧
      r.y < s.wrappedBottom ∧ s.y < r.wrappedBottom := by
  simp only [wrappedIntersects, Bool.and_eq_true, Bool.not_eq_true', isEmpty_eq_false,
    decide_eq_true_eq, and_assoc]

lemma wrappedIntersects_comm (r s : Rect space) :
    r.wrappedIntersects s = s.wrappedIntersects r := by
  rw [Bool.eq_iff_iff, wrappedIntersects_def, wrappedIntersects_def]
  tauto

/-- **A rectangle with an edge that has wrapped around meets nothing.** -/
lemma wrappedIntersects_of_overflows (hr : r.InWords) (hs : s.InWords)
    (overflows : r.overflows = true) : r.wrappedIntersects s = false := by
  rw [Bool.eq_false_iff, Ne, wrappedIntersects_def]
  rintro ⟨⟨width, height⟩, ⟨width', height'⟩, before, after, above, below⟩
  obtain ⟨left, top, -, -⟩ := hr
  obtain ⟨left', top', hwidth', hheight'⟩ := hs
  rcases overflows_iff.1 overflows with ⟨-, fits, far⟩ | ⟨-, fits, far⟩
  · have wrapped : r.wrappedRight = r.right - 0x10000000000000000 :=
      Rounding.wrap_of_maxInt64_lt far (by omega)
    have near : s.wrappedRight ≤ s.right := Rounding.wrap_le (by omega)
    simp only [right, maxInt64] at *
    omega
  · have wrapped : r.wrappedBottom = r.bottom - 0x10000000000000000 :=
      Rounding.wrap_of_maxInt64_lt far (by omega)
    have near : s.wrappedBottom ≤ s.bottom := Rounding.wrap_le (by omega)
    simp only [bottom, maxInt64] at *
    omega

/-- Where the far edges fit, they are where they should be. -/
lemma far_eq_of_fits (hr : r.InWords) (width : 0 < r.width) (height : 0 < r.height)
    (fits : r.overflows = false) :
    (r.wrappedRight = r.right ∧ r.right ≤ maxInt64) ∧
      r.wrappedBottom = r.bottom ∧ r.bottom ≤ maxInt64 := by
  have far := mt overflows_iff.2 (Bool.eq_false_iff.1 fits)
  obtain ⟨left, top, hwidth, hheight⟩ := hr
  have hright : r.right ≤ maxInt64 := by omega
  have hbottom : r.bottom ≤ maxInt64 := by omega
  refine ⟨⟨wrappedRight_eq ?_ hright, hright⟩, wrappedBottom_eq ?_ hbottom, hbottom⟩
  · rw [right]
    omega
  · rw [bottom]
    omega

lemma intersects_effective_of_overflows (overflows : r.overflows = true) :
    r.effective.intersects s = false := by
  rw [Bool.eq_false_iff, Ne, intersects_iff]
  rintro ⟨p, hr, -⟩
  exact not_mem_empty (effective_of_overflows overflows ▸ hr)

lemma intersects_comm (r s : Rect space) : r.intersects s = s.intersects r := by
  rw [Bool.eq_iff_iff, intersects_iff, intersects_iff]
  exact exists_congr fun _ => and_comm

/-- **In words, two rectangles meet if what they amount to does.** -/
theorem wrappedIntersects_eq (hr : r.InWords) (hs : s.InWords) :
    r.wrappedIntersects s = r.effective.intersects s.effective := by
  cases overflows : r.overflows with
  | true =>
      rw [wrappedIntersects_of_overflows hr hs overflows,
        intersects_effective_of_overflows overflows]
  | false =>
      cases overflows' : s.overflows with
      | true =>
          rw [wrappedIntersects_comm, wrappedIntersects_of_overflows hs hr overflows',
            intersects_comm, intersects_effective_of_overflows overflows']
      | false =>
          rw [effective_of_fits overflows, effective_of_fits overflows', Bool.eq_iff_iff,
            wrappedIntersects_def, intersects_def]
          refine and_congr_right fun filled => and_congr_right fun filled' => ?_
          have far := far_eq_of_fits hr filled.1 filled.2 overflows
          have far' := far_eq_of_fits hs filled'.1 filled'.2 overflows'
          rw [far.1.1, far.2.1, far'.1.1, far'.2.1]

/-- What is common to two spans is no longer than the first of them. -/
lemma common_fits {low low' extent extent' : Int} (fits : extent ≤ maxInt64)
    (some : low < low + extent) (some' : low' < low' + extent') (before : low < low' + extent')
    (after : low' < low + extent) :
    minInt64 ≤ min (low + extent) (low' + extent') - max low low' ∧
      min (low + extent) (low' + extent') - max low low' ≤ maxInt64 := by
  have near : max low low' < min (low + extent) (low' + extent') :=
    Int.lt_min.2 ⟨Int.max_lt.2 ⟨some, after⟩, Int.max_lt.2 ⟨before, some'⟩⟩
  have short := Int.sub_le_sub (Int.min_le_left (low + extent) (low' + extent'))
    (Int.le_max_left low low')
  rw [minInt64]
  omega

/-- **In words, the common part of two rectangles is the one of what they amount to.** -/
theorem wrappedIntersect_eq (hr : r.InWords) (hs : s.InWords) :
    r.wrappedIntersect s = r.effective.intersect s.effective := by
  rw [wrappedIntersect, intersect, wrappedIntersects_eq hr hs]
  refine ite_congr rfl (fun meets => ?_) fun _ => rfl
  obtain ⟨p, mem, mem'⟩ := intersects_iff.1 meets
  obtain ⟨fits, mem⟩ := mem_effective.1 mem
  obtain ⟨fits', mem'⟩ := mem_effective.1 mem'
  rw [effective_of_fits fits, effective_of_fits fits'] at meets ⊢
  obtain ⟨filled, filled', before, after, above, below⟩ := intersects_def.1 meets
  obtain ⟨⟨right, hright⟩, bottom, hbottom⟩ := far_eq_of_fits hr filled.1 filled.2 fits
  obtain ⟨⟨right', hright'⟩, bottom', hbottom'⟩ := far_eq_of_fits hs filled'.1 filled'.2 fits'
  rw [right, bottom, right', bottom']
  have across := common_fits hr.width.2 (Int.lt_add_of_pos_right _ filled.1)
    (Int.lt_add_of_pos_right _ filled'.1) before after
  have down := common_fits hr.height.2 (Int.lt_add_of_pos_right _ filled.2)
    (Int.lt_add_of_pos_right _ filled'.2) above below
  exact wrappedOfEdges_eq across.1 across.2 down.1 down.2

/-! ## Margins -/

/-- A span from `low` to `high` has room for a margin. -/
def RoomFor (low high : Int) : Prop :=
  minInt64 < low ∧ high < maxInt64 ∧ high - low + 2 ≤ maxInt64

instance (low high : Int) : Decidable (RoomFor low high) := inferInstanceAs (Decidable (_ ∧ _))

/-- Where there is no room, the span with its margin ends at zero at the latest, or its far edge
wraps around. -/
lemma margin_of_no_room {low high : Int} (le : low ≤ high) (hlow : minInt64 ≤ low)
    (hhigh : high ≤ maxInt64) (full : ¬ RoomFor low high) :
    let near := wrap (low - 1)
    let extent := max (wrap (wrap (wrap (low + max (wrap (high - low)) 0) + 1) - near)) 0
    (near ≤ maxInt64 ∧ extent ≤ maxInt64 ∧ maxInt64 < near + extent) ∨ near + extent ≤ 0 ∨
      extent ≤ 0 := by
  -- The far edge is lost where the extent does not fit.
  have far : wrap (low + max (wrap (high - low)) 0) =
      if high - low ≤ maxInt64 then high else low := by
    simp only [minInt64, maxInt64, wrap, Int.bmod_def] at *
    split_ifs <;> omega
  dsimp only
  rw [far, Rounding.wrap_add_one (by split_ifs <;> omega) (by split_ifs <;> omega),
    Rounding.wrap_sub_one hlow (by omega)]
  simp only [RoomFor, minInt64, maxInt64, wrap, Int.bmod_def] at *
  split_ifs <;> omega

section Margins

variable {left top right bottom : Int}

/-- **A margin that fits is a margin of one pixel.** -/
theorem wrappedMargin_eq (across : RoomFor left right) (down : RoomFor top bottom)
    (hleft : left ≤ right) (htop : top ≤ bottom) :
    (wrappedOfEdges left top right bottom : Rect space).wrappedMargin =
      ofEdges (left - 1) (top - 1) (right + 1) (bottom + 1) := by
  obtain ⟨leftRoom, rightRoom, wide⟩ := across
  obtain ⟨topRoom, bottomRoom, tall⟩ := down
  have signs : minInt64 ≤ 0 ∧ 0 ≤ maxInt64 := by decide
  have farRight : (ofEdges left top right bottom : Rect space).wrappedRight = right := by
    rw [wrappedRight_eq] <;> rw [right_ofEdges hleft] <;> omega
  have farBottom : (ofEdges left top right bottom : Rect space).wrappedBottom = bottom := by
    rw [wrappedBottom_eq] <;> rw [bottom_ofEdges htop] <;> omega
  rw [wrappedOfEdges_eq (by omega) (by omega) (by omega) (by omega), wrappedMargin, farRight,
    farBottom]
  dsimp only [ofEdges]
  rw [wrap_eq_self (n := left - 1) (by omega) (by omega),
    wrap_eq_self (n := top - 1) (by omega) (by omega),
    wrap_eq_self (n := right + 1) (by omega) (by omega),
    wrap_eq_self (n := bottom + 1) (by omega) (by omega),
    wrappedOfEdges_eq (by omega) (by omega) (by omega) (by omega), ofEdges]

/-- **What is left of a margin that does not fit has no pixel of a surface or of an extent.** -/
theorem not_mem_effective_wrappedMargin (hleft : left ≤ right) (htop : top ≤ bottom)
    (left_mem : minInt64 ≤ left) (right_mem : right ≤ maxInt64) (top_mem : minInt64 ≤ top)
    (bottom_mem : bottom ≤ maxInt64) (full : ¬ (RoomFor left right ∧ RoomFor top bottom))
    {p : Point space} (px : 0 ≤ p.x) (py : 0 ≤ p.y) :
    p ∉ (wrappedOfEdges left top right bottom : Rect space).wrappedMargin.effective := by
  rw [mem_effective, Bool.eq_false_iff, Ne, overflows_iff, mem_def]
  rintro ⟨fits, onLeft, onRight, onTop, onBottom⟩
  simp only [wrappedMargin, wrappedOfEdges, Rect.right, Rect.bottom, wrappedRight, wrappedBottom] at *
  rcases Decidable.not_and_iff_or_not.1 full with full | full
  · have dead := margin_of_no_room hleft left_mem right_mem full
    dsimp only at dead
    omega
  · have dead := margin_of_no_room htop top_mem bottom_mem full
    dsimp only at dead
    omega

end Margins

end Rect

end TiledView
