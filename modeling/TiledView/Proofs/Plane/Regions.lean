import TiledView.Plane.Wrapping
import Mathlib.Tactic.Common

/-!
# Rectangles as sets of pixels

`p ∈ r` is the view through which rectangles are read, and `TiledView.Plane.Rect` says what
intersecting and moving do to it.  This file adds the operations that painting and scrolling need
besides: the rectangle at the origin (`Rect.mem_ofSize`), containment (`Rect.mem_of_containsRect`)
and the bounding box (`Rect.mem_union_left`, `Rect.mem_union_right`, `Rect.mem_of_mem_union`).

One fact is not about sets of pixels.  A rectangle that lies inside another *is* its intersection
with it, coordinates included (`Rect.intersect_eq_self`): clipping does not move an origin unless it
has something to cut off.
-/

namespace TiledView

variable {space : Space}

namespace Point

@[simp] lemma x_offset (p : Point space) (dx dy : Int) : (p.offset dx dy).x = p.x + dx := rfl

@[simp] lemma y_offset (p : Point space) (dx dy : Int) : (p.offset dx dy).y = p.y + dy := rfl

/-- Two moves are one. -/
lemma offset_offset (p : Point space) (dx dy ex ey : Int) :
    (p.offset dx dy).offset ex ey = p.offset (dx + ex) (dy + ey) := by
  simp only [offset, Int.add_assoc]

@[simp] lemma offset_zero (p : Point space) : p.offset 0 0 = p := by
  simp only [offset, Int.add_zero]

/-- A point that moves back arrives where it came from. -/
lemma offset_offset_of_add_eq_zero (p : Point space) {dx dy ex ey : Int} (hx : dx + ex = 0)
    (hy : dy + ey = 0) : (p.offset dx dy).offset ex ey = p := by
  rw [offset_offset, hx, hy, offset_zero]

end Point

namespace Rect

variable {p : Point space} {r s : Rect space}

lemma mem_ofSize {size : Size space} :
    p ∈ ofSize size ↔ 0 ≤ p.x ∧ p.x < size.width ∧ 0 ≤ p.y ∧ p.y < size.height := by
  simp only [mem_def, ofSize, right, bottom]
  omega

/-- The far edges are where they were asked for, unless they are inverted. -/
lemma right_ofEdges {left top right bottom : Int} (h : left ≤ right) :
    (ofEdges left top right bottom : Rect space).right = right := by
  simp only [Rect.right, ofEdges]
  omega

lemma bottom_ofEdges {left top right bottom : Int} (h : top ≤ bottom) :
    (ofEdges left top right bottom : Rect space).bottom = bottom := by
  simp only [Rect.bottom, ofEdges]
  omega

lemma mem_ofOriginSize {origin : Point space} {size : Size space} :
    p ∈ ofOriginSize origin size ↔ origin.x ≤ p.x ∧ p.x < origin.x + size.width ∧
      origin.y ≤ p.y ∧ p.y < origin.y + size.height := Iff.rfl

/-- A rectangle whose origin lies on `dest`, seen from the one that it is a copy of. -/
lemma mem_ofOriginSize_size {dest : Point space} :
    p ∈ ofOriginSize dest r.size ↔ p.offset (r.x - dest.x) (r.y - dest.y) ∈ r := by
  rw [mem_ofOriginSize]
  simp only [mem_def, Point.x_offset, Point.y_offset, size, right, bottom]
  omega

lemma not_mem_of_isEmpty (h : r.isEmpty) : p ∉ r := by
  intro hp
  have hne : r.isEmpty = false := isEmpty_eq_false_iff.2 ⟨p, hp⟩
  rw [hne] at h
  exact Bool.noConfusion h

lemma lt_of_isEmpty_eq_false (h : r.isEmpty = false) : r.x < r.right ∧ r.y < r.bottom := by
  simp only [isEmpty, Bool.or_eq_false_iff, decide_eq_false_iff_not] at h
  simp only [right, bottom]
  omega

lemma mem_of_containsRect (h : r.containsRect s) (hp : p ∈ s) : p ∈ r := by
  simp only [containsRect, Bool.and_eq_true, decide_eq_true_eq] at h
  simp only [mem_def] at hp ⊢
  omega

/-- A rectangle with pixels contains another one as soon as it contains its pixels. -/
lemma containsRect_of_forall_mem (hne : s.isEmpty = false) (h : ∀ p ∈ s, p ∈ r) :
    r.containsRect s := by
  have sides : 0 < s.width ∧ 0 < s.height := by
    simp only [isEmpty, Bool.or_eq_false_iff, decide_eq_false_iff_not] at hne
    omega
  have first := h ⟨s.x, s.y⟩
  have last := h ⟨s.x + s.width - 1, s.y + s.height - 1⟩
  simp only [mem_def, right, bottom] at first last
  simp only [containsRect, hne, Bool.not_false, Bool.true_and, Bool.and_eq_true,
    decide_eq_true_eq]
  simp only [right, bottom]
  omega

lemma mem_union_left (hp : p ∈ r) : p ∈ r.union s := by
  rw [union]
  split_ifs with hr hs
  · exact absurd hp (not_mem_of_isEmpty hr)
  · exact hp
  · rw [mem_ofEdges]
    simp only [mem_def] at hp
    omega

lemma mem_union_right (hp : p ∈ s) : p ∈ r.union s := by
  rw [union]
  split_ifs with hr hs
  · exact hp
  · exact absurd hp (not_mem_of_isEmpty hs)
  · rw [mem_ofEdges]
    simp only [mem_def] at hp
    omega

lemma isEmpty_of_containsRect (h : r.containsRect s = true) : s.isEmpty = false := by
  simp only [containsRect, Bool.and_eq_true, Bool.not_eq_true'] at h
  exact h.1.1.1.1

/-- A rectangle around two others is one around their bounding box. -/
lemma containsRect_union {t : Rect space} (hr : t.containsRect r = true)
    (hs : t.containsRect s = true) : t.containsRect (r.union s) = true := by
  obtain ⟨p, hp⟩ := isEmpty_eq_false_iff.1 (isEmpty_of_containsRect hr)
  refine containsRect_of_forall_mem (isEmpty_eq_false_iff.2 ⟨p, mem_union_left hp⟩) ?_
  intro q hq
  rw [union, if_neg (Bool.eq_false_iff.1 (isEmpty_of_containsRect hr)),
    if_neg (Bool.eq_false_iff.1 (isEmpty_of_containsRect hs)), mem_ofEdges] at hq
  simp only [containsRect, Bool.and_eq_true, decide_eq_true_eq] at hr hs
  rw [mem_def]
  omega

/-- The bounding box of two rectangles lies in each rectangle that they lie in. -/
lemma mem_of_mem_union {t : Rect space} (hr : ∀ q ∈ r, q ∈ t) (hs : ∀ q ∈ s, q ∈ t)
    (hp : p ∈ r.union s) : p ∈ t := by
  by_cases left : r.isEmpty = true
  · rw [union, if_pos left] at hp
    exact hs p hp
  by_cases right : s.isEmpty = true
  · rw [union, if_neg left, if_pos right] at hp
    exact hr p hp
  have both := containsRect_union (containsRect_of_forall_mem (Bool.eq_false_iff.2 left) hr)
    (containsRect_of_forall_mem (Bool.eq_false_iff.2 right) hs)
  exact mem_of_containsRect both hp

lemma containsRect_intersect (h : (r.intersect s).isEmpty = false) :
    r.containsRect (r.intersect s) = true ∧ s.containsRect (r.intersect s) = true :=
  ⟨containsRect_of_forall_mem h fun _ hp => (mem_intersect.1 hp).1,
    containsRect_of_forall_mem h fun _ hp => (mem_intersect.1 hp).2⟩

/-- Rectangles without a common pixel have the one `empty` for their intersection. -/
lemma intersect_eq_empty (h : (r.intersect s).isEmpty) : r.intersect s = empty := by
  rw [intersect, if_neg]
  intro meets
  obtain ⟨p, hp⟩ := intersects_iff.1 meets
  exact not_mem_of_isEmpty h (mem_intersect.2 hp)

/-- The edges of an intersection, where there is something in it. -/
lemma intersect_of_mem (hr : p ∈ r) (hs : p ∈ s) : r.intersect s =
    ofEdges (max r.x s.x) (max r.y s.y) (min r.right s.right) (min r.bottom s.bottom) :=
  if_pos (intersects_iff.2 ⟨p, hr, hs⟩)

/-- Nothing overflows inside of a rectangle whose far edges fit. -/
lemma mem_effective_of_inside (hright : s.right ≤ Rounding.maxInt64)
    (hbottom : s.bottom ≤ Rounding.maxInt64) (inside : ∀ q ∈ r, q ∈ s) (hp : p ∈ r) :
    p ∈ r.effective := by
  have contains := containsRect_of_forall_mem (isEmpty_eq_false_iff.2 ⟨p, hp⟩) inside
  simp only [containsRect, Bool.and_eq_true, decide_eq_true_eq] at contains
  exact mem_effective.2 ⟨overflows_of_le (by omega) (by omega), hp⟩

/-- A rectangle that covers all there is does not overflow. -/
lemma mem_effective_of_covers {size : Size space} (covers : ∀ q ∈ ofSize size, q ∈ r)
    (hp : p ∈ ofSize size) : p ∈ r.effective := by
  have corner : (⟨0, 0⟩ : Point space) ∈ ofSize size := by
    rw [mem_ofSize] at hp ⊢
    dsimp only
    omega
  obtain ⟨left, -, top, -⟩ := mem_def.1 (covers _ corner)
  exact mem_effective.2 ⟨overflows_of_nonpos left top, covers p hp⟩

/-- Clipping leaves a rectangle that lies inside the other one alone. -/
lemma intersect_eq_self (h : s.containsRect r) : r.intersect s = r := by
  obtain ⟨x, y, width, height⟩ := r
  simp only [containsRect, isEmpty, Bool.and_eq_true, Bool.not_eq_true', Bool.or_eq_false_iff,
    decide_eq_false_iff_not, decide_eq_true_eq] at h
  simp only [right, bottom] at h
  have meets : (⟨x, y, width, height⟩ : Rect space).intersects s := by
    refine intersects_iff.2 ⟨⟨x, y⟩, ?_⟩
    simp only [mem_def, right, bottom]
    omega
  rw [intersect, if_pos meets]
  simp only [ofEdges, right, bottom, Rect.mk.injEq]
  omega

end Rect

end TiledView
