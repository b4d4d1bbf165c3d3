import TiledView.Plane.Rect
import TiledView.Scale.Rounding

/-!
# Rectangles in 64-bit words

The numbers of a `Rect` are integers of any size, and its operations are exact.  A view keeps its
coordinates in 64-bit words.  Nearly everywhere that makes no difference, because surfaces and tiles
are small; but a rectangle that an engine or a host reports may have any words for its numbers, and
then a far edge need not fit and wraps around.

* `Rect.wrappedRight`, `Rect.wrappedBottom`, `Rect.wrappedOfEdges`, `Rect.wrappedOffset`,
  `Rect.wrappedMargin` — the operations in words.  They are the exact ones where the results fit.
* `Rect.overflows` — whether a far edge does not fit.
* `Rect.effective` — what such a rectangle amounts to.  An edge that has wrapped around lies before
  the near edge, so the rectangle meets nothing: it is as good as empty.
-/

namespace TiledView

open Rounding (wrap wrap_eq_self minInt64 maxInt64)

variable {space : Space}

namespace Rect

/-! ## Operations -/

def wrappedRight (r : Rect space) : Int := wrap (r.x + r.width)

def wrappedBottom (r : Rect space) : Int := wrap (r.y + r.height)

/-- The rectangle between two corners.  Edges that are too far apart are taken for inverted ones, or
the other way round. -/
def wrappedOfEdges (left top right bottom : Int) : Rect space :=
  ⟨left, top, max (wrap (right - left)) 0, max (wrap (bottom - top)) 0⟩

def wrappedOffset (r : Rect space) (dx dy : Int) : Rect space :=
  ⟨wrap (r.x + dx), wrap (r.y + dy), r.width, r.height⟩

/-- `r` with a margin of one pixel on each side. -/
def wrappedMargin (r : Rect space) : Rect space :=
  wrappedOfEdges (wrap (r.x - 1)) (wrap (r.y - 1)) (wrap (r.wrappedRight + 1))
    (wrap (r.wrappedBottom + 1))

theorem wrappedRight_eq {r : Rect space} (low : minInt64 ≤ r.right) (high : r.right ≤ maxInt64) :
    r.wrappedRight = r.right := wrap_eq_self low high

theorem wrappedBottom_eq {r : Rect space} (low : minInt64 ≤ r.bottom)
    (high : r.bottom ≤ maxInt64) : r.wrappedBottom = r.bottom := wrap_eq_self low high

theorem wrappedOfEdges_eq {left top right bottom : Int} (hleft : minInt64 ≤ right - left)
    (hright : right - left ≤ maxInt64) (htop : minInt64 ≤ bottom - top)
    (hbottom : bottom - top ≤ maxInt64) :
    (wrappedOfEdges left top right bottom : Rect space) = ofEdges left top right bottom := by
  rw [wrappedOfEdges, wrap_eq_self hleft hright, wrap_eq_self htop hbottom, ofEdges]

theorem wrappedOffset_eq {r : Rect space} {dx dy : Int} (left : minInt64 ≤ r.x + dx)
    (right : r.x + dx ≤ maxInt64) (top : minInt64 ≤ r.y + dy) (bottom : r.y + dy ≤ maxInt64) :
    r.wrappedOffset dx dy = r.offset dx dy := by
  rw [wrappedOffset, wrap_eq_self left right, wrap_eq_self top bottom, offset]

/-! ## Overflow -/

/-- Whether a far edge of `r` is too far out for a word, though the numbers of `r` are not. -/
def overflows (r : Rect space) : Bool :=
  r.x ≤ maxInt64 && r.width ≤ maxInt64 && maxInt64 < r.right ||
    r.y ≤ maxInt64 && r.height ≤ maxInt64 && maxInt64 < r.bottom

theorem overflows_iff {r : Rect space} : r.overflows = true ↔
    (r.x ≤ maxInt64 ∧ r.width ≤ maxInt64 ∧ maxInt64 < r.right) ∨
      r.y ≤ maxInt64 ∧ r.height ≤ maxInt64 ∧ maxInt64 < r.bottom := by
  simp only [overflows, Bool.or_eq_true, Bool.and_eq_true, decide_eq_true_eq, and_assoc]

/-- What `r` amounts to, where it is asked which pixels it has in common with something else
(`Rect.wrappedIntersects_eq`). -/
def effective (r : Rect space) : Rect space := if r.overflows then empty else r

theorem effective_of_overflows {r : Rect space} (h : r.overflows = true) : r.effective = empty :=
  if_pos h

theorem effective_of_fits {r : Rect space} (h : r.overflows = false) : r.effective = r :=
  if_neg (Bool.eq_false_iff.1 h)

theorem mem_effective {p : Point space} {r : Rect space} :
    p ∈ r.effective ↔ r.overflows = false ∧ p ∈ r := by
  cases h : r.overflows with
  | true => simp [effective_of_overflows h, not_mem_empty]
  | false => simp [effective_of_fits h]

/-- A rectangle does not overflow if its far edges fit. -/
theorem overflows_of_le {r : Rect space} (right : r.right ≤ maxInt64)
    (bottom : r.bottom ≤ maxInt64) : r.overflows = false := by
  rw [Bool.eq_false_iff, Ne, overflows_iff]
  omega

/-- Neither does one that begins at the origin or before it. -/
theorem overflows_of_nonpos {r : Rect space} (left : r.x ≤ 0) (top : r.y ≤ 0) :
    r.overflows = false := by
  rw [Bool.eq_false_iff, Ne, overflows_iff]
  simp only [right, bottom]
  omega

@[simp] theorem effective_ofSize (s : Size space) : (ofSize s).effective = ofSize s :=
  effective_of_fits (overflows_of_nonpos (Int.le_refl 0) (Int.le_refl 0))

end Rect

end TiledView
