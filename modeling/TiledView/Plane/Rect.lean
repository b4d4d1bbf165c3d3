import TiledView.Plane.Basic

/-!
# Rectangles

A `Rect` has its origin at the top left and is half-open on the far edges.  `p ∈ r` says that `p` is
one of its pixels; it is the view through which the operations are read:

* `Rect.mem_intersect`, `Rect.intersects_iff` — common pixels;
* `Rect.mem_offset` — the pixels of a rectangle that has been moved;
* `Rect.isEmpty_eq_false_iff` — a rectangle is empty when it has no pixel.

Edges are exact sums here.  `TiledView.Plane.Wrapping` has the sums of 64-bit words, which are these
wherever they fit.
-/

namespace TiledView

variable {space target : Space}

/-- Axis-aligned rectangle with its origin at the top left, half-open on the far edges. -/
structure Rect (space : Space) where
  x : Int
  y : Int
  width : Int
  height : Int
  deriving DecidableEq, Repr

namespace Rect

def empty : Rect space := ⟨0, 0, 0, 0⟩

def ofSize (s : Size space) : Rect space := ⟨0, 0, s.width, s.height⟩

def ofOriginSize (origin : Point space) (s : Size space) : Rect space :=
  ⟨origin.x, origin.y, s.width, s.height⟩

/-- The rectangle between two corners; inverted edges collapse to an empty rectangle at the first
corner. -/
def ofEdges (left top right bottom : Int) : Rect space :=
  ⟨left, top, max (right - left) 0, max (bottom - top) 0⟩

def right (r : Rect space) : Int := r.x + r.width

def bottom (r : Rect space) : Int := r.y + r.height

def origin (r : Rect space) : Point space := ⟨r.x, r.y⟩

def size (r : Rect space) : Size space := ⟨r.width, r.height⟩

def isEmpty (r : Rect space) : Bool := r.width ≤ 0 || r.height ≤ 0

def area (r : Rect space) : Int := if r.isEmpty then 0 else r.width * r.height

instance : Membership (Point space) (Rect space) where
  mem r p := r.x ≤ p.x ∧ p.x < r.right ∧ r.y ≤ p.y ∧ p.y < r.bottom

theorem mem_def {p : Point space} {r : Rect space} :
    p ∈ r ↔ r.x ≤ p.x ∧ p.x < r.right ∧ r.y ≤ p.y ∧ p.y < r.bottom := Iff.rfl

instance (p : Point space) (r : Rect space) : Decidable (p ∈ r) :=
  inferInstanceAs (Decidable (_ ∧ _))

def containsPoint (r : Rect space) (p : Point space) : Bool := p ∈ r

/-- Whether two rectangles share a pixel.  Rectangles that only share an edge do not. -/
def intersects (r s : Rect space) : Bool :=
  !r.isEmpty && !s.isEmpty && r.x < s.right && s.x < r.right && r.y < s.bottom && s.y < r.bottom

/-- The common part of two rectangles, or `empty` where they share no pixel. -/
def intersect (r s : Rect space) : Rect space :=
  if r.intersects s then
    ofEdges (max r.x s.x) (max r.y s.y) (min r.right s.right) (min r.bottom s.bottom)
  else
    empty

/-- Bounding box of two rectangles; an empty one is left out of account. -/
def union (r s : Rect space) : Rect space :=
  if r.isEmpty then s
  else if s.isEmpty then r
  else ofEdges (min r.x s.x) (min r.y s.y) (max r.right s.right) (max r.bottom s.bottom)

def offset (r : Rect space) (dx dy : Int) : Rect space := ⟨r.x + dx, r.y + dy, r.width, r.height⟩

/-- Whether `s` lies inside `r`.  No rectangle contains an empty one. -/
def containsRect (r s : Rect space) : Bool :=
  !s.isEmpty && r.x ≤ s.x && r.y ≤ s.y && s.right ≤ r.right && s.bottom ≤ r.bottom

def withWidth (r : Rect space) (width : Int) : Rect space := { r with width }

def withHeight (r : Rect space) (height : Int) : Rect space := { r with height }

/-- The same numbers read in another space.  Right only where the factor between the two is one. -/
def reinterpret (r : Rect space) : Rect target := ⟨r.x, r.y, r.width, r.height⟩

/-! ## The pixels of a rectangle -/

theorem containsPoint_iff {r : Rect space} {p : Point space} : r.containsPoint p ↔ p ∈ r := by
  simp [containsPoint]

theorem isEmpty_eq_false_iff {r : Rect space} : r.isEmpty = false ↔ ∃ p, p ∈ r := by
  simp only [isEmpty, Bool.or_eq_false_iff, decide_eq_false_iff_not, mem_def, right, bottom]
  exact ⟨fun h => ⟨r.origin, by grind [origin]⟩, fun ⟨p, h⟩ => by omega⟩

theorem not_mem_empty {p : Point space} : p ∉ (empty : Rect space) := by
  simp only [mem_def, empty, right, bottom]
  omega

theorem mem_ofEdges {p : Point space} {left top right bottom : Int} :
    p ∈ ofEdges left top right bottom ↔
      left ≤ p.x ∧ p.x < right ∧ top ≤ p.y ∧ p.y < bottom := by
  simp only [mem_def, ofEdges, Rect.right, Rect.bottom]
  omega

theorem intersects_iff {r s : Rect space} : r.intersects s ↔ ∃ p, p ∈ r ∧ p ∈ s := by
  simp only [intersects, isEmpty, Bool.and_eq_true, Bool.not_eq_true', Bool.or_eq_false_iff,
    decide_eq_true_eq, decide_eq_false_iff_not]
  simp only [mem_def, right, bottom]
  constructor
  · intro h
    exact ⟨⟨max r.x s.x, max r.y s.y⟩, by grind⟩
  · rintro ⟨p, hr, hs⟩
    omega

theorem mem_intersect {p : Point space} {r s : Rect space} :
    p ∈ r.intersect s ↔ p ∈ r ∧ p ∈ s := by
  unfold intersect
  split
  · rw [mem_ofEdges]
    simp only [mem_def]
    omega
  · next h =>
    refine iff_of_false not_mem_empty fun hp => h ?_
    exact intersects_iff.2 ⟨p, hp⟩

theorem mem_offset {p : Point space} {r : Rect space} {dx dy : Int} :
    p ∈ r.offset dx dy ↔ p.offset (-dx) (-dy) ∈ r := by
  simp only [mem_def, offset, Point.offset, right, bottom]
  omega

end Rect

end TiledView
