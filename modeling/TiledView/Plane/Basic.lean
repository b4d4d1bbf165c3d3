/-!
# The plane, tagged with its coordinate space

Lengths of four kinds meet in a tiled document view, and mixing two of them is always a mistake, so
every point, size and rectangle carries the `Space` it lives in as a type index.  Crossing from one
space to another is the business of `TiledView.Scale.Conversion` alone.

* `Point`, `Size` — coordinates and extents.  They are integers unless another type is named; the
  host reports fractional ones (`Point space Float`).
* `Axis`, `AxisShift` — a move along one axis.
-/

namespace TiledView

/-- Coordinate spaces. -/
inductive Space where
  /-- Document-native lengths, 1/1440 inch. -/
  | twips
  /-- Device-independent pixels as the host reports them, before zoom. -/
  | dip
  /-- 96 to the inch, zoom applied, device scale not applied. -/
  | css
  /-- Physical pixels of the paint surface. -/
  | device
  deriving DecidableEq, Repr

structure Point (space : Space) (α : Type := Int) where
  x : α
  y : α
  deriving DecidableEq, Repr

structure Size (space : Space) (α : Type := Int) where
  width : α
  height : α
  deriving DecidableEq, Repr

variable {space target : Space} {α : Type}

namespace Point

def zero : Point space := ⟨0, 0⟩

def offset [Add α] (p : Point space α) (dx dy : α) : Point space α := ⟨p.x + dx, p.y + dy⟩

def isOrigin (p : Point space) : Bool := p.x == 0 && p.y == 0

def isFinite (p : Point space Float) : Bool := p.x.isFinite && p.y.isFinite

def toFloat (p : Point space) : Point space Float := ⟨.ofInt p.x, .ofInt p.y⟩

/-- The same numbers read in another space.  Right only where the factor between the two is one. -/
def reinterpret (p : Point space) : Point target := ⟨p.x, p.y⟩

end Point

namespace Size

def zero : Size space := ⟨0, 0⟩

/-- Whether a size has no extent.  A side that is not a number does not make it empty. -/
def isEmpty [LE α] [DecidableLE α] [OfNat α 0] (s : Size space α) : Bool :=
  s.width ≤ 0 || s.height ≤ 0

def toFloat (s : Size space) : Size space Float := ⟨.ofInt s.width, .ofInt s.height⟩

end Size

/-! ## Axes -/

inductive Axis where
  | horizontal
  | vertical
  deriving DecidableEq, Repr

/-- A move along one axis.  A positive delta goes towards larger coordinates. -/
structure AxisShift where
  axis : Axis
  delta : Int
  deriving DecidableEq, Repr

end TiledView
