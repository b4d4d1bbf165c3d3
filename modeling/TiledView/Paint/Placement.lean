import TiledView.Plane.Rect
import TiledView.Scale.Basic

/-!
# Where the document sits on the surface

A `Placement` tells a paint pass which part to show at which scale, which surface area shows it, and
how far it is scrolled.  It fixes one displacement between the surface and the document, both in
device pixels.
-/

namespace TiledView

structure Placement where
  /-- Surface area that shows document content. -/
  area : Rect .device
  /-- Device pixel of the document shown at the origin of the area. -/
  scroll : Point .device
  scale : ViewScale
  part : Nat

namespace Placement

/-- The placement in a view that shows nothing yet. -/
def initial : Placement := ⟨.empty, .zero, .identity, 0⟩

/-- Device pixel of the document drawn at surface `(0, 0)`. -/
def origin (p : Placement) : Point .device := ⟨p.scroll.x - p.area.x, p.scroll.y - p.area.y⟩

def toDocument (p : Placement) (onSurface : Rect .device) : Rect .device :=
  onSurface.offset p.origin.x p.origin.y

def toSurface (p : Placement) (inDocument : Rect .device) : Rect .device :=
  inDocument.offset (-p.origin.x) (-p.origin.y)

end Placement

end TiledView
