import TiledView.Plane.Wrapping
import TiledView.Scale.Basic

/-!
# Conversions between coordinate spaces

Twips reach device pixels through pixels at zoom one: `twips * zoom / 15`, and that times the device
scale.  A fraction is rounded once, at the end of such a chain.

* Rectangles round outward (`Scale.toDevice`, `Scale.toTwips`, `Rect.enclosing`): the origin down
  and the far edge up, so that no covered pixel is lost.  An edge within `Arithmetic.snap` of an
  integer snaps to it first.  Far edges and extents are sums of 64-bit words and may wrap around.
* Sizes round up (`Size.scaleUp`).
* Points round to the nearest integer (`Point.scaleNearest`).
-/

namespace TiledView

open Arithmetic (ofInt)

variable {α : Type} [Arithmetic α] {space target : Space}

/-! ## Lengths and edges -/

def pixelsOfTwips (value zoom : α) : α := value * zoom / twipsPerPixel

def twipsOfPixels (value zoom : α) : α := value * twipsPerPixel / zoom

/-- Rounds a near edge outward. -/
def snapFloor (value : α) : Int := Arithmetic.floor (value + Arithmetic.snap)

/-- Rounds a far edge outward. -/
def snapCeil (value : α) : Int := Arithmetic.ceil (value - Arithmetic.snap)

/-! ## Scaling by one factor -/

/-- Smallest rectangle that encloses `r` scaled by `factor`.  An empty rectangle keeps its scaled
origin and gets no extent. -/
def Rect.enclosing (r : Rect space) (factor : α) : Rect target :=
  let left := snapFloor (ofInt r.x * factor)
  let top := snapFloor (ofInt r.y * factor)
  if r.isEmpty then
    ⟨left, top, 0, 0⟩
  else
    .wrappedOfEdges left top (snapCeil (ofInt r.wrappedRight * factor))
      (snapCeil (ofInt r.wrappedBottom * factor))

def Size.scaleUp (s : Size space) (factor : α) : Size target :=
  ⟨max (snapCeil (ofInt s.width * factor)) 0, max (snapCeil (ofInt s.height * factor)) 0⟩

def Point.scaleNearest (p : Point space α) (factor : α) : Point target :=
  ⟨Arithmetic.nearest (p.x * factor), Arithmetic.nearest (p.y * factor)⟩

/-! ## Between twips and pixels at zoom -/

def Rect.zoomed (r : Rect .twips) (zoom : α) : Rect .css := r.enclosing (zoom / twipsPerPixel)

def Size.zoomed (s : Size .twips) (zoom : α) : Size .css α :=
  ⟨pixelsOfTwips (ofInt s.width) zoom, pixelsOfTwips (ofInt s.height) zoom⟩

/-! ## Between twips and device pixels -/

namespace Scale

/-- Where an edge at `edge` twips lies in device pixels. -/
def deviceEdge (s : Scale α) (edge : Int) : α := pixelsOfTwips (ofInt edge) s.zoom * s.deviceScale

/-- Where an edge at device pixel `edge` lies in twips. -/
def twipEdge (s : Scale α) (edge : Int) : α := twipsOfPixels (ofInt edge / s.deviceScale) s.zoom

/-- The device pixels that `r` touches. -/
def toDevice (s : Scale α) (r : Rect .twips) : Rect .device :=
  if r.isEmpty then
    .empty
  else
    .wrappedOfEdges (snapFloor (s.deviceEdge r.x)) (snapFloor (s.deviceEdge r.y))
      (snapCeil (s.deviceEdge r.wrappedRight)) (snapCeil (s.deviceEdge r.wrappedBottom))

/-- The twips that `r` touches. -/
def toTwips (s : Scale α) (r : Rect .device) : Rect .twips :=
  if r.isEmpty then
    .empty
  else
    .wrappedOfEdges (snapFloor (s.twipEdge r.x)) (snapFloor (s.twipEdge r.y))
      (snapCeil (s.twipEdge r.wrappedRight)) (snapCeil (s.twipEdge r.wrappedBottom))

/-- Extent in device pixels of a document of size `size`. -/
def deviceSize (s : Scale α) (size : Size .twips) : Size .device := size.scaleUp s.pixelsPerTwip

/-- The twip nearest to device edge `edge`. -/
def nearestTwip (s : Scale α) (edge : Int) : Int :=
  Arithmetic.nearest (ofInt edge * (ofInt 1 / s.pixelsPerTwip))

/-- The twip nearest to a surface point. -/
def toTwipPoint (s : Scale α) (p : Point .device α) : Point .twips :=
  p.scaleNearest (ofInt 1 / s.pixelsPerTwip)

end Scale

end TiledView
