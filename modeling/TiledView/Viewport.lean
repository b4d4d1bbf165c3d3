import TiledView.Scale.Conversion

/-!
# Viewport geometry

The host reports where the view sits in its page, the device scale and the zoom.  A `Viewport`
derives from them all that painting needs, in device pixels: the surface size, the area that shows
document content, the scroll offset and the gaps around the pages.

* `Viewport.setViewRect` — a new place and device scale.
* `Viewport.setZoom` — a new zoom, keeping the document point at the top left.
* `Viewport.scrollTo`, `Viewport.clampScroll` — keep the scroll offset inside the document.
* `Viewport.updateAreas` — the shown area and the gaps around the pages.

Zoom and device scale must be finite and positive.  Every other value is refused with a
`ViewportError`.
-/

namespace TiledView

inductive ViewportError where
  | invalidZoom
  | invalidDeviceScale
  | nonFiniteValue
  deriving DecidableEq, Repr

def ViewportError.message : ViewportError → String
  | .invalidZoom => "zoom must be finite and positive"
  | .invalidDeviceScale => "device scale must be finite and positive"
  | .nonFiniteValue => "geometry value is not finite"

/-- What a change of the geometry asks of its dependents. -/
inductive ViewportChange where
  | unchanged
  /-- `scaleChanged`: zoom or device scale moved, so what depends on the scale is stale.
  `surfaceResized`: the surface needs a bitmap of another size. -/
  | changed (scaleChanged surfaceResized : Bool)
  deriving DecidableEq, Repr

namespace ViewportChange

def isChanged : ViewportChange → Bool
  | .unchanged => false
  | .changed _ _ => true

def scaleChanged : ViewportChange → Bool
  | .unchanged => false
  | .changed scaleChanged _ => scaleChanged

end ViewportChange

structure Viewport where
  cssRect : Rect .css
  dipSize : Size .dip
  surfaceSize : Size .device
  zoom : Float
  deviceScale : Float
  /-- Surface area that shows document content. -/
  shownArea : Rect .device
  shownTwips : Rect .twips
  /-- Device pixel of the document at the origin of the shown area. -/
  scroll : Point .device
  /-- Gaps above, between and below the pages, in device pixels of the document. -/
  gaps : List (Rect .device)

/-! ## Checked arithmetic -/

def isPositiveFinite (x : Float) : Bool := x.isFinite && 0 < x

/-- Product of two finite numbers, where it is finite. -/
def finiteProduct (x y : Float) : Except ViewportError Float :=
  if x.isFinite && y.isFinite && (x * y).isFinite then .ok (x * y) else .error .nonFiniteValue

/-- Quotient of two finite numbers, where it is finite. -/
def finiteQuotient (x y : Float) : Except ViewportError Float :=
  if x.isFinite && y.isFinite && y != 0 && (x / y).isFinite then
    .ok (x / y)
  else
    .error .nonFiniteValue

/-- `x`, or zero where `x` is negative or not a number. -/
def nonNegative (x : Float) : Float := if 0 < x then x else 0

/-- `x` brought into the range from zero to `high`. -/
def clampFloat (x high : Float) : Float := if x < 0 then 0 else if high < x then high else x

/-- `n` brought into the range from zero to `high`. -/
def clampInt (n high : Int) : Int := if n < 0 then 0 else if high < n then high else n

/-! ## Gaps -/

/-- The document areas that no page covers: above each page, from the end of the one before, and
below the last one. -/
def gapsBetween (documentSize : Size .twips) (pages : List (Rect .twips)) (scale : ViewScale) :
    List (Rect .device) :=
  let ends := 0 :: pages.map Rect.wrappedBottom
  let above : List (Rect .twips) := (ends.zip pages).map fun (previous, page) =>
    .wrappedOfEdges page.x previous page.wrappedRight page.y
  let below : List (Rect .twips) := pages.getLast?.toList.map fun page =>
    .wrappedOfEdges page.x page.wrappedBottom page.wrappedRight documentSize.height
  ((above ++ below).filter fun gap => !gap.isEmpty).map scale.toDevice

namespace Viewport

/-- A viewport before the host reported anything. -/
def initial : Viewport where
  cssRect := .empty
  dipSize := .zero
  surfaceSize := .zero
  zoom := 1
  deviceScale := 1
  shownArea := .empty
  shownTwips := .empty
  scroll := .zero
  gaps := []

def scale (v : Viewport) : ViewScale := ⟨v.zoom, v.deviceScale⟩

/-- Document extent in device pixels at the present scale. -/
def deviceExtent (v : Viewport) (documentSize : Size .twips) : Size .device :=
  v.scale.deviceSize documentSize

def cssExtent (v : Viewport) (documentSize : Size .twips) : Size .css Float :=
  documentSize.zoomed v.zoom

/-! ## Geometry from the host -/

/-- Records the place of the view in its page and the device scale. -/
def setViewRect (v : Viewport) (cssRect : Rect .css) (deviceScale : Float) :
    Except ViewportError ViewportChange × Viewport :=
  if !isPositiveFinite deviceScale then
    (.error .invalidDeviceScale, v)
  else if cssRect = v.cssRect ∧ deviceScale == v.deviceScale then
    (.ok .unchanged, v)
  else
    let surfaceSize := cssRect.size.scaleUp deviceScale
    (.ok (.changed (deviceScale != v.deviceScale) (surfaceSize != v.surfaceSize)),
      { v with
        cssRect, deviceScale, surfaceSize
        dipSize := ⟨max cssRect.width 0, max cssRect.height 0⟩ })

/-- Range of the scroll offset along both axes. -/
def scrollLimit (v : Viewport) (documentSize : Size .twips) : Point .device :=
  let pixels := v.deviceExtent documentSize
  ⟨max (pixels.width - v.surfaceSize.width) 0, max (pixels.height - v.surfaceSize.height) 0⟩

/-- Pulls the scroll offset back inside the document, and tells whether it moved. -/
def clampScroll (v : Viewport) (documentSize : Size .twips) : Bool × Viewport :=
  let limit := v.scrollLimit documentSize
  let clamped : Point .device := ⟨clampInt v.scroll.x limit.x, clampInt v.scroll.y limit.y⟩
  if clamped = v.scroll then
    (false, v)
  else
    (true, { v with scroll := clamped })

/-- The scroll offset that keeps the same document point in place when the zoom changes. -/
def zoomedScroll (scroll : Point .device) (oldZoom zoom : Float) :
    Except ViewportError (Point .device) := do
  let ratio ← finiteQuotient zoom oldZoom
  let x ← finiteProduct (.ofInt scroll.x) ratio
  let y ← finiteProduct (.ofInt scroll.y) ratio
  return ⟨Rounding.nearest x, Rounding.nearest y⟩

/-- Changes the zoom and keeps the document point at the top left, where the document still allows
it.  The zoom is in force even when the scroll offset cannot follow it. -/
def setZoom (v : Viewport) (zoom : Float) (documentSize : Size .twips) :
    Except ViewportError ViewportChange × Viewport :=
  if !isPositiveFinite zoom then
    (.error .invalidZoom, v)
  else if zoom == v.zoom then
    (.ok .unchanged, v)
  else
    let zoomed := { v with zoom }
    match zoomedScroll v.scroll v.zoom zoom with
    | .error error => (.error error, zoomed)
    | .ok scroll =>
      (.ok (.changed true false), ({ zoomed with scroll }.clampScroll documentSize).2)

/-! ## Areas -/

/-- Recomputes the shown area, which is the surface clamped to the document, and the gaps around the
pages. -/
def updateAreas (v : Viewport) (documentSize : Size .twips) (pages : List (Rect .twips)) :
    Viewport :=
  let pixels := v.deviceExtent documentSize
  let shown : Rect .device :=
    ⟨0, 0, min pixels.width v.surfaceSize.width, min pixels.height v.surfaceSize.height⟩
  { v with
    shownArea := shown
    shownTwips := v.scale.toTwips shown
    gaps := gapsBetween documentSize pages v.scale }

/-! ## Scrolling -/

/-- Scrolls as close to `requested` as the document allows, and tells the surface shifts that follow
it, one per moving axis. -/
def scrollTo (v : Viewport) (requested : Point .css Float) (documentSize : Size .twips) :
    Except ViewportError (List AxisShift) × Viewport :=
  if !requested.isFinite then
    (.error .nonFiniteValue, v)
  else
    let extent := v.cssExtent documentSize
    let limitX := nonNegative (extent.width - .ofInt v.cssRect.width)
    let limitY := nonNegative (extent.height - .ofInt v.cssRect.height)
    let clamped : Point .css Float := ⟨clampFloat requested.x limitX, clampFloat requested.y limitY⟩
    let scrolled : Point .device := clamped.scaleNearest v.deviceScale
    let shifts : List AxisShift :=
      [⟨.horizontal, v.scroll.x - scrolled.x⟩, ⟨.vertical, v.scroll.y - scrolled.y⟩]
    (.ok (shifts.filter fun shift => shift.delta != 0), { v with scroll := scrolled })

def scrollHome (v : Viewport) : Viewport := { v with scroll := .zero }

/-! ## Surface and document -/

/-- The document twip nearest to a surface point inside the shown area. -/
def documentPoint? (v : Viewport) (point : Point .device Float) : Option (Point .twips) :=
  let area := v.shownArea
  let inside := .ofInt area.x ≤ point.x && point.x < .ofInt area.right &&
    .ofInt area.y ≤ point.y && point.y < .ofInt area.bottom
  if point.isFinite && inside then
    let documentPoint :=
      point.offset (.ofInt (v.scroll.x - area.x)) (.ofInt (v.scroll.y - area.y))
    some (v.scale.toTwipPoint documentPoint)
  else
    none

/-- Surface rectangle that shows `rect`, given in device pixels of the document. -/
def toSurface (v : Viewport) (rect : Rect .device) : Rect .device :=
  rect.wrappedOffset (v.shownArea.x - v.scroll.x) (v.shownArea.y - v.scroll.y)

end Viewport

end TiledView
