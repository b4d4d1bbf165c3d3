import TiledView.Scale.Arithmetic

/-!
# The scale of a view

A view shows a document at a zoom on a display with a device scale.  `Scale` keeps both factors,
because conversions apply them one after the other, but two scales count as equal (`==`) when their
products are: a raster drawn at one of them can be shown at the other.
-/

namespace TiledView

/-- Combined zoom and device scale. -/
structure Scale (α : Type) where
  zoom : α
  deviceScale : α

/-- The scale of a view. -/
abbrev ViewScale := Scale Float

namespace Scale

variable {α : Type} [Arithmetic α]

/-- Zoom and device scale both one. -/
def identity : Scale α := ⟨Arithmetic.ofInt 1, Arithmetic.ofInt 1⟩

instance : Inhabited (Scale α) := ⟨identity⟩

/-- Device pixels per pixel of the document at zoom one. -/
def value (s : Scale α) : α := s.zoom * s.deviceScale

instance [BEq α] : BEq (Scale α) := ⟨fun s t => s.value == t.value⟩

end Scale

/-- Twips per pixel at zoom one: 1440 twips and 96 pixels make an inch. -/
def twipsPerPixel {α : Type} [Arithmetic α] : α := Arithmetic.ofInt 1440 / Arithmetic.ofInt 96

/-- Device pixels per twip. -/
def Scale.pixelsPerTwip {α : Type} [Arithmetic α] (s : Scale α) : α := s.value / twipsPerPixel

end TiledView
