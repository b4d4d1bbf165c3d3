import TiledView.Plane.Rect

/-!
# Raster buffers

A `Bitmap` holds one packed premultiplied colour per pixel, row by row.  `Bitmap.pixel?` reads it by
column and row, and `Bitmap.at?` by a point of the plane; the latter is the view through which
operations on bitmaps are read.  Whatever fills a bitmap writes runs of neighbouring pixels
(`writeRun`), and `getElem?_writeRun` says what that does.
-/

namespace TiledView

/-- Owned raster buffer, row-major. -/
structure Bitmap where
  width : Nat
  height : Nat
  pixels : Vector UInt32 (width * height)
  deriving DecidableEq, Repr

/-! ## Runs of pixels -/

/-- Writes the pixels of `run` to the places from `start` on. -/
def writeRun {n : Nat} (pixels : Vector UInt32 n) (start : Nat) : List UInt32 → Vector UInt32 n
  | [] => pixels
  | colour :: run => writeRun (pixels.setIfInBounds start colour) (start + 1) run

theorem getElem?_writeRun {n : Nat} (pixels : Vector UInt32 n) (start : Nat) (run : List UInt32)
    (i : Nat) :
    (writeRun pixels start run)[i]? =
      if start ≤ i ∧ i < start + run.length ∧ i < n then run[i - start]? else pixels[i]? := by
  induction run generalizing pixels start with
  | nil => grind [writeRun]
  | cons colour run ih =>
    rw [writeRun, ih, List.length_cons]
    by_cases here : i = start
    · subst here
      by_cases bound : i < n
      · simp [bound, show ¬ i + 1 ≤ i by omega]
      · simp [bound]
    · have apart : (pixels.setIfInBounds start colour)[i]? = pixels[i]? := by
        simp [Ne.symm here]
      by_cases after : start + 1 ≤ i
      · obtain ⟨k, rfl⟩ : ∃ k, i = start + 1 + k := ⟨i - (start + 1), by omega⟩
        have shifted : start + 1 + k - start = k + 1 := by omega
        rw [apart, shifted]
        simp only [List.getElem?_cons_succ, Nat.add_sub_cancel_left]
        grind
      · grind

namespace Bitmap

/-! ## Construction -/

/-- A bitmap of one colour. -/
def filled (width height : Nat) (colour : UInt32) : Bitmap := ⟨width, height, .replicate _ colour⟩

/-- A cleared bitmap. -/
def blank (width height : Nat) : Bitmap := filled width height 0

/-- The bitmap without pixels. -/
def empty : Bitmap := blank 0 0

instance : Inhabited Bitmap := ⟨empty⟩

/-- The bitmap with colour `colour x y` at column `x` and row `y`. -/
def ofFn (width height : Nat) (colour : Nat → Nat → UInt32) : Bitmap :=
  ⟨width, height, .ofFn fun i => colour (i % width) (i / width)⟩

/-! ## Extent and pixels -/

def size (b : Bitmap) : Size .device := ⟨b.width, b.height⟩

def bounds (b : Bitmap) : Rect .device := .ofSize b.size

def isEmpty (b : Bitmap) : Bool := b.width * b.height == 0

/-- The colour at column `x` and row `y`. -/
def pixel? (b : Bitmap) (x y : Nat) : Option UInt32 :=
  if x < b.width ∧ y < b.height then b.pixels[y * b.width + x]? else none

/-- The colour at a point of the plane; there is one inside the bounds only. -/
def at? (b : Bitmap) (p : Point .device) : Option UInt32 :=
  if p ∈ b.bounds then b.pixel? p.x.toNat p.y.toNat else none

/-! ## Filling -/

/-- Replaces every pixel. -/
def fill (b : Bitmap) (colour : UInt32) : Bitmap := { b with pixels := .replicate _ colour }

/-- Row numbers of `area`, top-down. -/
def rowsOf (area : Rect .device) : List Int :=
  (List.range area.height.toNat).map fun (k : Nat) => area.y + k

/-- Index of the pixel at column `x` and row `y`, both inside the bitmap. -/
def indexOf (b : Bitmap) (x y : Int) : Nat := y.toNat * b.width + x.toNat

/-- Replaces the pixels of `area`, as far as they exist. -/
def fillRect (b : Bitmap) (area : Rect .device) (colour : UInt32) : Bitmap :=
  let clipped := area.intersect b.bounds
  let row := List.replicate clipped.width.toNat colour
  let write pixels y := writeRun pixels (b.indexOf clipped.x y) row
  { b with pixels := (rowsOf clipped).foldl write b.pixels }

end Bitmap

end TiledView
