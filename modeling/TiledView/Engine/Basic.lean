import TiledView.Bitmap.Basic

/-!
# Document engines

`Engine ε` is what a view asks of the engine behind a document; `ε` is the state of the engine.  An
engine keeps one view selected, and most calls go to that one, so a view is selected before each
call that is meant for it; `TiledView.Engine.TaskQueue` sees to that.
-/

namespace TiledView

/-- Names a view of a document. -/
abbrev ViewId := Int

inductive DocumentKind where
  | text
  | spreadsheet
  | presentation
  | drawing
  | other
  deriving DecidableEq, Repr

/-- Whether all pages are laid out in one part. -/
def DocumentKind.hasOnePart (k : DocumentKind) : Bool := k == .text

/-- The pixels of a raster of fixed width and height. -/
abbrev PixelBuffer (width height : Nat) := Vector UInt32 (width * height)

/-- The calls of a document engine. -/
class Engine (ε : Type) where
  openView : ε → ViewId × ε
  selectedView : ε → Option ViewId
  selectView : ViewId → ε → ε
  closeView : ViewId → ε → ε
  viewCount : ε → Nat
  kind : ε → DocumentKind
  partCount : ε → Nat
  documentSize : ε → Size .twips
  /-- Page rectangles of the current part as text, `x, y, w, h; ...`. -/
  pageText : ε → String
  /-- Draws `area`, scaled to the raster, over the pixels it is lent. -/
  draw : {width height : Nat} → PixelBuffer width height → (area : Rect .twips) → ε →
    PixelBuffer width height × ε
  setLanguage : ViewId → String → ε → ε
  clearSelection : ε → ε

/-- Has an engine draw `area` into `bitmap`. -/
def Engine.drawBitmap {ε : Type} [Engine ε] (bitmap : Bitmap) (area : Rect .twips) (engine : ε) :
    Bitmap × ε :=
  let (pixels, engine) := draw bitmap.pixels area engine
  ({ bitmap with pixels }, engine)

end TiledView
