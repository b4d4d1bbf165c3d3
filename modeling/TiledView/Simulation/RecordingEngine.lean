import TiledView.Engine.Basic

/-!
# An engine that records its calls

`RecordingEngine` answers as a document engine does, draws tiles in colours that tell which call
they come from, and keeps a log of the calls that change something.
-/

namespace TiledView.Simulation

/-- A call that changed something. -/
inductive LogEntry where
  | opened (view : ViewId)
  | selected (view : ViewId)
  | closed (view : ViewId)
  | drawn (view? : Option ViewId) (area : Rect .twips) (width height : Nat)
  | language (view : ViewId) (text : String)
  | selectionCleared
  deriving DecidableEq, Repr

structure RecordingEngine where
  kind : DocumentKind
  partCount : Nat
  size : Size .twips
  pageText : String
  /-- Whether tiles are drawn in a pattern instead of one colour. -/
  pattern : Bool
  views : List ViewId
  selected? : Option ViewId
  nextView : ViewId
  /-- How many tiles have been drawn. -/
  drawings : Nat
  /-- The log, latest entry first. -/
  log : List LogEntry
  deriving DecidableEq, Repr

/-- A pattern with a colour of its own for every pixel of a 64 by 64 block. -/
def patternColour (base : UInt32) (x y : Nat) : UInt32 :=
  base * 4096 + (y % 64 * 64 + x % 64).toUInt32

namespace RecordingEngine

/-- An engine without views. -/
def create (kind : DocumentKind) (partCount : Nat) (size : Size .twips) (pageText : String)
    (pattern : Bool) : RecordingEngine where
  kind
  partCount
  size
  pageText
  pattern
  views := []
  selected? := none
  nextView := 0
  drawings := 0
  log := []

def record (e : RecordingEngine) (entry : LogEntry) : RecordingEngine :=
  { e with log := entry :: e.log }

/-- The colour of a pixel in the present drawing. -/
def colour (e : RecordingEngine) (x y : Nat) : UInt32 :=
  if e.pattern then patternColour e.drawings.toUInt32 x y else e.drawings.toUInt32

/-- Adds a view and selects it. -/
def addView (e : RecordingEngine) : RecordingEngine :=
  { e with
    views := e.views ++ [e.nextView]
    selected? := some e.nextView
    nextView := e.nextView + 1 }

/-- Takes a view away.  If it was selected, the oldest of the others is selected. -/
def removeView (e : RecordingEngine) (view : ViewId) : RecordingEngine :=
  let views := e.views.erase view
  { e with views, selected? := if e.selected? = some view then views.head? else e.selected? }

def draw {width height : Nat} (area : Rect .twips) (e : RecordingEngine) :
    PixelBuffer width height × RecordingEngine :=
  let e := { e with drawings := e.drawings + 1 }.record (.drawn e.selected? area width height)
  (.ofFn fun i => e.colour (i % width) (i / width), e)

instance : Engine RecordingEngine where
  openView e := (e.nextView, e.addView.record (.opened e.nextView))
  selectedView e := e.selected?
  selectView view e := { e with selected? := some view }.record (.selected view)
  closeView view e := (e.removeView view).record (.closed view)
  viewCount e := e.views.length
  kind e := e.kind
  partCount e := e.partCount
  documentSize e := e.size
  pageText e := e.pageText
  draw _ area e := e.draw area
  setLanguage view text e := e.record (.language view text)
  clearSelection e := e.record .selectionCleared

/-! ## Revisions -/

/-- A change of the document behind an engine.  What is absent stays as it is. -/
structure Revision where
  kind? : Option DocumentKind
  partCount? : Option Nat
  size? : Option (Size .twips)
  pageText? : Option String
  /-- Whether the engine loses its list of views. -/
  forgetViews : Bool
  deriving DecidableEq, Repr

def revise (e : RecordingEngine) (r : Revision) : RecordingEngine :=
  { e with
    kind := r.kind?.getD e.kind
    partCount := r.partCount?.getD e.partCount
    size := r.size?.getD e.size
    pageText := r.pageText?.getD e.pageText
    views := if r.forgetViews then [] else e.views }

end RecordingEngine

end TiledView.Simulation
