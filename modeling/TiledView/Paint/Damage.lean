import TiledView.Plane.Rect

/-!
# Surface damage

`Damage` is the part of the surface that waits for the next paint pass: nothing, everything, or a
list of rectangles in the order they were recorded.

* `Damage.mark` — records a rectangle.  One that covers the surface stands for everything, one that
  is covered already is dropped, and past `maxRects` the list collapses into its bounding box.
* `Damage.shift` — follows content that scrolls.
* `Damage.toList` lists the damage, and `Damage.work` what a paint pass takes out of it.
-/

namespace TiledView

inductive Damage where
  | nothing
  | everything
  /-- Rectangles in the order they were recorded. -/
  | listed (rects : List (Rect .device))
  deriving DecidableEq, Repr

namespace Damage

/-- Above this many rectangles the damage collapses into their bounding box. -/
def maxRects : Nat := 32

/-- The smallest rectangle around all non-empty ones. -/
def boundingBox (rects : List (Rect .device)) : Rect .device := rects.foldl Rect.union .empty

/-- Adds a rectangle to a list of them. -/
def insert (rects : List (Rect .device)) (rect : Rect .device) : List (Rect .device) :=
  if rects.any (·.containsRect rect) then
    rects
  else
    let rects := rects ++ [rect]
    if maxRects < rects.length then [boundingBox rects] else rects

/-- Records `rect`, as far as it lies within `bounds`. -/
def mark (d : Damage) (rect bounds : Rect .device) : Damage :=
  let rect := rect.intersect bounds
  if rect.isEmpty then d
  else if rect.containsRect bounds then .everything
  else
    match d with
    | .nothing => .listed [rect]
    | .everything => .everything
    | .listed rects => .listed (insert rects rect)

/-- Moves the recorded rectangles that meet `area` along with its content, clipped to `area`. -/
def shift (d : Damage) (area : Rect .device) (dx dy : Int) : Damage :=
  match d with
  | .nothing => .nothing
  | .everything => .everything
  | .listed rects =>
    let move (rect : Rect .device) :=
      if rect.intersects area then (rect.offset dx dy).intersect area else rect
    match (rects.map move).filter fun rect => !rect.isEmpty with
    | [] => .nothing
    | moved => .listed moved

/-- The recorded rectangles; damage to everything is the one rectangle `bounds`. -/
def toList (d : Damage) (bounds : Rect .device) : List (Rect .device) :=
  match d with
  | .nothing => []
  | .everything => [bounds]
  | .listed rects => rects

/-- The rectangles that a paint pass works through.  An empty surface is no work. -/
def work (d : Damage) (bounds : Rect .device) : List (Rect .device) :=
  match d with
  | .nothing => []
  | .everything => if bounds.isEmpty then [] else [bounds]
  | .listed rects => rects

end Damage

end TiledView
