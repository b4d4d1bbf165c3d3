/-!
# Reports held back

The host cannot do anything with reports about a document before its view has drawn.  A `Backlog`
holds them until then and hands them out once, when it is released.
-/

namespace TiledView

/-- Payloads that wait for the first draw of a view. -/
inductive Backlog where
  | holding (payloads : List String)
  | released
  deriving DecidableEq, Repr

namespace Backlog

def empty : Backlog := .holding []

def isReleased : Backlog → Bool
  | .holding _ => false
  | .released => true

/-- The payloads that are held back, oldest first. -/
def toList : Backlog → List String
  | .holding payloads => payloads
  | .released => []

def size (b : Backlog) : Nat := b.toList.length

def isEmpty (b : Backlog) : Bool := b.toList.isEmpty

/-- Holds `payload` back, and tells whether it did.  Once released, a backlog holds nothing. -/
def hold (b : Backlog) (payload : String) : Bool × Backlog :=
  match b with
  | .holding payloads => (true, .holding (payloads ++ [payload]))
  | .released => (false, .released)

/-- Hands out what was held back, unless that has been done. -/
def release (b : Backlog) : Option (List String) × Backlog :=
  match b with
  | .holding payloads => (some payloads, .released)
  | .released => (none, .released)

end Backlog

end TiledView
