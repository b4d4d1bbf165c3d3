import TiledView.Callback.Numerals

/-!
# Invalidations

The payload of an invalidation names a document area, `x, y, width, height`, or the word `EMPTY`
for the whole part.  Either may be followed by the part it applies to.
-/

namespace TiledView

/-- What an invalidation applies to.  Without a part it is for the engine's current one. -/
inductive Invalidation where
  | wholePart (part? : Option Nat)
  | area (rect : Rect .twips) (part? : Option Nat)
  | nothing
  deriving DecidableEq, Repr

namespace Invalidation

/-- The word for a whole part. -/
def wholePartWord : List Char := "EMPTY".toList

/-- The next number, if there is one. -/
def nextNumber? (bytes : Bytes) : Option Nat :=
  match Numerals.skipToDigit bytes with
  | [] => none
  | d :: digits => some (Numerals.number (d :: digits)).1.toNat

/-- What follows the word for a whole part, if `text` is that word alone or before a comma. -/
def afterWholePart? (text : List Char) : Option (List Char) :=
  match Text.dropStart? wholePartWord text with
  | some [] => some []
  | some (',' :: rest) => some (',' :: rest)
  | some _ | none => none

/-- Reads a payload.  An area without pixels invalidates nothing. -/
def ofText (payload : String) : Invalidation :=
  let text := Text.trim payload.toList
  match afterWholePart? text with
  | some rest => .wholePart (nextNumber? (.ofText (.ofList rest)))
  | none =>
    let (rect, rest) := Numerals.rect (.ofText (.ofList text))
    if rect.isEmpty then .nothing else .area rect (nextNumber? rest)

end Invalidation

end TiledView
