import TiledView.Scale.Rounding

/-!
# The arithmetic of coordinate conversion

Conversions between coordinate spaces multiply and divide integers by scale factors and round the
result once, at the end.  `Arithmetic α` lists what they need of the numbers in between:

* the `Float` instance is the one a view runs on, where every operation rounds to a double and the
  order of the operations shows in the last bit;
* the `Rat` instance computes the same formulas exactly, and is what the formulas mean.

Both round to 64-bit integers.
-/

namespace TiledView

/-- Numbers that scale factors and unrounded coordinates are made of. -/
class Arithmetic (α : Type) extends Add α, Sub α, Mul α, Div α where
  ofInt : Int → α
  floor : α → Int
  ceil : α → Int
  /-- To the nearest integer; a half goes away from zero. -/
  nearest : α → Int
  /-- Edges within this distance of an integer snap to it before they are rounded outward. -/
  snap : α

instance : Arithmetic Float where
  ofInt := Float.ofInt
  floor := Rounding.floor
  ceil := Rounding.ceil
  nearest := Rounding.nearest
  snap := 1e-6

instance : Arithmetic Rat where
  ofInt n := n
  floor q := Rounding.saturate q.floor
  ceil q := Rounding.saturate q.ceil
  nearest q := Rounding.saturate (if 0 ≤ q then (q + 1 / 2).floor else -(-q + 1 / 2).floor)
  snap := 1 / 1000000

end TiledView
