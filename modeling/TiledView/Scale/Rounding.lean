/-!
# 64-bit integers

A coordinate is computed in doubles and stored as a 64-bit integer.  This file holds the last step.
The value of a double is read off its bits as `mantissa * 2 ^ exponent`, rounded in exact integer
arithmetic, and then brought into the range of the integer:

* `Rounding.floor`, `Rounding.ceil` — to the next integer below or above;
* `Rounding.nearest` — to the nearest integer, a half going away from zero.

A value beyond the 64-bit range, an infinity included, becomes the nearer end of the range, and a
value that is not a number becomes zero.  That is so of doubles only: a sum of coordinates that does
not fit wraps around (`Rounding.wrap`).
-/

namespace TiledView.Rounding

/-- What the bits of a double stand for. -/
inductive Reading where
  | notANumber
  | infinite (negative : Bool)
  /-- The number `mantissa * 2 ^ exponent`. -/
  | finite (mantissa exponent : Int)
  deriving DecidableEq, Repr

/-- The weight of the bit in front of the fraction bits. -/
def leadingOne : Nat := 0x10000000000000

/-- Reads a double in the 64-bit interchange format: a sign bit, eleven exponent bits and 52
fraction bits, with the leading one left out unless the exponent bits are all zero. -/
def Reading.ofFloat (x : Float) : Reading :=
  let bits := x.toBits.toNat
  let negative := bits >>> 63 == 1
  let biased := (bits >>> 52) % 0x800
  let fraction := bits % leadingOne
  if biased = 0x7ff then
    if fraction = 0 then .infinite negative else .notANumber
  else
    let magnitude := if biased = 0 then fraction else leadingOne + fraction
    .finite (if negative then -magnitude else magnitude) ((max biased 1 : Nat) - 1075)

/-- Greatest integer that is at most `mantissa * 2 ^ exponent`. -/
def floorScaled (mantissa : Int) : (exponent : Int) → Int
  | .ofNat k => mantissa <<< k
  | .negSucc k => mantissa >>> (k + 1)

/-- Least integer that is at least `mantissa * 2 ^ exponent`. -/
def ceilScaled (mantissa exponent : Int) : Int := -floorScaled (-mantissa) exponent

/-- Integer nearest to `mantissa * 2 ^ exponent`; a half goes away from zero.  Of a magnitude, the
halves are counted and rounded up in pairs. -/
def nearestScaled (mantissa : Int) : (exponent : Int) → Int
  | .ofNat k => mantissa <<< k
  | .negSucc k => mantissa.sign * ((mantissa.natAbs >>> k + 1) / 2 : Nat)

def minInt64 : Int := -0x8000000000000000

def maxInt64 : Int := 0x7fffffffffffffff

/-- The 64-bit integer nearest to `n`. -/
def saturate (n : Int) : Int := max minInt64 (min n maxInt64)

/-- The 64-bit integer that a sum of 64-bit integers comes to. -/
def wrap (n : Int) : Int := n.bmod 0x10000000000000000

/-- Rounds a double by an exact rule for `mantissa * 2 ^ exponent`. -/
def roundWith (rule : Int → Int → Int) (x : Float) : Int :=
  match Reading.ofFloat x with
  | .notANumber => 0
  | .infinite negative => if negative then minInt64 else maxInt64
  | .finite mantissa exponent => saturate (rule mantissa exponent)

def floor : Float → Int := roundWith floorScaled

def ceil : Float → Int := roundWith ceilScaled

def nearest : Float → Int := roundWith nearestScaled

theorem saturate_mem (n : Int) : minInt64 ≤ saturate n ∧ saturate n ≤ maxInt64 := by
  simp only [saturate, minInt64, maxInt64]
  omega

theorem saturate_le_saturate {n k : Int} (le : n ≤ k) : saturate n ≤ saturate k := by
  simp only [saturate]
  omega

theorem le_saturate {n k : Int} (le : n ≤ k) (high : n ≤ maxInt64) : n ≤ saturate k := by
  simp only [saturate]
  omega

theorem saturate_le {n k : Int} (le : k ≤ n) (low : minInt64 ≤ n) : saturate k ≤ n := by
  simp only [saturate, minInt64, maxInt64] at low ⊢
  omega

theorem wrap_eq_self {n : Int} (low : minInt64 ≤ n) (high : n ≤ maxInt64) : wrap n = n := by
  simp only [minInt64, maxInt64] at low high
  simp only [wrap, Int.bmod_def]
  omega

end TiledView.Rounding
