import TiledView.Scale.Basic
import Mathlib

/-!
# When a scale equals itself

Scales are compared by their products, and a product of doubles need not equal itself: it may not be
a number.  The product of two finite doubles is one, even where it overflows to an infinity or
underflows to zero, so a scale made of finite factors equals itself.  This is what lets a cache that
was built at the scale of a view be recognised as one of that scale.

* `unpack_pack_isNaN` — storing a number in 64 bits leaves a number.
* `Scale.beq_self` — a scale of finite factors equals itself.
-/

namespace TiledView

open Float.Model UnpackedFloat

/-! ## Doubles taken apart -/

/-- A product of finite doubles is rounded to a number. -/
lemma mul_isNaN {spec : Format} {x y : UnpackedFloat} (hx : x.isFinite = true)
    (hy : y.isFinite = true) : (UnpackedFloat.mul spec x y).isNaN = false := by
  cases x with
  | infinity | notANumber => cases hx
  | zero =>
      cases y with
      | infinity | notANumber => cases hy
      | zero | finite => rfl
  | finite =>
      cases y with
      | infinity | notANumber => cases hy
      | zero => rfl
      | finite =>
          simp only [UnpackedFloat.mul, roundWithAccuracy]
          split <;> rfl

/-- Only an exponent of all ones with a fraction beside it is read as no number. -/
lemma unpack_isNaN {spec : Format} {b : BitVec spec.numBits}
    (number : unpackExponent b = -1#_ → unpackMantissa b = 0#_) :
    (UnpackedFloat.unpack spec b).isNaN = false := by
  rw [UnpackedFloat.unpack]
  split
  · next ones =>
    rw [if_pos (number ones)]
    rfl
  · split
    · split <;> rfl
    · rfl

/-- An exponent below the one of infinities does not have all its bits set. -/
lemma ofNat_ne_allOnes {width n : Nat} (lt : n + 1 < 2 ^ width) :
    BitVec.ofNat width n ≠ -1#_ := by
  intro same
  have value : n % 2 ^ width = 2 ^ width - 1 := by
    rw [BitVec.neg_one_eq_allOnes] at same
    simpa using congrArg BitVec.toNat same
  rw [Nat.mod_eq_of_lt (by omega)] at value
  omega

/-- **Storing a number leaves a number.** -/
theorem unpack_pack_isNaN {spec : Format} {x : UnpackedFloat} (number : x.isNaN = false) :
    (UnpackedFloat.unpack spec (UnpackedFloat.pack spec x)).isNaN = false := by
  refine unpack_isNaN ?_
  cases x with
  | notANumber => cases number
  | infinity => exact fun _ => unpackMantissa_packComponents
  | zero => exact fun _ => unpackMantissa_packComponents
  | finite sign mantissa exponent pos =>
      rw [UnpackedFloat.pack]
      split
      · exact fun _ => unpackMantissa_packComponents
      · next inRange =>
        split
        · rw [unpackExponent_packComponents]
          exact fun ones => absurd ones (ofNat_ne_allOnes (Nat.lt_of_not_le inRange))
        · rw [unpackExponent_packComponents]
          refine fun ones => absurd ones (ofNat_ne_allOnes ?_)
          exact Nat.one_lt_two_pow (Nat.ne_of_gt spec.he)

/-! ## Scales -/

/-- A product of finite doubles equals itself. -/
lemma mul_beq_self {x y : Float} (hx : x.isFinite = true) (hy : y.isFinite = true) :
    (x * y == x * y) = true := by
  have number : (x * y).isNaN = false := unpack_pack_isNaN (mul_isNaN hx hy)
  rw [Float.isNaN_eq_decide_eq_nan, decide_eq_false_iff_not] at number
  exact Float.beq_self_iff.2 number

/-- **A scale of finite factors equals itself.** -/
theorem Scale.beq_self {scale : ViewScale} (zoom : scale.zoom.isFinite = true)
    (deviceScale : scale.deviceScale.isFinite = true) : (scale == scale) = true :=
  mul_beq_self zoom deviceScale

end TiledView
