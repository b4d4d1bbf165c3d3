import TiledView.Proofs.Scale.Equality
import TiledView.Viewport

/-!
# The magnitude of a double

Every double that is neither negative nor infinite is a whole multiple of the least positive one.
`magnitude` counts how often that goes into it.  An infinity counts as the power of two that comes
after the largest double, and whatever is negative as zero.

* `Canonical`, `Legal` — which mantissas and exponents a double is made of.
* `magnitude_le_of_lt`, `magnitude_le_of_not_lt` — doubles are in the order of their magnitudes.
* `magnitude_clampFloat` — clamping takes the lesser magnitude.
-/

namespace TiledView

open Float.Model UnpackedFloat

namespace Double

/-! ## Mantissas and exponents -/

/-- The mantissa is as long as that of a double may be, unless the exponent is the least one. -/
structure Canonical (mantissa : Nat) (exponent : Int) : Prop where
  lt : mantissa < 2 ^ 53
  low : -1074 ≤ exponent
  long : -1074 < exponent → 2 ^ 52 ≤ mantissa

/-- The mantissa and the exponent are those of a double. -/
structure Legal (mantissa : Nat) (exponent : Int) : Prop extends Canonical mantissa exponent where
  high : exponent ≤ 971

/-- The leading one of a long mantissa is left out of the bits. -/
lemma toNat_leadingOne {width : Nat} (fraction : BitVec width) :
    (1#1 ++ fraction).toNat = 2 ^ width + fraction.toNat := by
  rw [BitVec.toNat_append, ← Nat.shiftLeft_add_eq_or_of_lt fraction.isLt, Nat.shiftLeft_eq]
  simp

lemma legal_of_unpack {b : BitVec Format.binary64.numBits} {sign : Sign} {mantissa : Nat}
    {exponent : Int} {pos : 0 < mantissa}
    (reads : UnpackedFloat.unpack .binary64 b = .finite sign mantissa exponent pos) :
    Legal mantissa exponent := by
  have fraction : (unpackMantissa b).toNat < 2 ^ 52 := (unpackMantissa b).isLt
  have biased : (unpackExponent b).toNat < 2 ^ 11 := (unpackExponent b).isLt
  have bias : (Format.binary64.exponentBias : Int) +
      (Format.binary64.mantissaBitsWithoutImplicit : Nat) = 1075 := rfl
  rw [UnpackedFloat.unpack] at reads
  split at reads
  · split at reads <;> cases reads
  · next below =>
    have below : (unpackExponent b).toNat ≠ 2047 := by
      intro ones
      exact below (BitVec.eq_of_toNat_eq ones)
    split at reads
    · next least =>
      split at reads
      · cases reads
      · cases reads
        have least : (unpackExponent b).toNat = 0 := congrArg BitVec.toNat least
        rw [bias, least]
        exact ⟨⟨by omega, by omega, by omega⟩, by omega⟩
    · next more =>
      cases reads
      have more : (unpackExponent b).toNat ≠ 0 := fun zero => more (BitVec.eq_of_toNat_eq zero)
      have long : (1#1 ++ unpackMantissa b).toNat = 2 ^ 52 + (unpackMantissa b).toNat :=
        toNat_leadingOne _
      rw [bias, long]
      exact ⟨⟨by omega, by omega, by omega⟩, by omega⟩

/-! ## Magnitudes -/

/-- How often the least positive double goes into a double. -/
def unpackedMagnitude : UnpackedFloat → Nat
  | .infinity .positive => 2 ^ 53 * 2 ^ ((971 : Int) + 1074).toNat
  | .finite .positive mantissa exponent _ => mantissa * 2 ^ (exponent + 1074).toNat
  | _ => 0

def magnitude (x : Float) : Nat := unpackedMagnitude x.toModel.unpack

lemma Legal.mul_le {m n : Nat} {e f : Int} (hm : Legal m e) (hn : Legal n f)
    (less : e < f ∨ e = f ∧ m ≤ n) :
    m * 2 ^ (e + 1074).toNat ≤ n * 2 ^ (f + 1074).toNat := by
  rcases less with less | ⟨rfl, le⟩
  · have long := hn.long (Int.lt_of_le_of_lt hm.low less)
    have exponents : (e + 1074).toNat + 1 ≤ (f + 1074).toNat := by
      have := hm.low
      omega
    calc m * 2 ^ (e + 1074).toNat
        ≤ 2 ^ 53 * 2 ^ (e + 1074).toNat := Nat.mul_le_mul_right _ (Nat.le_of_lt hm.lt)
      _ = 2 ^ 52 * 2 ^ ((e + 1074).toNat + 1) := by ring
      _ ≤ n * 2 ^ (f + 1074).toNat :=
        Nat.mul_le_mul long (Nat.pow_le_pow_right Nat.two_pos exponents)
  · exact Nat.mul_le_mul_right _ le

lemma legal_largest : Legal (2 ^ 53 - 1) 971 := ⟨⟨by omega, by omega, by omega⟩, by omega⟩

/-- No double is larger than the largest one. -/
lemma Legal.mul_le_largest {m : Nat} {e : Int} (h : Legal m e) :
    m * 2 ^ (e + 1074).toNat ≤ (2 ^ 53 - 1) * 2 ^ ((971 : Int) + 1074).toNat := by
  refine h.mul_le legal_largest ?_
  have := h.lt
  have := h.high
  omega

lemma Legal.mul_le_infinity {m : Nat} {e : Int} (h : Legal m e) :
    m * 2 ^ (e + 1074).toNat ≤ 2 ^ 53 * 2 ^ ((971 : Int) + 1074).toNat :=
  Nat.le_trans h.mul_le_largest (Nat.mul_le_mul_right _ (Nat.sub_le _ _))

/-- If it is a number other than zero, it is a double. -/
def IsLegal (x : UnpackedFloat) : Prop :=
  ∀ sign mantissa exponent pos, x = .finite sign mantissa exponent pos → Legal mantissa exponent

lemma isLegal_unpack (x : Float) : IsLegal x.toModel.unpack :=
  fun _ _ _ _ reads => legal_of_unpack reads

/-- A positive number is less than another by its exponent, or by its mantissa. -/
lemma compare_positive {m n : Nat} {e f : Int} {hm : 0 < m} {hn : 0 < n} :
    UnpackedFloat.compare (.finite .positive m e hm) (.finite .positive n f hn) = some .lt ↔
      e < f ∨ e = f ∧ m < n := by
  simp [UnpackedFloat.compare, Ordering.then_eq_lt, Int.compare_eq_lt, Nat.compare_eq_lt]

lemma unpackedMagnitude_le_of_lt {x y : UnpackedFloat} (hx : IsLegal x) (hy : IsLegal y)
    (less : x.compare y = some .lt) : unpackedMagnitude x ≤ unpackedMagnitude y := by
  match x, y with
  | .notANumber, _ | .zero _, _ | .infinity .negative, _ | .finite .negative .., _ =>
      exact Nat.zero_le _
  | .finite .positive m e hm, .infinity .positive => exact (hx _ _ _ _ rfl).mul_le_infinity
  | .finite .positive m e hm, .finite .positive n f hn =>
      have less : e < f ∨ e = f ∧ m ≤ n :=
        (compare_positive.1 less).imp_right (And.imp_right Nat.le_of_lt)
      exact (hx _ _ _ _ rfl).mul_le (hy _ _ _ _ rfl) less
  | .infinity .positive, .notANumber | .infinity .positive, .zero _
  | .infinity .positive, .infinity .negative | .infinity .positive, .infinity .positive
  | .infinity .positive, .finite ..
  | .finite .positive .., .notANumber | .finite .positive .., .zero _
  | .finite .positive .., .infinity .negative | .finite .positive .., .finite .negative .. =>
      cases less

lemma unpackedMagnitude_le_of_not_lt {x y : UnpackedFloat} (hx : IsLegal x) (hy : IsLegal y)
    (x_number : x.isNaN = false) (y_number : y.isNaN = false) (not_less : x.compare y ≠ some .lt) :
    unpackedMagnitude y ≤ unpackedMagnitude x := by
  match x, y with
  | _, .zero _ | _, .infinity .negative | _, .finite .negative .. => exact Nat.zero_le _
  | .infinity .positive, .infinity .positive => exact Nat.le_refl _
  | .infinity .positive, .finite .positive n f hn => exact (hy _ _ _ _ rfl).mul_le_infinity
  | .finite .positive m e hm, .finite .positive n f hn =>
      rw [ne_eq, compare_positive] at not_less
      have less : f < e ∨ f = e ∧ n ≤ m := by omega
      exact (hy _ _ _ _ rfl).mul_le (hx _ _ _ _ rfl) less
  | .zero _, .infinity .positive | .zero _, .finite .positive ..
  | .infinity .negative, .infinity .positive | .infinity .negative, .finite .positive ..
  | .finite .negative .., .infinity .positive | .finite .negative .., .finite .positive ..
  | .finite .positive .., .infinity .positive => exact absurd rfl not_less

/-! ## Doubles in order -/

variable {x y : Float}

lemma lt_iff : x < y ↔ x.toModel.unpack.compare y.toModel.unpack = some .lt := by
  show Float.lt x y = true ↔ _
  rw [Float.lt, decide_eq_true_iff]
  exact beq_iff_eq

lemma magnitude_le_of_lt (less : x < y) : magnitude x ≤ magnitude y :=
  unpackedMagnitude_le_of_lt (isLegal_unpack x) (isLegal_unpack y) (lt_iff.1 less)

lemma magnitude_le_of_not_lt (x_number : x.isNaN = false) (y_number : y.isNaN = false)
    (not_less : ¬x < y) : magnitude y ≤ magnitude x :=
  unpackedMagnitude_le_of_not_lt (isLegal_unpack x) (isLegal_unpack y) x_number y_number
    (mt lt_iff.2 not_less)

/-! ## Lengths -/

/-- A double that is finite and not negative. -/
structure IsLength (x : Float) : Prop where
  finite : x.isFinite = true
  nonneg : ¬x < 0

lemma unpack_zero : (0 : Float).toModel.unpack = .zero .positive := rfl

lemma magnitude_zero : magnitude 0 = 0 := congrArg unpackedMagnitude unpack_zero

lemma isLength_zero : IsLength 0 := ⟨by decide +kernel, by decide +kernel⟩

/-- What is finite is zero, or it has a positive mantissa. -/
lemma cases_of_isFinite (finite : x.isFinite = true) : (∃ sign, x.toModel.unpack = .zero sign) ∨
    ∃ sign mantissa exponent pos, x.toModel.unpack = .finite sign mantissa exponent pos := by
  have finite : x.toModel.unpack.isFinite = true := finite
  cases reads : x.toModel.unpack with
  | notANumber | infinity =>
      rw [reads] at finite
      cases finite
  | zero sign => exact .inl ⟨sign, rfl⟩
  | finite sign mantissa exponent pos => exact .inr ⟨sign, mantissa, exponent, pos, rfl⟩

lemma isNaN_of_isFinite (finite : x.isFinite = true) : x.isNaN = false := by
  show x.toModel.unpack.isNaN = false
  obtain ⟨sign, reads⟩ | ⟨sign, mantissa, exponent, pos, reads⟩ := cases_of_isFinite finite
  all_goals
    rw [reads]
    rfl

/-- What is positive is a number and not negative. -/
lemma number_of_pos (pos : 0 < x) : x.isNaN = false ∧ ¬x < 0 := by
  show x.toModel.unpack.isNaN = false ∧ _
  rw [lt_iff, unpack_zero] at pos ⊢
  cases reads : x.toModel.unpack with
  | notANumber | zero =>
      rw [reads] at pos
      cases pos
  | infinity sign | finite sign =>
      rw [reads] at pos
      cases sign with
      | negative => cases pos
      | positive => exact ⟨rfl, nofun⟩

lemma isLength_of_isPositiveFinite (h : isPositiveFinite x = true) : IsLength x := by
  rw [isPositiveFinite, Bool.and_eq_true, decide_eq_true_iff] at h
  exact ⟨h.1, (number_of_pos h.2).2⟩

/-- A length is zero, or it is positive. -/
lemma IsLength.cases (h : IsLength x) : (∃ sign, x.toModel.unpack = .zero sign) ∨
    ∃ mantissa exponent pos, x.toModel.unpack = .finite .positive mantissa exponent pos := by
  have nonneg := h.nonneg
  rw [lt_iff, unpack_zero] at nonneg
  obtain zero | ⟨sign, mantissa, exponent, pos, reads⟩ := cases_of_isFinite h.finite
  · exact .inl zero
  · cases sign with
    | negative =>
        rw [reads] at nonneg
        exact absurd rfl nonneg
    | positive => exact .inr ⟨mantissa, exponent, pos, reads⟩

/-! ## The largest double -/

@[irreducible]
def largest : Float := 1.7976931348623157e308

lemma isFinite_largest : largest.isFinite = true := by decide +kernel

lemma magnitude_largest : magnitude largest = (2 ^ 53 - 1) * 2 ^ ((971 : Int) + 1074).toNat := by
  decide +kernel

lemma magnitude_le_largest (finite : x.isFinite = true) : magnitude x ≤ magnitude largest := by
  rw [magnitude_largest, magnitude]
  obtain ⟨sign, reads⟩ | ⟨sign, mantissa, exponent, pos, reads⟩ := cases_of_isFinite finite
  · rw [reads]
    exact Nat.zero_le _
  · rw [reads]
    cases sign with
    | negative => exact Nat.zero_le _
    | positive => exact (legal_of_unpack reads).mul_le_largest

/-! ## Clamping -/

variable {high : Float}

/-- **Clamping takes the lesser magnitude.** -/
lemma magnitude_clampFloat (x_number : x.isNaN = false) (high_number : high.isNaN = false) :
    magnitude (clampFloat x high) = min (magnitude x) (magnitude high) := by
  rw [clampFloat]
  split_ifs with below above
  · have none : magnitude x ≤ 0 := magnitude_zero ▸ magnitude_le_of_lt below
    rw [magnitude_zero, Nat.le_zero.1 none, Nat.zero_min]
  · exact (Nat.min_eq_right (magnitude_le_of_lt above)).symm
  · exact (Nat.min_eq_left (magnitude_le_of_not_lt high_number x_number above)).symm

/-- What lies below a finite double and above zero is finite. -/
lemma isLength_of_lt (nonneg : ¬high < 0) (finite : x.isFinite = true) (above : high < x) :
    IsLength high := by
  refine ⟨?_, nonneg⟩
  show high.toModel.unpack.isFinite = true
  rw [lt_iff, unpack_zero] at nonneg
  rw [lt_iff] at above
  cases reads : high.toModel.unpack with
  | notANumber =>
      rw [reads] at above
      cases above
  | zero | finite => rfl
  | infinity sign =>
      rw [reads] at above nonneg
      cases sign with
      | negative => exact absurd rfl nonneg
      | positive =>
          -- Nothing finite is above this infinity.
          obtain ⟨sign, reads⟩ | ⟨sign, mantissa, exponent, pos, reads⟩ := cases_of_isFinite finite
          all_goals
            rw [reads] at above
            cases above

lemma isLength_clampFloat (finite : x.isFinite = true) (nonneg : ¬high < 0) :
    IsLength (clampFloat x high) := by
  rw [clampFloat]
  split_ifs with below above
  · exact isLength_zero
  · exact isLength_of_lt nonneg finite above
  · exact ⟨finite, below⟩

lemma number_nonNegative (x : Float) :
    (nonNegative x).isNaN = false ∧ ¬nonNegative x < 0 := by
  rw [nonNegative]
  split_ifs with pos
  · exact number_of_pos pos
  · exact ⟨by decide +kernel, isLength_zero.nonneg⟩

end Double

end TiledView
