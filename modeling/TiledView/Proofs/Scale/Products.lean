import TiledView.Proofs.Scale.Magnitude

/-!
# Rounded products

The product of two doubles is rounded to a double, and that to an integer.  Of lengths, both steps
depend on the product of the magnitudes only, and a larger product is not rounded to a smaller
integer.

* `Nearest` — the number nearest to a multiple of a power of two, and the even one of two that are
  as near.  Rounding to it keeps the order (`Nearest.mono`), and the shifts and the two spare bits
  of the multiplication find it (`nearest_roundedMantissa`).
* `rounded` — a product of magnitudes, rounded to as many digits as a double has.
* `nearest_mul` — the integer nearest to a product of lengths.
-/

namespace TiledView

open Float.Model UnpackedFloat

namespace Double

/-! ## The nearest number -/

/-- `r` is the number nearest to `m / 2 ^ k`, and the even one if two of them are as near. -/
structure Nearest (m k r : Nat) : Prop where
  low : 2 * (r * 2 ^ k) ≤ 2 * m + 2 ^ k
  high : 2 * m ≤ 2 * (r * 2 ^ k) + 2 ^ k
  tie : 2 * (r * 2 ^ k) = 2 * m + 2 ^ k ∨ 2 * m = 2 * (r * 2 ^ k) + 2 ^ k → r % 2 = 0

namespace Nearest

variable {m n k r s : Nat}

/-- **Rounding keeps the order.**  Two neighbours that are in the wrong order would both be as near
to the same number, and only one of them is even. -/
lemma mono (hm : Nearest m k r) (hn : Nearest n k s) (le : m ≤ n) : r ≤ s := by
  by_contra more
  have apart : (s + 1) * 2 ^ k ≤ r * 2 ^ k := Nat.mul_le_mul_right _ (Nat.lt_of_not_le more)
  have low := hm.low
  have high := hn.high
  rw [Nat.succ_mul] at apart
  have even := hm.tie (.inl (by omega))
  have even' := hn.tie (.inr (by omega))
  have next : r = s + 1 := by
    refine Nat.le_antisymm ?_ (Nat.lt_of_not_le more)
    refine Nat.le_of_mul_le_mul_right ?_ (Nat.two_pow_pos k)
    rw [Nat.succ_mul]
    omega
  omega

lemma unique (hr : Nearest m k r) (hs : Nearest m k s) : r = s :=
  Nat.le_antisymm (hr.mono hs (Nat.le_refl m)) (hs.mono hr (Nat.le_refl m))

/-- Finer units make no difference. -/
lemma shift (h : Nearest m k r) (j : Nat) : Nearest (m * 2 ^ j) (k + j) r := by
  obtain ⟨low, high, tie⟩ := h
  have left : 2 * (r * 2 ^ (k + j)) = 2 * (r * 2 ^ k) * 2 ^ j := by ring
  have right : 2 * (m * 2 ^ j) + 2 ^ (k + j) = (2 * m + 2 ^ k) * 2 ^ j := by ring
  have left' : 2 * (m * 2 ^ j) = 2 * m * 2 ^ j := by ring
  have right' : 2 * (r * 2 ^ (k + j)) + 2 ^ (k + j) = (2 * (r * 2 ^ k) + 2 ^ k) * 2 ^ j := by ring
  have pos := Nat.two_pow_pos j
  refine ⟨?_, ?_, ?_⟩
  · rw [left, right]
    exact Nat.mul_le_mul_right _ low
  · rw [left', right']
    exact Nat.mul_le_mul_right _ high
  · rintro (down | up)
    · exact tie (.inl (Nat.eq_of_mul_eq_mul_right pos (left.symm.trans (down.trans right))))
    · exact tie (.inr (Nat.eq_of_mul_eq_mul_right pos (left'.symm.trans (up.trans right'))))

end Nearest

/-! ## Shifted mantissas -/

/-- The mantissa was shifted `k` places to the right, and the round bit and the sticky bit tell what
was lost. -/
def Shifted (em : ExtendedMantissa) (m k : Nat) : Prop :=
  ∃ rest, 2 * m = 2 * (em.mantissa * 2 ^ k) + (if em.roundBit then 2 ^ k else 0) + rest ∧
    rest < 2 ^ k ∧ (em.stickyBit = true ↔ 0 < rest)

namespace Shifted

variable {em : ExtendedMantissa} {m k : Nat}

lemma unshifted (m : Nat) : Shifted (.ofMantissaAndAccuracy m .exact) m 0 :=
  ⟨0, by simp [ExtendedMantissa.ofMantissaAndAccuracy], Nat.one_pos, by
    simp [ExtendedMantissa.ofMantissaAndAccuracy]⟩

lemma shiftRightOne (h : Shifted em m k) : Shifted em.shiftRightOne m (k + 1) := by
  obtain ⟨rest, whole, lt, sticky⟩ := h
  rcases em with ⟨mantissa, roundBit, stickyBit⟩
  -- What was lost until now stays below the bit that is lost next.
  refine ⟨(if roundBit then 2 ^ k else 0) + rest, ?_, ?_, ?_⟩
  · have halves : mantissa * 2 ^ k = mantissa / 2 * 2 ^ (k + 1) + mantissa % 2 * 2 ^ k := by
      rw [pow_succ', ← mul_assoc, ← Nat.add_mul, mul_comm (mantissa / 2) 2, Nat.div_add_mod]
    simp only [ExtendedMantissa.shiftRightOne] at whole ⊢
    rcases Nat.mod_two_eq_zero_or_one mantissa with even | odd
    · rw [even, Nat.zero_mul] at halves
      simp only [even, bne_self_eq_false, Bool.false_eq_true, if_false]
      omega
    · rw [odd, Nat.one_mul] at halves
      have last : 2 ^ (k + 1) = 2 * 2 ^ k := pow_succ' 2 k
      simp only [odd, Nat.reduceBneDiff, if_true]
      omega
  · rw [pow_succ']
    split_ifs <;> omega
  · have pos := Nat.two_pow_pos k
    simp only [ExtendedMantissa.shiftRightOne]
    cases roundBit <;> simp [sticky, pos]

lemma shiftRight (m k : Nat) :
    Shifted (ExtendedMantissa.ofMantissaAndAccuracy m .exact >>> k) m k := by
  induction k with
  | zero => exact unshifted m
  | succ k ih => exact ih.shiftRightOne

/-- **The two spare bits are enough to round.** -/
lemma nearest (h : Shifted em m k) : Nearest m k em.roundedMantissa := by
  obtain ⟨rest, whole, lt, sticky⟩ := h
  rcases em with ⟨mantissa, roundBit, stickyBit⟩
  have up : (mantissa + 1) * 2 ^ k = mantissa * 2 ^ k + 2 ^ k := Nat.succ_mul ..
  cases roundBit with
  | false =>
      have down : (ExtendedMantissa.mk mantissa false stickyBit).roundedMantissa = mantissa := by
        cases stickyBit <;> rfl
      simp only [Bool.false_eq_true, if_false] at whole
      rw [down]
      exact ⟨by omega, by omega, by omega⟩
  | true =>
      simp only [if_true] at whole
      cases stickyBit with
      | false =>
          have none : rest = 0 := by simpa using sticky
          have half : (ExtendedMantissa.mk mantissa true false).roundedMantissa =
              mantissa + mantissa % 2 := rfl
          rw [half]
          rcases Nat.mod_two_eq_zero_or_one mantissa with even | odd
          · rw [even, Nat.add_zero]
            exact ⟨by omega, by omega, by omega⟩
          · rw [odd]
            exact ⟨by omega, by omega, by omega⟩
      | true =>
          have some : 0 < rest := sticky.1 rfl
          have more : (ExtendedMantissa.mk mantissa true true).roundedMantissa = mantissa + 1 := rfl
          rw [more]
          exact ⟨by omega, by omega, by omega⟩

end Shifted

/-! ## Rounding a product of magnitudes -/

section Rounded

variable {m n r s : Nat}

/-- How many places of a product of two magnitudes are lost.  The product has places down to the
square of the least positive double, of which a double has none below the least positive double. -/
def grain (n : Nat) : Nat := max (n.log2 + 1 - 53) 1074

/-- The mantissa that is left of a product. -/
def keptMantissa (n : Nat) : Nat :=
  (ExtendedMantissa.ofMantissaAndAccuracy n .exact >>> grain n).roundedMantissa

/-- A product of two magnitudes, rounded to a double. -/
def rounded (n : Nat) : Nat := keptMantissa n * 2 ^ grain n

lemma nearest_keptMantissa (n : Nat) : Nearest n (grain n) (keptMantissa n) :=
  (Shifted.shiftRight n (grain n)).nearest

lemma keptMantissa_le (n : Nat) : keptMantissa n ≤ 2 ^ 53 := by
  have lt : n < 2 ^ 53 * 2 ^ grain n := by
    rw [← pow_add]
    refine Nat.lt_of_lt_of_le Nat.lt_log2_self (Nat.pow_le_pow_right Nat.two_pos ?_)
    rw [grain]
    omega
  have low := (nearest_keptMantissa n).low
  by_contra more
  have beyond : (2 ^ 53 + 1) * 2 ^ grain n ≤ keptMantissa n * 2 ^ grain n :=
    Nat.mul_le_mul_right _ (Nat.lt_of_not_le more)
  rw [Nat.succ_mul] at beyond
  omega

/-- What loses more places than it must keeps a long mantissa. -/
lemma le_keptMantissa (places : 1074 < grain n) : 2 ^ 52 ≤ keptMantissa n := by
  have some : n ≠ 0 := by
    rintro rfl
    exact absurd places (by decide)
  have le : 2 ^ 52 * 2 ^ grain n ≤ n := by
    rw [← pow_add]
    refine Nat.le_trans (Nat.pow_le_pow_right Nat.two_pos ?_) (Nat.log2_self_le some)
    rw [grain] at places ⊢
    omega
  have high := (nearest_keptMantissa n).high
  by_contra less
  have short : (keptMantissa n + 1) * 2 ^ grain n ≤ 2 ^ 52 * 2 ^ grain n :=
    Nat.mul_le_mul_right _ (Nat.lt_of_not_le less)
  have pos := Nat.two_pow_pos (grain n)
  rw [Nat.succ_mul] at short
  omega

lemma grain_mono (le : m ≤ n) : grain m ≤ grain n := by
  have log : m.log2 ≤ n.log2 := by
    rw [Nat.log2_eq_log_two, Nat.log2_eq_log_two]
    exact Nat.log_mono_right le
  rw [grain, grain]
  omega

/-- **A larger product is not rounded to less.** -/
lemma rounded_mono (le : m ≤ n) : rounded m ≤ rounded n := by
  rcases Nat.eq_or_lt_of_le (grain_mono le) with same | coarser
  · have kept := nearest_keptMantissa n
    rw [← same] at kept
    rw [rounded, rounded, ← same]
    exact Nat.mul_le_mul_right _ ((nearest_keptMantissa m).mono kept le)
  · -- A power of two lies between the two.
    have long : 1074 < grain n := Nat.lt_of_le_of_lt (Nat.le_max_right _ _) coarser
    calc rounded m
        ≤ 2 ^ 53 * 2 ^ grain m := Nat.mul_le_mul_right _ (keptMantissa_le m)
      _ = 2 ^ 52 * 2 ^ (grain m + 1) := by ring
      _ ≤ rounded n :=
        Nat.mul_le_mul (le_keptMantissa long) (Nat.pow_le_pow_right Nat.two_pos coarser)

end Rounded

/-! ## From a product to a double -/

section Product

variable {m : Nat} {e : Int}

/-- The least places of a product are those of the square of the least positive double. -/
def productUnits (m : Nat) (e : Int) : Nat := m * 2 ^ (e + 2148).toNat

lemma log2_productUnits (pos : 0 < m) :
    (productUnits m e).log2 = m.log2 + (e + 2148).toNat := by
  have some : productUnits m e ≠ 0 := (Nat.mul_pos pos (Nat.two_pow_pos _)).ne'
  rw [Nat.log2_eq_iff some, productUnits]
  constructor
  · rw [pow_add]
    exact Nat.mul_le_mul_right _ (Nat.log2_self_le pos.ne')
  · rw [Nat.add_right_comm, pow_add]
    exact Nat.mul_lt_mul_of_pos_right Nat.lt_log2_self (Nat.two_pow_pos _)

/-- The first shift of a product loses as many places as it has to. -/
lemma shiftToTargetExponent_eq (pos : 0 < m) (low : -2148 ≤ e) (fits : 52 ≤ m.log2 ∨ e ≤ -1074) :
    (shiftToTargetExponent .binary64 m e .exact).1.roundedMantissa =
        keptMantissa (productUnits m e) ∧
      (shiftToTargetExponent .binary64 m e .exact).2 = grain (productUnits m e) - 2148 := by
  have grain_eq : (grain (productUnits m e) : Int) =
      max ((m.log2 : Int) + e - 52) (-1074) + 2148 := by
    rw [grain, log2_productUnits pos]
    omega
  have target : Format.binary64.targetExponent (totalExponent m e) =
      max ((m.log2 : Int) + e - 52) (-1074) := by
    have bits : (Format.binary64.mantissaBits : Int) = 53 := rfl
    have least : Format.binary64.minExponent = -1074 := rfl
    rw [Format.targetExponent, totalExponent, bits, least]
    omega
  have places : (max ((m.log2 : Int) + e - 52) (-1074) - e).toNat + (e + 2148).toNat =
      grain (productUnits m e) := by
    omega
  rw [shiftToTargetExponent, target, shiftToExponent]
  refine ⟨?_, by dsimp only; omega⟩
  have kept := (Shifted.shiftRight m (max ((m.log2 : Int) + e - 52) (-1074) - e).toNat).nearest
  have kept := kept.shift (e + 2148).toNat
  rw [places] at kept
  exact kept.unique (nearest_keptMantissa (productUnits m e))

/-- A product of doubles is long, or it has places that are lost. -/
lemma Legal.fits_mul {n : Nat} {f : Int} (hm : Legal m e) (hn : Legal n f) (pos_m : 0 < m)
    (pos_n : 0 < n) : 52 ≤ (m * n).log2 ∨ e + f ≤ -1074 := by
  refine or_iff_not_imp_right.2 fun high => ?_
  have low := hm.low
  have low' := hn.low
  rw [Nat.le_log2 (Nat.mul_pos pos_m pos_n).ne']
  rcases Int.lt_or_eq_of_le low with more | least
  · exact Nat.le_trans (hm.long more) (Nat.le_mul_of_pos_right _ pos_n)
  · exact Nat.le_trans (hn.long (by omega)) (Nat.le_mul_of_pos_left _ pos_m)

/-- The units of two factors make up the units of their product. -/
lemma Legal.productUnits_mul {n : Nat} {f : Int} (hm : Legal m e) (hn : Legal n f) :
    m * 2 ^ (e + 1074).toNat * (n * 2 ^ (f + 1074).toNat) = productUnits (m * n) (e + f) := by
  have low := hm.low
  have low' := hn.low
  have places : (e + f + 2148).toNat = (e + 1074).toNat + (f + 1074).toNat := by omega
  rw [productUnits, places]
  ring

/-- A mantissa that is short enough stays as it is. -/
lemma shiftToTargetExponent_of_lt (lt : m < 2 ^ 53) (low : -1074 ≤ e) :
    shiftToTargetExponent .binary64 m e .exact = (⟨m, false, false⟩, e) := by
  have log : m.log2 ≤ 52 := by
    rcases Nat.eq_zero_or_pos m with rfl | pos
    · decide
    · exact Nat.le_of_lt_succ ((Nat.log2_lt pos.ne').2 lt)
  have bits : (Format.binary64.mantissaBits : Int) = 53 := rfl
  have least : Format.binary64.minExponent = -1074 := rfl
  have none : (Format.binary64.targetExponent (totalExponent m e) - e).toNat = 0 := by
    rw [Format.targetExponent, totalExponent, bits, least]
    omega
  rw [shiftToTargetExponent, shiftToExponent, none]
  exact congrArg (Prod.mk _) (Int.add_zero e)

/-- A mantissa that was rounded up to one place too many loses a zero. -/
lemma shiftToTargetExponent_carry (low : -1074 ≤ e) :
    shiftToTargetExponent .binary64 (2 ^ 53) e .exact = (⟨2 ^ 52, false, false⟩, e + 1) := by
  have bits : (Format.binary64.mantissaBits : Int) = 53 := rfl
  have least : Format.binary64.minExponent = -1074 := rfl
  have one : (Format.binary64.targetExponent (totalExponent (2 ^ 53) e) - e).toNat = 1 := by
    rw [Format.targetExponent, totalExponent, bits, least, Nat.log2_two_pow]
    omega
  rw [shiftToTargetExponent, shiftToExponent, one]
  rfl

/-- A rounded product, and how much it is. -/
inductive Stores : UnpackedFloat → Nat → Prop where
  | zero (sign : Sign) : Stores (.zero sign) 0
  | finite {mantissa : Nat} {exponent : Int} (pos : 0 < mantissa)
      (canonical : Canonical mantissa exponent) :
      Stores (.finite .positive mantissa exponent pos) (productUnits mantissa exponent)

/-- **What is stored is the product, rounded.** -/
lemma stores_roundWithAccuracy (pos : 0 < m) (low : -2148 ≤ e)
    (fits : 52 ≤ m.log2 ∨ e ≤ -1074) :
    Stores (roundWithAccuracy .binary64 .positive m e .exact) (rounded (productUnits m e)) := by
  obtain ⟨kept, last⟩ := shiftToTargetExponent_eq pos low fits
  have least : 1074 ≤ grain (productUnits m e) := Nat.le_max_right _ _
  have le := keptMantissa_le (productUnits m e)
  have long : 1074 < grain (productUnits m e) → _ := le_keptMantissa
  rw [roundWithAccuracy, rounded]
  generalize shiftToTargetExponent .binary64 m e .exact = first at kept last
  obtain ⟨em, exponent⟩ := first
  generalize grain (productUnits m e) = places at *
  generalize keptMantissa (productUnits m e) = r at *
  dsimp only at kept last ⊢
  have units : (exponent + 2148).toNat = places := by omega
  rw [kept]
  rcases Nat.lt_or_eq_of_le le with lt | carry
  · rw [shiftToTargetExponent_of_lt lt (by omega)]
    dsimp only
    split_ifs with none
    · rw [none, Nat.zero_mul]
      exact .zero _
    · have canonical : Canonical r exponent := ⟨lt, by omega, fun more => long (by omega)⟩
      rw [← units]
      exact .finite _ canonical
  · rw [carry, shiftToTargetExponent_carry (by omega)]
    have canonical : Canonical (2 ^ 52) (exponent + 1) := ⟨by omega, by omega, fun _ => le_rfl⟩
    have same : 2 ^ 53 * 2 ^ places = productUnits (2 ^ 52) (exponent + 1) := by
      rw [productUnits, show (exponent + 1 + 2148).toNat = places + 1 by omega]
      ring
    rw [same]
    exact .finite _ canonical

end Product

/-! ## From a double to an integer -/

/-- The integer nearest to a product of magnitudes; a half goes up. -/
def toInteger (n : Nat) : Nat := (2 * n + 2 ^ 2148) / (2 * 2 ^ 2148)

lemma toInteger_mono {m n : Nat} (le : m ≤ n) : toInteger m ≤ toInteger n :=
  Nat.div_le_div_right (by omega)

lemma saturate_mono {m n : Int} (le : m ≤ n) : Rounding.saturate m ≤ Rounding.saturate n := by
  rw [Rounding.saturate, Rounding.saturate]
  omega

lemma toNat_packComponents {spec : Format} (exponent : BitVec spec.exponentBits)
    (fraction : BitVec spec.mantissaBitsWithoutImplicit) :
    (packComponents spec .positive exponent fraction).toNat =
      exponent.toNat * 2 ^ spec.mantissaBitsWithoutImplicit + fraction.toNat := by
  rw [packComponents, BitVec.toNat_append, ← Nat.shiftLeft_add_eq_or_of_lt fraction.isLt,
    Nat.shiftLeft_eq]
  simp [Sign.toBitVec]

/-- Reading the bits of a double without a sign. -/
lemma ofFloat_eq {x : Float} {biased fraction : Nat} (hbiased : biased < 2048)
    (hfraction : fraction < 2 ^ 52) (bits : x.toBits.toNat = biased * 2 ^ 52 + fraction) :
    Rounding.Reading.ofFloat x =
      if biased = 2047 then
        if fraction = 0 then .infinite false else .notANumber
      else
        .finite (if biased = 0 then fraction else 2 ^ 52 + fraction : Nat)
          ((max biased 1 : Nat) - 1075) := by
  have sign : (biased * 2 ^ 52 + fraction) >>> 63 = 0 := by
    rw [Nat.shiftRight_eq_div_pow]
    omega
  have exponent : (biased * 2 ^ 52 + fraction) >>> 52 % 0x800 = biased := by
    rw [Nat.shiftRight_eq_div_pow]
    omega
  have rest : (biased * 2 ^ 52 + fraction) % Rounding.leadingOne = fraction := by
    rw [Rounding.leadingOne]
    omega
  simp only [Rounding.Reading.ofFloat, bits, sign, exponent, rest]
  rfl

lemma toBits_pack (u : UnpackedFloat) :
    (Float.ofModel (Float.Model.pack u)).toBits.toNat =
      (UnpackedFloat.pack .binary64 u).toNat := rfl

/-- The bits that are stored. -/
lemma toBits_pack_finite {m : Nat} {e : Int} (pos : 0 < m) (h : Canonical m e) :
    (Float.ofModel (Float.Model.pack (.finite .positive m e pos))).toBits.toNat =
      if 971 < e then 2047 * 2 ^ 52 + 0
      else if 2 ^ 52 ≤ m then (e + 1075).toNat * 2 ^ 52 + (m - 2 ^ 52)
      else 0 * 2 ^ 52 + m := by
  obtain ⟨lt, low, long⟩ := h
  have bias : ((Format.binary64.exponentBias : Nat) : Int) = 1023 := rfl
  have width : ((Format.binary64.mantissaBitsWithoutImplicit : Nat) : Int) = 52 := rfl
  have bitsOfMantissa : Format.binary64.mantissaBits = 53 := rfl
  have exponents : 2 ^ Format.binary64.exponentBits = 2048 := rfl
  have log : m.log2 + 1 = 53 ↔ 2 ^ 52 ≤ m := by
    rw [← Nat.le_log2 pos.ne']
    have := (Nat.log2_lt pos.ne').2 lt
    omega
  have large : 2048 ≤ (e + 1023 + 52).toNat + 1 ↔ 971 < e := by omega
  have fraction : (BitVec.ofNat Format.binary64.mantissaBitsWithoutImplicit m).toNat =
      m % 2 ^ 52 := BitVec.toNat_ofNat ..
  rw [toBits_pack, UnpackedFloat.pack, bias, width, bitsOfMantissa, exponents]
  simp only [log, large]
  split_ifs with infinite normal
  · exact toNat_packComponents _ _
  · have biased : (BitVec.ofNat Format.binary64.exponentBits (e + 1023 + 52).toNat).toNat =
        (e + 1075).toNat := by
      rw [BitVec.toNat_ofNat, exponents]
      omega
    refine (toNat_packComponents _ _).trans ?_
    rw [biased, fraction, show m % 2 ^ 52 = m - 2 ^ 52 by omega]
  · refine (toNat_packComponents _ _).trans ?_
    rw [fraction, Nat.mod_eq_of_lt (Nat.lt_of_not_le normal)]
    rfl

/-- What is stored is read again, unless it is too large. -/
lemma ofFloat_pack {m : Nat} {e : Int} (pos : 0 < m) (h : Canonical m e) :
    Rounding.Reading.ofFloat (.ofModel (Float.Model.pack (.finite .positive m e pos))) =
      if 971 < e then .infinite false else .finite m e := by
  have bits := toBits_pack_finite pos h
  obtain ⟨lt, low, long⟩ := h
  split_ifs at bits ⊢ with large normal
  · rw [ofFloat_eq (by omega) (by omega) bits, if_pos rfl, if_pos rfl]
  · rw [ofFloat_eq (by omega) (by omega) bits, if_neg (by omega), if_neg (by omega)]
    exact congrArg₂ _ (by omega) (by omega)
  · have least : e = -1074 := by
      by_contra more
      exact normal (long (by omega))
    rw [ofFloat_eq (by omega) (by omega) bits, if_neg (by omega), if_pos rfl, least]
    rfl

/-- **Rounding a double to an integer is rounding its places.** -/
lemma nearestScaled_eq {m : Nat} {e : Int} (pos : 0 < m) (low : -2148 ≤ e) :
    Rounding.nearestScaled m e = toInteger (productUnits m e) := by
  cases e with
  | ofNat k =>
      have places : (Int.ofNat k + 2148).toNat = k + 2148 := rfl
      have halves : 2 * (m * 2 ^ (k + 2148)) + 2 ^ 2148 = (2 * (m * 2 ^ k) + 1) * 2 ^ 2148 := by
        rw [pow_add]
        generalize 2 ^ 2148 = one
        ring
      have half : (2 * (m * 2 ^ k) + 1) / 2 = m * 2 ^ k := by omega
      rw [toInteger, productUnits, places, halves, Nat.mul_div_mul_right _ _ (Nat.two_pow_pos 2148),
        half, Rounding.nearestScaled, Int.shiftLeft_eq]
      push_cast
      rfl
  | negSucc k =>
      obtain ⟨j, sum⟩ : ∃ j, 2148 = j + (k + 1) := ⟨2147 - k, by omega⟩
      have places : (Int.negSucc k + 2148).toNat = j := by omega
      -- Half of one is `2 ^ k` of the places that the mantissa counts.
      have halves : 2 * (m * 2 ^ j) + 2 ^ (j + (k + 1)) = (m + 2 ^ k) * (2 * 2 ^ j) := by ring
      have one : 2 * 2 ^ (j + (k + 1)) = 2 ^ k * 2 * (2 * 2 ^ j) := by ring
      have half : (m + 2 ^ k) / (2 ^ k * 2) = (m >>> k + 1) / 2 := by
        rw [← Nat.div_div_eq_div_mul, Nat.add_div_right _ (Nat.two_pow_pos k),
          Nat.shiftRight_eq_div_pow]
      have wide : 0 < 2 * 2 ^ j := Nat.mul_pos Nat.two_pos (Nat.two_pow_pos j)
      rw [toInteger, productUnits, places, sum, halves, one, Nat.mul_div_mul_right _ _ wide, half,
        Rounding.nearestScaled, Int.sign_eq_one_of_pos (Int.natCast_pos.2 pos), Int.one_mul,
        Int.natAbs_natCast]

/-- What is too large for a double is too large for an integer. -/
lemma saturate_nearestScaled_of_large {m : Nat} {e : Int} (h : Canonical m e) (large : 971 < e) :
    Rounding.saturate (Rounding.nearestScaled m e) = Rounding.maxInt64 := by
  obtain ⟨k, rfl⟩ := Int.eq_ofNat_of_zero_le (show 0 ≤ e by omega)
  have long := h.long (by omega)
  have wide : 2 ^ 11 ≤ 2 ^ k := Nat.pow_le_pow_right Nat.two_pos (by omega)
  have le : 2 ^ 52 * 2 ^ 11 ≤ m * 2 ^ k := Nat.mul_le_mul long wide
  have shifted : Rounding.nearestScaled m k = (m * 2 ^ k : Nat) := by
    show (m : Int) <<< k = _
    rw [Int.shiftLeft_eq]
    push_cast
    rfl
  rw [shifted, Rounding.saturate, Rounding.maxInt64, Rounding.minInt64]
  omega

/-- **A stored product is rounded to the integer nearest to it.** -/
lemma nearest_of_stores {u : UnpackedFloat} {n : Nat} (h : Stores u n) :
    Rounding.nearest (.ofModel (Float.Model.pack u)) = Rounding.saturate (toInteger n) := by
  cases h with
  | zero sign =>
      have none : toInteger 0 = 0 := by
        refine Nat.div_eq_of_lt ?_
        have := Nat.two_pow_pos 2148
        omega
      rw [none]
      cases sign <;> decide +kernel
  | @finite m e pos canonical =>
      have low : -2148 ≤ e := by
        have := canonical.low
        omega
      rw [Rounding.nearest, Rounding.roundWith, ofFloat_pack pos canonical,
        ← nearestScaled_eq pos low]
      split_ifs with large
      · exact (saturate_nearestScaled_of_large canonical large).symm
      · rfl

lemma rounded_zero : rounded 0 = 0 := by
  have low := (nearest_keptMantissa 0).low
  have none : keptMantissa 0 = 0 := by
    by_contra some
    have le := Nat.le_mul_of_pos_left (2 ^ grain 0) (Nat.pos_of_ne_zero some)
    have pos := Nat.two_pow_pos (grain 0)
    omega
  rw [rounded, none, Nat.zero_mul]

/-- **The integer nearest to a product of lengths** depends on the product of their magnitudes. -/
theorem nearest_mul {x y : Float} (hx : IsLength x) (hy : IsLength y) :
    Rounding.nearest (x * y) =
      Rounding.saturate (toInteger (rounded (magnitude x * magnitude y))) := by
  have product : x * y =
      .ofModel (Float.Model.pack (UnpackedFloat.mul .binary64 x.toModel.unpack y.toModel.unpack)) :=
    rfl
  rw [product]
  refine nearest_of_stores ?_
  have none (sign : Sign) : unpackedMagnitude (.zero sign) = 0 := rfl
  rw [magnitude, magnitude]
  obtain ⟨sign, reads⟩ | ⟨m, e, hm, reads⟩ := hx.cases
  · obtain ⟨other, reads'⟩ | ⟨n, f, hn, reads'⟩ := hy.cases
    all_goals
      rw [reads, reads', none, Nat.zero_mul, rounded_zero]
      exact .zero _
  · obtain ⟨other, reads'⟩ | ⟨n, f, hn, reads'⟩ := hy.cases
    · rw [reads, reads', none, Nat.mul_zero, rounded_zero]
      exact .zero _
    · have legal := isLegal_unpack x _ _ _ _ reads
      have legal' := isLegal_unpack y _ _ _ _ reads'
      have low : -2148 ≤ e + f := by
        have := legal.low
        have := legal'.low
        omega
      rw [reads, reads', unpackedMagnitude, unpackedMagnitude, legal.productUnits_mul legal']
      exact stores_roundWithAccuracy (Nat.mul_pos hm hn) low (legal.fits_mul legal' hm hn)

end Double

end TiledView
