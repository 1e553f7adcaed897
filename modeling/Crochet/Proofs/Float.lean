/-
# Crochet.Proofs.Float -- floats through their parts

A float is zero, a sign with a mantissa and an exponent, infinite, or not a
number.  Two facts about the parts are wanted here: finite floats are compared
as numbers are, and arithmetic on moderate numbers stays finite.  The second
needs no value of a result, only a bound on how far rounding and packing move a
mantissa and an exponent.
-/
import Crochet.Json.Number
import Mathlib

set_option autoImplicit false

namespace Crochet.Binary64

open Float.Model UnpackedFloat

/-- The parts of a float. -/
def parts (x : Float) : UnpackedFloat := x.toModel.unpack

/-! ## Comparison -/

theorem le_iff (x y : Float) : x ≤ y ↔ (parts x).le (parts y) = true := by
  show decide ((parts x).le (parts y) = true) = true ↔ _
  exact decide_eq_true_iff

theorem lt_iff (x y : Float) : x < y ↔ (parts x).lt (parts y) = true := by
  show decide ((parts x).lt (parts y) = true) = true ↔ _
  exact decide_eq_true_iff

/-- Two parts compared the other way round. -/
theorem compare_swap (u v : UnpackedFloat) :
    v.compare u = (u.compare v).map Ordering.swap := by
  have exponents (e f : Int) : compare f e = (compare e f).swap := Std.OrientedCmp.eq_swap
  have mantissas (m n : Nat) : compare n m = (compare m n).swap := Std.OrientedCmp.eq_swap
  cases u with
  | notANumber => cases v <;> rfl
  | infinity s =>
      cases v with
      | infinity t => cases s <;> cases t <;> rfl
      | _ => cases s <;> rfl
  | zero s =>
      cases v with
      | notANumber => rfl
      | zero t => rfl
      | infinity t => cases t <;> rfl
      | finite t n f pos => cases t <;> rfl
  | finite s m e pos =>
      cases v with
      | notANumber => cases s <;> rfl
      | zero t => cases s <;> rfl
      | infinity t => cases s <;> cases t <;> rfl
      | finite t n f above =>
          cases s <;> cases t <;>
            simp [UnpackedFloat.compare, exponents e f, mantissas m n, Ordering.swap_then]

/-- Finite parts can be compared. -/
theorem exists_compare {u v : UnpackedFloat} (finite : u.isFinite = true)
    (other : v.isFinite = true) : ∃ order, u.compare v = some order := by
  cases u with
  | notANumber => cases finite
  | infinity s => cases finite
  | zero s =>
      cases v with
      | notANumber => cases other
      | infinity t => cases other
      | zero t => exact ⟨_, rfl⟩
      | finite t n f pos => cases t <;> exact ⟨_, rfl⟩
  | finite s m e pos =>
      cases v with
      | notANumber => cases other
      | infinity t => cases other
      | zero t => cases s <;> exact ⟨_, rfl⟩
      | finite t n f above => cases s <;> cases t <;> exact ⟨_, rfl⟩

/-- Of two finite floats one is not at most the other exactly when it is above it. -/
theorem not_le_iff {x y : Float} (finite : x.isFinite = true) (other : y.isFinite = true) :
    ¬ x ≤ y ↔ y < x := by
  obtain ⟨order, compared⟩ := exists_compare (u := parts x) (v := parts y) finite other
  rw [le_iff, lt_iff, UnpackedFloat.le, UnpackedFloat.lt, compare_swap (parts x), compared]
  cases order <;> decide

/-! ## Moderate floats -/

/-- The parts of a number: a mantissa of so many bits at most, and an exponent up to the top. -/
def Within (bits : Nat) (top : Int) : UnpackedFloat → Prop
  | .zero _ => True
  | .finite _ mantissa exponent _ => mantissa < 2 ^ bits ∧ exponent ≤ top
  | _ => False

theorem Within.isInf {bits : Nat} {top : Int} {u : UnpackedFloat} (within : Within bits top u) :
    u.isInf = false := by
  cases u with
  | infinity sign => exact within.elim
  | _ => rfl

/-- A shift to the right makes no mantissa greater. -/
theorem mantissa_shiftRight_le (em : ExtendedMantissa) (n : Nat) :
    (em >>> n).mantissa ≤ em.mantissa := by
  induction n with
  | zero => exact le_rfl
  | succ n ih => exact (Nat.div_le_self _ 2).trans ih

theorem mantissa_ofMantissaAndAccuracy (mantissa : Nat) (accuracy : Accuracy) :
    (ExtendedMantissa.ofMantissaAndAccuracy mantissa accuracy).mantissa = mantissa := by
  rcases accuracy with _ | (_ | _ | _) <;> rfl

/-- Rounding adds one at most. -/
theorem roundedMantissa_le (em : ExtendedMantissa) : em.roundedMantissa ≤ em.mantissa + 1 := by
  obtain ⟨mantissa, _ | _, _ | _⟩ := em <;>
    simp only [ExtendedMantissa.roundedMantissa, ExtendedMantissa.accuracy,
      Accuracy.roundToNearestEven] <;> omega

theorem targetExponent_eq (total : Int) :
    Format.binary64.targetExponent total = max (total - 53) (-1074) := rfl

/-- A mantissa of so many bits is moved to an exponent that many steps up at most. -/
theorem shiftToTargetExponent_within {bits : Nat} {top : Int} {mantissa : Nat} {exponent : Int}
    (accuracy : Accuracy) (fits : mantissa < 2 ^ bits) (low : exponent ≤ top)
    (high : -1074 ≤ top) :
    (shiftToTargetExponent Format.binary64 mantissa exponent accuracy).1.mantissa < 2 ^ bits ∧
      (shiftToTargetExponent Format.binary64 mantissa exponent accuracy).2 ≤ top + bits := by
  have size : mantissa.log2 ≤ bits := by
    by_cases zero : mantissa = 0
    · simp [zero]
    · exact ((Nat.log2_lt zero).mpr fits).le
  constructor
  · refine (mantissa_shiftRight_le _ _).trans_lt ?_
    rwa [mantissa_ofMantissaAndAccuracy]
  · simp only [shiftToTargetExponent, shiftToExponent, targetExponent_eq, totalExponent]
    omega

theorem roundWithAccuracy_within {bits : Nat} {top : Int} {mantissa : Nat} {exponent : Int}
    (sign : Sign) (accuracy : Accuracy) (fits : mantissa < 2 ^ bits) (low : exponent ≤ top)
    (high : -1074 ≤ top) :
    Within (bits + 1) (top + 2 * bits + 1)
      (roundWithAccuracy Format.binary64 sign mantissa exponent accuracy) := by
  obtain ⟨fits₁, low₁⟩ := shiftToTargetExponent_within accuracy fits low high
  simp only [roundWithAccuracy]
  generalize shiftToTargetExponent Format.binary64 mantissa exponent accuracy = shifted at *
  have rounded : shifted.1.roundedMantissa < 2 ^ (bits + 1) := by
    have := roundedMantissa_le shifted.1
    have := Nat.one_le_two_pow (n := bits)
    omega
  obtain ⟨fits₂, low₂⟩ := shiftToTargetExponent_within .exact rounded low₁ (by omega)
  split
  · trivial
  · exact ⟨fits₂, low₂.trans (by omega)⟩

/-- Components whose exponent is not all ones are those of a number. -/
theorem unpack_packComponents_within (sign : Sign) (exponent : BitVec 11) (mantissa : BitVec 52)
    {top : Int} (low : exponent.toNat ≤ top + 1075) (high : -1074 ≤ top)
    (proper : exponent ≠ -1#11) :
    Within 53 top
      (unpack Format.binary64 (packComponents Format.binary64 sign exponent mantissa)) := by
  have bias : Format.binary64.exponentBias = 1023 := by decide
  simp only [UnpackedFloat.unpack, unpackMantissa_packComponents, unpackExponent_packComponents,
    if_neg proper, bias]
  split_ifs with subnormal zero
  · trivial
  · refine ⟨mantissa.isLt.trans (by decide), ?_⟩
    rw [subnormal]
    exact high
  · exact ⟨(1#1 ++ mantissa).isLt, by omega⟩

/-- A number whose exponent is not too great is still one after packing. -/
theorem unpack_pack_within {bits : Nat} {top : Int} {u : UnpackedFloat}
    (within : Within bits top u) (high : -1074 ≤ top) (low : top ≤ 970) :
    Within 53 top (unpack Format.binary64 (pack Format.binary64 u)) := by
  cases u with
  | zero sign => exact unpack_packComponents_within sign 0 0 (by simp; omega) high (by decide)
  | finite sign mantissa exponent pos =>
      obtain ⟨-, below⟩ := within
      have bias : Format.binary64.exponentBias = 1023 := by decide
      simp only [UnpackedFloat.pack, bias]
      split_ifs with great normal
      · omega
      · refine unpack_packComponents_within sign _ _ ?_ high ?_
        · simp
          omega
        · intro full
          have value := congrArg BitVec.toNat full
          simp at value
          omega
      · exact unpack_packComponents_within sign 0 _ (by simp; omega) high (by decide)
  | _ => exact within.elim

/-- A 64-bit number is rounded to a moderate float. -/
theorem ofNat_within {n : Nat} (fits : n < 2 ^ 64) :
    Within 117 235 (UnpackedFloat.ofNat Format.binary64 n) := by
  simp only [UnpackedFloat.ofNat, UnpackedFloat.ofInt, UnpackedFloat.normalize]
  split
  case h_1 below =>
    rw [compare_lt_iff_lt] at below
    omega
  case h_2 => trivial
  case h_3 =>
    simp only [Int.toNat_natCast, UnpackedFloat.round, decreaseExponent, targetExponent_eq, totalExponent]
    -- the mantissa is moved up by as much as it is short of its 53 bits
    generalize moved : (0 - max ((n.log2 : Int) + 1 + 0 - 53) (-1074)).toNat = shift
    have small : shift ≤ 52 := by omega
    have shifted : n <<< shift < 2 ^ 116 := by
      calc n <<< shift = n * 2 ^ shift := Nat.shiftLeft_eq n shift
        _ ≤ n * 2 ^ 52 := Nat.mul_le_mul_left n (Nat.pow_le_pow_right (by decide) small)
        _ < 2 ^ 64 * 2 ^ 52 := Nat.mul_lt_mul_of_pos_right fits (by decide)
        _ = 2 ^ 116 := by decide
    have low : 0 - (shift : Int) ≤ 2 := by omega
    exact roundWithAccuracy_within .positive .exact shifted low (by decide)

theorem parts_toFloat_within (n : UInt64) : Within 53 235 (parts n.toFloat) :=
  unpack_pack_within (ofNat_within n.toNat_lt) (by decide) (by decide)

theorem Within.mul {top other : Int} {u v : UnpackedFloat} (first : Within 53 top u)
    (second : Within 53 other v) (high : -1074 ≤ top + other) :
    Within 107 (top + other + 213) (UnpackedFloat.mul Format.binary64 u v) := by
  cases u with
  | zero s => cases v with
    | zero t => trivial
    | finite t n f above => trivial
    | _ => exact second.elim
  | finite s m e pos => cases v with
    | zero t => trivial
    | finite t n f above =>
        have product : m * n < 2 ^ 106 := by
          calc m * n < 2 ^ 53 * 2 ^ 53 := Nat.mul_lt_mul'' first.1 second.1
            _ = 2 ^ 106 := by decide
        have rounded := roundWithAccuracy_within (s * t) .exact product
          (Int.add_le_add first.2 second.2) high
        have steps : top + other + 2 * (106 : Nat) + 1 = top + other + 213 := by omega
        rwa [steps] at rounded
    | _ => exact second.elim
  | _ => exact first.elim

/-- A product of moderate floats is moderate. -/
theorem parts_mul_within {top other : Int} {x y : Float} (first : Within 53 top (parts x))
    (second : Within 53 other (parts y)) (high : -1074 ≤ top + other) (low : top + other ≤ 757) :
    Within 53 (top + other + 213) (parts (x * y)) :=
  unpack_pack_within (first.mul second high) (by omega) (by omega)

end Crochet.Binary64

namespace Crochet.Json.Number

/-! ## Whole numbers -/

/-- More digits make no number smaller. -/
theorem le_ofDigitChars (digits : List Char) (value : Nat) :
    value ≤ Nat.ofDigitChars 10 digits value := by
  rw [Nat.ofDigitChars_eq_ofDigitChars_zero]
  exact (Nat.le_mul_of_pos_left value (Nat.pow_pos (by decide))).trans (Nat.le_add_right _ _)

/-- Digits before the point are taken up as long as their value fits. -/
theorem foldl_addWhole (digits : List Char) (value : Nat) (scale : Int)
    (fits : Nat.ofDigitChars 10 digits value < 2 ^ 64) :
    digits.foldl Significand.addWhole ⟨value, scale, false⟩ =
      ⟨Nat.ofDigitChars 10 digits value, scale, false⟩ := by
  induction digits generalizing value with
  | nil => rfl
  | cons c digits ih =>
      rw [Nat.ofDigitChars_cons, Nat.mul_comm] at fits ⊢
      have small : value * 10 + (c.toNat - '0'.toNat) < 2 ^ 64 :=
        (le_ofDigitChars digits _).trans_lt fits
      have digit? : Significand.digit? ⟨value, scale, false⟩ c =
          some (value * 10 + (c.toNat - '0'.toNat)) := by
        simpa [Significand.digit?] using small
      simp only [List.foldl_cons, Significand.addWhole, digit?]
      exact ih _ fits

/-- A plain natural number is its own significand. -/
theorem significand_ofNat {n : Nat} (fits : n < 2 ^ 64) : (ofNat n).significand = (n, 0) := by
  have spelled : Nat.ofDigitChars 10 (Nat.toDigits 10 n) 0 = n :=
    Nat.ofDigitChars_toDigits (by decide) (by decide)
  have whole := foldl_addWhole (Nat.toDigits 10 n) 0 0 (by rwa [spelled])
  rw [spelled] at whole
  simp [significand, ofNat, whole]

/-- A plain natural number of 64 bits is in the range of floats. -/
theorem float?_ofNat {n : Nat} (fits : n < 2 ^ 64) : ∃ x, (ofNat n).float? = some x := by
  have one : Binary64.Within 53 (-52) (Binary64.parts (power 0)) :=
    ⟨(by decide : 2 ^ 52 < 2 ^ 53), le_rfl⟩
  have moderate := Binary64.parts_mul_within (Binary64.parts_toFloat_within (UInt64.ofNat n)) one
    (by decide) (by decide)
  have notInf : ((UInt64.ofNat n).toFloat * power 0).isInf = false := moderate.isInf
  simp [float?, significand_ofNat fits, scaled?, notInf]

end Crochet.Json.Number
