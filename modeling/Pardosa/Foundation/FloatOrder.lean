import Mathlib.Algebra.Order.Field.Basic
import Mathlib.Data.Rat.Cast.Order
import Mathlib.Order.Compare
import Mathlib.Tactic.FieldSimp
import Mathlib.Tactic.Linarith
import Mathlib.Tactic.Ring
import Pardosa.Foundation.FloatFormat

/-!
# The order of floating-point patterns

A finite pattern denotes a rational number, exactly. The total order of patterns compares bits
as integers; this module shows where it is the order of the numbers.
-/

namespace Foundation

namespace FloatFormat

/-- The fields of a format, and a sign bit before them, fill its width. -/
def IsInterchange (format : FloatFormat) : Prop :=
  8 * format.bytes = 1 + (format.exponentBits + format.fractionBits)
deriving Decidable

/-- Single precision fills its four bytes. -/
theorem isInterchange_binary32 : binary32.IsInterchange := rfl

/-- Double precision fills its eight bytes. -/
theorem isInterchange_binary64 : binary64.IsInterchange := rfl

variable (format : FloatFormat)

/-- What the exponent field exceeds the exponent by. -/
def bias : Int := 2 ^ (format.exponentBits - 1) - 1

/-- The magnitude of the number that a finite pattern denotes. -/
def magnitude (pattern : format.Pattern) : ℚ :=
  if format.exponent pattern = 0 then
    format.fraction pattern / 2 ^ format.fractionBits * 2 ^ (1 - format.bias)
  else
    (1 + format.fraction pattern / 2 ^ format.fractionBits) *
      2 ^ (format.exponent pattern - format.bias)

/-- The number that a finite pattern denotes. -/
def value (pattern : format.Pattern) : ℚ :=
  if pattern.msb then -format.magnitude pattern else format.magnitude pattern

/-- The positive infinity. -/
def infinity : format.Pattern := .ofNat _ (format.topExponent * 2 ^ format.fractionBits)

/-- The negative infinity. -/
def negInfinity : format.Pattern :=
  .ofNat _ (2 ^ (format.exponentBits + format.fractionBits) +
    format.topExponent * 2 ^ format.fractionBits)

example : binary32.infinity = 0x7f800000#32 := rfl

example : binary32.negInfinity = 0xff800000#32 := rfl

/-- Numerical equality: both zeroes are equal, and a NaN equals nothing. -/
def NumEq (left right : format.Pattern) : Prop :=
  ¬format.IsNan left ∧ ¬format.IsNan right ∧
    (left = right ∨ format.IsZero left ∧ format.IsZero right)
deriving Decidable

/-- The integer by which a pattern is ordered: of a negative one all bits but the sign are
flipped. -/
def totalKey (pattern : format.Pattern) : Int :=
  (pattern ^^^ (pattern.sshiftRight (8 * format.bytes - 1) >>> 1)).toInt

/-- The total order of patterns. -/
def totalCmp (left right : format.Pattern) : Ordering :=
  compare (format.totalKey left) (format.totalKey right)

/-- The bits of a pattern below its sign. -/
def low (pattern : format.Pattern) : Nat :=
  pattern.toNat % 2 ^ (format.exponentBits + format.fractionBits)

variable {format} {left right pattern : format.Pattern}

section Fields

/-- Without its sign, a pattern has the bits of exponent and fraction and no more. -/
theorem low_lt (pattern : format.Pattern) :
    format.low pattern < 2 ^ (format.exponentBits + format.fractionBits) :=
  Nat.mod_lt _ (Nat.two_pow_pos _)

/-- The fraction has as many bits as the format gives it. -/
theorem fraction_lt (pattern : format.Pattern) :
    format.fraction pattern < 2 ^ format.fractionBits :=
  Nat.mod_lt _ (Nat.two_pow_pos _)

/-- Below the sign stand the exponent and then the fraction. -/
theorem low_eq (pattern : format.Pattern) :
    format.low pattern =
      format.exponent pattern * 2 ^ format.fractionBits + format.fraction pattern := by
  unfold low exponent fraction
  rw [Nat.add_comm format.exponentBits, Nat.pow_add, Nat.mod_mul, Nat.add_comm,
    Nat.mul_comm (2 ^ format.fractionBits)]

variable (interchange : format.IsInterchange)

include interchange

/-- The bytes of an interchange format hold the sign, the exponent and the fraction. -/
theorem width_eq :
    2 ^ (8 * format.bytes) = 2 * 2 ^ (format.exponentBits + format.fractionBits) := by
  rw [interchange, Nat.pow_add, Nat.pow_one]

/-- The sign bit is the highest. -/
theorem msb_iff : pattern.msb = true ↔
    2 ^ (format.exponentBits + format.fractionBits) ≤ pattern.toNat := by
  have width : 8 * format.bytes - 1 = format.exponentBits + format.fractionBits := by
    unfold IsInterchange at interchange
    omega
  rw [BitVec.msb_eq_decide, decide_eq_true_iff, width]

/-- A pattern with the sign bit is that bit and the bits below. -/
theorem toNat_of_msb (negative : pattern.msb = true) :
    pattern.toNat = 2 ^ (format.exponentBits + format.fractionBits) + format.low pattern := by
  have bound := pattern.isLt
  rw [width_eq interchange] at bound
  have above := (msb_iff interchange).mp negative
  unfold low
  rw [Nat.mod_eq_sub_mod above, Nat.mod_eq_of_lt (by omega)]
  omega

/-- A pattern without the sign bit is the bits below. -/
theorem toNat_of_not_msb (positive : pattern.msb = false) :
    pattern.toNat = format.low pattern := by
  have below : ¬2 ^ (format.exponentBits + format.fractionBits) ≤ pattern.toNat := by
    rw [← msb_iff interchange, positive]
    simp
  exact (Nat.mod_eq_of_lt (Nat.lt_of_not_le below)).symm

end Fields

section Key

/-- Flipping all bits of a number below a power of two. -/
theorem xor_two_pow_sub_one {number bits : Nat} (small : number < 2 ^ bits) :
    number ^^^ (2 ^ bits - 1) = 2 ^ bits - 1 - number := by
  have complement : (BitVec.ofNat bits number ^^^ BitVec.allOnes bits).toNat =
      (~~~BitVec.ofNat bits number).toNat := congrArg BitVec.toNat BitVec.xor_allOnes
  rw [BitVec.toNat_xor, BitVec.toNat_not, BitVec.toNat_allOnes, BitVec.toNat_ofNat,
    Nat.mod_eq_of_lt small] at complement
  exact complement

/-- Flipping the bits below a bit that is set. -/
theorem two_pow_add_xor {number bits : Nat} (small : number < 2 ^ bits) :
    (2 ^ bits + number) ^^^ (2 ^ bits - 1) = 2 ^ bits + (2 ^ bits - 1 - number) := by
  have positive := Nat.two_pow_pos bits
  have high : ((2 ^ bits + number) ^^^ (2 ^ bits - 1)) / 2 ^ bits = 1 := by
    rw [Nat.xor_div_two_pow, Nat.add_div_left _ positive, Nat.div_eq_of_lt small,
      Nat.div_eq_of_lt (by omega)]
    rfl
  have rest : ((2 ^ bits + number) ^^^ (2 ^ bits - 1)) % 2 ^ bits = 2 ^ bits - 1 - number := by
    rw [Nat.xor_mod_two_pow, Nat.add_mod_left, Nat.mod_eq_of_lt small,
      Nat.mod_eq_of_lt (by omega), xor_two_pow_sub_one small]
  have whole := Nat.div_add_mod ((2 ^ bits + number) ^^^ (2 ^ bits - 1)) (2 ^ bits)
  rw [high, rest, Nat.mul_one] at whole
  exact whole.symm

variable (interchange : format.IsInterchange)

include interchange

/-- Positive patterns are ordered by their bits as they stand. -/
theorem totalKey_of_not_msb (positive : pattern.msb = false) :
    format.totalKey pattern = format.low pattern := by
  have wide : 0 < 8 * format.bytes := by
    unfold IsInterchange at interchange
    omega
  have flipped : pattern.sshiftRight (8 * format.bytes - 1) = 0#_ := by
    apply BitVec.eq_of_toNat_eq
    rw [BitVec.sshiftRight_eq_of_msb_false positive, BitVec.toNat_ushiftRight,
      Nat.shiftRight_eq_div_pow]
    refine Nat.div_eq_of_lt ?_
    have := BitVec.msb_eq_false_iff_two_mul_lt.mp positive
    have := Nat.two_pow_pred_mul_two wide
    omega
  unfold totalKey
  rw [flipped, BitVec.zero_ushiftRight, BitVec.xor_zero, BitVec.toInt_eq_toNat_of_msb positive,
    toNat_of_not_msb interchange positive]

/-- Negative patterns come below all positive ones, the larger bits first. -/
theorem totalKey_of_msb (negative : pattern.msb = true) :
    format.totalKey pattern = -(format.low pattern : Int) - 1 := by
  have below := low_lt pattern
  have whole := toNat_of_msb interchange negative
  have width := width_eq interchange
  -- the arithmetic shift fills the word with the sign, the logical one clears the sign
  have mask : (pattern.sshiftRight (8 * format.bytes - 1) >>> 1).toNat =
      2 ^ (format.exponentBits + format.fractionBits) - 1 := by
    have filled : ~~~pattern >>> (8 * format.bytes - 1) = 0#_ := by
      apply BitVec.eq_of_toNat_eq
      rw [BitVec.toNat_ushiftRight, Nat.shiftRight_eq_div_pow, BitVec.toNat_not]
      refine Nat.div_eq_of_lt ?_
      have shift : 8 * format.bytes - 1 = format.exponentBits + format.fractionBits := by
        unfold IsInterchange at interchange
        omega
      rw [shift]
      omega
    rw [BitVec.sshiftRight_eq_of_msb_true negative, filled, BitVec.toNat_ushiftRight,
      BitVec.toNat_not, width, Nat.shiftRight_eq_div_pow]
    change (_ - 1 - 0) / _ = _
    omega
  have flipped : (pattern ^^^ (pattern.sshiftRight (8 * format.bytes - 1) >>> 1)).toNat =
      2 ^ (format.exponentBits + format.fractionBits) +
        (2 ^ (format.exponentBits + format.fractionBits) - 1 - format.low pattern) := by
    rw [BitVec.toNat_xor, mask, whole, two_pow_add_xor below]
  unfold totalKey
  rw [BitVec.toInt_eq_toNat_cond, flipped, if_neg (by omega), width]
  omega

/-- Patterns with one key are one pattern. -/
theorem totalKey_injective (same : format.totalKey left = format.totalKey right) :
    left = right := by
  apply BitVec.eq_of_toNat_eq
  cases signLeft : left.msb with
  | false =>
      rw [totalKey_of_not_msb interchange signLeft] at same
      rw [toNat_of_not_msb interchange signLeft]
      cases signRight : right.msb with
      | false =>
          rw [totalKey_of_not_msb interchange signRight] at same
          rw [toNat_of_not_msb interchange signRight]
          omega
      | true =>
          rw [totalKey_of_msb interchange signRight] at same
          omega
  | true =>
      rw [totalKey_of_msb interchange signLeft] at same
      rw [toNat_of_msb interchange signLeft]
      cases signRight : right.msb with
      | false =>
          rw [totalKey_of_not_msb interchange signRight] at same
          omega
      | true =>
          rw [totalKey_of_msb interchange signRight] at same
          rw [toNat_of_msb interchange signRight]
          omega

end Key

section Infinities

/-- A pattern with the fields of an infinity, and whatever sign. -/
theorem isInfinite_of_toNat (sign : Nat)
    (bits : pattern.toNat = 2 ^ (format.exponentBits + format.fractionBits) * sign +
      format.topExponent * 2 ^ format.fractionBits) : format.IsInfinite pattern := by
  have top : format.topExponent < 2 ^ format.exponentBits :=
    Nat.sub_lt (Nat.two_pow_pos _) Nat.one_pos
  have regroup : pattern.toNat = 2 ^ format.fractionBits *
      (2 ^ format.exponentBits * sign + format.topExponent) := by
    rw [bits, Nat.pow_add]
    ring
  constructor
  · rw [exponent, regroup, Nat.mul_div_cancel_left _ (Nat.two_pow_pos _), Nat.mul_add_mod,
      Nat.mod_eq_of_lt top]
  · rw [fraction, regroup, Nat.mul_mod_right]

/-- The bits of an infinity fit into exponent and fraction. -/
theorem infinity_lt (format : FloatFormat) : format.topExponent * 2 ^ format.fractionBits <
    2 ^ (format.exponentBits + format.fractionBits) := by
  rw [Nat.pow_add]
  exact Nat.mul_lt_mul_of_pos_right (Nat.sub_lt (Nat.two_pow_pos _) Nat.one_pos)
    (Nat.two_pow_pos _)

/-- A real pattern is not numerically equal to an infinity. -/
theorem not_numEq_of_isInfinite {other : format.Pattern} (real : format.IsReal pattern)
    (infinite : format.IsInfinite other) : ¬format.NumEq pattern other := by
  rintro ⟨-, -, same | ⟨-, zero⟩⟩
  · exact real.2.1 (same ▸ infinite)
  · have top := infinite.1
    rw [zero.1] at top
    have wide := Nat.pow_le_pow_right Nat.two_pos format.hasExponent
    unfold topExponent at top
    omega

variable (interchange : format.IsInterchange)

include interchange

/-- The positive infinity is one. -/
theorem isInfinite_infinity : format.IsInfinite format.infinity := by
  have small := format.infinity_lt
  refine isInfinite_of_toNat 0 ?_
  rw [infinity, BitVec.toNat_ofNat, width_eq interchange, Nat.mod_eq_of_lt (by omega)]
  omega

/-- The negative infinity is one. -/
theorem isInfinite_negInfinity : format.IsInfinite format.negInfinity := by
  have small := format.infinity_lt
  refine isInfinite_of_toNat 1 ?_
  rw [negInfinity, BitVec.toNat_ofNat, width_eq interchange, Nat.mod_eq_of_lt (by omega),
    Nat.mul_one]

end Infinities

section Value

/-- The magnitude of the number that a pattern denotes, in units of the least one. -/
def units (format : FloatFormat) (pattern : format.Pattern) : Nat :=
  if format.exponent pattern = 0 then format.fraction pattern
  else (2 ^ format.fractionBits + format.fraction pattern) * 2 ^ (format.exponent pattern - 1)

/-- The least magnitude. -/
def unit (format : FloatFormat) : ℚ := 2 ^ (1 - format.bias - format.fractionBits)

/-- The smallest step of a format is positive. -/
theorem unit_pos (format : FloatFormat) : 0 < format.unit := by
  exact zpow_pos (by norm_num) _

/-- A magnitude is a whole number of smallest steps. -/
theorem magnitude_eq (pattern : format.Pattern) :
    format.magnitude pattern = format.units pattern * format.unit := by
  have two : (2 : ℚ) ≠ 0 := by norm_num
  unfold magnitude units unit
  split_ifs with subnormal
  · rw [zpow_sub₀ two (1 - format.bias), zpow_natCast]
    ring
  · have exponent : (format.exponent pattern : Int) - format.bias =
        (1 - format.bias - format.fractionBits) + format.fractionBits +
          (format.exponent pattern - 1 : Nat) := by
      omega
    rw [exponent, zpow_add₀ two, zpow_add₀ two, zpow_natCast, zpow_natCast]
    push_cast
    field_simp

/-- All magnitudes of an exponent lie below those of the next. -/
theorem units_lt_pow (pattern : format.Pattern) :
    format.units pattern < 2 ^ format.fractionBits * 2 ^ format.exponent pattern := by
  have small := fraction_lt pattern
  unfold units
  split_ifs with subnormal
  · rwa [subnormal, Nat.pow_zero, Nat.mul_one]
  · have next : 2 ^ format.exponent pattern = 2 * 2 ^ (format.exponent pattern - 1) := by
      rw [← Nat.pow_succ', Nat.succ_eq_add_one, Nat.sub_add_cancel (Nat.pos_of_ne_zero subnormal)]
    rw [next, Nat.mul_left_comm, ← Nat.mul_assoc]
    exact Nat.mul_lt_mul_of_pos_right (by omega) (Nat.two_pow_pos _)

/-- A normal number has at least the steps of its leading bit. -/
theorem pow_le_units (normal : format.exponent pattern ≠ 0) :
    2 ^ format.fractionBits * 2 ^ (format.exponent pattern - 1) ≤ format.units pattern := by
  unfold units
  rw [if_neg normal]
  exact Nat.mul_le_mul_right _ (Nat.le_add_right _ _)

/-- Larger bits below the sign are more units. -/
theorem units_lt (below : format.low left < format.low right) :
    format.units left < format.units right := by
  have smallRight := fraction_lt right
  rw [low_eq, low_eq] at below
  rcases Nat.lt_trichotomy (format.exponent left) (format.exponent right) with less | same | more
  · calc format.units left
        < 2 ^ format.fractionBits * 2 ^ format.exponent left := units_lt_pow left
      _ ≤ 2 ^ format.fractionBits * 2 ^ (format.exponent right - 1) :=
          Nat.mul_le_mul_left _ (Nat.pow_le_pow_right (by decide) (by omega))
      _ ≤ format.units right := pow_le_units (by omega)
  · rw [same] at below
    unfold units
    rw [same]
    split_ifs
    · omega
    · exact Nat.mul_lt_mul_of_pos_right (by omega) (Nat.two_pow_pos _)
  · have next := Nat.mul_le_mul_right (2 ^ format.fractionBits) more
    rw [Nat.succ_mul] at next
    omega

/-- The number of steps grows with the bits of exponent and fraction, from subnormal to
normal numbers and from one exponent to the next. -/
theorem units_lt_iff :
    format.units left < format.units right ↔ format.low left < format.low right := by
  constructor
  · intro less
    rcases Nat.lt_trichotomy (format.low left) (format.low right) with below | same | above
    · exact below
    · have fields := same
      rw [low_eq, low_eq] at fields
      have exponents : format.exponent left = format.exponent right := by
        have divided := congrArg (· / 2 ^ format.fractionBits) fields
        simpa [Nat.mul_add_div (Nat.two_pow_pos _), Nat.mul_comm _ (2 ^ format.fractionBits),
          Nat.div_eq_of_lt (fraction_lt _)] using divided
      rw [exponents] at fields
      have fractions := Nat.add_left_cancel fields
      rw [units, units, exponents, fractions] at less
      exact (Nat.lt_irrefl _ less).elim
    · exact (Nat.lt_asymm less (units_lt above)).elim
  · exact units_lt

/-- So does the magnitude: of two patterns, the one with the larger bits below its sign
stands for the larger absolute value. -/
theorem magnitude_lt_iff :
    format.magnitude left < format.magnitude right ↔ format.low left < format.low right := by
  rw [magnitude_eq, magnitude_eq, mul_lt_mul_iff_left₀ format.unit_pos, Nat.cast_lt,
    units_lt_iff]

/-- A magnitude is never negative. -/
theorem magnitude_nonneg (pattern : format.Pattern) : 0 ≤ format.magnitude pattern := by
  rw [magnitude_eq]
  exact mul_nonneg (Nat.cast_nonneg _) format.unit_pos.le

/-- Only a zero has no bits below its sign. -/
theorem low_eq_zero_iff : format.low pattern = 0 ↔ format.IsZero pattern := by
  rw [low_eq, Nat.add_eq_zero_iff, Nat.mul_eq_zero]
  constructor
  · rintro ⟨exponent | impossible, fraction⟩
    · exact ⟨exponent, fraction⟩
    · exact ((Nat.two_pow_pos _).ne' impossible).elim
  · rintro ⟨exponent, fraction⟩
    exact ⟨.inl exponent, fraction⟩

/-- What is not a zero has a magnitude. -/
theorem magnitude_pos (nonZero : ¬format.IsZero pattern) : 0 < format.magnitude pattern := by
  have zero : format.magnitude 0 = 0 := by
    have isZero := format.isZero_zero
    rw [magnitude, if_pos isZero.1, isZero.2]
    simp
  rw [← zero, magnitude_lt_iff, low_eq_zero_iff.mpr format.isZero_zero]
  exact Nat.pos_of_ne_zero fun none => nonZero (low_eq_zero_iff.mp none)

/-- Both zeroes denote zero. -/
theorem value_of_isZero (zero : format.IsZero pattern) : format.value pattern = 0 := by
  have none : format.magnitude pattern = 0 := by
    rw [magnitude, if_pos zero.1, zero.2]
    simp
  rw [value, none, neg_zero, ite_self]

/-- A zero without its sign. -/
def Signless (format : FloatFormat) (pattern : format.Pattern) : Prop :=
  format.IsZero pattern → pattern = 0

/-- Where zero has lost its sign, a pattern with the sign bit set is not zero. -/
theorem not_isZero_of_msb (signless : format.Signless pattern) (negative : pattern.msb = true) :
    ¬format.IsZero pattern := by
  intro zero
  rw [signless zero] at negative
  simp at negative

/-- Among patterns without a negative zero, keys are ordered as numbers are. -/
theorem totalKey_lt_iff (interchange : format.IsInterchange)
    (signlessLeft : format.Signless left) :
    format.totalKey left < format.totalKey right ↔ format.value left < format.value right := by
  have nonnegLeft := magnitude_nonneg left
  have nonnegRight := magnitude_nonneg right
  cases signLeft : left.msb with
  | false =>
      rw [totalKey_of_not_msb interchange signLeft, value, if_neg (by simp [signLeft])]
      cases signRight : right.msb with
      | false =>
          rw [totalKey_of_not_msb interchange signRight, value, if_neg (by simp [signRight]),
            magnitude_lt_iff, Nat.cast_lt]
      | true =>
          rw [totalKey_of_msb interchange signRight, value, if_pos signRight]
          constructor
          · intro less
            omega
          · intro less
            exact absurd less (by linarith)
  | true =>
      have positive := magnitude_pos (not_isZero_of_msb signlessLeft signLeft)
      rw [totalKey_of_msb interchange signLeft, value, if_pos signLeft]
      cases signRight : right.msb with
      | false =>
          rw [totalKey_of_not_msb interchange signRight, value, if_neg (by simp [signRight])]
          constructor
          · intro _
            linarith
          · intro _
            omega
      | true =>
          rw [totalKey_of_msb interchange signRight, value, if_pos signRight, neg_lt_neg_iff,
            magnitude_lt_iff]
          omega

/-- Among patterns without a negative zero, the total order is that of the numbers. -/
theorem totalCmp_eq_compare_value (interchange : format.IsInterchange)
    (signlessLeft : format.Signless left) (signlessRight : format.Signless right) :
    format.totalCmp left right = compare (format.value left) (format.value right) := by
  have less : format.totalKey left < format.totalKey right ↔ _ :=
    totalKey_lt_iff interchange signlessLeft
  have more : format.totalKey right < format.totalKey left ↔ _ :=
    totalKey_lt_iff interchange signlessRight
  unfold totalCmp
  rcases Int.lt_trichotomy (format.totalKey left) (format.totalKey right) with
    below | same | above
  · rw [compare_lt_iff_lt.mpr below, compare_lt_iff_lt.mpr (less.mp below)]
  · obtain rfl := totalKey_injective interchange same
    rw [compare_eq_iff_eq.mpr rfl, compare_eq_iff_eq.mpr rfl]
  · rw [compare_gt_iff_gt.mpr above, compare_gt_iff_gt.mpr (more.mp above)]

end Value

end FloatFormat

end Foundation
