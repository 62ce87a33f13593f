import Mathlib.Algebra.Group.Nat.Defs
import Mathlib.Data.Nat.Init
import Mathlib.Tactic.Common

/-!
# Binary floating-point formats

The classification of the bit patterns of a binary interchange format, by the exponent and
the fraction. Nothing here rounds or computes.
-/

namespace Foundation

/-- A binary interchange format: its width in bytes and the widths of its fields in bits. -/
structure FloatFormat where
  bytes : Nat
  exponentBits : Nat
  fractionBits : Nat
  hasExponent : 0 < exponentBits
deriving DecidableEq

namespace FloatFormat

/-- The format of an `f32`. -/
def binary32 : FloatFormat := ⟨4, 8, 23, by decide⟩

/-- The format of an `f64`. -/
def binary64 : FloatFormat := ⟨8, 11, 52, by decide⟩

variable (format : FloatFormat)

/-- The bit patterns of a format. -/
abbrev Pattern := BitVec (8 * format.bytes)

/-- The exponent field. -/
def exponent (pattern : format.Pattern) : Nat :=
  pattern.toNat / 2 ^ format.fractionBits % 2 ^ format.exponentBits

/-- The fraction field. -/
def fraction (pattern : format.Pattern) : Nat := pattern.toNat % 2 ^ format.fractionBits

/-- The exponent that marks infinities and NaNs. -/
def topExponent : Nat := 2 ^ format.exponentBits - 1

def IsNan (pattern : format.Pattern) : Prop :=
  format.exponent pattern = format.topExponent ∧ format.fraction pattern ≠ 0
deriving Decidable

def IsInfinite (pattern : format.Pattern) : Prop :=
  format.exponent pattern = format.topExponent ∧ format.fraction pattern = 0
deriving Decidable

def IsSubnormal (pattern : format.Pattern) : Prop :=
  format.exponent pattern = 0 ∧ format.fraction pattern ≠ 0
deriving Decidable

/-- Whether a pattern is a zero, of either sign. -/
def IsZero (pattern : format.Pattern) : Prop :=
  format.exponent pattern = 0 ∧ format.fraction pattern = 0
deriving Decidable

/-- A finite pattern that is not subnormal. -/
def IsReal (pattern : format.Pattern) : Prop :=
  ¬format.IsNan pattern ∧ ¬format.IsInfinite pattern ∧ ¬format.IsSubnormal pattern
deriving Decidable

/-- The pattern of all zeroes is the positive zero. -/
theorem isZero_zero : format.IsZero 0 := by
  simp [IsZero, exponent, fraction]

/-- The pattern of zeroes stands for a number. -/
theorem isReal_zero : format.IsReal 0 := by
  have exponent : format.exponent 0 = 0 := format.isZero_zero.1
  have fraction : format.fraction 0 = 0 := format.isZero_zero.2
  have wide : 2 ^ 1 ≤ 2 ^ format.exponentBits :=
    Nat.pow_le_pow_right (by decide) format.hasExponent
  refine ⟨fun nan => nan.2 fraction, fun infinite => ?_, fun subnormal => subnormal.2 fraction⟩
  have top := infinite.1
  rw [exponent, topExponent] at top
  omega

end FloatFormat

end Foundation
