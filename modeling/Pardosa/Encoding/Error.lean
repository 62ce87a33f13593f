import Pardosa.Foundation.Bytes

/-!
# Decoding and encoding errors

The closed error vocabularies of the wire layer, with the text each error
shows when it is quoted inside a diagnostic (the source prints both with their
debug form).
-/

namespace Pardosa

open Foundation

/-- Closed vocabulary of value constraints for value-decoding failures. -/
inductive ValueConstraint where
  | tooLong
  | empty
  | notReal
  | invalidChar
  | invalidUtf8
deriving DecidableEq, Repr

/-- Text of a constraint inside a diagnostic. -/
def ValueConstraint.display : ValueConstraint → String
  | .tooLong => "TooLong"
  | .empty => "Empty"
  | .notReal => "NotReal"
  | .invalidChar => "InvalidChar"
  | .invalidUtf8 => "InvalidUtf8"

/-- Errors occurring during decoding of container, envelope, or payload bytes. -/
inductive DecodeError where
  | invalidMagic
  | unsupportedFormatVersion (version : Nat)
  | checksumMismatch (computed recorded : UInt32)
  | truncatedPayload (expected available : Nat)
  | truncatedHeader (expected available : Nat)
  | invalidBooleanDiscriminant (value : UInt8)
  | invalidBoolean (value : UInt8)
  | lengthExceeded (length max : Nat)
  | emptyNonEmptyString
  | invalidUtf8
  | itemCountExceeded (count max : Nat)
  | invalidOptionTag (tag : UInt8)
  | unknownVariantDiscriminant (discriminant : Nat)
  | invalidTimestampSentinel
  | unknownRecordTag (tag : UInt8)
  | unknownConstructorTag (tag : UInt8)
  | unknownPartitioningRuleTag (tag : UInt8)
  | invalidMigrationStatus (status : UInt8)
  | invalidRescuePolicy (tag : UInt8)
  | invalidDiscriminantWidth (width : UInt8)
  | cycleDetected (typeName : String)
  | unterminatedDescriptor
  | valueConstraintViolated (constraint : ValueConstraint)
  | custom (message : String)
deriving DecidableEq, Repr

/-- Errors occurring during encoding. -/
inductive EncodeError where
  | lengthExceeded (length max : Nat)
  | emptyNonEmptyString
  | invalidTimestampSentinel
  | itemCountExceeded (count max : Nat)
  | depthExceeded (depth max : Nat)
  | checksumMismatch (computed recorded : UInt32)
  | custom (message : String)
deriving DecidableEq, Repr

/-- The debug form of a constructor with named fields. -/
def debugFields (name : String) (fields : List (String × String)) : String :=
  name ++ " \x7b " ++ ", ".intercalate (fields.map fun field => field.1 ++ ": " ++ field.2) ++
    " \x7d"

/-- Text of a decoding error inside a diagnostic. -/
def DecodeError.display : DecodeError → String
  | .invalidMagic => "InvalidMagic"
  | .unsupportedFormatVersion version =>
      debugFields "UnsupportedFormatVersion" [("version", toString version)]
  | .checksumMismatch computed recorded =>
      debugFields "ChecksumMismatch"
        [("computed", toString computed), ("recorded", toString recorded)]
  | .truncatedPayload expected available =>
      debugFields "TruncatedPayload"
        [("expected", toString expected), ("available", toString available)]
  | .truncatedHeader expected available =>
      debugFields "TruncatedHeader"
        [("expected", toString expected), ("available", toString available)]
  | .invalidBooleanDiscriminant value =>
      debugFields "InvalidBooleanDiscriminant" [("value", toString value)]
  | .invalidBoolean value => debugFields "InvalidBoolean" [("value", toString value)]
  | .lengthExceeded length max =>
      debugFields "LengthExceeded" [("length", toString length), ("max", toString max)]
  | .emptyNonEmptyString => "EmptyNonEmptyString"
  | .invalidUtf8 => "InvalidUtf8"
  | .itemCountExceeded count max =>
      debugFields "ItemCountExceeded" [("count", toString count), ("max", toString max)]
  | .invalidOptionTag tag => debugFields "InvalidOptionTag" [("tag", toString tag)]
  | .unknownVariantDiscriminant discriminant =>
      debugFields "UnknownVariantDiscriminant" [("discriminant", toString discriminant)]
  | .invalidTimestampSentinel => "InvalidTimestampSentinel"
  | .unknownRecordTag tag => debugFields "UnknownRecordTag" [("tag", toString tag)]
  | .unknownConstructorTag tag => debugFields "UnknownConstructorTag" [("tag", toString tag)]
  | .unknownPartitioningRuleTag tag =>
      debugFields "UnknownPartitioningRuleTag" [("tag", toString tag)]
  | .invalidMigrationStatus status =>
      debugFields "InvalidMigrationStatus" [("status", toString status)]
  | .invalidRescuePolicy tag => debugFields "InvalidRescuePolicy" [("tag", toString tag)]
  | .invalidDiscriminantWidth width =>
      debugFields "InvalidDiscriminantWidth" [("width", toString width)]
  | .cycleDetected typeName => debugFields "CycleDetected" [("type_name", typeName.quote)]
  | .unterminatedDescriptor => "UnterminatedDescriptor"
  | .valueConstraintViolated constraint =>
      debugFields "ValueConstraintViolated" [("constraint", constraint.display)]
  | .custom message => "Custom(" ++ message.quote ++ ")"

/-- Text of an encoding error inside a diagnostic. -/
def EncodeError.display : EncodeError → String
  | .lengthExceeded length max =>
      debugFields "LengthExceeded" [("length", toString length), ("max", toString max)]
  | .emptyNonEmptyString => "EmptyNonEmptyString"
  | .invalidTimestampSentinel => "InvalidTimestampSentinel"
  | .itemCountExceeded count max =>
      debugFields "ItemCountExceeded" [("count", toString count), ("max", toString max)]
  | .depthExceeded depth max =>
      debugFields "DepthExceeded" [("depth", toString depth), ("max", toString max)]
  | .checksumMismatch computed recorded =>
      debugFields "ChecksumMismatch"
        [("computed", toString computed), ("recorded", toString recorded)]
  | .custom message => "Custom(" ++ message.quote ++ ")"

/-- The largest length a `u32` length field can carry. -/
def u32Max : Nat := 2 ^ 32 - 1

/-- The largest value of a `u64`, and of a `usize` on the supported targets. -/
def u64Max : Nat := 2 ^ 64 - 1

/-- A `u32` is within its range. -/
theorem toNat_le_u32Max (value : UInt32) : value.toNat ≤ u32Max := by
  have bounded := value.toNat_lt
  unfold u32Max
  omega

/-- Addition that fails when the sum leaves the range of a `u64`. -/
def checkedAdd (left right : Nat) : Option Nat :=
  if left + right ≤ u64Max then some (left + right) else none

/-- A sum that fits is what the checked addition answers. -/
theorem checkedAdd_eq {left right : Nat} (fits : left + right ≤ u64Max) :
    checkedAdd left right = some (left + right) := if_pos fits

/-- What the checked addition answers is the sum. -/
theorem checkedAdd_eq_some {left right total : Nat} (added : checkedAdd left right = some total) :
    total = left + right := by
  unfold checkedAdd at added
  split at added
  · cases added
    rfl
  · cases added

/-- A length field of four bytes leaves room for a fixed part in a `u64`. -/
theorem le_u64Max_of_le_u32Max {value : Nat} (fits : value ≤ u32Max) : value + 85 ≤ u64Max := by
  unfold u32Max at fits
  unfold u64Max
  omega

/-- Addition that stops at the largest `u64`. -/
def saturatingAdd (left right : Nat) : Nat := min (left + right) u64Max

end Pardosa
