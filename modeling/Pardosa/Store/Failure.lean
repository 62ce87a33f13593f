import Pardosa.Encoding.Error

/-!
# Operation failures and landing verdicts

Every operation of the store ends in a value or in a failure that carries one
named condition and a diagnostic text. A write has a third outcome: whether it
landed may be undetermined.
-/

namespace Pardosa

/-- Closed precursor-walk error sub-domain. -/
inductive CausalChainError where
  | precursorOutOfRange
  | precursorWrongFiber
deriving DecidableEq, Repr

/-- Closed enumeration of operation failure conditions. -/
inductive FailureCondition where
  | storeAlreadyExists
  | noArtefactExists
  | concurrencyConflict
  | staleEpoch
  | ownershipUnestablished
  | ownershipRecordUnreadable
  | exclusionUnavailable
  | anotherOwnerHoldsExclusion
  | migrationExclusionAbsent
  | migrationAlreadyRunning
  | precursorChainBroken (cause : Option CausalChainError)
  | uncoveredPartitionMembership
  | schemaMismatch
  | envelopeMismatch
  | mismatchUndeterminedSubject
  | artefactMismatch
  | valueConstraintViolated (constraint : ValueConstraint)
  | unrecognisedWireTag (tag : UInt8)
  | invariantBreakingConfiguration
  | missingSchemaDescriptor
  | transformationRefused
  | retiredMigrationSource
  | transportUnavailable
deriving DecidableEq, Repr

/-- Two lower-case hexadecimal digits of a byte. -/
def hexByte (byte : UInt8) : String :=
  String.ofList [Nat.digitChar (byte.toNat / 16), Nat.digitChar (byte.toNat % 16)]

def CausalChainError.display : CausalChainError → String
  | .precursorOutOfRange => "precursor event ID is outside the artefact"
  | .precursorWrongFiber => "precursor event belongs to another fiber"

/-- Text of a failure condition. -/
def FailureCondition.display : FailureCondition → String
  | .storeAlreadyExists => "store already exists"
  | .noArtefactExists => "no artefact exists on open"
  | .concurrencyConflict => "concurrency conflict on claim compare-and-set"
  | .staleEpoch => "stale-epoch write rejection"
  | .ownershipUnestablished => "ownership cannot be established on write open"
  | .ownershipRecordUnreadable => "ownership record unreadable while fencing"
  | .exclusionUnavailable => "required exclusion mechanism is unavailable"
  | .anotherOwnerHoldsExclusion => "another owner holds the required exclusion"
  | .migrationExclusionAbsent => "migration started without target exclusion"
  | .migrationAlreadyRunning => "concurrent migration already running"
  | .precursorChainBroken (some cause) => "precursor chain broken: " ++ cause.display
  | .precursorChainBroken none => "precursor chain broken"
  | .uncoveredPartitionMembership => "uncovered partition membership"
  | .schemaMismatch => "schema payload descriptor mismatch"
  | .envelopeMismatch => "envelope header shape mismatch"
  | .mismatchUndeterminedSubject => "mismatch established with undetermined subject"
  | .artefactMismatch => "artefact pair mismatch"
  | .valueConstraintViolated constraint => "value constraint violated: " ++ constraint.display
  | .unrecognisedWireTag tag => "unrecognised wire tag: 0x" ++ hexByte tag
  | .invariantBreakingConfiguration => "invariant-breaking open configuration"
  | .missingSchemaDescriptor => "missing schema descriptor"
  | .transformationRefused => "caller payload transformation refused"
  | .retiredMigrationSource => "append to retired migration source rejected"
  | .transportUnavailable => "underlying storage transport unavailable or timed out"

/-- A discovered break of a precursor chain, with or without a named cause. -/
def FailureCondition.isChainBreak : FailureCondition → Bool
  | .precursorChainBroken _ => true
  | _ => false

/-- Failure carrying a named condition and diagnostic detail. The typed backend
source the original also keeps is not part of its equality and is left out. -/
structure OperationFailure where
  condition : FailureCondition
  diagnosticDetail : String
deriving DecidableEq, Repr

def OperationFailure.display (failure : OperationFailure) : String :=
  failure.condition.display ++ ": " ++ failure.diagnosticDetail

/-- Outcome of a write: landed, or neither success nor failure. -/
inductive WriteLandingVerdict (α : Type) where
  | landed (value : α)
  | undetermined (carriedEpoch : UInt64)
deriving DecidableEq, Repr

end Pardosa
