import Pardosa.Foundation.Outcome
import Pardosa.Encoding.Envelope

/-!
# Ownership records

The nine record kinds of an artefact's ownership log and their wire form: one
tag byte, fixed little-endian fields, and for some kinds a length-prefixed
part. A variable-length field carries the bound its length prefix needs, so
encoding is total.
-/

namespace Pardosa

open Foundation

/-- A text whose UTF-8 form fits a `u32` length prefix. -/
abbrev WireText := { text : String // (utf8Bytes text).length ≤ u32Max }

/-- Bytes that fit a `u32` length prefix. -/
abbrev WireBytes := { bytes : Bytes // bytes.length ≤ u32Max }

/-- Partitioning rule algorithms for identity structure. -/
inductive PartitioningRule where
  | staticModulo (totalDraglines : UInt32)
  | consistentHash (hashSeed : UInt64) (virtualNodeCount : UInt32)
deriving DecidableEq

/-- Completion status for a migration end record. -/
inductive MigrationStatus where
  | complete
  | interrupted
deriving DecidableEq, Repr

/-- Kind 0x01: ownership claim. -/
structure OwnershipClaimRecord where
  epoch : UInt64
  machineId : Id
  bootId : Id
  processId : UInt64
  processStartTimeNs : UInt64
  claimTimeNs : UInt64
  operatorLabel : WireText
deriving DecidableEq

/-- Kind 0x02: clean release. -/
structure CleanReleaseRecord where
  epoch : UInt64
  releaseTimeNs : UInt64
deriving DecidableEq

/-- Kind 0x03: migration start. -/
structure MigrationStartRecord where
  sourceGeneration : UInt32
  targetGeneration : UInt32
  startTimeNs : UInt64
  rescuePolicyTag : UInt8
deriving DecidableEq

/-- Kind 0x04: migration end. -/
structure MigrationEndRecord where
  sourceGeneration : UInt32
  targetGeneration : UInt32
  endTimeNs : UInt64
  status : MigrationStatus
deriving DecidableEq

/-- Kind 0x05: inbound pointer. -/
structure InboundPointerRecord where
  priorGenerationLocatorId : Id
  priorGenerationEpoch : UInt64
deriving DecidableEq

/-- Kind 0x06: outbound pointer. -/
structure OutboundPointerRecord where
  nextGenerationLocatorId : Id
  cutoverEpoch : UInt64
deriving DecidableEq

/-- Kind 0x07: rescue policy choice. -/
structure RescuePolicyChoiceRecord where
  policyTag : UInt8
  parameterPayload : WireBytes
deriving DecidableEq

/-- Kind 0x08: identity structure. -/
structure IdentityStructureRecord where
  datasetId : Id
  structureVersion : UInt32
  draglineId : UInt32
  partitioningRule : PartitioningRule
deriving DecidableEq

/-- The nine kinds of ownership records. -/
inductive OwnershipRecord where
  | ownershipClaim (record : OwnershipClaimRecord)
  | cleanRelease (record : CleanReleaseRecord)
  | migrationStart (record : MigrationStartRecord)
  | migrationEnd (record : MigrationEndRecord)
  | inboundPointer (record : InboundPointerRecord)
  | outboundPointer (record : OutboundPointerRecord)
  | rescuePolicyChoice (record : RescuePolicyChoiceRecord)
  | identityStructure (record : IdentityStructureRecord)
  | schemaDescriptor (schemaVersion : UInt32) (descriptorBytes : Bytes)
deriving DecidableEq

namespace PartitioningRule

/-- Tag, parameter length and parameters of a rule. -/
def encode : PartitioningRule → Bytes
  | .staticModulo totalDraglines => 0x01 :: (writeU32 4 ++ writeU32 totalDraglines)
  | .consistentHash hashSeed virtualNodeCount =>
      0x02 :: (writeU32 12 ++ (writeU64 hashSeed ++ writeU32 virtualNodeCount))

/-- Decodes a partitioning rule. -/
def decode (buf : Bytes) : Except DecodeError (PartitioningRule × Nat) := do
  if buf.length < 5 then
    throw (.truncatedPayload 5 buf.length)
  let tag := buf.headD 0
  match checkedAdd 5 (readU32 buf 1).toNat with
  | none => throw (.valueConstraintViolated .tooLong)
  | some totalConsumed =>
      if buf.length < totalConsumed then
        throw (.truncatedPayload totalConsumed buf.length)
      let paramBytes := (buf.take totalConsumed).drop 5
      match tag with
      | 0x01 =>
          if paramBytes.length < 4 then
            throw (.truncatedPayload 4 paramBytes.length)
          return (.staticModulo (readU32 paramBytes 0), totalConsumed)
      | 0x02 =>
          if paramBytes.length < 12 then
            throw (.truncatedPayload 12 paramBytes.length)
          return (.consistentHash (readU64 paramBytes 0) (readU32 paramBytes 8), totalConsumed)
      | other => throw (.unknownPartitioningRuleTag other)

end PartitioningRule

namespace MigrationStatus

/-- The byte of a status. -/
def toU8 : MigrationStatus → UInt8
  | .complete => 0x01
  | .interrupted => 0x02

/-- The status of a byte. -/
def fromU8 : UInt8 → Except DecodeError MigrationStatus
  | 0x01 => .ok .complete
  | 0x02 => .ok .interrupted
  | other => .error (.invalidMigrationStatus other)

end MigrationStatus

namespace OwnershipRecord

/-- The wire tag of a record kind. -/
def wireTag : OwnershipRecord → UInt8
  | .ownershipClaim _ => 0x01
  | .cleanRelease _ => 0x02
  | .migrationStart _ => 0x03
  | .migrationEnd _ => 0x04
  | .inboundPointer _ => 0x05
  | .outboundPointer _ => 0x06
  | .rescuePolicyChoice _ => 0x07
  | .identityStructure _ => 0x08
  | .schemaDescriptor _ _ => 0x09

/-- The fields behind the tag. -/
def encodeFields : OwnershipRecord → Bytes
  | .ownershipClaim c =>
      writeU64 c.epoch ++ (c.machineId.val ++ (c.bootId.val ++ (writeU64 c.processId ++
        (writeU64 c.processStartTimeNs ++ (writeU64 c.claimTimeNs ++
          (leBytes 4 (utf8Bytes c.operatorLabel.val).length ++ utf8Bytes c.operatorLabel.val))))))
  | .cleanRelease r => writeU64 r.epoch ++ writeU64 r.releaseTimeNs
  | .migrationStart m =>
      writeU32 m.sourceGeneration ++ (writeU32 m.targetGeneration ++
        (writeU64 m.startTimeNs ++ [m.rescuePolicyTag]))
  | .migrationEnd m =>
      writeU32 m.sourceGeneration ++ (writeU32 m.targetGeneration ++
        (writeU64 m.endTimeNs ++ [m.status.toU8]))
  | .inboundPointer p => p.priorGenerationLocatorId.val ++ writeU64 p.priorGenerationEpoch
  | .outboundPointer p => p.nextGenerationLocatorId.val ++ writeU64 p.cutoverEpoch
  | .rescuePolicyChoice p =>
      p.policyTag :: (leBytes 4 p.parameterPayload.val.length ++ p.parameterPayload.val)
  | .identityStructure ids =>
      ids.datasetId.val ++ (writeU32 ids.structureVersion ++ (writeU32 ids.draglineId ++
        ids.partitioningRule.encode))
  | .schemaDescriptor schemaVersion descriptorBytes => writeU32 schemaVersion ++ descriptorBytes

/-- The wire form of a record. -/
def encode (record : OwnershipRecord) : Bytes := record.wireTag :: record.encodeFields

/-- The label of a claim, of the byte length its own prefix states. -/
def decodeLabel (buf : Bytes) (labelLen : UInt32) : Except DecodeError WireText :=
  match decoded : decodeUtf8 ((buf.drop 69).take labelLen.toNat) with
  | none => .error .invalidUtf8
  | some text => .ok ⟨text, by
      have bounded := labelLen.toNat_lt
      rw [utf8Bytes_of_decodeUtf8 decoded, List.length_take, u32Max]
      omega⟩

/-- Decodes an ownership record. -/
def decode (buf : Bytes) : Except DecodeError (OwnershipRecord × Nat) :=
  match buf with
  | [] => .error (.truncatedPayload 1 0)
  | 0x01 :: _ =>
      if short : buf.length < 69 then .error (.truncatedPayload 69 buf.length)
      else do
        let labelLen := readU32 buf 65
        match (checkedAdd 65 4).bind (checkedAdd · labelLen.toNat) with
        | none => throw (.valueConstraintViolated .tooLong)
        | some totalLen =>
            if buf.length < totalLen then
              throw (.truncatedPayload totalLen buf.length)
            let operatorLabel ← decodeLabel buf labelLen
            return (.ownershipClaim {
              epoch := readU64 buf 1
              machineId := slice buf 9 16 (by omega)
              bootId := slice buf 25 16 (by omega)
              processId := readU64 buf 41
              processStartTimeNs := readU64 buf 49
              claimTimeNs := readU64 buf 57
              operatorLabel }, totalLen)
  | 0x02 :: _ =>
      if buf.length < 17 then .error (.truncatedPayload 17 buf.length)
      else .ok (.cleanRelease ⟨readU64 buf 1, readU64 buf 9⟩, 17)
  | 0x03 :: _ =>
      if short : buf.length < 18 then .error (.truncatedPayload 18 buf.length)
      else .ok (.migrationStart ⟨readU32 buf 1, readU32 buf 5, readU64 buf 9, buf[17]⟩, 18)
  | 0x04 :: _ =>
      if short : buf.length < 18 then .error (.truncatedPayload 18 buf.length)
      else do
        let status ← MigrationStatus.fromU8 buf[17]
        return (.migrationEnd ⟨readU32 buf 1, readU32 buf 5, readU64 buf 9, status⟩, 18)
  | 0x05 :: _ =>
      if short : buf.length < 25 then .error (.truncatedPayload 25 buf.length)
      else .ok (.inboundPointer ⟨slice buf 1 16 (by omega), readU64 buf 17⟩, 25)
  | 0x06 :: _ =>
      if short : buf.length < 25 then .error (.truncatedPayload 25 buf.length)
      else .ok (.outboundPointer ⟨slice buf 1 16 (by omega), readU64 buf 17⟩, 25)
  | 0x07 :: _ =>
      if short : buf.length < 6 then .error (.truncatedPayload 6 buf.length)
      else
        let paramLen := readU32 buf 2
        match checkedAdd 6 paramLen.toNat with
        | none => .error (.valueConstraintViolated .tooLong)
        | some totalLen =>
            if buf.length < totalLen then .error (.truncatedPayload totalLen buf.length)
            else .ok (.rescuePolicyChoice ⟨buf[1], (buf.drop 6).take paramLen.toNat, by
              have bounded := paramLen.toNat_lt
              rw [List.length_take, u32Max]
              omega⟩, totalLen)
  | 0x08 :: _ =>
      if short : buf.length < 25 then .error (.truncatedPayload 25 buf.length)
      else do
        let (partitioningRule, ruleConsumed) ← PartitioningRule.decode (buf.drop 25)
        match checkedAdd 25 ruleConsumed with
        | none => throw (.valueConstraintViolated .tooLong)
        | some totalLen =>
            return (.identityStructure ⟨slice buf 1 16 (by omega), readU32 buf 17, readU32 buf 21,
              partitioningRule⟩, totalLen)
  | 0x09 :: _ =>
      if buf.length < 5 then .error (.truncatedPayload 5 buf.length)
      else .ok (.schemaDescriptor (readU32 buf 1) (buf.drop 5), buf.length)
  | other :: _ => .error (.unknownRecordTag other)

/-- The label of a claim is read back from its bytes. -/
theorem decodeLabel_eq {buf : Bytes} {labelLen : UInt32} (label : WireText)
    (field : (buf.drop 69).take labelLen.toNat = utf8Bytes label.val) :
    decodeLabel buf labelLen = .ok label := by
  have decoded : decodeUtf8 ((buf.drop 69).take labelLen.toNat) = some label.val := by
    rw [field, decodeUtf8_utf8Bytes]
  unfold decodeLabel
  split
  · rename_i missing
    rw [decoded] at missing
    cases missing
  · rename_i text found
    rw [decoded] at found
    cases found
    rfl

/-- A claim takes 69 bytes and its label. -/
theorem length_encode_ownershipClaim (claim : OwnershipClaimRecord) :
    (ownershipClaim claim).encode.length = 69 + (utf8Bytes claim.operatorLabel.val).length := by
  simp [encode, encodeFields, claim.machineId.property, claim.bootId.property]
  omega

/-- A schema descriptor record takes everything up to the end of its frame. -/
theorem decode_encode_schemaDescriptor (schemaVersion : UInt32) (descriptorBytes : Bytes) :
    decode (schemaDescriptor schemaVersion descriptorBytes).encode =
      .ok (.schemaDescriptor schemaVersion descriptorBytes,
        (schemaDescriptor schemaVersion descriptorBytes).encode.length) := by
  have version : readU32 (0x09 :: (writeU32 schemaVersion ++ descriptorBytes)) 1 = schemaVersion :=
    readU32_eq [0x09] descriptorBytes schemaVersion rfl rfl
  have tree : (0x09 :: (writeU32 schemaVersion ++ descriptorBytes) : Bytes).drop 5 =
      descriptorBytes := by
    rw [List.drop_succ_cons]
    exact List.drop_left' (length_writeU32 _)
  have layout : (schemaDescriptor schemaVersion descriptorBytes).encode =
      0x09 :: (writeU32 schemaVersion ++ descriptorBytes) := rfl
  rw [layout]
  simp only [decode]
  rw [if_neg (by simp), version, tree]

end OwnershipRecord

end Pardosa
