import Pardosa.Foundation.Layout
import Pardosa.Encoding.OwnershipRecord

/-!
# The grammar of ownership records

Every record that is written is read back, whatever follows it. The converse holds
except where the decoder leaves a check out: it keeps the rescue policy tags of
migration starts and policy choices without looking at them, and it lets the parameters
of a partitioning rule be longer than the rule needs.
-/

namespace Pardosa

open Foundation

namespace PartitioningRule

/-- A rule is read back, whatever follows it. -/
theorem decode_encode (rule : PartitioningRule) (after : Bytes) :
    decode (rule.encode ++ after) = .ok (rule, rule.encode.length) := by
  cases rule with
  | staticModulo totalDraglines =>
      generalize layout : (staticModulo totalDraglines).encode ++ after = buf
      have stands : Stands buf 0 ([0x01] ++ (writeU32 4 ++ writeU32 totalDraglines)) 9 :=
        layout ▸ Stands.start _ after
      have enough := stands.le_length (Nat.zero_le _)
      obtain ⟨tagAt, rest⟩ := stands.split 1 rfl
      obtain ⟨lengthAt, paramsAt⟩ := rest.split 5 rfl
      have tag : buf.headD 0 = 0x01 := by rw [← layout]; rfl
      have value : readU32 (writeU32 totalDraglines) 0 = totalDraglines :=
        Foundation.readU32_eq [] [] totalDraglines (by simp) rfl
      have total : checkedAdd 5 (4 : UInt32).toNat = some 9 := rfl
      unfold decode
      rw [if_neg (by omega), lengthAt.readU32_eq, total, tag]
      simp only [paramsAt.drop_take_eq, value]
      rw [if_neg (by omega), if_neg (by simp)]
      rfl
  | consistentHash hashSeed virtualNodeCount =>
      generalize layout : (consistentHash hashSeed virtualNodeCount).encode ++ after = buf
      have stands : Stands buf 0 ([0x02] ++ (writeU32 12 ++ (writeU64 hashSeed ++
          writeU32 virtualNodeCount))) 17 := layout ▸ Stands.start _ after
      have enough := stands.le_length (Nat.zero_le _)
      obtain ⟨tagAt, rest⟩ := stands.split 1 rfl
      obtain ⟨lengthAt, paramsAt⟩ := rest.split 5 rfl
      have tag : buf.headD 0 = 0x02 := by rw [← layout]; rfl
      have seed : readU64 (writeU64 hashSeed ++ writeU32 virtualNodeCount) 0 = hashSeed :=
        Foundation.readU64_eq [] _ hashSeed rfl rfl
      have nodes : readU32 (writeU64 hashSeed ++ writeU32 virtualNodeCount) 8 = virtualNodeCount :=
        Foundation.readU32_eq (writeU64 hashSeed) [] virtualNodeCount (by simp) (by simp)
      have total : checkedAdd 5 (12 : UInt32).toNat = some 17 := rfl
      unfold decode
      rw [if_neg (by omega), lengthAt.readU32_eq, total, tag]
      simp only [paramsAt.drop_take_eq, seed, nodes]
      rw [if_neg (by omega), if_neg (by simp)]
      rfl

end PartitioningRule

namespace OwnershipRecord

/-- The kinds that say where they end: all but the schema descriptor, which takes
everything up to the end of its frame. -/
def CarriesLength : OwnershipRecord → Prop
  | .schemaDescriptor _ _ => False
  | _ => True

/-- The fields of a record stand behind its tag. -/
theorem fields_stand (record : OwnershipRecord) (after : Bytes) :
    Stands (record.wireTag :: (record.encodeFields ++ after)) 1 record.encodeFields
      record.encode.length := by
  have stands := Stands.start ([record.wireTag] ++ record.encodeFields) after
  exact (stands.split 1 rfl).2

section RoundTrip

variable {tail : Bytes}

/-- A claim is read from where its fields stand. -/
theorem decode_ownershipClaim {claim : OwnershipClaimRecord} {after : Nat}
    (fields : Stands (0x01 :: tail) 1 (ownershipClaim claim).encodeFields after) :
    decode (0x01 :: tail) = .ok (.ownershipClaim claim, after) := by
  obtain ⟨epoch, machineId, bootId, processId, startTime, claimTime, label⟩ := claim
  have small : (utf8Bytes label.val).length < 256 ^ 4 := by
    have fits := label.property
    unfold u32Max at fits
    omega
  have whole := fields.le_length (by simp)
  obtain ⟨epochAt, rest⟩ := fields.split 9 rfl
  obtain ⟨machineAt, rest⟩ := rest.split 25 (by rw [machineId.property])
  obtain ⟨bootAt, rest⟩ := rest.split 41 (by rw [bootId.property])
  obtain ⟨processAt, rest⟩ := rest.split 49 rfl
  obtain ⟨startAt, rest⟩ := rest.split 57 rfl
  obtain ⟨claimAt, rest⟩ := rest.split 65 rfl
  obtain ⟨lenAt, labelAt⟩ := rest.split 69 rfl
  obtain rfl := labelAt.length
  have inside : 69 + (utf8Bytes label.val).length ≤ (0x01 :: tail).length := whole
  have len := lenAt.readU32_toNat_eq small
  have text : ((0x01 :: tail).drop 69).take (readU32 (0x01 :: tail) 65).toNat =
      utf8Bytes label.val := by
    rw [len]
    exact labelAt.take_drop_eq
  have range : (checkedAdd 65 4).bind (checkedAdd · (readU32 (0x01 :: tail) 65).toNat) =
      some (69 + (utf8Bytes label.val).length) := by
    rw [len]
    exact checkedAdd_eq (by unfold u64Max; omega)
  have machine (fits) : slice (0x01 :: tail) 9 16 fits = machineId := machineAt.slice_eq
  have boot (fits) : slice (0x01 :: tail) 25 16 fits = bootId := bootAt.slice_eq
  simp only [decode, range, decodeLabel_eq label text, epochAt.readU64_eq, machine, boot,
    processAt.readU64_eq, startAt.readU64_eq, claimAt.readU64_eq, ok_bind]
  rw [dif_neg (by omega), if_neg (by omega)]
  rfl

/-- A release is read where its fields stand. -/
theorem decode_cleanRelease {release : CleanReleaseRecord} {after : Nat}
    (fields : Stands (0x02 :: tail) 1 (cleanRelease release).encodeFields after) :
    decode (0x02 :: tail) = .ok (.cleanRelease release, after) := by
  have enough := fields.le_length (by simp)
  obtain ⟨epochAt, timeAt⟩ := fields.split 9 rfl
  obtain rfl : after = 17 := timeAt.length
  simp only [decode, epochAt.readU64_eq, timeAt.readU64_eq]
  rw [if_neg (by omega)]

/-- The start of a migration is read where its fields stand. -/
theorem decode_migrationStart {start : MigrationStartRecord} {after : Nat}
    (fields : Stands (0x03 :: tail) 1 (migrationStart start).encodeFields after) :
    decode (0x03 :: tail) = .ok (.migrationStart start, after) := by
  have enough := fields.le_length (by simp)
  obtain ⟨sourceAt, rest⟩ := fields.split 5 rfl
  obtain ⟨targetAt, rest⟩ := rest.split 9 rfl
  obtain ⟨timeAt, tagAt⟩ := rest.split 17 rfl
  obtain rfl : after = 18 := tagAt.length
  simp only [decode, sourceAt.readU32_eq, targetAt.readU32_eq, timeAt.readU64_eq, tagAt.getElem_eq]
  rw [dif_neg (by omega)]

/-- A migration status survives being written as a byte. -/
theorem fromU8_toU8 (status : MigrationStatus) :
    MigrationStatus.fromU8 status.toU8 = .ok status := by
  cases status <;> rfl

/-- The end of a migration is read where its fields stand. -/
theorem decode_migrationEnd {done : MigrationEndRecord} {after : Nat}
    (fields : Stands (0x04 :: tail) 1 (migrationEnd done).encodeFields after) :
    decode (0x04 :: tail) = .ok (.migrationEnd done, after) := by
  have enough := fields.le_length (by simp)
  obtain ⟨sourceAt, rest⟩ := fields.split 5 rfl
  obtain ⟨targetAt, rest⟩ := rest.split 9 rfl
  obtain ⟨timeAt, statusAt⟩ := rest.split 17 rfl
  obtain rfl : after = 18 := statusAt.length
  simp only [decode, sourceAt.readU32_eq, targetAt.readU32_eq, timeAt.readU64_eq,
    statusAt.getElem_eq, fromU8_toU8, ok_bind]
  rw [dif_neg (by omega)]
  rfl

/-- A pointer to a predecessor is read where its fields stand. -/
theorem decode_inboundPointer {pointer : InboundPointerRecord} {after : Nat}
    (fields : Stands (0x05 :: tail) 1 (inboundPointer pointer).encodeFields after) :
    decode (0x05 :: tail) = .ok (.inboundPointer pointer, after) := by
  have enough := fields.le_length (by simp)
  obtain ⟨locatorAt, epochAt⟩ := fields.split 17 (by rw [pointer.priorGenerationLocatorId.property])
  obtain rfl : after = 25 := epochAt.length
  have locator (fits) : slice (0x05 :: tail) 1 16 fits = pointer.priorGenerationLocatorId :=
    locatorAt.slice_eq
  simp only [decode, locator, epochAt.readU64_eq]
  rw [dif_neg (by omega)]

/-- A pointer to a successor is read where its fields stand. -/
theorem decode_outboundPointer {pointer : OutboundPointerRecord} {after : Nat}
    (fields : Stands (0x06 :: tail) 1 (outboundPointer pointer).encodeFields after) :
    decode (0x06 :: tail) = .ok (.outboundPointer pointer, after) := by
  have enough := fields.le_length (by simp)
  obtain ⟨locatorAt, epochAt⟩ := fields.split 17 (by rw [pointer.nextGenerationLocatorId.property])
  obtain rfl : after = 25 := epochAt.length
  have locator (fits) : slice (0x06 :: tail) 1 16 fits = pointer.nextGenerationLocatorId :=
    locatorAt.slice_eq
  simp only [decode, locator, epochAt.readU64_eq]
  rw [dif_neg (by omega)]

/-- The choice of a rescue policy is read where its fields stand. -/
theorem decode_rescuePolicyChoice {choice : RescuePolicyChoiceRecord} {after : Nat}
    (fields : Stands (0x07 :: tail) 1 (rescuePolicyChoice choice).encodeFields after) :
    decode (0x07 :: tail) = .ok (.rescuePolicyChoice choice, after) := by
  obtain ⟨policyTag, params, sized⟩ := choice
  have small : params.length < 256 ^ 4 := by
    unfold u32Max at sized
    omega
  have inside := fields.le_length (by simp)
  have fields : Stands (0x07 :: tail) 1
    ([policyTag] ++ (leBytes 4 params.length ++ params)) after :=
    fields
  obtain ⟨tagAt, rest⟩ := fields.split 2 rfl
  obtain ⟨lenAt, paramsAt⟩ := rest.split 6 rfl
  obtain rfl := paramsAt.length
  have len := lenAt.readU32_toNat_eq small
  have bytes : ((0x07 :: tail).drop 6).take (readU32 (0x07 :: tail) 2).toNat = params := by
    rw [len]
    exact paramsAt.take_drop_eq
  have range : checkedAdd 6 (readU32 (0x07 :: tail) 2).toNat = some (6 + params.length) := by
    rw [len]
    exact checkedAdd_eq (by unfold u64Max; omega)
  simp only [decode, range, tagAt.getElem_eq, bytes]
  rw [dif_neg (by omega), if_neg (by omega)]

/-- The structure of an identity is read where its fields stand. -/
theorem decode_identityStructure {identity : IdentityStructureRecord} {after : Nat}
    (fields : Stands (0x08 :: tail) 1 (identityStructure identity).encodeFields after) :
    decode (0x08 :: tail) = .ok (.identityStructure identity, after) := by
  obtain ⟨datasetId, version, dragline, rule⟩ := identity
  have inside := fields.le_length (by simp)
  obtain ⟨datasetAt, rest⟩ := fields.split 17 (by rw [datasetId.property])
  obtain ⟨versionAt, rest⟩ := rest.split 21 rfl
  obtain ⟨draglineAt, ruleAt⟩ := rest.split 25 rfl
  obtain rfl : after = 25 + rule.encode.length := ruleAt.length
  obtain ⟨others, layout⟩ := ruleAt.layout
  have decoded : PartitioningRule.decode ((0x08 :: tail).drop 25) =
      .ok (rule, rule.encode.length) := by
    rw [← layout]
    exact PartitioningRule.decode_encode rule others
  have range : checkedAdd 25 rule.encode.length = some (25 + rule.encode.length) := by
    cases rule <;> rfl
  have dataset (fits) : slice (0x08 :: tail) 1 16 fits = datasetId := datasetAt.slice_eq
  simp only [decode, decoded, ok_bind, range, dataset, versionAt.readU32_eq, draglineAt.readU32_eq]
  rw [dif_neg (by omega)]
  rfl

end RoundTrip

/-- A record whose fields stand behind its tag is read from there. -/
theorem decode_of_fields {tail : Bytes} {after : Nat} :
    (record : OwnershipRecord) → record.CarriesLength →
    Stands (record.wireTag :: tail) 1 record.encodeFields after →
    decode (record.wireTag :: tail) = .ok (record, after)
  | .ownershipClaim _, _, fields => decode_ownershipClaim fields
  | .cleanRelease _, _, fields => decode_cleanRelease fields
  | .migrationStart _, _, fields => decode_migrationStart fields
  | .migrationEnd _, _, fields => decode_migrationEnd fields
  | .inboundPointer _, _, fields => decode_inboundPointer fields
  | .outboundPointer _, _, fields => decode_outboundPointer fields
  | .rescuePolicyChoice _, _, fields => decode_rescuePolicyChoice fields
  | .identityStructure _, _, fields => decode_identityStructure fields

/-- An ownership claim is read back, whatever follows it. -/
theorem decode_encode_ownershipClaim (claim : OwnershipClaimRecord) (after : Bytes) :
    decode ((ownershipClaim claim).encode ++ after) =
      .ok (.ownershipClaim claim, (ownershipClaim claim).encode.length) :=
  decode_of_fields (.ownershipClaim claim) trivial (fields_stand _ after)

/-- Ownership records survive the wire: every record is read back with its length, and
whatever follows it is left alone. -/
theorem records_survive (record : OwnershipRecord) (after : Bytes)
    (ends : record.CarriesLength ∨ after = []) :
    decode (record.encode ++ after) = .ok (record, record.encode.length) := by
  by_cases carries : record.CarriesLength
  · exact decode_of_fields record carries (fields_stand record after)
  · obtain rfl : after = [] := ends.resolve_left carries
    rw [List.append_nil]
    cases record with
    | schemaDescriptor version bytes => exact decode_encode_schemaDescriptor version bytes
    | _ => exact (carries trivial).elim

/-- A policy choice with parameters, read back in front of another record. -/
theorem records_survive_policyChoice :
    decode ((rescuePolicyChoice ⟨2, ⟨[7, 7, 7], by decide⟩⟩).encode ++ [0x02, 0]) =
      .ok (.rescuePolicyChoice ⟨2, ⟨[7, 7, 7], by decide⟩⟩, 9) :=
  records_survive _ _ (.inl trivial)

end OwnershipRecord

/-- The wire tag of a rule. -/
def PartitioningRule.ruleTag : PartitioningRule → UInt8
  | .staticModulo _ => 0x01
  | .consistentHash _ _ => 0x02

/-- How many parameter bytes a rule takes. -/
def PartitioningRule.paramLen : PartitioningRule → Nat
  | .staticModulo _ => 4
  | .consistentHash _ _ => 12

/-- A rule that is read is one of the two layouts, with its parameters in front of what
else its parameter block holds. -/
theorem PartitioningRule.decode_ok {buf : Bytes} {rule : PartitioningRule} {consumed : Nat}
    (decoded : decode buf = .ok (rule, consumed)) :
    consumed = 5 + (readU32 buf 1).toNat ∧ consumed ≤ buf.length ∧
      buf[0]? = some rule.ruleTag ∧ rule.paramLen ≤ (readU32 buf 1).toNat ∧
      ((readU32 buf 1).toNat = rule.paramLen → Stands buf 0 rule.encode consumed) := by
  simp only [decode, throwIf_eq_ok] at decoded
  obtain ⟨enough, decoded⟩ := decoded
  split at decoded
  · cases decoded
  rename_i total totalAt
  obtain rfl := checkedAdd_eq_some totalAt
  simp only [throwIf_eq_ok] at decoded
  obtain ⟨within, decoded⟩ := decoded
  have tagAt : Stands buf 0 [buf.headD 0] 1 := by
    cases buf with
    | nil => simp at enough
    | cons tag tail => exact ⟨rfl, tail, rfl⟩
  have lengthAt : Stands buf 1 _ 5 := .word (by omega) rfl
  have paramsAt : Stands buf 5 ((buf.take (5 + (readU32 buf 1).toNat)).drop 5)
      (5 + (readU32 buf 1).toNat) := by
    rw [List.drop_take, Nat.add_sub_cancel_left]
    exact .field (by omega)
  have sized : ((buf.take (5 + (readU32 buf 1).toNat)).drop 5).length = (readU32 buf 1).toNat :=
    Nat.add_left_cancel paramsAt.length.symm
  generalize (buf.take (5 + (readU32 buf 1).toNat)).drop 5 = params at decoded paramsAt sized
  split at decoded
  · rename_i tag
    simp only [throwIf_eq_ok, pure_eq_ok] at decoded
    obtain ⟨long, decoded⟩ := decoded
    cases decoded
    rw [tag] at tagAt
    refine ⟨rfl, by omega, tagAt.getElem?_eq, by rw [← sized]; exact Nat.le_of_not_lt long,
      fun exact => ?_⟩
    have word : readU32 buf 1 = 4 := UInt32.toNat_inj.mp exact
    have total : writeU32 (readU32 params 0) = params := by
      rw [writeU32_readU32 (by omega), List.drop_zero, List.take_of_length_le]
      rw [sized, exact]
      exact Nat.le_refl 4
    rw [encode, total]
    rw [word] at lengthAt
    exact tagAt.append (lengthAt.append paramsAt)
  · rename_i tag
    simp only [throwIf_eq_ok, pure_eq_ok] at decoded
    obtain ⟨long, decoded⟩ := decoded
    cases decoded
    rw [tag] at tagAt
    refine ⟨rfl, by omega, tagAt.getElem?_eq, by rw [← sized]; exact Nat.le_of_not_lt long,
      fun exact => ?_⟩
    have word : readU32 buf 1 = 12 := UInt32.toNat_inj.mp exact
    have seed : Stands params 0 _ 8 := .longWord (by omega)
    have nodes : Stands params 8 _ 12 := .word (by omega) rfl
    have total : writeU64 (readU64 params 0) ++ writeU32 (readU32 params 8) = params := by
      rw [← (seed.append nodes).take_eq, List.take_of_length_le]
      rw [sized, exact]
      exact Nat.le_refl 12
    rw [encode, total]
    rw [word] at lengthAt
    exact tagAt.append (lengthAt.append paramsAt)
  · cases decoded

/-- A rule is read whenever its parameter block has room for it. -/
theorem PartitioningRule.decode_roomy {buf : Bytes} {rule : UInt8} (long : 5 ≤ buf.length)
    (within : 5 + (readU32 buf 1).toNat ≤ buf.length) (ruleAt : buf[0]? = some rule)
    (roomy : rule = 0x01 ∧ 4 ≤ (readU32 buf 1).toNat ∨ rule = 0x02 ∧ 12 ≤ (readU32 buf 1).toNat) :
    ∃ value, decode buf = .ok (value, 5 + (readU32 buf 1).toNat) ∧ value.ruleTag = rule := by
  have small := (readU32 buf 1).toNat_lt
  have range : checkedAdd 5 (readU32 buf 1).toNat = some (5 + (readU32 buf 1).toNat) :=
    checkedAdd_eq (by unfold u64Max; omega)
  have sized : ((buf.take (5 + (readU32 buf 1).toNat)).drop 5).length = (readU32 buf 1).toNat := by
    rw [List.length_drop, List.length_take]
    omega
  have tag : buf.headD 0 = rule := by
    cases buf with
    | nil => cases ruleAt
    | cons head tail => exact Option.some.inj ruleAt
  unfold decode
  rw [if_neg (by omega), range, tag]
  dsimp only
  generalize (buf.take (5 + (readU32 buf 1).toNat)).drop 5 = params at sized
  rw [if_neg (by omega)]
  rcases roomy with ⟨rfl, room⟩ | ⟨rfl, room⟩
  · refine ⟨.staticModulo (readU32 params 0), ?_, rfl⟩
    rw [if_neg (by omega)]
    rfl
  · refine ⟨.consistentHash (readU64 params 0) (readU32 params 8), ?_, rfl⟩
    have enough : ¬params.length < 12 := by omega
    simp only [if_neg enough]
    rfl

namespace OwnershipRecord

section Canonical

variable {tail : Bytes} {record : OwnershipRecord} {consumed : Nat}

/-- What stands behind the tag of a buffer stands in it, tag and all. -/
theorem tagged {tag : UInt8} {fields : Bytes} {after : Nat}
    (stands : Stands (tag :: tail) 1 fields after) : Stands (tag :: tail) 0 (tag :: fields) after :=
  (⟨rfl, tail, rfl⟩ : Stands (tag :: tail) 0 [tag] 1).append stands

/-- A label that is read is the text behind the fixed fields of a claim. -/
theorem decodeLabel_ok {buf : Bytes} {labelLen : UInt32} {label : WireText}
    (decoded : decodeLabel buf labelLen = .ok label) :
    (buf.drop 69).take labelLen.toNat = utf8Bytes label.val := by
  unfold decodeLabel at decoded
  split at decoded
  · cases decoded
  · rename_i text found
    cases decoded
    exact (utf8Bytes_of_decodeUtf8 found).symm

/-- A claim that is read is written as the bytes it was read from. -/
theorem decode_ownershipClaim_ok (decoded : decode (0x01 :: tail) = .ok (record, consumed)) :
    Stands (0x01 :: tail) 0 record.encode consumed := by
  simp only [decode] at decoded
  split at decoded
  · cases decoded
  rename_i enough
  split at decoded
  · cases decoded
  rename_i total totalAt
  simp only [throwIf_eq_ok, bind_eq_ok, pure_eq_ok] at decoded
  obtain ⟨within, label, labelled, decoded⟩ := decoded
  obtain ⟨fixed, fixedAt, lengthAt⟩ := Option.bind_eq_some_iff.mp totalAt
  have fixedLen := checkedAdd_eq_some fixedAt
  have totalLen := checkedAdd_eq_some lengthAt
  obtain rfl : total = 69 + (readU32 (0x01 :: tail) 65).toNat := by omega
  cases decoded
  have text := decodeLabel_ok labelled
  have labelAt : Stands (0x01 :: tail) 69 _ (69 + (readU32 (0x01 :: tail) 65).toNat) :=
    .field (by omega)
  rw [text] at labelAt
  have length : (utf8Bytes label.val).length = (readU32 (0x01 :: tail) 65).toNat :=
    Nat.add_left_cancel labelAt.length.symm
  refine tagged ?_
  have lenAt : Stands (0x01 :: tail) 65 (writeU32 (readU32 (0x01 :: tail) 65)) 69 :=
    .word (by omega) rfl
  rw [writeU32, ← length] at lenAt
  exact (Stands.longWord (by omega)).append ((Stands.field (by omega)).append
    ((Stands.field (by omega)).append ((Stands.longWord (by omega)).append
      ((Stands.longWord (by omega)).append ((Stands.longWord (by omega)).append
        (lenAt.append labelAt))))))

/-- A release that is read stands in the buffer as it would be written. -/
theorem decode_cleanRelease_ok (decoded : decode (0x02 :: tail) = .ok (record, consumed)) :
    Stands (0x02 :: tail) 0 record.encode consumed := by
  simp only [decode] at decoded
  split at decoded
  · cases decoded
  cases decoded
  exact tagged ((Stands.longWord (by omega)).append (.longWord (by omega)))

/-- So does the start of a migration, whatever its policy tag. -/
theorem decode_migrationStart_ok (decoded : decode (0x03 :: tail) = .ok (record, consumed)) :
    Stands (0x03 :: tail) 0 record.encode consumed := by
  simp only [decode] at decoded
  split at decoded
  · cases decoded
  cases decoded
  exact tagged ((Stands.word (by omega) rfl).append ((Stands.word (by omega) rfl).append
    ((Stands.longWord (by omega)).append (.byte (by omega)))))

/-- The byte of a known status is written back as it was. -/
theorem toU8_of_fromU8 {byte : UInt8} {status : MigrationStatus}
    (known : MigrationStatus.fromU8 byte = .ok status) : status.toU8 = byte := by
  unfold MigrationStatus.fromU8 at known
  split at known <;> cases known <;> rfl

/-- The end of a migration stands as it would be written. -/
theorem decode_migrationEnd_ok (decoded : decode (0x04 :: tail) = .ok (record, consumed)) :
    Stands (0x04 :: tail) 0 record.encode consumed := by
  simp only [decode] at decoded
  split at decoded
  · cases decoded
  simp only [bind_eq_ok, pure_eq_ok] at decoded
  obtain ⟨status, known, decoded⟩ := decoded
  cases decoded
  have statusAt : Stands (0x04 :: tail) 17 [(0x04 :: tail)[17]] 18 := .byte (by omega)
  rw [← toU8_of_fromU8 known] at statusAt
  exact tagged ((Stands.word (by omega) rfl).append ((Stands.word (by omega) rfl).append
    ((Stands.longWord (by omega)).append statusAt)))

/-- A pointer to a predecessor stands as it would be written. -/
theorem decode_inboundPointer_ok (decoded : decode (0x05 :: tail) = .ok (record, consumed)) :
    Stands (0x05 :: tail) 0 record.encode consumed := by
  simp only [decode] at decoded
  split at decoded
  · cases decoded
  cases decoded
  exact tagged ((Stands.field (by omega)).append (.longWord (by omega)))

/-- A pointer to a successor stands as it would be written. -/
theorem decode_outboundPointer_ok (decoded : decode (0x06 :: tail) = .ok (record, consumed)) :
    Stands (0x06 :: tail) 0 record.encode consumed := by
  simp only [decode] at decoded
  split at decoded
  · cases decoded
  cases decoded
  exact tagged ((Stands.field (by omega)).append (.longWord (by omega)))

/-- The choice of a rescue policy stands as it would be written, whatever its tag. -/
theorem decode_rescuePolicyChoice_ok (decoded : decode (0x07 :: tail) = .ok (record, consumed)) :
    Stands (0x07 :: tail) 0 record.encode consumed := by
  simp only [decode] at decoded
  split at decoded
  · cases decoded
  split at decoded
  · cases decoded
  rename_i total totalAt
  obtain rfl := checkedAdd_eq_some totalAt
  split at decoded
  · cases decoded
  cases decoded
  have paramsAt : Stands (0x07 :: tail) 6 _ (6 + (readU32 (0x07 :: tail) 2).toNat) :=
    .field (by omega)
  have length := Nat.add_left_cancel paramsAt.length
  have lenAt : Stands (0x07 :: tail) 2 (writeU32 (readU32 (0x07 :: tail) 2)) 6 :=
    .word (by omega) rfl
  rw [writeU32, length] at lenAt
  exact tagged ((Stands.byte (by omega)).append (lenAt.append paramsAt))

/-- A schema descriptor stands as it would be written. -/
theorem decode_schemaDescriptor_ok (decoded : decode (0x09 :: tail) = .ok (record, consumed)) :
    Stands (0x09 :: tail) 0 record.encode consumed := by
  simp only [decode] at decoded
  split at decoded
  · cases decoded
  cases decoded
  refine tagged ((Stands.word (by omega) rfl).append ⟨?_, List.prefix_rfl⟩)
  rw [List.length_drop]
  omega

/-- An identity structure that is read is written as the bytes it was read from, once its
rule has no more parameters than it takes. -/
theorem decode_identityStructure_ok (decoded : decode (0x08 :: tail) = .ok (record, consumed)) :
    ∃ identity, record = .identityStructure identity ∧
      (0x08 :: tail)[25]? = some identity.partitioningRule.ruleTag ∧
      30 + (readU32 (0x08 :: tail) 26).toNat ≤ (0x08 :: tail).length ∧
      identity.partitioningRule.paramLen ≤ (readU32 (0x08 :: tail) 26).toNat ∧
      ((readU32 (0x08 :: tail) 26).toNat = identity.partitioningRule.paramLen →
        Stands (0x08 :: tail) 0 record.encode consumed) := by
  simp only [decode] at decoded
  split at decoded
  · cases decoded
  simp only [bind_eq_ok] at decoded
  obtain ⟨⟨rule, ruleConsumed⟩, ruled, decoded⟩ := decoded
  split at decoded
  · cases decoded
  rename_i total totalAt
  obtain rfl := checkedAdd_eq_some totalAt
  cases decoded
  obtain ⟨length, within, ruleTagAt, least, exact⟩ := PartitioningRule.decode_ok ruled
  have moved : readU32 ((0x08 :: tail).drop 25) 1 = readU32 (0x08 :: tail) 26 := by
    rw [readU32, readU32, List.drop_drop]
  rw [moved] at length least exact
  rw [List.getElem?_drop] at ruleTagAt
  rw [List.length_drop] at within
  refine ⟨_, rfl, ruleTagAt, by omega, least, fun tight => ?_⟩
  obtain ⟨rfl, begins⟩ := (exact tight).begins
  exact tagged ((Stands.field (by omega)).append ((Stands.word (by omega) rfl).append
    ((Stands.word (by omega) rfl).append (.shift rfl begins))))

end Canonical

/-- The policy tags that the format knows. -/
def policyTags : List UInt8 := [0x01, 0x02, 0x03]

/-- Where a record carries a rescue policy, it is one that the format knows. -/
def PolicyKnown : OwnershipRecord → Prop
  | .migrationStart start => start.rescuePolicyTag ∈ policyTags
  | .rescuePolicyChoice choice => choice.policyTag ∈ policyTags
  | _ => True

/-- What the grammar asks of a record that is read from a buffer. -/
structure FollowsGrammar (buf : Bytes) (record : OwnershipRecord) (consumed : Nat) : Prop where
  canonical : record.encode = buf.take consumed
  policy : record.PolicyKnown
  params : ∀ identity, record = .identityStructure identity →
    (readU32 buf 26).toNat = identity.partitioningRule.paramLen

/-- No complete migration start or policy choice has a policy tag that the format does not
know, and no complete identity structure has more parameters than its rule takes. -/
structure TagsInGrammar (buf : Bytes) : Prop where
  migrationStart : buf[0]? = some 0x03 → ∀ tag, buf[17]? = some tag → tag ∈ policyTags
  rescuePolicyChoice : buf[0]? = some 0x07 → 6 ≤ buf.length →
    6 + (readU32 buf 2).toNat ≤ buf.length → ∀ tag, buf[1]? = some tag → tag ∈ policyTags
  staticModulo : buf[0]? = some 0x08 → 30 ≤ buf.length → buf[25]? = some 0x01 →
    30 + (readU32 buf 26).toNat ≤ buf.length → (readU32 buf 26).toNat ≤ 4
  consistentHash : buf[0]? = some 0x08 → 30 ≤ buf.length → buf[25]? = some 0x02 →
    30 + (readU32 buf 26).toNat ≤ buf.length → (readU32 buf 26).toNat ≤ 12

section Grammar

variable {buf tail : Bytes} {record : OwnershipRecord} {consumed : Nat}

/-- A buffer that is read starts with one of the nine tags. -/
theorem tag_known {tag : UInt8} (decoded : decode (tag :: tail) = .ok (record, consumed)) :
    tag ∈ ([0x01, 0x02, 0x03, 0x04, 0x05, 0x06, 0x07, 0x08, 0x09] : List UInt8) := by
  unfold decode at decoded
  split at decoded
  case h_11 => cases decoded
  all_goals
    rename_i shown
    cases shown
    try decide

/-- What is read from a buffer, other than an identity structure, is written as the bytes it
was read from. -/
theorem decode_canonical {tag : UInt8} (decoded : decode (tag :: tail) = .ok (record, consumed))
    (other : tag ≠ 0x08) : Stands (tag :: tail) 0 record.encode consumed := by
  have known := tag_known decoded
  simp only [List.mem_cons, List.not_mem_nil, or_false] at known
  rcases known with rfl | rfl | rfl | rfl | rfl | rfl | rfl | rfl | rfl
  · exact decode_ownershipClaim_ok decoded
  · exact decode_cleanRelease_ok decoded
  · exact decode_migrationStart_ok decoded
  · exact decode_migrationEnd_ok decoded
  · exact decode_inboundPointer_ok decoded
  · exact decode_outboundPointer_ok decoded
  · exact decode_rescuePolicyChoice_ok decoded
  · exact (other rfl).elim
  · exact decode_schemaDescriptor_ok decoded

/-- A record that stands at the start of a buffer has its tag there. -/
theorem wireTag_of_stands {tag : UInt8} (stands : Stands (tag :: tail) 0 record.encode consumed) :
    record.wireTag = tag :=
  (List.cons_prefix_cons.mp stands.begins.2).1

/-- A policy that is read stands in the buffer at the place of its kind. -/
theorem policyKnown_of_stands (tags : TagsInGrammar buf)
    (stands : Stands buf 0 record.encode consumed) : record.PolicyKnown := by
  have fits := stands.le_length (Nat.zero_le _)
  have whole : Stands buf 0 ([record.wireTag] ++ record.encodeFields) consumed := stands
  obtain ⟨tagAt, fields⟩ := whole.split 1 rfl
  cases record with
  | migrationStart start =>
      obtain ⟨-, rest⟩ := fields.split 5 rfl
      obtain ⟨-, rest⟩ := rest.split 9 rfl
      obtain ⟨-, policyAt⟩ := rest.split 17 rfl
      exact tags.migrationStart tagAt.getElem?_eq _ policyAt.getElem?_eq
  | rescuePolicyChoice choice =>
      have fields : Stands buf 1 ([choice.policyTag] ++ (leBytes 4
        choice.parameterPayload.val.length ++ choice.parameterPayload.val)) consumed := fields
      obtain ⟨policyAt, rest⟩ := fields.split 2 rfl
      obtain ⟨lenAt, paramsAt⟩ := rest.split 6 rfl
      have small := choice.parameterPayload.property
      have len := lenAt.readU32_toNat_eq (by unfold u32Max at small; omega)
      have total := paramsAt.length
      exact tags.rescuePolicyChoice tagAt.getElem?_eq (by omega) (by omega) _ policyAt.getElem?_eq
  | _ => trivial

/-- What is read follows the grammar, where no tag is out of it. -/
theorem followsGrammar_of_tags (tags : TagsInGrammar buf)
    (decoded : decode buf = .ok (record, consumed)) : FollowsGrammar buf record consumed := by
  cases buf with
  | nil => cases decoded
  | cons tag tail =>
      by_cases identity : tag = 0x08
      · subst identity
        obtain ⟨identity, rfl, ruleTagAt, within, least, exact⟩ :=
          decode_identityStructure_ok decoded
        have tight : (readU32 (0x08 :: tail) 26).toNat = identity.partitioningRule.paramLen := by
          refine Nat.le_antisymm ?_ least
          cases rule : identity.partitioningRule with
          | staticModulo total =>
              rw [rule] at ruleTagAt
              exact tags.staticModulo rfl (by omega) ruleTagAt within
          | consistentHash seed nodes =>
              rw [rule] at ruleTagAt
              exact tags.consistentHash rfl (by omega) ruleTagAt within
        have stands := exact tight
        refine ⟨stands.take_eq.symm, policyKnown_of_stands tags stands, ?_⟩
        rintro _ ⟨⟩
        exact tight
      · have stands := decode_canonical decoded identity
        refine ⟨stands.take_eq.symm, policyKnown_of_stands tags stands, ?_⟩
        rintro _ rfl
        exact (identity (wireTag_of_stands stands).symm).elim

/-- An identity structure is read whenever its parameter block has room for its rule. -/
theorem decode_roomy {rule : UInt8} (long : 30 ≤ (0x08 :: tail).length)
    (within : 30 + (readU32 (0x08 :: tail) 26).toNat ≤ (0x08 :: tail).length)
    (ruleAt : (0x08 :: tail)[25]? = some rule)
    (roomy : rule = 0x01 ∧ 4 ≤ (readU32 (0x08 :: tail) 26).toNat ∨
      rule = 0x02 ∧ 12 ≤ (readU32 (0x08 :: tail) 26).toNat) :
    ∃ identity consumed, decode (0x08 :: tail) = .ok (.identityStructure identity, consumed) ∧
      identity.partitioningRule.ruleTag = rule := by
  have moved : readU32 ((0x08 :: tail).drop 25) 1 = readU32 (0x08 :: tail) 26 := by
    rw [readU32, readU32, List.drop_drop]
  have ruleLong : 5 ≤ ((0x08 :: tail).drop 25).length := by
    rw [List.length_drop]
    omega
  obtain ⟨value, decoded, tag⟩ := PartitioningRule.decode_roomy ruleLong
    (by rw [moved, List.length_drop]; omega) (by rw [List.getElem?_drop]; exact ruleAt)
    (by rw [moved]; exact roomy)
  have small := (readU32 (0x08 :: tail) 26).toNat_lt
  have range : checkedAdd 25 (5 + (readU32 (0x08 :: tail) 26).toNat) =
      some (25 + (5 + (readU32 (0x08 :: tail) 26).toNat)) :=
    checkedAdd_eq (by unfold u64Max; omega)
  rw [moved] at decoded
  refine ⟨⟨slice (0x08 :: tail) 1 16 (by omega), readU32 (0x08 :: tail) 17,
    readU32 (0x08 :: tail) 21, value⟩, 25 + (5 + (readU32 (0x08 :: tail) 26).toNat), ?_, tag⟩
  simp only [decode, decoded, ok_bind, range]
  rw [dif_neg (by omega)]
  rfl

/-- The decoder accepts exactly its grammar on the buffers in which no tag is out of it. -/
theorem decoder_follows_grammar_iff (buf : Bytes) :
    (∀ record consumed, decode buf = .ok (record, consumed) → FollowsGrammar buf record consumed) ↔
      TagsInGrammar buf := by
  refine ⟨fun follows => ?_, fun tags record consumed => followsGrammar_of_tags tags⟩
  refine ⟨?_, ?_, ?_, ?_⟩
  · intro start tag policyAt
    obtain ⟨long, rfl⟩ := List.getElem?_eq_some_iff.mp policyAt
    obtain ⟨tail, rfl⟩ := List.head?_eq_some_iff.mp (List.head?_eq_getElem? ▸ start)
    have decoded : decode (0x03 :: tail) = .ok (.migrationStart ⟨readU32 (0x03 :: tail) 1,
        readU32 (0x03 :: tail) 5, readU64 (0x03 :: tail) 9, (0x03 :: tail)[17]⟩, 18) := by
      simp only [decode]
      rw [dif_neg (by omega)]
    exact (follows _ _ decoded).policy
  · intro start long within tag policyAt
    obtain ⟨inside, rfl⟩ := List.getElem?_eq_some_iff.mp policyAt
    obtain ⟨tail, rfl⟩ := List.head?_eq_some_iff.mp (List.head?_eq_getElem? ▸ start)
    have small := (readU32 (0x07 :: tail) 2).toNat_lt
    have range : checkedAdd 6 (readU32 (0x07 :: tail) 2).toNat =
        some (6 + (readU32 (0x07 :: tail) 2).toNat) := checkedAdd_eq (by unfold u64Max; omega)
    have decoded : ∃ params, decode (0x07 :: tail) = .ok (.rescuePolicyChoice
        ⟨(0x07 :: tail)[1], params⟩, 6 + (readU32 (0x07 :: tail) 2).toNat) := by
      simp only [decode, range]
      rw [dif_neg (by omega), if_neg (by omega)]
      exact ⟨_, rfl⟩
    obtain ⟨params, decoded⟩ := decoded
    exact (follows _ _ decoded).policy
  · intro start long ruleAt within
    by_contra above
    obtain ⟨tail, rfl⟩ := List.head?_eq_some_iff.mp (List.head?_eq_getElem? ▸ start)
    obtain ⟨identity, consumed, decoded, tag⟩ :=
      decode_roomy long within ruleAt (.inl ⟨rfl, by omega⟩)
    have exact := (follows _ _ decoded).params identity rfl
    cases rule : identity.partitioningRule with
    | staticModulo total =>
        rw [rule] at exact
        exact above (Nat.le_of_eq exact)
    | consistentHash seed nodes =>
        rw [rule] at tag
        cases tag
  · intro start long ruleAt within
    by_contra above
    obtain ⟨tail, rfl⟩ := List.head?_eq_some_iff.mp (List.head?_eq_getElem? ▸ start)
    obtain ⟨identity, consumed, decoded, tag⟩ :=
      decode_roomy long within ruleAt (.inr ⟨rfl, by omega⟩)
    have exact := (follows _ _ decoded).params identity rfl
    cases rule : identity.partitioningRule with
    | staticModulo total =>
        rw [rule] at tag
        cases tag
    | consistentHash seed nodes =>
        rw [rule] at exact
        exact above (Nat.le_of_eq exact)

/-- A migration start under a policy that does not exist, and an identity structure with a
byte behind the parameter of its rule. Both are read. -/
def strayPolicy : Bytes := 0x03 :: (List.replicate 16 0 ++ [9])

def strayParameter : Bytes :=
  0x08 :: (List.replicate 16 0 ++ ([1, 0, 0, 0, 0, 0, 0, 0] ++ [0x01, 5, 0, 0, 0, 2, 0, 0, 0, 7]))

/-- The decoder takes a policy tag that nothing names, and passes over bytes behind a
parameter. -/
theorem decoder_leaves_grammar :
    (∃ record consumed, decode strayPolicy = .ok (record, consumed) ∧ ¬record.PolicyKnown) ∧
      ∃ record consumed, decode strayParameter = .ok (record, consumed) ∧
        record.encode ≠ strayParameter.take consumed := by
  refine ⟨⟨.migrationStart ⟨0, 0, 0, 9⟩, 18, by decide +kernel, ?_⟩, ?_⟩
  · exact (by decide : ¬(9 : UInt8) ∈ policyTags)
  · exact ⟨.identityStructure ⟨zeroId, 1, 0, .staticModulo 2⟩, 35, by decide +kernel,
      by decide +kernel⟩

end Grammar

end OwnershipRecord

end Pardosa
