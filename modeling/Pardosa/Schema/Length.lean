import Pardosa.Schema.RoundTrip

/-!
# Predicted lengths

Admission enforces its limit on a length that one recursion predicts, while the
bytes come from another. The two succeed on the same trees, malformed ones included,
and the prediction is the number of bytes. A byte vector is no longer than a `usize`
can tell, and neither is a prediction.
-/

namespace Pardosa

open Foundation

/-- A prediction is the length of what is written behind so many bytes, and fails
when nothing is written. -/
def Predicts (predicted : Except EncodeError Nat) (before : Nat)
    (written : Except EncodeError Bytes) : Prop :=
  ∀ len, predicted = .ok len ↔
    ∃ bytes, written = .ok bytes ∧ len = before + bytes.length ∧ len ≤ u64Max

/-- A sum of lengths is answered when it stays in range. -/
theorem addLens_ok_iff {total len : Nat} {lens : List Nat} (inRange : total ≤ u64Max) :
    addLens total lens = .ok len ↔ len = total + lens.sum ∧ len ≤ u64Max := by
  induction lens generalizing total with
  | nil =>
      simp only [addLens, Except.ok.injEq, List.sum_nil, Nat.add_zero]
      constructor
      · rintro rfl
        exact ⟨rfl, inRange⟩
      · rintro ⟨rfl, -⟩
        rfl
  | cons first rest ih =>
      unfold addLens checkedAdd
      rw [List.sum_cons]
      by_cases fits : total + first ≤ u64Max
      · rw [if_pos fits]
        simp only
        rw [ih fits, Nat.add_assoc]
      · rw [if_neg fits]
        simp only [reduceCtorEq, false_iff]
        rintro ⟨rfl, within⟩
        omega

/-- The length of a name is known exactly when the name can be written. -/
theorem nameLen_ok_iff {name : String} {len : Nat} :
    nameLen name = .ok len ↔ ∃ bytes, encodeName name = .ok bytes ∧ bytes.length = 4 + len := by
  unfold encodeName nameLen
  by_cases fits : (utf8Bytes name).length ≤ u32Max
  · rw [if_pos fits]
    constructor
    · rintro ⟨⟩
      refine ⟨_, rfl, ?_⟩
      simp
    · rintro ⟨bytes, ⟨⟩, length⟩
      simp only [List.length_append, length_leBytes] at length
      exact congrArg Except.ok (by omega)
  · rw [if_neg fits]
    constructor
    · rintro ⟨⟩
    · rintro ⟨bytes, ⟨⟩, -⟩

namespace DescriptorNode

mutual

/-- The prediction for a node, at whatever depth. -/
theorem encodedLenRecursive_predicts (depth : Nat) (node : DescriptorNode) :
    Predicts (encodedLenRecursive depth node) 0 (encodeRecursive depth node) := by
  intro len
  unfold encodedLenRecursive encodeRecursive
  by_cases deep : depth > maxDescriptorDepth
  · rw [if_pos deep, if_pos deep]
    simp
  rw [if_neg deep, if_neg deep]
  match node with
  | .eventVec inner maxItems =>
      have predicts := encodedLenRecursive_predicts (depth + 1) inner
      simp only [bind_eq_ok, pure_eq_ok, addLens_ok_iff (by decide : 1 ≤ u64Max)]
      constructor
      · rintro ⟨innerLen, measured, rfl, within⟩
        obtain ⟨inside, encoded, rfl, -⟩ := (predicts innerLen).mp measured
        refine ⟨_, ⟨inside, encoded, rfl⟩, ?_, within⟩
        simp
        omega
      · rintro ⟨_, ⟨inside, encoded, rfl⟩, rfl, within⟩
        simp only [List.length_cons, List.length_append, length_writeU32] at within ⊢
        refine ⟨inside.length, (predicts _).mpr ⟨inside, encoded, by omega, by omega⟩, ?_,
          within⟩
        simp
        omega
  | .option inner =>
      have predicts := encodedLenRecursive_predicts (depth + 1) inner
      simp only [bind_eq_ok, pure_eq_ok, addLens_ok_iff (by decide : 1 ≤ u64Max)]
      constructor
      · rintro ⟨innerLen, measured, rfl, within⟩
        obtain ⟨inside, encoded, rfl, -⟩ := (predicts innerLen).mp measured
        refine ⟨_, ⟨inside, encoded, rfl⟩, ?_, within⟩
        simp
        omega
      · rintro ⟨_, ⟨inside, encoded, rfl⟩, rfl, within⟩
        simp only [List.length_cons] at within ⊢
        refine ⟨inside.length, (predicts _).mpr ⟨inside, encoded, by omega, by omega⟩, ?_,
          within⟩
        simp
        omega
  | .struct name fields =>
      simp only [bind_eq_ok, pure_eq_ok, addLens_ok_iff (by decide : 1 ≤ u64Max)]
      constructor
      · rintro ⟨nameLen, named, total, ⟨rfl, fits⟩, count, counted, measured⟩
        obtain ⟨nameBytes, nameEncoded, length⟩ := nameLen_ok_iff.mp named
        obtain ⟨body, encoded, rfl, within⟩ :=
          (encodedLenFields_predicts (depth + 1) _ fits fields len).mp measured
        refine ⟨_, ⟨nameBytes, nameEncoded, count, counted, body, encoded, rfl⟩, ?_, within⟩
        simp
        omega
      · rintro ⟨_, ⟨nameBytes, nameEncoded, count, counted, body, encoded, rfl⟩, rfl, within⟩
        obtain ⟨-, split⟩ := encodeName_ok nameEncoded
        have length : nameBytes.length = 4 + (utf8Bytes name).length := by simp [split]
        simp only [List.length_cons, List.length_append, length_leBytes] at within ⊢
        have fits : 1 + [4, (utf8Bytes name).length, 4].sum ≤ u64Max := by
          simp
          omega
        refine ⟨_, nameLen_ok_iff.mpr ⟨nameBytes, nameEncoded, length⟩, _, ⟨rfl, fits⟩, count,
          counted, (encodedLenFields_predicts (depth + 1) _ fits fields _).mpr
            ⟨body, encoded, ?_, within⟩⟩
        simp
        omega
  | .enum name width variants =>
      simp only [bind_eq_ok, pure_eq_ok, addLens_ok_iff (by decide : 1 ≤ u64Max)]
      constructor
      · rintro ⟨nameLen, named, total, ⟨rfl, fits⟩, count, counted, measured⟩
        obtain ⟨nameBytes, nameEncoded, length⟩ := nameLen_ok_iff.mp named
        obtain ⟨body, encoded, rfl, within⟩ :=
          (encodedLenVariants_predicts (depth + 1) width _ fits variants len).mp measured
        refine ⟨_, ⟨nameBytes, nameEncoded, count, counted, body, encoded, rfl⟩, ?_, within⟩
        simp
        omega
      · rintro ⟨_, ⟨nameBytes, nameEncoded, count, counted, body, encoded, rfl⟩, rfl, within⟩
        obtain ⟨-, split⟩ := encodeName_ok nameEncoded
        have length : nameBytes.length = 4 + (utf8Bytes name).length := by simp [split]
        simp only [List.length_cons, List.length_append, length_leBytes, List.length_nil]
          at within ⊢
        have fits : 1 + [4, (utf8Bytes name).length, 1, 4].sum ≤ u64Max := by
          simp
          omega
        refine ⟨_, nameLen_ok_iff.mpr ⟨nameBytes, nameEncoded, length⟩, _, ⟨rfl, fits⟩, count,
          counted, (encodedLenVariants_predicts (depth + 1) width _ fits variants _).mpr
            ⟨body, encoded, ?_, within⟩⟩
        simp
        omega
  | .eventString maxBytes | .nonEmptyEventString maxBytes | .eventBytes maxBytes =>
      simp only [addLens_ok_iff (by decide : 1 ≤ u64Max), Except.ok.injEq, exists_eq_left',
        List.length_cons, length_writeU32]
      simp
  | .u8 | .u16 | .u32 | .u64 | .i8 | .i16 | .i32 | .i64 | .bool | .timestamp | .uuid
  | .orderedF32 | .orderedF64 =>
      simp only [Except.ok.injEq, exists_eq_left', List.length_cons, List.length_nil]
      constructor
      · rintro rfl
        exact ⟨rfl, by decide⟩
      · rintro ⟨rfl, -⟩
        rfl

/-- The prediction for fields, behind so many bytes. -/
theorem encodedLenFields_predicts (depth total : Nat) (inRange : total ≤ u64Max) :
    (fields : FieldDescriptors) →
      Predicts (encodedLenFields depth total fields) total (encodeFields depth fields)
  | .nil => by
      intro len
      simp only [encodedLenFields, encodeFields, Except.ok.injEq, exists_eq_left',
        List.length_nil, Nat.add_zero]
      constructor
      · rintro rfl
        exact ⟨rfl, inRange⟩
      · rintro ⟨rfl, -⟩
        rfl
  | .cons name node rest => by
      intro len
      have predicts := encodedLenRecursive_predicts depth node
      simp only [encodedLenFields, encodeFields, bind_eq_ok, pure_eq_ok, addLens_ok_iff inRange]
      constructor
      · rintro ⟨nameLen, named, nodeLen, inner, next, ⟨rfl, fits⟩, measured⟩
        obtain ⟨nameBytes, nameEncoded, length⟩ := nameLen_ok_iff.mp named
        obtain ⟨bytes, encoded, rfl, -⟩ := (predicts nodeLen).mp inner
        obtain ⟨others, later, rfl, within⟩ :=
          (encodedLenFields_predicts depth _ fits rest len).mp measured
        refine ⟨_, ⟨nameBytes, nameEncoded, bytes, encoded, others, later, rfl⟩, ?_, within⟩
        simp
        omega
      · rintro ⟨_, ⟨nameBytes, nameEncoded, bytes, encoded, others, later, rfl⟩, rfl, within⟩
        obtain ⟨-, split⟩ := encodeName_ok nameEncoded
        have length : nameBytes.length = 4 + (utf8Bytes name).length := by simp [split]
        simp only [List.length_append] at within ⊢
        have fits : total + [4, (utf8Bytes name).length, bytes.length].sum ≤ u64Max := by
          simp
          omega
        refine ⟨_, nameLen_ok_iff.mpr ⟨nameBytes, nameEncoded, length⟩, bytes.length,
          (predicts _).mpr ⟨bytes, encoded, by omega, by omega⟩, _, ⟨rfl, fits⟩,
          (encodedLenFields_predicts depth _ fits rest _).mpr ⟨others, later, ?_, within⟩⟩
        simp
        omega

/-- The prediction for variants, behind so many bytes. -/
theorem encodedLenVariants_predicts (depth : Nat) (width : UInt8) (total : Nat)
    (inRange : total ≤ u64Max) :
    (variants : VariantDescriptors) → Predicts (encodedLenVariants depth width total variants)
      total (encodeVariants depth width variants)
  | .nil => by
      intro len
      simp only [encodedLenVariants, encodeVariants, Except.ok.injEq, exists_eq_left',
        List.length_nil, Nat.add_zero]
      constructor
      · rintro rfl
        exact ⟨rfl, inRange⟩
      · rintro ⟨rfl, -⟩
        rfl
  | .cons discriminant name payload rest => by
      intro len
      have predicts := encodedLenPayload_predicts depth payload
      simp only [encodedLenVariants, encodeVariants, bind_eq_ok, pure_eq_ok,
        addLens_ok_iff inRange]
      constructor
      · rintro ⟨tag, tagged, nameLen, named, payloadLen, inner, next, ⟨rfl, fits⟩, measured⟩
        obtain ⟨nameBytes, nameEncoded, length⟩ := nameLen_ok_iff.mp named
        obtain ⟨bytes, encoded, rfl, -⟩ := (predicts payloadLen).mp inner
        obtain ⟨others, later, rfl, within⟩ :=
          (encodedLenVariants_predicts depth width _ fits rest len).mp measured
        refine ⟨_, ⟨tag, tagged, nameBytes, nameEncoded, bytes, encoded, others, later, rfl⟩, ?_,
          within⟩
        simp
        omega
      · rintro ⟨_, ⟨tag, tagged, nameBytes, nameEncoded, bytes, encoded, others, later, rfl⟩, rfl,
          within⟩
        obtain ⟨-, split⟩ := encodeName_ok nameEncoded
        have length : nameBytes.length = 4 + (utf8Bytes name).length := by simp [split]
        simp only [List.length_append] at within ⊢
        have fits : total + [tag.length, 4, (utf8Bytes name).length, bytes.length].sum ≤
            u64Max := by
          simp
          omega
        refine ⟨tag, tagged, _, nameLen_ok_iff.mpr ⟨nameBytes, nameEncoded, length⟩, bytes.length,
          (predicts _).mpr ⟨bytes, encoded, by omega, by omega⟩, _, ⟨rfl, fits⟩,
          (encodedLenVariants_predicts depth width _ fits rest _).mpr ⟨others, later, ?_, within⟩⟩
        simp
        omega

/-- The prediction for a variant's payload. -/
theorem encodedLenPayload_predicts (depth : Nat) :
    (payload : VariantPayload) →
      Predicts (encodedLenPayload depth payload) 0 (encodePayload depth payload)
  | .none => by
      intro len
      simp only [encodedLenPayload, encodePayload, Except.ok.injEq, exists_eq_left',
        List.length_cons, List.length_nil]
      constructor
      · rintro rfl
        exact ⟨rfl, by decide⟩
      · rintro ⟨rfl, -⟩
        rfl
  | .some node => encodedLenRecursive_predicts depth node

end

end DescriptorNode

/-- The prediction for the record that carries a descriptor. -/
theorem SchemaDescriptor.encodedRecordLen_ok_iff {descriptor : SchemaDescriptor} {len : Nat} :
    descriptor.encodedRecordLen = .ok len ↔ ∃ bytes, descriptor.root.encode = .ok bytes ∧
      len = (OwnershipRecord.schemaDescriptor descriptor.version bytes).encode.length ∧
      len ≤ u64Max := by
  have predicts := descriptor.root.encodedLenRecursive_predicts 0
  have record : ∀ bytes, (OwnershipRecord.schemaDescriptor descriptor.version bytes).encode.length =
      1 + [4, bytes.length].sum := by
    intro bytes
    simp [OwnershipRecord.encode, OwnershipRecord.encodeFields]
    omega
  simp only [encodedRecordLen, DescriptorNode.encodedLen, bind_eq_ok,
    addLens_ok_iff (by decide : 1 ≤ u64Max), record]
  constructor
  · rintro ⟨rootLen, measured, rfl, within⟩
    obtain ⟨bytes, encoded, rfl, -⟩ := (predicts rootLen).mp measured
    refine ⟨bytes, encoded, ?_, within⟩
    rw [Nat.zero_add]
  · rintro ⟨bytes, encoded, rfl, within⟩
    refine ⟨bytes.length, (predicts _).mpr ⟨bytes, encoded, by omega, ?_⟩, rfl, within⟩
    simp only [List.sum_cons, List.sum_nil] at within
    omega

/-- What admission measures is what it keeps. -/
theorem AdmittedDescriptor.length_encodedRecord [Digests] {descriptor : SchemaDescriptor}
    {admitted : AdmittedDescriptor} (admits : tryFromDescriptor descriptor = .ok admitted) :
    descriptor.encodedRecordLen = .ok admitted.encodedRecord.length ∧
      admitted.encodedRecord.length ≤ maxDescriptorRecordBytes := by
  simp only [tryFromDescriptor, throwIf_eq_ok, bind_eq_ok, mapError_eq_ok, pure_eq_ok] at admits
  obtain ⟨_, -, recordLen, measured, within, bytes, encoded, rfl⟩ := admits
  obtain ⟨others, again, rfl, -⟩ := SchemaDescriptor.encodedRecordLen_ok_iff.mp measured
  rw [encoded] at again
  cases again
  exact ⟨measured, Nat.le_of_not_lt within⟩

/-- Predicted and actual sizes agree, for every tree and for every record. -/
theorem DescriptorNode.predicted_lengths_agree :
    (∀ (node : DescriptorNode) (len : Nat), node.encodedLen = .ok len ↔
      ∃ bytes, node.encode = .ok bytes ∧ len = bytes.length ∧ len ≤ u64Max) ∧
    ∀ (descriptor : SchemaDescriptor) (len : Nat), descriptor.encodedRecordLen = .ok len ↔
      ∃ bytes, descriptor.root.encode = .ok bytes ∧
        len = (OwnershipRecord.schemaDescriptor descriptor.version bytes).encode.length ∧
        len ≤ u64Max := by
  refine ⟨?_, fun _ _ => SchemaDescriptor.encodedRecordLen_ok_iff⟩
  intro node len
  have predicts := node.encodedLenRecursive_predicts 0 len
  rw [DescriptorNode.encodedLen, DescriptorNode.encode]
  simpa only [Nat.zero_add] using predicts

end Pardosa
