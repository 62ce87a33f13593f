import Pardosa.Schema.Canonical
import Pardosa.Schema.Length

/-!
# Admission is sound

What admission lets through can be written, read back and admitted again, as the same
record with the same identity. The schema identity is the hash of the version and the
encoded tree, and these bytes determine the descriptor.
-/

namespace Pardosa

open Foundation

/-- The record kept for a descriptor is read back as its version and the bytes of its
tree. -/
theorem decode_of_schemaDescriptor (version : UInt32) {node : DescriptorNode} {bytes : Bytes}
    (encoded : node.encode = .ok bytes) (known : node.WidthsKnown) :
    OwnershipRecord.decode (OwnershipRecord.schemaDescriptor version bytes).encode =
        .ok (.schemaDescriptor version bytes,
          (OwnershipRecord.schemaDescriptor version bytes).encode.length) ∧
      DescriptorNode.decode bytes = .ok (node, bytes.length) := by
  refine ⟨OwnershipRecord.decode_encode_schemaDescriptor version bytes, ?_⟩
  have read := DescriptorNode.decode_encode encoded known []
  rwa [List.append_nil] at read

/-- Computes the schema identity of a version and a tree. -/
def SchemaIdentity.tryFromDescriptor [Digests] (version : UInt32) (root : DescriptorNode) :
    Except EncodeError Hash := do
  let bytes ← root.encode
  return blake3 (writeU32 version ++ bytes)

namespace AdmittedDescriptor

variable [Digests]

/-- The bytes that the identity of an admitted descriptor is the hash of: its record
without the tag. -/
def identityPreimage (admitted : AdmittedDescriptor) : Bytes := admitted.encodedRecord.drop 1

section Admitted

variable {descriptor other : SchemaDescriptor} {admitted second : AdmittedDescriptor}

/-- What an admitted descriptor is, in terms of the bytes of its tree. -/
theorem eq_of_admits (admits : tryFromDescriptor descriptor = .ok admitted) :
    ∃ bytes, descriptor.root.encode = .ok bytes ∧ descriptor.root.WidthsKnown ∧
      admitted = ⟨descriptor, (OwnershipRecord.schemaDescriptor descriptor.version bytes).encode,
        blake3 (writeU32 descriptor.version ++ bytes)⟩ := by
  obtain ⟨bytes, encoded, known, -, -⟩ := tryFromDescriptor_ok admits
  refine ⟨bytes, encoded, known, ?_⟩
  simp only [tryFromDescriptor, throwIf_eq_ok, bind_eq_ok, mapError_eq_ok, pure_eq_ok] at admits
  obtain ⟨_, -, _, -, -, again, encodedAgain, rfl⟩ := admits
  rw [encoded] at encodedAgain
  cases encodedAgain
  rfl

/-- The identity of an admitted descriptor is computed in either way. -/
theorem identity_of_admits (admits : tryFromDescriptor descriptor = .ok admitted) :
    SchemaIdentity.tryFromDescriptor descriptor.version descriptor.root =
      .ok admitted.identity := by
  obtain ⟨bytes, encoded, -, rfl⟩ := eq_of_admits admits
  rw [SchemaIdentity.tryFromDescriptor, encoded]
  rfl

/-- The bytes under the hash determine the descriptor. -/
theorem identityPreimage_inj (admits : tryFromDescriptor descriptor = .ok admitted)
    (admitsOther : tryFromDescriptor other = .ok second) :
    admitted.identityPreimage = second.identityPreimage ↔ descriptor = other := by
  obtain ⟨bytes, encoded, known, rfl⟩ := eq_of_admits admits
  obtain ⟨otherBytes, otherEncoded, otherKnown, rfl⟩ := eq_of_admits admitsOther
  constructor
  · intro same
    have records : (OwnershipRecord.schemaDescriptor descriptor.version bytes).encode =
        (OwnershipRecord.schemaDescriptor other.version otherBytes).encode :=
      congrArg (0x09 :: ·) same
    obtain ⟨record, tree⟩ := decode_of_schemaDescriptor descriptor.version encoded known
    obtain ⟨otherRecord, otherTree⟩ :=
      decode_of_schemaDescriptor other.version otherEncoded otherKnown
    rw [records, otherRecord] at record
    cases descriptor
    cases other
    cases record
    rw [otherTree] at tree
    cases tree
    rfl
  · rintro rfl
    rw [encoded] at otherEncoded
    cases otherEncoded
    rfl

end Admitted

/-- Descriptor admission is sound. What is admitted can be written; its record decodes, with
nothing left over, to a descriptor that is admitted again as the same record with the same
identity; and the bytes under the identity's hash are equal only for equal descriptors. -/
theorem admission_sound :
    (∀ (descriptor : SchemaDescriptor) (admitted : AdmittedDescriptor),
      tryFromDescriptor descriptor = .ok admitted →
      ∃ bytes, descriptor.root.encode = .ok bytes ∧
        (∃ version tree treeLen recordLen,
          OwnershipRecord.decode admitted.encodedRecord =
            .ok (.schemaDescriptor version bytes, recordLen) ∧
          recordLen = admitted.encodedRecord.length ∧
          DescriptorNode.decode bytes = .ok (tree, treeLen) ∧ treeLen = bytes.length ∧
          version = descriptor.version ∧ tree = descriptor.root ∧
          ∃ again, tryFromDescriptor ⟨version, tree⟩ = .ok again ∧
            again.encodedRecord = admitted.encodedRecord ∧ again.identity = admitted.identity) ∧
        admitted.identity = blake3 admitted.identityPreimage ∧
        SchemaIdentity.tryFromDescriptor descriptor.version descriptor.root =
          .ok admitted.identity) ∧
    ∀ (descriptor other : SchemaDescriptor) (admitted second : AdmittedDescriptor),
      tryFromDescriptor descriptor = .ok admitted → tryFromDescriptor other = .ok second →
      (admitted.identityPreimage = second.identityPreimage ↔ descriptor = other) := by
  refine ⟨fun descriptor admitted admits => ?_, fun _ _ _ _ => identityPreimage_inj⟩
  have computed := identity_of_admits admits
  obtain ⟨bytes, encoded, known, rfl⟩ := eq_of_admits admits
  obtain ⟨record, tree⟩ := decode_of_schemaDescriptor descriptor.version encoded known
  exact ⟨bytes, encoded, ⟨descriptor.version, descriptor.root, _, _, record, rfl, tree, rfl, rfl,
    rfl, _, admits, rfl, rfl⟩, rfl, computed⟩

end AdmittedDescriptor

section Example

attribute [local instance] standardDigests

/-- The descriptor of an enumeration with a tombstone and a payload. -/
def eventDescriptor : SchemaDescriptor :=
  ⟨2, .enum "Event" 1 (.cons 0 "Tombstone" .none (.cons 1 "Made" (.some .u64) .nil))⟩

/-- An enumeration with a tombstone and a payload is admitted, and its tree is read back
from what is written of it. -/
theorem admission_sound_event :
    ∃ admitted, AdmittedDescriptor.tryFromDescriptor eventDescriptor = .ok admitted ∧
      ∃ bytes, eventDescriptor.root.encode = .ok bytes ∧
        DescriptorNode.decode bytes = .ok (eventDescriptor.root, bytes.length) := by
  obtain ⟨admitted, admits⟩ :
      ∃ admitted, AdmittedDescriptor.tryFromDescriptor eventDescriptor = .ok admitted := ⟨_, rfl⟩
  obtain ⟨bytes, encoded, ⟨version, tree, treeLen, recordLen, -, -, decoded, rfl, rfl,
    rfl, -⟩, -⟩ :=
    AdmittedDescriptor.admission_sound.1 eventDescriptor admitted admits
  exact ⟨admitted, admits, bytes, encoded, decoded⟩

end Example

end Pardosa
