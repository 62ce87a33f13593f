import Pardosa.File.Creation
import Pardosa.File.Tenures
import Pardosa.Schema.Length
import Pardosa.Store.CreationPlan

/-!
# Seeds of artefacts

What a creation writes into the ownership record is fixed before its first byte arrives:
a claim that passed the length check and an admitted descriptor. Whoever finds a beginning
of it finds no claim, the claim, or claim and descriptor, and which of these it is tells
how much of the record is there.
-/

namespace Pardosa

open Foundation

/-- A beginning of two parts lies inside the first or goes on in the second. -/
theorem prefix_append_cases {α : Type} {part first second : List α}
    (begins : part <+: first ++ second) :
    part <+: first ∧ part.length < first.length ∨
      ∃ more, part = first ++ more ∧ more <+: second := by
  rcases Nat.lt_or_ge part.length first.length with shorter | longer
  · exact .inl ⟨List.prefix_of_prefix_length_le begins (List.prefix_append _ _) shorter.le, shorter⟩
  · obtain ⟨more, rfl⟩ := List.prefix_of_prefix_length_le (List.prefix_append first second) begins
      longer
    exact .inr ⟨more, rfl, (List.prefix_append_right_inj first).mp begins⟩

variable [Digests]

/-- A descriptor that admission handed out. -/
def AdmittedDescriptor.Admitted (admitted : AdmittedDescriptor) : Prop :=
  tryFromDescriptor admitted.descriptor = .ok admitted

instance (admitted : AdmittedDescriptor) : Decidable admitted.Admitted :=
  inferInstanceAs (Decidable (_ = _))

/-- What a creation writes into an ownership record. -/
structure Seed where
  claim : OwnershipClaimRecord
  admitted : AdmittedDescriptor
  admits : admitted.Admitted
  claimFits : (OwnershipRecord.ownershipClaim claim).encode.length ≤ u32Max

/-- The claim that can be read from the whole frames of an ownership record. -/
def recordedClaim (content : Option Bytes) : Option OwnershipClaimRecord :=
  match MetaRecords.ofFrames (wholeFrames content) with
  | .ok records => records.latestClaim
  | .error _ => none

namespace Seed

variable {seed other : Seed} {bytes : Bytes}

/-- The payload of the claim frame. -/
def claimPayload (seed : Seed) : Bytes := (OwnershipRecord.ownershipClaim seed.claim).encode

/-- The whole ownership record. -/
def record (seed : Seed) : Bytes := FileStorageAdapter.createdRecord seed.claim seed.admitted

/-- How long the record is once it holds the claim. -/
def seededLen (seed : Seed) : Nat := (containerBytes [seed.claimPayload]).length

/-- A seeded record is its header, the claim and the descriptor. -/
theorem record_eq (seed : Seed) : seed.record = ContainerHeader.new.toBytes ++
    (ContainerFrame.frameBytes seed.claimPayload ++
      ContainerFrame.frameBytes seed.admitted.encodedRecord) := by
  simp [record, FileStorageAdapter.createdRecord, containerBytes, framesBytes, claimPayload]

/-- The seeded length is within the record. -/
theorem seededLen_le (seed : Seed) : seed.seededLen ≤ seed.record.length := by
  simp [seededLen, record_eq, containerBytes]

/-- Something is seeded. -/
theorem seededLen_pos (seed : Seed) : 0 < seed.seededLen := by
  rw [seededLen, containerBytes, List.length_append, ContainerHeader.length_toBytes]
  omega

/-- An admitted descriptor fits its frame. -/
theorem descriptorFits (seed : Seed) : seed.admitted.encodedRecord.length ≤ u32Max := by
  have within := (AdmittedDescriptor.length_encodedRecord seed.admits).2
  have small : maxDescriptorRecordBytes ≤ u32Max := by decide
  exact within.trans small

/-- A beginning of the record holds no claim, the claim, or everything. -/
theorem wholeFrames_cases (begins : bytes <+: seed.record) :
    bytes.length < seed.seededLen ∧ wholeFrames (some bytes) = [] ∨
      seed.seededLen ≤ bytes.length ∧ wholeFrames (some bytes) = [seed.claimPayload] ∨
      bytes = seed.record ∧
        wholeFrames (some bytes) = [seed.claimPayload, seed.admitted.encodedRecord] := by
  have header : containerBytes [] = ContainerHeader.new.toBytes := by
    simp [containerBytes, framesBytes]
  have claimed : containerBytes [seed.claimPayload] =
      ContainerHeader.new.toBytes ++ ContainerFrame.frameBytes seed.claimPayload := by
    simp [containerBytes]
  have seeded : seed.seededLen = 12 + (ContainerFrame.frameBytes seed.claimPayload).length := by
    rw [seededLen, claimed, List.length_append, ContainerHeader.length_toBytes]
  have claimFits : ∀ frame ∈ [seed.claimPayload], frame.length ≤ u32Max := by
    intro frame member
    rw [List.mem_singleton.mp member]
    exact seed.claimFits
  rw [record_eq] at begins
  obtain ⟨within, shorter⟩ | ⟨rest, rfl, further⟩ := prefix_append_cases begins
  · rw [ContainerHeader.length_toBytes] at shorter
    exact .inl ⟨by omega, (Shape.header within shorter).wholeFrames_eq⟩
  obtain ⟨within, shorter⟩ | ⟨last, rfl, ends⟩ := prefix_append_cases further
  · refine .inl ⟨by rw [List.length_append, ContainerHeader.length_toBytes]; omega, ?_⟩
    have shape := Shape.of_part (List.forall_mem_nil _) seed.claimFits within
    rw [if_neg (by rintro rfl; exact lt_irrefl _ shorter), header] at shape
    exact shape.wholeFrames_eq
  · have shape := Shape.of_part claimFits seed.descriptorFits ends
    rw [claimed, List.append_assoc] at shape
    by_cases whole : last = ContainerFrame.frameBytes seed.admitted.encodedRecord
    · rw [if_pos whole] at shape
      exact .inr (.inr ⟨by rw [whole, record_eq], shape.wholeFrames_eq⟩)
    · rw [if_neg whole] at shape
      refine .inr (.inl ⟨?_, shape.wholeFrames_eq⟩)
      rw [List.length_append, List.length_append, ContainerHeader.length_toBytes]
      omega

/-- The records of the claim alone. -/
theorem ofFrames_claimed (seed : Seed) : MetaRecords.ofFrames [seed.claimPayload] =
    .ok { MetaRecords.empty with latestClaim := some seed.claim } := by
  have claimed := OwnershipRecord.decode_encode_ownershipClaim seed.claim []
  rw [List.append_nil] at claimed
  simp [MetaRecords.ofFrames, MetaRecords.absorbFrame, claimPayload, claimed, Except.mapError,
    MetaRecords.absorbRecord]

/-- The records of claim and descriptor. -/
theorem ofFrames_whole (seed : Seed) :
    MetaRecords.ofFrames [seed.claimPayload, seed.admitted.encodedRecord] =
      .ok (.created seed.claim seed.admitted.descriptor) :=
  MetaRecords.ofFrames_created seed.admits

/-- The claim is there once its frame is. -/
theorem recordedClaim_eq (begins : bytes <+: seed.record) :
    recordedClaim (some bytes) =
      if bytes.length < seed.seededLen then none else some seed.claim := by
  have whole := seed.seededLen_le
  unfold recordedClaim
  obtain ⟨short, frames⟩ | ⟨long, frames⟩ | ⟨rfl, frames⟩ := wholeFrames_cases begins
  · rw [frames, if_pos short]
    rfl
  · rw [frames, if_neg (Nat.not_lt.mpr long), ofFrames_claimed]
  · rw [frames, if_neg (Nat.not_lt.mpr whole), ofFrames_whole]
    rfl

/-- No whole record is the beginning of another. -/
theorem record_unique (begins : seed.record <+: other.record) : seed.record = other.record := by
  have own : wholeFrames (some seed.record) = [seed.claimPayload, seed.admitted.encodedRecord] := by
    refine (Shape.clean ?_).wholeFrames_eq
    intro frame member
    simp only [List.mem_cons, List.not_mem_nil, or_false] at member
    rcases member with rfl | rfl
    · exact seed.claimFits
    · exact seed.descriptorFits
  obtain ⟨-, nothing⟩ | ⟨-, claimed⟩ | ⟨same, -⟩ := wholeFrames_cases begins
  · rw [own] at nothing
    cases nothing
  · have counted := congrArg List.length (own.symm.trans claimed)
    cases counted
  · exact same

/-- Nothing comes behind a whole record. -/
theorem nothing_more {more : Bytes} (begins : seed.record ++ more <+: other.record) :
    more = [] := by
  have same := record_unique ((List.prefix_append _ _).trans begins)
  rw [← same] at begins
  have length := begins.length_le
  rw [List.length_append] at length
  exact List.length_eq_zero_iff.mp (by omega)

/-- Whoever reads a descriptor out of a beginning of the record has read all of it. -/
theorem described {scan : ContainerScan} {records : MetaRecords} (begins : bytes <+: seed.record)
    (scanned : scanContainer bytes = .ok scan)
    (decoded : MetaRecords.ofFrames scan.frames = .ok records)
    (described : records.schemaDescriptor.isSome = true) :
    bytes = seed.record ∧ records = .created seed.claim seed.admitted.descriptor := by
  have frames : wholeFrames (some bytes) = scan.frames := by simp only [wholeFrames, scanned]
  rw [← frames] at decoded
  obtain ⟨-, nothing⟩ | ⟨-, claimed⟩ | ⟨whole, all⟩ := wholeFrames_cases begins
  · rw [nothing] at decoded
    cases decoded
    cases described
  · rw [claimed, ofFrames_claimed] at decoded
    cases decoded
    cases described
  · rw [all, ofFrames_whole] at decoded
    exact ⟨whole, (Except.ok.inj decoded).symm⟩

end Seed

end Pardosa
