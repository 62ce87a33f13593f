import Pardosa.File.Opening
import Pardosa.File.Quiet
import Pardosa.Schema.RoundTrip

/-!
# What a creation leaves behind

A creation that succeeds has written a claim and a schema descriptor into the
ownership record, and nothing else, and a bare header into the event data. A
creation that stops after the ownership record has been synchronized leaves the
event data absent or with a beginning of its header.
-/

namespace Pardosa

open Foundation

/-- An artefact that no other process touches. -/
def aloneFiles : Setting fileOperations FileWorld := .solo fileSetting.exec

/-- Without failures, files nobody else touches are served as they should be. -/
theorem runs_alone {α : Type} (program : Program fileOperations α) (world : FileWorld) :
    program.Runs aloneFiles world (program.evaluate fileHandler world).1
      (program.evaluate fileHandler world).2 := by
  refine Program.runs_evaluate (fun _ => rfl) ?_ program world
  intro op before
  exact ⟨(op.request.serve (before op.name)).2, Or.inl rfl, rfl⟩

section Runs

variable {world later : FileWorld} {name : FileName} {σ : Type} {state after : σ}

/-- What sending a request may lead to. -/
theorem runs_send_iff {request : FileRequest} {answer : request.Res} :
    (request.send name).Runs aloneFiles world answer later ↔
      ∃ file, request.Performs (world name) answer file ∧
        later = Function.update world name file := by
  constructor
  · rintro (_ | ⟨⟨⟩, performed, ⟨⟩⟩)
    exact performed
  · intro performed
    exact .call rfl performed .ret

/-- A checked operation goes through exactly when it succeeds. -/
theorem runs_orRefuse_ok_iff {α : Type} {program : Program fileOperations (Except IoError α)}
    {condition : FailureCondition} {detail : String} {value : α} :
    (orRefuse program condition detail).Runs aloneFiles state world (.ok value) after later ↔
      program.Runs aloneFiles world (.ok value) later ∧ state = after := by
  unfold orRefuse
  rw [Action.runs_bind_ok_iff]
  constructor
  · rintro ⟨answer, _, _, first, second⟩
    obtain ⟨served, rfl⟩ := Action.runs_lift_ok_iff.mp first
    obtain ⟨renamed, rfl, rfl⟩ := Action.runs_ofExcept_iff.mp second
    rw [mapError_eq_ok] at renamed
    subst renamed
    exact ⟨served, rfl⟩
  · rintro ⟨served, rfl⟩
    exact ⟨.ok value, state, later, Action.runs_lift_ok_iff.mpr ⟨served, rfl⟩,
      Action.runs_ofExcept_iff.mpr ⟨rfl, rfl, rfl⟩⟩

/-- A `write_all` that succeeds has put all bytes behind those of the file. -/
theorem runs_writeAllLoop_ok {rounds : Nat} {bytes base : Bytes} {done : Unit}
    (runs : (writeAllLoop name rounds bytes).Runs aloneFiles world (.ok done) later)
    (stands : world name = ⟨some base, base.length⟩) :
    later = Function.update world name ⟨some (base ++ bytes), (base ++ bytes).length⟩ := by
  induction rounds generalizing world base bytes with
  | zero =>
      cases bytes with
      | nil =>
          cases runs
          rw [List.append_nil, ← stands, Function.update_eq_self]
      | cons byte bytes => cases runs
  | succ rounds ih =>
      cases bytes with
      | nil =>
          cases runs
          rw [List.append_nil, ← stands, Function.update_eq_self]
      | cons byte bytes =>
          obtain ⟨answer, between, first, second⟩ := Program.runs_bind_iff.mp runs
          obtain ⟨file, performed, rfl⟩ := runs_send_iff.mp first
          rcases answer with failure | _ | count
          · cases second
          · cases second
          · rw [stands] at performed
            obtain ⟨within, rfl⟩ := FileRequest.performs_write_ok performed
            have rest := ih second (Function.update_self ..)
            rw [List.append_assoc, List.take_append_drop, Function.update_idem] at rest
            exact rest

/-- A write that succeeds has added all its bytes. -/
theorem runs_writeAll_ok {bytes base : Bytes} {done : Unit}
    (runs : (writeAll name bytes).Runs aloneFiles world (.ok done) later)
    (stands : world name = ⟨some base, base.length⟩) :
    later = Function.update world name ⟨some (base ++ bytes), (base ++ bytes).length⟩ :=
  runs_writeAllLoop_ok runs stands

/-- A program that asks for nothing but quiet requests leaves both files. -/
theorem sameContents_of_runs {α : Type} {program : Program fileOperations α} {value : α}
    (only : program.Only (FileOp.IsQuiet : fileOperations.Op → Prop))
    (runs : program.Runs aloneFiles world value later) : SameContents world later := by
  have kept : program.wp aloneFiles (fun _ final => SameContents world final) world := by
    refine Program.wp_of_only SameContents SameContents.refl SameContents.trans ?_ ?_ only world
    · rintro before _ rfl
      exact SameContents.refl before
    · intro op before answer final quiet performed
      exact ⟨trivial, sameContents_of_quiet quiet performed⟩
  have final := Program.wp_of_runs runs kept
  exact final

/-- Only the standard policy ever takes the lock. -/
theorem runs_acquireFileExclusion_ok {policy : FileExclusionPolicy} {done : Unit}
    (runs : (acquireFileExclusion policy).Runs aloneFiles state world (.ok done) after later) :
    policy = .standard ∧ state = after ∧ SameContents world later := by
  have quiet : FileOp.IsQuiet ⟨.pgnoFile, .tryLock⟩ := rfl
  have same := sameContents_of_runs (acquireFileExclusion_only policy quiet state) runs
  cases policy with
  | standard =>
      simp only [acquireFileExclusion, Action.runs_bind_ok_iff] at runs
      obtain ⟨answer, _, _, first, second⟩ := runs
      obtain ⟨-, rfl⟩ := Action.runs_lift_ok_iff.mp first
      rcases answer with (_ | failure) | _
      · cases second
      · cases second
      · cases second
        exact ⟨rfl, rfl, same⟩
  | simulateUnavailable => cases runs
  | simulateHeldByOther => cases runs

end Runs

namespace FileStorageAdapter

variable {adapter : FileStorageAdapter} {world later : FileWorld} {σ : Type} {state after : σ}

/-- Whoever finds no artefact has looked at both files, and neither was there. -/
theorem runs_tryPresence_none
    (runs : adapter.tryPresence.Runs aloneFiles state world (.ok .none) after later) :
    later = world ∧ (world .metaFile).content = none ∧ (world .pgnoFile).content = none := by
  simp only [tryPresence, Action.runs_bind_ok_iff] at runs
  obtain ⟨metaExists, _, _, first, pgnoExists, _, _, second, third⟩ := runs
  obtain ⟨metaLooked, rfl⟩ := runs_orRefuse_ok_iff.mp first
  obtain ⟨pgnoLooked, rfl⟩ := runs_orRefuse_ok_iff.mp second
  obtain ⟨metaState, metaPerformed, rfl⟩ := runs_send_iff.mp metaLooked
  obtain ⟨rfl, rfl⟩ := FileRequest.performs_tryExists_ok metaPerformed
  rw [Function.update_eq_self] at pgnoLooked
  obtain ⟨pgnoState, pgnoPerformed, rfl⟩ := runs_send_iff.mp pgnoLooked
  obtain ⟨rfl, rfl⟩ := FileRequest.performs_tryExists_ok pgnoPerformed
  rw [Function.update_eq_self] at third
  cases metaFound : (world .metaFile).content with
  | some content =>
      rw [metaFound] at third
      cases pgnoFound : (world .pgnoFile).content <;> rw [pgnoFound] at third <;> cases third
  | none =>
      rw [metaFound] at third
      cases pgnoFound : (world .pgnoFile).content with
      | some content =>
          rw [pgnoFound] at third
          cases third
      | none =>
          rw [pgnoFound] at third
          cases third
          exact ⟨rfl, rfl, rfl⟩

variable [Digests]

/-- A frame that is written to the record stands behind what was there. -/
theorem runs_writeMetaFrame_ok {payload base : Bytes} {what : String} {done : Unit}
    (runs : (writeMetaFrame payload what).Runs aloneFiles state world (.ok done) after later)
    (stands : world .metaFile = ⟨some base, base.length⟩) :
    state = after ∧ payload.length ≤ u32Max ∧
      later = Function.update world .metaFile
        ⟨some (base ++ ContainerFrame.frameBytes payload),
          (base ++ ContainerFrame.frameBytes payload).length⟩ := by
  simp only [writeMetaFrame, Action.runs_bind_ok_iff, Action.runs_ofExcept_iff, mapError_eq_ok,
    runs_orRefuse_ok_iff] at runs
  obtain ⟨frame, _, _, ⟨encoded, rfl, rfl⟩, written, rfl⟩ := runs
  unfold ContainerFrame.encodePayload ContainerFrame.tryEncodePayload at encoded
  split_ifs at encoded with fits
  cases encoded
  exact ⟨rfl, fits, runs_writeAll_ok written stands⟩

/-- The bytes of an ownership record with one claim and one descriptor. -/
def createdRecord (claim : OwnershipClaimRecord) (descriptor : AdmittedDescriptor) : Bytes :=
  containerBytes [(OwnershipRecord.ownershipClaim claim).encode, descriptor.encodedRecord]

/-- The first half of a creation succeeds only where there is no artefact, and
leaves exactly a claim and a descriptor. -/
theorem runs_createOwnershipRecord_ok {claim : OwnershipClaimRecord}
    {descriptor : AdmittedDescriptor} {maxWireLen : Nat} {done : Unit}
    (runs : (adapter.createOwnershipRecord claim descriptor maxWireLen).Runs aloneFiles state world
      (.ok done) after later) :
    (OwnershipRecord.ownershipClaim claim).encode.length ≤ u32Max ∧
      descriptor.encodedRecord.length ≤ u32Max ∧
      (later .metaFile).content = some (createdRecord claim descriptor) ∧
      (later .pgnoFile).content = none := by
  simp only [createOwnershipRecord, Action.runs_bind_ok_iff, Action.runs_ofExcept_iff,
    Action.runs_lift_ok_iff] at runs
  obtain ⟨presence, _, _, looked, _, _, _, ⟨admitted, rfl, rfl⟩, runs⟩ := runs
  obtain rfl : presence = .none := by
    cases presence with
    | none => rfl
    | ownershipRecordOnly => cases admitted
    | eventDataOnly => cases admitted
    | both => cases admitted
  obtain ⟨rfl, -, noPgno⟩ := runs_tryPresence_none looked
  obtain ⟨_, _, _, ⟨-, rfl, rfl⟩, _, _, _, ⟨created, rfl⟩, runs⟩ := runs
  obtain ⟨_, _, _, ⟨made, rfl, rfl⟩, _, _, _, header, runs⟩ := runs
  obtain ⟨_, _, _, claimed, _, _, _, described, synced⟩ := runs
  obtain rfl := mapError_eq_ok.mp made
  obtain ⟨headerWritten, rfl⟩ := runs_orRefuse_ok_iff.mp header
  obtain ⟨syncedMeta, rfl⟩ := runs_orRefuse_ok_iff.mp synced
  obtain ⟨file, performed, rfl⟩ := runs_send_iff.mp created
  obtain ⟨-, rfl⟩ := FileRequest.performs_createNew_ok performed
  have headed := runs_writeAll_ok headerWritten (Function.update_self ..)
  subst headed
  obtain ⟨rfl, claimFits, rfl⟩ := runs_writeMetaFrame_ok claimed (Function.update_self ..)
  obtain ⟨rfl, descriptorFits, rfl⟩ := runs_writeMetaFrame_ok described (Function.update_self ..)
  obtain ⟨file, performed, rfl⟩ := runs_send_iff.mp syncedMeta
  have unchanged := FileRequest.performs_syncData_ok performed
  subst unchanged
  refine ⟨claimFits, descriptorFits, ?_, ?_⟩
  · simp [createdRecord, containerBytes, framesBytes]
  · simp [noPgno]

/-- The second half of a creation succeeds only where there is no event data, and
leaves a bare header. -/
theorem runs_createEventData_ok {claim : OwnershipClaimRecord} {session : Store FileEngine}
    (runs : (adapter.createEventData claim).Runs aloneFiles state world (.ok session) after later) :
    adapter.exclusionPolicy = .standard ∧
      (later .metaFile).content = (world .metaFile).content ∧
      (later .pgnoFile).content = some (containerBytes []) := by
  simp only [createEventData, Action.runs_bind_ok_iff, Action.runs_ofExcept_iff,
    Action.runs_lift_ok_iff, Action.runs_within_iff] at runs
  obtain ⟨_, _, _, ⟨created, rfl⟩, _, _, _, ⟨made, rfl, rfl⟩, _, _, _, header, runs⟩ := runs
  obtain ⟨_, _, _, synced, _, _, _, locked, _, opened, rfl⟩ := runs
  obtain rfl := mapError_eq_ok.mp made
  obtain ⟨headerWritten, rfl⟩ := runs_orRefuse_ok_iff.mp header
  obtain ⟨syncedPgno, rfl⟩ := runs_orRefuse_ok_iff.mp synced
  obtain ⟨file, performed, rfl⟩ := runs_send_iff.mp created
  obtain ⟨-, rfl⟩ := FileRequest.performs_createNew_ok performed
  have headed := runs_writeAll_ok headerWritten (Function.update_self ..)
  subst headed
  obtain ⟨file, performed, rfl⟩ := runs_send_iff.mp syncedPgno
  have unchanged := FileRequest.performs_syncData_ok performed
  subst unchanged
  obtain ⟨policy, -, keptByLock⟩ := runs_acquireFileExclusion_ok locked
  have keptByOpening := sameContents_of_runs
    (FileEngine.openWriter_only (fun _ calm => FileRequest.isQuiet_of_isCalm calm) _) opened
  have kept := keptByLock.trans keptByOpening
  refine ⟨policy, (kept .metaFile).trans ?_, (kept .pgnoFile).trans ?_⟩
  · simp
  · simp [containerBytes, framesBytes]

/-- A creation that succeeds leaves a claim, a descriptor and a bare header. -/
theorem runs_create_ok {claim : OwnershipClaimRecord} {descriptor : AdmittedDescriptor}
    {session : Store FileEngine}
    (runs : (adapter.create claim descriptor).Runs aloneFiles state world (.ok session) after
      later) :
    adapter.exclusionPolicy = .standard ∧
      (OwnershipRecord.ownershipClaim claim).encode.length ≤ u32Max ∧
      descriptor.encodedRecord.length ≤ u32Max ∧
      (later .metaFile).content = some (createdRecord claim descriptor) ∧
      (later .pgnoFile).content = some (containerBytes []) := by
  obtain ⟨_, _, _, first, second⟩ := Action.runs_bind_ok_iff.mp runs
  obtain ⟨claimFits, descriptorFits, recorded, -⟩ := runs_createOwnershipRecord_ok first
  obtain ⟨policy, kept, headed⟩ := runs_createEventData_ok second
  exact ⟨policy, claimFits, descriptorFits, kept.trans recorded, headed⟩

/-- Without failures, a frame is written behind an ownership record. -/
theorem evaluate_writeMetaFrame (state : σ) {payload base : Bytes} (what : String)
    (fits : payload.length ≤ u32Max) (stands : world .metaFile = ⟨some base, base.length⟩) :
    (writeMetaFrame payload what state).evaluate fileHandler world =
      ((.ok (), state), Function.update world .metaFile
        ⟨some (base ++ ContainerFrame.frameBytes payload),
          (base ++ ContainerFrame.frameBytes payload).length⟩) := by
  have encoded : ContainerFrame.encodePayload payload = .ok (ContainerFrame.frameBytes payload) :=
    if_pos fits
  unfold writeMetaFrame
  rw [encoded, Action.evaluate_bind rfl]
  exact evaluate_orRefuse (evaluate_writeAll _ stands)

omit [Digests] in
/-- Without failures, a file that is not there is created. -/
theorem evaluate_createNew {name : FileName} (missing : (world name).content = none) :
    (FileRequest.send .createNew name).evaluate fileHandler world =
      (.ok (), Function.update world name ⟨some [], 0⟩) := by
  rw [evaluate_send]
  simp only [FileRequest.serve, missing]
  rfl

omit [Digests] in
/-- Without failures, synchronizing changes nothing. -/
theorem evaluate_syncData (name : FileName) (world : FileWorld) :
    (FileRequest.send .syncData name).evaluate fileHandler world = (.ok (), world) := by
  rw [evaluate_send]
  simp only [FileRequest.serve, Function.update_eq_self]

/-- Without failures, the ownership record of a new artefact is written. -/
theorem evaluate_createOwnershipRecord (state : σ) {claim : OwnershipClaimRecord}
    {descriptor : AdmittedDescriptor} (absent : ∀ name, (world name).content = none)
    (claimFits : (OwnershipRecord.ownershipClaim claim).encode.length ≤ u32Max)
    (descriptorFits : descriptor.encodedRecord.length ≤ u32Max) :
    ∃ synced, (adapter.createOwnershipRecord claim descriptor u32Max state).evaluate fileHandler
      world = ((.ok (), state), synced) ∧ (synced .pgnoFile).content = none := by
  have present : (adapter.tryPresence state).evaluate fileHandler world =
      ((.ok .none, state), world) := by
    rw [evaluate_tryPresence, absent, absent]
    rfl
  have bounded : ∃ total, computeClaimWireLenBounded
      (utf8Bytes claim.operatorLabel.val).length u32Max = .ok total := by
    rw [OwnershipRecord.length_encode_ownershipClaim] at claimFits
    unfold computeClaimWireLenBounded
    rw [checkedAdd_eq (by unfold u32Max at claimFits; unfold u64Max; omega)]
    dsimp only
    rw [if_neg (by omega)]
    exact ⟨_, rfl⟩
  obtain ⟨total, wireLen⟩ := bounded
  have stands : ∀ (world : FileWorld) (content : Bytes),
      Function.update world .metaFile ⟨some content, content.length⟩ .metaFile =
        ⟨some content, content.length⟩ := by
    intro world content
    exact Function.update_self ..
  have blank : Function.update world .metaFile ⟨some [], 0⟩ .metaFile =
      ⟨some ([] : Bytes), ([] : Bytes).length⟩ := Function.update_self ..
  unfold createOwnershipRecord
  rw [Action.evaluate_bind present, Action.evaluate_bind rfl, wireLen, Action.evaluate_bind rfl,
    Action.evaluate_bind (Action.evaluate_lift (evaluate_createNew (absent .metaFile)) state),
    Action.evaluate_bind rfl,
    Action.evaluate_bind (evaluate_orRefuse (evaluate_writeAll _ blank)),
    Action.evaluate_bind (evaluate_writeMetaFrame state _ claimFits (stands _ _)),
    Action.evaluate_bind (evaluate_writeMetaFrame state _ descriptorFits (stands _ _)),
    evaluate_orRefuse (evaluate_syncData .metaFile _)]
  refine ⟨_, rfl, ?_⟩
  simp [absent]

/-- The session over a new artefact. -/
def newSession (adapter : FileStorageAdapter) (claim : OwnershipClaimRecord) : Store FileEngine :=
  ⟨adapter.engine claim.epoch 0 none, .new, .new, none, false, none⟩

/-- Without failures, the event data of a new artefact is created and opened. -/
theorem evaluate_createEventData (state : σ) {claim : OwnershipClaimRecord}
    (standard : adapter.exclusionPolicy = .standard) (missing : (world .pgnoFile).content = none) :
    ∃ later, (adapter.createEventData claim state).evaluate fileHandler world =
      ((.ok (adapter.newSession claim), state), later) := by
  have blank : Function.update world .pgnoFile ⟨some [], 0⟩ .pgnoFile =
      ⟨some ([] : Bytes), ([] : Bytes).length⟩ := Function.update_self ..
  have headed : (Function.update (Function.update world .pgnoFile ⟨some [], 0⟩) .pgnoFile
      ⟨some ([] ++ ContainerHeader.new.toBytes),
        ([] ++ ContainerHeader.new.toBytes : Bytes).length⟩ .pgnoFile).content =
      some (containerBytes []) := by
    simp [containerBytes, framesBytes]
  obtain ⟨final, opened⟩ := FileEngine.evaluate_openWriter
    (rfl : (adapter.engine claim.epoch 0 none).file = true) (List.forall_mem_nil _) headed
  refine ⟨final, ?_⟩
  unfold createEventData
  rw [Action.evaluate_bind (Action.evaluate_lift (evaluate_createNew missing) state),
    Action.evaluate_bind rfl,
    Action.evaluate_bind (evaluate_orRefuse (evaluate_writeAll _ blank)),
    Action.evaluate_bind (evaluate_orRefuse (evaluate_syncData .pgnoFile _)), standard,
    Action.evaluate_bind (evaluate_acquireFileExclusion state _)]
  exact Action.evaluate_within opened state

/-- Without failures, a creation where there is no artefact succeeds. -/
theorem evaluate_create (state : σ) {claim : OwnershipClaimRecord} {descriptor : AdmittedDescriptor}
    (standard : adapter.exclusionPolicy = .standard)
    (absent : ∀ name, (world name).content = none)
    (claimFits : (OwnershipRecord.ownershipClaim claim).encode.length ≤ u32Max)
    (descriptorFits : descriptor.encodedRecord.length ≤ u32Max) :
    ∃ later, (adapter.create claim descriptor state).evaluate fileHandler world =
      ((.ok (adapter.newSession claim), state), later) := by
  obtain ⟨synced, recorded, missing⟩ :=
    evaluate_createOwnershipRecord state absent claimFits descriptorFits
  obtain ⟨later, completed⟩ := evaluate_createEventData state standard missing
  refine ⟨later, ?_⟩
  unfold create createWithLimit
  rw [Action.evaluate_bind recorded]
  exact completed

end FileStorageAdapter

/-- The records of a new artefact. -/
def MetaRecords.created (claim : OwnershipClaimRecord) (descriptor : SchemaDescriptor) :
    MetaRecords :=
  { MetaRecords.empty with latestClaim := some claim, schemaDescriptor := some descriptor }

/-- A claim and an admitted descriptor are read back as they were written. -/
theorem MetaRecords.ofFrames_created [Digests] {claim : OwnershipClaimRecord}
    {descriptor : SchemaDescriptor} {admitted : AdmittedDescriptor}
    (admits : AdmittedDescriptor.tryFromDescriptor descriptor = .ok admitted) :
    ofFrames [(OwnershipRecord.ownershipClaim claim).encode, admitted.encodedRecord] =
      .ok (created claim descriptor) := by
  obtain ⟨bytes, encoded, known, -, record⟩ := AdmittedDescriptor.tryFromDescriptor_ok admits
  have claimed := OwnershipRecord.decode_encode_ownershipClaim claim []
  rw [List.append_nil] at claimed
  have described := OwnershipRecord.decode_encode_schemaDescriptor descriptor.version bytes
  have tree := DescriptorNode.decode_encode encoded known []
  rw [List.append_nil] at tree
  rw [record]
  have first : absorbFrame inMetaFile empty (OwnershipRecord.ownershipClaim claim).encode =
      .ok { empty with latestClaim := some claim } := by
    unfold absorbFrame
    simp only [claimed, Except.mapError, ok_bind]
    rw [if_neg (by simp)]
    rfl
  have second : absorbFrame inMetaFile { empty with latestClaim := some claim }
      (OwnershipRecord.schemaDescriptor descriptor.version bytes).encode =
      .ok (created claim descriptor) := by
    unfold absorbFrame
    simp only [described, Except.mapError, ok_bind]
    rw [if_neg (by simp)]
    unfold absorbRecord
    simp only [tree, Except.mapError, ok_bind]
    rw [if_neg (by simp)]
    rfl
  unfold ofFrames
  simp only [List.foldlM_cons, List.foldlM_nil, first, second, ok_bind]
  rfl

end Pardosa
