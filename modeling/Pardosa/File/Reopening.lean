import Pardosa.File.CrashSafety
import Pardosa.File.Verdict

/-!
# Reopening what was created

A creation and a later opening meet in the two files. The claim and the
descriptor come back as they were given, through four codecs, and only the epoch
of the claim is admitted.
-/

namespace Pardosa

open Foundation

section Created

variable [Digests] {claim : OwnershipClaimRecord} {descriptor : SchemaDescriptor}
  {admitted : AdmittedDescriptor}

/-- The artefact that a creation leaves. -/
def createdArtefact (claim : OwnershipClaimRecord) (admitted : AdmittedDescriptor) : Artefact :=
  ⟨some [(OwnershipRecord.ownershipClaim claim).encode, admitted.encodedRecord], some []⟩

omit [Digests] in
/-- What a creation writes fits its frames. -/
theorem createdArtefact_fits
    (claimFits : (OwnershipRecord.ownershipClaim claim).encode.length ≤ u32Max)
    (descriptorFits : admitted.encodedRecord.length ≤ u32Max) :
    (createdArtefact claim admitted).Fits where
  records := by
    rintro _ ⟨⟩ payload member
    simp only [List.mem_cons, List.not_mem_nil, or_false] at member
    rcases member with rfl | rfl
    · exact claimFits
    · exact descriptorFits
  events := by
    rintro _ ⟨⟩ payload member
    cases member

/-- A new artefact admits the epoch of its claim, over no events. -/
theorem createdArtefact_admits
    (admits : AdmittedDescriptor.tryFromDescriptor descriptor = .ok admitted) :
    (createdArtefact claim admitted).writeVerdict claim.epoch = .ok (.new, .new) := by
  unfold createdArtefact Artefact.writeVerdict
  simp only [MetaRecords.ofFrames_created admits, conditionOf_ok, ok_bind]
  simp [MetaRecords.admitsWriter, MetaRecords.describes, MetaRecords.created, MetaRecords.empty,
    refusedWhen, requiredOr, admits, Except.mapError]
  rfl

/-- A claim and a descriptor without events admit the epoch of the claim, to
complete the artefact. -/
theorem recordedArtefact_admits
    (admits : AdmittedDescriptor.tryFromDescriptor descriptor = .ok admitted) :
    Artefact.writeVerdict ⟨some [(OwnershipRecord.ownershipClaim claim).encode,
      admitted.encodedRecord], none⟩ claim.epoch = .ok (.new, .new) := by
  unfold Artefact.writeVerdict
  simp only [MetaRecords.ofFrames_created admits, conditionOf_ok, ok_bind]
  simp [MetaRecords.admitsCompletion, MetaRecords.describes, MetaRecords.created,
    MetaRecords.empty, refusedWhen, requiredOr, admits, Except.mapError]

/-- A claim and a descriptor pass the checks, and whatever comes next decides. -/
theorem createdRecords_pass
    (admits : AdmittedDescriptor.tryFromDescriptor descriptor = .ok admitted) {γ : Type}
    (verdict : Except FailureCondition γ) :
    (do
      let records ← conditionOf (MetaRecords.ofFrames
        [(OwnershipRecord.ownershipClaim claim).encode, admitted.encodedRecord])
      records.admitsWriter claim.epoch
      verdict) = verdict := by
  simp only [MetaRecords.ofFrames_created admits, conditionOf_ok, ok_bind]
  simp [MetaRecords.admitsWriter, MetaRecords.describes, MetaRecords.created, MetaRecords.empty,
    refusedWhen, requiredOr, admits, Except.mapError]

/-- A new artefact refuses every other epoch as stale. -/
theorem createdArtefact_refuses
    (admits : AdmittedDescriptor.tryFromDescriptor descriptor = .ok admitted) {epoch : UInt64}
    (other : epoch ≠ claim.epoch) :
    (createdArtefact claim admitted).writeVerdict epoch = .error .staleEpoch := by
  unfold createdArtefact Artefact.writeVerdict
  simp only [MetaRecords.ofFrames_created admits, conditionOf_ok, ok_bind]
  simp [MetaRecords.admitsWriter, MetaRecords.describes, MetaRecords.created, MetaRecords.empty,
    refusedWhen, requiredOr, admits, Except.mapError, other.symm]

/-- What a successful creation wrote is read back: the claim and the descriptor
and no other record, a descriptor that is admitted with the same identity and
record, and a writer with the epoch of the claim and with no other. -/
theorem create_reopens_faithfully {adapter : FileStorageAdapter} {world later : FileWorld}
    {session : Store FileEngine}
    (admits : AdmittedDescriptor.tryFromDescriptor descriptor = .ok admitted)
    (created : (adapter.create claim admitted).Runs aloneFiles () world (.ok session) () later) :
    (∃ records, ((readMetaRecords ()).evaluate fileHandler later).1.1 = .ok records ∧
      records = { MetaRecords.empty with
        latestClaim := some claim, schemaDescriptor := some descriptor } ∧
      ∃ found readmitted, records.schemaDescriptor = some found ∧
        AdmittedDescriptor.tryFromDescriptor found = .ok readmitted ∧
        readmitted.identity = admitted.identity ∧
        readmitted.encodedRecord = admitted.encodedRecord) ∧
    (∃ reopened : Store FileEngine,
      ((adapter.openWrite claim.epoch ()).evaluate fileHandler later).1.1 = .ok reopened ∧
        reopened.derived = (.new, .new)) ∧
    ∀ epoch, epoch ≠ claim.epoch → ∃ failure : OperationFailure,
      ((adapter.openWrite epoch ()).evaluate fileHandler later).1.1 = .error failure ∧
        failure.condition = .staleEpoch := by
  obtain ⟨standard, claimFits, descriptorFits, recorded, headed⟩ :=
    FileStorageAdapter.runs_create_ok created
  have fits : (createdArtefact claim admitted).Fits := createdArtefact_fits claimFits descriptorFits
  have holds : later.Holds (createdArtefact claim admitted) := ⟨recorded, headed⟩
  refine ⟨?_, ?_, ?_⟩
  · obtain ⟨final, read, -, -⟩ :=
      evaluate_readMetaRecords () (fits.records _ rfl) recorded
    rw [MetaRecords.ofFrames_created admits] at read
    refine ⟨MetaRecords.created claim descriptor, ?_, rfl, descriptor, admitted, rfl, admits, rfl,
      rfl⟩
    rw [read]
  · have ends := FileStorageAdapter.openWrite_verdict standard fits holds claim.epoch ()
    rw [createdArtefact_admits admits] at ends
    exact exists_of_endsAs_ok ends
  · intro epoch other
    have ends := FileStorageAdapter.openWrite_verdict standard fits holds epoch ()
    rw [createdArtefact_refuses admits other] at ends
    exact exists_of_endsAs_error ends

end Created

section Interrupted

variable [Digests] {adapter : FileStorageAdapter} {claim : OwnershipClaimRecord} {σ : Type}
  {state : σ}

/-- Event data that is missing or holds a beginning of a header. -/
def HeaderBegun (content : Option Bytes) : Prop :=
  ∀ part, content = some part → part <+: ContainerHeader.new.toBytes

/-- The second half of a creation never leaves more than a beginning of a header. -/
theorem FileStorageAdapter.wp_createEventData {world : FileWorld}
    (missing : (world .pgnoFile).content = none) :
    (adapter.createEventData claim).wp (keeping HeaderBegun)
      (fun _ _ _ => True) state world := by
  have written : ∀ after : FileWorld, (after .pgnoFile).content =
    some ([] ++ ContainerHeader.new.toBytes) →
      (after .pgnoFile).content = some (containerBytes []) := by
    intro after headed
    rw [headed]
    simp [containerBytes, framesBytes]
  simp only [createEventData, Action.wp_bind, Action.wp_lift, Action.wp_ofExcept, wp_orRefuse,
    Action.wp_within]
  refine wp_send_pgno _ ?_
  rintro answer file (served | ⟨⟨failure, rfl⟩, rfl⟩)
  · simp only [FileRequest.serve, missing, Option.isSome_none, Bool.false_eq_true,
      if_false] at served
    cases served
    refine ⟨?_, ?_⟩
    · rintro - part ⟨⟩
      exact List.nil_prefix
    intro first blank
    have empty : first .pgnoFile = ⟨some ([] ++ []), ([] ++ [] : Bytes).length⟩ := blank
    refine wp_writeAllLoop_pgno ?_ ?_ ?_ (List.nil_append ContainerHeader.new.toBytes) empty
    · refine .of_safe ?_
      rintro part begins _ ⟨⟩
      exact begins
    · intro second headed
      have known : second .pgnoFile = ⟨some (containerBytes []), (second .pgnoFile).position⟩ := by
        rw [← written second headed]
      refine wp_syncData_pgno known ?_
      rintro (failure | _) third still
      · trivial
      refine wp_acquireFileExclusion ?_
      rintro (failure | _) fourth kept
      · trivial
      exact FileEngine.wp_openWriter rfl (List.forall_mem_nil _) (by rw [kept, still])
        (fun _ _ _ _ => trivial) (fun _ _ _ _ => trivial)
    · intros
      trivial
  · exact ⟨id, fun _ _ => trivial⟩

/-- Wherever the second half of a creation stops, the ownership record is as the
first half left it and the event data is missing or holds a beginning of its
header. -/
theorem FileStorageAdapter.createEventData_stops {synced stopped : FileWorld}
    {rest : Program fileOperations (Except OperationFailure (Store FileEngine) × σ)}
    (missing : (synced .pgnoFile).content = none)
    (reaches : (adapter.createEventData claim state).Reaches aloneFiles synced rest stopped) :
    (stopped .metaFile).content = (synced .metaFile).content ∧
      HeaderBegun (stopped .pgnoFile).content := by
  constructor
  · have kept : stopped .metaFile = synced .metaFile := by
      refine Program.related_of_reaches (fun before after => after .metaFile = before .metaFile)
        (fun _ => rfl) ?_ ?_ ?_ (adapter.createEventData_only claim state) reaches
      · intro before between after first second
        exact second.trans first
      · rintro before _ rfl
        rfl
      · rintro op before answer after onEventData ⟨file, -, rfl⟩
        have other : FileName.metaFile ≠ op.name := by
          rw [onEventData]
          decide
        exact Function.update_of_ne other ..
    rw [kept]
  · have amongOthers : (adapter.createEventData claim state).Reaches fileSetting synced rest
        stopped := by
      refine Program.reaches_weaken reaches fileSetting rfl ?_
      rintro before _ rfl
      rfl
    refine keeping_of_reaches amongOthers (wp_createEventData missing) ?_
    rintro part found
    rw [missing] at found
    cases found

variable {descriptor : SchemaDescriptor} {admitted : AdmittedDescriptor}

/-- A creation that has synchronized its ownership record stops, at any later
point and for whatever reason. -/
def FileStorageAdapter.StopsAfterRecord (adapter : FileStorageAdapter)
    (claim : OwnershipClaimRecord) (admitted : AdmittedDescriptor) (stopped : FileWorld) : Prop :=
  ∃ world synced rest maxWireLen,
    (adapter.createOwnershipRecord claim admitted maxWireLen).Runs aloneFiles () world (.ok ()) ()
      synced ∧
    (adapter.createEventData claim ()).Reaches aloneFiles synced rest stopped

/-- A creation that stopped can be completed exactly when it stopped before the
event data was created or after its header was written. -/
theorem FileStorageAdapter.openWrite_of_stopsAfterRecord {reopener : FileStorageAdapter}
    {stopped : FileWorld} (admits : AdmittedDescriptor.tryFromDescriptor descriptor = .ok admitted)
    (standard : reopener.exclusionPolicy = .standard)
    (stops : adapter.StopsAfterRecord claim admitted stopped) :
    (∃ session, ((reopener.openWrite claim.epoch ()).evaluate fileHandler stopped).1.1 =
        .ok session ∧ session.derived = (.new, .new)) ↔
      (stopped .pgnoFile).content = none ∨
        (stopped .pgnoFile).content = some ContainerHeader.new.toBytes := by
  obtain ⟨world, synced, rest, maxWireLen, created, reaches⟩ := stops
  obtain ⟨claimFits, descriptorFits, recorded, missing⟩ := runs_createOwnershipRecord_ok created
  obtain ⟨kept, begun⟩ := createEventData_stops missing reaches
  rw [recorded] at kept
  have fits := createdArtefact_fits claimFits descriptorFits
  have recordsFit := fits.records _ rfl
  cases stands : (stopped .pgnoFile).content with
  | none =>
      have ends := openWrite_recordOnly standard recordsFit kept stands claim.epoch ()
      rw [recordedArtefact_admits admits] at ends
      exact iff_of_true (exists_of_endsAs_ok ends) (Or.inl rfl)
  | some part =>
      have begins : part <+: ContainerHeader.new.toBytes := begun part stands
      by_cases whole : part = ContainerHeader.new.toBytes
      · subst whole
        have headed : (stopped .pgnoFile).content = some (containerBytes []) := by
          rw [stands]
          simp [containerBytes, framesBytes]
        have ends := openWrite_verdict standard fits ⟨kept, headed⟩ claim.epoch ()
        rw [createdArtefact_admits admits] at ends
        exact iff_of_true (exists_of_endsAs_ok ends) (Or.inr rfl)
      · have short : part.length < 12 := by
          have fewer := begins.length_le
          rw [ContainerHeader.length_toBytes] at fewer
          refine lt_of_le_of_ne fewer fun same => whole (begins.eq_of_length ?_)
          rw [same, ContainerHeader.length_toBytes]
        have ends := openWrite_short standard recordsFit kept stands short claim.epoch ()
        rw [createdRecords_pass admits] at ends
        obtain ⟨failure, refused, -⟩ := exists_of_endsAs_error ends
        refine iff_of_false ?_ ?_
        · rintro ⟨session, opened, -⟩
          rw [refused] at opened
          cases opened
        · rintro (absent | complete)
          · cases absent
          · exact whole (Option.some.inj complete)

end Interrupted

section Example

attribute [local instance] standardDigests

/-- No artefact at all. -/
def noFiles : FileWorld := fun _ => ⟨none, 0⟩

/-- A claim of a named operator. -/
def labelledClaim : OwnershipClaimRecord :=
  ⟨7, ⟨List.replicate 16 11, List.length_replicate ..⟩,
    ⟨List.replicate 16 12, List.length_replicate ..⟩,
    4242, 5, 6, ⟨"night shift", by decide +kernel⟩⟩

/-- The schema of a record with a vector and an enumeration in it. -/
def readingSchema : SchemaDescriptor :=
  ⟨2, .struct "Reading" (.cons "sensor" .uuid (.cons "values" (.eventVec .u32 8)
    (.cons "kind" (.enum "Kind" 1 (.cons 1 "Raw" .none (.cons 2 "Scaled" (.some .u64) .nil)))
      .nil)))⟩

/-- A new artefact is reopened with the epoch of its claim, and with no other. -/
theorem create_reopens_faithfully_new : ∃ admitted session later,
    AdmittedDescriptor.tryFromDescriptor readingSchema = .ok admitted ∧
    (seededAdapter.create labelledClaim admitted).Runs aloneFiles () noFiles (.ok session) ()
      later ∧
    ((readMetaRecords ()).evaluate fileHandler later).1.1 = .ok { MetaRecords.empty with
      latestClaim := some labelledClaim, schemaDescriptor := some readingSchema } ∧
    (∃ reopened : Store FileEngine,
      ((seededAdapter.openWrite 7 ()).evaluate fileHandler later).1.1 = .ok reopened) ∧
    ∃ failure : OperationFailure,
      ((seededAdapter.openWrite 8 ()).evaluate fileHandler later).1.1 = .error failure ∧
        failure.condition = .staleEpoch := by
  obtain ⟨admitted, admits, fits⟩ : ∃ admitted,
      AdmittedDescriptor.tryFromDescriptor readingSchema = .ok admitted ∧
        admitted.encodedRecord.length ≤ u32Max :=
    ⟨_, rfl, by decide +kernel⟩
  obtain ⟨later, evaluated⟩ := FileStorageAdapter.evaluate_create ()
    (rfl : seededAdapter.exclusionPolicy = .standard)
    (fun name => rfl : ∀ name, (noFiles name).content = none)
    (by decide +kernel : (OwnershipRecord.ownershipClaim labelledClaim).encode.length ≤ u32Max) fits
  have created := runs_alone (seededAdapter.create labelledClaim admitted ()) noFiles
  rw [evaluated] at created
  obtain ⟨⟨records, read, rfl, -⟩, ⟨reopened, opens, -⟩, refuses⟩ :=
    create_reopens_faithfully admits created
  exact ⟨admitted, _, later, admits, created, read, ⟨reopened, opens⟩, refuses 8 (by decide)⟩

end Example

end Pardosa
