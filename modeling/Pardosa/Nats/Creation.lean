import Pardosa.File.Reopening
import Pardosa.Nats.Quiet
import Pardosa.Nats.Verdict

/-!
# What a creation on JetStream leaves behind

Every message that a creation publishes has its place: it is expected to be the
next one, and the broker takes it only there. Wherever a creation stops, each
stream therefore holds a beginning of what the creation wanted to put there.
-/

namespace Pardosa

open Foundation

section Seeding

variable [Digests]

/-- The message that a creation of some records puts at a place of a stream. -/
inductive IsSeed (records : List Bytes) : StreamName → Nat → Bytes → Prop where
  | header (name : StreamName) : IsSeed records name 0 ContainerHeader.new.toBytes
  | record {place : Nat} {record : Bytes} (found : records[place]? = some record)
      (fits : ∀ earlier ∈ records.take (place + 1), earlier.length ≤ u32Max) :
      IsSeed records .metaStream (place + 1) (ContainerFrame.frameBytes record)

/-- Publishes nothing but the messages of a creation. -/
def IsSeeding (records : List Bytes) : NatsOp → Prop
  | .publish name expectedLast payload =>
      ∃ place, expectedLast = some place ∧ IsSeed records name place payload
  | _ => True

/-- Every message stands at the place of a creation, and every publish under way
is bound for its place. -/
structure Seeding (records : List Bytes) (broker : Broker) : Prop where
  messages : ∀ name place payload, (broker.messages name)[place]? = some payload →
    IsSeed records name place payload
  pending : ∀ publish ∈ broker.publishes, publish.fate = .pending →
    ∃ place, publish.expectedLast = some place ∧
      IsSeed records publish.stream place publish.payload

namespace Seeding

variable {records : List Bytes} {broker after : Broker}

/-- Nothing is under way where no stream is. -/
theorem fresh (absent : ∀ name, broker.streams name = none)
    (idle : ∀ publish ∈ broker.publishes, publish.fate ≠ .pending) : Seeding records broker where
  messages := by
    intro name place payload found
    simp [Broker.messages, absent] at found
  pending := by
    intro publish member pending
    exact (idle publish member pending).elim

/-- A new stream keeps everything at its place. -/
theorem created (holds : Seeding records broker) (name : StreamName) :
    Seeding records (broker.created name) where
  messages := by
    intro other place payload found
    refine holds.messages other place payload ?_
    by_cases same : other = name
    · subst same
      simpa [Broker.created, Broker.messages] using found
    · simpa [Broker.created, Broker.messages, Function.update_of_ne same] using found
  pending := holds.pending

/-- A creation's own publish keeps everything at its place. -/
theorem sent (holds : Seeding records broker) {name : StreamName} {place : Nat} {payload : Bytes}
    (seed : IsSeed records name place payload) :
    Seeding records (broker.sent name (some place) payload) where
  messages := holds.messages
  pending := by
    intro publish member pending
    rcases List.mem_append.mp member with earlier | last
    · exact holds.pending publish earlier pending
    · cases List.mem_singleton.mp last
      exact ⟨place, rfl, seed⟩

/-- A publish that the broker takes arrives at its place. -/
theorem handles (holds : Seeding records broker) (moved : broker.Handles after) :
    Seeding records after := by
  have settled : ∀ {ticket : Nat} {publish : Publish} {fate : PublishFate}, fate ≠ .pending →
      ∀ other ∈ broker.publishes.set ticket { publish with fate := fate },
        other.fate = .pending → ∃ place, other.expectedLast = some place ∧
          IsSeed records other.stream place other.payload := by
    intro ticket publish fate done other member pending
    rcases List.mem_or_eq_of_mem_set member with earlier | rfl
    · exact holds.pending other earlier pending
    · exact (done pending).elim
  cases moved with
  | @accept ticket publish messages sent pending stands expected =>
      obtain ⟨place, bound, seed⟩ := holds.pending publish (List.mem_of_getElem? sent) pending
      refine ⟨?_, settled (by simp)⟩
      intro name index payload found
      have place_eq := expected place bound
      by_cases same : name = publish.stream
      · subst same
        simp only [Broker.messages, Broker.accepted, Function.update_self,
          Option.getD_some] at found
        rcases Nat.lt_trichotomy index messages.length with earlier | rfl | beyond
        · rw [List.getElem?_append_left earlier] at found
          refine holds.messages publish.stream index payload ?_
          rw [Broker.messages, stands]
          exact found
        · rw [List.getElem?_concat_length] at found
          cases found
          rw [← place_eq]
          exact seed
        · rw [List.getElem?_eq_none (by simp; omega)] at found
          cases found
      · refine holds.messages name index payload ?_
        simpa [Broker.messages, Broker.accepted, Function.update_of_ne same] using found
  | refuse sent pending stands expected wrong => exact ⟨holds.messages, settled (by simp)⟩

/-- The broker keeps everything at its place, however late it handles the publishes. -/
theorem handled (holds : Seeding records broker)
    (moved : Relation.ReflTransGen Broker.Handles broker after) : Seeding records after := by
  induction moved with
  | refl => exact holds
  | tail _ step ih => exact ih.handles step

/-- An operation of a creation keeps everything at its place. -/
theorem performed (holds : Seeding records broker) {op : NatsOp} (seeding : IsSeeding records op)
    {answer : op.Res} (performs : op.Performs broker answer after) : Seeding records after := by
  by_cases quiet : op.IsQuiet
  · rw [NatsOp.same_of_quiet quiet performs]
    exact holds
  cases op with
  | createStream name =>
      rcases performs with ⟨-, rfl⟩ | ⟨-, rfl | rfl⟩
      · exact holds.created name
      · exact holds
      · exact holds.created name
  | publish name expectedLast payload =>
      obtain ⟨place, rfl, seed⟩ := seeding
      rcases performs with ⟨-, rfl⟩ | ⟨-, rfl⟩
      · exact holds.sent seed
      · exact holds
  | _ => exact (quiet trivial).elim

/-- Whatever a program that publishes nothing else does, and wherever it stops. -/
theorem reaches {α : Type} {program rest : Program natsOperations α} {stopped : Broker}
    (holds : Seeding records broker) (only : program.Only (IsSeeding records))
    (reached : program.Reaches brokerSetting broker rest stopped) : Seeding records stopped := by
  refine Program.related_of_reaches (fun before after => Seeding records before →
    Seeding records after) (fun _ => id) ?_ ?_ ?_ only reached holds
  · intro first second third earlier later start
    exact later (earlier start)
  · intro before moved others start
    exact start.handled others
  · intro op before answer next seeding performs start
    exact start.performed seeding performs

end Seeding

variable {records : List Bytes} {broker : Broker}

/-- A seed of the ownership record is the framed record of its place. -/
theorem IsSeed.of_meta {place : Nat} {payload : Bytes}
    (seed : IsSeed records .metaStream place payload) :
    (Broker.framedMessages records)[place]? = some payload := by
  cases seed with
  | header => rfl
  | record found _ => simp [Broker.framedMessages, found]

/-- The only seed of the event data is the container header. -/
theorem IsSeed.of_data {place : Nat} {payload : Bytes}
    (seed : IsSeed records .dataStream place payload) :
    (Broker.framedMessages [])[place]? = some payload := by
  cases seed
  rfl

/-- The ownership record is a beginning of what the creation writes. -/
theorem Seeding.meta_prefix (holds : Seeding records broker) :
    broker.messages .metaStream <+: Broker.framedMessages records := by
  refine List.prefix_iff_getElem?.mpr fun place within => ?_
  exact (holds.messages .metaStream place _ (List.getElem?_eq_getElem within)).of_meta

/-- A creation brings the event data at most its header. -/
theorem Seeding.data_prefix (holds : Seeding records broker) :
    broker.messages .dataStream <+: [ContainerHeader.new.toBytes] := by
  refine List.prefix_iff_getElem?.mpr fun place within => ?_
  exact (holds.messages .dataStream place _ (List.getElem?_eq_getElem within)).of_data

/-- Once its last record has landed, the ownership record is complete. -/
theorem Seeding.complete (holds : Seeding records broker) {last : Bytes}
    (landed : (broker.messages .metaStream)[records.length]? = some last) :
    broker.streams .metaStream = some (Broker.framedMessages records) ∧
      ∀ record ∈ records, record.length ≤ u32Max := by
  have longer : records.length < (broker.messages .metaStream).length :=
    (List.getElem?_eq_some_iff.mp landed).1
  have whole : broker.messages .metaStream = Broker.framedMessages records := by
    refine holds.meta_prefix.eq_of_length (le_antisymm holds.meta_prefix.length_le ?_)
    simp only [Broker.framedMessages, List.length_cons, List.length_map]
    exact longer
  constructor
  · unfold Broker.messages at whole
    cases stands : broker.streams .metaStream with
    | none =>
        rw [stands] at whole
        cases whole
    | some messages =>
        rw [stands] at whole
        exact congrArg some whole
  · have seed := holds.messages .metaStream records.length last landed
    intro record member
    generalize counted : records.length = place at seed
    cases seed with
    | header => rw [List.length_eq_zero_iff.mp counted] at member; cases member
    | record _ fits =>
        rw [← counted, List.take_length] at fits
        exact fits record member

end Seeding

section Interrupted

variable [Digests] {adapter : NatsStorageAdapter} {claim : OwnershipClaimRecord}
  {descriptor : SchemaDescriptor} {admitted : AdmittedDescriptor} {σ : Type}

/-- A record is framed only when its length fits. -/
theorem seedFrame_ok {record frame : Bytes} {subject : String}
    (framed : NatsStorageAdapter.seedFrame record subject = .ok frame) :
    record.length ≤ u32Max ∧ frame = ContainerFrame.frameBytes record :=
  encodePayload_ok_iff.mp (mapError_eq_ok.mp framed)

/-- A creation publishes its own messages, each bound for its place. -/
theorem NatsStorageAdapter.createWithLimit_only (adapter : NatsStorageAdapter)
    (claim : OwnershipClaimRecord) (admitted : AdmittedDescriptor) (maxWireLen : Nat) :
    (adapter.createWithLimit claim admitted maxWireLen :
      Action natsOperations OperationFailure σ _).Only
        (IsSeeding [(OwnershipRecord.ownershipClaim claim).encode, admitted.encodedRecord]) := by
  have permits : ∀ op : NatsOp, op.IsQuiet → IsSeeding
      [(OwnershipRecord.ownershipClaim claim).encode, admitted.encodedRecord] op := by
    intro op quiet
    cases op with
    | publish name expectedLast payload => cases quiet
    | _ => trivial
  refine Action.only_bind (tryPresence_only permits adapter) fun presence => ?_
  refine Action.only_bind (Action.only_ofExcept _) fun _ => ?_
  refine Action.only_bind (Action.only_ofExcept _) fun _ => ?_
  refine Action.only_bind (only_askOr (NatsOp.only_send trivial)) fun _ => ?_
  refine Action.only_bind (publishSeed_only permits adapter (metaSeed _)
    ⟨0, rfl, .header _⟩) fun _ => ?_
  refine Action.only_bind_ofExcept fun claimFrame claimFramed => ?_
  obtain ⟨claimFits, rfl⟩ := seedFrame_ok claimFramed
  refine Action.only_bind (publishSeed_only permits adapter (metaSeed _)
    ⟨1, rfl, .record rfl (by simpa using claimFits)⟩) fun _ => ?_
  refine Action.only_bind_ofExcept fun descFrame descFramed => ?_
  obtain ⟨descriptorFits, rfl⟩ := seedFrame_ok descFramed
  refine Action.only_bind (publishSeed_only permits adapter (metaSeed _)
    ⟨2, rfl, .record rfl (by simpa using ⟨claimFits, descriptorFits⟩)⟩) fun _ => ?_
  refine Action.only_bind (only_askOr (NatsOp.only_send trivial)) fun _ => ?_
  refine Action.only_bind (publishSeed_only permits adapter (dataSeed _)
    ⟨0, rfl, .header _⟩) fun _ => ?_
  intro state
  refine Program.only_bind (NatsEngine.openWriter_only permits _) ?_
  rintro ⟨outcome, engine⟩
  trivial

/-- A creation with nobody else about stops, at any point and for whatever reason,
after its schema descriptor has landed. -/
def NatsStorageAdapter.StopsAfterDescriptor (adapter : NatsStorageAdapter)
    (claim : OwnershipClaimRecord) (admitted : AdmittedDescriptor) (stopped : Broker) : Prop :=
  ∃ broker rest maxWireLen, (∀ name, broker.streams name = none) ∧
    (∀ publish ∈ broker.publishes, publish.fate ≠ .pending) ∧
    (adapter.createWithLimit claim admitted maxWireLen ()).Reaches brokerSetting broker
      rest stopped ∧
    (stopped.messages .metaStream)[2]? = some (ContainerFrame.frameBytes admitted.encodedRecord)

/-- A creation that stopped can be completed exactly when it did not stop between
the creation of the data stream and the landing of its header. -/
theorem NatsStorageAdapter.openWrite_of_stopsAfterDescriptor {reopener : NatsStorageAdapter}
    {stopped : Broker} (admits : AdmittedDescriptor.tryFromDescriptor descriptor = .ok admitted)
    (stops : adapter.StopsAfterDescriptor claim admitted stopped) :
    (∃ session, ((reopener.openWrite claim.epoch ()).evaluate (promptBroker reopener)
        stopped).1.1 = .ok session ∧ session.derived = (.new, .new)) ↔
      stopped.streams .dataStream ≠ some [] := by
  obtain ⟨broker, rest, maxWireLen, absent, idle, reaches, landed⟩ := stops
  have seeding := (Seeding.fresh absent idle).reaches
    (createWithLimit_only adapter claim admitted maxWireLen ()) reaches
  obtain ⟨recorded, recordsFit⟩ := seeding.complete landed
  have header := seeding.data_prefix
  cases stands : stopped.streams .dataStream with
  | none =>
      have ends := openWrite_recordOnly reopener recordsFit ⟨recorded, stands⟩ claim.epoch ()
      rw [recordedArtefact_admits admits] at ends
      exact iff_of_true (exists_of_endsAs_ok ends) (by simp)
  | some messages =>
      have known : stopped.messages .dataStream = messages := by
        rw [Broker.messages, stands]
        rfl
      rw [known] at header
      cases messages with
      | nil =>
          have ends := openWrite_headless reopener recordsFit recorded stands claim.epoch ()
          rw [createdRecords_pass admits] at ends
          obtain ⟨failure, refused, -⟩ := exists_of_endsAs_error ends
          refine iff_of_false ?_ (by simp)
          rintro ⟨session, opened, -⟩
          rw [refused] at opened
          cases opened
      | cons first others =>
          obtain ⟨rfl, rest⟩ := List.cons_prefix_cons.mp header
          obtain rfl := List.prefix_nil.mp rest
          have ends := openWrite_both reopener recordsFit (List.forall_mem_nil _)
            ⟨recorded, stands⟩ claim.epoch ()
          rw [← createdArtefact, createdArtefact_admits admits] at ends
          exact iff_of_true (exists_of_endsAs_ok ends) (by simp)

/-- Interrupted creations that open for writing completes: on files those that did
not stop between the creation of the event data and the end of its header, on
streams those that did not stop between the creation of the data stream and the
landing of its header. -/
theorem interrupted_creation_completable_iff (files reopener : FileStorageAdapter)
    (streams restreamer : NatsStorageAdapter)
    (admits : AdmittedDescriptor.tryFromDescriptor descriptor = .ok admitted)
    (standard : reopener.exclusionPolicy = .standard) :
    (∀ stopped, files.StopsAfterRecord claim admitted stopped →
      ((∃ session, ((reopener.openWrite claim.epoch ()).evaluate fileHandler stopped).1.1 =
          .ok session ∧ session.derived = (.new, .new)) ↔
        (stopped .pgnoFile).content = none ∨
          (stopped .pgnoFile).content = some ContainerHeader.new.toBytes)) ∧
    (∀ stopped, streams.StopsAfterDescriptor claim admitted stopped →
      ((∃ session, ((restreamer.openWrite claim.epoch ()).evaluate (promptBroker restreamer)
          stopped).1.1 = .ok session ∧ session.derived = (.new, .new)) ↔
        stopped.streams .dataStream ≠ some [])) := by
  constructor
  · intro stopped stops
    exact FileStorageAdapter.openWrite_of_stopsAfterRecord admits standard stops
  · intro stopped stops
    exact NatsStorageAdapter.openWrite_of_stopsAfterDescriptor admits stops

end Interrupted

section Example

attribute [local instance] standardDigests

/-- A descriptor of plain numbers, as an adapter is given it. -/
def numberDescriptor : AdmittedDescriptor :=
  ⟨⟨1, .u64⟩, [9, 1, 0, 0, 0, 4], blake3 [1, 0, 0, 0, 4]⟩

/-- A creation on no files gets as far as its ownership record. -/
theorem exists_recorded : ∃ synced,
    (seededAdapter.createOwnershipRecord (bareClaim 1) numberDescriptor u32Max).Runs aloneFiles ()
      noFiles (.ok ()) () synced ∧ (synced .pgnoFile).content = none := by
  have claimFits : (OwnershipRecord.ownershipClaim (bareClaim 1)).encode.length ≤ u32Max := by
    decide +kernel
  have descriptorFits : numberDescriptor.encodedRecord.length ≤ u32Max := by decide
  obtain ⟨synced, evaluated, missing⟩ : ∃ synced,
      (seededAdapter.createOwnershipRecord (bareClaim 1) numberDescriptor u32Max ()).evaluate
        fileHandler noFiles = ((.ok (), ()), synced) ∧ (synced .pgnoFile).content = none :=
    FileStorageAdapter.evaluate_createOwnershipRecord () (fun _ => rfl) claimFits descriptorFits
  have recorded := runs_alone
    (seededAdapter.createOwnershipRecord (bareClaim 1) numberDescriptor u32Max ()) noFiles
  rw [evaluated] at recorded
  exact ⟨synced, recorded, missing⟩

/-- A creation that stopped right before its event data was created is completed. -/
theorem interrupted_creation_completable_recorded : ∃ stopped session,
    seededAdapter.StopsAfterRecord (bareClaim 1) numberDescriptor stopped ∧
      ((seededAdapter.openWrite 1 ()).evaluate fileHandler stopped).1.1 = .ok session ∧
      session.derived = (.new, .new) := by
  obtain ⟨synced, recorded, missing⟩ := exists_recorded
  have stops : seededAdapter.StopsAfterRecord (bareClaim 1) numberDescriptor synced :=
    ⟨_, synced, _, _, recorded, .refl⟩
  have admits : AdmittedDescriptor.tryFromDescriptor ⟨1, .u64⟩ = .ok numberDescriptor := rfl
  have completable := (interrupted_creation_completable_iff seededAdapter seededAdapter
    seededStreams seededStreams admits rfl).1 synced stops
  obtain ⟨session, opened, empty⟩ := completable.mpr (Or.inl missing)
  exact ⟨synced, session, stops, opened, empty⟩

/-- A creation that stopped right after its event data was created is never
completed. -/
theorem interrupted_creation_not_completable : ∃ stopped,
    seededAdapter.StopsAfterRecord (bareClaim 1) numberDescriptor stopped ∧
      (stopped .pgnoFile).content = some [] ∧
      ¬∃ session, ((seededAdapter.openWrite 1 ()).evaluate fileHandler stopped).1.1 = .ok session ∧
        session.derived = (.new, .new) := by
  obtain ⟨synced, recorded, missing⟩ := exists_recorded
  have creates : aloneFiles.exec (⟨.pgnoFile, .createNew⟩ : FileOp) synced (.ok ())
      (Function.update synced .pgnoFile ⟨some [], 0⟩) := by
    refine ⟨⟨some [], 0⟩, Or.inl ?_, rfl⟩
    simp [FileRequest.serve, missing]
  have stops : seededAdapter.StopsAfterRecord (bareClaim 1) numberDescriptor
      (Function.update synced .pgnoFile ⟨some [], 0⟩) :=
    ⟨_, synced, _, _, recorded, .call rfl creates .refl⟩
  have admits : AdmittedDescriptor.tryFromDescriptor ⟨1, .u64⟩ = .ok numberDescriptor := rfl
  refine ⟨_, stops, by rw [Function.update_self], ?_⟩
  intro completed
  have condition := (FileStorageAdapter.openWrite_of_stopsAfterRecord admits
    (rfl : seededAdapter.exclusionPolicy = .standard) stops).mp completed
  rw [Function.update_self] at condition
  revert condition
  decide +kernel

end Example

end Pardosa
