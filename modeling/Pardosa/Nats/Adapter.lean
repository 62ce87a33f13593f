import Pardosa.Nats.NatsEngine
import Pardosa.Store.Ownership

/-!
# Creating and opening an artefact on JetStream

The write side of the JetStream adapter. Creation seeds the ownership record
first and the event data last, every message on the condition that nothing came
in between. All three ways to a writer session end by recovering the event data.
-/

namespace Pardosa

open Foundation

/-- JetStream storage adapter of one artefact. -/
structure NatsStorageAdapter where
  stem : String
  metaStreamName : String
  dataStreamName : String
  metaSubject : String
  dataSubject : String
  customSubjectsForTest : Bool
deriving DecidableEq, Repr

/-- How the refusals of one seeding publish are named. -/
structure SeedPublish where
  stream : StreamName
  condition : FailureCondition
  /-- What is published. -/
  subject : String
  /-- Where it is published. -/
  place : String
  overtaken : String

/-- The refusal of a seeding publish. -/
def SeedPublish.refusal (seed : SeedPublish) (attempt : String) (failure : NatsError) :
    OperationFailure :=
  if failure.coded then ⟨.storeAlreadyExists, seed.overtaken⟩
  else ⟨seed.condition, "failed to " ++ attempt ++ failure.message⟩

/-- The refusal of a data stream that could not be created. -/
def mapNatsCompletionCreateError (failure : NatsError) : OperationFailure :=
  ⟨if failure.coded then .storeAlreadyExists else .transportUnavailable,
    "failed to create data stream during completion; reconcile stream presence before retry"⟩

/-- Whether a stream is there, or why this cannot be told. -/
def streamExists {σ : Type} (name : StreamName) (streamName : String) :
    Action natsOperations OperationFailure σ Bool := do
  let opened ← Action.lift (NatsOp.send (.getStream name))
  match (opened : Except NatsError Unit) with
  | .ok () => return true
  | .error failure =>
      let mapped := mapNatsStreamOpenError streamName failure
      if mapped.condition = .noArtefactExists then return false
      else throw mapped

/-- Checks the subjects that an existing stream binds. -/
def inspectStreamSubject {σ : Type} (name : StreamName)
    (streamName canonical legacy : String) (condition : FailureCondition) :
    Action natsOperations OperationFailure σ String := do
  askOr (NatsOp.send (.getStream name)) (mapNatsStreamOpenError streamName)
  let subjects ← askOr (NatsOp.send (.streamSubjects name)) (mapNatsInfoError streamName)
  if subjects = [canonical] then return canonical
  else if subjects = [legacy] then return legacy
  else throw ⟨condition, "stream " ++ streamName ++ " binds unexpected subjects " ++
    "[" ++ ", ".intercalate (subjects.map String.quote) ++ "]; expected " ++ canonical ++
      " or " ++ legacy⟩

namespace NatsStorageAdapter

/-- The name of a stream. -/
def streamName (adapter : NatsStorageAdapter) : StreamName → String
  | .metaStream => adapter.metaStreamName
  | .dataStream => adapter.dataStreamName

/-- Which streams of the artefact are there, or why this cannot be told. -/
def tryPresence {σ : Type} (adapter : NatsStorageAdapter) :
    Action natsOperations OperationFailure σ ArtefactPresence := do
  let metaExists ← streamExists .metaStream adapter.metaStreamName
  let dataExists ← streamExists .dataStream adapter.dataStreamName
  return match metaExists, dataExists with
    | false, false => .none
    | true, false => .ownershipRecordOnly
    | false, true => .eventDataOnly
    | true, true => .both

/-- Checks the subjects of the streams that are there. -/
def resolveOpenSubjects {σ : Type} (adapter : NatsStorageAdapter) (presence : ArtefactPresence) :
    Action natsOperations OperationFailure σ Unit := do
  if adapter.customSubjectsForTest then return ()
  else
    if presence = .ownershipRecordOnly ∨ presence = .both then
      let _ ← inspectStreamSubject .metaStream adapter.metaStreamName adapter.metaSubject
        (adapter.stem ++ "_meta") .ownershipRecordUnreadable
    if presence = .both ∨ presence = .eventDataOnly then
      let _ ← inspectStreamSubject .dataStream adapter.dataStreamName adapter.dataSubject
        (adapter.stem ++ "_data") (.precursorChainBroken none)

/-- Publishes one message of a creation and waits for it, on the condition that it
is the next of its stream. -/
def publishSeed {σ : Type} (adapter : NatsStorageAdapter) (seed : SeedPublish) (expectedLast : Nat)
    (payload : Bytes) : Action natsOperations OperationFailure σ PubAck := do
  let ticket ← askOr (NatsOp.send (.publish seed.stream (some expectedLast) payload))
    (seed.refusal ("publish " ++ seed.subject ++ " to " ++ seed.place ++ ": "))
  let ack ← askOr (NatsOp.send (.awaitAck ticket))
    (seed.refusal ("ack " ++ seed.subject ++ " on " ++ seed.place ++ ": "))
  Action.refuseIf (ack.stream ≠ adapter.streamName seed.stream) ⟨seed.condition,
    "publish ack stream mismatch: expected " ++ adapter.streamName seed.stream ++ ", got " ++
      ack.stream⟩
  return ack

/-- The publish of a message of the ownership record. -/
def metaSeed (subject : String) : SeedPublish :=
  ⟨.metaStream, .ownershipRecordUnreadable, subject, "meta stream",
    "artefact already created by concurrent writer per C12.3"⟩

/-- The publish of the container header of the event data. -/
def dataSeed (overtaken : String) : SeedPublish :=
  ⟨.dataStream, .precursorChainBroken none, "container header", "data stream", overtaken⟩

/-- A fresh engine. -/
def engine (adapter : NatsStorageAdapter) (carriedEpoch : UInt64) (lastDataSeq : Nat)
    (dataEventsLanded : Bool) : NatsEngine where
  metaStreamName := adapter.metaStreamName
  dataStreamName := adapter.dataStreamName
  carriedEpoch := carriedEpoch
  lastDataSeq := lastDataSeq
  dataEventsLanded := dataEventsLanded
  readAllCount := 0
  publishTimeout := "5s"
  simulateIndeterminate := false
  uncertain := false
  uncertainDiagnostic := Option.none

variable [Digests]

/-- The frame of a record that creation seeds. -/
def seedFrame (record : Bytes) (subject : String) : Except OperationFailure Bytes :=
  (ContainerFrame.encodePayload record).mapError fun failure =>
    ⟨.valueConstraintViolated .tooLong, "failed to encode " ++ subject ++ ": " ++ failure.display⟩

/-- Creates the artefact with an initial claim and a schema descriptor. -/
def createWithLimit {σ : Type} (adapter : NatsStorageAdapter) (claim : OwnershipClaimRecord)
    (descriptor : AdmittedDescriptor) (maxWireLen : Nat) :
    Action natsOperations OperationFailure σ (Store NatsEngine) := do
  let presence ← adapter.tryPresence
  Action.ofExcept (admitCreate presence)
  let _ ← Action.ofExcept
    (computeClaimWireLenBounded (utf8Bytes claim.operatorLabel.val).length maxWireLen)
  askOr (NatsOp.send (.createStream .metaStream)) fun failure =>
    ⟨.ownershipRecordUnreadable, "failed to create meta stream: " ++ failure.message⟩
  let _ ← adapter.publishSeed (metaSeed "container header") 0 ContainerHeader.new.toBytes
  let claimFrame ← Action.ofExcept
    (seedFrame (OwnershipRecord.ownershipClaim claim).encode "claim frame")
  let _ ← adapter.publishSeed (metaSeed "claim frame") 1 claimFrame
  let descFrame ← Action.ofExcept (seedFrame descriptor.encodedRecord "schema descriptor frame")
  let _ ← adapter.publishSeed (metaSeed "schema descriptor frame") 2 descFrame
  askOr (NatsOp.send (.createStream .dataStream)) fun failure =>
    ⟨.precursorChainBroken none, "failed to create data stream: " ++ failure.message⟩
  let dataAck ← adapter.publishSeed
    (dataSeed "artefact already created by concurrent writer per C12.3") 0
    ContainerHeader.new.toBytes
  Action.within (adapter.engine claim.epoch dataAck.sequence false) Store.openWriter

/-- The schema descriptor of the records, which has to be admissible. -/
def requireDescriptor {σ : Type} (records : MetaRecords) :
    Action natsOperations OperationFailure σ Unit := do
  let descriptor ← Action.require records.schemaDescriptor ⟨.missingSchemaDescriptor,
    "schema descriptor missing in meta stream per C8.2"⟩
  let _ ← Action.ofExcept <| (AdmittedDescriptor.tryFromDescriptor descriptor).mapError
    fun failure => (⟨.missingSchemaDescriptor,
      "schema descriptor in meta stream is invalid per C8.2: " ++ failure.display⟩ :
        OperationFailure)
  return ()

/-- Completes the creation of an artefact that has no event data yet. -/
def completeCreation {σ : Type} (adapter : NatsStorageAdapter) (claim : OwnershipClaimRecord) :
    Action natsOperations OperationFailure σ (Store NatsEngine) := do
  match ← adapter.tryPresence with
  | .none => throw ⟨.noArtefactExists, "no ownership record exists for completion"⟩
  | .eventDataOnly | .both =>
      throw ⟨.storeAlreadyExists, "event data already exists during completion"⟩
  | .ownershipRecordOnly =>
      adapter.resolveOpenSubjects .ownershipRecordOnly
      let records ← readMetaStream adapter.metaStreamName
      requireDescriptor records
      let durableClaim ← Action.require records.latestClaim ⟨.ownershipRecordUnreadable,
        "no ownership claim found in meta stream per C5.12"⟩
      Action.refuseIf (durableClaim ≠ claim) ⟨.ownershipUnestablished,
        "supplied claim does not match durable claim in meta stream per C5.10"⟩
      askOr (NatsOp.send (.createStream .dataStream)) mapNatsCompletionCreateError
      let dataAck ← adapter.publishSeed
        (dataSeed "artefact data stream already created by concurrent writer per C12.3") 0
        ContainerHeader.new.toBytes
      Action.within (adapter.engine claim.epoch dataAck.sequence false) Store.openWriter

/-- The checks on the ownership records when both streams are there. -/
def admitRecords {σ : Type} (records : MetaRecords) (carriedEpoch : UInt64) :
    Action natsOperations OperationFailure σ Unit := do
  Action.refuseIf records.outboundPointer.isSome ⟨.retiredMigrationSource,
    "artefact append authority permanently retired via outbound pointer per C5.63"⟩
  requireDescriptor records
  let claim ← Action.require records.latestClaim ⟨.ownershipRecordUnreadable,
    "no ownership claim found in meta stream per C5.12"⟩
  Action.refuseIf (claim.epoch ≠ carriedEpoch) ⟨.staleEpoch,
    "carried epoch does not match recorded epoch in meta stream per C5.5 and C12.4"⟩

/-- Opens the artefact strictly for writing with a carried epoch. -/
def openWrite {σ : Type} (adapter : NatsStorageAdapter) (carriedEpoch : UInt64) :
    Action natsOperations OperationFailure σ (Store NatsEngine) := do
  match ← adapter.tryPresence with
  | .none => throw ⟨.noArtefactExists,
      "no artefact exists on open; strict open does not create per C5.62"⟩
  | .eventDataOnly => throw ⟨.ownershipUnestablished,
      "event data present without ownership record refused on write path per C5.10"⟩
  | .ownershipRecordOnly =>
      let records ← readMetaStream adapter.metaStreamName
      Action.refuseIf records.outboundPointer.isSome ⟨.retiredMigrationSource,
        "artefact append authority permanently retired via outbound pointer per C5.63"⟩
      let claim ← Action.require records.latestClaim ⟨.ownershipUnestablished,
        "ownership record unseeded; cannot open writer session without established claim per C5.10"⟩
      Action.refuseIf (claim.epoch ≠ carriedEpoch) ⟨.staleEpoch,
        "stale epoch on open writer per C5.5 and C12.4"⟩
      adapter.completeCreation claim
  | .both =>
      adapter.resolveOpenSubjects .both
      let records ← readMetaStream adapter.metaStreamName
      admitRecords records carriedEpoch
      let info ← dataExtent adapter.dataStreamName
      Action.within (adapter.engine carriedEpoch info.lastSequence (info.messages > 1))
        Store.openWriter

/-- Opens the artefact strictly for reading. -/
def openRead {σ : Type} (adapter : NatsStorageAdapter) :
    Action natsOperations OperationFailure σ (OpenAdmission × Store NatsEngine) := do
  let presence ← adapter.tryPresence
  Action.refuseIf (presence = .none) ⟨.noArtefactExists,
    "no artefact exists on open; strict open does not create per C5.62"⟩
  let metaRecords ← readMetaStream adapter.metaStreamName
  let admission ← Action.ofExcept (admitOpen presence metaRecords.latestClaim false)
  adapter.resolveOpenSubjects presence
  let carriedEpoch := match metaRecords.latestClaim with
    | some claim => claim.epoch
    | Option.none => 0
  let store ← Action.within (adapter.engine carriedEpoch 0 false) Store.openReader
  return (admission, store)

/-- Appends a record to the meta stream, wherever it ends. -/
def recordOwnershipRecord {σ : Type} (adapter : NatsStorageAdapter) (record : OwnershipRecord) :
    Action natsOperations OperationFailure σ Unit := do
  let frame ← Action.ofExcept (seedFrame record.encode "meta frame")
  let ticket ← askOr (NatsOp.send (.publish .metaStream none frame)) fun failure =>
    MetaRecords.unreadable ("failed to publish meta frame: " ++ failure.message)
  let ack ← askOr (NatsOp.send (.awaitAck ticket)) fun failure =>
    MetaRecords.unreadable ("failed to ack meta frame: " ++ failure.message)
  Action.refuseIf (ack.stream ≠ adapter.metaStreamName) (MetaRecords.unreadable
    ("publish ack stream mismatch: expected " ++ adapter.metaStreamName ++ ", got " ++ ack.stream))

end NatsStorageAdapter

end Pardosa
