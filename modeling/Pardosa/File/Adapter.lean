import Pardosa.File.FileEngine
import Pardosa.Store.Ownership

/-!
# Creating and opening an artefact

The file storage adapter: creation of an ownership record and then of the event
data, strict opening with a carried epoch, the completion of a creation that
stopped before the event data existed, and opening for reading.
-/

namespace Pardosa

open Foundation

/-- File storage adapter of one artefact. -/
structure FileStorageAdapter where
  metaPath : String
  pgnoPath : String
  exclusionPolicy : FileExclusionPolicy
deriving DecidableEq, Repr

/-- Takes the lock on the event data. -/
def acquireFileExclusion {σ : Type} (policy : FileExclusionPolicy) :
    Action fileOperations OperationFailure σ Unit :=
  match policy with
  | .standard => do
      let locked ← Action.lift (FileRequest.send .tryLock .pgnoFile)
      match (locked : Except TryLockError Unit) with
      | .ok () => return ()
      | .error .wouldBlock => throw ⟨.anotherOwnerHoldsExclusion,
          "another owner holds the required file exclusion per C5.6 and C5.65"⟩
      | .error (.error failure) => throw ⟨.exclusionUnavailable,
          "platform exclusion mechanism is unavailable per C5.6 and C5.13: " ++ failure.message⟩
  | .simulateUnavailable => throw ⟨.exclusionUnavailable,
      "simulated platform exclusion mechanism unavailable per C5.6 and C5.13"⟩
  | .simulateHeldByOther => throw ⟨.anotherOwnerHoldsExclusion,
      "simulated another owner holds the required file exclusion per C5.6 and C5.65"⟩

/-- The refusal of an event data file that could not be created. -/
def mapCompletionCreateError (failure : IoError) : OperationFailure :=
  ⟨if failure.alreadyExists then .storeAlreadyExists else .transportUnavailable,
    "failed to create .pgno during completion"⟩

namespace FileStorageAdapter

/-- Which files of the artefact are there, or why this cannot be told. -/
def tryPresence {σ : Type} (adapter : FileStorageAdapter) :
    Action fileOperations OperationFailure σ ArtefactPresence := do
  let metaExists ← orRefuse (FileRequest.send .tryExists .metaFile) .ownershipRecordUnreadable
    ("failed to check existence of meta file " ++ adapter.metaPath ++ ": ")
  let pgnoExists ← orRefuse (FileRequest.send .tryExists .pgnoFile) .ownershipRecordUnreadable
    ("failed to check existence of pgno file " ++ adapter.pgnoPath ++ ": ")
  return match metaExists, pgnoExists with
    | false, false => .none
    | true, false => .ownershipRecordOnly
    | false, true => .eventDataOnly
    | true, true => .both

/-- A fresh engine over the opened and locked event data. -/
def engine (adapter : FileStorageAdapter) (carriedEpoch : UInt64) (frameCount : Nat)
    (recoveredTailTruncation : Option TornTailInfo) : FileEngine where
  file := true
  carriedEpoch := carriedEpoch
  exclusionPolicy := adapter.exclusionPolicy
  locked := true
  frameCount := frameCount
  readAllCount := 0
  uncertain := false
  uncertainDiagnostic := Option.none
  simulateIndeterminate := false
  simulateSyncError := false
  simulateWriteError := false
  failAfterNBlocks := Option.none
  undeterminedAfterNBlocks := Option.none
  recoveredTailTruncation := recoveredTailTruncation

variable [Digests]

/-- The schema descriptor of the records, which has to be admissible. -/
def requireDescriptor {σ : Type} (records : MetaRecords) :
    Action fileOperations OperationFailure σ Unit := do
  let descriptor ← Action.require records.schemaDescriptor ⟨.missingSchemaDescriptor,
    "schema descriptor missing in .meta per C8.2"⟩
  let _ ← Action.ofExcept <| (AdmittedDescriptor.tryFromDescriptor descriptor).mapError
    fun failure => (⟨.missingSchemaDescriptor,
      "schema descriptor in .meta is invalid per C8.2: " ++ failure.display⟩ : OperationFailure)
  return ()

/-- The refusal of a file of a new artefact that could not be created. -/
def mapCreateError (suffix : String) (condition : FailureCondition) (failure : IoError) :
    OperationFailure :=
  if failure.alreadyExists then
    ⟨.storeAlreadyExists, "artefact " ++ suffix ++ " already exists per C12.3"⟩
  else ⟨condition, "failed to create " ++ suffix ++ ": " ++ failure.message⟩

/-- Writes one frame of a new ownership record. -/
def writeMetaFrame {σ : Type} (payload : Bytes) (what : String) :
    Action fileOperations OperationFailure σ Unit := do
  let frame ← Action.ofExcept <| (ContainerFrame.encodePayload payload).mapError fun failure =>
    (⟨.valueConstraintViolated .tooLong, "failed to encode " ++ what ++ ": " ++ failure.display⟩ :
      OperationFailure)
  orRefuse (writeAll .metaFile frame) .ownershipRecordUnreadable
    ("failed to write " ++ what ++ " to .meta: ")

/-- The first half of a creation: the ownership record with a claim and a schema
descriptor, synchronized. -/
def createOwnershipRecord {σ : Type} (adapter : FileStorageAdapter)
    (initialClaim : OwnershipClaimRecord) (descriptor : AdmittedDescriptor) (maxWireLen : Nat) :
    Action fileOperations OperationFailure σ Unit := do
  let presence ← adapter.tryPresence
  Action.ofExcept (admitCreate presence)
  let _ ← Action.ofExcept
    (computeClaimWireLenBounded (utf8Bytes initialClaim.operatorLabel.val).length maxWireLen)
  let created ← Action.lift (FileRequest.send .createNew .metaFile)
  Action.ofExcept ((created : Except IoError Unit).mapError
    (mapCreateError ".meta" .ownershipRecordUnreadable))
  orRefuse (writeAll .metaFile ContainerHeader.new.toBytes) .ownershipRecordUnreadable
    "failed to write container header to .meta: "
  writeMetaFrame (OwnershipRecord.ownershipClaim initialClaim).encode "claim frame"
  writeMetaFrame descriptor.encodedRecord "schema descriptor frame"
  orRefuse (FileRequest.send .syncData .metaFile) .ownershipRecordUnreadable
    "failed to sync .meta: "

/-- The second half of a creation: the event data with its header, the lock, and
a writer session. -/
def createEventData {σ : Type} (adapter : FileStorageAdapter)
    (initialClaim : OwnershipClaimRecord) :
    Action fileOperations OperationFailure σ (Store FileEngine) := do
  let created ← Action.lift (FileRequest.send .createNew .pgnoFile)
  Action.ofExcept ((created : Except IoError Unit).mapError
    (mapCreateError ".pgno" .noArtefactExists))
  orRefuse (writeAll .pgnoFile ContainerHeader.new.toBytes) (.precursorChainBroken none)
    "failed to write container header to .pgno: "
  orRefuse (FileRequest.send .syncData .pgnoFile) (.precursorChainBroken none)
    "failed to sync .pgno: "
  acquireFileExclusion adapter.exclusionPolicy
  Action.within (adapter.engine initialClaim.epoch 0 none) Store.openWriter

/-- Creates the files of an artefact exclusively, with a bound on the claim's
length. -/
def createWithLimit {σ : Type} (adapter : FileStorageAdapter)
    (initialClaim : OwnershipClaimRecord) (descriptor : AdmittedDescriptor) (maxWireLen : Nat) :
    Action fileOperations OperationFailure σ (Store FileEngine) := do
  adapter.createOwnershipRecord initialClaim descriptor maxWireLen
  adapter.createEventData initialClaim

/-- Creates the files of an artefact exclusively, with an initial claim. -/
def create {σ : Type} (adapter : FileStorageAdapter) (initialClaim : OwnershipClaimRecord)
    (descriptor : AdmittedDescriptor) :
    Action fileOperations OperationFailure σ (Store FileEngine) :=
  adapter.createWithLimit initialClaim descriptor u32Max

/-- Completes the creation of an artefact that has no event data yet. -/
def completeCreation {σ : Type} (adapter : FileStorageAdapter) (claim : OwnershipClaimRecord) :
    Action fileOperations OperationFailure σ (Store FileEngine) := do
  match ← adapter.tryPresence with
  | .none => throw ⟨.noArtefactExists, "no ownership record exists for completion"⟩
  | .eventDataOnly | .both =>
      throw ⟨.storeAlreadyExists, "event data already exists during completion"⟩
  | .ownershipRecordOnly =>
      let records ← readMetaRecords
      requireDescriptor records
      let durableClaim ← Action.require records.latestClaim ⟨.ownershipRecordUnreadable,
        "no ownership claim found in .meta per C5.12"⟩
      Action.refuseIf (durableClaim ≠ claim) ⟨.ownershipUnestablished,
        "supplied claim does not match durable claim in .meta per C5.10"⟩
      let created ← Action.lift (FileRequest.send .createNew .pgnoFile)
      Action.ofExcept ((created : Except IoError Unit).mapError mapCompletionCreateError)
      orRefuse (writeAll .pgnoFile ContainerHeader.new.toBytes) (.precursorChainBroken none)
        "failed to write header to .pgno: "
      orRefuse (FileRequest.send .syncData .pgnoFile) (.precursorChainBroken none)
        "failed to sync .pgno: "
      acquireFileExclusion adapter.exclusionPolicy
      Action.within (adapter.engine claim.epoch 0 none) Store.openWriter

/-- What `openWrite` does before it opens the event data: it completes an
interrupted creation, and goes on only when both files are there. -/
def checkOpenWritePresence {σ : Type} (adapter : FileStorageAdapter) (carriedEpoch : UInt64) :
    Action fileOperations OperationFailure σ (Option (Store FileEngine)) := do
  match ← adapter.tryPresence with
  | .none => throw ⟨.noArtefactExists,
      "no artefact exists on open; strict open does not create per C5.62"⟩
  | .eventDataOnly => throw ⟨.ownershipUnestablished,
      "event data present without ownership record refused on write path per C5.10"⟩
  | .ownershipRecordOnly =>
      let records ← readMetaRecords
      Action.refuseIf records.outboundPointer.isSome ⟨.retiredMigrationSource,
        "artefact append authority permanently retired via outbound pointer per C5.63"⟩
      let claim ← Action.require records.latestClaim ⟨.ownershipUnestablished,
        "ownership record unseeded; cannot open writer session without established claim per C5.10"⟩
      Action.refuseIf (claim.epoch ≠ carriedEpoch) ⟨.staleEpoch,
        "stale epoch on open writer per C5.5 and C12.4"⟩
      let session ← adapter.completeCreation claim
      return some session
  | .both => return Option.none

/-- The checks on the ownership records when both files are there. -/
def admitRecords {σ : Type} (records : MetaRecords) (carriedEpoch : UInt64) :
    Action fileOperations OperationFailure σ Unit := do
  Action.refuseIf records.outboundPointer.isSome ⟨.retiredMigrationSource,
    "artefact append authority permanently retired via outbound pointer per C5.63"⟩
  requireDescriptor records
  let claim ← Action.require records.latestClaim ⟨.ownershipRecordUnreadable,
    "no ownership claim found in .meta per C5.12"⟩
  Action.refuseIf (claim.epoch ≠ carriedEpoch) ⟨.staleEpoch,
    "carried epoch does not match recorded epoch in .meta per C5.5 and C12.4"⟩

/-- What `openWrite` does with the event data opened and locked. -/
def openLocked {σ : Type} (adapter : FileStorageAdapter) (carriedEpoch : UInt64) :
    Action fileOperations OperationFailure σ (Store FileEngine) := do
  let records ← readMetaRecords
  admitRecords records carriedEpoch
  let (scan, recoveredTailTruncation) ← scanAndReconcile
  Action.within (adapter.engine carriedEpoch scan.frames.length recoveredTailTruncation)
    Store.openWriter

/-- Opens the artefact strictly for writing with a carried epoch. -/
def openWrite {σ : Type} (adapter : FileStorageAdapter) (carriedEpoch : UInt64) :
    Action fileOperations OperationFailure σ (Store FileEngine) := do
  match ← adapter.checkOpenWritePresence carriedEpoch with
  | some session => return session
  | Option.none =>
      orRefuse (FileRequest.send .openFile .pgnoFile) .noArtefactExists "failed to open .pgno: "
      acquireFileExclusion adapter.exclusionPolicy
      adapter.openLocked carriedEpoch

/-- The event data of a reader: its number of frames when it is there, and no
torn tail. -/
def scanForReading {σ : Type} :
    Action fileOperations OperationFailure σ (Bool × Nat) := do
  let present ← Action.lift (pathExists .pgnoFile)
  if !present then
    return (false, 0)
  else
    orRefuse (FileRequest.send .openFile .pgnoFile) .noArtefactExists
      "failed to open .pgno for reading: "
    let scan ← readContainerFrames .pgnoFile
    Action.refuseIf (scan.tailState ≠ .clean) ⟨.precursorChainBroken Option.none,
      "container has uncommitted torn trailing frame; write reconciliation required per C5.10"⟩
    let _ ← orRefuse (FileRequest.send (.seekStart 0) .pgnoFile) (.precursorChainBroken Option.none)
      "failed to seek .pgno to start: "
    return (true, scan.frames.length)

/-- The records of the ownership record when it is there. -/
def readFoundRecords {σ : Type} : Action fileOperations OperationFailure σ MetaRecords := do
  let metaExists ← Action.lift (pathExists .metaFile)
  if metaExists then readMetaRecords else pure MetaRecords.empty

/-- Opens the artefact strictly for reading; no lock is taken. -/
def openRead {σ : Type} (adapter : FileStorageAdapter) :
    Action fileOperations OperationFailure σ (OpenAdmission × Store FileEngine) := do
  let presence ← adapter.tryPresence
  Action.refuseIf (presence = .none) ⟨.noArtefactExists,
    "no artefact exists on open; strict open does not create per C5.62"⟩
  let metaRecords ← readFoundRecords
  let admission ← Action.ofExcept (admitOpen presence metaRecords.latestClaim false)
  let (file, frameCount) ← scanForReading
  let carriedEpoch := match metaRecords.latestClaim with
    | some claim => claim.epoch
    | Option.none => 0
  let engine : FileEngine :=
    { adapter.engine carriedEpoch frameCount Option.none with
      file := file
      exclusionPolicy := .standard
      locked := false }
  let store ← Action.within engine Store.openReader
  return (admission, store)

end FileStorageAdapter

end Pardosa
