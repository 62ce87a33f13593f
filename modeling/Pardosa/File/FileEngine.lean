import Pardosa.File.MetaRecords
import Pardosa.Store.Write

/-!
# The file engine and its adapter

`FileEngine` appends blocks to the event data under an exclusive lock. A write
that fails is rolled back as far as the operating system lets it, and the
session is fenced: nobody knows what landed. `FileStorageAdapter` opens an
artefact, reconciles its event data and hands the engine to a store.
-/

namespace Pardosa

open Foundation

/-- How a writer session excludes others. -/
inductive FileExclusionPolicy where
  | standard
  | simulateUnavailable
  | simulateHeldByOther
deriving DecidableEq, Repr

/-- Filesystem storage driver. -/
structure FileEngine where
  /-- Whether the engine holds an open handle on the event data. -/
  file : Bool
  carriedEpoch : UInt64
  exclusionPolicy : FileExclusionPolicy
  locked : Bool
  frameCount : Nat
  readAllCount : Nat
  uncertain : Bool
  uncertainDiagnostic : Option String
  simulateIndeterminate : Bool
  simulateSyncError : Bool
  simulateWriteError : Bool
  failAfterNBlocks : Option Nat
  undeterminedAfterNBlocks : Option Nat
  recoveredTailTruncation : Option TornTailInfo
deriving DecidableEq, Repr

/-- How far a failed write was taken back. -/
inductive RollbackOutcome where
  | succeeded
  | truncateFailed
  | syncFailed
  | seekFailed
deriving DecidableEq, Repr

def RollbackOutcome.asStr : RollbackOutcome → String
  | .succeeded => "rollback succeeded (truncated, synced, cursor restored)"
  | .truncateFailed => "rollback set_len failed"
  | .syncFailed => "rollback sync_data failed"
  | .seekFailed => "rollback seek failed"

/-- The error of a write that takes no more bytes. -/
def writeZero : IoError := ⟨false, "failed to write whole buffer"⟩

/-- The loop of `write_all`. Every round takes at least one byte, so as many
rounds as bytes are enough. -/
def writeAllLoop (name : FileName) : Nat → Bytes → Program fileOperations (Except IoError Unit)
  | _, [] => .ret (.ok ())
  | 0, _ :: _ => .ret (.error writeZero)
  | rounds + 1, byte :: bytes =>
      (FileRequest.send (.write (byte :: bytes)) name).bind fun
      | .error failure => .ret (.error failure)
      | .ok 0 => .ret (.error writeZero)
      | .ok (count + 1) => writeAllLoop name rounds ((byte :: bytes).drop (count + 1))

/-- Writes all bytes at the position of the handle. -/
def writeAll (name : FileName) (bytes : Bytes) : Program fileOperations (Except IoError Unit) :=
  writeAllLoop name bytes.length bytes

/-- Takes a failed write back. -/
def rollBack (initialLen : Nat) : Program fileOperations RollbackOutcome :=
  (FileRequest.send (.setLen initialLen) .pgnoFile).bind fun
  | .error _ => .ret .truncateFailed
  | .ok () => (FileRequest.send .syncData .pgnoFile).bind fun
    | .error _ => .ret .syncFailed
    | .ok () => (FileRequest.send (.seekStart initialLen) .pgnoFile).bind fun
      | .error _ => .ret .seekFailed
      | .ok _ => .ret .succeeded

namespace FileEngine

/-- The engine does not hold the exclusion its policy asks for. -/
def lacksExclusion (engine : FileEngine) : Bool :=
  engine.exclusionPolicy == .standard && (!engine.file || !engine.locked)

/-- Fence the session: what landed is unknown from here on. -/
def fence (diagnostic : String) (engine : FileEngine) : FileEngine :=
  { engine with uncertain := true, uncertainDiagnostic := some diagnostic }

/-- Whether a configured limit of blocks is reached. -/
def reached (engine : FileEngine) (limit : Option Nat) : Bool :=
  limit.any fun bound => engine.frameCount ≥ bound

/-- The outcomes an engine can be told to simulate. -/
def checkAppendSimulation (engine : FileEngine) :
    Except OperationFailure (Option (WriteLandingVerdict Nat)) × FileEngine :=
  if engine.simulateIndeterminate || engine.reached engine.undeterminedAfterNBlocks then
    (.ok (some (.undetermined engine.carriedEpoch)),
      engine.fence "write landing undetermined: simulated indeterminate write landing")
  else if engine.reached engine.failAfterNBlocks then
    (.error ⟨.precursorChainBroken none, "simulated write failure after limit"⟩, engine)
  else (.ok none, engine)

/-- The write of an append, or the failure it is told to simulate. -/
def writeRes (engine : FileEngine) (block : Bytes) : Program fileOperations (Except IoError Unit) :=
  match engine.simulateWriteError with
  | true => .ret (.error ⟨false, "simulated write_all failure"⟩)
  | false => writeAll .pgnoFile block

/-- The synchronization of an append, or the failure it is told to simulate. -/
def syncRes (engine : FileEngine) : Program fileOperations (Except IoError Unit) :=
  match engine.simulateSyncError with
  | true => .ret (.error ⟨false, "simulated sync_data failure"⟩)
  | false => FileRequest.send .syncData .pgnoFile

/-- After a failed write: take it back and fence the session. -/
def abandonBlock (initialLen : Nat) (failure : IoError) :
    Action fileOperations OperationFailure FileEngine (WriteLandingVerdict Nat) := do
  let rollbackOutcome ← Action.lift (rollBack initialLen)
  modify (fence ("write_all failed; write landing undetermined: " ++ failure.message ++ "; " ++
    rollbackOutcome.asStr))
  let engine ← get
  return .undetermined engine.carriedEpoch

/-- After a complete write: synchronize it and count the block, or fence the
session. -/
def settleBlock : Action fileOperations OperationFailure FileEngine (WriteLandingVerdict Nat) := do
  let engine ← get
  match ← Action.lift engine.syncRes with
  | .error failure =>
      modify (fence ("sync_data failed; write landing undetermined: " ++ failure.message))
      return .undetermined engine.carriedEpoch
  | .ok () =>
      modify fun engine => { engine with frameCount := engine.frameCount + 1 }
      return .landed (engine.frameCount + 1)

/-- Writes and synchronizes a block behind the event data. -/
def writeBlock (block : Bytes) :
    Action fileOperations OperationFailure FileEngine (WriteLandingVerdict Nat) := do
  let engine ← get
  Action.refuseIf (!engine.file) ⟨.ownershipUnestablished, "no file open for writing"⟩
  let initialLen ← orRefuse (FileRequest.send .seekEnd .pgnoFile) .transportUnavailable
    "failed to seek to end of container: "
  match ← Action.lift (engine.writeRes block) with
  | .error failure => abandonBlock initialLen failure
  | .ok () => settleBlock

variable [Digests]

/-- Verifies authority to append: certainty, exclusion, retirement, epoch. -/
def checkAuthority : Action fileOperations OperationFailure FileEngine Unit := do
  let engine ← get
  Action.refuseIf engine.uncertain ⟨.ownershipRecordUnreadable,
    "writer session in uncertain state; reconciliation required"⟩
  Action.refuseIf engine.lacksExclusion ⟨.anotherOwnerHoldsExclusion,
    "writer session has released or does not hold required file exclusion per C5.6 and C5.65"⟩
  let records ← readMetaRecords
  Action.refuseIf records.outboundPointer.isSome ⟨.retiredMigrationSource,
    "artefact append authority permanently retired via outbound pointer per C5.63"⟩
  let latestClaim ← Action.require records.latestClaim ⟨.ownershipRecordUnreadable,
    "no ownership claim found in .meta during per-landing check per C5.12"⟩
  Action.refuseIf (latestClaim.epoch ≠ engine.carriedEpoch) ⟨.staleEpoch,
    "writer epoch superseded in .meta; write rejected per C5.5 and C12.4"⟩

/-- Appends a raw frame block. -/
def appendBlock (block : Bytes) :
    Action fileOperations OperationFailure FileEngine (WriteLandingVerdict Nat) := do
  checkAuthority
  let engine ← get
  Action.refuseIf engine.lacksExclusion ⟨.anotherOwnerHoldsExclusion,
    "writer session has released or does not hold required file exclusion across append per C5.6 and C5.65"⟩
  match ← Action.mutate checkAppendSimulation with
  | some verdict => return verdict
  | none => writeBlock block

/-- Scans the event data for a reader, which tolerates no torn tail. -/
def scanClean {σ : Type} : Action fileOperations OperationFailure σ ContainerScan := do
  let _ ← orRefuse (FileRequest.send (.seekStart 0) .pgnoFile) .noArtefactExists
    "failed to seek container file: "
  let scan ← readContainerFrames .pgnoFile
  Action.refuseIf (scan.tailState ≠ .clean) ⟨.precursorChainBroken none,
    "container has uncommitted torn trailing frame"⟩
  let _ ← orRefuse (FileRequest.send (.seekStart scan.validLen) .pgnoFile)
    (.precursorChainBroken none) "failed to seek to end of container: "
  return scan

/-- Reads all payloads of the event data. -/
def readAll : Action fileOperations OperationFailure FileEngine (List Bytes) := do
  modify fun engine => { engine with readAllCount := engine.readAllCount + 1 }
  let engine ← get
  if !engine.file then
    return []
  else
    let scan ← scanClean
    return scan.frames

/-- Reads a chunk of payloads of the event data. -/
def readChunk (startIndex maxItems : Nat) :
    Action fileOperations OperationFailure FileEngine (List Bytes) :=
  chunkOfAll readAll startIndex maxItems

/-- Recovers the frames of the event data. -/
def recoverFrames {σ : Type} (onFrame : FrameRecoveryCallback σ) :
    Action fileOperations OperationFailure (FileEngine × σ) Nat := do
  let (engine, _) ← get
  if !engine.file then
    return 0
  else
    let scan ← scanClean
    modify fun state => ({ state.1 with frameCount := scan.frames.length }, state.2)
    Action.mutate fun state =>
      let (outcome, captured) := deliverFrames onFrame 0 scan.frames state.2
      (outcome, (state.1, captured))

/-- Whether the ownership record points to a successor. -/
def isRetired : Program fileOperations (Except OperationFailure Bool) :=
  (readMetaRecords ()).bind fun
  | (outcome, _) => .ret (outcome.map fun records => records.outboundPointer.isSome)

/-- Gives the exclusive lock back. -/
def releaseExclusion : Action fileOperations OperationFailure FileEngine Unit := do
  let engine ← get
  if engine.locked && engine.exclusionPolicy == .standard && engine.file then
    orRefuse (FileRequest.send .unlock .pgnoFile) .exclusionUnavailable
      "failed to release file exclusion: "
    modify fun engine => { engine with locked := false }
  else
    return ()

/-- Synchronizes the event data. -/
def sync : Action fileOperations OperationFailure FileEngine Unit := do
  checkAuthority
  let engine ← get
  if engine.file then
    let synced ← Action.lift (FileRequest.send .syncData .pgnoFile)
    match (synced : Except IoError Unit) with
    | .error failure =>
        modify (fence ("sync_data failed; write landing undetermined: " ++ failure.message))
        throw ⟨.ownershipRecordUnreadable, "failed to sync .pgno: " ++ failure.message⟩
    | .ok () => return ()
  else
    return ()

instance : StorageEngine fileOperations FileEngine where
  carriedEpoch := carriedEpoch
  checkAuthority engine := (checkAuthority engine).bind fun
    | (outcome, _) => .ret outcome
  appendBlock := appendBlock
  readAll := readAll
  readChunk := readChunk
  recoverFrames _ onFrame := recoverFrames onFrame
  isRetired _ := isRetired
  sync := sync
  uncertainDiagnostic := uncertainDiagnostic

end FileEngine

end Pardosa
