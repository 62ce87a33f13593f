import Pardosa.Nats.Streams
import Pardosa.Store.Session

/-!
# The JetStream engine

`NatsEngine` holds no lock. Its appends are conditioned on one number, the last
sequence of the event data that the session knows of, which only recovery and
landed appends refresh. A publish that was not acknowledged in time, and a
refusal that shows another writer, fence the session.
-/

namespace Pardosa

open Foundation

/-- JetStream storage driver. -/
structure NatsEngine where
  metaStreamName : String
  dataStreamName : String
  carriedEpoch : UInt64
  lastDataSeq : Nat
  dataEventsLanded : Bool
  readAllCount : Nat
  /-- The time to wait for an acknowledgement, as diagnostics print it. -/
  publishTimeout : String
  simulateIndeterminate : Bool
  uncertain : Bool
  uncertainDiagnostic : Option String
deriving DecidableEq, Repr

namespace NatsEngine

/-- Fence the session. -/
def fence (diagnostic : String) (engine : NatsEngine) : NatsEngine :=
  { engine with uncertain := true, uncertainDiagnostic := some diagnostic }

/-- The refusal of a publish that another writer has overtaken. -/
def collision : OperationFailure :=
  ⟨.concurrencyConflict, "two-writer concurrency collision: expected sequence mismatch"⟩

/-- Waits for the acknowledgement of a publish. -/
def awaitLanding (engine : NatsEngine) (ticket : Nat) : Program natsOperations
    (Except OperationFailure (WriteLandingVerdict PubAck × Option String)) :=
  (NatsOp.send (.awaitAckWithinTimeout ticket)).bind fun
  | some (.ok ack) => .ret (.ok (.landed ack, none))
  | some (.error failure) =>
      if failure.coded then .ret (.error collision)
      else .ret (.ok (.undetermined engine.carriedEpoch,
        some ("publish ack failed; write landing undetermined: " ++ failure.message)))
  | none => .ret (.ok (.undetermined engine.carriedEpoch, some ("publish ack timed out after " ++
      engine.publishTimeout ++ "; write landing undetermined")))

/-- Publishes a block on the condition that the event data still ends where the
session knows it to end. -/
def publishBlock (engine : NatsEngine) (block : Bytes) : Program natsOperations
    (Except OperationFailure (WriteLandingVerdict PubAck × Option String)) :=
  (NatsOp.send (.publish .dataStream (some engine.lastDataSeq) block)).bind fun
  | .error failure =>
      if failure.coded then .ret (.error collision)
      else .ret (.error ⟨.transportUnavailable,
        "failed to initiate publish to data stream: " ++ failure.message⟩)
  | .ok ticket => engine.awaitLanding ticket

/-- What the session makes of the outcome of a publish. -/
def settlePublish : Except OperationFailure (WriteLandingVerdict PubAck × Option String) →
    Action natsOperations OperationFailure NatsEngine (WriteLandingVerdict Nat)
  | .error failure => do
      modify fun engine =>
        if failure.condition = .concurrencyConflict then
          engine.fence "two-writer concurrency collision: expected sequence mismatch; session marked uncertain per H2"
        else engine
      throw failure
  | .ok (.landed ack, _) => do
      let engine ← get
      if ack.stream ≠ engine.dataStreamName then
        modify (fence ("publish ack stream mismatch: expected " ++ engine.dataStreamName ++
          ", got " ++ ack.stream))
        return .undetermined engine.carriedEpoch
      else
        modify fun engine => { engine with lastDataSeq := ack.sequence, dataEventsLanded := true }
        return .landed ack.sequence
  | .ok (.undetermined carriedEpoch, diagnostic) => do
      modify (fence (diagnostic.getD ("write landing undetermined for carried epoch " ++
        toString carriedEpoch ++ " per C5.16")))
      return .undetermined carriedEpoch

/-- The append of a session that has passed its authority check. -/
def landBlock (block : Bytes) :
    Action natsOperations OperationFailure NatsEngine (WriteLandingVerdict Nat) := do
  let engine ← get
  if engine.simulateIndeterminate then
    modify (fence "write landing undetermined: simulated indeterminate write landing")
    return .undetermined engine.carriedEpoch
  else
    Action.refuseIf (engine.lastDataSeq = u64Max)
      ⟨.valueConstraintViolated .tooLong, "sequence number overflow"⟩
    let outcome ← Action.lift (engine.publishBlock block)
    settlePublish outcome

variable [Digests]

/-- Verifies authority to append: certainty, retirement, epoch. -/
def checkAuthority : Action natsOperations OperationFailure NatsEngine Unit := do
  let engine ← get
  Action.refuseIf engine.uncertain ⟨.ownershipRecordUnreadable,
    "writer session in uncertain state; reconciliation required"⟩
  let records ← readMetaStream engine.metaStreamName
  Action.refuseIf records.outboundPointer.isSome ⟨.retiredMigrationSource,
    "artefact append authority permanently retired via outbound pointer per C5.63"⟩
  let latestClaim ← Action.require records.latestClaim ⟨.ownershipRecordUnreadable,
    "no ownership claim found in meta stream during per-landing check per C5.12"⟩
  Action.refuseIf (latestClaim.epoch ≠ engine.carriedEpoch) ⟨.staleEpoch,
    "writer epoch superseded in meta stream; write rejected per C5.5 and C12.4"⟩

/-- Appends a raw frame block. -/
def appendBlock (block : Bytes) :
    Action natsOperations OperationFailure NatsEngine (WriteLandingVerdict Nat) := do
  match ← Action.attempt checkAuthority with
  | .error failure =>
      modify fun engine =>
        if failure.condition = .staleEpoch ∨ failure.condition = .retiredMigrationSource then
          engine.fence ("authority divergence: " ++ failure.display)
        else engine
      throw failure
  | .ok () => landBlock block

/-- Reads all payloads of the event data. -/
def readAll : Action natsOperations OperationFailure NatsEngine (List Bytes) := do
  modify fun engine => { engine with readAllCount := engine.readAllCount + 1 }
  let engine ← get
  readDataFrames engine.dataStreamName

/-- Reads a chunk of payloads of the event data. -/
def readChunk (startIndex maxItems : Nat) :
    Action natsOperations OperationFailure NatsEngine (List Bytes) := do
  let engine ← get
  readDataChunk engine.dataStreamName startIndex maxItems

/-- Where a chunk of recovery ends. -/
def chunkEndFrom (currentSeq chunkStep last : Nat) : Nat :=
  match checkedAdd currentSeq (chunkStep - 1) with
  | some chunkEnd => min chunkEnd last
  | none => last

/-- The chunk loop of recovery. Every round reads a message, so as many rounds as
messages are enough. -/
def recoverLoop {σ : Type} (onFrame : FrameRecoveryCallback σ) (dataStreamName : String)
    (chunkStep last : Nat) : (fuel currentSeq totalRecovered : Nat) →
    Action natsOperations OperationFailure (NatsEngine × σ) Nat
  | 0, _, totalRecovered => pure totalRecovered
  | fuel + 1, currentSeq, totalRecovered =>
      if currentSeq > last then pure totalRecovered
      else do
        let chunkEnd := chunkEndFrom currentSeq chunkStep last
        let frames ← readRange dataStreamName currentSeq chunkEnd
        Action.refuseIf (frames.length ≠ chunkEnd - currentSeq + 1) (chainBroken
          ("unexpected missing messages between " ++ toString currentSeq ++ " and " ++
            toString chunkEnd ++ " in data stream"))
        let totalRecovered ← Action.mutate fun state =>
          let (outcome, captured) := deliverFrames onFrame totalRecovered frames state.2
          (outcome, (state.1, captured))
        if chunkEnd = u64Max ∨ chunkEnd ≥ last then pure totalRecovered
        else recoverLoop onFrame dataStreamName chunkStep last fuel (chunkEnd + 1) totalRecovered

/-- Recovers the frames of the event data and takes over its last sequence. -/
def recoverFrames {σ : Type} (chunkSize : Nat) (onFrame : FrameRecoveryCallback σ) :
    Action natsOperations OperationFailure (NatsEngine × σ) Nat := do
  let (engine, _) ← get
  let info ← dataExtent engine.dataStreamName
  let last := info.lastSequence
  match checkedAdd info.firstSequence 1 with
  | none =>
      modify fun state => ({ state.1 with lastDataSeq := last }, state.2)
      return 0
  | some dataStartSeq =>
      if dataStartSeq > last then
        modify fun state => ({ state.1 with lastDataSeq := last }, state.2)
        return 0
      else
        let totalRecovered ← recoverLoop onFrame engine.dataStreamName (max chunkSize 1) last
          (last + 1 - dataStartSeq) dataStartSeq 0
        modify fun state => ({ state.1 with lastDataSeq := last }, state.2)
        return totalRecovered

/-- Whether the ownership record points to a successor. -/
def isRetired (engine : NatsEngine) : Program natsOperations (Except OperationFailure Bool) :=
  (readMetaStream engine.metaStreamName ()).bind fun
  | (outcome, _) => .ret (outcome.map fun records => records.outboundPointer.isSome)

/-- Flushes the client. -/
def sync : Action natsOperations OperationFailure NatsEngine Unit := do
  checkAuthority
  let flushed ← Action.lift (NatsOp.send .flush)
  match (flushed : Except NatsError Unit) with
  | .ok () => return ()
  | .error failure =>
      let refusal := chainBroken ("failed to flush NATS client: " ++ failure.message)
      modify (fence ("sync flush failed; write landing undetermined: " ++ refusal.display))
      throw refusal

instance : StorageEngine natsOperations NatsEngine where
  carriedEpoch := carriedEpoch
  checkAuthority engine := (checkAuthority engine).bind fun
    | (outcome, _) => .ret outcome
  appendBlock := appendBlock
  readAll := readAll
  readChunk := readChunk
  recoverFrames := recoverFrames
  isRetired := isRetired
  sync := sync
  uncertainDiagnostic := uncertainDiagnostic

end NatsEngine

/-- The controls of a JetStream session. -/
inductive NatsControl where
  | publishTimeout (timeout : String)
  | simulateIndeterminate (simulate : Bool)
deriving DecidableEq, Repr

def NatsControl.perform : NatsControl → Action natsOperations OperationFailure NatsEngine Unit
  | .publishTimeout timeout => modify fun engine => { engine with publishTimeout := timeout }
  | .simulateIndeterminate simulate =>
      modify fun engine => { engine with simulateIndeterminate := simulate }

end Pardosa
