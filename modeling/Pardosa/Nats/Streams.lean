import Pardosa.File.MetaRecords
import Pardosa.Nats.Broker

/-!
# Reading the streams

The ownership record is a container header at sequence one and one framed record
a message after it; the event data is a container header and one framed event a
message after it. The code reads up to sixteen messages at a time and looks at
them in order; here they are read one by one.
-/

namespace Pardosa

open Foundation

/-- Ask the broker, and turn an error into a refusal. -/
def askOr {σ α : Type} (program : Program natsOperations (Except NatsError α))
    (refusal : NatsError → OperationFailure) : Action natsOperations OperationFailure σ α := do
  let answer ← Action.lift program
  Action.ofExcept (answer.mapError refusal)

/-- A question that is answered goes on, and one that fails is refused. -/
@[simp] theorem wp_askOr {σ α World : Type} {setting : Setting natsOperations World}
    {program : Program natsOperations (Except NatsError α)}
    {refusal : NatsError → OperationFailure}
    {post : Except OperationFailure α → σ → World → Prop} {state : σ} {world : World} :
    (askOr program refusal).wp setting post state world ↔
      program.wp setting (fun answer after => post (answer.mapError refusal) state after)
        world := by
  unfold askOr
  rw [Action.wp_bind, Action.wp_lift]
  exact Iff.rfl

def mapNatsStreamOpenError (streamName : String) (failure : NatsError) : OperationFailure :=
  if failure.coded then
    ⟨.noArtefactExists, "stream " ++ streamName ++ " not found: " ++ failure.message⟩
  else ⟨.transportUnavailable,
    "transport unavailable opening stream " ++ streamName ++ ": " ++ failure.message⟩

def mapNatsInfoError (streamName : String) (failure : NatsError) : OperationFailure :=
  if failure.coded then
    ⟨.noArtefactExists, "stream " ++ streamName ++ " not found: " ++ failure.message⟩
  else ⟨.transportUnavailable,
    "transport unavailable querying info for stream " ++ streamName ++ ": " ++ failure.message⟩

def mapNatsRawMessageError (seq : Nat) (failure : NatsError) : OperationFailure :=
  if failure.coded then
    ⟨.precursorChainBroken none,
      "missing message in data stream at seq " ++ toString seq ++ ": " ++ failure.message⟩
  else ⟨.transportUnavailable,
    "transport unavailable reading raw message at seq " ++ toString seq ++ ": " ++ failure.message⟩

def mapMetaRawMessageError (seq : Nat) (failure : NatsError) : OperationFailure :=
  if (mapNatsRawMessageError seq failure).condition.isChainBreak then
    ⟨.ownershipRecordUnreadable,
      "missing message in meta stream at seq " ++ toString seq ++ ": " ++ failure.message⟩
  else mapNatsRawMessageError seq failure

variable [Digests]

namespace MetaRecords

/-- The place of a record of the meta stream. -/
def inMetaStream (seq : Nat) : RecordPlace :=
  let place := "in meta stream at seq " ++ toString seq
  ⟨place, place, place⟩

/-- The container header that the first message has to be. -/
def checkHeader (raw : Bytes) : Except OperationFailure Unit := do
  let (header, consumed) ← (ContainerHeader.decode raw).mapError fun failure =>
    unreadable ("failed to decode container header in meta stream at seq 1: " ++ failure.display)
  if header.formatVersion ≠ containerFormatVersion then
    throw (unreadable "container header in meta stream at seq 1 has unsupported format version")
  if consumed ≠ raw.length then
    throw (unreadable ("unconsumed trailing bytes in container header at seq 1: " ++
      toString (raw.length - consumed) ++ " bytes remain"))

/-- The frame that every later message has to be. -/
def unframe (seq : Nat) (raw : Bytes) : Except OperationFailure Bytes := do
  let (payload, consumed) ← (ContainerFrame.decode raw).mapError fun failure =>
    unreadable ("failed to decode frame in meta stream at seq " ++ toString seq ++ ": " ++
      failure.display)
  if consumed ≠ raw.length then
    throw (unreadable ("unconsumed trailing bytes in frame in meta stream at seq " ++
      toString seq ++ ": " ++ toString (raw.length - consumed) ++ " bytes remain"))
  return payload

/-- A frame of the meta stream is unframed to its payload. -/
theorem unframe_frameBytes {payload : Bytes} (fits : payload.length ≤ u32Max) (seq : Nat) :
    unframe seq (ContainerFrame.frameBytes payload) = .ok payload := by
  unfold unframe
  rw [ContainerFrame.decode_frameBytes fits]
  simp only [Except.mapError, ok_bind]
  rw [if_neg (by simp)]
  rfl

/-- Takes one message of the meta stream into account. -/
def absorbMessage (records : MetaRecords) (seq : Nat) (raw : Bytes) :
    Except OperationFailure MetaRecords :=
  if seq = 1 then do
    checkHeader raw
    return records
  else do
    let payload ← unframe seq raw
    absorbFrame (inMetaStream seq) records payload

/-- The records of the messages of a meta stream, numbered from one. -/
def ofMessages (messages : List Bytes) : Except OperationFailure MetaRecords :=
  (messages.zipIdx 1).foldlM (fun records message =>
    records.absorbMessage message.2 message.1) empty

end MetaRecords

/-- Reads and takes into account so many messages of the meta stream. -/
def absorbMessages {σ : Type} : (count seq : Nat) → MetaRecords →
    Action natsOperations OperationFailure σ MetaRecords
  | 0, _, records => pure records
  | count + 1, seq, records => do
      let raw ← askOr (NatsOp.send (.getRawMessage .metaStream seq)) (mapMetaRawMessageError seq)
      let records ← Action.ofExcept (records.absorbMessage seq raw)
      absorbMessages count (seq + 1) records

/-- Reads all ownership records from the meta stream. A stream that is not there
has none. -/
def readMetaStream {σ : Type} (metaStreamName : String) :
    Action natsOperations OperationFailure σ MetaRecords := do
  let opened ← Action.lift (NatsOp.send (.getStream .metaStream))
  match (opened : Except NatsError Unit) with
  | .error failure =>
      let mapped := mapNatsStreamOpenError metaStreamName failure
      if mapped.condition = .noArtefactExists then return .empty
      else throw mapped
  | .ok () =>
      let info ← askOr (NatsOp.send (.info .metaStream)) (mapNatsInfoError metaStreamName)
      Action.refuseIf (info.messages = 0) (MetaRecords.unreadable ("meta stream " ++
        metaStreamName ++ " is empty; missing sequence 1 container header"))
      Action.refuseIf (info.firstSequence > 1) (MetaRecords.unreadable ("meta stream " ++
        metaStreamName ++ " sequence 1 ContainerHeader missing: first sequence is " ++
        toString info.firstSequence ++ " > 1"))
      absorbMessages (info.lastSequence + 1 - info.firstSequence) info.firstSequence .empty

/-- The refusal of event data that is not a container. -/
def chainBroken (detail : String) : OperationFailure := ⟨.precursorChainBroken none, detail⟩

/-- Looks at the ends of the event data and checks its container header. -/
def dataExtent {σ : Type} (dataStreamName : String) :
    Action natsOperations OperationFailure σ StreamInfo := do
  askOr (NatsOp.send (.getStream .dataStream)) (mapNatsStreamOpenError dataStreamName)
  let info ← askOr (NatsOp.send (.info .dataStream)) (mapNatsInfoError dataStreamName)
  Action.refuseIf (info.messages = 0)
    (chainBroken "data stream is empty; missing container header per C10.3")
  Action.refuseIf (info.firstSequence > 1) (MetaRecords.unreadable ("data stream " ++
    dataStreamName ++ " sequence 1 ContainerHeader missing: first sequence is " ++
    toString info.firstSequence ++ " > 1"))
  let raw ← askOr (NatsOp.send (.getRawMessage .dataStream info.firstSequence))
    (mapNatsRawMessageError info.firstSequence)
  let (_, consumed) ← Action.ofExcept <| (ContainerHeader.decode raw).mapError fun failure =>
    chainBroken ("invalid container header in data stream: " ++ failure.display)
  Action.refuseIf (consumed ≠ raw.length)
    (chainBroken "trailing unconsumed bytes in container header")
  return info

/-- The payload of one message of the event data. -/
def unframeData (seq : Nat) (raw : Bytes) : Except OperationFailure Bytes := do
  let (payload, consumed) ← (ContainerFrame.decode raw).mapError fun failure =>
    chainBroken ("corrupted container frame in data stream at seq " ++ toString seq ++ ": " ++
      failure.display)
  if consumed ≠ raw.length then
    throw (chainBroken ("corrupted container frame in data stream at seq " ++ toString seq ++
      ": trailing unconsumed bytes"))
  return payload

/-- A frame of the event data is unframed to its payload. -/
theorem unframeData_frameBytes {payload : Bytes} (fits : payload.length ≤ u32Max) (seq : Nat) :
    unframeData seq (ContainerFrame.frameBytes payload) = .ok payload := by
  unfold unframeData
  rw [ContainerFrame.decode_frameBytes fits]
  simp only [Except.mapError, ok_bind]
  rw [if_neg (by simp)]
  rfl

/-- Reads the payloads of so many messages of the event data. -/
def readFrames {σ : Type} : (count seq : Nat) →
    Action natsOperations OperationFailure σ (List Bytes)
  | 0, _ => pure []
  | count + 1, seq => do
      let raw ← askOr (NatsOp.send (.getRawMessage .dataStream seq)) (mapNatsRawMessageError seq)
      let payload ← Action.ofExcept (unframeData seq raw)
      let payloads ← readFrames count (seq + 1)
      return payload :: payloads

/-- Reads all payloads of the event data. -/
def readDataFrames {σ : Type} (dataStreamName : String) :
    Action natsOperations OperationFailure σ (List Bytes) := do
  let info ← dataExtent dataStreamName
  if info.firstSequence < info.lastSequence then
    readFrames (info.lastSequence - info.firstSequence) (info.firstSequence + 1)
  else return []

/-- Reads a chunk of payloads of the event data. -/
def readDataChunk {σ : Type} (dataStreamName : String) (startIndex maxItems : Nat) :
    Action natsOperations OperationFailure σ (List Bytes) := do
  if maxItems = 0 then return []
  else
    let info ← dataExtent dataStreamName
    match (checkedAdd info.firstSequence 1).bind (checkedAdd · startIndex) with
    | none => return []
    | some startSeq =>
        let endSeq := match checkedAdd startSeq (maxItems - 1) with
          | some last => min last info.lastSequence
          | none => info.lastSequence
        if startSeq > info.lastSequence ∨ startSeq > endSeq then return []
        else readFrames (endSeq - startSeq + 1) startSeq

/-- Reads the payloads of a range of sequences. -/
def readRange {σ : Type} (dataStreamName : String) (fromSeq toSeq : Nat) :
    Action natsOperations OperationFailure σ (List Bytes) := do
  if fromSeq > toSeq then return []
  else
    askOr (NatsOp.send (.getStream .dataStream)) (mapNatsStreamOpenError dataStreamName)
    readFrames (toSeq - fromSeq + 1) fromSeq

end Pardosa
