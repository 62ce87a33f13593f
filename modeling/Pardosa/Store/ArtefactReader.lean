import Pardosa.File.Container
import Mathlib.Data.Finmap

/-!
# Reader sessions

A reader session queues a stream of envelopes within an item and a byte limit, and
hands them out one by one. Each is checked against the events and fibers observed so
far; the first that fails, or a stream beyond the limits, ends the session.
-/

namespace Pardosa

open Foundation

/-- Maximum active tracked fibers per reader session. -/
def maxReaderFibers : Nat := 100000

/-- Maximum stream items ingested per reader session. -/
def maxStreamItems : Nat := 65536

/-- Maximum queued stream payload bytes tracked per reader session. -/
def maxStreamBytes : Nat := 64 * 1024 * 1024

/-- An envelope and the capacity of the buffer that holds its payload. -/
structure StreamEnvelope where
  envelope : EventEnvelope
  capacity : Nat
  holds : envelope.payload.length ≤ capacity
deriving DecidableEq

/-- A frame and the bytes that the buffer of its decoded payload has to spare. -/
structure StreamFrame where
  frame : ContainerFrame
  spare : Nat
deriving DecidableEq

/-- What a session tracks of a fiber. -/
structure FiberTracking where
  lastEventId : Id
  lastCommitmentHash : Hash
deriving DecidableEq, Repr

/-- State of a reader session. -/
structure ReaderState where
  observedPosition : Nat
  fibers : Finmap fun _ : Id => FiberTracking
  observedEvents : Finmap fun _ : Id => Id
  stream : List StreamEnvelope
  terminallyFailed : Bool
  capacityRefused : Bool
  byteCapacityRefused : Bool
  retainedBytes : Nat

/-- An observed event. -/
structure ReaderObservation (Locator : Type) where
  position : Nat
  eventId : Id
  fiberId : Id
  locator : Locator
  isGenesis : Bool
deriving DecidableEq, Repr

/-- Reader session bound to an opened artefact. -/
structure ArtefactReader (Locator : Type) where
  locator : Locator
  state : ReaderState

/-- Ends the session and drops what is queued. -/
def ReaderState.markTerminallyFailed (state : ReaderState) : ReaderState :=
  { state with terminallyFailed := true, stream := [], retainedBytes := 0 }

/-- A refusal over a limit. -/
def limitExceeded (diagnosticDetail : String) : OperationFailure :=
  ⟨.valueConstraintViolated .tooLong, diagnosticDetail⟩

/-- What the ingestion of a stream counts and queues. -/
structure Ingestion where
  stream : List StreamEnvelope
  capacityRefused : Bool
  byteCapacityRefused : Bool
  retainedBytes : Nat
  count : Nat

namespace Ingestion

/-- Before the first item. -/
def start : Ingestion := ⟨[], false, false, 0, 0⟩

/-- Queues items up to the limits; the first beyond one of them stops it. -/
def ingest (ingestion : Ingestion) : List StreamEnvelope → Ingestion
  | [] => ingestion
  | item :: items =>
      let ingestion := { ingestion with count := saturatingAdd ingestion.count 1 }
      if ingestion.count ≤ maxStreamItems then
        match checkedAdd 85 item.capacity with
        | none => { ingestion with byteCapacityRefused := true }
        | some envSize => match checkedAdd ingestion.retainedBytes envSize with
            | none => { ingestion with byteCapacityRefused := true }
            | some newRetained =>
                if newRetained ≤ maxStreamBytes then
                  ingest { ingestion with
                    retainedBytes := newRetained
                    stream := ingestion.stream ++ [item] } items
                else { ingestion with byteCapacityRefused := true }
      else { ingestion with capacityRefused := true }

end Ingestion

namespace ArtefactReader

variable {Locator : Type}

/-- Opens a reader session with an event envelope stream. -/
def withStream (locator : Locator) (stream : List StreamEnvelope) : ArtefactReader Locator :=
  let ingestion := Ingestion.start.ingest stream
  let state : ReaderState :=
    { observedPosition := 0
      fibers := ∅
      observedEvents := ∅
      stream := ingestion.stream
      terminallyFailed := false
      capacityRefused := ingestion.capacityRefused
      byteCapacityRefused := ingestion.byteCapacityRefused
      retainedBytes := ingestion.retainedBytes }
  ⟨locator, if state.capacityRefused || state.byteCapacityRefused then state.markTerminallyFailed
    else state⟩

/-- Opens a reader session with nothing to read. -/
def withReader (locator : Locator) : ArtefactReader Locator := withStream locator []

variable [Digests]

/-- Decodes frames into the envelopes of a stream, within the limits of one. -/
def decodeStream (frameCount totalBytes : Nat) (envelopes : List StreamEnvelope) :
    List StreamFrame → Except OperationFailure (List StreamEnvelope)
  | [] => .ok envelopes
  | ⟨frame, spare⟩ :: frames =>
      match checkedAdd frameCount 1 with
      | none => .error (limitExceeded "frame item limit exceeded")
      | some frameCount =>
          if frameCount > maxStreamItems then .error (limitExceeded "frame item limit exceeded")
          else match (checkedAdd totalBytes frame.payload.length).filter (· ≤ maxStreamBytes) with
            | none => .error (limitExceeded "frame byte limit exceeded")
            | some _ =>
                let computed := crc32c frame.payload
                if frame.checksum ≠ computed then
                  .error ⟨.envelopeMismatch, "frame decode error: " ++
                    (DecodeError.checksumMismatch computed frame.checksum).display⟩
                else match EventEnvelope.decode frame.payload with
                  | .error failure =>
                      .error ⟨.envelopeMismatch, "frame decode error: " ++ failure.display⟩
                  | .ok (envelope, consumed) =>
                      if consumed ≠ frame.payload.length then
                        .error ⟨.envelopeMismatch, "frame decode error: " ++
                          (DecodeError.truncatedPayload frame.payload.length consumed).display⟩
                      else match checkedAdd 85 (envelope.payload.length + spare) with
                        | none => .error (limitExceeded "frame byte limit exceeded")
                        | some envSize =>
                            match (checkedAdd totalBytes envSize).filter (· ≤ maxStreamBytes) with
                            | none => .error (limitExceeded "frame byte limit exceeded")
                            | some totalBytes =>
                                decodeStream frameCount totalBytes (envelopes ++
                                  [⟨envelope, envelope.payload.length + spare,
                                    Nat.le_add_right _ _⟩]) frames

/-- Opens a reader session from framed container entries. -/
def withFrames (locator : Locator) (frames : List StreamFrame) :
    Except OperationFailure (ArtefactReader Locator) := do
  let envelopes ← decodeStream 0 0 [] frames
  return withStream locator envelopes

/-- Records a genesis event and observes it. -/
def observeGenesis (reader : ArtefactReader Locator) (envelope : EventEnvelope) :
    Option (ReaderObservation Locator) × ArtefactReader Locator :=
  let state := reader.state
  if envelope.header.precursor ≠ zeroId ∨ envelope.header.precursorHash ≠ zeroHash then
    (none, reader)
  else if envelope.header.eventId ∈ state.observedEvents then (none, reader)
  else if state.fibers.keys.card ≥ maxReaderFibers then (none, reader)
  else if envelope.header.fiberId ∈ state.fibers then (none, reader)
  else match checkedAdd state.observedPosition 1 with
    | none => (none, reader)
    | some nextPos =>
        (some ⟨state.observedPosition, envelope.header.eventId, envelope.header.fiberId,
            reader.locator, true⟩,
          { reader with state := { state with
              observedPosition := nextPos
              fibers := state.fibers.insert envelope.header.fiberId
                ⟨envelope.header.eventId, envelope.commitment⟩
              observedEvents :=
                state.observedEvents.insert envelope.header.eventId envelope.header.fiberId } })

/-- Records a chained event and observes it. -/
def observeEvent (reader : ArtefactReader Locator) (envelope : EventEnvelope) :
    Option (ReaderObservation Locator) × ArtefactReader Locator :=
  let state := reader.state
  if envelope.header.precursor = zeroId then (none, reader)
  else if envelope.header.eventId ∈ state.observedEvents then (none, reader)
  else match state.fibers.lookup envelope.header.fiberId with
    | none => (none, reader)
    | some fiber =>
        if fiber.lastEventId ≠ envelope.header.precursor then (none, reader)
        else if fiber.lastCommitmentHash ≠ envelope.header.precursorHash then (none, reader)
        else match checkedAdd state.observedPosition 1 with
          | none => (none, reader)
          | some nextPos =>
              (some ⟨state.observedPosition, envelope.header.eventId, envelope.header.fiberId,
                  reader.locator, false⟩,
                { reader with state := { state with
                    observedPosition := nextPos
                    fibers := state.fibers.insert envelope.header.fiberId
                      ⟨envelope.header.eventId, envelope.commitment⟩
                    observedEvents :=
                      state.observedEvents.insert envelope.header.eventId
                        envelope.header.fiberId } })

/-- What one read answers: nothing, a refusal or an observation. -/
abbrev Reading (Locator : Type) : Type :=
  Option (Except OperationFailure (ReaderObservation Locator))

/-- Ends the session with a refusal. -/
def fail (reader : ArtefactReader Locator) (failure : OperationFailure) :
    Reading Locator × ArtefactReader Locator :=
  (some (.error failure), { reader with state := reader.state.markTerminallyFailed })

/-- Takes over what an observation answers; without one the position has overflowed. -/
def conclude : Option (ReaderObservation Locator) × ArtefactReader Locator →
    Reading Locator × ArtefactReader Locator
  | (some observation, reader) => (some (.ok observation), reader)
  | (none, reader) => reader.fail (limitExceeded "observed position counter overflow")

/-- Checks an envelope that names no precursor, and observes it. -/
def readGenesis (reader : ArtefactReader Locator) (envelope : EventEnvelope) :
    Reading Locator × ArtefactReader Locator :=
  if envelope.header.precursorHash ≠ zeroHash then
    reader.fail ⟨.precursorChainBroken none,
      "genesis envelope has non-zero precursor commitment hash per C4.19"⟩
  else if reader.state.fibers.keys.card ≥ maxReaderFibers then
    reader.fail (limitExceeded "active tracked fibers capacity exceeded per C6.7")
  else if envelope.header.fiberId ∈ reader.state.fibers then
    reader.fail ⟨.precursorChainBroken none, "duplicate genesis on same fiber per C5.22"⟩
  else conclude (reader.observeGenesis envelope)

/-- Checks an envelope that names a precursor, and observes it. -/
def readChained (reader : ArtefactReader Locator) (envelope : EventEnvelope) :
    Reading Locator × ArtefactReader Locator :=
  match reader.state.observedEvents.lookup envelope.header.precursor with
  | none => reader.fail ⟨.precursorChainBroken (some .precursorOutOfRange),
      "precursor event ID is not resident in reader history per C6.12"⟩
  | some prevFiber =>
      if prevFiber ≠ envelope.header.fiberId then
        reader.fail ⟨.precursorChainBroken (some .precursorWrongFiber),
          "precursor event belongs to another resident fiber per C6.12"⟩
      else match reader.state.fibers.lookup envelope.header.fiberId with
        | none => reader.fail ⟨.precursorChainBroken (some .precursorOutOfRange),
            "fiber has no observed genesis in this artefact per C6.12"⟩
        | some fiber =>
            if fiber.lastEventId ≠ envelope.header.precursor then
              reader.fail ⟨.precursorChainBroken none,
                "precursor is a stale non-immediate event on the same fiber per C5.22"⟩
            else if fiber.lastCommitmentHash ≠ envelope.header.precursorHash then
              reader.fail ⟨.precursorChainBroken none,
                "precursor commitment hash does not match predecessor commitment per C5.40"⟩
            else conclude (reader.observeEvent envelope)

/-- Reads and observes the next envelope of the session. -/
def readEvent (reader : ArtefactReader Locator) : Reading Locator × ArtefactReader Locator :=
  let state := reader.state
  if state.capacityRefused then
    (some (.error (limitExceeded "stream item limit exceeded")),
      { reader with state := { state.markTerminallyFailed with capacityRefused := false } })
  else if state.byteCapacityRefused then
    (some (.error (limitExceeded "stream byte limit exceeded")),
      { reader with state := { state.markTerminallyFailed with byteCapacityRefused := false } })
  else if state.terminallyFailed then (none, reader)
  else match state.stream with
    | [] => (none, reader)
    | item :: rest =>
        let envelope := item.envelope
        let envSize := saturatingAdd 85 item.capacity
        let reader : ArtefactReader Locator := { reader with state := { state with
          stream := rest
          retainedBytes := state.retainedBytes - envSize } }
        if envelope.header.eventId ∈ state.observedEvents then
          reader.fail ⟨.precursorChainBroken none,
            "duplicate event ID observed across reader session per C5.61"⟩
        else if envelope.header.precursor = zeroId then reader.readGenesis envelope
        else reader.readChained envelope

/-- What a number of reads answers, and the session they leave. -/
def reads (reader : ArtefactReader Locator) : Nat → List (Reading Locator) × ArtefactReader Locator
  | 0 => ([], reader)
  | calls + 1 =>
      let (reading, next) := reader.readEvent
      let (readings, final) := next.reads calls
      (reading :: readings, final)

end ArtefactReader

end Pardosa
