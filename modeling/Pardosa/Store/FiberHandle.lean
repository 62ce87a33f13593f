import Pardosa.Encoding.Envelope
import Pardosa.Store.Failure

/-!
# Fiber handles

The five-state lifecycle of one fiber and the minting of its next envelope. A
handle is changed only by a call that returns an envelope.
-/

namespace Pardosa

open Foundation

/-- Maximum number of events allowed per fiber. -/
def maxEventsPerFiber : Nat := 100000

/-- State of a fiber. -/
inductive FiberState where
  | undefined
  | defined
  | detached
  | purged
  | locked
deriving DecidableEq, Repr

/-- The debug form of a state, as diagnostics quote it. -/
def FiberState.display : FiberState → String
  | .undefined => "Undefined"
  | .defined => "Defined"
  | .detached => "Detached"
  | .purged => "Purged"
  | .locked => "Locked"

/-- Lifecycle state, precursor and event count of one fiber. -/
structure FiberHandle where
  fiberId : Id
  state : FiberState
  precursor : Id
  precursorHash : Hash
  eventCount : Nat
deriving DecidableEq, Repr

namespace FiberHandle

/-- A handle for a previously undefined fiber. -/
def new (fiberId : Id) : FiberHandle := ⟨fiberId, .undefined, zeroId, zeroHash, 0⟩

/-- A handle with explicit fields, refused when they contradict the state. -/
def withState (fiberId : Id) (state : FiberState) (precursor : Id) (precursorHash : Hash)
    (eventCount : Nat) : Except OperationFailure FiberHandle :=
  match state with
  | .undefined | .purged =>
      if precursor ≠ zeroId ∨ precursorHash ≠ zeroHash ∨ eventCount ≠ 0 then
        .error ⟨.invariantBreakingConfiguration,
          "undefined or purged fiber must carry zero precursor, zero precursor hash, and event count 0"⟩
      else .ok ⟨fiberId, state, precursor, precursorHash, eventCount⟩
  | .defined | .detached | .locked =>
      if precursor = zeroId ∨ precursorHash = zeroHash ∨ eventCount = 0 ∨
          eventCount > maxEventsPerFiber then
        .error ⟨.invariantBreakingConfiguration,
          "active fiber must carry non-zero precursor, precursor hash, and 1 <= event_count <= MAX_EVENTS_PER_FIBER"⟩
      else .ok ⟨fiberId, state, precursor, precursorHash, eventCount⟩

/-- The checks every minting call makes first; answers the next event count. -/
def nextCount (handle : FiberHandle) (eventId : Id) : Except OperationFailure Nat :=
  if eventId = zeroId then
    .error ⟨.valueConstraintViolated .empty, "event_id cannot be all-zeroes"⟩
  else if eventId = handle.precursor then
    .error ⟨.precursorChainBroken none, "event ID matches precursor event ID per C5.61"⟩
  else if handle.eventCount ≥ maxEventsPerFiber then
    .error ⟨.valueConstraintViolated .tooLong,
      "event count boundary reached (MAX_EVENTS_PER_FIBER)"⟩
  else .ok (handle.eventCount + 1)

variable [Digests]

/-- The envelope that continues the handle's chain. -/
def chained (handle : FiberHandle) (detached : Bool) (eventId : Id) (payload : Bytes) :
    EventEnvelope :=
  ⟨⟨eventId, handle.fiberId, detached, handle.precursor, handle.precursorHash⟩, payload⟩

/-- The handle after minting an envelope. -/
def advanced (handle : FiberHandle) (state : FiberState) (envelope : EventEnvelope)
    (eventCount : Nat) : FiberHandle :=
  { handle with
    state, precursor := envelope.header.eventId, precursorHash := envelope.commitment, eventCount }

/-- Mints a genesis envelope; every encoding failure is reported as an empty
value under the caller's text. -/
def mintGenesis (handle : FiberHandle) (eventId : Id) (payload : Bytes) (detail : String) :
    Except OperationFailure EventEnvelope :=
  (EventEnvelope.genesis eventId handle.fiberId payload).mapError fun _ =>
    ⟨.valueConstraintViolated .empty, detail⟩

/-- Appends an event, minting its envelope. -/
def append (handle : FiberHandle) (eventId : Id) (payload : Bytes) :
    Except OperationFailure EventEnvelope × FiberHandle :=
  match handle.nextCount eventId with
  | .error failure => (.error failure, handle)
  | .ok nextCount =>
      match handle.state with
      | .undefined | .purged =>
          match handle.mintGenesis eventId payload "failed to construct genesis envelope" with
          | .error failure => (.error failure, handle)
          | .ok envelope => (.ok envelope, handle.advanced .defined envelope nextCount)
      | .defined =>
          let envelope := handle.chained false eventId payload
          (.ok envelope, handle.advanced .defined envelope nextCount)
      | .detached | .locked =>
          (.error ⟨.invariantBreakingConfiguration,
            "cannot append to fiber in " ++ handle.state.display ++ " state without rescue"⟩,
            handle)

/-- Detaches the fiber, minting a detached envelope. -/
def detach (handle : FiberHandle) (eventId : Id) (payload : Bytes) :
    Except OperationFailure EventEnvelope × FiberHandle :=
  match handle.nextCount eventId with
  | .error failure => (.error failure, handle)
  | .ok nextCount =>
      match handle.state with
      | .defined =>
          let envelope := handle.chained true eventId payload
          (.ok envelope, handle.advanced .detached envelope nextCount)
      | .undefined | .detached | .purged | .locked =>
          (.error ⟨.invariantBreakingConfiguration,
            "cannot detach fiber in " ++ handle.state.display ++
              " state; detach is only valid from Defined"⟩, handle)

/-- Rescues a detached or locked fiber; a locked one starts again at genesis. -/
def rescue (handle : FiberHandle) (eventId : Id) (payload : Bytes) :
    Except OperationFailure EventEnvelope × FiberHandle :=
  match handle.nextCount eventId with
  | .error failure => (.error failure, handle)
  | .ok nextCount =>
      match handle.state with
      | .detached =>
          let envelope := handle.chained false eventId payload
          (.ok envelope, handle.advanced .defined envelope nextCount)
      | .locked =>
          match handle.mintGenesis eventId payload
              "failed to construct genesis envelope on rescue locked" with
          | .error failure => (.error failure, handle)
          | .ok envelope => (.ok envelope, handle.advanced .defined envelope nextCount)
      | .undefined | .defined | .purged =>
          (.error ⟨.invariantBreakingConfiguration,
            "cannot rescue fiber in " ++ handle.state.display ++
              " state; rescue is only valid from Detached or Locked"⟩, handle)

end FiberHandle

end Pardosa
