import Pardosa.Store.Engine
import Pardosa.Store.SessionIndex

/-!
# The store

The unified pipeline over a storage engine: it keeps the session index and the
rolling commitment, validates every write against them before the engine sees
it, and commits only what the engine reports as landed. Whole-history reads
refresh index and commitment separately.
-/

namespace Pardosa

open Foundation

/-- Storage pipeline owning an engine, a session index and a commitment. -/
structure Store (Engine : Type) where
  engine : Engine
  rollingCommitment : RollingCommitment
  fiberIndex : SessionIndex
  brokenReaderCause : Option FailureCondition
  uncertain : Bool
  uncertainDiagnostic : Option String

namespace Store

variable {S : Signature} {Engine : Type} [StorageEngine S Engine]

/-- Run an engine method on the store's engine. -/
def onEngine {α : Type} (action : Action S OperationFailure Engine α) :
    Action S OperationFailure (Store Engine) α :=
  Action.on Store.engine (fun engine store => { store with engine }) action

/-- The diagnostic of an uncertain session, the store's own first. -/
def sessionDiagnostic (store : Store Engine) : Option String :=
  store.uncertainDiagnostic.or (StorageEngine.uncertainDiagnostic store.engine)

/-- Whether the session refuses writes and point lookups as uncertain. -/
def isUncertain (store : Store Engine) : Bool :=
  store.uncertain || (StorageEngine.uncertainDiagnostic store.engine).isSome

/-- The refusal of an uncertain session. -/
def uncertainFailure (store : Store Engine) : OperationFailure :=
  ⟨.ownershipRecordUnreadable, match store.sessionDiagnostic with
    | some diagnostic =>
        "writer session in uncertain state; reconciliation required: " ++ diagnostic
    | none => "writer session in uncertain state; reconciliation required"⟩

/-- Verifies that the session is certain and the engine has authority. -/
def checkSessionAuthority : Action S OperationFailure (Store Engine) Unit := do
  let store ← get
  Action.refuseIf store.isUncertain store.uncertainFailure
  let outcome ← Action.lift (StorageEngine.checkAuthority store.engine)
  Action.ofExcept outcome

/-- Synchronizes storage buffers to the durable medium. -/
def sync : Action S OperationFailure (Store Engine) Unit := onEngine StorageEngine.sync

/-- Whether the artefact is retired as a migration source. -/
def isRetiredSource : Action S OperationFailure (Store Engine) Bool := do
  let store ← get
  let outcome ← Action.lift (StorageEngine.isRetired store.engine)
  Action.ofExcept outcome

/-- Reads a single payload. -/
def readBlock (index : Nat) : Action S OperationFailure (Store Engine) Bytes :=
  onEngine (StorageEngine.readBlock index)

/-- The refusal of point lookups that both uncertainty and a retained break
cause. -/
def checkPointLookup (store : Store Engine) : Except OperationFailure Unit :=
  if store.isUncertain then .error store.uncertainFailure
  else match store.brokenReaderCause with
    | some cause =>
        .error ⟨cause, "reader session retained broken state; point lookups unavailable"⟩
    | none => .ok ()

/-- The session index, unless a break is retained. -/
def sessionIndex (store : Store Engine) : Except OperationFailure SessionIndex :=
  match store.brokenReaderCause with
  | some cause => .error ⟨cause, "reader session retained broken state: " ++ cause.display⟩
  | none => .ok store.fiberIndex

/-- The latest committed envelope of a fiber. -/
def getLatest (store : Store Engine) (fiberId : Id) :
    Except OperationFailure (Option EventEnvelope) := do
  store.checkPointLookup
  store.fiberIndex.getLatest fiberId

variable [Digests]

/-- A handle for a fiber. -/
def fiber (store : Store Engine) (fiberId : Id) : Except OperationFailure FiberHandle := do
  store.checkPointLookup
  store.fiberIndex.fiber fiberId

/-- The frame bytes of a recovered payload. -/
def reencode (frame : Bytes) : Except OperationFailure Bytes :=
  (ContainerFrame.encodePayload frame).mapError fun failure =>
    ⟨.precursorChainBroken none, "frame encoding failed: " ++ failure.display⟩

/-- What opening a writer does with each recovered frame. -/
def recoverFrame : FrameRecoveryCallback (RollingCommitment × SessionIndex) :=
  fun _ frame captured => match reencode frame with
    | .error failure => (.error failure, captured)
    | .ok block =>
        let (outcome, index) := captured.2.processFrame frame
        (outcome, captured.1.updateFrame block, index)

/-- Opens a writer by deriving its state from the engine. -/
def openWriter : Action S OperationFailure Engine (Store Engine) := fun engine =>
  (StorageEngine.recoverFrames 64 recoverFrame
    (engine, RollingCommitment.new, SessionIndex.new)).bind fun
  | (.error failure, engine, _) => .ret (.error failure, engine)
  | (.ok _, engine, rolling, index) =>
    .ret (.ok ⟨engine, rolling, index, none, false, none⟩, engine)

/-- What opening a reader captures while frames are recovered. -/
structure ReaderCapture where
  rolling : RollingCommitment
  fiberIndex : SessionIndex
  brokenCause : Option FailureCondition

/-- What opening a reader does with each recovered frame. -/
def recoverReaderFrame : FrameRecoveryCallback ReaderCapture :=
  fun _ frame captured => match reencode frame with
    | .error failure => (.error failure, captured)
    | .ok block =>
        let absorbed := { captured with rolling := captured.rolling.updateFrame block }
        if absorbed.brokenCause.isNone then
          match absorbed.fiberIndex.processFrame frame with
          | (.error failure, index) => (.error failure,
              { absorbed with fiberIndex := index, brokenCause := some failure.condition })
          | (.ok (), index) => (.ok (), { absorbed with fiberIndex := index })
        else (.ok (), absorbed)

/-- The reader that a recovery leads to. -/
def concludeReader (engine : Engine) (outcome : Except OperationFailure Nat)
    (captured : ReaderCapture) : Store Engine :=
  match captured.brokenCause, captured.fiberIndex.hasBrokenFibers, outcome with
  | some cause, _, _ => ⟨engine, captured.rolling, .new, some cause, false, none⟩
  | none, true, _ =>
      ⟨engine, captured.rolling, .new, some (.precursorChainBroken none), false, none⟩
  | none, false, .ok _ => ⟨engine, captured.rolling, captured.fiberIndex, none, false, none⟩
  | none, false, .error failure => ⟨engine, .new, .new, some failure.condition, false, none⟩

/-- Opens a reader by deriving its state from the engine; it never fails. -/
def openReader : Action S OperationFailure Engine (Store Engine) := fun engine =>
  (StorageEngine.recoverFrames 64 recoverReaderFrame
    (engine, ⟨.new, .new, none⟩)).bind fun
  | (outcome, engine, captured) => .ret (.ok (concludeReader engine outcome captured), engine)

/-- The checks of `appendFrameVerdict` before the engine is asked to write:
answers the decoded envelope and the block to write. -/
def admitFrame (payload : Bytes) :
    Action S OperationFailure (Store Engine) (EventEnvelope × Bytes) := do
  Action.refuseIf (payload.length > u32Max) ⟨.valueConstraintViolated .tooLong,
    "payload exceeds maximum container frame length (u32::MAX)"⟩
  checkSessionAuthority
  Action.refuseIf (payload.length < 85) ⟨.envelopeMismatch,
    "payload too short for event envelope: " ++ toString payload.length⟩
  let (envelope, consumed) ← Action.ofExcept <| (EventEnvelope.decode payload).mapError
    fun failure => ⟨.envelopeMismatch, "failed to decode envelope: " ++ failure.display⟩
  Action.refuseIf (consumed ≠ payload.length) ⟨.envelopeMismatch, "frame decode error: " ++
    (DecodeError.truncatedPayload payload.length consumed).display⟩
  let store ← get
  Action.ofExcept (store.fiberIndex.validateAppend envelope)
  let block ← Action.ofExcept <| (ContainerFrame.encodePayload payload).mapError
    fun failure => ⟨.valueConstraintViolated .tooLong,
      "frame encoding failed: " ++ failure.display⟩
  return (envelope, block)

/-- The store after a landed write. -/
def committed (store : Store Engine) (envelope : EventEnvelope) (block : Bytes) : Store Engine :=
  { store with
    rollingCommitment := store.rollingCommitment.updateFrame block
    fiberIndex := store.fiberIndex.commitEnvelopeUnchecked envelope }

/-- The store after a write whose landing is undetermined. -/
def fenced (store : Store Engine) (carriedEpoch : UInt64) : Store Engine :=
  { store with
    uncertain := true
    uncertainDiagnostic := some ((StorageEngine.uncertainDiagnostic store.engine).getD
      ("writer session in uncertain state; reconciliation required: write landing undetermined for carried epoch "
        ++ toString carriedEpoch ++ " per C5.16")) }

/-- Writes an admitted block and commits it when it landed. -/
def landFrame (envelope : EventEnvelope) (block : Bytes) :
    Action S OperationFailure (Store Engine) (WriteLandingVerdict Nat) := do
  let verdict ← onEngine (StorageEngine.appendBlock block)
  match verdict with
  | .landed _ =>
      modify fun store => store.committed envelope block
      let store ← get
      return .landed store.rollingCommitment.frameCount
  | .undetermined carriedEpoch =>
      modify fun store => store.fenced carriedEpoch
      return .undetermined carriedEpoch

/-- Appends a framed payload. -/
def appendFrameVerdict (payload : Bytes) :
    Action S OperationFailure (Store Engine) (WriteLandingVerdict Nat) := do
  let (envelope, block) ← admitFrame payload
  landFrame envelope block

/-- Appends an event envelope. -/
def appendEnvelopeVerdict (envelope : EventEnvelope) :
    Action S OperationFailure (Store Engine) (WriteLandingVerdict Nat) := do
  let wire ← Action.ofExcept <| (WireEnvelope.tryFrom envelope).mapError
    fun _ => ⟨.valueConstraintViolated .tooLong, "event envelope exceeds frame wire limit"⟩
  appendFrameVerdict wire.encode

/-- The common body of the lifecycle writes: mint an envelope from the fiber's
handle and append it. -/
def lifecycleWrite (mint : FiberHandle → Except OperationFailure EventEnvelope × FiberHandle)
    (fiberId : Id) :
    Action S OperationFailure (Store Engine) (WriteLandingVerdict EventEnvelope) := do
  checkSessionAuthority
  let store ← get
  let handle ← Action.ofExcept (store.fiber fiberId)
  let envelope ← Action.ofExcept (mint handle).1
  let verdict ← appendEnvelopeVerdict envelope
  match verdict with
  | .landed _ => return .landed envelope
  | .undetermined carriedEpoch => return .undetermined carriedEpoch

/-- Appends an event to a fiber. -/
def appendToFiber (fiberId eventId : Id) (payload : Bytes) :
    Action S OperationFailure (Store Engine) (WriteLandingVerdict EventEnvelope) :=
  lifecycleWrite (fun handle => handle.append eventId payload) fiberId

/-- Detaches a fiber. -/
def detachFiber (fiberId eventId : Id) (payload : Bytes) :
    Action S OperationFailure (Store Engine) (WriteLandingVerdict EventEnvelope) :=
  lifecycleWrite (fun handle => handle.detach eventId payload) fiberId

/-- Rescues a locked or detached fiber. -/
def rescueFiber (fiberId eventId : Id) (payload : Bytes) :
    Action S OperationFailure (Store Engine) (WriteLandingVerdict EventEnvelope) :=
  lifecycleWrite (fun handle => handle.rescue eventId payload) fiberId

/-- The rolling commitment of recovered payloads. -/
def rollingOf (rolling : RollingCommitment) : List Bytes → Except OperationFailure RollingCommitment
  | [] => .ok rolling
  | frame :: frames => do
      let block ← reencode frame
      rollingOf (rolling.updateFrame block) frames

/-- Remember a chain break that a read has discovered. -/
def retainBreak (failure : OperationFailure) (store : Store Engine) : Store Engine :=
  if failure.condition.isChainBreak then
    { store with brokenReaderCause := some failure.condition }
  else store

/-- Reads all raw frame payloads and rebuilds the rolling commitment. -/
def readAllFrames : Action S OperationFailure (Store Engine) (List Bytes) := do
  match ← Action.attempt (onEngine StorageEngine.readAll) with
  | .error failure =>
      modify (retainBreak failure)
      throw failure
  | .ok frames =>
      let rolling ← Action.ofExcept (rollingOf .new frames)
      modify fun store => { store with rollingCommitment := rolling }
      return frames

/-- The refusal of the first frame that is too short for an envelope. -/
def refuseShortFrames : List Bytes → Except OperationFailure Unit
  | [] => .ok ()
  | frame :: frames =>
      if frame.length < 85 then
        .error ⟨.envelopeMismatch, "frame length < 85 bytes: " ++ toString frame.length⟩
      else refuseShortFrames frames

/-- Decodes every frame. -/
def decodeFrames : List Bytes → Except OperationFailure (List EventEnvelope)
  | [] => .ok []
  | frame :: frames => do
      let envelope ← SessionIndex.decodeAndValidateFrame frame
      let envelopes ← decodeFrames frames
      return envelope :: envelopes

/-- The body of `readAllEnvelopesInner` whose failure is looked at afterwards. -/
def readAllEnvelopesBody (forMigration : Bool) :
    Action S OperationFailure (Store Engine) (List EventEnvelope) := do
  let frames ← readAllFrames
  Action.ofExcept (refuseShortFrames frames)
  let index ← Action.ofExcept (SessionIndex.buildFromFrames frames)
  if !forMigration && index.hasBrokenFibers then
    modify fun store => { store with fiberIndex := index }
    throw ⟨.precursorChainBroken none, "discovered break in precursor chain"⟩
  else
    let envelopes ← Action.ofExcept (decodeFrames frames)
    modify fun store => { store with fiberIndex := index }
    return envelopes

/-- Reads and decodes all envelopes, for migration also over broken fibers. -/
def readAllEnvelopesInner (forMigration : Bool) :
    Action S OperationFailure (Store Engine) (List EventEnvelope) := do
  let store ← get
  match !forMigration, store.brokenReaderCause with
  | true, some cause =>
      throw ⟨cause, "reader session retained broken state; point lookups unavailable"⟩
  | _, _ =>
      match ← Action.attempt (readAllEnvelopesBody forMigration) with
      | .error failure =>
          modify (retainBreak failure)
          throw failure
      | .ok envelopes => return envelopes

/-- Reads and decodes all envelopes of an unbroken history. -/
def readAllEnvelopes : Action S OperationFailure (Store Engine) (List EventEnvelope) :=
  readAllEnvelopesInner false

/-- Reads all envelopes for migration, tolerating broken fibers. -/
def readAllEnvelopesForMigration : Action S OperationFailure (Store Engine) (List EventEnvelope) :=
  readAllEnvelopesInner true

/-- What `forEachEnvelope` captures while frames are recovered. -/
structure ForEachCapture (τ : Type) where
  validationIndex : SessionIndex
  rolling : RollingCommitment
  brokenError : Option OperationFailure
  callbackError : Option OperationFailure
  caller : τ

/-- A break found by `forEachEnvelope`. -/
def ForEachCapture.broken {τ : Type} (captured : ForEachCapture τ) (failure : OperationFailure) :
    Except OperationFailure Unit × ForEachCapture τ :=
  (.error failure, { captured with brokenError := some failure })

/-- What `forEachEnvelope` does with each recovered frame. -/
def forEachFrame {τ : Type}
    (visit : EventEnvelopeRef → τ → Except OperationFailure Unit × τ) :
    FrameRecoveryCallback (ForEachCapture τ) :=
  fun _ frame captured =>
    if frame.length < 85 then
      captured.broken ⟨.envelopeMismatch, "frame length < 85 bytes: " ++ toString frame.length⟩
    else match EventEnvelopeRef.decode frame with
      | .error failure =>
          captured.broken ⟨.envelopeMismatch, "failed to decode envelope: " ++ failure.display⟩
      | .ok (view, consumed) =>
          if consumed ≠ frame.length then
            captured.broken ⟨.envelopeMismatch, "frame decode error: " ++
              (DecodeError.truncatedPayload frame.length consumed).display⟩
          else match captured.validationIndex.validateAppend view.toOwned with
            | .error failure => captured.broken failure
            | .ok () =>
                let indexed := { captured with
                  validationIndex := captured.validationIndex.commitEnvelopeUnchecked view.toOwned }
                match reencode frame with
                | .error failure => (.error failure, indexed)
                | .ok block =>
                    let absorbed := { indexed with rolling := indexed.rolling.updateFrame block }
                    match visit view absorbed.caller with
                    | (.ok (), caller) => (.ok (), { absorbed with caller })
                    | (.error failure, caller) =>
                        (.error failure, { absorbed with caller, callbackError := some failure })

/-- Run a recovery on the store's engine, with the captured state beside it. -/
def recoverOn {σ : Type} (onFrame : FrameRecoveryCallback σ) (captured : σ) :
    Action S OperationFailure (Store Engine) (Except OperationFailure Nat × σ) := fun store =>
  (StorageEngine.recoverFrames 64 onFrame (store.engine, captured)).bind fun
  | (outcome, engine, after) => .ret (.ok (outcome, after), { store with engine })

/-- What a whole-history iteration refuses before it recovers anything. -/
def checkIteration (store : Store Engine) : Except OperationFailure Unit :=
  match store.brokenReaderCause with
  | none | some .transportUnavailable =>
      if store.fiberIndex.hasBrokenFibers then
        .error ⟨.precursorChainBroken none, "discovered break in precursor chain"⟩
      else .ok ()
  | some cause =>
      .error ⟨cause, "reader session retained broken state; point lookups unavailable"⟩

/-- What the end of a recovery makes of an iteration and of the store. -/
def concludeIteration {τ : Type} (outcome : Except OperationFailure Nat)
    (captured : ForEachCapture τ) (store : Store Engine) :
    Except OperationFailure Unit × Store Engine :=
  match captured.callbackError, captured.brokenError, outcome with
  | some failure, _, _ => (.error failure, store)
  | none, some failure, _ =>
      (.error failure, { store with brokenReaderCause := some failure.condition })
  | none, none, .ok _ =>
      (.ok (), { store with
        fiberIndex := captured.validationIndex
        rollingCommitment := captured.rolling
        brokenReaderCause := none })
  | none, none, .error failure =>
      (.error failure,
        if failure.condition = .transportUnavailable then store
        else { store with brokenReaderCause := some failure.condition })

/-- Iterates over all envelopes and answers, beside the result, what the callback
has captured so far; a refusal before the first envelope answers nothing. -/
def iterateEnvelopes {τ : Type}
    (visit : EventEnvelopeRef → τ → Except OperationFailure Unit × τ) (caller : τ) :
    Action S OperationFailure (Store Engine) (Except OperationFailure Unit × τ) := do
  let store ← get
  Action.ofExcept store.checkIteration
  let (outcome, captured) ← recoverOn (forEachFrame visit) ⟨.new, .new, none, none, caller⟩
  let result ← Action.attempt (Action.mutate (concludeIteration outcome captured))
  return (result, captured.caller)

/-- Iterates over all envelopes; on success index and commitment are those of
the recovered history. -/
def forEachEnvelope {τ : Type}
    (visit : EventEnvelopeRef → τ → Except OperationFailure Unit × τ) (caller : τ) :
    Action S OperationFailure (Store Engine) τ := do
  let (result, caller) ← iterateEnvelopes visit caller
  Action.ofExcept result
  return caller

/-- The accumulator of a fold: the caller's value, nothing while a step holds it,
or the mark of a step that found nothing and panicked. -/
inductive Accumulator (β : Type) where
  | present (value : β)
  | taken
  | panicked

/-- Why a fold stops without a value. -/
inductive FoldStop where
  | failed (failure : OperationFailure)
  | panicked (message : String)

/-- What `foldEnvelopes` does with each envelope: take the accumulator, which has
to be there, and put the next one back unless the step fails. -/
def foldVisit {β : Type} (step : β → EventEnvelopeRef → Except OperationFailure β) :
    EventEnvelopeRef → Accumulator β → Except OperationFailure Unit × Accumulator β
  | view, .present current => match step current view with
      | .ok next => (.ok (), .present next)
      | .error failure => (.error failure, .taken)
  -- a panic unwinds through the recovery; no error value of the callback stands for it
  | _, .taken | _, .panicked =>
      (.error ⟨.invariantBreakingConfiguration, "accumulator present"⟩, .panicked)

/-- Folds all envelopes through a step function. -/
def foldEnvelopes {β : Type} (init : β) (step : β → EventEnvelopeRef → Except OperationFailure β) :
    Action S FoldStop (Store Engine) β := do
  match ← Action.attempt (iterateEnvelopes (foldVisit step) (.present init)) with
  | .error failure => throw (.failed failure)
  | .ok (_, .panicked) => throw (.panicked "accumulator present")
  | .ok (.error failure, _) => throw (.failed failure)
  | .ok (.ok (), .present value) => return value
  | .ok (.ok (), .taken) => throw (.panicked "accumulator present")

end Store

end Pardosa
