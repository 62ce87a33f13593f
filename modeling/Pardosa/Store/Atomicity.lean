import Pardosa.Store.InMemory

/-!
# Writes are all or nothing

Over any engine that leaves its log alone on an error, a write either changes
nothing, or appends one block and commits the envelope that block decodes to,
or leaves index and commitment alone and fences the session.
-/

namespace Pardosa

open Foundation

section Effect

variable [Digests] {S : Signature} {Engine World : Type} [StorageEngine S Engine]
  {setting : Setting S World}

/-- What a write did to the engine's log and to the store, by its outcome. -/
def WriteCall.Effect (contract : LogContract Engine setting) (call : WriteCall)
    (store : Store Engine) (world : World)
    (outcome : Except OperationFailure (WriteLandingVerdict WriteReceipt)) (after : Store Engine)
    (later : World) : Prop :=
  match outcome with
  | .error _ =>
      contract.log after.engine later = contract.log store.engine world ∧
        after = { store with engine := after.engine }
  | .ok (.landed receipt) => ∃ envelope payload,
      AdmittedFrame store.fiberIndex payload envelope ∧ call.Passes envelope payload ∧
        receipt = call.receipt envelope after.rollingCommitment.frameCount ∧
        contract.log after.engine later =
          contract.log store.engine world ++ [ContainerFrame.frameBytes payload] ∧
        after = ({ store with engine := after.engine } : Store Engine).committed envelope
          (ContainerFrame.frameBytes payload)
  | .ok (.undetermined carriedEpoch) =>
      after = ({ store with engine := after.engine } : Store Engine).fenced carriedEpoch

/-- Every write has one of the three effects. -/
theorem WriteCall.wp_effect (contract : LogContract Engine setting) (call : WriteCall)
    (store : Store Engine) (world : World) :
    call.perform.wp setting (call.Effect contract store world) store world := by
  refine call.wp_perform rfl ?_ ?_ ?_ (J := fun _ before =>
    contract.log store.engine before = contract.log store.engine world)
  · intro checks before _ unchanged
    refine Program.wp_mono (contract.checkAuthority store.engine before) ?_
    rintro (failure | _) after same
    · exact ⟨same.trans unchanged, rfl⟩
    · exact same.trans unchanged
  · intro checks before failure unchanged _
    exact ⟨unchanged, rfl⟩
  · intro before envelope payload unchanged admitted passes
    refine Action.wp_mono (contract.appendBlock _ store.engine before) ?_
    rintro (failure | verdict) engine after holds
    · exact ⟨holds.trans unchanged, rfl⟩
    cases verdict with
    | landed position =>
        refine ⟨envelope, payload, admitted, passes, rfl, ?_, rfl⟩
        rw [← unchanged]
        exact holds
    | undetermined carriedEpoch => exact rfl

/-- A write is all or nothing: an error leaves the log and the store's own state
as they were; a landed write added exactly one block, which decodes to the
envelope that was passed or returned, and index and commitment took exactly that
envelope and that block; an undetermined write left both alone. -/
theorem WriteCall.perform_all_or_nothing (contract : LogContract Engine setting) (call : WriteCall)
    {store after : Store Engine} {world later : World}
    {outcome : Except OperationFailure (WriteLandingVerdict WriteReceipt)}
    (runs : call.perform.Runs setting store world outcome after later) :
    (∀ failure, outcome = .error failure →
      contract.log after.engine later = contract.log store.engine world ∧
        after.fiberIndex = store.fiberIndex ∧
        after.rollingCommitment = store.rollingCommitment ∧
        after.brokenReaderCause = store.brokenReaderCause ∧
        after.uncertain = store.uncertain ∧
        after.uncertainDiagnostic = store.uncertainDiagnostic) ∧
    (∀ receipt, outcome = .ok (.landed receipt) → ∃ block payload envelope,
      contract.log after.engine later = contract.log store.engine world ++ [block] ∧
        ContainerFrame.decode block = .ok (payload, block.length) ∧
        EventEnvelope.decode payload = .ok (envelope, payload.length) ∧
        call.Passes envelope payload ∧
        receipt = call.receipt envelope after.rollingCommitment.frameCount ∧
        store.fiberIndex.commitEnvelope envelope = (.ok (), after.fiberIndex) ∧
        after.rollingCommitment = store.rollingCommitment.updateFrame block) ∧
    (∀ carriedEpoch, outcome = .ok (.undetermined carriedEpoch) →
      after.fiberIndex = store.fiberIndex ∧
        after.rollingCommitment = store.rollingCommitment) := by
  have effect := Action.wp_of_runs runs (call.wp_effect contract store world)
  refine ⟨?_, ?_, ?_⟩
  · rintro failure rfl
    obtain ⟨logged, same⟩ := effect
    rw [same]
    exact ⟨logged, rfl, rfl, rfl, rfl, rfl⟩
  · rintro receipt rfl
    obtain ⟨envelope, payload, admitted, passes, returned, logged, same⟩ := effect
    refine ⟨ContainerFrame.frameBytes payload, payload, envelope, logged, ?_, ?_, passes,
      returned, ?_, ?_⟩
    · exact ContainerFrame.decode_ok_iff.mpr
        ⟨admitted.fits, ContainerFrame.length_frameBytes payload, [], (List.append_nil _).symm⟩
    · exact SessionIndex.decodeAndValidateFrame_ok_iff.mp admitted.decoded
    · have validated := SessionIndex.validateAppend_ok_iff.mpr admitted.admits
      rw [same, SessionIndex.commitEnvelope, validated]
      rfl
    · rw [same]
      rfl
  · rintro carriedEpoch rfl
    have same : after = _ := effect
    rw [same]
    exact ⟨rfl, rfl⟩

end Effect

section Genesis

attribute [local instance] standardDigests

/-- An identity of sixteen equal bytes. -/
def repeatedId (byte : UInt8) : Id := ⟨List.replicate 16 byte, List.length_replicate ..⟩

/-- A store opened over an empty in-memory engine. -/
def freshStore : Store InMemoryEngine := ⟨.new 1, .new, .new, none, false, none⟩

/-- The first event of a fiber. -/
def genesisEvent : EventEnvelope :=
  ⟨⟨repeatedId 1, repeatedId 2, false, zeroId, zeroHash⟩, [7]⟩

/-- The frame of the first event. -/
def firstFrame : Bytes := (genesisEvent.encode []).2

/-- The event behind the first one. -/
def chainedEvent : EventEnvelope :=
  ⟨⟨repeatedId 5, repeatedId 2, false, repeatedId 1, genesisEvent.commitment⟩, [9, 10]⟩

/-- The frame of the event behind the first one. -/
def chainedFrame : Bytes := (chainedEvent.encode []).2

/-- The first event of another fiber. -/
def otherGenesis : EventEnvelope :=
  ⟨⟨repeatedId 3, repeatedId 4, false, zeroId, zeroHash⟩, [8]⟩

/-- The frame of another fiber's first event. -/
def otherFrame : Bytes := (otherGenesis.encode []).2

/-- An engine whose log holds the frames of some payloads. -/
def loggedEngine (payloads : List Bytes) : InMemoryEngine :=
  { InMemoryEngine.new 1 with blocks := payloads.map ContainerFrame.frameBytes }

/-- A first append lands its one block whole. -/
theorem WriteCall.perform_all_or_nothing_genesis :
    ∃ after : Store InMemoryEngine, ∃ block payload,
      after.engine.blocks = [block] ∧
        ContainerFrame.decode block = .ok (payload, block.length) ∧
        EventEnvelope.decode payload = .ok (genesisEvent, payload.length) ∧
        SessionIndex.new.commitEnvelope genesisEvent = (.ok (), after.fiberIndex) ∧
        after.rollingCommitment = RollingCommitment.new.updateFrame block := by
  have runs := runs_stillValue
    ((WriteCall.appendToFiber (repeatedId 2) (repeatedId 1) [7]).perform freshStore)
  obtain ⟨_, landed, _⟩ := WriteCall.perform_all_or_nothing
    InMemoryEngine.recoverableLog.toLogContract _ runs
  obtain ⟨block, payload, envelope, logged, framed, decoded, _, returned, committed, absorbed⟩ :=
    landed (.envelope genesisEvent) rfl
  cases WriteReceipt.envelope.inj returned
  exact ⟨_, block, payload, logged, framed, decoded, committed, absorbed⟩

end Genesis

end Pardosa
