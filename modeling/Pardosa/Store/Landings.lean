import Pardosa.Store.Recovery
import Pardosa.Store.WholeHistory

/-!
# What a run of writes has landed

Calls and outcomes tell which payloads a run has landed, whatever the engine does
behind them. Index and commitment move with exactly those payloads.
-/

namespace Pardosa

open Foundation

/-- The payload that a write has landed. -/
def writtenPayload :
    WriteCall × Except OperationFailure (WriteLandingVerdict WriteReceipt) → Option Bytes
  | (.appendFrame payload, .ok (.landed _)) => some payload
  | (.appendEnvelope envelope, .ok (.landed _)) => some (envelope.encode []).2
  | (.appendToFiber .., .ok (.landed (.envelope envelope)))
  | (.detachFiber .., .ok (.landed (.envelope envelope)))
  | (.rescueFiber .., .ok (.landed (.envelope envelope))) => some (envelope.encode []).2
  | _ => none

/-- A refused write has landed nothing. -/
@[simp] theorem writtenPayload_error (call : WriteCall) (failure : OperationFailure) :
    writtenPayload (call, .error failure) = none := by
  cases call <;> rfl

/-- An undetermined write has landed nothing that is known. -/
@[simp] theorem writtenPayload_undetermined (call : WriteCall) (carriedEpoch : UInt64) :
    writtenPayload (call, .ok (.undetermined carriedEpoch)) = none := by
  cases call <;> rfl

/-- The payloads that a run of writes has landed, in order. -/
def writtenPayloads
    (events : List (WriteCall × Except OperationFailure (WriteLandingVerdict WriteReceipt))) :
    List Bytes :=
  events.filterMap writtenPayload

variable [Digests] {S : Signature} {Engine World : Type} [StorageEngine S Engine]
  {setting : Setting S World}

namespace WriteCall

variable {call : WriteCall} {store after : Store Engine} {envelope : EventEnvelope}
  {payload : Bytes}

/-- What a write did to the store. -/
def Landing (call : WriteCall) (store : Store Engine)
    (outcome : Except OperationFailure (WriteLandingVerdict WriteReceipt)) (after : Store Engine) :
    Prop :=
  match outcome with
  | .error _ => after = { store with engine := after.engine }
  | .ok (.landed receipt) => ∃ envelope payload,
      AdmittedFrame store.fiberIndex payload envelope ∧ call.Writes store envelope payload ∧
        receipt = call.receipt envelope after.rollingCommitment.frameCount ∧
        after = ({ store with engine := after.engine } : Store Engine).committed envelope
          (ContainerFrame.frameBytes payload)
  | .ok (.undetermined carriedEpoch) =>
      after = ({ store with engine := after.engine } : Store Engine).fenced carriedEpoch

/-- A landed write tells the payload that it wrote. -/
theorem Writes.writtenPayload (writes : call.Writes store envelope payload) (count : Nat) :
    writtenPayload (call, .ok (.landed (call.receipt envelope count))) = some payload := by
  have encoded : ∀ {other : EventEnvelope}, other.encode [] = (.ok (), payload) →
      some (other.encode []).2 = some payload := by
    rintro other same
    rw [same]
  cases call with
  | appendFrame passed => exact congrArg some writes
  | appendEnvelope passed =>
      obtain ⟨rfl, same⟩ := writes
      exact encoded same
  | appendToFiber fiberId eventId body => exact encoded writes.2
  | detachFiber fiberId eventId body => exact encoded writes.2
  | rescueFiber fiberId eventId body => exact encoded writes.2

/-- Every write lands, or leaves index and commitment alone. -/
theorem wp_landing (promised : ∀ before after, setting.guar before after) (call : WriteCall)
    (store : Store Engine) (world : World) :
    call.perform.wp setting (fun outcome after _ => call.Landing store outcome after)
      store world := by
  refine call.wp_perform_writes trivial ?_ ?_ ?_ (J := fun _ _ => True)
  · intro checks before _ _
    refine Program.wp_of_forall promised ?_
    rintro (failure | _) later
    · exact rfl
    · trivial
  · intro checks before failure _ _
    exact rfl
  · intro before envelope payload _ admitted writes
    refine Action.wp_of_forall promised ?_
    rintro (failure | verdict) engine later
    · exact rfl
    cases verdict with
    | landed position => exact ⟨envelope, payload, admitted, writes, rfl, rfl⟩
    | undetermined carriedEpoch => exact rfl

/-- The log takes the frame of what a write has landed, and nothing where nothing landed. -/
theorem wp_written (contract : LogContract Engine setting) (call : WriteCall)
    (store : Store Engine) (world : World) :
    call.perform.wp setting
      (fun outcome after later => (∀ carriedEpoch, outcome ≠ .ok (.undetermined carriedEpoch)) →
        contract.log after.engine later = contract.log store.engine world ++
          (writtenPayload (call, outcome)).toList.map ContainerFrame.frameBytes) store world := by
  refine call.wp_perform_writes rfl ?_ ?_ ?_ (J := fun _ before =>
    contract.log store.engine before = contract.log store.engine world)
  · intro checks before _ unchanged
    refine Program.wp_mono (contract.checkAuthority store.engine before) ?_
    rintro (failure | _) after same
    · intro _
      simpa using same.trans unchanged
    · exact same.trans unchanged
  · intro checks before failure unchanged _ _
    simpa using unchanged
  · intro before envelope payload unchanged _ writes
    refine Action.wp_mono (contract.appendBlock _ store.engine before) ?_
    rintro (failure | verdict) engine after holds
    · intro _
      simpa [Except.map] using holds.trans unchanged
    cases verdict with
    | landed position =>
        intro _
        simpa [Except.map, WriteLandingVerdict.map, Store.committed, writes.writtenPayload,
          ← unchanged] using holds
    | undetermined carriedEpoch => exact fun settled => (settled carriedEpoch rfl).elim

end WriteCall

section Runs

variable {before after : Store Engine × World}
  {event : WriteCall × Except OperationFailure (WriteLandingVerdict WriteReceipt)}
  {events : List (WriteCall × Except OperationFailure (WriteLandingVerdict WriteReceipt))}

/-- Every step lands what its outcome says. -/
theorem WriteStep.landing (step : WriteStep setting before event after) :
    event.1.Landing before.1 event.2 after.1 :=
  Action.wp_of_runs (Program.runs_promising (fun _ _ => True) step)
    (event.1.wp_landing (fun _ _ => trivial) before.1 before.2)

/-- A step commits what it has landed, and nothing else. -/
theorem WriteStep.landed (step : WriteStep setting before event after) :
    (writtenPayload event = none ∧ after.1.fiberIndex = before.1.fiberIndex ∧
      after.1.rollingCommitment = before.1.rollingCommitment) ∨
    ∃ envelope payload, writtenPayload event = some payload ∧
      AdmittedFrame before.1.fiberIndex payload envelope ∧
      event.1.Writes before.1 envelope payload ∧
      after.1.fiberIndex = before.1.fiberIndex.commitEnvelopeUnchecked envelope ∧
      after.1.rollingCommitment =
        before.1.rollingCommitment.updateFrame (ContainerFrame.frameBytes payload) := by
  have landing := step.landing
  obtain ⟨call, outcome⟩ := event
  match outcome with
  | .error failure =>
      have same : after.1 = _ := landing
      refine .inl ⟨writtenPayload_error .., ?_, ?_⟩
      · rw [same]
      · rw [same]
  | .ok (.undetermined carriedEpoch) =>
      have same : after.1 = _ := landing
      refine .inl ⟨writtenPayload_undetermined .., ?_, ?_⟩
      · rw [same]
        rfl
      · rw [same]
        rfl
  | .ok (.landed receipt) =>
      obtain ⟨envelope, payload, admitted, writes, returned, same⟩ := landing
      refine .inr ⟨envelope, payload, ?_, admitted, writes, ?_, ?_⟩
      · dsimp only at returned
        rw [returned]
        exact writes.writtenPayload _
      · rw [same]
        rfl
      · rw [same]
        rfl

/-- Through a run, index and commitment stay those of the payloads landed so far. -/
theorem Store.DerivedFrom.run {payloads : List Bytes}
    (run : Trace (WriteStep setting) before events after)
    (derived : before.1.DerivedFrom payloads) :
    after.1.DerivedFrom (payloads ++ writtenPayloads events) := by
  induction run generalizing payloads with
  | nil =>
      rw [writtenPayloads, List.filterMap_nil, List.append_nil]
      exact derived
  | @cons start next final event events step rest ih =>
      obtain ⟨quiet, index, rolling⟩ | ⟨envelope, payload, lands, admitted, -, index, rolling⟩ :=
        step.landed
      · rw [writtenPayloads, List.filterMap_cons_none quiet]
        refine ih ⟨?_, ?_⟩
        · rw [index]
          exact derived.index
        · rw [rolling]
          exact derived.rolling
      · rw [writtenPayloads, List.filterMap_cons_some lands, List.append_cons]
        have further := derived.committed admitted
        refine ih ⟨?_, ?_⟩
        · rw [index]
          exact further.index
        · rw [rolling]
          exact further.rolling

/-- The log of a step grows by the frame of what it has landed. -/
theorem WriteStep.logs (recoverable : RecoverableLog Engine setting)
    (step : WriteStep setting before event after) :
    recoverable.log after.1.engine after.2 = recoverable.log before.1.engine before.2 ++
      (writtenPayload event).toList.map ContainerFrame.frameBytes := by
  have written := Action.wp_of_runs step
    (event.1.wp_written recoverable.toLogContract before.1 before.2)
  have kept := Action.wp_of_runs step (event.1.wp_undetermined recoverable before.1 before.2)
  obtain ⟨call, outcome⟩ := event
  match outcome with
  | .error failure => exact written nofun
  | .ok (.landed receipt) => exact written nofun
  | .ok (.undetermined carriedEpoch) =>
      simpa using kept carriedEpoch rfl

/-- The log of a run grows by the frames of what it has landed. -/
theorem Store.logs_written (recoverable : RecoverableLog Engine setting)
    (run : Trace (WriteStep setting) before events after) :
    recoverable.log after.1.engine after.2 = recoverable.log before.1.engine before.2 ++
      (writtenPayloads events).map ContainerFrame.frameBytes := by
  induction run with
  | nil => exact (List.append_nil _).symm
  | @cons start next final event events step rest ih =>
      rw [ih, step.logs recoverable, List.append_assoc, ← List.map_append]
      cases lands : writtenPayload event with
      | none => rw [writtenPayloads, writtenPayloads, List.filterMap_cons_none lands]; rfl
      | some payload => rw [writtenPayloads, writtenPayloads, List.filterMap_cons_some lands]; rfl

/-- Every landed payload fits a frame. -/
theorem writtenPayloads_fit (run : Trace (WriteStep setting) before events after) :
    ∀ payload ∈ writtenPayloads events, payload.length ≤ u32Max := by
  induction run with
  | nil => simp [writtenPayloads]
  | @cons start next final event events step rest ih =>
      obtain ⟨quiet, -⟩ | ⟨envelope, payload, lands, admitted, -⟩ := step.landed
      · rw [writtenPayloads, List.filterMap_cons_none quiet]
        exact ih
      · rw [writtenPayloads, List.filterMap_cons_some lands]
        rintro other (_ | ⟨_, member⟩)
        · exact admitted.fits
        · exact ih other member

end Runs

end Pardosa
