import Pardosa.Foundation.Trace
import Pardosa.Store.Atomicity

/-!
# Recovery reproduces the live state

The live path validates and commits decoded envelopes; opening a writer
re-decodes the payloads of the log and re-encodes their frames. The invariant
that ties the two is `Store.Mirrors`: the log is the frames of some payloads,
and index and commitment are what recovery makes of exactly those payloads.
-/

namespace Pardosa

open Foundation

section Recovery

variable [Digests]

/-- A payload that fits is framed again as it was. -/
theorem Store.reencode_of_fits {payload : Bytes} (fits : payload.length ≤ u32Max) :
    reencode payload = .ok (ContainerFrame.frameBytes payload) := by
  unfold reencode ContainerFrame.encodePayload ContainerFrame.tryEncodePayload
  rw [if_pos fits]
  rfl

/-- Recovery of payloads that the index processes hands back that index and the
commitment over the frames of the payloads. -/
theorem Store.deliverFrames_recoverFrame {payloads : List Bytes} (position : Nat)
    (rolling : RollingCommitment) {index after : SessionIndex}
    (fits : ∀ payload ∈ payloads, payload.length ≤ u32Max)
    (processed : index.processFrames payloads = .ok after) :
    deliverFrames recoverFrame position payloads (rolling, index) =
      (.ok (position + payloads.length), rolling.absorb payloads, after) := by
  induction payloads generalizing position rolling index with
  | nil =>
      cases processed
      rfl
  | cons payload payloads ih =>
      have encoded := reencode_of_fits (fits payload (List.mem_cons_self ..))
      cases step : index.processFrame payload with
      | mk outcome next =>
          simp only [SessionIndex.processFrames, step] at processed
          cases outcome with
          | error failure => cases processed
          | ok =>
              have rest := fun rolling => ih (position + 1) rolling
                (fun other member => fits other (List.mem_cons_of_mem _ member)) processed
              simp only [deliverFrames, recoverFrame, encoded, step]
              rw [rest, List.length_cons, Nat.add_assoc, Nat.add_comm 1]
              rfl

/-- Recovery of payloads that the index refuses fails. -/
theorem Store.deliverFrames_recoverFrame_error {payloads : List Bytes} (position : Nat)
    (rolling : RollingCommitment) {index : SessionIndex} {failure : OperationFailure}
    (fits : ∀ payload ∈ payloads, payload.length ≤ u32Max)
    (refused : index.processFrames payloads = .error failure) :
    (deliverFrames recoverFrame position payloads (rolling, index)).1 = .error failure := by
  induction payloads generalizing position rolling index with
  | nil => cases refused
  | cons payload payloads ih =>
      have encoded := reencode_of_fits (fits payload (List.mem_cons_self ..))
      cases step : index.processFrame payload with
      | mk outcome next =>
          simp only [SessionIndex.processFrames, step] at refused
          cases outcome with
          | error failure =>
              cases refused
              simp only [deliverFrames, recoverFrame, encoded, step]
          | ok =>
              simp only [deliverFrames, recoverFrame, encoded, step]
              exact ih (position + 1) _
                (fun other member => fits other (List.mem_cons_of_mem _ member)) refused

/-- Recovery goes through exactly on payloads that can be framed and that the index
processes. -/
theorem Store.deliverFrames_recoverFrame_ok_iff {payloads : List Bytes} {position count : Nat}
    {rolling : RollingCommitment} {index : SessionIndex}
    {state : RollingCommitment × SessionIndex} :
    deliverFrames recoverFrame position payloads (rolling, index) = (.ok count, state) ↔
      (∀ payload ∈ payloads, payload.length ≤ u32Max) ∧
        index.processFrames payloads = .ok state.2 ∧ state.1 = rolling.absorb payloads ∧
        count = position + payloads.length := by
  constructor
  · intro delivered
    have fits : ∀ payload ∈ payloads, payload.length ≤ u32Max := by
      intro payload member
      obtain ⟨before, after, rfl⟩ := List.append_of_mem member
      by_contra long
      obtain ⟨failure, unframed⟩ : ∃ failure, reencode payload = .error failure := by
        unfold reencode ContainerFrame.encodePayload ContainerFrame.tryEncodePayload
        rw [if_neg long]
        exact ⟨_, rfl⟩
      rw [deliverFrames_append] at delivered
      split at delivered
      · cases delivered
      · simp only [deliverFrames, recoverFrame, unframed] at delivered
        cases delivered
    cases processed : index.processFrames payloads with
    | error failure =>
        have refused := deliverFrames_recoverFrame_error position rolling fits processed
        rw [delivered] at refused
        cases refused
    | ok after =>
        rw [deliverFrames_recoverFrame position rolling fits processed] at delivered
        cases delivered
        exact ⟨fits, rfl, rfl, rfl⟩
  · obtain ⟨absorbed, after⟩ := state
    rintro ⟨fits, processed, rfl, rfl⟩
    exact deliverFrames_recoverFrame position rolling fits processed

/-- Index and commitment of a store are what recovery makes of some payloads. -/
structure Store.DerivedFrom {Engine : Type} (store : Store Engine)
    (payloads : List Bytes) : Prop where
  index : SessionIndex.buildFromFrames payloads = .ok store.fiberIndex
  rolling : store.rollingCommitment = RollingCommitment.new.absorb payloads

/-- A commit goes on from the payloads before it. -/
theorem Store.DerivedFrom.committed {Engine : Type} {store : Store Engine} {payloads : List Bytes}
    {payload : Bytes} {envelope : EventEnvelope} (derived : store.DerivedFrom payloads)
    (admitted : AdmittedFrame store.fiberIndex payload envelope) :
    (store.committed envelope (ContainerFrame.frameBytes payload)).DerivedFrom
      (payloads ++ [payload]) where
  index := by
    have built := derived.index
    unfold SessionIndex.buildFromFrames at built ⊢
    rw [SessionIndex.processFrames_append, built]
    simp only [SessionIndex.processFrames, admitted.processFrame]
    rfl
  rolling := by
    rw [RollingCommitment.absorb, List.foldl_append]
    exact congrArg (·.updateFrame (ContainerFrame.frameBytes payload)) derived.rolling

variable {S : Signature} {Engine World : Type} [StorageEngine S Engine]
  {setting : Setting S World}

/-- Index and commitment of a store are what recovery makes of the engine's
log. -/
def Store.Mirrors (contract : LogContract Engine setting) (store : Store Engine) (world : World) :
    Prop :=
  ∃ payloads, (∀ payload ∈ payloads, payload.length ≤ u32Max) ∧
    contract.log store.engine world = payloads.map ContainerFrame.frameBytes ∧
    SessionIndex.buildFromFrames payloads = .ok store.fiberIndex ∧
    store.rollingCommitment = RollingCommitment.new.absorb payloads

/-- One write call on a store, with its outcome. -/
def WriteStep (setting : Setting S World) (before : Store Engine × World)
    (event : WriteCall × Except OperationFailure (WriteLandingVerdict WriteReceipt))
    (after : Store Engine × World) : Prop :=
  event.1.perform.Runs setting before.1 before.2 event.2 after.1 after.2

/-- Opening a writer is a recovery into an empty state. -/
theorem Store.wp_openWriter {engine : Engine} {world : World}
    {post : Except OperationFailure (Store Engine) → Engine → World → Prop}
    (holds : (StorageEngine.recoverFrames 64 recoverFrame).wp setting
      (fun outcome state after => match outcome with
        | .error failure => post (.error failure) state.1 after
        | .ok _ => post (.ok ⟨state.1, state.2.1, state.2.2, none, false, none⟩) state.1 after)
      (engine, .new, .new) world) :
    openWriter.wp setting post engine world := by
  refine (Program.wp_bind _ _ _ _).mpr (Program.wp_mono holds ?_)
  rintro ⟨_ | _, _, _, _⟩ after owed
  · exact owed
  · exact owed

/-- Without failures, opening a writer ends as building the index from the
recovered payloads does. -/
theorem Store.evaluate_openWriter {handler : Handler S World} {engine after : Engine}
    {world later : World} {payloads : List Bytes}
    (fits : ∀ payload ∈ payloads, payload.length ≤ u32Max)
    (recovers : (StorageEngine.recoverFrames 64 recoverFrame (engine, .new, .new)).evaluate handler
      world = (((deliverFrames recoverFrame 0 payloads (.new, .new)).1, after,
        (deliverFrames recoverFrame 0 payloads (.new, .new)).2), later)) :
    (openWriter engine).evaluate handler world =
      (((SessionIndex.buildFromFrames payloads).map fun index =>
        (⟨after, RollingCommitment.new.absorb payloads, index, none, false, none⟩ :
          Store Engine), after), later) := by
  unfold openWriter
  rw [Program.evaluate_bind, recovers]
  cases built : SessionIndex.buildFromFrames payloads with
  | error failure =>
      rw [deliverFrames_recoverFrame_error 0 .new fits built]
      rfl
  | ok index =>
      rw [deliverFrames_recoverFrame 0 .new fits built]
      rfl

/-- Without failures, a reader is concluded from the recovered payloads. -/
theorem Store.evaluate_openReader {handler : Handler S World} {engine after : Engine}
    {world later : World} {payloads : List Bytes}
    (recovers : (StorageEngine.recoverFrames 64 recoverReaderFrame
      (engine, ⟨.new, .new, none⟩)).evaluate handler world =
        (((deliverFrames recoverReaderFrame 0 payloads ⟨.new, .new, none⟩).1, after,
          (deliverFrames recoverReaderFrame 0 payloads ⟨.new, .new, none⟩).2), later)) :
    (openReader engine).evaluate handler world =
      ((.ok (concludeReader after
        (deliverFrames recoverReaderFrame 0 payloads ⟨.new, .new, none⟩).1
        (deliverFrames recoverReaderFrame 0 payloads ⟨.new, .new, none⟩).2), after), later) := by
  unfold openReader
  rw [Program.evaluate_bind, recovers]
  rfl

/-- Opening a writer on a log that recovery accepts succeeds with the recovered
state. -/
theorem Store.wp_openWriter_log (recoverable : RecoverableLog Engine setting)
    {payloads : List Bytes}
    {index : SessionIndex} {engine : Engine} {world : World}
    (fits : ∀ payload ∈ payloads, payload.length ≤ u32Max)
    (logged : recoverable.log engine world = payloads.map ContainerFrame.frameBytes)
    (built : SessionIndex.buildFromFrames payloads = .ok index) :
    openWriter.wp setting
      (fun outcome after later => outcome =
          .ok ⟨after, RollingCommitment.new.absorb payloads, index, none, false, none⟩ ∧
        recoverable.log after later = recoverable.log engine world) engine world := by
  refine wp_openWriter (Action.wp_mono (recoverable.recoverFrames 64 recoverFrame engine _ world
    payloads fits logged) ?_)
  rintro outcome ⟨after, captured⟩ later ⟨delivered, kept⟩
  rw [deliverFrames_recoverFrame 0 .new fits built] at delivered
  cases delivered
  exact ⟨rfl, kept⟩

/-- A write whose landing is undetermined leaves a recoverable log alone. -/
theorem WriteCall.wp_undetermined (recoverable : RecoverableLog Engine setting) (call : WriteCall)
    (store : Store Engine) (world : World) :
    call.perform.wp setting
      (fun outcome after later => ∀ carriedEpoch, outcome = .ok (.undetermined carriedEpoch) →
        recoverable.log after.engine later = recoverable.log store.engine world) store world := by
  refine call.wp_perform rfl ?_ ?_ ?_ (J := fun _ before =>
    recoverable.log store.engine before = recoverable.log store.engine world)
  · intro checks before _ unchanged
    refine Program.wp_mono (recoverable.checkAuthority store.engine before) ?_
    rintro (failure | _) after same
    · rintro _ ⟨⟩
    · exact same.trans unchanged
  · rintro checks before failure _ _ _ ⟨⟩
  · intro before envelope payload unchanged _ _
    refine Action.wp_mono (recoverable.undetermined _ store.engine before) ?_
    rintro (failure | verdict) engine after holds
    · rintro _ ⟨⟩
    cases verdict with
    | landed position => rintro _ ⟨⟩
    | undetermined carriedEpoch =>
        intro _ _
        exact (holds carriedEpoch rfl).trans unchanged

/-- Every write keeps the store a mirror of its log. -/
theorem Store.Mirrors.step (recoverable : RecoverableLog Engine setting)
    {before after : Store Engine × World}
    {event : WriteCall × Except OperationFailure (WriteLandingVerdict WriteReceipt)}
    (mirrors : before.1.Mirrors recoverable.toLogContract before.2)
    (step : WriteStep setting before event after) :
    after.1.Mirrors recoverable.toLogContract after.2 := by
  obtain ⟨store, world⟩ := before
  obtain ⟨call, outcome⟩ := event
  obtain ⟨written, later⟩ := after
  obtain ⟨payloads, fits, logged, built, rolled⟩ := mirrors
  have effect := Action.wp_of_runs step (call.wp_effect recoverable.toLogContract store world)
  have kept := Action.wp_of_runs step (call.wp_undetermined recoverable store world)
  dsimp only at *
  match outcome with
  | .error _ =>
      obtain ⟨unchanged, same⟩ := effect
      rw [same]
      exact ⟨payloads, fits, unchanged.trans logged, built, rolled⟩
  | .ok (.undetermined carriedEpoch) =>
      have same : written = _ := effect
      have unchanged := kept carriedEpoch rfl
      rw [same]
      exact ⟨payloads, fits, unchanged.trans logged, built, rolled⟩
  | .ok (.landed receipt) =>
      obtain ⟨envelope, payload, admitted, _, _, grown, same⟩ := effect
      have derived : store.DerivedFrom payloads := ⟨built, rolled⟩
      have further := derived.committed admitted
      refine ⟨payloads ++ [payload], ?_, ?_, ?_, ?_⟩
      · intro other member
        rcases List.mem_append.mp member with earlier | last
        · exact fits other earlier
        · rw [List.mem_singleton.mp last]
          exact admitted.fits
      · rw [grown, logged, List.map_append]
        rfl
      · rw [same]
        exact further.index
      · rw [same]
        exact further.rolling

/-- So do whole runs of writes. -/
theorem Store.Mirrors.run (recoverable : RecoverableLog Engine setting)
    {before after : Store Engine × World}
    {events : List (WriteCall × Except OperationFailure (WriteLandingVerdict WriteReceipt))}
    (run : Trace (WriteStep setting) before events after)
    (mirrors : before.1.Mirrors recoverable.toLogContract before.2) :
    after.1.Mirrors recoverable.toLogContract after.2 := by
  induction run with
  | nil => exact mirrors
  | cons transition _ ih => exact ih (mirrors.step recoverable transition)

/-- Recovery reproduces the live state: after any writes on a store opened over
an empty log, opening a writer over the resulting log succeeds, and every such
opening yields the live index and the live commitment. -/
theorem Store.recovery_reproduces_live_state (recoverable : RecoverableLog Engine setting)
    {engine opened : Engine} {world openedWorld : World} {store live : Store Engine}
    {later : World}
    {events : List (WriteCall × Except OperationFailure (WriteLandingVerdict WriteReceipt))}
    (empty : recoverable.log engine world = [])
    (opening : openWriter.Runs setting engine world (.ok store) opened openedWorld)
    (run : Trace (WriteStep setting) (store, openedWorld) events (live, later))
    {fresh : Engine} {reopenedAt : World}
    (sameLog : recoverable.log fresh reopenedAt = recoverable.log live.engine later) :
    (∃ outcome after final, openWriter.Runs setting fresh reopenedAt outcome after final) ∧
    ∀ outcome after final, openWriter.Runs setting fresh reopenedAt outcome after final →
      ∃ reopened, outcome = .ok reopened ∧ reopened.fiberIndex = live.fiberIndex ∧
        reopened.rollingCommitment = live.rollingCommitment := by
  have start : store.Mirrors recoverable.toLogContract openedWorld := by
    have nothing : ∀ payload ∈ ([] : List Bytes), payload.length ≤ u32Max := by simp
    obtain ⟨⟨⟩, kept⟩ := Action.wp_of_runs opening (wp_openWriter_log recoverable nothing
      empty rfl)
    exact ⟨[], nothing, kept.trans empty, rfl, rfl⟩
  obtain ⟨payloads, fits, logged, built, rolled⟩ := Mirrors.run recoverable run start
  have reopens := wp_openWriter_log recoverable fits (sameLog.trans logged) built
  refine ⟨?_, ?_⟩
  · obtain ⟨⟨outcome, after⟩, final, runs⟩ :=
      Program.exists_runs recoverable.live (openWriter fresh) reopenedAt
    exact ⟨outcome, after, final, runs⟩
  · intro outcome after final runs
    obtain ⟨same, _⟩ := Action.wp_of_runs runs reopens
    exact ⟨_, same, rfl, rolled.symm⟩

end Recovery

section Genesis

attribute [local instance] standardDigests

/-- One call of a run over the in-memory engine. -/
theorem inMemory_writeStep (call : WriteCall) (store : Store InMemoryEngine) :
    WriteStep stillWorld (store, ()) (call, (stillValue (call.perform store)).1)
      ((stillValue (call.perform store)).2, ()) :=
  runs_stillValue (call.perform store)

/-- Two events of one fiber with a refused repetition of the first in between, reopened. -/
theorem Store.recovery_reproduces_chained :
    ∃ live reopened : Store InMemoryEngine, ∃ engine,
      live.engine.blocks.length = 2 ∧ live.getLatest (repeatedId 2) = .ok (some chainedEvent) ∧
      openWriter.Runs stillWorld live.engine () (.ok reopened) engine () ∧
      reopened.fiberIndex = live.fiberIndex ∧
      reopened.rollingCommitment = live.rollingCommitment := by
  have opening : openWriter.Runs stillWorld (InMemoryEngine.new 1) () (.ok freshStore)
      (InMemoryEngine.new 1) () := runs_stillValue (openWriter (InMemoryEngine.new 1))
  have run := Trace.cons
    (inMemory_writeStep (.appendToFiber (repeatedId 2) (repeatedId 1) [7]) freshStore)
    (.cons (inMemory_writeStep (.appendToFiber (repeatedId 2) (repeatedId 1) [7]) _)
      (.cons (inMemory_writeStep (.appendToFiber (repeatedId 2) (repeatedId 5) [9, 10]) _) .nil))
  obtain ⟨⟨outcome, after, _, runs⟩, recovers⟩ := recovery_reproduces_live_state
    InMemoryEngine.recoverableLog rfl opening run rfl
  obtain ⟨reopened, rfl, index, rolling⟩ := recovers _ _ _ runs
  refine ⟨_, reopened, after, ?_, ?_, runs, index, rolling⟩
  · decide +kernel
  · decide +kernel

end Genesis

end Pardosa
