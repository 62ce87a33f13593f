import Pardosa.Foundation.Binding
import Pardosa.Store.Landings

/-!
# What the rolling commitment binds

The hasher absorbs frames without separators or counts. A frame tells its own end, so
the absorbed bytes still determine the frames, and with them every place that absorbs
the frames of one log arrives at one commitment.
-/

namespace Pardosa

open Foundation

section Binding

variable [Digests]

/-- A frame tells its own end. -/
theorem ContainerFrame.selfDelimiting_frameBytes :
    SelfDelimiting (fun payload : Bytes => payload.length ≤ u32Max) frameBytes := by
  intro left right leftFits rightFits rest rest' same
  have first : decode (frameBytes left ++ rest) = .ok (left, left.length + 8) :=
    decode_ok_iff.mpr ⟨leftFits, rfl, rest, rfl⟩
  have second : decode (frameBytes right ++ rest') = .ok (right, right.length + 8) :=
    decode_ok_iff.mpr ⟨rightFits, rfl, rest', rfl⟩
  rw [same, second] at first
  cases first
  rfl

namespace RollingCommitment

/-- What is absorbed is the bytes of the frames, one after the other. -/
theorem absorbed_absorb (rolling : RollingCommitment) (payloads : List Bytes) :
    (rolling.absorb payloads).absorbed = rolling.absorbed ++ framesBytes payloads := by
  induction payloads generalizing rolling with
  | nil => exact (List.append_nil _).symm
  | cons payload payloads ih =>
      calc (rolling.absorb (payload :: payloads)).absorbed
          = ((rolling.updateFrame (ContainerFrame.frameBytes payload)).absorb payloads).absorbed :=
            rfl
        _ = rolling.absorbed ++ ContainerFrame.frameBytes payload ++ framesBytes payloads := ih _
        _ = rolling.absorbed ++ framesBytes (payload :: payloads) := List.append_assoc _ _ _

/-- Payloads that fit their frames are known from what is absorbed of them. -/
theorem eq_of_absorbed_eq {first second : List Bytes}
    (firstFits : ∀ payload ∈ first, payload.length ≤ u32Max)
    (secondFits : ∀ payload ∈ second, payload.length ≤ u32Max)
    (same : (new.absorb first).absorbed = (new.absorb second).absorbed) : first = second := by
  rw [absorbed_absorb, absorbed_absorb] at same
  exact ContainerFrame.selfDelimiting_frameBytes.eq_of_flatMap_eq ContainerFrame.frameBytes_ne_nil
    firstFits secondFits same

end RollingCommitment

variable {S : Signature} {Engine World τ : Type} [StorageEngine S Engine]
  {setting : Setting S World} {store : Store Engine} {world : World} {frames : List Bytes}

namespace Store

/-- A read of all frames carries the commitment over them. -/
theorem wp_readAllFrames_absorbs (fits : ∀ frame ∈ frames, frame.length ≤ u32Max)
    (delivers : StorageEngine.Delivers setting store.engine world (.ok frames)) :
    readAllFrames.wp setting
      (fun outcome after _ => outcome = .ok frames ∧
        after.rollingCommitment = RollingCommitment.new.absorb frames) store world := by
  refine Action.wp_mono (wp_readAllFrames delivers) ?_
  rintro outcome after later ⟨engine, effect⟩
  dsimp only at effect
  rw [rollingOf_fits .new fits] at effect
  obtain ⟨rfl, rfl⟩ := effect
  exact ⟨rfl, rfl⟩

/-- An iteration that goes through carries the commitment over the frames it delivered. -/
theorem wp_forEachEnvelope_absorbs
    (delivers : StorageEngine.Delivers setting store.engine world (.ok frames))
    (visit : EventEnvelopeRef → τ → Except OperationFailure Unit × τ) (caller : τ) :
    (forEachEnvelope visit caller).wp setting
      (fun outcome after _ => ∀ value, outcome = .ok value →
        after.rollingCommitment = RollingCommitment.new.absorb frames) store world := by
  cases checked : store.checkIteration with
  | error failure =>
      simp only [forEachEnvelope, iterateEnvelopes, Action.wp_bind, Action.wp_get,
        Action.wp_ofExcept, checked]
      rintro value ⟨⟩
  | ok =>
      simp only [forEachEnvelope, Action.wp_bind, Action.wp_ofExcept]
      refine Action.wp_mono (wp_iterateEnvelopes delivers checked) ?_
      rintro _ after later ⟨result, final, engine, rfl, effect⟩
      dsimp only
      cases effect with
      | stopped accepts within visited => rintro value ⟨⟩
      | finished read accepts visited =>
          cases read
          exact fun value _ => rfl
      | faulted read accepts refused visited => rintro value ⟨⟩
      | failed read visited noted => cases read

/-- Every way to take up a log of frames leads to one commitment. -/
structure RecomputesTo (setting : Setting S World) (Engine : Type) [StorageEngine S Engine]
    (frames : List Bytes) (rolling : RollingCommitment) : Prop where
  openWriter : ∀ {engine after : Engine} {world final : World}
      {outcome : Except OperationFailure (Store Engine)},
    StorageEngine.Delivers setting engine world (.ok frames) →
    Store.openWriter.Runs setting engine world outcome after final →
    ∃ store, outcome = .ok store ∧ store.rollingCommitment = rolling
  readAllFrames : ∀ {store after : Store Engine} {world final : World}
      {outcome : Except OperationFailure (List Bytes)},
    StorageEngine.Delivers setting store.engine world (.ok frames) →
    Store.readAllFrames.Runs setting store world outcome after final →
    outcome = .ok frames ∧ after.rollingCommitment = rolling
  forEachEnvelope : ∀ {τ : Type} {visit : EventEnvelopeRef → τ → Except OperationFailure Unit × τ}
      {caller value : τ} {store after : Store Engine} {world final : World},
    StorageEngine.Delivers setting store.engine world (.ok frames) →
    (Store.forEachEnvelope visit caller).Runs setting store world (.ok value) after final →
    after.rollingCommitment = rolling

/-- A store that is derived from the frames of a log carries what is recomputed from it. -/
theorem DerivedFrom.recomputes (derived : store.DerivedFrom frames)
    (fits : ∀ frame ∈ frames, frame.length ≤ u32Max) :
    RecomputesTo setting Engine frames store.rollingCommitment where
  openWriter := by
    intro engine after world final outcome delivers opening
    have opens := (Action.wp_of_runs opening (wp_openWriter_delivers delivers)
      ⟨after, RollingCommitment.new.absorb frames, store.fiberIndex, none, false, none⟩).mpr
      ⟨fits, store.fiberIndex, derived.index, rfl⟩
    exact ⟨_, opens, derived.rolling.symm⟩
  readAllFrames := by
    intro reader after world final outcome delivers reading
    rw [derived.rolling]
    exact Action.wp_of_runs reading (wp_readAllFrames_absorbs fits delivers)
  forEachEnvelope := by
    intro τ visit caller value reader after world final delivers reading
    rw [derived.rolling]
    exact Action.wp_of_runs reading (wp_forEachEnvelope_absorbs delivers visit caller) value rfl

/-- A writer opened over delivered frames is derived from them. -/
theorem derivedFrom_of_opens {engine opened : Engine} {openedWorld : World}
    (delivers : StorageEngine.Delivers setting engine world (.ok frames))
    (opening : Store.openWriter.Runs setting engine world (.ok store) opened openedWorld) :
    store.DerivedFrom frames ∧ ∀ frame ∈ frames, frame.length ≤ u32Max := by
  obtain ⟨fits, index, built, rfl⟩ :=
    (Action.wp_of_runs opening (wp_openWriter_delivers delivers) store).mp rfl
  exact ⟨⟨built, rfl⟩, fits⟩

/-- Opening a writer leaves the log as it was. -/
theorem log_of_opens (recoverable : RecoverableLog Engine setting) {engine opened : Engine}
    {openedWorld : World} {index : SessionIndex} (fits : ∀ frame ∈ frames, frame.length ≤ u32Max)
    (logged : recoverable.log engine world = frames.map ContainerFrame.frameBytes)
    (built : SessionIndex.buildFromFrames frames = .ok index)
    (opening : Store.openWriter.Runs setting engine world (.ok store) opened openedWorld) :
    recoverable.log store.engine openedWorld = frames.map ContainerFrame.frameBytes := by
  obtain ⟨same, kept⟩ := Action.wp_of_runs opening (wp_openWriter_log recoverable fits logged built)
  cases same
  exact kept.trans logged

end Store

/-- The rolling commitment binds the frame sequence: equal absorbed bytes come from equal
payloads; where the digest tells the two absorbed strings apart, equal commitments mean
equal payloads and counts; and what a session carries after its appends is what is
recomputed from the frames it was opened on and those it has landed, which are the log of
its engine wherever the engine keeps one that can be read back. -/
theorem Store.commitment_binds_frames :
    (∀ first second : List Bytes, (∀ payload ∈ first, payload.length ≤ u32Max) →
      (∀ payload ∈ second, payload.length ≤ u32Max) →
      ∃ left right, rollingOf .new first = .ok left ∧ rollingOf .new second = .ok right ∧
        (left.absorbed = right.absorbed → first = second) ∧
        ((blake3 left.absorbed = blake3 right.absorbed → left.absorbed = right.absorbed) →
          left.currentCommitment = right.currentCommitment →
            first = second ∧ left.frameCount = right.frameCount)) ∧
    ∀ {engine opened : Engine} {world openedWorld later : World} {store live : Store Engine}
      {prior : List Bytes}
      {events : List (WriteCall × Except OperationFailure (WriteLandingVerdict WriteReceipt))},
      StorageEngine.Delivers setting engine world (.ok prior) →
      openWriter.Runs setting engine world (.ok store) opened openedWorld →
      Trace (WriteStep setting) (store, openedWorld) events (live, later) →
      RecomputesTo setting Engine (prior ++ writtenPayloads events) live.rollingCommitment ∧
      ∀ recoverable : RecoverableLog Engine setting,
        recoverable.log engine world = prior.map ContainerFrame.frameBytes →
        recoverable.log live.engine later =
          (prior ++ writtenPayloads events).map ContainerFrame.frameBytes := by
  constructor
  · intro first second firstFits secondFits
    refine ⟨_, _, rollingOf_fits .new firstFits, rollingOf_fits .new secondFits,
      RollingCommitment.eq_of_absorbed_eq firstFits secondFits, ?_⟩
    intro injective same
    obtain rfl := RollingCommitment.eq_of_absorbed_eq firstFits secondFits (injective same)
    exact ⟨rfl, rfl⟩
  · intro engine opened world openedWorld later store live prior events delivers opening run
    obtain ⟨derived, fits⟩ := derivedFrom_of_opens delivers opening
    have carried : live.DerivedFrom (prior ++ writtenPayloads events) := derived.run run
    constructor
    · refine carried.recomputes ?_
      intro frame member
      rcases List.mem_append.mp member with before | landed
      · exact fits frame before
      · exact writtenPayloads_fit run frame landed
    · intro recoverable logged
      have grown := logs_written recoverable run
      dsimp only at grown
      rw [grown, List.map_append, log_of_opens recoverable fits logged derived.index opening]

end Binding

section Genesis

attribute [local instance] standardDigests

/-- A session opened over an empty log lands two chained events, whose frames recompute to
what the session carries; one payload and two are told apart. -/
theorem Store.commitment_binds_frames_genesis :
    (∃ live : Store InMemoryEngine,
      live.engine.blocks = [firstFrame, chainedFrame].map ContainerFrame.frameBytes ∧
      RecomputesTo stillWorld InMemoryEngine [firstFrame, chainedFrame] live.rollingCommitment) ∧
    ∃ left right, rollingOf .new [[7]] = .ok left ∧
      rollingOf .new [[7], [8]] = .ok right ∧ left.absorbed ≠ right.absorbed ∧
      left.currentCommitment ≠ right.currentCommitment := by
  obtain ⟨binds, carries⟩ :=
    @commitment_binds_frames _ noOperations InMemoryEngine Unit _ stillWorld
  constructor
  · have opening : openWriter.Runs stillWorld (InMemoryEngine.new 1) () (.ok freshStore)
        (InMemoryEngine.new 1) () := runs_stillValue (openWriter (InMemoryEngine.new 1))
    obtain ⟨events, live, run, landed⟩ : ∃ events live,
        Trace (WriteStep stillWorld) (freshStore, ()) events (live, ()) ∧
          writtenPayloads events = [firstFrame, chainedFrame] :=
      ⟨_, _, .cons (inMemory_writeStep (.appendToFiber (repeatedId 2) (repeatedId 1) [7]) _)
        (.cons (inMemory_writeStep (.appendToFiber (repeatedId 2) (repeatedId 5) [9, 10]) _) .nil),
        by decide +kernel⟩
    obtain ⟨recomputes, logged⟩ :=
      carries (InMemoryEngine.delivers (InMemoryEngine.new 1)) opening run
    rw [landed] at recomputes logged
    exact ⟨live, logged InMemoryEngine.recoverableLog rfl, recomputes⟩
  · obtain ⟨left, right, first, second, known, bound⟩ := binds [[7]] [[7], [8]]
      (by decide +kernel) (by decide +kernel)
    have more : ([[7]] : List Bytes) ≠ [[7], [8]] := by simp
    refine ⟨left, right, first, second, fun same => more (known same), ?_⟩
    have digests : blake3 left.absorbed ≠ blake3 right.absorbed := by
      have differ : blake3 (RollingCommitment.new.absorb [[7]]).absorbed ≠
          blake3 (RollingCommitment.new.absorb [[7], [8]]).absorbed := by
        decide +kernel
      rw [rollingOf_fits .new (by decide +kernel)] at first second
      rwa [← Except.ok.inj first, ← Except.ok.inj second]
    exact fun same => more (bound (fun collision => (digests collision).elim) same).1

end Genesis

end Pardosa
