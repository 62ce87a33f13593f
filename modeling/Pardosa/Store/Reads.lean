import Pardosa.Store.Write

/-!
# What a read can do

The store reads only through the reads of its engine. What those keep of the
engine and its world, every read of the store keeps, and no read touches the
store's own record of uncertainty.
-/

namespace Pardosa

open Foundation

/-- A read with its arguments. -/
inductive ReadCall (τ : Type) where
  | isRetiredSource
  | readBlock (index : Nat)
  | readAllFrames
  | readAllEnvelopes
  | readAllEnvelopesForMigration
  | forEachEnvelope (visit : EventEnvelopeRef → τ → Except OperationFailure Unit × τ) (caller : τ)

/-- What a read returns. -/
inductive ReadReply (τ : Type) where
  | retired (retired : Bool)
  | block (payload : Bytes)
  | frames (frames : List Bytes)
  | envelopes (envelopes : List EventEnvelope)
  | visited (caller : τ)

variable [Digests] {S : Signature} {Engine World τ : Type} [StorageEngine S Engine]

/-- Perform a read on a store. -/
def ReadCall.perform : ReadCall τ → Action S OperationFailure (Store Engine) (ReadReply τ)
  | .isRetiredSource => do
      let retired ← Store.isRetiredSource
      pure (.retired retired)
  | .readBlock index => do
      let payload ← Store.readBlock index
      pure (.block payload)
  | .readAllFrames => do
      let frames ← Store.readAllFrames
      pure (.frames frames)
  | .readAllEnvelopes => do
      let envelopes ← Store.readAllEnvelopes
      pure (.envelopes envelopes)
  | .readAllEnvelopesForMigration => do
      let envelopes ← Store.readAllEnvelopesForMigration
      pure (.envelopes envelopes)
  | .forEachEnvelope visit caller => do
      let caller ← Store.forEachEnvelope visit caller
      pure (.visited caller)

/-- What the reads of an engine keep. -/
structure ReadsKeep (setting : Setting S World) (Inv : Engine → World → Prop) : Prop where
  isRetired : ∀ {engine world}, Inv engine world →
    (StorageEngine.isRetired engine).wp setting (fun _ later => Inv engine later) world
  readChunk : ∀ {startIndex maxItems engine world}, Inv engine world →
    (StorageEngine.readChunk startIndex maxItems).wp setting
      (fun _ after later => Inv after later) engine world
  readAll : ∀ {engine world}, Inv engine world →
    (StorageEngine.readAll).wp setting (fun _ after later => Inv after later) engine world
  recoverFrames : ∀ {σ : Type} (onFrame : FrameRecoveryCallback σ) {engine captured world},
    Inv engine world →
    (StorageEngine.recoverFrames 64 onFrame).wp setting
      (fun _ after later => Inv after.1 later) (engine, captured) world

variable {setting : Setting S World} {Inv : Engine → World → Prop} {store : Store Engine}
  {world : World}

/-- What a read keeps of a store: the invariant of its engine and its own record
of uncertainty. -/
def Store.Keeps (Inv : Engine → World → Prop) (store after : Store Engine) (later : World) : Prop :=
  Inv after.engine later ∧ after.uncertain = store.uncertain ∧
    after.uncertainDiagnostic = store.uncertainDiagnostic

namespace Store

omit [Digests] [StorageEngine S Engine] in
/-- Retaining a break keeps what the engine keeps. -/
theorem keeps_retainBreak {after : Store Engine} {later : World} (failure : OperationFailure)
    (kept : store.Keeps Inv after later) : store.Keeps Inv (after.retainBreak failure) later := by
  unfold retainBreak
  split_ifs
  · exact kept
  · exact kept

omit [Digests] in
/-- Asking whether the artefact is retired keeps what the engine keeps. -/
theorem wp_isRetiredSource_keeps (reads : ReadsKeep setting Inv) (holds : Inv store.engine world) :
    isRetiredSource.wp setting (fun _ after later => store.Keeps Inv after later) store world := by
  simp only [isRetiredSource, Action.wp_bind, Action.wp_get, Action.wp_lift, Action.wp_ofExcept]
  refine Program.wp_mono (reads.isRetired holds) ?_
  intro outcome later kept
  exact ⟨kept, rfl, rfl⟩

omit [Digests] in
/-- Reading a block keeps what the engine keeps. -/
theorem wp_readBlock_keeps (reads : ReadsKeep setting Inv) (index : Nat)
    (holds : Inv store.engine world) :
    (readBlock index).wp setting (fun _ after later => store.Keeps Inv after later)
      store world := by
  simp only [readBlock, StorageEngine.readBlock, wp_onEngine, Action.wp_bind, Action.wp_require]
  refine Action.wp_mono (reads.readChunk holds) ?_
  rintro (failure | chunk) engine later kept
  · exact ⟨kept, rfl, rfl⟩
  · dsimp only
    split
    · exact ⟨kept, rfl, rfl⟩
    · exact ⟨kept, rfl, rfl⟩

/-- Reading all frames keeps what the engine keeps. -/
theorem wp_readAllFrames_keeps (reads : ReadsKeep setting Inv) (holds : Inv store.engine world) :
    readAllFrames.wp setting (fun _ after later => store.Keeps Inv after later) store world := by
  simp only [readAllFrames, Action.wp_bind, Action.wp_attempt, wp_onEngine]
  refine Action.wp_mono (reads.readAll holds) ?_
  rintro (failure | frames) engine later kept
  · exact keeps_retainBreak failure ⟨kept, rfl, rfl⟩
  · simp only [Action.wp_bind, Action.wp_ofExcept]
    cases rollingOf .new frames with
    | error failure => exact ⟨kept, rfl, rfl⟩
    | ok rolling => exact ⟨kept, rfl, rfl⟩

/-- Reading all envelopes keeps what the engine keeps, before a failure is looked at. -/
theorem wp_readAllEnvelopesBody_keeps (reads : ReadsKeep setting Inv) (forMigration : Bool)
    (holds : Inv store.engine world) :
    (readAllEnvelopesBody forMigration).wp setting
      (fun _ after later => store.Keeps Inv after later) store world := by
  simp only [readAllEnvelopesBody, Action.wp_bind, Action.wp_ofExcept]
  refine Action.wp_mono (wp_readAllFrames_keeps reads holds) ?_
  rintro (failure | frames) after later kept
  · exact kept
  dsimp only
  cases refuseShortFrames frames with
  | error failure => exact kept
  | ok =>
      dsimp only
      cases SessionIndex.buildFromFrames frames with
      | error failure => exact kept
      | ok index =>
          dsimp only
          split_ifs with broken
          · exact kept
          · simp only [Action.wp_bind, Action.wp_ofExcept]
            cases decodeFrames frames with
            | error failure => exact kept
            | ok envelopes => exact kept

/-- Reading all envelopes keeps what the engine keeps, for a migration or not. -/
theorem wp_readAllEnvelopesInner_keeps (reads : ReadsKeep setting Inv) (forMigration : Bool)
    (holds : Inv store.engine world) :
    (readAllEnvelopesInner forMigration).wp setting
      (fun _ after later => store.Keeps Inv after later) store world := by
  simp only [readAllEnvelopesInner, Action.wp_bind, Action.wp_get]
  split
  · exact ⟨holds, rfl, rfl⟩
  · simp only [Action.wp_bind, Action.wp_attempt]
    refine Action.wp_mono (wp_readAllEnvelopesBody_keeps reads forMigration holds) ?_
    rintro (failure | envelopes) after later kept
    · exact keeps_retainBreak failure kept
    · exact kept

omit [Digests] in
/-- A recovery within a store is the recovery of its engine. -/
theorem wp_recoverOn {σ : Type} {onFrame : FrameRecoveryCallback σ} {captured : σ}
    {post : Except OperationFailure (Except OperationFailure Nat × σ) → Store Engine → World → Prop}
    (holds : (StorageEngine.recoverFrames 64 onFrame).wp setting
      (fun outcome state after => post (.ok (outcome, state.2))
        { store with engine := state.1 } after)
      (store.engine, captured) world) :
    (recoverOn onFrame captured).wp setting post store world :=
  (Program.wp_bind _ _ _ _).mpr holds

omit [Digests] [StorageEngine S Engine] in
/-- The end of an iteration keeps what the engine keeps. -/
theorem keeps_concludeIteration {after : Store Engine} {later : World}
    (outcome : Except OperationFailure Nat) (captured : ForEachCapture τ)
    (kept : store.Keeps Inv after later) :
    store.Keeps Inv (concludeIteration outcome captured after).2 later := by
  unfold concludeIteration
  split
  · exact kept
  · exact kept
  · exact kept
  · dsimp only
    split_ifs
    · exact kept
    · exact kept

/-- An iteration keeps what the engine keeps. -/
theorem wp_iterateEnvelopes_keeps (reads : ReadsKeep setting Inv)
    (visit : EventEnvelopeRef → τ → Except OperationFailure Unit × τ) (caller : τ)
    (holds : Inv store.engine world) :
    (iterateEnvelopes visit caller).wp setting
      (fun _ after later => store.Keeps Inv after later) store world := by
  simp only [iterateEnvelopes, Action.wp_bind, Action.wp_get, Action.wp_ofExcept]
  cases store.checkIteration with
  | error failure => exact ⟨holds, rfl, rfl⟩
  | ok =>
      refine wp_recoverOn (Action.wp_mono (reads.recoverFrames _ holds) ?_)
      rintro outcome ⟨engine, captured⟩ later kept
      exact keeps_concludeIteration outcome captured ⟨kept, rfl, rfl⟩

/-- A visit of all envelopes keeps what the engine keeps. -/
theorem wp_forEachEnvelope_keeps (reads : ReadsKeep setting Inv)
    (visit : EventEnvelopeRef → τ → Except OperationFailure Unit × τ) (caller : τ)
    (holds : Inv store.engine world) :
    (forEachEnvelope visit caller).wp setting
      (fun _ after later => store.Keeps Inv after later) store world := by
  simp only [forEachEnvelope, Action.wp_bind, Action.wp_ofExcept]
  refine Action.wp_mono (wp_iterateEnvelopes_keeps reads visit caller holds) ?_
  rintro (failure | ⟨result, caller⟩) after later kept
  · exact kept
  · cases result with
    | error failure => exact kept
    | ok => exact kept

end Store

/-- Every read keeps what the reads of the engine keep. -/
theorem ReadCall.wp_perform_keeps (call : ReadCall τ) (reads : ReadsKeep setting Inv)
    (holds : Inv store.engine world) :
    call.perform.wp setting (fun _ after later => store.Keeps Inv after later) store world := by
  cases call with
  | isRetiredSource => exact (Action.wp_map _).mpr (Store.wp_isRetiredSource_keeps reads holds)
  | readBlock index => exact (Action.wp_map _).mpr (Store.wp_readBlock_keeps reads index holds)
  | readAllFrames => exact (Action.wp_map _).mpr (Store.wp_readAllFrames_keeps reads holds)
  | readAllEnvelopes =>
      exact (Action.wp_map _).mpr (Store.wp_readAllEnvelopesInner_keeps reads false holds)
  | readAllEnvelopesForMigration =>
      exact (Action.wp_map _).mpr (Store.wp_readAllEnvelopesInner_keeps reads true holds)
  | forEachEnvelope visit caller =>
      exact (Action.wp_map _).mpr (Store.wp_forEachEnvelope_keeps reads visit caller holds)

end Pardosa
