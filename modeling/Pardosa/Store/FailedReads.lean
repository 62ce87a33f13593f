import Pardosa.Store.RetainedBreak

/-!
# What a failed whole-history read leaves behind

A read that fails over a malformed frame or a broken chain is to close the
session, any other failed read is to leave index and commitment alone. The
iteration does so in every session that knows of no broken fiber; the collecting
read installs the commitment before it looks at the frames, and retains chain
breaks only.
-/

namespace Pardosa

open Foundation

/-- A whole-history read. The callback of the iteration never refuses. -/
inductive WholeRead (τ : Type) where
  | readAllEnvelopes
  | forEachEnvelope (visit : EventEnvelopeRef → τ → τ) (caller : τ)

/-- The engine has read its log, and the failure is about what a frame is or
where it stands. -/
def OperationFailure.BlamesFrame (failure : OperationFailure)
    (contents : Except OperationFailure (List Bytes)) : Prop :=
  (∃ frames, contents = .ok frames) ∧
    (failure.condition = .envelopeMismatch ∨ failure.condition.isChainBreak = true)

section FailedReads

variable [Digests] {τ : Type} {S : Signature} {Engine World : Type} [StorageEngine S Engine]
  {setting : Setting S World} {store : Store Engine} {world : World}
  {contents : Except OperationFailure (List Bytes)}

namespace WholeRead

/-- Perform a whole-history read and drop what it returns. -/
def perform : WholeRead τ → Action S OperationFailure (Store Engine) Unit
  | .readAllEnvelopes => do
      let _ ← Store.readAllEnvelopes
      pure ()
  | .forEachEnvelope visit caller => do
      let _ ← Store.forEachEnvelope (fun view state => (.ok (), visit view state)) caller
      pure ()

/-- A failed read has closed the session, where it blames a frame, and else has
left index and commitment alone. -/
def LeavesNothingHalf (contents : Except OperationFailure (List Bytes)) (store : Store Engine)
    (outcome : Except OperationFailure Unit) (after : Store Engine) : Prop :=
  ∀ failure, outcome = .error failure →
    (failure.BlamesFrame contents → after.brokenReaderCause.isSome = true) ∧
    (¬failure.BlamesFrame contents →
      after.fiberIndex = store.fiberIndex ∧ after.rollingCommitment = store.rollingCommitment)

/-- Where a read leaves nothing half done. For the collecting read: a frame is
too long to be framed again, or none of the frames is refused, or the first
refusal is for another reason than a malformed frame and the session holds the
commitment of the frames already. For the iteration: no fiber of the session is
known to be broken. -/
def Safe (contents : Except OperationFailure (List Bytes)) (store : Store Engine) :
    WholeRead τ → Prop
  | .readAllEnvelopes => ∀ frames, contents = .ok frames →
      (∃ frame ∈ frames, u32Max < frame.length) ∨
        ∀ failure, Store.indexFrames frames = .error failure →
          failure.condition ≠ .envelopeMismatch ∧
            store.rollingCommitment = RollingCommitment.new.absorb frames
  | .forEachEnvelope _ _ => ∀ frames, contents = .ok frames →
      store.fiberIndex.hasBrokenFibers = false

omit [StorageEngine S Engine] in
/-- What a read of all envelopes does leaves nothing half exactly when it was safe. -/
theorem readAllEnvelopes_leavesNothingHalf_iff (certain : store.brokenReaderCause = none)
    {outcome : Except OperationFailure (List EventEnvelope)} {engine : Engine}
    {after : Store Engine}
    (effect : Store.ReadEffect contents { store with engine } outcome after) :
    LeavesNothingHalf contents store (outcome.map fun _ => ()) after ↔
      Safe contents store (.readAllEnvelopes : WholeRead τ) := by
  cases effect with
  | @failed failure read =>
      constructor
      · intro _ frames found
        cases read.symm.trans found
      · rintro _ _ ⟨⟩
        refine ⟨?_, ?_⟩
        · rintro ⟨⟨frames, found⟩, -⟩
          cases read.symm.trans found
        · intro _
          unfold Store.retainBreak
          split_ifs
          · exact ⟨rfl, rfl⟩
          · exact ⟨rfl, rfl⟩
  | @unframed frames failure read long condition =>
      constructor
      · intro _ others found
        cases read.symm.trans found
        exact .inl long
      · rintro _ _ ⟨⟩
        refine ⟨fun _ => rfl, fun unblamed => (unblamed ⟨⟨frames, read⟩, .inr ?_⟩).elim⟩
        rw [condition]
        rfl
  | @refused frames failure read fits refused =>
      have other := Store.indexFrames_error refused
      constructor
      · intro whole others found
        cases read.symm.trans found
        refine .inr fun blamed again => ?_
        cases refused.symm.trans again
        obtain ⟨closed, kept⟩ := whole failure rfl
        have unblamed : ¬failure.BlamesFrame contents := by
          intro blames
          have impossible := closed blames
          rw [certain] at impossible
          cases impossible
        refine ⟨fun malformed => unblamed ⟨⟨frames, read⟩, .inl malformed⟩, ?_⟩
        exact (kept unblamed).2.symm
      · rintro safe _ ⟨⟩
        obtain ⟨frame, member, long⟩ | harmless := safe frames read
        · exact absurd (fits frame member) (Nat.not_le.mpr long)
        · obtain ⟨wellFormed, same⟩ := harmless failure refused
          refine ⟨?_, fun _ => ⟨rfl, same.symm⟩⟩
          rintro ⟨-, malformed | broken⟩
          · exact (wellFormed malformed).elim
          · rw [other] at broken
            cases broken
  | @broken frames index failure read fits indexed breaks condition =>
      constructor
      · intro _ others found
        cases read.symm.trans found
        refine .inr fun blamed again => ?_
        cases indexed.symm.trans again
      · rintro _ _ ⟨⟩
        refine ⟨fun _ => rfl, fun unblamed => (unblamed ⟨⟨frames, read⟩, .inr ?_⟩).elim⟩
        rw [condition]
        rfl
  | @whole frames envelopes index read accepts =>
      constructor
      · intro _ others found
        cases read.symm.trans found
        refine .inr fun blamed again => ?_
        rw [Store.indexFrames_of_accepts accepts] at again
        cases again
      · rintro _ _ ⟨⟩

omit [StorageEngine S Engine] in
/-- An iteration that has begun leaves nothing half done. -/
theorem leavesNothingHalf_of_iteration {visit : EventEnvelopeRef → τ → τ} {caller final : τ}
    {result : Except OperationFailure Unit} {engine : Engine} {after : Store Engine}
    (effect : Store.IterationEffect contents (fun view state => (.ok (), visit view state)) caller
      { store with engine } result final after) :
    LeavesNothingHalf contents store result after := by
  cases effect with
  | stopped accepts within visited =>
      rw [visitAll_ok] at visited
      cases visited
  | finished read accepts visited => rintro _ ⟨⟩
  | faulted read accepts refused visited =>
      rintro _ ⟨⟩
      exact ⟨fun _ => rfl, fun _ => ⟨rfl, rfl⟩⟩
  | failed read visited noted =>
      rintro _ ⟨⟩
      refine ⟨?_, fun _ => ?_⟩
      · rintro ⟨⟨frames, found⟩, -⟩
        cases read.symm.trans found
      · obtain rfl | rfl := noted
        · exact ⟨rfl, rfl⟩
        · exact ⟨rfl, rfl⟩

/-- Reading all envelopes leaves nothing half exactly when it is safe. -/
theorem wp_readAllEnvelopes (delivers : StorageEngine.Delivers setting store.engine world contents)
    (certain : store.brokenReaderCause = none) :
    (readAllEnvelopes : WholeRead τ).perform.wp setting
      (fun outcome after _ => LeavesNothingHalf contents store outcome after ↔
        Safe contents store (readAllEnvelopes : WholeRead τ)) store world := by
  refine (Action.wp_map _).mpr (Action.wp_mono (Store.wp_readAllEnvelopes delivers certain) ?_)
  rintro outcome after later ⟨engine, effect⟩
  exact readAllEnvelopes_leavesNothingHalf_iff certain effect

/-- An iteration refuses up front in a session that knows of a broken fiber. -/
theorem wp_forEachEnvelope (delivers : StorageEngine.Delivers setting store.engine world contents)
    (certain : store.brokenReaderCause = none) (visit : EventEnvelopeRef → τ → τ) (caller : τ) :
    (forEachEnvelope visit caller).perform.wp setting
      (fun outcome after _ => LeavesNothingHalf contents store outcome after ↔
        Safe contents store (forEachEnvelope visit caller)) store world := by
  refine (Action.wp_map _).mpr ?_
  cases broken : store.fiberIndex.hasBrokenFibers with
  | false =>
      refine Action.wp_mono (Store.wp_forEachEnvelope delivers
        (Store.checkIteration_of_whole certain broken)) ?_
      rintro outcome after later ⟨result, final, engine, rfl, effect⟩
      refine ⟨fun _ _ _ => broken, fun _ => ?_⟩
      have whole := leavesNothingHalf_of_iteration effect
      cases result with
      | error failure => exact whole
      | ok => rintro _ ⟨⟩
  | true =>
      have refused : store.checkIteration =
          .error ⟨.precursorChainBroken none, "discovered break in precursor chain"⟩ := by
        unfold Store.checkIteration
        rw [certain, broken]
        rfl
      simp only [Store.forEachEnvelope, Store.iterateEnvelopes, Action.wp_bind, Action.wp_get,
        Action.wp_ofExcept, refused]
      constructor
      · intro whole frames read
        have closed := (whole _ rfl).1 ⟨⟨frames, read⟩, .inr rfl⟩
        rw [certain] at closed
        cases closed
      · rintro safe _ ⟨⟩
        refine ⟨?_, fun _ => ⟨rfl, rfl⟩⟩
        rintro ⟨⟨frames, read⟩, -⟩
        cases broken.symm.trans (safe frames read)

/-- So does every whole read. -/
theorem wp_perform (call : WholeRead τ)
    (delivers : StorageEngine.Delivers setting store.engine world contents)
    (certain : store.brokenReaderCause = none) :
    call.perform.wp setting
      (fun outcome after _ => LeavesNothingHalf contents store outcome after ↔
        call.Safe contents store) store world := by
  cases call with
  | readAllEnvelopes => exact wp_readAllEnvelopes delivers certain
  | forEachEnvelope visit caller => exact wp_forEachEnvelope delivers certain visit caller

end WholeRead

/-- A session that retains a cause refuses its point lookups, its index and its
lifecycle writes. -/
structure Store.Closed (setting : Setting S World) (store : Store Engine) : Prop where
  fiber : ∀ fiberId, ∃ failure, store.fiber fiberId = .error failure
  getLatest : ∀ fiberId, ∃ failure, store.getLatest fiberId = .error failure
  sessionIndex : ∃ failure, store.sessionIndex = .error failure
  lifecycle : ∀ (call : WriteCall) {world later : World}
    {outcome : Except OperationFailure (WriteLandingVerdict WriteReceipt)} {after : Store Engine},
    call.rawPayload = none → call.perform.Runs setting store world outcome after later →
    ∃ failure, outcome = .error failure

/-- A retained cause closes a store. -/
theorem Store.closed_of_retained {cause : FailureCondition}
    (retained : store.brokenReaderCause = some cause) : store.Closed setting where
  fiber := fiber_retained retained
  getLatest := getLatest_retained retained
  sessionIndex := sessionIndex_retained retained
  lifecycle call _ _ _ _ raw runs := call.refused_of_retained retained raw runs

/-- A failed whole-history read leaves nothing half done, in every run, exactly
over the contents that are safe for it; and a session it has closed refuses. -/
theorem WholeRead.leavesNothingHalf_iff_safe (live : setting.Live) (call : WholeRead τ)
    (store : Store Engine) (world : World) (contents : Except OperationFailure (List Bytes))
    (certain : store.brokenReaderCause = none)
    (delivers : StorageEngine.Delivers setting store.engine world contents) :
    ((∀ outcome after later, call.perform.Runs setting store world outcome after later →
        LeavesNothingHalf contents store outcome after) ↔ call.Safe contents store) ∧
      ∀ closed : Store Engine, closed.brokenReaderCause.isSome = true → closed.Closed setting := by
  refine ⟨⟨?_, ?_⟩, ?_⟩
  · intro whole
    obtain ⟨⟨outcome, after⟩, later, runs⟩ := Program.exists_runs live (call.perform store) world
    exact (Action.wp_of_runs runs (call.wp_perform delivers certain)).mp (whole _ _ _ runs)
  · intro safe outcome after later runs
    exact (Action.wp_of_runs runs (call.wp_perform delivers certain)).mpr safe
  · intro closed retained
    obtain ⟨cause, retained⟩ := Option.isSome_iff_exists.mp retained
    exact Store.closed_of_retained retained

/-- A read of a refused frame advances the commitment and nothing else. -/
theorem InMemoryEngine.reads_refused {store : Store InMemoryEngine} {frames : List Bytes}
    {failure : OperationFailure} (certain : store.brokenReaderCause = none)
    (fits : ∀ frame ∈ frames, frame.length ≤ u32Max)
    (logged : store.engine.blocks = frames.map ContainerFrame.frameBytes)
    (refused : Store.indexFrames frames = .error failure) :
    ∃ after, Store.readAllEnvelopes.Runs stillWorld store () (.error failure) after () ∧
      after.brokenReaderCause = none ∧ after.fiberIndex = store.fiberIndex ∧
      after.rollingCommitment = RollingCommitment.new.absorb frames := by
  obtain ⟨outcome, after, reads, effect⟩ := exists_readEffect certain fits logged
  cases effect with
  | failed found => cases found
  | unframed found long =>
      cases found
      obtain ⟨frame, member, long⟩ := long
      exact absurd (fits frame member) (Nat.not_le.mpr long)
  | refused found _ again =>
      cases found
      cases refused.symm.trans again
      exact ⟨_, reads, certain, rfl, rfl⟩
  | broken found _ indexed =>
      cases found
      cases refused.symm.trans indexed
  | whole found accepts =>
      cases found
      cases refused.symm.trans (Store.indexFrames_of_accepts accepts)

end FailedReads

section ShortFrame

attribute [local instance] standardDigests

/-- A session over a log that holds one frame of three bytes. -/
def shortStore : Store InMemoryEngine :=
  { freshStore with engine := { InMemoryEngine.new 1 with
      blocks := [[1, 2, 3]].map ContainerFrame.frameBytes } }

/-- A session over one event, whose log has come to repeat that event, fails to read it
and is closed. -/
theorem WholeRead.leavesNothingHalf_repeatedFrames :
    ∃ opened after : Store InMemoryEngine, ∃ failure,
      Store.openWriter.Runs stillWorld (loggedEngine [firstFrame]) () (.ok opened)
        (loggedEngine [firstFrame]) () ∧
      (readAllEnvelopes : WholeRead Unit).perform.Runs stillWorld
        { opened with engine := repeatingEngine } () (.error failure) after () ∧
      failure.BlamesFrame (.ok [firstFrame, firstFrame]) ∧
      LeavesNothingHalf (.ok [firstFrame, firstFrame]) { opened with engine := repeatingEngine }
        (.error failure) after ∧
      after.brokenReaderCause.isSome = true ∧ after.Closed stillWorld := by
  have fits : ∀ frame ∈ [firstFrame], frame.length ≤ u32Max := by decide +kernel
  obtain ⟨single, built⟩ : ∃ index, SessionIndex.buildFromFrames [firstFrame] = .ok index :=
    ⟨_, rfl⟩
  obtain ⟨index, indexed, broken, -⟩ := repeatedFrames_index
  let opened : Store InMemoryEngine := ⟨loggedEngine [firstFrame],
    RollingCommitment.new.absorb [firstFrame], single, none, false, none⟩
  let repeated : Store InMemoryEngine := { opened with engine := repeatingEngine }
  have certain : repeated.brokenReaderCause = none := rfl
  obtain ⟨failure, condition, reads⟩ := InMemoryEngine.read_breaks certain repeatedFrames_fit
    (rfl : repeated.engine.blocks = _) indexed (SessionIndex.hasBrokenFibers_iff.mp broken)
  have runs : (readAllEnvelopes : WholeRead Unit).perform.Runs stillWorld repeated ()
      (.error failure) _ () := Program.runs_bind_iff.mpr ⟨_, (), reads, .ret⟩
  have blames : failure.BlamesFrame (.ok [firstFrame, firstFrame]) := by
    refine ⟨⟨_, rfl⟩, .inr ?_⟩
    rw [condition]
    rfl
  obtain ⟨whole, closes⟩ := leavesNothingHalf_iff_safe stillWorld_live
    (readAllEnvelopes : WholeRead Unit) repeated () (.ok [firstFrame, firstFrame]) certain
    (InMemoryEngine.delivers_frames repeatedFrames_fit rfl)
  -- no frame is refused: the second one breaks its fiber
  have safe : (readAllEnvelopes : WholeRead Unit).Safe (.ok [firstFrame, firstFrame]) repeated := by
    rintro frames ⟨⟩
    refine .inr fun refusal refused => ?_
    rw [indexed] at refused
    cases refused
  have left := whole.mpr safe _ _ _ runs
  have retained := (left failure rfl).1 blames
  exact ⟨opened, _, failure, InMemoryEngine.opens fits rfl built, runs, blames, left, retained,
    closes _ retained⟩

/-- A malformed frame leaves the session open, with the commitment of a history
its index does not hold. -/
theorem WholeRead.readAllEnvelopes_leaves_half :
    ∃ (failure : OperationFailure) (after : Store InMemoryEngine),
      (readAllEnvelopes : WholeRead Unit).perform.Runs stillWorld shortStore () (.error failure)
        after () ∧
      failure.condition = .envelopeMismatch ∧ after.brokenReaderCause = none ∧
      after.fiberIndex = shortStore.fiberIndex ∧
      after.rollingCommitment ≠ shortStore.rollingCommitment ∧
      ¬LeavesNothingHalf (.ok [[1, 2, 3]]) shortStore (.error failure) after := by
  obtain ⟨failure, refused, condition⟩ : ∃ failure, Store.indexFrames [[1, 2, 3]] = .error failure ∧
      failure.condition = .envelopeMismatch := ⟨_, rfl, rfl⟩
  obtain ⟨after, reads, certain, kept, absorbed⟩ := InMemoryEngine.reads_refused
    (rfl : shortStore.brokenReaderCause = none) (by decide) rfl refused
  have advanced : after.rollingCommitment ≠ shortStore.rollingCommitment := by
    intro same
    have counted := congrArg RollingCommitment.frameCount (absorbed.symm.trans same)
    cases counted
  refine ⟨failure, after, ?_, condition, certain, kept, advanced, ?_⟩
  · exact Program.runs_bind_iff.mpr ⟨_, (), reads, .ret⟩
  · intro whole
    have closed := (whole failure rfl).1 ⟨⟨_, rfl⟩, .inl condition⟩
    rw [certain] at closed
    cases closed

end ShortFrame

end Pardosa
