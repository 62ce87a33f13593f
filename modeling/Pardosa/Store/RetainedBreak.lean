import Pardosa.Store.ReadAgreement
import Pardosa.Store.Session

/-!
# A retained break and the write paths

A read that discovers a chain break leaves it behind in the store. The point
lookups look at it, and so do the lifecycle writes, which start from one; the
two raw appends do not, and refuse only for reasons of their own.
-/

namespace Pardosa

open Foundation

section RetainedBreak

variable [Digests] {S : Signature} {Engine World : Type} [StorageEngine S Engine]
  {setting : Setting S World} {store : Store Engine} {world : World} {cause : FailureCondition}

/-- The frame a raw append asks for, where its envelope has one. -/
def WriteCall.rawPayload : WriteCall → Option Bytes
  | .appendFrame payload => some payload
  | .appendEnvelope envelope => (WireEnvelope.tryFrom envelope).toOption.map WireEnvelope.encode
  | .appendToFiber .. | .detachFiber .. | .rescueFiber .. => none

/-- The engine's part of a raw append: its authority check and its write. -/
def StorageEngine.offer (block : Bytes) :
    Action S OperationFailure Engine (WriteLandingVerdict Nat) := do
  let engine ← get
  let outcome ← Action.lift (StorageEngine.checkAuthority engine)
  Action.ofExcept outcome
  StorageEngine.appendBlock block

namespace Store

omit [Digests] in
/-- A retained break refuses point lookups. -/
theorem checkPointLookup_retained (retained : store.brokenReaderCause = some cause) :
    ∃ failure, store.checkPointLookup = .error failure := by
  unfold checkPointLookup
  rw [retained]
  split_ifs
  · exact ⟨_, rfl⟩
  · exact ⟨_, rfl⟩

/-- A retained break refuses handles. -/
theorem fiber_retained (retained : store.brokenReaderCause = some cause) (fiberId : Id) :
    ∃ failure, store.fiber fiberId = .error failure := by
  obtain ⟨failure, refused⟩ := checkPointLookup_retained retained
  refine ⟨failure, ?_⟩
  unfold fiber
  rw [refused, error_bind]

omit [Digests] in
/-- A retained break refuses the latest envelope of a fiber. -/
theorem getLatest_retained (retained : store.brokenReaderCause = some cause) (fiberId : Id) :
    ∃ failure, store.getLatest fiberId = .error failure := by
  obtain ⟨failure, refused⟩ := checkPointLookup_retained retained
  refine ⟨failure, ?_⟩
  unfold getLatest
  rw [refused, error_bind]

omit [Digests] [StorageEngine S Engine] in
/-- A retained break refuses the index. -/
theorem sessionIndex_retained (retained : store.brokenReaderCause = some cause) :
    ∃ failure, store.sessionIndex = .error failure := by
  unfold sessionIndex
  rw [retained]
  exact ⟨_, rfl⟩

/-- Every lifecycle write refuses at its point lookup, if not before. -/
theorem lifecycleWrite_retained (retained : store.brokenReaderCause = some cause)
    (mint : FiberHandle → Except OperationFailure EventEnvelope × FiberHandle) (fiberId : Id)
    {outcome : Except OperationFailure (WriteLandingVerdict EventEnvelope)} {after : Store Engine}
    {later : World}
    (runs : (lifecycleWrite mint fiberId).Runs setting store world outcome after later) :
    ∃ failure, outcome = .error failure := by
  cases outcome with
  | error failure => exact ⟨failure, rfl⟩
  | ok verdict =>
      simp only [lifecycleWrite, Action.runs_bind_ok_iff, checkSessionAuthority_runs_iff,
        Action.runs_get_iff, Action.runs_ofExcept_iff] at runs
      obtain ⟨_, _, _, ⟨-, rfl, -⟩, _, _, _, ⟨rfl, rfl, rfl⟩, handle, _, _, ⟨found, -⟩, -⟩ := runs
      obtain ⟨failure, refused⟩ := fiber_retained retained fiberId
      cases found.symm.trans refused

omit [Digests] in
/-- An offered block runs to a verdict when authority is had and the append gives it. -/
theorem offer_runs_iff {block : Bytes} {verdict : WriteLandingVerdict Nat} {engine after : Engine}
    {later : World} :
    (StorageEngine.offer block).Runs setting engine world (.ok verdict) after later ↔
      ∃ between, (StorageEngine.checkAuthority engine).Runs setting world (.ok ()) between ∧
        (StorageEngine.appendBlock block).Runs setting engine between
          (.ok verdict) after later := by
  simp only [StorageEngine.offer, Action.runs_bind_ok_iff, Action.runs_get_iff,
    Action.runs_lift_ok_iff, Action.runs_ofExcept_iff]
  constructor
  · rintro ⟨_, _, _, ⟨rfl, rfl, rfl⟩, _, _, between, ⟨authorized, rfl⟩, _, _, _, ⟨rfl, rfl, rfl⟩,
      appended⟩
    exact ⟨between, authorized, appended⟩
  · rintro ⟨between, authorized, appended⟩
    exact ⟨_, _, _, ⟨rfl, rfl, rfl⟩, _, _, between, ⟨authorized, rfl⟩, (), _, _, ⟨rfl, rfl, rfl⟩,
      appended⟩

omit [Digests] in
/-- A block the engine takes is committed. -/
theorem landFrame_of_landed (envelope : EventEnvelope) {block : Bytes} {position : Nat}
    {engine : Engine} {later : World}
    (appended : (StorageEngine.appendBlock block).Runs setting store.engine world
      (.ok (.landed position)) engine later) :
    (landFrame envelope block).Runs setting store world
      (.ok (.landed (({ store with engine } : Store Engine).committed envelope
        block).rollingCommitment.frameCount))
      (({ store with engine } : Store Engine).committed envelope block) later :=
  Action.runs_bind_ok_iff.mpr ⟨.landed position, { store with engine }, later,
    Action.runs_on_iff.mpr ⟨engine, appended, rfl⟩, .ret⟩

omit [Digests] in
/-- A landing succeeds exactly when the engine takes the block. -/
theorem landFrame_runs_iff {envelope : EventEnvelope} {block : Bytes} {later : World} :
    (∃ verdict after, (landFrame envelope block).Runs setting store world
      (.ok verdict) after later) ↔
      ∃ verdict engine, (StorageEngine.appendBlock block).Runs setting store.engine world
        (.ok verdict) engine later := by
  simp only [landFrame, onEngine, Action.runs_bind_ok_iff, Action.runs_on_iff]
  constructor
  · rintro ⟨_, _, verdict, _, _, ⟨engine, appended, rfl⟩, rest⟩
    refine ⟨verdict, engine, ?_⟩
    cases verdict with
    | landed position =>
        cases rest
        exact appended
    | undetermined carriedEpoch =>
        cases rest
        exact appended
  · rintro ⟨verdict, engine, appended⟩
    cases verdict with
    | landed position => exact ⟨_, _, _, _, later, ⟨engine, appended, rfl⟩, .ret⟩
    | undetermined carriedEpoch => exact ⟨_, _, _, _, later, ⟨engine, appended, rfl⟩, .ret⟩

/-- An append succeeds exactly when a certain session admits its frame and the
engine takes it. -/
theorem appendFrameVerdict_runs_iff {payload : Bytes} {later : World} :
    (∃ verdict after, (appendFrameVerdict payload).Runs setting store world (.ok verdict) after
      later) ↔
      store.isUncertain = false ∧ (∃ envelope, AdmittedFrame store.fiberIndex payload envelope) ∧
        ∃ verdict engine, (StorageEngine.offer (ContainerFrame.frameBytes payload)).Runs setting
          store.engine world (.ok verdict) engine later := by
  simp only [appendFrameVerdict, Action.runs_bind_ok_iff, offer_runs_iff]
  constructor
  · rintro ⟨verdict, after, ⟨envelope, block⟩, _, between, admission, landing⟩
    obtain ⟨certain, rfl, admitted, rfl, authorized⟩ := admitFrame_runs_iff.mp admission
    obtain ⟨taken, engine, appended⟩ := landFrame_runs_iff.mp ⟨verdict, after, landing⟩
    exact ⟨certain, ⟨envelope, admitted⟩, taken, engine, between, authorized, appended⟩
  · rintro ⟨certain, ⟨envelope, admitted⟩, taken, engine, between, authorized, appended⟩
    obtain ⟨verdict, after, landing⟩ := landFrame_runs_iff.mpr ⟨taken, engine, appended⟩
    exact ⟨verdict, after, (envelope, _), store, between,
      admitFrame_runs_iff.mpr ⟨certain, rfl, admitted, rfl, authorized⟩, landing⟩

end Store

namespace WriteCall

/-- A raw append with a frame is the append of that frame. -/
theorem perform_of_rawPayload {call : WriteCall} {payload : Bytes}
    (raw : call.rawPayload = some payload)
    {outcome : Except OperationFailure (WriteLandingVerdict WriteReceipt)}
    {after : Store Engine} {later : World} :
    call.perform.Runs setting store world outcome after later ↔
      (WriteCall.appendFrame payload).perform.Runs setting store world outcome after later := by
  cases call with
  | appendFrame passed =>
      cases raw
      rfl
  | appendEnvelope envelope =>
      simp only [rawPayload] at raw
      cases wired : WireEnvelope.tryFrom envelope with
      | error failure =>
          rw [wired] at raw
          cases raw
      | ok wire =>
          rw [wired] at raw
          cases raw
          have same : Store.appendEnvelopeVerdict envelope store =
              Store.appendFrameVerdict wire.encode store := by
            unfold Store.appendEnvelopeVerdict
            rw [wired]
            rfl
          unfold Action.Runs perform
          change ((Store.appendEnvelopeVerdict envelope store).bind _).Runs _ _ _ _ ↔
            ((Store.appendFrameVerdict wire.encode store).bind _).Runs _ _ _ _
          rw [same]
  | appendToFiber fiberId eventId payload => cases raw
  | detachFiber fiberId eventId payload => cases raw
  | rescueFiber fiberId eventId payload => cases raw

/-- Over a retained break, whatever has no frame of its own is refused. -/
theorem refused_of_retained (call : WriteCall) (retained : store.brokenReaderCause = some cause)
    (lifecycle : call.rawPayload = none)
    {outcome : Except OperationFailure (WriteLandingVerdict WriteReceipt)} {after : Store Engine}
    {later : World} (runs : call.perform.Runs setting store world outcome after later) :
    ∃ failure, outcome = .error failure := by
  cases outcome with
  | error failure => exact ⟨failure, rfl⟩
  | ok verdict =>
      cases call with
      | appendFrame payload => cases lifecycle
      | appendEnvelope envelope =>
          simp only [rawPayload] at lifecycle
          simp only [perform, Store.appendEnvelopeVerdict, Action.runs_bind_ok_iff,
            Action.runs_ofExcept_iff] at runs
          obtain ⟨_, _, _, ⟨wire, _, _, ⟨wired, -⟩, -⟩, -⟩ := runs
          rw [mapError_eq_ok.mp wired] at lifecycle
          cases lifecycle
      | appendToFiber fiberId eventId payload =>
          obtain ⟨_, _, _, write, -⟩ := Action.runs_bind_ok_iff.mp runs
          obtain ⟨_, ⟨⟩⟩ := Store.lifecycleWrite_retained retained _ fiberId write
      | detachFiber fiberId eventId payload =>
          obtain ⟨_, _, _, write, -⟩ := Action.runs_bind_ok_iff.mp runs
          obtain ⟨_, ⟨⟩⟩ := Store.lifecycleWrite_retained retained _ fiberId write
      | rescueFiber fiberId eventId payload =>
          obtain ⟨_, _, _, write, -⟩ := Action.runs_bind_ok_iff.mp runs
          obtain ⟨_, ⟨⟩⟩ := Store.lifecycleWrite_retained retained _ fiberId write

/-- Over a retained break a write is refused and leaves the log alone, in every
run, exactly unless it is a raw append of a frame that the index admits, in a
certain session whose engine can take the block. -/
theorem retained_break_refuses_iff (contract : LogContract Engine setting) (call : WriteCall)
    (store : Store Engine) (world : World) (inner : Option CausalChainError)
    (retained : store.brokenReaderCause = some (.precursorChainBroken inner)) :
    (∀ outcome after later, call.perform.Runs setting store world outcome after later →
      (∃ failure, outcome = .error failure) ∧
        contract.log after.engine later = contract.log store.engine world) ↔
    ∀ payload envelope, call.rawPayload = some payload →
      AdmittedFrame store.fiberIndex payload envelope →
      store.isUncertain = true ∨
        ∀ outcome engine later, (StorageEngine.offer (ContainerFrame.frameBytes payload)).Runs
          setting store.engine world outcome engine later →
            ∃ failure, outcome = .error failure := by
  constructor
  · intro refuses payload envelope raw admitted
    by_contra taken
    push Not at taken
    obtain ⟨certain, outcome, engine, later, offered, unrefused⟩ := taken
    cases outcome with
    | error failure => exact unrefused failure rfl
    | ok verdict =>
        obtain ⟨written, after, runs⟩ := Store.appendFrameVerdict_runs_iff.mpr
          ⟨by simpa using certain, ⟨envelope, admitted⟩, verdict, engine, offered⟩
        have performed : (WriteCall.appendFrame payload).perform.Runs setting store world
            (.ok (written.map .frameCount)) after later :=
          Action.runs_bind_ok_iff.mpr ⟨written, after, later, runs, .ret⟩
        obtain ⟨⟨_, impossible⟩, -⟩ := refuses _ _ _ ((perform_of_rawPayload raw).mpr performed)
        cases impossible
  · intro refuses outcome after later runs
    have effect := Action.wp_of_runs runs (call.wp_effect contract store world)
    have refused : ∃ failure, outcome = .error failure := by
      cases raw : call.rawPayload with
      | none => exact call.refused_of_retained retained raw runs
      | some payload =>
          cases outcome with
          | error failure => exact ⟨failure, rfl⟩
          | ok verdict =>
              obtain ⟨written, final, _, append, -⟩ :=
                Action.runs_bind_ok_iff.mp ((perform_of_rawPayload raw).mp runs)
              obtain ⟨certain, ⟨envelope, admitted⟩, taken, engine, offered⟩ :=
                Store.appendFrameVerdict_runs_iff.mp ⟨written, final, append⟩
              obtain uncertain | refusing := refuses payload envelope raw admitted
              · rw [certain] at uncertain
                cases uncertain
              · obtain ⟨_, ⟨⟩⟩ := refusing _ _ _ offered
    obtain ⟨failure, rfl⟩ := refused
    exact ⟨⟨failure, rfl⟩, effect.1⟩

end WriteCall

/-- A whole read of a broken log refuses, and retains the break. -/
theorem InMemoryEngine.read_breaks {store : Store InMemoryEngine} {frames : List Bytes}
    {index : SessionIndex} (certain : store.brokenReaderCause = none)
    (fits : ∀ frame ∈ frames, frame.length ≤ u32Max)
    (logged : store.engine.blocks = frames.map ContainerFrame.frameBytes)
    (indexed : Store.indexFrames frames = .ok index) (broken : index.HasBreak) :
    ∃ failure, failure.condition = .precursorChainBroken none ∧
      Store.readAllEnvelopes.Runs stillWorld store () (.error failure) { store with
        rollingCommitment := RollingCommitment.new.absorb frames
        fiberIndex := index
        brokenReaderCause := some (.precursorChainBroken none) } () := by
  obtain ⟨_, -, built⟩ := bind_eq_ok.mp indexed
  obtain ⟨read, after, reads, effect⟩ := exists_readEffect certain fits logged
  cases effect with
  | failed found => cases found
  | unframed found long =>
      cases found
      obtain ⟨frame, member, long⟩ := long
      exact absurd (fits frame member) (Nat.not_le.mpr long)
  | refused found _ refused =>
      cases found
      cases indexed.symm.trans refused
  | whole found accepts =>
      cases found
      cases built.symm.trans accepts.processFrames
      exact (SessionIndex.not_hasBreak_new (accepts.hasBreak_iff.mp broken)).elim
  | broken found _ again _ condition =>
      cases found
      cases indexed.symm.trans again
      rw [condition] at reads
      exact ⟨_, condition, reads⟩

/-- A writer opened over a broken log retains the break when it reads. -/
theorem InMemoryEngine.reads_break {engine : InMemoryEngine} {frames : List Bytes}
    {index : SessionIndex} (fits : ∀ frame ∈ frames, frame.length ≤ u32Max)
    (logged : engine.blocks = frames.map ContainerFrame.frameBytes)
    (indexed : Store.indexFrames frames = .ok index) (broken : index.HasBreak) :
    ∃ opened failure, Store.openWriter.Runs stillWorld engine () (.ok opened) engine () ∧
      Store.readAllEnvelopes.Runs stillWorld opened () (.error failure)
        ⟨engine, RollingCommitment.new.absorb frames, index,
          some (.precursorChainBroken none), false,
          none⟩ () := by
  obtain ⟨_, -, built⟩ := bind_eq_ok.mp indexed
  let opened : Store InMemoryEngine :=
    ⟨engine, RollingCommitment.new.absorb frames, index, none, false, none⟩
  have certain : opened.brokenReaderCause = none := rfl
  obtain ⟨failure, -, reads⟩ := read_breaks certain fits logged indexed broken
  exact ⟨_, failure, InMemoryEngine.opens fits logged built, reads⟩

/-- An engine with authority and without limits takes an admitted envelope. -/
theorem InMemoryEngine.lands_envelope {store : Store InMemoryEngine} {envelope : EventEnvelope}
    {wire : WireEnvelope} (certain : store.isUncertain = false)
    (authorized : store.engine.checkAuthority = .ok ())
    (unlimited : store.engine.undeterminedAfterNBlocks = none ∧
      store.engine.failAfterNBlocks = none)
    (wired : WireEnvelope.tryFrom envelope = .ok wire)
    (validated : store.fiberIndex.validateAppend envelope = .ok ()) :
    ∃ count after, (WriteCall.appendEnvelope envelope).perform.Runs stillWorld store ()
        (.ok (.landed count)) after () ∧
      after.engine.blocks = store.engine.blocks ++ [ContainerFrame.frameBytes wire.encode] := by
  have same : wire.envelope = envelope := WireEnvelope.bounded_envelope wired
  have raw : (WriteCall.appendEnvelope envelope).rawPayload = some wire.encode := by
    simp only [WriteCall.rawPayload, wired]
    rfl
  have admitted : AdmittedFrame store.fiberIndex wire.encode envelope := by
    refine ⟨?_, ?_, ?_, SessionIndex.validateAppend_ok_iff.mp validated⟩
    · rw [SessionIndex.decodeAndValidateFrame_encode, same]
    · rw [WireEnvelope.length_encode, wire.wireLen_eq]
      omega
    · rw [WireEnvelope.length_encode]
      exact wire.fits
  have appended : (StorageEngine.appendBlock (ContainerFrame.frameBytes wire.encode)).Runs
    stillWorld
      store.engine () (.ok (.landed (store.engine.blocks.length + 1))) { store.engine with
        blocks := store.engine.blocks ++ [ContainerFrame.frameBytes wire.encode] } () := by
    have taken : appendBlock (ContainerFrame.frameBytes wire.encode) store.engine =
        (.ok (.landed (store.engine.blocks.length + 1)), { store.engine with
          blocks := store.engine.blocks ++ [ContainerFrame.frameBytes wire.encode] }) := by
      simp [appendBlock, authorized, reached, unlimited.1, unlimited.2]
    unfold Action.Runs StorageEngine.appendBlock
    change Program.Runs stillWorld (.ret (appendBlock _ _)) _ _ _
    rw [taken]
    exact .ret
  have admission : (Store.admitFrame wire.encode).Runs stillWorld store ()
      (.ok (envelope, ContainerFrame.frameBytes wire.encode)) store () := by
    refine Store.admitFrame_runs_iff.mpr ⟨certain, rfl, admitted, rfl, ?_⟩
    change Program.Runs stillWorld (.ret store.engine.checkAuthority) _ _ _
    rw [authorized]
    exact .ret
  have landing := Store.landFrame_of_landed envelope appended
  have written : (Store.appendFrameVerdict wire.encode).Runs stillWorld store () _ _ () :=
    Action.runs_bind_ok_iff.mpr ⟨(envelope, _), store, (), admission, landing⟩
  refine ⟨_, _, (WriteCall.perform_of_rawPayload raw).mpr
    (Action.runs_bind_ok_iff.mpr ⟨_, _, (), written, .ret⟩), rfl⟩

end RetainedBreak

section BrokenLog

attribute [local instance] standardDigests

/-- An engine whose log repeats an event. -/
def repeatingEngine : InMemoryEngine := loggedEngine [firstFrame, firstFrame]

/-- Recovery of the repeated event breaks its fiber, and the index still admits
the first event of another. -/
theorem repeatedFrames_index :
    ∃ index, Store.indexFrames [firstFrame, firstFrame] = .ok index ∧
      index.hasBrokenFibers = true ∧ index.validateAppend otherGenesis = .ok () := by
  refine ⟨_, rfl, ?_, ?_⟩ <;> decide +kernel

/-- The repeated first frame fits. -/
theorem repeatedFrames_fit : ∀ payload ∈ [firstFrame, firstFrame], payload.length ≤ u32Max := by
  decide +kernel

/-- A session over the empty log that has retained a chain break. -/
def brokenStore : Store InMemoryEngine :=
  { freshStore with brokenReaderCause := some (.precursorChainBroken none) }

/-- A retained break refuses a rescue, and nothing is written. -/
theorem WriteCall.retained_break_refuses_rescue :
    ∃ failure, ∃ after : Store InMemoryEngine,
      (WriteCall.rescueFiber (repeatedId 2) (repeatedId 5) [9]).perform.Runs stillWorld
        brokenStore ()
        (.error failure) after () ∧ after.engine.blocks = [] := by
  have runs := runs_stillValue
    ((WriteCall.rescueFiber (repeatedId 2) (repeatedId 5) [9]).perform brokenStore)
  obtain ⟨⟨failure, refused⟩, kept⟩ := (retained_break_refuses_iff
    InMemoryEngine.recoverableLog.toLogContract _ _ _ none rfl).mpr
      (by rintro payload envelope ⟨⟩) _ _ _ runs
  refine ⟨failure, _, ?_, kept⟩
  unfold Action.Runs
  rw [← refused]
  exact runs

/-- A raw append lands in a session that has retained a chain break. -/
theorem retained_break_admits_raw_append :
    ∃ opened broken after : Store InMemoryEngine, ∃ engine failure count,
      Store.openWriter.Runs stillWorld repeatingEngine () (.ok opened) engine () ∧
      Store.readAllEnvelopes.Runs stillWorld opened () (.error failure) broken () ∧
      broken.brokenReaderCause = some (.precursorChainBroken none) ∧
      (WriteCall.appendEnvelope otherGenesis).perform.Runs stillWorld broken ()
        (.ok (.landed count)) after () ∧
      after.engine.blocks.length = broken.engine.blocks.length + 1 := by
  obtain ⟨index, indexed, broken, validated⟩ := repeatedFrames_index
  obtain ⟨opened, failure, opens, reads⟩ := InMemoryEngine.reads_break repeatedFrames_fit
    (rfl : repeatingEngine.blocks = _) indexed (SessionIndex.hasBrokenFibers_iff.mp broken)
  obtain ⟨wire, wired⟩ : ∃ wire, WireEnvelope.tryFrom otherGenesis = .ok wire := ⟨_, rfl⟩
  let session : Store InMemoryEngine := ⟨repeatingEngine,
    RollingCommitment.new.absorb [firstFrame, firstFrame], index, some (.precursorChainBroken none),
    false, none⟩
  obtain ⟨count, after, lands, logged⟩ := InMemoryEngine.lands_envelope
    (rfl : session.isUncertain = false) rfl ⟨rfl, rfl⟩ wired validated
  refine ⟨opened, session, after, _, failure, count, opens, reads, rfl, lands, ?_⟩
  rw [logged, List.length_append]
  rfl

end BrokenLog

end Pardosa
