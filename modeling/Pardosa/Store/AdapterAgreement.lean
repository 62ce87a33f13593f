import Pardosa.File.Creation
import Pardosa.Nats.Divergence
import Pardosa.Store.EngineAgreement
import Pardosa.Store.EngineRecovery

/-!
# The adapters agree

A session that nobody disturbs is the same over a file, over JetStream and over the
engine in memory that the store's own tests run on: every call returns the same, and the
same frames are left. The engines differ in how they number the blocks they have landed,
and the store looks at none of these numbers.
-/

namespace Pardosa

open Foundation

section Sessions

variable [Digests]

omit [Digests] in
/-- In a world without operations, a program runs to its value. -/
theorem stillValue_of_runs {α : Type} {program : Program noOperations α} {value : α}
    (runs : program.Runs stillWorld () value ()) : stillValue program = value := by
  cases program with
  | ret found =>
      cases runs
      rfl
  | call op next => exact op.elim

omit [Digests] in
/-- Every handler of no operations evaluates to that value. -/
theorem evaluate_still {α : Type} (handler : Handler noOperations Unit)
    (program : Program noOperations α) :
    program.evaluate handler () = (stillValue program, ()) := by
  cases program with
  | ret value => rfl
  | call op next => exact op.elim

omit [Digests] in
/-- Without outside operations, a program ends in what it owes. -/
theorem runs_of_wp_still {α : Type} {program : Program noOperations α} {value : α}
    (owed : program.wp stillWorld (fun result _ => result = value) ()) :
    program.Runs stillWorld () value () := by
  have runs := runs_stillValue program
  rwa [Program.wp_of_runs runs owed] at runs

namespace InMemoryEngine

/-- An engine over the blocks of some frames. -/
def holding (epoch : UInt64) (frames : List Bytes) : InMemoryEngine :=
  { new epoch with blocks := frames.map ContainerFrame.frameBytes }

variable {epoch : UInt64} {frames : List Bytes} (fits : ∀ frame ∈ frames, frame.length ≤ u32Max)

omit fits in
/-- An append adds a frame. -/
theorem appended_holding (payload : Bytes) :
    (InMemoryEngine.appendBlock (ContainerFrame.frameBytes payload) (holding epoch frames)).2 =
      holding epoch (frames ++ [payload]) := by
  simp [holding, appendBlock, checkAuthority, reached, new]

include fits

/-- An in-memory engine that holds frames reads them all. -/
theorem readAll_holding :
    readAll (holding epoch frames) = .ret (.ok frames, holding epoch frames) := by
  rw [← payloadsOf_frames fits]
  rfl

/-- Every run of that read ends so. -/
theorem runs_readAll :
    readAll.Runs stillWorld (holding epoch frames) () (.ok frames) (holding epoch frames) () := by
  unfold Action.Runs
  rw [readAll_holding fits]
  exact .ret

/-- A chunk of them is read as the chunk of the list. -/
theorem readChunk_holding (startIndex maxItems : Nat) :
    readChunk startIndex maxItems (holding epoch frames) =
      .ret (.ok (chunkOf frames startIndex maxItems), holding epoch frames) := by
  unfold readChunk chunkOfAll
  split_ifs with none
  · rw [chunkOf, if_pos none]
    rfl
  · rw [Action.bind_of_ok (readAll_holding fits)]
    rfl

/-- Every run of the chunk read ends so. -/
theorem runs_readChunk (startIndex maxItems : Nat) :
    (readChunk startIndex maxItems).Runs stillWorld (holding epoch frames) ()
      (.ok (chunkOf frames startIndex maxItems)) (holding epoch frames) () := by
  unfold Action.Runs
  rw [readChunk_holding fits]
  exact .ret

/-- Recovery hands over the frames. -/
theorem runs_recoverFrames {σ : Type} (onFrame : FrameRecoveryCallback σ) (captured : σ) :
    (StorageEngine.recoverFrames 64 onFrame).Runs stillWorld (holding epoch frames, captured) ()
      (deliverFrames onFrame 0 frames captured).1
      (holding epoch frames, (deliverFrames onFrame 0 frames captured).2) () := by
  have reads : ∀ startIndex engine (world : Unit), engine = holding epoch frames →
      (readChunk startIndex (max 64 1)).wp stillWorld (fun outcome after _ =>
        outcome = .ok (chunkOf frames startIndex (max 64 1)) ∧ after = holding epoch frames)
        engine world := by
    rintro startIndex _ world rfl
    unfold Action.wp
    rw [readChunk_holding fits]
    exact ⟨rfl, rfl⟩
  have enough : frames.length < 0 + ((holding epoch frames).blocks.length + 1) := by
    simp [holding]
  refine runs_of_wp_still (Program.wp_mono (wp_recoverChunks (by omega) reads enough rfl) ?_)
  rintro ⟨outcome, after, passed⟩ _ ⟨delivered, kept⟩
  rw [List.drop_zero] at delivered
  rw [← delivered, ← kept]

/-- Opening a writer starts a session over the frames. -/
theorem stillValue_openWriter : stillValue (Store.openWriter (holding epoch frames)) =
    ((SessionIndex.buildFromFrames frames).map fun index =>
      (⟨holding epoch frames, RollingCommitment.new.absorb frames, index, none, false, none⟩ :
        Store InMemoryEngine), holding epoch frames) := by
  let handler : Handler noOperations Unit := fun op => op.elim
  have recovers : (StorageEngine.recoverFrames 64 Store.recoverFrame
      (holding epoch frames, .new, .new)).evaluate handler () = _ :=
    (evaluate_still handler _).trans (congrArg (·, ())
      (stillValue_of_runs (runs_recoverFrames fits Store.recoverFrame (.new, .new))))
  have opened := Store.evaluate_openWriter fits recovers
  rw [evaluate_still] at opened
  exact congrArg Prod.fst opened

end InMemoryEngine

/-- What admits a writer is in the ownership record, not in the event data. -/
theorem AdmitsWriter.update_pgno {world : FileWorld} {epoch : UInt64}
    (admits : AdmitsWriter world epoch) (file : FileState) :
    AdmitsWriter (Function.update world .pgnoFile file) epoch := by
  unfold AdmitsWriter at admits ⊢
  rwa [Function.update_of_ne (by decide)]

namespace FileEngine

/-- An engine that is told to simulate nothing, over the container of some frames, and
with an ownership record that admits its epoch. -/
structure Serves (frames : List Bytes) (engine : FileEngine) (world : FileWorld) : Prop where
  certain : engine.uncertain = false
  untold : engine.uncertainDiagnostic = none
  excluding : engine.lacksExclusion = false
  opened : engine.file = true
  determinate : engine.simulateIndeterminate = false
  unlimited : engine.undeterminedAfterNBlocks = none
  unfailing : engine.failAfterNBlocks = none
  writes : engine.simulateWriteError = false
  syncs : engine.simulateSyncError = false
  admits : AdmitsWriter world engine.carriedEpoch
  fits : ∀ frame ∈ frames, frame.length ≤ u32Max
  stands : (world .pgnoFile).content = some (containerBytes frames)

namespace Serves

variable {frames : List Bytes} {engine : FileEngine} {world : FileWorld}
  (serves : Serves frames engine world)

include serves

/-- A serving engine is not told to simulate an outcome. -/
theorem settled : engine.checkAppendSimulation = (.ok none, engine) := by
  unfold checkAppendSimulation reached
  rw [serves.determinate, serves.unlimited, serves.unfailing]
  rfl

/-- A serving engine is ready to append. -/
theorem ready : engine.Ready :=
  ⟨serves.certain, serves.excluding, serves.opened, serves.settled, serves.writes, serves.syncs⟩

/-- An engine goes on serving while event data and record stand. -/
theorem moved {later : FileWorld}
    (kept : (later .pgnoFile).content = (world .pgnoFile).content)
    (admits : AdmitsWriter later engine.carriedEpoch) : Serves frames engine later :=
  { serves with admits, stands := kept.trans serves.stands }

/-- The scans of a read leave the container as it is. -/
theorem scanned : Serves frames engine (Function.update world .pgnoFile
    ⟨some (containerBytes frames), (containerBytes frames).length⟩) := by
  refine serves.moved ?_ (serves.admits.update_pgno _)
  rw [Function.update_self, serves.stands]

/-- A serving engine has authority. -/
theorem evaluate_checkAuthority : ∃ later, (FileEngine.checkAuthority engine).evaluate fileHandler
    world = ((.ok (), engine), later) ∧ Serves frames engine later := by
  obtain ⟨later, authorized, kept, admits⟩ :=
    FileEngine.evaluate_checkAuthority serves.certain serves.excluding serves.admits
  exact ⟨later, authorized, serves.moved (congrArg FileState.content kept) admits⟩

/-- Its artefact is not retired. -/
theorem evaluate_isRetired : ∃ later, isRetired.evaluate fileHandler world = (.ok false, later) ∧
    Serves frames engine later := by
  obtain ⟨records, decoded, claim, descriptor, admitted, fits, stands, known, active, rest⟩ :=
    serves.admits
  obtain ⟨later, read, kept, recorded⟩ := evaluate_readMetaRecords () fits stands
  refine ⟨later, ?_, serves.moved (congrArg FileState.content kept)
    ⟨records, decoded, claim, descriptor, admitted, fits, recorded, known, active, rest⟩⟩
  unfold isRetired
  rw [Program.evaluate_bind, read, known]
  simp [Program.evaluate, Except.map, active]

/-- It synchronizes. -/
theorem evaluate_sync : ∃ later, (FileEngine.sync engine).evaluate fileHandler world =
    ((.ok (), engine), later) ∧ Serves frames engine later := by
  obtain ⟨later, authorized, serves⟩ := serves.evaluate_checkAuthority
  refine ⟨later, ?_, serves⟩
  unfold FileEngine.sync
  rw [Action.evaluate_bind authorized, Action.evaluate_bind rfl, if_pos serves.opened,
    Action.evaluate_bind (Action.evaluate_lift
      (FileStorageAdapter.evaluate_syncData .pgnoFile later) engine)]
  rfl

/-- It lands the frame of a payload that fits, and then serves one more. -/
theorem evaluate_appendBlock {payload : Bytes} (fits : payload.length ≤ u32Max) :
    ∃ later, (FileEngine.appendBlock (ContainerFrame.frameBytes payload) engine).evaluate
      fileHandler world = ((.ok (.landed (engine.frameCount + 1)),
        { engine with frameCount := engine.frameCount + 1 }), later) ∧
      Serves (frames ++ [payload]) { engine with frameCount := engine.frameCount + 1 } later := by
  obtain ⟨later, appended, arrived, admits⟩ := FileEngine.evaluate_appendBlock
    (ContainerFrame.frameBytes payload) serves.ready serves.admits serves.stands
  refine ⟨later, appended, { serves with admits, fits := ?_, stands := ?_ }⟩
  · exact List.forall_mem_append.mpr ⟨serves.fits, List.forall_mem_singleton.mpr fits⟩
  · rw [arrived, ← framesBytes_singleton, ← containerBytes_append]

/-- It reads all its frames. -/
theorem evaluate_readAll : (FileEngine.readAll engine).evaluate fileHandler world =
    ((.ok frames, { engine with readAllCount := engine.readAllCount + 1 }),
      Function.update world .pgnoFile
        ⟨some (containerBytes frames), (containerBytes frames).length⟩) := by
  unfold FileEngine.readAll
  rw [Action.evaluate_bind rfl, Action.evaluate_bind rfl, if_neg (by simp [serves.opened]),
    Action.evaluate_bind (evaluate_scanClean _ serves.fits serves.stands)]
  rfl

end Serves

/-- A file engine and an engine in memory over the same frames. -/
def Mirrored (_room : Nat) (engine : FileEngine) (world : FileWorld) (memory : InMemoryEngine)
    (_ : Unit) : Prop :=
  ∃ frames, Serves frames engine world ∧ memory = .holding engine.carriedEpoch frames

/-- The file engine reads what its in-memory mirror reads. -/
theorem leads_readAll {room : Nat} {engine : FileEngine} {world : FileWorld}
    {memory : InMemoryEngine} {other : Unit} (paired : Mirrored room engine world memory other) :
    StorageEngine.readAll.Leads fileHandler.setting stillWorld (fun _ => Mirrored room)
      StorageEngine.readAll engine world memory other := by
  obtain ⟨frames, serves, rfl⟩ := paired
  exact Action.leads_of_evaluate serves.evaluate_readAll (InMemoryEngine.runs_readAll serves.fits)
    ⟨frames, { serves.scanned with }, rfl⟩

/-- An undisturbed file engine does what the engine in memory does. -/
theorem agree : StorageEngine.Agree fileHandler.setting stillWorld Mirrored where
  fewer paired := paired
  uncertainDiagnostic := by
    rintro room engine world _ other ⟨frames, serves, rfl⟩
    exact serves.untold.symm
  checkAuthority := by
    rintro room engine world _ other ⟨frames, serves, rfl⟩
    obtain ⟨later, authorized, kept⟩ := serves.evaluate_checkAuthority
    refine Program.leads_handler_iff.mpr ⟨_, other, .ret, ?_⟩
    have checked : (StorageEngine.checkAuthority engine).evaluate fileHandler world =
        (.ok (), later) := by
      refine (Program.evaluate_bind ..).trans ?_
      rw [authorized]
      rfl
    rw [checked]
    exact ⟨rfl, frames, kept, rfl⟩
  isRetired := by
    rintro room engine world _ other ⟨frames, serves, rfl⟩
    obtain ⟨later, told, kept⟩ := serves.evaluate_isRetired
    have answered : (StorageEngine.isRetired engine).evaluate fileHandler world =
        (.ok false, later) := told
    refine Program.leads_handler_iff.mpr ⟨_, other, .ret, ?_⟩
    rw [answered]
    exact ⟨rfl, frames, kept, rfl⟩
  appendBlock := by
    rintro room engine world _ other payload fits ⟨frames, serves, rfl⟩
    obtain ⟨later, appended, kept⟩ := serves.evaluate_appendBlock fits
    have landed : (StorageEngine.appendBlock (ContainerFrame.frameBytes payload) engine).evaluate
        fileHandler world = ((.ok (.landed (engine.frameCount + 1)),
          { engine with frameCount := engine.frameCount + 1 }), later) := appended
    refine Program.leads_handler_iff.mpr ⟨_, other, .ret, ?_⟩
    rw [landed]
    exact ⟨rfl, frames ++ [payload], kept, InMemoryEngine.appended_holding ..⟩
  readAll := leads_readAll
  readChunk paired := leads_chunkOfAll _ _ paired (leads_readAll paired)
  recoverFrames := by
    rintro room engine world _ other σ onFrame captured ⟨frames, serves, rfl⟩
    exact Action.leads_of_evaluate
      (evaluate_recoverFrames onFrame captured serves.opened serves.fits serves.stands)
      (InMemoryEngine.runs_recoverFrames serves.fits onFrame captured)
      ⟨rfl, frames, { serves.scanned with }, rfl⟩
  sync := by
    rintro room engine world _ other ⟨frames, serves, rfl⟩
    obtain ⟨later, synced, kept⟩ := serves.evaluate_sync
    exact Action.leads_of_evaluate synced .ret ⟨frames, kept, rfl⟩

end FileEngine

namespace NatsEngine

/-- The meta stream carries an ownership record that admits a writer of an epoch. -/
def AdmitsWriter (broker : Broker) (epoch : UInt64) : Prop :=
  ∃ payloads records claim, (∀ payload ∈ payloads, payload.length ≤ u32Max) ∧
    broker.streams .metaStream = some (Broker.framedMessages payloads) ∧
    MetaRecords.ofFrames payloads = .ok records ∧ records.outboundPointer = none ∧
    records.latestClaim = some claim ∧ claim.epoch = epoch

/-- The engine behind the landing of a block. -/
def landed (engine : NatsEngine) (sequence : Nat) : NatsEngine :=
  { engine with lastDataSeq := sequence, dataEventsLanded := true }

/-- An engine that is told to simulate nothing, over the stream of some frames, and with
an ownership record that admits its epoch. -/
structure Serves (adapter : NatsStorageAdapter) (frames : List Bytes) (engine : NatsEngine)
    (broker : Broker) : Prop where
  certain : engine.uncertain = false
  untold : engine.uncertainDiagnostic = none
  determinate : engine.simulateIndeterminate = false
  metaNamed : engine.metaStreamName = adapter.metaStreamName
  dataNamed : engine.dataStreamName = adapter.dataStreamName
  current : engine.lastDataSeq = frames.length + 1
  admits : AdmitsWriter broker engine.carriedEpoch
  fits : ∀ frame ∈ frames, frame.length ≤ u32Max
  stands : broker.streams .dataStream = some (Broker.framedMessages frames)

namespace Serves

variable {adapter : NatsStorageAdapter} {frames : List Bytes} {engine : NatsEngine}
  {broker : Broker} (serves : Serves adapter frames engine broker)

include serves

/-- A recovery tells the engine what it knows. -/
theorem behindRecovery (outcome : Except OperationFailure Nat) :
    engine.behindRecovery (frames.length + 1) outcome = engine := by
  cases outcome with
  | error failure => rfl
  | ok total =>
      unfold NatsEngine.behindRecovery
      rw [← serves.current]

/-- The JetStream engine recovers the frames it serves, in order. -/
theorem evaluate_recoverFrames {σ : Type} (onFrame : FrameRecoveryCallback σ) (captured : σ) :
    (NatsEngine.recoverFrames 64 onFrame (engine, captured)).evaluate (promptBroker adapter)
        broker =
      (((deliverFrames onFrame 0 frames captured).1, engine,
        (deliverFrames onFrame 0 frames captured).2), broker) := by
  have avoids : ∀ chunks, 2 + max 64 1 * chunks + (max 64 1 - 1) ≠ u64Max := by
    intro chunks
    rw [Nat.max_eq_left (by decide)]
    unfold u64Max
    omega
  have recovered := evaluate_recoverFrames_within adapter engine 64 onFrame captured serves.fits
    serves.stands (.inr avoids)
  rwa [serves.behindRecovery] at recovered

/-- A writer opens over them as the index does. -/
theorem evaluate_openWriter : (Store.openWriter engine).evaluate (promptBroker adapter) broker =
    (((SessionIndex.buildFromFrames frames).map fun index =>
      (⟨engine, RollingCommitment.new.absorb frames, index, none, false, none⟩ :
        Store NatsEngine), engine), broker) :=
  Store.evaluate_openWriter serves.fits
    (serves.evaluate_recoverFrames Store.recoverFrame (.new, .new))

/-- A serving JetStream engine has authority. -/
theorem evaluate_checkAuthority : (NatsEngine.checkAuthority engine).evaluate (promptBroker adapter)
    broker = ((.ok (), engine), broker) := by
  obtain ⟨payloads, records, claim, fits, recorded, known, active, claimed, carried⟩ :=
    serves.admits
  rw [NatsEngine.evaluate_checkAuthority adapter serves.metaNamed serves.certain fits recorded known
    active claimed]
  exact Action.evaluate_refuseIf (not_not_intro carried) _ _

/-- Its artefact is not retired. -/
theorem evaluate_isRetired : (NatsEngine.isRetired engine).evaluate (promptBroker adapter) broker =
    (.ok false, broker) := by
  obtain ⟨payloads, records, claim, fits, recorded, known, active, -, -⟩ := serves.admits
  obtain ⟨outcome, read, found⟩ :=
    NatsStorageAdapter.evaluate_framedRecords adapter () fits recorded
  rw [known] at found
  cases outcome with
  | error failure => cases found
  | ok seen =>
      cases found
      unfold NatsEngine.isRetired
      rw [serves.metaNamed, Program.evaluate_bind, read]
      simp [Program.evaluate, Except.map, active]

/-- It flushes. -/
theorem evaluate_sync : (NatsEngine.sync engine).evaluate (promptBroker adapter) broker =
    ((.ok (), engine), broker) := by
  unfold NatsEngine.sync
  rw [Action.evaluate_bind serves.evaluate_checkAuthority]
  rfl

/-- A block is published behind the last message, and acknowledged. -/
theorem evaluate_publishBlock (block : Bytes) :
    (engine.publishBlock block).evaluate (promptBroker adapter) broker =
      (.ok (.landed ⟨adapter.dataStreamName, frames.length + 2⟩, none),
        broker.taken .dataStream (some (frames.length + 1)) block) := by
  have long : (Broker.framedMessages frames).length = frames.length + 1 := by
    simp [Broker.framedMessages]
  have acknowledged := Broker.acknowledges_taken serves.stands block adapter.streamName
  rw [long] at acknowledged
  have awaited : (engine.awaitLanding broker.publishes.length).evaluate (promptBroker adapter)
      (broker.taken .dataStream (some (frames.length + 1)) block) =
        (.ok (.landed ⟨adapter.dataStreamName, frames.length + 2⟩, none),
          broker.taken .dataStream (some (frames.length + 1)) block) := by
    have answered : (NatsOp.send (.awaitAckWithinTimeout broker.publishes.length)).evaluate
        (promptBroker adapter) (broker.taken .dataStream (some (frames.length + 1)) block) =
          (some (.ok ⟨adapter.dataStreamName, frames.length + 2⟩),
            broker.taken .dataStream (some (frames.length + 1)) block) :=
      congrArg (some ·, broker.taken .dataStream (some (frames.length + 1)) block) acknowledged
    unfold NatsEngine.awaitLanding
    rw [Program.evaluate_bind, answered]
    rfl
  unfold NatsEngine.publishBlock
  rw [serves.current]
  exact awaited

/-- An append lands behind the last message, as long as there is a sequence for it. -/
theorem evaluate_appendBlock {payload : Bytes} (fits : payload.length ≤ u32Max)
    (room : frames.length + 1 < u64Max) :
    let later := broker.taken .dataStream (some (frames.length + 1))
      (ContainerFrame.frameBytes payload)
    (NatsEngine.appendBlock (ContainerFrame.frameBytes payload) engine).evaluate
        (promptBroker adapter) broker =
      ((.ok (.landed (frames.length + 2)), engine.landed (frames.length + 2)), later) ∧
    Serves adapter (frames ++ [payload]) (engine.landed (frames.length + 2)) later := by
  have long : (Broker.framedMessages frames).length = frames.length + 1 := by
    simp [Broker.framedMessages]
  have streams := Broker.streams_taken serves.stands (ContainerFrame.frameBytes payload)
  rw [long] at streams
  refine ⟨?_, { serves with current := ?_, admits := ?_, fits := ?_, stands := ?_ }⟩
  · unfold NatsEngine.appendBlock
    rw [Action.evaluate_bind (Action.evaluate_attempt serves.evaluate_checkAuthority)]
    dsimp only
    unfold landBlock
    rw [Action.evaluate_bind rfl, if_neg (by simp [serves.determinate]),
      Action.evaluate_bind (Action.evaluate_refuseIf (by rw [serves.current]; omega) _ _),
      Action.evaluate_bind (Action.evaluate_lift (serves.evaluate_publishBlock _) engine)]
    unfold settlePublish
    rw [Action.evaluate_bind rfl, if_neg (by simp [serves.dataNamed])]
    rfl
  · simp [landed]
  · obtain ⟨payloads, records, claim, fits, recorded, rest⟩ := serves.admits
    refine ⟨payloads, records, claim, fits, ?_, rest⟩
    rw [streams, Function.update_of_ne (by decide), recorded]
  · exact List.forall_mem_append.mpr ⟨serves.fits, List.forall_mem_singleton.mpr fits⟩
  · rw [streams, Function.update_self]
    simp [Broker.framedMessages]

end Serves

/-- A JetStream engine and an engine in memory over the same frames, with sequences left
for so many further ones. -/
def Mirrored (adapter : NatsStorageAdapter) (room : Nat) (engine : NatsEngine) (broker : Broker)
    (memory : InMemoryEngine) (_ : Unit) : Prop :=
  ∃ frames, Serves adapter frames engine broker ∧ frames.length + 1 + room ≤ u64Max ∧
    memory = .holding engine.carriedEpoch frames

/-- An undisturbed JetStream engine does what the engine in memory does. -/
theorem agree (adapter : NatsStorageAdapter) :
    StorageEngine.Agree (promptBroker adapter).setting stillWorld (Mirrored adapter) where
  fewer := by
    rintro room engine broker memory other ⟨frames, serves, left, same⟩
    exact ⟨frames, serves, by omega, same⟩
  uncertainDiagnostic := by
    rintro room engine broker _ other ⟨frames, serves, -, rfl⟩
    exact serves.untold.symm
  checkAuthority := by
    rintro room engine broker _ other ⟨frames, serves, left, rfl⟩
    refine Program.leads_handler_iff.mpr ⟨_, other, .ret, ?_⟩
    have checked : (StorageEngine.checkAuthority engine).evaluate (promptBroker adapter) broker =
        (.ok (), broker) := by
      refine (Program.evaluate_bind ..).trans ?_
      rw [serves.evaluate_checkAuthority]
      rfl
    rw [checked]
    exact ⟨rfl, frames, serves, left, rfl⟩
  isRetired := by
    rintro room engine broker _ other ⟨frames, serves, left, rfl⟩
    have answered : (StorageEngine.isRetired engine).evaluate (promptBroker adapter) broker =
        (.ok false, broker) := serves.evaluate_isRetired
    refine Program.leads_handler_iff.mpr ⟨_, other, .ret, ?_⟩
    rw [answered]
    exact ⟨rfl, frames, serves, left, rfl⟩
  appendBlock := by
    rintro room engine broker _ other payload fits ⟨frames, serves, left, rfl⟩
    obtain ⟨appended, kept⟩ := serves.evaluate_appendBlock fits (by omega)
    have landed : (StorageEngine.appendBlock (ContainerFrame.frameBytes payload) engine).evaluate
        (promptBroker adapter) broker =
          ((.ok (.landed (frames.length + 2)), engine.landed (frames.length + 2)), _) :=
      appended
    refine Program.leads_handler_iff.mpr ⟨_, other, .ret, ?_⟩
    rw [landed]
    refine ⟨rfl, frames ++ [payload], kept, ?_, InMemoryEngine.appended_holding ..⟩
    rw [List.length_append, List.length_singleton]
    omega
  readAll := by
    rintro room engine broker _ other ⟨frames, serves, left, rfl⟩
    exact Action.leads_of_evaluate (evaluate_readAll adapter serves.fits serves.stands engine)
      (InMemoryEngine.runs_readAll serves.fits) ⟨frames, { serves with }, left, rfl⟩
  readChunk := by
    rintro room engine broker _ other startIndex maxItems ⟨frames, serves, left, rfl⟩
    have read := evaluate_readChunk adapter serves.fits serves.stands (by omega) engine startIndex
      maxItems
    have same : (frames.drop startIndex).take maxItems = chunkOf frames startIndex maxItems := by
      rcases Nat.eq_zero_or_pos maxItems with rfl | some
      · rfl
      · exact (chunkOf_eq frames startIndex some).symm
    rw [same] at read
    exact Action.leads_of_evaluate read
      (InMemoryEngine.runs_readChunk serves.fits startIndex maxItems) ⟨frames, serves, left, rfl⟩
  recoverFrames := by
    rintro room engine broker _ other σ onFrame captured ⟨frames, serves, left, rfl⟩
    exact Action.leads_of_evaluate (serves.evaluate_recoverFrames onFrame captured)
      (InMemoryEngine.runs_recoverFrames serves.fits onFrame captured)
      ⟨rfl, frames, serves, left, rfl⟩
  sync := by
    rintro room engine broker _ other ⟨frames, serves, left, rfl⟩
    exact Action.leads_of_evaluate serves.evaluate_sync .ret ⟨frames, serves, left, rfl⟩

end NatsEngine

section Openings

omit [Digests] in
/-- A refusal stays away exactly when its condition fails. -/
theorem refusedWhen_eq_ok {holds : Prop} [Decidable holds] {condition : FailureCondition}
    {value : Unit} : refusedWhen holds condition = .ok value ↔ ¬holds := by
  unfold refusedWhen
  split_ifs with met <;> simp [met]

/-- Records that admit a writer carry all that a session asks of them. -/
theorem MetaRecords.admitsWriter_ok {records : MetaRecords} {epoch : UInt64}
    (admits : records.admitsWriter epoch = .ok ()) : records.outboundPointer = none ∧
      (∃ descriptor admitted, records.schemaDescriptor = some descriptor ∧
        AdmittedDescriptor.tryFromDescriptor descriptor = .ok admitted) ∧
      ∃ claim, records.latestClaim = some claim ∧ claim.epoch = epoch := by
  unfold MetaRecords.admitsWriter MetaRecords.describes at admits
  simp only [bind_eq_ok, refusedWhen_eq_ok, requiredOr_eq_ok, mapError_eq_ok] at admits
  obtain ⟨_, active, _, ⟨descriptor, described, admitted, accepts, -⟩, claim, claimed, current⟩ :=
    admits
  refine ⟨by simpa using active, ⟨descriptor, admitted, described, accepts⟩, claim, claimed, ?_⟩
  exact not_not.mp current

/-- A complete artefact that admits a writer: its records are read and admit the writer,
and its events are indexed. -/
theorem Artefact.writeVerdict_ok {payloads events : List Bytes} {epoch : UInt64}
    {derived : SessionIndex × RollingCommitment}
    (verdict : Artefact.writeVerdict ⟨some payloads, some events⟩ epoch = .ok derived) :
    ∃ records index, MetaRecords.ofFrames payloads = .ok records ∧
      records.admitsWriter epoch = .ok () ∧ SessionIndex.buildFromFrames events = .ok index := by
  unfold Artefact.writeVerdict conditionOf at verdict
  simp only [bind_eq_ok, mapError_eq_ok] at verdict
  obtain ⟨records, decoded, _, admits, index, built, -⟩ := verdict
  exact ⟨records, index, decoded, admits, built⟩

omit [Digests] in
/-- A check that settles with a value leaves the state and the world. -/
theorem evaluate_of_settles {S : Signature} {World σ α : Type} {handler : Handler S World}
    {action : Action S OperationFailure σ α} {value : α} (settles : Settles action (.ok value))
    (state : σ) (world : World) :
    (action state).evaluate handler world = ((.ok value, state), world) := by
  obtain ⟨outcome, decides, decided⟩ := settles
  rw [decides]
  cases outcome with
  | error failure => cases decided
  | ok found =>
      cases decided
      rfl

/-- Opening a writer leaves the container behind a scan. -/
theorem FileEngine.evaluate_openWriter_scanned {engine : FileEngine} {world : FileWorld}
    {events : List Bytes} (opened : engine.file = true)
    (fits : ∀ event ∈ events, event.length ≤ u32Max)
    (stands : (world .pgnoFile).content = some (containerBytes events)) :
    (Store.openWriter engine).evaluate fileHandler world =
      (((SessionIndex.buildFromFrames events).map fun index =>
        (⟨{ engine with frameCount := events.length }, RollingCommitment.new.absorb events,
          index, none, false, none⟩ : Store FileEngine),
        { engine with frameCount := events.length }), Function.update world .pgnoFile
          ⟨some (containerBytes events), (containerBytes events).length⟩) :=
  Store.evaluate_openWriter fits
    (evaluate_recoverFrames Store.recoverFrame (.new, .new) opened fits stands)

variable {payloads events : List Bytes} {records : MetaRecords} {epoch : UInt64}
  {index : SessionIndex} (recordsFit : ∀ payload ∈ payloads, payload.length ≤ u32Max)
  (fits : ∀ event ∈ events, event.length ≤ u32Max)
  (decoded : MetaRecords.ofFrames payloads = .ok records)
  (admits : records.admitsWriter epoch = .ok ())
  (built : SessionIndex.buildFromFrames events = .ok index)

include recordsFit fits decoded admits built

/-- Opening the files of a complete artefact starts a session over its events. -/
theorem FileStorageAdapter.evaluate_openWrite_serves {files : FileStorageAdapter}
    {world : FileWorld} (standard : files.exclusionPolicy = .standard)
    (recorded : (world .metaFile).content = some (containerBytes payloads))
    (stored : (world .pgnoFile).content = some (containerBytes events)) :
    ∃ engine later, (files.openWrite epoch ()).evaluate fileHandler world =
        ((.ok ⟨engine, RollingCommitment.new.absorb events, index, none, false, none⟩, ()), later) ∧
      FileEngine.Serves events engine later ∧ engine.carriedEpoch = epoch := by
  obtain ⟨active, ⟨descriptor, admitted, described, accepts⟩, claim, claimed, current⟩ :=
    MetaRecords.admitsWriter_ok admits
  have present : (files.tryPresence ()).evaluate fileHandler world = ((.ok .both, ()), world) := by
    rw [FileStorageAdapter.evaluate_tryPresence, recorded, stored]
    rfl
  have proceeds : (files.checkOpenWritePresence epoch ()).evaluate fileHandler world =
      ((.ok none, ()), world) := by
    unfold FileStorageAdapter.checkOpenWritePresence
    rw [Action.evaluate_bind present]
    rfl
  have opens : (FileRequest.send .openFile .pgnoFile).evaluate fileHandler world =
      (.ok (), Function.update world .pgnoFile ⟨some (containerBytes events), 0⟩) := by
    rw [evaluate_send]
    simp only [FileRequest.serve, FileState.present, stored]
  have metaKept : (Function.update world .pgnoFile ⟨some (containerBytes events), 0⟩
      .metaFile).content = some (containerBytes payloads) := by
    rw [Function.update_of_ne (by decide), recorded]
  obtain ⟨later, read, kept, metaRead⟩ := evaluate_readMetaRecords () recordsFit metaKept
  rw [decoded] at read
  have still : (later .pgnoFile).content = some (containerBytes events) := by
    rw [kept, Function.update_self]
  have permitted : AdmitsWriter later epoch :=
    ⟨payloads, records, claim, descriptor, admitted, recordsFit, metaRead, decoded, active,
      described, accepts, claimed, current⟩
  have checked : (admitRecords records epoch ()).evaluate fileHandler later =
      ((.ok (), ()), later) :=
    evaluate_of_settles (admits ▸ FileStorageAdapter.admitRecords_settles records epoch) () later
  obtain ⟨recovered, position, reconciled⟩ :=
    evaluate_scanAndReconcile () still (scanContainer_clean fits)
  rw [List.take_length] at reconciled
  have left : (Function.update later .pgnoFile ⟨some (containerBytes events), position⟩
      .pgnoFile).content = some (containerBytes events) := by
    rw [Function.update_self]
  have opened := FileEngine.evaluate_openWriter_scanned
    (rfl : (files.engine epoch events.length recovered).file = true) fits left
  rw [built, Function.update_idem] at opened
  refine ⟨files.engine epoch events.length recovered, Function.update later .pgnoFile
    ⟨some (containerBytes events), (containerBytes events).length⟩, ?_, ?_, rfl⟩
  · unfold FileStorageAdapter.openWrite
    rw [Action.evaluate_bind proceeds]
    dsimp only
    unfold FileStorageAdapter.openLocked
    rw [Action.evaluate_bind (evaluate_orRefuse opens), standard,
      Action.evaluate_bind (evaluate_acquireFileExclusion () _), Action.evaluate_bind read,
      Action.evaluate_bind checked, Action.evaluate_bind reconciled]
    exact Action.evaluate_within opened ()
  · refine ⟨rfl, rfl, ?_, rfl, rfl, rfl, rfl, rfl, rfl, permitted.update_pgno _, fits, ?_⟩
    · simp [FileEngine.lacksExclusion, FileStorageAdapter.engine, standard]
    · rw [Function.update_self]

/-- Opening the streams of a complete artefact starts a session over its events. -/
theorem NatsStorageAdapter.evaluate_openWrite_serves {streams : NatsStorageAdapter}
    {broker : Broker}
    (recorded : broker.streams .metaStream = some (Broker.framedMessages payloads))
    (stored : broker.streams .dataStream = some (Broker.framedMessages events)) :
    ∃ engine, (streams.openWrite epoch ()).evaluate (promptBroker streams) broker =
        ((.ok ⟨engine, RollingCommitment.new.absorb events, index, none, false, none⟩, ()),
          broker) ∧
      NatsEngine.Serves streams events engine broker ∧ engine.carriedEpoch = epoch := by
  obtain ⟨active, -, claim, claimed, current⟩ := MetaRecords.admitsWriter_ok admits
  have present : (streams.tryPresence ()).evaluate (promptBroker streams) broker =
      ((.ok .both, ()), broker) := by
    rw [evaluate_tryPresence, recorded, stored]
    rfl
  obtain ⟨outcome, read, found⟩ := evaluate_framedRecords streams () recordsFit recorded
  rw [decoded] at found
  cases outcome with
  | error failure => cases found
  | ok seen =>
      cases found
      have checked : (admitRecords records epoch ()).evaluate (promptBroker streams) broker =
          ((.ok (), ()), broker) :=
        evaluate_of_settles (admits ▸ admitRecords_settles records epoch) () broker
      let engine := streams.engine epoch (events.length + 1) (events.length + 1 > 1)
      have serves : NatsEngine.Serves streams events engine broker :=
        ⟨rfl, rfl, rfl, rfl, rfl, rfl, ⟨payloads, records, claim, recordsFit, recorded, decoded,
          active, claimed, current⟩, fits, stored⟩
      have opened := serves.evaluate_openWriter
      rw [built] at opened
      refine ⟨engine, ?_, serves, rfl⟩
      unfold openWrite
      have resolved : (streams.resolveOpenSubjects .both ()).evaluate (promptBroker streams)
          broker = ((.ok (), ()), broker) :=
        evaluate_resolveOpenSubjects streams () (fun _ => ⟨_, recorded⟩) (fun _ => ⟨_, stored⟩)
      rw [Action.evaluate_bind present, Action.evaluate_bind resolved, Action.evaluate_bind read,
        Action.evaluate_bind checked,
        Action.evaluate_bind (evaluate_dataExtent streams () _ stored)]
      exact Action.evaluate_within opened ()

end Openings

section Agreement

variable {τ : Type}

/-- A session over an engine that agrees with the one in memory returns what it returns
in memory. -/
theorem SessionCall.performAll_alike {S : Signature} {Engine World : Type} [StorageEngine S Engine]
    {handler : Handler S World} {Paired : Nat → Engine → World → InMemoryEngine → Unit → Prop}
    (agree : StorageEngine.Agree handler.setting stillWorld Paired)
    (calls : List (SessionCall Empty τ)) (store : Store Engine) {world : World}
    {memory : InMemoryEngine} (paired : Paired calls.length store.engine world memory ()) :
    ∃ outcomes final engine later,
      stillValue (performAll Empty.elim calls (store.withEngine memory)) = (outcomes, final) ∧
      (performAll Empty.elim calls store).evaluate handler world =
        ((outcomes, final.withEngine engine), later) ∧
      Paired 0 engine later final.engine () := by
  have alike : store.Alike (Paired (0 + calls.length)) world (store.withEngine memory) () := by
    rw [Nat.zero_add]
    exact ⟨memory, rfl, paired⟩
  have leads : (performAll Empty.elim calls store).Leads handler.setting stillWorld _
      (performAll Empty.elim calls (store.withEngine memory)) world () :=
    leads_performAll agree (fun command => command.elim) calls alike
  have led := Program.leads_handler_iff.mp leads
  cases evaluated : (performAll Empty.elim calls store).evaluate handler world with
  | mk result later =>
      rw [evaluated] at led
      obtain ⟨⟨outcomes, _⟩, _, runs, same, twin, rfl, kept⟩ := led
      obtain ⟨returned, last⟩ := result
      cases same
      exact ⟨_, _, last.engine, later, stillValue_of_runs runs, rfl, kept⟩

/-- The adapters serve alike. Over files and streams that hold the same complete artefact,
both refuse to open it under the same condition, or both start a session. Left alone, these
return the same, whatever calls they are given, as a session in memory over the same frames
does: the same verdicts, envelopes, frames and refusals, with the same index, commitment and
diagnostics afterwards. Then all three hold the same frames. -/
theorem adapters_serve_alike {files : FileStorageAdapter} {streams : NatsStorageAdapter}
    {world : FileWorld} {broker : Broker} {payloads events : List Bytes}
    (standard : files.exclusionPolicy = .standard)
    (fits : Artefact.Fits ⟨some payloads, some events⟩)
    (inFiles : world.Holds ⟨some payloads, some events⟩)
    (inStreams : broker.Holds ⟨some payloads, some events⟩) (epoch : UInt64) :
    (∃ failure other : OperationFailure, failure.condition = other.condition ∧
      ((files.openWrite epoch ()).evaluate fileHandler world).1.1 = .error failure ∧
      ((streams.openWrite epoch ()).evaluate (promptBroker streams) broker).1.1 = .error other) ∨
    ∃ onFiles opened onStreams inMemory,
      (files.openWrite epoch ()).evaluate fileHandler world = ((.ok onFiles, ()), opened) ∧
      (streams.openWrite epoch ()).evaluate (promptBroker streams) broker =
        ((.ok onStreams, ()), broker) ∧
      stillValue (Store.openWriter (InMemoryEngine.holding epoch events)) =
        (.ok inMemory, .holding epoch events) ∧
      ∀ calls : List (SessionCall Empty τ), events.length + 1 + calls.length ≤ u64Max →
        ∃ outcomes final kept fileEngine left natsEngine later,
          stillValue (SessionCall.performAll Empty.elim calls inMemory) = (outcomes, final) ∧
          final.engine.blocks = kept.map ContainerFrame.frameBytes ∧
          (SessionCall.performAll Empty.elim calls onFiles).evaluate fileHandler opened =
            ((outcomes, final.withEngine fileEngine), left) ∧
          (left .pgnoFile).content = some (containerBytes kept) ∧
          (SessionCall.performAll Empty.elim calls onStreams).evaluate (promptBroker streams)
              broker = ((outcomes, final.withEngine natsEngine), later) ∧
          later.streams .dataStream = some (Broker.framedMessages kept) := by
  have recordsFit := fits.records payloads rfl
  have eventsFit := fits.events events rfl
  cases verdict : Artefact.writeVerdict ⟨some payloads, some events⟩ epoch with
  | error condition =>
      left
      have refused := FileStorageAdapter.openWrite_verdict standard fits inFiles epoch ()
      have refusedToo := NatsStorageAdapter.openWrite_verdict streams fits inStreams epoch ()
      rw [verdict] at refused refusedToo
      obtain ⟨failure, failed, named⟩ := exists_of_endsAs_error refused
      obtain ⟨other, failedToo, namedToo⟩ := exists_of_endsAs_error refusedToo
      exact ⟨failure, other, named.trans namedToo.symm, failed, failedToo⟩
  | ok derived =>
      right
      obtain ⟨records, index, decoded, admits, built⟩ := Artefact.writeVerdict_ok verdict
      obtain ⟨fileEngine, opened, onFiles, servesFiles, carries⟩ :=
        FileStorageAdapter.evaluate_openWrite_serves recordsFit eventsFit decoded admits built
          standard inFiles.records inFiles.events
      obtain ⟨natsEngine, onStreams, servesStreams, carriesToo⟩ :=
        NatsStorageAdapter.evaluate_openWrite_serves recordsFit eventsFit decoded admits built
          inStreams.records inStreams.events
      have inMemory : stillValue (Store.openWriter (InMemoryEngine.holding epoch events)) = _ :=
        InMemoryEngine.stillValue_openWriter eventsFit
      rw [built] at inMemory
      refine ⟨_, opened, _, _, onFiles, onStreams, inMemory, ?_⟩
      intro calls room
      have paired : FileEngine.Mirrored calls.length fileEngine opened (.holding epoch events) () :=
        ⟨events, servesFiles, by rw [carries]⟩
      have pairedToo : NatsEngine.Mirrored streams calls.length natsEngine broker
          (.holding epoch events) () :=
        ⟨events, servesStreams, room, by rw [carriesToo]⟩
      obtain ⟨outcomes, final, fileEnded, left, returned, onFile, kept, serves, held⟩ :=
        SessionCall.performAll_alike FileEngine.agree calls
          ⟨fileEngine, RollingCommitment.new.absorb events, index, none, false, none⟩ paired
      obtain ⟨_, _, natsEnded, later, returnedToo, onStream, others, servesToo, -, heldToo⟩ :=
        SessionCall.performAll_alike (NatsEngine.agree streams) calls
          ⟨natsEngine, RollingCommitment.new.absorb events, index, none, false, none⟩ pairedToo
      cases returned.symm.trans returnedToo
      have same : kept.map ContainerFrame.frameBytes = others.map ContainerFrame.frameBytes :=
        congrArg InMemoryEngine.blocks (held.symm.trans heldToo)
      have found := InMemoryEngine.payloadsOf_frames serves.fits
      rw [same, InMemoryEngine.payloadsOf_frames servesToo.fits] at found
      cases found
      exact ⟨outcomes, final, kept, fileEnded, left, natsEnded, later, returned,
        congrArg InMemoryEngine.blocks held, onFile, serves.stands, onStream, servesToo.stands⟩

end Agreement

end Sessions

section Example

attribute [local instance] standardDigests

/-- An append, and reading back all frames. -/
def appendedAndRead : List (SessionCall Empty Unit) :=
  [.write (.appendFrame genesisPayload), .read .readAllFrames]

/-- The sessions of the seeded artefact append an event and read it back alike. -/
theorem adapters_serve_alike_seeded : ∃ onFiles opened onStreams outcomes final fileEngine left
    natsEngine later,
    (seededAdapter.openWrite 1 ()).evaluate fileHandler seededFiles = ((.ok onFiles, ()), opened) ∧
    (seededStreams.openWrite 1 ()).evaluate (promptBroker seededStreams) seededBroker =
      ((.ok onStreams, ()), seededBroker) ∧
    (SessionCall.performAll Empty.elim appendedAndRead onFiles).evaluate fileHandler opened =
      ((outcomes, Store.withEngine (final : Store InMemoryEngine) fileEngine), left) ∧
    (SessionCall.performAll Empty.elim appendedAndRead onStreams).evaluate
        (promptBroker seededStreams) seededBroker =
      ((outcomes, final.withEngine natsEngine), later) := by
  have seedsFit : ∀ payload ∈ seedFrames, payload.length ≤ u32Max := by decide +kernel
  have fits : Artefact.Fits ⟨some seedFrames, some []⟩ := by
    constructor
    · rintro _ ⟨⟩
      exact seedsFit
    · rintro _ ⟨⟩ payload ⟨⟩
  have inFiles : seededFiles.Holds ⟨some seedFrames, some []⟩ := ⟨rfl, rfl⟩
  have inStreams : seededBroker.Holds ⟨some seedFrames, some []⟩ := ⟨rfl, rfl⟩
  have seeds : MetaRecords.ofFrames seedFrames =
      .ok ⟨some (bareClaim 1), some ⟨1, .u8⟩, none, none, none, none, none⟩ := by
    decide +kernel
  have verdict : Artefact.writeVerdict ⟨some seedFrames, some []⟩ 1 = .ok (.new, .new) := by
    unfold Artefact.writeVerdict
    dsimp only
    rw [seeds]
    rfl
  have standard : seededAdapter.exclusionPolicy = .standard := rfl
  have opens := FileStorageAdapter.openWrite_verdict standard fits inFiles 1 ()
  rw [verdict] at opens
  obtain ⟨store, found, -⟩ := exists_of_endsAs_ok opens
  rcases adapters_serve_alike standard fits inFiles inStreams 1 with refused | served
  · obtain ⟨failure, other, -, refused, -⟩ := refused
    rw [found] at refused
    cases refused
  · obtain ⟨onFiles, opened, onStreams, inMemory, files, streams, -, serve⟩ := served
    obtain ⟨outcomes, final, kept, fileEngine, left, natsEngine, later, -, -, onFile, -, onStream,
      -⟩ := serve appendedAndRead (by decide)
    exact ⟨onFiles, opened, onStreams, outcomes, final, fileEngine, left, natsEngine, later, files,
      streams, onFile, onStream⟩

end Example

end Pardosa
