import Pardosa.File.CrashSafety
import Pardosa.File.Quiet
import Pardosa.Store.Session

/-!
# Fenced file sessions

An append whose landing is undetermined and a failed synchronization fence the
file engine. Nothing in a session lifts the fence: reads may rebuild the index
and forget a retained break, and the ownership record may change, but no later
call writes, synchronizes or looks up anything.
-/

namespace Pardosa

open Foundation

/-- The controls of a file session. -/
inductive FileControl where
  | simulateIndeterminate (simulate : Bool)
  | simulateSyncError (simulate : Bool)
  | simulateWriteError (simulate : Bool)
  | undeterminedAfterNBlocks (blocks : Nat)
  | failAfterNBlocks (blocks : Nat)
  | releaseExclusion
deriving DecidableEq, Repr

def FileControl.perform : FileControl → Action fileOperations OperationFailure FileEngine Unit
  | .simulateIndeterminate simulate =>
      modify fun engine => { engine with simulateIndeterminate := simulate }
  | .simulateSyncError simulate => modify fun engine =>
    { engine with simulateSyncError := simulate }
  | .simulateWriteError simulate =>
      modify fun engine => { engine with simulateWriteError := simulate }
  | .undeterminedAfterNBlocks blocks =>
      modify fun engine => { engine with undeterminedAfterNBlocks := some blocks }
  | .failAfterNBlocks blocks => modify fun engine => { engine with failAfterNBlocks := some blocks }
  | .releaseExclusion => FileEngine.releaseExclusion

/-- The engine knows that something about its writes is unknown, and says so. -/
def FileEngine.Fenced (engine : FileEngine) : Prop :=
  engine.uncertain = true ∧ engine.uncertainDiagnostic.isSome = true

/-- Fencing fences. -/
theorem FileEngine.fenced_fence (engine : FileEngine) (diagnostic : String) :
    (engine.fence diagnostic).Fenced := ⟨rfl, rfl⟩

section Reads

variable {allows : Option Bytes → Option Bytes → Prop} [Std.Refl allows] {world : FileWorld}
  {σ : Type} {state : σ}

/-- A quiet request to the event data leaves its bytes. -/
theorem wp_send_quiet {request : FileRequest} (quiet : request.isQuiet = true)
    {post : request.Res → FileWorld → Prop}
    (holds : ∀ answer after, (after .pgnoFile).content = (world .pgnoFile).content →
      post answer after) :
    (request.send .pgnoFile).wp (honouring allows) post world := by
  refine wp_send_pgno request ?_
  intro answer file performed
  have kept := FileRequest.performs_quiet quiet performed
  refine ⟨by rw [kept]; exact Std.Refl.refl _, ?_⟩
  rintro after rfl
  exact holds answer after kept

variable [Digests]

/-- Reading the frames leaves the event data as it is. -/
theorem wp_readContainerFrames_quiet
    {post : Except OperationFailure ContainerScan → σ → FileWorld → Prop}
    (holds : ∀ outcome after, (after .pgnoFile).content = (world .pgnoFile).content →
      post outcome state after) :
    (readContainerFrames .pgnoFile).wp (honouring allows) post state world := by
  simp only [readContainerFrames, Action.wp_bind, Action.wp_refuseIf,
    Action.wp_ofExcept]
  refine wp_send_quiet rfl ?_
  rintro (failure | _) first kept
  · exact holds _ _ kept
  refine wp_send_quiet rfl ?_
  rintro (failure | fileLen) second keptSecond
  · exact holds _ _ (keptSecond.trans kept)
  dsimp only [Except.mapError]
  split_ifs with short
  · exact holds _ _ (keptSecond.trans kept)
  refine wp_send_quiet rfl ?_
  rintro (failure | buf) third keptThird
  · exact holds _ _ ((keptThird.trans keptSecond).trans kept)
  dsimp only [Except.mapError]
  split_ifs with cut
  · exact holds _ _ ((keptThird.trans keptSecond).trans kept)
  · exact holds _ _ ((keptThird.trans keptSecond).trans kept)

/-- A reader's scan leaves the bytes, whatever they are. -/
theorem wp_scanClean_quiet {post : Except OperationFailure ContainerScan → σ → FileWorld → Prop}
    (holds : ∀ outcome after, (after .pgnoFile).content = (world .pgnoFile).content →
      post outcome state after) :
    FileEngine.scanClean.wp (honouring allows) post state world := by
  simp only [FileEngine.scanClean, Action.wp_bind, Action.wp_refuseIf]
  refine wp_send_quiet rfl ?_
  rintro (failure | _) first kept
  · exact holds _ _ kept
  refine wp_readContainerFrames_quiet ?_
  rintro (failure | scan) second keptSecond
  · exact holds _ _ (keptSecond.trans kept)
  dsimp only
  split_ifs with torn
  · exact holds _ _ (keptSecond.trans kept)
  refine wp_send_quiet rfl ?_
  rintro (failure | _) third keptThird
  · exact holds _ _ ((keptThird.trans keptSecond).trans kept)
  · exact holds _ _ ((keptThird.trans keptSecond).trans kept)

end Reads

section Fence

variable [Digests] {allows : Option Bytes → Option Bytes → Prop} [Std.Refl allows]
  {content : Option Bytes}

/-- A fenced engine over event data of a known content. -/
def FencedOver (content : Option Bytes) (engine : FileEngine) (world : FileWorld) : Prop :=
  engine.Fenced ∧ (world .pgnoFile).content = content

namespace FileEngine

/-- A read of all frames leaves the engine fenced over its event data. -/
theorem wp_readAll_fenced {engine : FileEngine} {world : FileWorld}
    (fenced : FencedOver content engine world) :
    readAll.wp (honouring allows) (fun _ after later => FencedOver content after later)
      engine world := by
  simp only [readAll, Action.wp_bind, Action.wp_modify, Action.wp_get]
  split_ifs with closed
  · exact fenced
  · simp only [Action.wp_bind]
    refine wp_scanClean_quiet ?_
    rintro (failure | scan) after kept
    · exact ⟨fenced.1, kept.trans fenced.2⟩
    · exact ⟨fenced.1, kept.trans fenced.2⟩

/-- So does the read of a chunk. -/
theorem wp_readChunk_fenced {startIndex maxItems : Nat} {engine : FileEngine} {world : FileWorld}
    (fenced : FencedOver content engine world) :
    (readChunk startIndex maxItems).wp (honouring allows)
      (fun _ after later => FencedOver content after later) engine world := by
  unfold readChunk chunkOfAll
  split_ifs with none
  · exact fenced
  · exact (Action.wp_map _).mpr (wp_readAll_fenced fenced)

/-- So does a recovery. -/
theorem wp_recoverFrames_fenced {σ : Type} (onFrame : FrameRecoveryCallback σ) {engine : FileEngine}
    {captured : σ} {world : FileWorld} (fenced : FencedOver content engine world) :
    (recoverFrames onFrame).wp (honouring allows)
      (fun _ after later => FencedOver content after.1 later) (engine, captured) world := by
  simp only [recoverFrames, Action.wp_bind, Action.wp_get]
  split_ifs with closed
  · exact fenced
  · simp only [Action.wp_bind]
    refine wp_scanClean_quiet ?_
    rintro (failure | scan) after kept
    · exact ⟨fenced.1, kept.trans fenced.2⟩
    · exact ⟨fenced.1, kept.trans fenced.2⟩

/-- Asking whether the artefact is retired leaves the event data as it is. -/
theorem wp_isRetired {world : FileWorld} {post : Except OperationFailure Bool → FileWorld → Prop}
    (holds : ∀ outcome after, after .pgnoFile = world .pgnoFile → post outcome after) :
    isRetired.wp (honouring allows) post world := by
  have read : readMetaRecords.wp (honouring allows)
      (fun _ (_ : Unit) after => after .pgnoFile = world .pgnoFile) () world :=
    wp_readMetaRecords fun _ _ kept => kept
  refine (Program.wp_bind _ _ _ _).mpr (Program.wp_mono read ?_)
  rintro ⟨outcome, _⟩ after kept
  exact holds _ after kept

/-- No read lifts the fence or touches the event data. -/
theorem readsKeep_fenced : ReadsKeep (honouring allows) (FencedOver content) where
  isRetired fenced := by
    refine wp_isRetired ?_
    intro outcome after kept
    exact ⟨fenced.1, (congrArg _ kept).trans fenced.2⟩
  readChunk fenced := wp_readChunk_fenced fenced
  readAll fenced := wp_readAll_fenced fenced
  recoverFrames onFrame := wp_recoverFrames_fenced onFrame

omit [Digests] in
/-- Giving the lock back leaves the engine fenced. -/
theorem wp_releaseExclusion_fenced {engine : FileEngine} {world : FileWorld}
    (fenced : FencedOver content engine world) :
    releaseExclusion.wp (honouring allows) (fun _ after later => FencedOver content after later)
      engine world := by
  simp only [releaseExclusion, Action.wp_bind, Action.wp_get]
  split_ifs with holding
  · simp only [Action.wp_bind]
    refine wp_send_quiet rfl ?_
    rintro (failure | _) after kept
    · exact ⟨fenced.1, kept.trans fenced.2⟩
    · exact ⟨fenced.1, kept.trans fenced.2⟩
  · exact fenced

/-- A fenced engine refuses to synchronize before it looks at any file. -/
theorem sync_fenced {engine : FileEngine} (fenced : engine.Fenced) :
    ∃ failure, sync engine = .ret (.error failure, engine) :=
  ⟨_, Action.bind_of_error (Action.guard_of_holds fenced.1)⟩

/-- The file engine stays fenced, and its event data stays as it is. -/
theorem fencing (content : Option Bytes) :
    Fencing (keeping (· = content)) FileControl.perform (FencedOver content) where
  diagnosed fenced := fenced.1.2
  sync fenced := sync_fenced fenced.1
  reads := readsKeep_fenced
  control command engine world fenced := by
    cases command with
    | simulateIndeterminate simulate => exact fenced
    | simulateSyncError simulate => exact fenced
    | simulateWriteError simulate => exact fenced
    | undeterminedAfterNBlocks blocks => exact fenced
    | failAfterNBlocks blocks => exact fenced
    | releaseExclusion => exact wp_releaseExclusion_fenced fenced

/-- An append whose landing is undetermined has fenced the engine. -/
theorem wp_appendBlock_fences (block : Bytes) (engine : FileEngine) (world : FileWorld) :
    (appendBlock block).wp fileSetting
      (fun outcome after _ => ∀ epoch, outcome = .ok (.undetermined epoch) → after.Fenced)
      engine world := by
  have unpromised : ∀ before after, fileSetting.guar before after := fun _ _ => trivial
  simp only [appendBlock, Action.wp_bind]
  refine Action.wp_of_forall unpromised ?_
  rintro (failure | _) engine world
  · rintro epoch ⟨⟩
  simp only [Action.wp_get, Action.wp_refuseIf, Action.wp_mutate, checkAppendSimulation]
  split_ifs with unlocked simulated failing
  · rintro epoch ⟨⟩
  · rintro epoch _
    exact fenced_fence engine _
  · rintro epoch ⟨⟩
  · simp only [writeBlock, Action.wp_bind, Action.wp_get, Action.wp_refuseIf, Action.wp_lift]
    split_ifs with closed
    · rintro epoch ⟨⟩
    refine Action.wp_of_forall unpromised ?_
    rintro (failure | initialLen) engine world
    · rintro epoch ⟨⟩
    refine Program.wp_of_forall unpromised ?_
    rintro (failure | _) world
    · simp only [abandonBlock, Action.wp_bind, Action.wp_lift]
      refine Program.wp_of_forall unpromised ?_
      rintro rollbackOutcome world epoch _
      exact fenced_fence engine _
    · simp only [settleBlock, Action.wp_bind, Action.wp_get, Action.wp_lift]
      refine Program.wp_of_forall unpromised ?_
      rintro (failure | _) world
      · rintro epoch _
        exact fenced_fence engine _
      · rintro epoch ⟨⟩

/-- The operations on the ownership record. -/
def OnMeta (op : FileOp) : Prop := op.name = .metaFile

end FileEngine

/-- The synchronization of the event data was performed, and failed. -/
def SyncDataFailed (performed : List (Σ op : fileOperations.Op, fileOperations.Res op)) : Prop :=
  ∃ failure : IoError,
    (⟨(⟨.pgnoFile, .syncData⟩ : FileOp), (.error failure : Except IoError Unit)⟩ :
    Σ op : fileOperations.Op, fileOperations.Res op) ∈ performed

/-- A synchronization that failed at the event data has fenced the engine. -/
theorem FileEngine.wp_sync_fences (engine : FileEngine) (world : FileWorld) :
    sync.wp fileSetting.recording
      (fun outcome after later => (∃ failure, outcome = .error failure) →
        SyncDataFailed later.2 → after.Fenced) engine (world, []) := by
  have unpromised : ∀ before after, fileSetting.guar before after := fun _ _ => trivial
  have checked : checkAuthority.wp fileSetting.recording
      (fun _ _ later => ∀ entry ∈ later.2, entry ∈ [] ∨ OnMeta entry.1) engine (world, []) :=
    Program.wp_recording_only unpromised (checkAuthority_only (fun _ _ => rfl) engine)
  simp only [sync, Action.wp_bind]
  refine Action.wp_mono checked ?_
  rintro (failure | _) engine ⟨later, performed⟩ recorded
  · rintro _ ⟨failure, member⟩
    rcases recorded _ member with impossible | onMeta
    · cases impossible
    · cases onMeta
  simp only [Action.wp_get]
  split_ifs with opened
  · simp only [Action.wp_bind, Action.wp_lift]
    refine Program.wp_of_forall (fun _ _ => trivial) ?_
    rintro (failure | _) after
    · exact fun _ _ => fenced_fence engine _
    · rintro ⟨failure, refused⟩
      cases refused
  · rintro ⟨failure, refused⟩
    cases refused

/-- The calls that leave a file session in doubt: an append whose landing is
undetermined, and a synchronization that failed at the event data. -/
def SessionEvent.Fences {Control τ : Type} (event : SessionEvent fileOperations Control τ) : Prop :=
  match event.call with
  | .write _ => ∃ epoch, event.outcome = .ok (.verdict (.undetermined epoch))
  | .sync => (∃ failure, event.outcome = .error failure) ∧ SyncDataFailed event.performed
  | _ => False

/-- A write whose landing is undetermined has fenced the engine. -/
theorem WriteCall.wp_perform_fences (call : WriteCall) (store : Store FileEngine)
    (world : FileWorld) :
    call.perform.wp fileSetting
      (fun outcome after _ => ∀ epoch, outcome = .ok (.undetermined epoch) → after.engine.Fenced)
      store world := by
  have unpromised : ∀ before after, fileSetting.guar before after := fun _ _ => trivial
  refine call.wp_perform trivial ?_ ?_ ?_ (J := fun _ _ => True)
  · intro checks before _ _
    refine Program.wp_of_forall unpromised ?_
    rintro (failure | _) after
    · rintro epoch ⟨⟩
    · trivial
  · rintro checks before failure _ _ epoch ⟨⟩
  · intro before envelope payload _ admitted passes
    refine Action.wp_mono (FileEngine.wp_appendBlock_fences _ _ _) ?_
    rintro (failure | verdict) engine after fences
    · rintro epoch ⟨⟩
    · cases verdict with
      | landed position => rintro epoch ⟨⟩
      | undetermined carriedEpoch =>
          intro epoch _
          exact fences carriedEpoch rfl

/-- After such a call the engine is fenced. -/
theorem SessionEvent.Fences.fenced {τ : Type} {event : SessionEvent fileOperations FileControl τ}
    {before after : Store FileEngine × FileWorld} (fences : event.Fences)
    (step : SessionStep fileSetting FileControl.perform before event after) :
    after.1.engine.Fenced := by
  obtain ⟨call, outcome, performed⟩ := event
  cases call with
  | write call =>
      obtain ⟨epoch, rfl⟩ := fences
      have owed : (SessionCall.perform FileControl.perform (.write call : SessionCall _ τ)).wp
          fileSetting (fun outcome after _ => ∀ epoch,
            outcome = .ok (.verdict (.undetermined epoch)) → after.engine.Fenced)
          before.1 before.2 := by
        refine (Action.wp_map _).mpr (Action.wp_mono (call.wp_perform_fences _ _) ?_)
        rintro (failure | verdict) after later undetermined
        · rintro epoch ⟨⟩
        · rintro epoch ⟨⟩
          exact undetermined epoch rfl
      exact Action.wp_of_runs step (Action.wp_recording owed) epoch rfl
  | sync =>
      obtain ⟨failed, synced⟩ := fences
      have owed : (SessionCall.perform FileControl.perform (.sync : SessionCall _ τ)).wp
          fileSetting.recording (fun outcome after later => (∃ failure, outcome = .error failure) →
            SyncDataFailed later.2 → after.engine.Fenced) before.1 (before.2, []) := by
        refine (Action.wp_map _).mpr ((Store.wp_onEngine _).mpr ?_)
        refine Action.wp_mono (FileEngine.wp_sync_fences _ _) ?_
        rintro (failure | _) engine later fences
        · exact fun _ => fences ⟨failure, rfl⟩
        · rintro ⟨failure, refused⟩
          cases refused
      exact Action.wp_of_runs step owed failed synced
  | fiber fiberId => exact fences.elim
  | getLatest fiberId => exact fences.elim
  | read call => exact fences.elim
  | control command => exact fences.elim

/-- Uncertainty is absorbing: after an append whose landing is undetermined, or a
synchronization that failed at the event data, every later write,
synchronization and lookup of the session is refused, and neither a complete
call nor a cut one changes the event data again. -/
theorem uncertainty_absorbing {τ : Type} {event : SessionEvent fileOperations FileControl τ}
    {events : List (SessionEvent fileOperations FileControl τ)}
    {before after final : Store FileEngine × FileWorld}
    (step : SessionStep fileSetting FileControl.perform before event after)
    (fences : event.Fences)
    (run : Trace (SessionStep fileSetting FileControl.perform) after events final) :
    (∀ later ∈ events, later.call.isGuarded = true → ∃ failure, later.outcome = .error failure) ∧
      (final.2 .pgnoFile).content = (after.2 .pgnoFile).content ∧
      ∀ (call : SessionCall FileControl τ) rest world,
        (call.perform FileControl.perform final.1).Reaches fileSetting final.2 rest world →
          (world .pgnoFile).content = (after.2 .pgnoFile).content := by
  have fenced : FencedOver (after.2 .pgnoFile).content after.1.engine after.2 :=
    ⟨fences.fenced step, rfl⟩
  have fencing := FileEngine.fencing (after.2 .pgnoFile).content
  obtain ⟨stays, refused⟩ := Fencing.forever fencing fenced run
  refine ⟨?_, stays.2, ?_⟩
  · intro later member guarded
    exact (refused later member guarded).1
  · intro call rest world reaches
    let safe : Option Bytes → Prop := (· = (after.2 .pgnoFile).content)
    have owed := call.wp_perform_fenced fencing stays
    have kept : safe (world .pgnoFile).content := keeping_of_reaches reaches owed stays.2
    exact kept

end Fence

section Doubt

attribute [local instance] standardDigests

/-- A session of the seeded artefact that is told to lose track of its writes. -/
def doubtfulStore : Store FileEngine :=
  ⟨{ seededAdapter.engine 1 0 none with simulateIndeterminate := true }, .new, .new, none, false,
    none⟩

/-- Its first append is undetermined. -/
theorem doubtfulStore_undetermined :
    ∃ after later, (WriteCall.perform (.appendFrame genesisPayload) doubtfulStore).evaluate
      fileHandler seededFiles = ((.ok (.undetermined 1), after), later) := by
  obtain ⟨first, checked, -, admits⟩ := FileEngine.evaluate_checkAuthority
    (rfl : doubtfulStore.engine.uncertain = false) rfl seededFiles_admitsWriter
  obtain ⟨second, checkedAgain, -, -⟩ := FileEngine.evaluate_checkAuthority
    (rfl : doubtfulStore.engine.uncertain = false) rfl admits
  have authorized : (StorageEngine.checkAuthority doubtfulStore.engine).evaluate fileHandler
      seededFiles = (.ok (), first) := by
    refine (Program.evaluate_bind _ _ _ _).trans ?_
    rw [checked]
    rfl
  have simulated : ((StorageEngine.appendBlock (ContainerFrame.frameBytes genesisPayload) :
      Action fileOperations _ FileEngine _) doubtfulStore.engine).evaluate fileHandler first =
        ((.ok (.undetermined 1), doubtfulStore.engine.fence
          "write landing undetermined: simulated indeterminate write landing"), second) := by
    refine (Action.evaluate_bind checkedAgain).trans ?_
    rfl
  have landed : (Store.landFrame genesisEvent (ContainerFrame.frameBytes genesisPayload)
      doubtfulStore).evaluate fileHandler first = ((.ok (.undetermined 1), _), second) :=
    Action.evaluate_bind (Store.evaluate_onEngine simulated)
  refine ⟨_, second, Action.evaluate_bind ((Store.evaluate_appendFrameVerdict rfl authorized
    genesisPayload_admitted).trans landed)⟩

/-- Its first append is undetermined, and from then on it cannot even
synchronize. -/
theorem uncertainty_absorbing_doubtful :
    ∃ (append sync : SessionEvent fileOperations FileControl Unit) (after final : _),
      SessionStep fileSetting FileControl.perform (doubtfulStore, seededFiles) append after ∧
      append.call = .write (.appendFrame genesisPayload) ∧ append.Fences ∧
      Trace (SessionStep fileSetting FileControl.perform) after [sync] final ∧
      sync.call = .sync ∧ (∃ failure, sync.outcome = .error failure) ∧
      (final.2 .pgnoFile).content = (after.2 .pgnoFile).content := by
  obtain ⟨after, failed, evaluated⟩ := doubtfulStore_undetermined
  let append : SessionCall FileControl Unit := .write (.appendFrame genesisPayload)
  let flush : SessionCall FileControl Unit := .sync
  have appends := runs_fileHandler (append.perform FileControl.perform doubtfulStore) seededFiles
  have undetermined : (append.perform FileControl.perform doubtfulStore).evaluate fileHandler
      seededFiles = ((.ok (.verdict (.undetermined 1)), after), failed) :=
    Action.evaluate_bind evaluated
  rw [undetermined] at appends
  obtain ⟨⟨outcome, final⟩, later, syncs⟩ : ∃ value later,
      (flush.perform FileControl.perform after).Runs fileSetting failed value later :=
    ⟨_, _, runs_fileHandler _ failed⟩
  obtain ⟨performed, recorded⟩ := Program.exists_runs_recording appends []
  obtain ⟨synced, recordedSync⟩ := Program.exists_runs_recording syncs []
  have step : SessionStep fileSetting FileControl.perform (doubtfulStore, seededFiles)
      ⟨append, .ok (.verdict (.undetermined 1)), performed⟩ (after, failed) := recorded
  have syncStep : SessionStep fileSetting FileControl.perform (after, failed)
      ⟨flush, outcome, synced⟩ (final, later) := recordedSync
  have run := Trace.cons syncStep .nil
  have fences : SessionEvent.Fences (⟨append, .ok (.verdict (.undetermined 1)), performed⟩ :
      SessionEvent fileOperations FileControl Unit) := ⟨1, rfl⟩
  obtain ⟨refused, kept, -⟩ := uncertainty_absorbing step fences run
  exact ⟨_, _, _, _, step, rfl, fences, run, rfl, refused _ (List.mem_singleton.mpr rfl) rfl, kept⟩

end Doubt

end Pardosa
