import Pardosa.File.MutualExclusion
import Pardosa.File.PlannedCreation

/-!
# Runs of planned creations

Whatever a process does behind a whole ownership record leaves the record alone, so every
call of every process keeps to the plan. An abstraction function reads the progression of
the creation off the files; each operation of a process is one step of the plan under it,
or none.
-/

namespace Pardosa

open Foundation

section Behind

variable {σ : Type}

/-- What the event data alone is asked for spares the record, unless it creates a file. -/
theorem FileOp.sparesRecord_pgno {request : FileRequest} (creates : request ≠ .createNew) :
    (⟨.pgnoFile, request⟩ : FileOp).SparesRecord :=
  ⟨creates, .inl rfl⟩

variable [Digests]

/-- What follows the creation of the event data spares the record. -/
theorem newEventData_only {engine : FileEngine} {policy : FileExclusionPolicy}
    {headerCondition syncCondition : FailureCondition} {headerDetail syncDetail : String} :
    (do
      orRefuse (writeAll .pgnoFile ContainerHeader.new.toBytes) headerCondition headerDetail
      orRefuse (FileRequest.send .syncData .pgnoFile) syncCondition syncDetail
      acquireFileExclusion policy
      Action.within engine Store.openWriter :
        Action fileOperations OperationFailure σ (Store FileEngine)).Only FileOp.SparesRecord := by
  have written : (writeAll .pgnoFile ContainerHeader.new.toBytes).Only FileOp.SparesRecord :=
    writeAllLoop_only (fun _ => FileOp.sparesRecord_pgno nofun) _ _
  have synced : (FileRequest.syncData.send .pgnoFile).Only FileOp.SparesRecord :=
    only_send (FileOp.sparesRecord_of_isQuiet rfl)
  refine Action.only_bind (only_orRefuse written) fun _ => ?_
  refine Action.only_bind (only_orRefuse synced) fun _ => ?_
  refine Action.only_bind
    (acquireFileExclusion_only _ (FileOp.sparesRecord_of_isQuiet rfl)) fun _ state => ?_
  refine Program.only_bind (FileEngine.openWriter_only
    (fun _ calm => FileOp.sparesRecord_of_isQuiet (FileRequest.isQuiet_of_isCalm calm)) _) ?_
  rintro ⟨outcome, engine⟩
  trivial

/-- So does what follows the checks of an opening. -/
theorem FileStorageAdapter.reopening_only (adapter : FileStorageAdapter) (carriedEpoch : UInt64) :
    (do
      let (scan, recoveredTailTruncation) ← scanAndReconcile
      Action.within (adapter.engine carriedEpoch scan.frames.length recoveredTailTruncation)
        Store.openWriter :
        Action fileOperations OperationFailure σ (Store FileEngine)).Only FileOp.SparesRecord := by
  have scanned : (readContainerFrames .pgnoFile : Action fileOperations OperationFailure σ _).Only
      FileOp.SparesRecord := readContainerFrames_only fun _ calm =>
    FileOp.sparesRecord_of_isQuiet (FileRequest.isQuiet_of_isCalm calm)
  refine Action.only_bind (Action.only_bind scanned fun scan => ?_) ?_
  · refine Action.only_bind (reconcileTailState_only scan ?_) fun _ => Action.only_pure _
    exact fun request steady => FileOp.sparesRecord_pgno steady.1
  · rintro ⟨scan, recovered⟩ state
    refine Program.only_bind (FileEngine.openWriter_only
      (fun _ calm => FileOp.sparesRecord_of_isQuiet (FileRequest.isQuiet_of_isCalm calm)) _) ?_
    rintro ⟨outcome, engine⟩
    trivial

/-- So does an append. -/
theorem FileEngine.appendFrameVerdict_sparing (payload : Bytes) :
    (Store.appendFrameVerdict payload : Action fileOperations OperationFailure (Store FileEngine)
      _).Only FileOp.SparesRecord :=
  appendFrameVerdict_only
    (fun _ _ calm => FileOp.sparesRecord_of_isQuiet (FileRequest.isQuiet_of_isCalm calm))
    (fun _ => FileOp.sparesRecord_pgno nofun) (fun _ => FileOp.sparesRecord_pgno nofun) payload

omit [Digests] in
/-- So does the release of the lock. -/
theorem FileEngine.releaseExclusion_sparing : releaseExclusion.Only FileOp.SparesRecord := by
  have unlocks : (FileRequest.unlock.send .pgnoFile).Only FileOp.SparesRecord :=
    only_send (FileOp.sparesRecord_pgno nofun)
  refine Action.only_bind Action.only_get fun engine => ?_
  split_ifs
  · exact Action.only_bind (only_orRefuse unlocks) fun _ => Action.only_modify _
  · exact Action.only_pure _

end Behind

section Opening

variable [Digests] {Process : Type} [DecidableEq Process] {process : Process}
  {opening : OpeningCall} {shared : SharedFiles Process} {adapter : FileStorageAdapter} {σ : Type}
  {state : σ}

/-- What an opening owes: a session that it hands out carries the claim of the record. -/
def Admits (opening : OpeningCall) (outcome : Except OperationFailure (Store FileEngine))
    (after : SharedFiles Process) : Prop :=
  ∀ store, outcome = .ok store → Opened opening after

omit [DecidableEq Process] in
/-- A refusal admits whatever the files hold. -/
theorem admits_error {failure : OperationFailure} {after : SharedFiles Process} :
    Admits opening (.error failure) after := by
  rintro store ⟨⟩

/-- What spares a record that is whole owes nothing more. -/
theorem wp_behind {action : Action fileOperations OperationFailure σ (Store FileEngine)}
    (only : (action state).Only FileOp.SparesRecord) (opened : Opened opening shared) :
    action.wp (opening.planned process) (fun outcome _ after => Admits opening outcome after) state
      shared := by
  refine Program.wp_mono (wp_sparing (enduring_opened opening) only opened) ?_
  exact fun _ after stillOpened _ _ => stillOpened

/-- Event data comes behind a whole record, whoever creates it. -/
theorem wp_createNew_events (opened : Opened opening shared) :
    (FileRequest.send .createNew .pgnoFile).wp (opening.planned process)
      (fun _ after => Opened opening after) shared := by
  refine wp_send_planned ?_
  intro moved sees answer after performed
  have stillOpened := enduring_opened opening sees.grows sees.invariant opened
  obtain ⟨seed, whole, carries⟩ := stillOpened
  have same : after.content .metaFile = moved.content .metaFile := by
    obtain ⟨-, file, -, rfl⟩ := performed
    simp [SharedFiles.touched]
  have stays : after.Whole seed := same.trans whole
  exact ⟨⟨.inl same, fun _ => .inr ⟨seed, whole, stays⟩⟩, fun _ _ => ⟨seed, stays, carries⟩⟩

/-- The second half of a creation. -/
theorem FileStorageAdapter.wp_createEventData_planned {claim : OwnershipClaimRecord}
    (opened : Opened opening shared) :
    (adapter.createEventData claim).wp (opening.planned process)
      (fun outcome _ after => Admits opening outcome after) state shared := by
  unfold createEventData
  rw [Action.wp_bind, Action.wp_lift]
  refine Program.wp_mono (wp_createNew_events opened) ?_
  rintro (failure | _) first opened
  · exact admits_error
  dsimp only
  rw [Action.wp_bind, Action.wp_ofExcept]
  exact wp_behind (newEventData_only _) opened

/-- A creation. -/
theorem FileStorageAdapter.wp_createWithLimit_planned {claim : OwnershipClaimRecord}
    {descriptor : AdmittedDescriptor} {maxWireLen : Nat} (admits : descriptor.Admitted)
    (carries : opening.Carries claim) :
    (adapter.createWithLimit claim descriptor maxWireLen).wp (opening.planned process)
      (fun outcome _ after => Admits opening outcome after) state shared := by
  unfold createWithLimit
  rw [Action.wp_bind]
  refine Action.wp_mono (adapter.wp_createOwnershipRecord_planned admits) ?_
  rintro (failure | _) between first made
  · exact admits_error
  obtain ⟨seed, rfl, whole⟩ := made rfl
  exact adapter.wp_createEventData_planned ⟨seed, whole, carries⟩

omit [DecidableEq Process] in
/-- Records with a descriptor that admission accepts have one. -/
theorem FileStorageAdapter.wp_requireDescriptor_pure {setting : Setting fileOperations
    (SharedFiles Process)} {records : MetaRecords}
    {post : Except OperationFailure Unit → σ → SharedFiles Process → Prop}
    (refused : ∀ failure, post (.error failure) state shared)
    (described : records.schemaDescriptor.isSome = true → post (.ok ()) state shared) :
    (requireDescriptor records).wp setting post state shared := by
  unfold requireDescriptor
  rw [Action.wp_bind, Action.wp_require]
  cases known : records.schemaDescriptor with
  | none => exact refused _
  | some descriptor =>
      dsimp only
      rw [Action.wp_bind, Action.wp_ofExcept]
      cases AdmittedDescriptor.tryFromDescriptor descriptor with
      | error failure => exact refused _
      | ok admitted =>
          refine described ?_
          rw [known]
          rfl

/-- The completion of a creation. -/
theorem FileStorageAdapter.wp_completeCreation_planned {claim : OwnershipClaimRecord}
    (carries : opening.Carries claim) :
    (adapter.completeCreation claim).wp (opening.planned process)
      (fun outcome _ after => Admits opening outcome after) state shared := by
  unfold completeCreation
  rw [Action.wp_bind]
  refine Action.wp_mono (adapter.wp_tryPresence_planned enduring_true trivial) ?_
  rintro (failure | presence) state first -
  · exact admits_error
  cases presence with
  | none => exact admits_error
  | eventDataOnly => exact admits_error
  | both => exact admits_error
  | ownershipRecordOnly =>
      dsimp only
      rw [Action.wp_bind]
      refine Action.wp_mono wp_readMetaRecords_planned ?_
      rintro (failure | records) state second found
      · exact admits_error
      dsimp only
      rw [Action.wp_bind]
      refine wp_requireDescriptor_pure (fun failure => admits_error) ?_
      intro described
      obtain ⟨seed, whole, rfl⟩ := found records rfl described
      dsimp only
      rw [Action.wp_bind, Action.wp_require]
      dsimp only [MetaRecords.created]
      rw [Action.wp_bind, Action.wp_refuseIf]
      split_ifs with other
      · exact admits_error
      obtain rfl : seed.claim = claim := not_not.mp other
      dsimp only
      rw [Action.wp_bind, Action.wp_lift]
      refine Program.wp_mono (wp_createNew_events ⟨seed, whole, carries⟩) ?_
      rintro (failure | _) third opened
      · exact admits_error
      dsimp only
      rw [Action.wp_bind, Action.wp_ofExcept]
      exact wp_behind (newEventData_only _) opened

/-- The checks of an opening hold its epoch against the claim of the record. -/
theorem FileStorageAdapter.wp_openLocked_planned {carriedEpoch : UInt64}
    (carries : ∀ {claim : OwnershipClaimRecord}, claim.epoch = carriedEpoch →
      opening.Carries claim) :
    (adapter.openLocked carriedEpoch).wp (opening.planned process)
      (fun outcome _ after => Admits opening outcome after) state shared := by
  unfold openLocked admitRecords
  rw [Action.wp_bind]
  refine Action.wp_mono wp_readMetaRecords_planned ?_
  rintro (failure | records) state first found
  · exact admits_error
  dsimp only
  rw [Action.wp_bind, Action.wp_bind, Action.wp_refuseIf]
  split_ifs with retired
  · exact admits_error
  dsimp only
  rw [Action.wp_bind]
  refine wp_requireDescriptor_pure (fun failure => admits_error) ?_
  intro described
  obtain ⟨seed, whole, rfl⟩ := found records rfl described
  dsimp only
  rw [Action.wp_bind, Action.wp_require]
  dsimp only [MetaRecords.created]
  rw [Action.wp_refuseIf]
  split_ifs with stale
  · exact admits_error
  dsimp only
  have opened : Opened opening first := ⟨seed, whole, carries (not_not.mp stale)⟩
  exact wp_behind (adapter.reopening_only carriedEpoch _) opened

/-- Opening for writing. -/
theorem FileStorageAdapter.wp_openWrite_planned {carriedEpoch : UInt64}
    (carries : ∀ {claim : OwnershipClaimRecord}, claim.epoch = carriedEpoch →
      opening.Carries claim) :
    (adapter.openWrite carriedEpoch).wp (opening.planned process)
      (fun outcome _ after => Admits opening outcome after) state shared := by
  have locks : (acquireFileExclusion adapter.exclusionPolicy :
      Action fileOperations OperationFailure σ Unit).Only FileOp.SparesRecord :=
    acquireFileExclusion_only _ (FileOp.sparesRecord_of_isQuiet rfl)
  have opens : (FileRequest.openFile.send .pgnoFile).Only FileOp.SparesRecord :=
    only_send (FileOp.sparesRecord_of_isQuiet rfl)
  have reads : (readMetaRecords : Action fileOperations OperationFailure σ _).Only
      FileOp.SparesRecord := readMetaRecords_only fun _ calm =>
    FileOp.sparesRecord_of_isQuiet (FileRequest.isQuiet_of_isCalm calm)
  unfold openWrite checkOpenWritePresence
  rw [Action.wp_bind, Action.wp_bind]
  refine Action.wp_mono (adapter.wp_tryPresence_planned enduring_true trivial) ?_
  rintro (failure | presence) state first -
  · exact admits_error
  cases presence with
  | none => exact admits_error
  | eventDataOnly => exact admits_error
  | ownershipRecordOnly =>
      dsimp only
      rw [Action.wp_bind]
      refine Program.wp_mono (wp_sparing enduring_true (reads state) trivial) ?_
      rintro ⟨failure | records, state⟩ second -
      · exact admits_error
      simp only [Action.wp_bind, Action.wp_refuseIf, Action.wp_require]
      split_ifs with retired
      · exact admits_error
      cases records.latestClaim with
      | none => exact admits_error
      | some claim =>
          dsimp only
          split_ifs with stale
          · exact admits_error
          refine Action.wp_mono
            (adapter.wp_completeCreation_planned (carries (not_not.mp stale))) ?_
          rintro (failure | store) state third admitted
          · exact admits_error
          · exact admitted
  | both =>
      dsimp only
      rw [Action.wp_pure]
      dsimp only
      rw [Action.wp_bind]
      refine wp_orRefuse.mpr (Program.wp_mono (wp_sparing enduring_true opens trivial) ?_)
      rintro (failure | _) second -
      · exact admits_error
      dsimp only [Except.mapError]
      rw [Action.wp_bind]
      refine Program.wp_mono (wp_sparing enduring_true (locks _) trivial) ?_
      rintro ⟨failure | _, state⟩ third -
      · exact admits_error
      exact adapter.wp_openLocked_planned carries

/-- Whatever call opens the artefact, its session carries the claim of a whole record. -/
theorem OpeningCall.wp_perform_planned {opening : OpeningCall}
    (typed : (ProcessCall.opening opening).Typed) :
    opening.perform.wp (opening.planned process)
      (fun outcome _ after => Admits opening outcome after) () shared := by
  cases opening with
  | createWithLimit adapter initialClaim descriptor maxWireLen =>
      exact adapter.wp_createWithLimit_planned typed rfl
  | completeCreation adapter claim => exact adapter.wp_completeCreation_planned rfl
  | openWrite adapter carriedEpoch =>
      exact adapter.wp_openWrite_planned fun same => same.symm

end Opening

section Discipline

variable [Digests] {Process : Type} [DecidableEq Process] {process : Process} {call : ProcessCall}
  {tenure : Tenure} {shared before after : SharedFiles Process}

omit [DecidableEq Process] in
/-- Who changes neither the files nor their makers nor a handle keeps every promise. -/
theorem planning_moves_same (planned : SharedFiles.Planned before)
    (content : after.content = before.content) (maker : after.maker = before.maker)
    (position : after.position = before.position) :
    (planning Process).Moves process before after := by
  refine ⟨⟨?_, ?_, ?_⟩, ⟨?_, ?_, ?_⟩, fun other _ => ⟨?_, ?_, ?_⟩⟩
  · rw [maker, content]
    exact planned.made
  · rw [content]
    exact planned.record
  · rw [content]
    exact planned.events
  · intro bytes stands
    exact ⟨[], by rw [content, List.append_nil]; exact stands⟩
  · rw [content]
    exact id
  · rw [maker]
    exact id
  · rw [position]
  · rw [maker]
    exact id
  · rw [content]
    exact fun _ => rfl

/-- A process that is left without a session leaves its handle only. -/
theorem planning_moves_left (planned : SharedFiles.Planned shared) (final : Tenure) :
    (planning Process).Moves process shared (SharedFiles.left process final shared) := by
  cases final with
  | waiting => exact planning_moves_same planned rfl rfl rfl
  | live opened store outcomes => exact planning_moves_same planned rfl rfl rfl
  | gone opened outcomes => exact planning_moves_same planned rfl rfl rfl

omit [DecidableEq Process] in
/-- A process that died is owed nothing by the plan. -/
theorem Tenure.died_planned (tenure : Tenure) : tenure.died.Planned shared := by
  cases tenure with
  | waiting => trivial
  | live opened store outcomes => trivial
  | gone opened outcomes => trivial

/-- A typed call of a creator has the program that it has elsewhere. -/
theorem creators_program (typed : call.Typed) :
    (creators Process).program call tenure = call.program tenure := if_pos typed

/-- A call of a process keeps to the plan. -/
theorem ProcessCall.starts_planned {program : Program fileOperations Tenure}
    (planned : SharedFiles.Planned shared) (holds : tenure.Planned shared)
    (possible : (creators Process).program call tenure = some program) :
    (planning Process).Moves process shared (shared.entered process call) ∧
      tenure.Planned (shared.entered process call) ∧
      program.wp (call.planned process tenure)
        (fun final after => final.Planned after) (shared.entered process call) := by
  have possible : (if call.Typed then call.program tenure else none) = some program := possible
  split_ifs at possible with typed
  cases call with
  | opening opening =>
      cases tenure with
      | live => cases possible
      | gone => cases possible
      | waiting =>
          cases possible
          refine ⟨planning_moves_same planned rfl rfl rfl, trivial, ?_⟩
          refine (Program.wp_bind _ _ _ _).mpr
            (Program.wp_mono (OpeningCall.wp_perform_planned typed) ?_)
          rintro ⟨failure | store, _⟩ after admitted
          · trivial
          · exact admitted store rfl
  | append payload =>
      cases tenure with
      | waiting => cases possible
      | gone => cases possible
      | live opened store outcomes =>
          cases possible
          have moves : (planning Process).Moves process shared
              (shared.entered process (.append payload)) :=
            planning_moves_same planned rfl rfl rfl
          have still : Opened opened (shared.entered process (.append payload)) :=
            enduring_opened opened moves.grows moves.invariant holds
          refine ⟨moves, still, ?_⟩
          refine (Program.wp_bind _ _ _ _).mpr (Program.wp_mono (wp_sparing
            (enduring_opened opened) (FileEngine.appendFrameVerdict_sparing payload _) still) ?_)
          exact fun _ after opened => opened
  | releaseExclusion =>
      cases tenure with
      | waiting => cases possible
      | gone => cases possible
      | live opened store outcomes =>
          cases possible
          have still : Opened opened shared := holds
          refine ⟨planning_moves_same planned rfl rfl rfl, still, ?_⟩
          refine (Program.wp_bind _ _ _ _).mpr (Program.wp_mono (wp_sparing
            (enduring_opened opened) (FileEngine.releaseExclusion_sparing _) still) ?_)
          exact fun _ after _ => trivial

/-- Every process keeps to the plan, whatever the others do. -/
theorem creators_obey : (creators Process).Obeys (planning Process) where
  rely_refl := SharedFiles.Leaves.refl
  rely_trans earlier later := SharedFiles.Leaves.trans earlier later
  grows_refl := SharedFiles.Furthers.refl
  grows_trans earlier later := SharedFiles.Furthers.trans earlier later
  holds sees holds := enduring_planned _ sees.grows sees.invariant holds
  during sees during := enduring_planned _ sees.grows sees.invariant during
  ends sees ends := enduring_planned _ sees.grows sees.invariant ends
  start planned holds possible := ProcessCall.starts_planned planned holds possible
  finish {process _ _ final _} planned during ends := by
    have moves : (planning Process).Moves process _ _ := planning_moves_left planned final
    exact ⟨moves, enduring_planned final moves.grows moves.invariant ends⟩
  die_idle planned holds := ⟨planning_moves_left planned _, Tenure.died_planned _⟩
  die_busy planned during := ⟨planning_moves_left planned _, Tenure.died_planned _⟩
  others planned moved := moved.elim

variable (Process) in
/-- The plan holds where nothing has been done. -/
theorem noArtefact_planned :
    Sound (creators Process) (planning Process) (noArtefact Process) where
  invariant := by
    refine ⟨rfl, ?_, ?_⟩
    · rintro bytes ⟨⟩
    · rintro ⟨⟩
  idle := by
    rintro process tenure ⟨⟩
    trivial
  busy := nofun

/-- What these processes do, processes on one artefact may do. -/
theorem reaches_of_creators {start config : FileConfiguration Process}
    (run : (creators Process).Reaches start config) : (processes Process).Reaches start config := by
  induction run with
  | refl => exact .refl
  | tail _ step ih =>
      refine ih.tail ?_
      cases step with
      | @start process call state program idle possible =>
          have possible : (if call.Typed then call.program state else none) = some program :=
            possible
          split_ifs at possible with typed
          exact .start idle possible
      | perform busy performed => exact .perform busy performed
      | finish busy => exact .finish busy
      | die process => exact .die process
      | others moved => cases moved

end Discipline

section Steps

variable [Digests] {Process : Type} {shared before after : SharedFiles Process} {seed : Seed}
  {bytes : Bytes}

namespace SharedFiles

omit [Digests] in
/-- Without either file there is no artefact. -/
theorem presence_of_missing (record : shared.content .metaFile = none)
    (events : shared.content .pgnoFile = none) : shared.presence = .none := by
  simp [presence, record, events]

omit [Digests] in
/-- With the record alone there is a record only. -/
theorem presence_of_record (record : shared.content .metaFile = some bytes)
    (events : shared.content .pgnoFile = none) : shared.presence = .ownershipRecordOnly := by
  simp [presence, record, events]

omit [Digests] in
/-- With both files there are both. -/
theorem presence_of_events (record : shared.content .metaFile = some bytes)
    (events : (shared.content .pgnoFile).isSome = true) : shared.presence = .both := by
  simp [presence, record, events]

/-- An artefact that is not there has not progressed. -/
theorem progression_of_missing (record : shared.content .metaFile = none)
    (events : shared.content .pgnoFile = none) : shared.progression = none := by
  rw [progression, presence_of_missing record events]
  rfl

/-- With event data, a creation is complete. -/
theorem progression_of_events (record : shared.content .metaFile = some bytes)
    (events : (shared.content .pgnoFile).isSome = true) : shared.progression = some .complete := by
  rw [progression, presence_of_events record events]
  rfl

/-- Without it, the beginning of the record tells how far the creation has come. -/
theorem progression_of_record (record : shared.content .metaFile = some bytes)
    (begins : bytes <+: seed.record) (events : shared.content .pgnoFile = none) :
    shared.progression = some (if bytes.length < seed.seededLen then
      .unseededOwnershipRecordCreated else .ownershipClaimSeeded seed.claim) := by
  rw [progression, presence_of_record record events, seededClaim, record,
    seed.recordedClaim_eq begins]
  split_ifs <;> rfl

/-- Without a record there is no event data. -/
theorem Planned.no_events (planned : Planned shared) (record : shared.content .metaFile = none) :
    shared.content .pgnoFile = none := by
  cases events : shared.content .pgnoFile with
  | none => rfl
  | some content =>
      obtain ⟨seed, whole⟩ := planned.events (by rw [events]; rfl)
      rw [record] at whole
      cases whole

/-- A claim that is recorded once stays. -/
theorem Furthers.seededClaim (furthers : Furthers before after) (planned : Planned after)
    {claim : OwnershipClaimRecord} (seeded : before.seededClaim = some claim) :
    after.seededClaim = some claim := by
  unfold SharedFiles.seededClaim at seeded ⊢
  cases record : before.content .metaFile with
  | none =>
      rw [record] at seeded
      cases seeded
  | some bytes =>
      obtain ⟨more, stands⟩ := furthers.record record
      obtain ⟨seed, begins⟩ := planned.record stands
      rw [record, seed.recordedClaim_eq ((List.prefix_append _ _).trans begins)] at seeded
      split_ifs at seeded with short
      rw [stands, seed.recordedClaim_eq begins, if_neg]
      · exact seeded
      · rw [List.length_append]
        omega

variable [DecidableEq Process] {process : Process} {op : FileOp} {answer : op.request.Res}

/-- One operation of a process takes one step of the plan, or none. -/
theorem Performs.progresses (performed : Performs process op before answer after)
    (planned : Planned before) (later : Planned after) (furthers : Furthers before after) :
    after.progression = before.progression ∨
      CreationPlan.Step before.progression after.progression := by
  obtain ⟨-, file, performs, rfl⟩ := performed
  obtain ⟨name, request⟩ := op
  cases name with
  | pgnoFile =>
      have record : (before.touched process ⟨.pgnoFile, request⟩ answer file).content .metaFile =
          before.content .metaFile := by
        simp [touched]
      cases earlier : before.content .pgnoFile with
      | some content =>
          have present : (before.content .pgnoFile).isSome = true := by rw [earlier]; rfl
          obtain ⟨seed, whole⟩ := planned.events present
          refine .inl ?_
          rw [progression_of_events whole present,
            progression_of_events (record.trans whole) (furthers.events present)]
      | none =>
          cases events : (before.touched process ⟨.pgnoFile, request⟩ answer file).content
              .pgnoFile with
          | none =>
              refine .inl ?_
              unfold progression presence seededClaim
              rw [record, events, earlier]
          | some content =>
              have present : ((before.touched process ⟨.pgnoFile, request⟩ answer file).content
                  .pgnoFile).isSome = true := by rw [events]; rfl
              obtain ⟨seed, whole⟩ := later.events present
              have stood := record.symm.trans whole
              refine .inr ?_
              rw [progression_of_record stood List.prefix_rfl earlier,
                if_neg (Nat.not_lt.mpr seed.seededLen_le), progression_of_events whole present]
              exact .completeEventData rfl
  | metaFile =>
      have events : (before.touched process ⟨.metaFile, request⟩ answer file).content .pgnoFile =
          before.content .pgnoFile := by
        simp [touched]
      have left : (before.touched process ⟨.metaFile, request⟩ answer file).content .metaFile =
          file.content := by
        simp [touched]
      cases earlier : before.content .metaFile with
      | none =>
          have nothing := planned.no_events earlier
          rcases FileRequest.performs_missing performs earlier with missing | ⟨-, created⟩
          · refine .inl ?_
            rw [progression_of_missing earlier nothing,
              progression_of_missing (left.trans missing) (events.trans nothing)]
          · obtain ⟨seed, begins⟩ := later.record (left.trans created)
            refine .inr ?_
            rw [progression_of_missing earlier nothing,
              progression_of_record (left.trans created) begins (events.trans nothing),
              List.length_nil, if_pos seed.seededLen_pos]
            exact .begin rfl
      | some bytes =>
          obtain ⟨more, longer⟩ := furthers.record earlier
          cases present : before.content .pgnoFile with
          | some content =>
              have there : (before.content .pgnoFile).isSome = true := by rw [present]; rfl
              refine .inl ?_
              rw [progression_of_events earlier there,
                progression_of_events longer (by rw [events]; exact there)]
          | none =>
              obtain ⟨seed, begins⟩ := later.record longer
              rw [progression_of_record earlier ((List.prefix_append _ _).trans begins) present,
                progression_of_record longer begins (events.trans present)]
              by_cases unseeded : (bytes ++ more).length < seed.seededLen
              · have before : bytes.length < seed.seededLen := by
                  rw [List.length_append] at unseeded
                  omega
                rw [if_pos unseeded, if_pos before]
                exact .inl rfl
              · by_cases before : bytes.length < seed.seededLen
                · rw [if_neg unseeded, if_pos before]
                  exact .inr (.seedClaim rfl)
                · rw [if_neg unseeded, if_neg before]
                  exact .inl rfl

end SharedFiles

end Steps

section Runs

variable [Digests] {Process : Type}

/-- The claim in the ownership record stays what it is. -/
def KeepsClaim (before after : SharedFiles Process) : Prop :=
  ∀ claim, before.seededClaim = some claim → after.seededClaim = some claim

/-- A creation goes by its plan in a configuration. -/
structure FollowsPlan (config : FileConfiguration Process) : Prop where
  /-- What is there was made by steps of the plan. -/
  follows : CreationPlan.Follows none config.world.progression
  /-- Exactly the components that the plan has made by then are there. -/
  present : ∀ {progression}, config.world.progression = some progression →
    progression.presence = config.world.presence
  /-- Event data is nowhere without its record. -/
  recorded : config.world.presence ≠ .eventDataOnly
  /-- A session is handed out for the claim of the record only. -/
  carries : ∀ {process opened store outcomes},
    (config.doing process).state = .live opened store outcomes →
    ∃ claim, config.world.seededClaim = some claim ∧ opened.Carries claim
  /-- Where a session is live, the creation is complete. -/
  complete : ∀ {process store}, Live config process store →
    config.world.progression = some .complete

variable {shared : SharedFiles Process}

/-- Behind a whole record there is its claim. -/
theorem Opened.carries {opened : OpeningCall} (holds : Opened opened shared) :
    ∃ claim, shared.seededClaim = some claim ∧ opened.Carries claim := by
  obtain ⟨seed, whole, carries⟩ := holds
  refine ⟨seed.claim, ?_, carries⟩
  rw [SharedFiles.seededClaim, whole, seed.recordedClaim_eq List.prefix_rfl,
    if_neg (Nat.not_lt.mpr seed.seededLen_le)]

/-- Planned files are never event data alone. -/
theorem SharedFiles.Planned.recorded (planned : Planned shared) :
    shared.presence ≠ .eventDataOnly := by
  cases record : shared.content .metaFile with
  | none =>
      rw [presence_of_missing record (planned.no_events record)]
      nofun
  | some bytes =>
      cases events : shared.content .pgnoFile with
      | none =>
          rw [presence_of_record record events]
          nofun
      | some content =>
          rw [presence_of_events record (by rw [events]; rfl)]
          nofun

variable [DecidableEq Process] {config after : FileConfiguration Process}

/-- One step of any process takes one step of the plan, or none. -/
theorem progresses_of_step (sound : Sound (creators Process) (planning Process) config)
    (step : (creators Process).Step config after) :
    after.world.progression = config.world.progression ∨
      CreationPlan.Step config.world.progression after.world.progression := by
  obtain ⟨soundAfter, furthers⟩ := sound.step creators_obey step
  have same : ∀ {before later : SharedFiles Process}, later.content = before.content →
      later.progression = before.progression := by
    intro before later content
    unfold SharedFiles.progression SharedFiles.presence SharedFiles.seededClaim
    rw [content]
  have left : ∀ (process : Process) (final : Tenure),
      (SharedFiles.left process final config.world).content = config.world.content := by
    intro process final
    cases final <;> rfl
  cases step with
  | @start process call =>
      refine .inl (same ?_)
      cases call <;> rfl
  | perform _ performed =>
      exact SharedFiles.Performs.progresses performed sound.invariant soundAfter.invariant furthers
  | finish => exact .inl (same (left _ _))
  | die => exact .inl (same (left _ _))
  | others moved => cases moved

/-- However many processes create, complete and open one artefact at the same time, and
whatever fails on the way: each of their steps takes one step of the creation plan or none,
so what is there was always made by the plan; event data is never there without its record;
whoever has a session was admitted for the claim of the record, over a creation that is
complete; and a claim that is recorded once is never replaced. -/
theorem creation_follows_plan (run : (creators Process).Reaches (noArtefact Process) config) :
    FollowsPlan config ∧
      (∀ {after}, (creators Process).Step config after →
        after.world.progression = config.world.progression ∨
          CreationPlan.Step config.world.progression after.world.progression) ∧
      ∀ {after}, (creators Process).Reaches config after → KeepsClaim config.world after.world := by
  have planned := noArtefact_planned Process
  obtain ⟨sound, -⟩ := planned.reaches creators_obey run
  obtain ⟨soundSession, -⟩ :=
    (noArtefact_sound Process).reaches processes_obey (reaches_of_creators run)
  have tenures : ∀ process, (config.doing process).state.Planned config.world := by
    intro process
    cases doing : config.doing process with
    | idle tenure => exact sound.idle doing
    | busy call tenure rest => exact (sound.busy doing).1
  have opened : ∀ {process opened store outcomes},
      (config.doing process).state = .live opened store outcomes → Opened opened config.world := by
    intro process opened store outcomes doing
    have holds := tenures process
    rw [doing] at holds
    exact holds
  refine ⟨⟨?_, CreationPlan.presence_of_observed, sound.invariant.recorded,
    fun doing => (opened doing).carries, ?_⟩, ?_, ?_⟩
  · exact planned.follows creators_obey (fun sound step => progresses_of_step sound step) run
  · intro process store live
    obtain ⟨frames, tail, session⟩ := live.session soundSession
    have present : (config.world.content .pgnoFile).isSome = true := by rw [session.stands]; rfl
    obtain ⟨seed, whole⟩ := sound.invariant.events present
    exact SharedFiles.progression_of_events whole present
  · exact fun step => progresses_of_step sound step
  · intro after further claim seeded
    obtain ⟨later, furthers⟩ := sound.reaches creators_obey further
    exact furthers.seededClaim later.invariant seeded

end Runs

section Created

attribute [local instance] standardDigests

/-- A creation that goes through follows the plan to its end. -/
theorem creation_follows_plan_seeded : ∃ config : FileConfiguration Nat,
    (creators Nat).Reaches (noArtefact Nat) config ∧
      (config.doing 0).state = seededTenure ∧ FollowsPlan config ∧
      config.world.progression = some .complete ∧
        config.world.seededClaim = some (bareClaim 1) := by
  obtain ⟨program, after, possible, runs, -, -⟩ := runs_seededCreation
  have admitted : seededDescriptor.Admitted := rfl
  have typed : (ProcessCall.opening seededCreation).Typed := admitted
  have programmed : (creators Nat).program (.opening seededCreation) .waiting = some program := by
    rw [creators_program typed]
    exact possible
  let config : FileConfiguration Nat :=
    ⟨after, Function.update (noArtefact Nat).doing 0 (.idle seededTenure)⟩
  have idle : (noArtefact Nat).doing 0 = .idle .waiting := rfl
  have reached : (creators Nat).Reaches (noArtefact Nat) config :=
    Pool.reaches_call idle programmed runs
  have doing : config.doing 0 = .idle seededTenure := by simp [config]
  have state : (config.doing 0).state = seededTenure := by rw [doing]; rfl
  obtain ⟨follows, -, -⟩ := creation_follows_plan reached
  obtain ⟨claim, seeded, rfl⟩ := follows.carries state
  exact ⟨config, reached, state, follows, follows.complete (.between doing), seeded⟩

end Created

end Pardosa
