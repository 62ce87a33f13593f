import Pardosa.File.Adapter

/-!
# Requests that leave the bytes alone

Reading, seeking, locking and synchronizing change no file. A program that asks
for nothing else leaves both files as they are, whatever fails on the way, so
each reading method needs one lemma: what it may ask for.
-/

namespace Pardosa

open Foundation

/-- Requests that leave the bytes of a file alone. -/
def FileRequest.isQuiet : FileRequest → Bool
  | .createNew | .write _ | .setLen _ => false
  | _ => true

/-- Requests that leave the bytes of a file and its lock alone. -/
def FileRequest.isCalm : FileRequest → Bool
  | .createNew | .write _ | .setLen _ | .tryLock | .unlock => false
  | _ => true

/-- What is calm is quiet. -/
theorem FileRequest.isQuiet_of_isCalm {request : FileRequest} (calm : request.isCalm = true) :
    request.isQuiet = true := by
  cases request with
  | createNew => cases calm
  | write bytes => cases calm
  | setLen len => cases calm
  | _ => rfl

/-- A quiet answer keeps the content of a file that is there. -/
theorem FileState.present_content {α : Type} (file : FileState)
    {answer : Bytes → Except IoError α × FileState}
    (quiet : ∀ content, file.content = some content → (answer content).2.content = some content) :
    (file.present answer).2.content = file.content := by
  unfold present
  cases known : file.content with
  | none => exact known
  | some content => exact quiet content known

/-- A quiet request keeps the content. -/
theorem FileRequest.performs_quiet {request : FileRequest} (quiet : request.isQuiet = true)
    {before after : FileState} {answer : request.Res}
    (performed : request.Performs before answer after) : after.content = before.content := by
  rcases performed with served | failed
  · have final : after = (request.serve before).2 := congrArg Prod.snd served
    rw [final]
    cases request with
    | createNew => cases quiet
    | write bytes => cases quiet
    | setLen len => cases quiet
    | tryExists => rfl
    | syncData => rfl
    | tryLock => rfl
    | unlock => rfl
    | openFile => exact before.present_content fun _ _ => rfl
    | seekStart position => exact before.present_content fun _ _ => rfl
    | seekEnd => exact before.present_content fun _ _ => rfl
    | readToEnd limit => exact before.present_content fun _ _ => rfl
    | metadataLen => exact before.present_content fun _ known => known
  · cases request with
    | createNew => cases quiet
    | write bytes => cases quiet
    | setLen len => cases quiet
    | readToEnd limit => exact failed.2
    | tryExists => exact congrArg _ failed.2
    | syncData => exact congrArg _ failed.2
    | tryLock => exact congrArg _ failed.2
    | unlock => exact congrArg _ failed.2
    | openFile => exact congrArg _ failed.2
    | seekStart position => exact congrArg _ failed.2
    | seekEnd => exact congrArg _ failed.2
    | metadataLen => exact congrArg _ failed.2

/-- No request makes a file go away. -/
theorem FileRequest.performs_present {request : FileRequest} {before after : FileState}
    {answer : request.Res} (performed : request.Performs before answer after)
    (present : before.content.isSome = true) : after.content.isSome = true := by
  obtain ⟨content, known⟩ := Option.isSome_iff_exists.mp present
  by_cases quiet : request.isQuiet = true
  · rw [performs_quiet quiet performed]
    exact present
  rcases performed with served | failed
  · have final : after = (request.serve before).2 := congrArg Prod.snd served
    cases request with
    | createNew => simp [final, serve, known]
    | write bytes => simp [final, serve, FileState.present, known]
    | setLen len => simp [final, serve, FileState.present, known]
    | _ => exact (quiet rfl).elim
  · cases request with
    | createNew => simp [failed.2, known]
    | setLen len => simp [failed.2, known]
    | write bytes =>
        rcases failed with ⟨-, same⟩ | ⟨count, -, taken⟩
        · simp [same, known]
        · have final := congrArg Prod.snd taken
          unfold FileState.present at final
          rw [known] at final
          exact congrArg (fun file => file.content.isSome) final
    | _ => exact (quiet rfl).elim

/-- An operation that leaves the bytes of its file alone. -/
def FileOp.IsQuiet (op : FileOp) : Prop := op.request.isQuiet = true

/-- Two worlds in which both files hold the same bytes. -/
def SameContents (before after : FileWorld) : Prop :=
  ∀ name, (after name).content = (before name).content

/-- A world has the contents that it has. -/
theorem SameContents.refl (world : FileWorld) : SameContents world world := fun _ => rfl

/-- Contents that stay the same twice stay the same. -/
theorem SameContents.trans {first second third : FileWorld} (left : SameContents first second)
    (right : SameContents second third) : SameContents first third :=
  fun name => (right name).trans (left name)

/-- A quiet operation keeps the contents. -/
theorem sameContents_of_quiet {op : FileOp} (quiet : op.IsQuiet) {before after : FileWorld}
    {answer : op.request.Res} (performed : fileSetting.exec op before answer after) :
    SameContents before after := by
  obtain ⟨file, performs, rfl⟩ := performed
  intro name
  by_cases same : name = op.name
  · subst same
    rw [Function.update_self]
    exact FileRequest.performs_quiet quiet performs
  · rw [Function.update_of_ne same]

section Only

variable {allowed : fileOperations.Op → Prop} {σ : Type}

/-- A single request uses what it asks for. -/
theorem only_send {request : FileRequest} {name : FileName}
    (permitted : allowed (⟨name, request⟩ : FileOp)) : (request.send name).Only allowed :=
  ⟨permitted, fun _ => trivial⟩

/-- A checked program uses what it used before. -/
theorem only_orRefuse {α : Type} {program : Program fileOperations (Except IoError α)}
    {condition : FailureCondition} {detail : String} (only : program.Only allowed) :
    (orRefuse program condition detail : Action fileOperations OperationFailure σ α).Only allowed :=
  Action.only_bind (Action.only_lift only) fun _ => Action.only_ofExcept _

/-- Looking for a file uses nothing else. -/
theorem pathExists_only {name : FileName}
    (permitted : allowed (⟨name, .tryExists⟩ : FileOp)) : (pathExists name).Only allowed := by
  refine Program.only_bind (only_send permitted) ?_
  rintro (failure | found)
  · trivial
  · trivial

/-- A `write_all` asks for writes only. -/
theorem writeAllLoop_only {name : FileName}
    (permits : ∀ bytes, allowed (⟨name, .write bytes⟩ : FileOp)) (rounds : Nat) (bytes : Bytes) :
    (writeAllLoop name rounds bytes).Only allowed := by
  induction rounds generalizing bytes with
  | zero => cases bytes <;> trivial
  | succ rounds ih =>
      cases bytes with
      | nil => trivial
      | cons byte bytes =>
          refine Program.only_bind (only_send (permits _)) ?_
          rintro (failure | _ | count)
          · trivial
          · trivial
          · exact ih _

/-- Taking the lock asks for nothing else. -/
theorem acquireFileExclusion_only (policy : FileExclusionPolicy)
    (permitted : allowed (⟨.pgnoFile, .tryLock⟩ : FileOp)) :
    (acquireFileExclusion policy : Action fileOperations OperationFailure σ Unit).Only allowed := by
  cases policy with
  | standard =>
      refine Action.only_bind (Action.only_lift (only_send permitted)) ?_
      rintro ((_ | failure) | _)
      · exact fun _ => trivial
      · exact fun _ => trivial
      · exact fun _ => trivial
  | simulateUnavailable => exact fun _ => trivial
  | simulateHeldByOther => exact fun _ => trivial

/-- Looking for an artefact asks whether its files are there. -/
theorem FileStorageAdapter.tryPresence_only (adapter : FileStorageAdapter)
    (permits : ∀ name, allowed (⟨name, .tryExists⟩ : FileOp)) :
    (adapter.tryPresence : Action fileOperations OperationFailure σ _).Only allowed := by
  refine Action.only_bind (only_orRefuse (only_send (permits .metaFile))) fun _ => ?_
  exact Action.only_bind (only_orRefuse (only_send (permits .pgnoFile))) fun _ => Action.only_pure _

variable [Digests] {name : FileName}

/-- Scanning a container asks its file for nothing but calm requests. -/
theorem readContainerFrames_only
    (permits : ∀ request : FileRequest, request.isCalm = true →
      allowed (⟨name, request⟩ : FileOp)) :
    (readContainerFrames name : Action fileOperations OperationFailure σ _).Only allowed := by
  refine Action.only_bind (only_orRefuse (only_send (permits _ rfl))) fun _ => ?_
  refine Action.only_bind (only_orRefuse (only_send (permits _ rfl))) fun fileLen => ?_
  refine Action.only_bind (Action.only_refuseIf _ _) fun _ => ?_
  refine Action.only_bind (only_orRefuse (only_send (permits (.readToEnd fileLen) rfl))) fun _ => ?_
  exact Action.only_bind (Action.only_refuseIf _ _) fun _ => Action.only_ofExcept _

/-- Reading the ownership records asks nothing of the event data. -/
theorem readMetaRecords_only
    (permits : ∀ request : FileRequest, request.isCalm = true →
      allowed (⟨.metaFile, request⟩ : FileOp)) :
    (readMetaRecords : Action fileOperations OperationFailure σ _).Only allowed := by
  refine Action.only_bind (Action.only_lift (pathExists_only (permits _ rfl))) fun present => ?_
  cases present with
  | false => exact Action.only_pure _
  | true =>
      refine Action.only_bind (only_orRefuse (only_send (permits _ rfl))) fun _ => ?_
      refine Action.only_bind (Action.only_attempt (readContainerFrames_only permits)) fun _ => ?_
      refine Action.only_bind (Action.only_ofExcept _) fun _ => ?_
      refine Action.only_bind (Action.only_refuseIf _ _) fun _ => ?_
      exact Action.only_bind (Action.only_refuseIf _ _) fun _ => Action.only_ofExcept _

/-- The check of authority uses calm requests to the record. -/
theorem FileEngine.checkAuthority_only
    (permits : ∀ request : FileRequest, request.isCalm = true →
      allowed (⟨.metaFile, request⟩ : FileOp)) : checkAuthority.Only allowed := by
  refine Action.only_bind Action.only_get fun _ => ?_
  refine Action.only_bind (Action.only_refuseIf _ _) fun _ => ?_
  refine Action.only_bind (Action.only_refuseIf _ _) fun _ => ?_
  refine Action.only_bind (readMetaRecords_only permits) fun _ => ?_
  refine Action.only_bind (Action.only_refuseIf _ _) fun _ => ?_
  exact Action.only_bind (Action.only_require _ _) fun _ => Action.only_refuseIf _ _

variable (permits : ∀ request : FileRequest, request.isCalm = true →
  allowed (⟨.pgnoFile, request⟩ : FileOp))

include permits

/-- A scan uses what reading the event data does. -/
theorem FileEngine.scanClean_only :
    (scanClean : Action fileOperations OperationFailure σ _).Only allowed := by
  refine Action.only_bind (only_orRefuse (only_send (permits _ rfl))) fun _ => ?_
  refine Action.only_bind (readContainerFrames_only permits) fun scan => ?_
  refine Action.only_bind (Action.only_refuseIf _ _) fun _ => ?_
  exact Action.only_bind (only_orRefuse (only_send (permits (.seekStart scan.validLen) rfl)))
    fun _ => Action.only_pure _

/-- So does a recovery. -/
theorem FileEngine.recoverFrames_only (onFrame : FrameRecoveryCallback σ) :
    (recoverFrames onFrame).Only allowed := by
  refine Action.only_bind Action.only_get ?_
  rintro ⟨engine, captured⟩
  dsimp only
  split_ifs with closed
  · exact Action.only_pure _
  · refine Action.only_bind (scanClean_only permits) fun scan => ?_
    exact Action.only_bind (fun _ => trivial) fun _ _ => trivial

/-- Opening a writer over event data only reads it. -/
theorem FileEngine.openWriter_only :
    (Store.openWriter : Action fileOperations OperationFailure FileEngine _).Only allowed := by
  intro engine
  refine Program.only_bind (recoverFrames_only permits _ _) ?_
  rintro ⟨_ | count, after, captured⟩
  · trivial
  · trivial

end Only

/-- An operation on the event data. -/
def OnEventData (op : FileOp) : Prop := op.name = .pgnoFile

/-- The second half of a creation touches the event data only. -/
theorem FileStorageAdapter.createEventData_only [Digests] {σ : Type} (adapter : FileStorageAdapter)
    (claim : OwnershipClaimRecord) :
    (adapter.createEventData claim : Action fileOperations OperationFailure σ _).Only
      OnEventData := by
  have created : (FileRequest.createNew.send .pgnoFile).Only
      (OnEventData : fileOperations.Op → Prop) := only_send rfl
  have written : (writeAll .pgnoFile ContainerHeader.new.toBytes).Only
      (OnEventData : fileOperations.Op → Prop) := writeAllLoop_only (fun _ => rfl) _ _
  have synced : (FileRequest.syncData.send .pgnoFile).Only
      (OnEventData : fileOperations.Op → Prop) := only_send rfl
  refine Action.only_bind (Action.only_lift created) fun _ => ?_
  refine Action.only_bind (Action.only_ofExcept _) fun _ => ?_
  refine Action.only_bind (only_orRefuse written) fun _ => ?_
  refine Action.only_bind (only_orRefuse synced) fun _ => ?_
  refine Action.only_bind (acquireFileExclusion_only _ rfl) fun _ state => ?_
  refine Program.only_bind (FileEngine.openWriter_only (fun _ _ => rfl) _) ?_
  rintro ⟨outcome, engine⟩
  trivial

end Pardosa
