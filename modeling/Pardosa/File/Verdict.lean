import Pardosa.File.Creation

/-!
# The verdict of an opening

What an artefact holds decides how an opening for writing ends when nothing
fails and nobody interferes: the records it can be told apart by, then the frames
of its events. `Artefact.writeVerdict` states that decision without files or
streams; the file adapter arrives at it.
-/

namespace Pardosa

open Foundation

/-- The value of an operation, or the condition it was refused with. -/
def conditionOf {α : Type} (outcome : Except OperationFailure α) : Except FailureCondition α :=
  outcome.mapError OperationFailure.condition

/-- A value is not touched. -/
@[simp] theorem conditionOf_ok {α : Type} (value : α) :
    conditionOf (.ok value) = .ok value := rfl

/-- Refused when a condition holds. -/
def refusedWhen (holds : Prop) [Decidable holds] (condition : FailureCondition) :
    Except FailureCondition Unit :=
  if holds then .error condition else .ok ()

/-- A value that has to be there. -/
def requiredOr {α : Type} (value : Option α) (condition : FailureCondition) :
    Except FailureCondition α :=
  match value with
  | some found => .ok found
  | none => .error condition

/-- A value that has to be there is found where it is. -/
theorem requiredOr_eq_ok {α : Type} {value : Option α} {condition : FailureCondition} {found : α} :
    requiredOr value condition = .ok found ↔ value = some found := by
  cases value <;> simp [requiredOr]

section Settles

variable {S : Signature} {σ α β : Type}

/-- An action that decides without performing anything, as a verdict says. -/
def Settles (action : Action S OperationFailure σ α) (verdict : Except FailureCondition α) : Prop :=
  ∃ outcome, (∀ state, action state = .ret (outcome, state)) ∧ conditionOf outcome = verdict

/-- A sequence decides when both of its parts do. -/
theorem settles_bind {action : Action S OperationFailure σ α} {verdict : Except FailureCondition α}
    {next : α → Action S OperationFailure σ β} {rest : α → Except FailureCondition β}
    (first : Settles action verdict) (second : ∀ value, Settles (next value) (rest value)) :
    Settles (action >>= next) (verdict >>= rest) := by
  obtain ⟨outcome, decides, rfl⟩ := first
  cases outcome with
  | error failure => exact ⟨.error failure, fun state => Action.bind_of_error (decides state), rfl⟩
  | ok value =>
      obtain ⟨later, decidesLater, verdictLater⟩ := second value
      exact ⟨later, fun state => (Action.bind_of_ok (decides state)).trans (decidesLater state),
        verdictLater⟩

/-- A value is decided. -/
theorem settles_pure (value : α) : Settles (pure value : Action S OperationFailure σ α)
    (pure value) := ⟨.ok value, fun _ => rfl, rfl⟩

/-- A refusal decides by its condition. -/
theorem settles_refuseIf {condition : Prop} [Decidable condition] {failure : OperationFailure} :
    Settles (Action.refuseIf condition failure : Action S OperationFailure σ Unit)
      (refusedWhen condition failure.condition) := by
  unfold refusedWhen
  by_cases holds : condition
  · rw [if_pos holds]
    exact ⟨.error failure, fun state => Action.refuseIf_of_holds _ state holds, rfl⟩
  · rw [if_neg holds]
    exact ⟨.ok (), fun state => Action.refuseIf_of_not _ state holds, rfl⟩

/-- A value that has to be there decides by being there. -/
theorem settles_require {value : Option α} {failure : OperationFailure} :
    Settles (Action.require value failure : Action S OperationFailure σ α)
      (requiredOr value failure.condition) := by
  cases value with
  | none => exact ⟨.error failure, fun _ => rfl, rfl⟩
  | some found => exact ⟨.ok found, fun _ => rfl, rfl⟩

/-- An outcome decides itself. -/
theorem settles_ofExcept (outcome : Except OperationFailure α) :
    Settles (Action.ofExcept outcome : Action S OperationFailure σ α) (conditionOf outcome) :=
  ⟨outcome, fun _ => rfl, rfl⟩

variable {World γ : Type} {handler : Handler S World} {state : σ} {world : World} {view : β → γ}

/-- Undisturbed and without failures, an action ends as a verdict says; of its
value only a view matters. -/
def EndsAs (handler : Handler S World) (action : Action S OperationFailure σ β) (state : σ)
    (world : World) (view : β → γ) (verdict : Except FailureCondition γ) : Prop :=
  conditionOf (((action state).evaluate handler world).1.1.map view) = verdict

/-- A part that is known to leave the state, and the rest. -/
theorem endsAs_bind {action : Action S OperationFailure σ α} {outcome : Except OperationFailure α}
    {later : World} {verdict : Except FailureCondition α} {next : α → Action S OperationFailure σ β}
    {rest : α → Except FailureCondition γ}
    (first : (action state).evaluate handler world = ((outcome, state), later))
    (decided : conditionOf outcome = verdict)
    (second : ∀ value, outcome = .ok value → EndsAs handler (next value) state later view
      (rest value)) :
    EndsAs handler (action >>= next) state world view (verdict >>= rest) := by
  subst decided
  unfold EndsAs at second ⊢
  cases outcome with
  | error failure =>
      rw [Action.evaluate_bind_error first]
      rfl
  | ok value =>
      rw [Action.evaluate_bind first, second value rfl]
      rfl

/-- A part that succeeds, and the rest. -/
theorem endsAs_bind_ok {action : Action S OperationFailure σ α} {value : α} {later : World}
    {next : α → Action S OperationFailure σ β} {verdict : Except FailureCondition γ}
    (first : (action state).evaluate handler world = ((.ok value, state), later))
    (second : EndsAs handler (next value) state later view verdict) :
    EndsAs handler (action >>= next) state world view verdict := by
  unfold EndsAs at second ⊢
  rw [Action.evaluate_bind first, second]

/-- A part that decides without performing anything, and the rest. -/
theorem endsAs_bind_settles {action : Action S OperationFailure σ α}
    {verdict : Except FailureCondition α} {next : α → Action S OperationFailure σ β}
    {rest : α → Except FailureCondition γ} (first : Settles action verdict)
    (second : ∀ value, verdict = .ok value → EndsAs handler (next value) state world view
      (rest value)) :
    EndsAs handler (action >>= next) state world view (verdict >>= rest) := by
  obtain ⟨outcome, decides, decided⟩ := first
  have evaluated : (action state).evaluate handler world = ((outcome, state), world) := by
    rw [decides]
    rfl
  refine endsAs_bind evaluated decided ?_
  rintro value rfl
  exact second value decided.symm

/-- Renaming the value of an action renames the verdict. -/
theorem endsAs_rename {action : Action S OperationFailure σ α} {rename : α → β} {narrow : α → γ}
    {verdict : Except FailureCondition γ} (same : ∀ value, view (rename value) = narrow value)
    (ends : EndsAs handler action state world narrow verdict) :
    EndsAs handler (do let value ← action; pure (rename value)) state world view verdict := by
  unfold EndsAs at ends ⊢
  rw [← ends]
  cases evaluated : (action state).evaluate handler world with
  | mk result later =>
      obtain ⟨outcome, after⟩ := result
      cases outcome with
      | error failure =>
          rw [Action.evaluate_bind_error evaluated]
          rfl
      | ok value =>
          rw [Action.evaluate_bind evaluated]
          exact congrArg (fun found => (Except.ok found : Except FailureCondition γ)) (same value)

/-- A verdict that admits comes from a value with its view. -/
theorem exists_of_endsAs_ok {action : Action S OperationFailure σ β} {seen : γ}
    (ends : EndsAs handler action state world view (.ok seen)) :
    ∃ value, ((action state).evaluate handler world).1.1 = .ok value ∧ view value = seen := by
  unfold EndsAs at ends
  cases outcome : ((action state).evaluate handler world).1.1 with
  | error failure =>
      rw [outcome] at ends
      cases ends
  | ok value =>
      rw [outcome] at ends
      exact ⟨value, rfl, Except.ok.inj ends⟩

/-- A verdict that refuses comes from a failure with its condition. -/
theorem exists_of_endsAs_error {action : Action S OperationFailure σ β}
    {condition : FailureCondition}
    (ends : EndsAs handler action state world view (.error condition)) :
    ∃ failure : OperationFailure, ((action state).evaluate handler world).1.1 = .error failure ∧
      failure.condition = condition := by
  unfold EndsAs at ends
  cases outcome : ((action state).evaluate handler world).1.1 with
  | error failure =>
      rw [outcome] at ends
      exact ⟨failure, rfl, Except.error.inj ends⟩
  | ok value =>
      rw [outcome] at ends
      cases ends

variable {S' : Signature} {World' σ' β' : Type} {handler' : Handler S' World'} {state' : σ'}
  {world' : World'} {view' : β' → γ}

/-- Two operations end alike: with values that look the same, or refused under
the same condition. -/
def EndAlike (view : β → γ) (view' : β' → γ) (outcome : Except OperationFailure β)
    (outcome' : Except OperationFailure β') : Prop :=
  (∃ value value', outcome = .ok value ∧ outcome' = .ok value' ∧ view value = view' value') ∨
    ∃ failure failure' : OperationFailure, outcome = .error failure ∧ outcome' = .error failure' ∧
      failure.condition = failure'.condition

/-- Operations that end as one verdict says end alike. -/
theorem endAlike_of_endsAs {action : Action S OperationFailure σ β}
    {action' : Action S' OperationFailure σ' β'} {verdict : Except FailureCondition γ}
    (ends : EndsAs handler action state world view verdict)
    (ends' : EndsAs handler' action' state' world' view' verdict) :
    EndAlike view view' ((action state).evaluate handler world).1.1
      ((action' state').evaluate handler' world').1.1 := by
  cases verdict with
  | error condition =>
      obtain ⟨failure, refused, named⟩ := exists_of_endsAs_error ends
      obtain ⟨failure', refused', named'⟩ := exists_of_endsAs_error ends'
      exact Or.inr ⟨failure, failure', refused, refused', named.trans named'.symm⟩
  | ok seen =>
      obtain ⟨value, found, shows⟩ := exists_of_endsAs_ok ends
      obtain ⟨value', found', shows'⟩ := exists_of_endsAs_ok ends'
      exact Or.inl ⟨value, value', found, found', shows.trans shows'.symm⟩

end Settles

/-- What a session derives from the events of its artefact. -/
def Store.derived {Engine : Type} (store : Store Engine) : SessionIndex × RollingCommitment :=
  (store.fiberIndex, store.rollingCommitment)

/-- The payloads an artefact holds, as ownership records and as events. -/
structure Artefact where
  records : Option (List Bytes)
  events : Option (List Bytes)
deriving DecidableEq, Repr

namespace Artefact

/-- Every payload fits a frame. -/
structure Fits (artefact : Artefact) : Prop where
  records : ∀ payloads ∈ artefact.records, ∀ payload ∈ payloads, payload.length ≤ u32Max
  events : ∀ payloads ∈ artefact.events, ∀ payload ∈ payloads, payload.length ≤ u32Max

/-- Which parts of the artefact are there. -/
def presence (artefact : Artefact) : ArtefactPresence :=
  match artefact.records, artefact.events with
  | none, none => .none
  | some _, none => .ownershipRecordOnly
  | none, some _ => .eventDataOnly
  | some _, some _ => .both

end Artefact

variable [Digests]

namespace MetaRecords

/-- The records carry a schema descriptor that is admissible. -/
def describes (records : MetaRecords) : Except FailureCondition Unit := do
  let descriptor ← requiredOr records.schemaDescriptor .missingSchemaDescriptor
  let _ ← (AdmittedDescriptor.tryFromDescriptor descriptor).mapError fun _ =>
    FailureCondition.missingSchemaDescriptor
  return ()

/-- Whether the records of a complete artefact admit a writer. -/
def admitsWriter (records : MetaRecords) (epoch : UInt64) : Except FailureCondition Unit := do
  refusedWhen records.outboundPointer.isSome .retiredMigrationSource
  records.describes
  let claim ← requiredOr records.latestClaim .ownershipRecordUnreadable
  refusedWhen (claim.epoch ≠ epoch) .staleEpoch

/-- Whether the records of an artefact without events admit a writer that
completes it, and the claim it completes. -/
def admitsCompletion (records : MetaRecords) (epoch : UInt64) : Except FailureCondition Unit := do
  refusedWhen records.outboundPointer.isSome .retiredMigrationSource
  let claim ← requiredOr records.latestClaim .ownershipUnestablished
  refusedWhen (claim.epoch ≠ epoch) .staleEpoch
  records.describes

end MetaRecords

section Records

variable {S : Signature} {σ : Type} {records : MetaRecords}

/-- A check of the descriptor decides without performing anything, whatever its refusals
say. -/
theorem settles_describes {absent : String} {invalid : OperationFailure → OperationFailure}
    (named : ∀ failure, (invalid failure).condition = .missingSchemaDescriptor) :
    Settles (do
        let descriptor ← Action.require records.schemaDescriptor ⟨.missingSchemaDescriptor, absent⟩
        let _ ← Action.ofExcept ((AdmittedDescriptor.tryFromDescriptor descriptor).mapError invalid)
        return () : Action S OperationFailure σ Unit)
      records.describes := by
  unfold MetaRecords.describes
  refine settles_bind settles_require fun descriptor => ?_
  refine settles_bind ?_ fun _ => settles_pure ()
  cases admits : AdmittedDescriptor.tryFromDescriptor descriptor with
  | error failure => exact ⟨_, fun _ => rfl, congrArg Except.error (named failure)⟩
  | ok admitted => exact settles_ofExcept _

/-- So do the checks of `openWrite`. -/
theorem settles_admitsWriter {check : Action S OperationFailure σ Unit}
    (describes : Settles check records.describes) {epoch : UInt64}
    {retired unclaimed superseded : String} :
    Settles (do
        Action.refuseIf records.outboundPointer.isSome ⟨.retiredMigrationSource, retired⟩
        check
        let claim ← Action.require records.latestClaim ⟨.ownershipRecordUnreadable, unclaimed⟩
        Action.refuseIf (claim.epoch ≠ epoch) ⟨.staleEpoch, superseded⟩)
      (records.admitsWriter epoch) := by
  unfold MetaRecords.admitsWriter
  refine settles_bind settles_refuseIf fun _ => ?_
  refine settles_bind describes fun _ => ?_
  exact settles_bind settles_require fun claim => settles_refuseIf

end Records

/-- How opening an artefact for writing ends. -/
def Artefact.writeVerdict (artefact : Artefact) (epoch : UInt64) :
    Except FailureCondition (SessionIndex × RollingCommitment) :=
  match artefact.records, artefact.events with
  | none, none => .error .noArtefactExists
  | none, some _ => .error .ownershipUnestablished
  | some payloads, none => do
      let records ← conditionOf (MetaRecords.ofFrames payloads)
      records.admitsCompletion epoch
      return (.new, .new)
  | some payloads, some events => do
      let records ← conditionOf (MetaRecords.ofFrames payloads)
      records.admitsWriter epoch
      let index ← conditionOf (SessionIndex.buildFromFrames events)
      return (index, RollingCommitment.new.absorb events)

/-- The index of a reader, and the cause it answers with when it has none. -/
def Store.shown {Engine : Type} (store : Store Engine) : SessionIndex × Option FailureCondition :=
  (store.fiberIndex, store.brokenReaderCause)

/-- What recovery hands to a reader. -/
def readerDelivery (events : List Bytes) : Except OperationFailure Nat × Store.ReaderCapture :=
  deliverFrames Store.recoverReaderFrame 0 events ⟨.new, .new, none⟩

/-- What a reader of events shows. -/
def shownTo (events : List Bytes) : SessionIndex × Option FailureCondition :=
  (Store.concludeReader () (readerDelivery events).1 (readerDelivery events).2).shown

/-- What a reader shows does not depend on its engine. -/
theorem Store.shown_concludeReader {Engine : Type} (engine : Engine) (events : List Bytes) :
    (Store.concludeReader engine (readerDelivery events).1 (readerDelivery events).2).shown =
      shownTo events := by
  unfold shownTo concludeReader
  split
  all_goals rfl

/-- The records a reader finds; a record that is not there holds none. -/
def Artefact.foundRecords : Option (List Bytes) → Except FailureCondition MetaRecords
  | none => .ok .empty
  | some payloads => conditionOf (MetaRecords.ofFrames payloads)

/-- How opening an artefact for reading ends when its events are there. -/
def Artefact.readVerdict (records : Option (List Bytes)) (events : List Bytes) :
    Except FailureCondition (OpenAdmission × SessionIndex × Option FailureCondition) := do
  let found ← foundRecords records
  let admission ← conditionOf
    (admitOpen (Artefact.presence ⟨records, some events⟩) found.latestClaim false)
  return (admission, shownTo events)

/-- The files hold an artefact. -/
structure FileWorld.Holds (world : FileWorld) (artefact : Artefact) : Prop where
  records : (world .metaFile).content = artefact.records.map containerBytes
  events : (world .pgnoFile).content = artefact.events.map containerBytes

namespace FileStorageAdapter

variable {σ : Type}

/-- The descriptor check decides without touching a file. -/
theorem requireDescriptor_settles (records : MetaRecords) :
    Settles (requireDescriptor records : Action fileOperations OperationFailure σ Unit)
      records.describes :=
  settles_describes fun _ => rfl

/-- The checks of `openWrite` decide without touching a file. -/
theorem admitRecords_settles (records : MetaRecords) (epoch : UInt64) :
    Settles (admitRecords records epoch : Action fileOperations OperationFailure σ Unit)
      (records.admitsWriter epoch) :=
  settles_admitsWriter (requireDescriptor_settles records)

/-- Opening with both files there: the records are checked, and the rest is up to
the event data. -/
theorem openWrite_recorded {adapter : FileStorageAdapter} {world : FileWorld}
    {payloads : List Bytes} {content : Bytes} (standard : adapter.exclusionPolicy = .standard)
    (recordsFit : ∀ payload ∈ payloads, payload.length ≤ u32Max)
    (recorded : (world .metaFile).content = some (containerBytes payloads))
    (stored : (world .pgnoFile).content = some content) (epoch : UInt64) (state : σ)
    {verdict : Except FailureCondition (SessionIndex × RollingCommitment)}
    (decided : ∀ later : FileWorld, (later .pgnoFile).content = some content →
      EndsAs fileHandler (do
        let (scan, recoveredTailTruncation) ← scanAndReconcile
        Action.within (adapter.engine epoch scan.frames.length recoveredTailTruncation)
          Store.openWriter) state later Store.derived verdict) :
    EndsAs fileHandler (adapter.openWrite epoch) state world Store.derived (do
      let records ← conditionOf (MetaRecords.ofFrames payloads)
      records.admitsWriter epoch
      verdict) := by
  have present : (adapter.tryPresence state).evaluate fileHandler world =
      ((.ok .both, state), world) := by
    rw [evaluate_tryPresence, recorded, stored]
    rfl
  have proceeds : (adapter.checkOpenWritePresence epoch state).evaluate fileHandler world =
      ((.ok none, state), world) := by
    unfold checkOpenWritePresence
    rw [Action.evaluate_bind present]
    rfl
  have opens : (FileRequest.send .openFile .pgnoFile).evaluate fileHandler world =
      (.ok (), Function.update world .pgnoFile ⟨some content, 0⟩) := by
    rw [evaluate_send]
    simp only [FileRequest.serve, FileState.present, stored]
  have metaKept : (Function.update world .pgnoFile ⟨some content, 0⟩ .metaFile).content =
      some (containerBytes payloads) := by
    rw [Function.update_of_ne (by decide), recorded]
  obtain ⟨later, read, kept, -⟩ := evaluate_readMetaRecords state recordsFit metaKept
  have stillStands : (later .pgnoFile).content = some content := by
    rw [kept, Function.update_self]
  unfold openWrite
  refine endsAs_bind_ok proceeds ?_
  refine endsAs_bind_ok (evaluate_orRefuse opens) ?_
  rw [standard]
  refine endsAs_bind_ok (evaluate_acquireFileExclusion state _) ?_
  refine endsAs_bind read rfl fun records _ => ?_
  refine endsAs_bind_settles (admitRecords_settles records epoch) fun _ _ => ?_
  exact decided later stillStands

/-- Opening a complete artefact: the records are checked, then the events are
recovered. -/
theorem openWrite_both {adapter : FileStorageAdapter} {world : FileWorld}
    {payloads events : List Bytes} (standard : adapter.exclusionPolicy = .standard)
    (recordsFit : ∀ payload ∈ payloads, payload.length ≤ u32Max)
    (eventsFit : ∀ event ∈ events, event.length ≤ u32Max)
    (recorded : (world .metaFile).content = some (containerBytes payloads))
    (stored : (world .pgnoFile).content = some (containerBytes events)) (epoch : UInt64)
    (state : σ) :
    EndsAs fileHandler (adapter.openWrite epoch) state world Store.derived
      (Artefact.writeVerdict ⟨some payloads, some events⟩ epoch) := by
  refine openWrite_recorded standard recordsFit recorded stored epoch state ?_
  intro later stands
  obtain ⟨recovered, position, reconciled⟩ :=
    evaluate_scanAndReconcile state stands (scanContainer_clean eventsFit)
  have left : (Function.update later .pgnoFile ⟨some ((containerBytes events).take
      (containerBytes events).length), position⟩ .pgnoFile).content =
        some (containerBytes events) := by
    rw [Function.update_self, List.take_length]
  obtain ⟨final, opened⟩ := FileEngine.evaluate_openWriter
    (rfl : (adapter.engine epoch events.length recovered).file = true) eventsFit left
  refine endsAs_bind_ok reconciled ?_
  unfold EndsAs
  rw [Action.evaluate_within opened state]
  cases SessionIndex.buildFromFrames events with
  | error failure => rfl
  | ok index => rfl

/-- Event data without a whole header is not opened. -/
theorem openWrite_short {adapter : FileStorageAdapter} {world : FileWorld}
    {payloads : List Bytes} {part : Bytes} (standard : adapter.exclusionPolicy = .standard)
    (recordsFit : ∀ payload ∈ payloads, payload.length ≤ u32Max)
    (recorded : (world .metaFile).content = some (containerBytes payloads))
    (stored : (world .pgnoFile).content = some part) (short : part.length < 12) (epoch : UInt64)
    (state : σ) :
    EndsAs fileHandler (adapter.openWrite epoch) state world Store.derived (do
      let records ← conditionOf (MetaRecords.ofFrames payloads)
      records.admitsWriter epoch
      .error (.precursorChainBroken none)) := by
  refine openWrite_recorded standard recordsFit recorded stored epoch state ?_
  intro later stands
  have refused : (scanAndReconcile state).evaluate fileHandler later = _ :=
    Action.evaluate_bind_error (evaluate_readContainerFrames_short state stands short)
  unfold EndsAs
  rw [Action.evaluate_bind_error refused]
  rfl

/-- A creation is completed with a bare header, over which a session is empty. -/
theorem completeCreation_endsAs {adapter : FileStorageAdapter} {world : FileWorld}
    {payloads : List Bytes} {records : MetaRecords} {claim : OwnershipClaimRecord}
    (standard : adapter.exclusionPolicy = .standard)
    (recordsFit : ∀ payload ∈ payloads, payload.length ≤ u32Max)
    (recorded : (world .metaFile).content = some (containerBytes payloads))
    (missing : (world .pgnoFile).content = none)
    (decoded : MetaRecords.ofFrames payloads = .ok records)
    (claimed : records.latestClaim = some claim) (state : σ) :
    EndsAs fileHandler (adapter.completeCreation claim) state world Store.derived
      (do records.describes; return (.new, .new)) := by
  have present : (adapter.tryPresence state).evaluate fileHandler world =
      ((.ok .ownershipRecordOnly, state), world) := by
    rw [evaluate_tryPresence, recorded, missing]
    rfl
  obtain ⟨later, read, kept, -⟩ := evaluate_readMetaRecords state recordsFit recorded
  rw [decoded] at read
  have creates : (FileRequest.send .createNew .pgnoFile).evaluate fileHandler later =
      (.ok (), Function.update later .pgnoFile ⟨some [], 0⟩) := by
    rw [evaluate_send]
    simp only [FileRequest.serve, kept, missing]
    rfl
  have writes := evaluate_writeAll ContainerHeader.new.toBytes
    (Function.update_self _ _ _ :
      Function.update later .pgnoFile ⟨some [], 0⟩ .pgnoFile = ⟨some [], ([] : Bytes).length⟩)
  rw [Function.update_idem] at writes
  generalize headed : Function.update later .pgnoFile ⟨some ([] ++ ContainerHeader.new.toBytes),
    ([] ++ ContainerHeader.new.toBytes : Bytes).length⟩ = written at writes
  have syncs : (FileRequest.send .syncData .pgnoFile).evaluate fileHandler written =
      (.ok (), written) := by
    rw [evaluate_send]
    simp only [FileRequest.serve, Function.update_eq_self]
  have bare : (written .pgnoFile).content = some (containerBytes []) := by
    rw [← headed, Function.update_self]
    simp [containerBytes, framesBytes]
  obtain ⟨final, opened⟩ := FileEngine.evaluate_openWriter
    (rfl : (adapter.engine claim.epoch 0 none).file = true) (List.forall_mem_nil _) bare
  unfold completeCreation
  refine endsAs_bind_ok present ?_
  refine endsAs_bind_ok read ?_
  refine endsAs_bind_settles (requireDescriptor_settles records) fun _ _ => ?_
  rw [claimed]
  refine endsAs_bind_ok rfl ?_
  refine endsAs_bind_ok (Action.evaluate_refuseIf (by simp) state later) ?_
  refine endsAs_bind_ok (Action.evaluate_lift creates state) ?_
  refine endsAs_bind_ok rfl ?_
  refine endsAs_bind_ok (evaluate_orRefuse writes) ?_
  refine endsAs_bind_ok (evaluate_orRefuse syncs) ?_
  rw [standard]
  refine endsAs_bind_ok (evaluate_acquireFileExclusion state _) ?_
  unfold EndsAs
  rw [Action.evaluate_within opened state]
  rfl

/-- Opening an artefact without events completes its creation. -/
theorem openWrite_recordOnly {adapter : FileStorageAdapter} {world : FileWorld}
    {payloads : List Bytes} (standard : adapter.exclusionPolicy = .standard)
    (recordsFit : ∀ payload ∈ payloads, payload.length ≤ u32Max)
    (recorded : (world .metaFile).content = some (containerBytes payloads))
    (missing : (world .pgnoFile).content = none) (epoch : UInt64) (state : σ) :
    EndsAs fileHandler (adapter.openWrite epoch) state world Store.derived
      (Artefact.writeVerdict ⟨some payloads, none⟩ epoch) := by
  have present : (adapter.tryPresence state).evaluate fileHandler world =
      ((.ok .ownershipRecordOnly, state), world) := by
    rw [evaluate_tryPresence, recorded, missing]
    rfl
  obtain ⟨later, read, kept, metaKept⟩ := evaluate_readMetaRecords state recordsFit recorded
  have stillMissing : (later .pgnoFile).content = none := by rw [kept, missing]
  unfold openWrite checkOpenWritePresence Artefact.writeVerdict
  rw [Action.bind_assoc]
  refine endsAs_bind_ok present ?_
  simp only [Action.bind_assoc]
  refine endsAs_bind read rfl fun records decoded => ?_
  unfold MetaRecords.admitsCompletion
  simp only [bind_assoc]
  refine endsAs_bind_settles settles_refuseIf fun _ _ => ?_
  refine endsAs_bind_settles settles_require fun claim claimed => ?_
  refine endsAs_bind_settles settles_refuseIf fun _ _ => ?_
  exact endsAs_rename (fun _ => rfl) (completeCreation_endsAs standard recordsFit metaKept
    stillMissing decoded (requiredOr_eq_ok.mp claimed) state)

/-- Without failures and competitors, opening files for writing ends as what they
hold says. -/
theorem openWrite_verdict {adapter : FileStorageAdapter} {world : FileWorld} {artefact : Artefact}
    (standard : adapter.exclusionPolicy = .standard) (fits : artefact.Fits)
    (holds : world.Holds artefact) (epoch : UInt64) (state : σ) :
    EndsAs fileHandler (adapter.openWrite epoch) state world Store.derived
      (artefact.writeVerdict epoch) := by
  obtain ⟨records, events⟩ := artefact
  obtain ⟨recorded, stored⟩ := holds
  cases records with
  | some payloads =>
      have recordsFit := fits.records payloads rfl
      cases events with
      | some frames =>
          exact openWrite_both standard recordsFit
            (fits.events frames rfl) recorded stored epoch state
      | none => exact openWrite_recordOnly standard recordsFit recorded stored epoch state
  | none =>
      have present := evaluate_tryPresence adapter state world
      rw [recorded, stored] at present
      unfold openWrite checkOpenWritePresence
      rw [Action.bind_assoc]
      cases events with
      | some frames => exact endsAs_bind_ok present rfl
      | none => exact endsAs_bind_ok present rfl

omit [Digests] in
/-- Without failures, looking for a file finds it when it is there. -/
theorem evaluate_pathExists (name : FileName) (world : FileWorld) :
    (pathExists name).evaluate fileHandler world = ((world name).content.isSome, world) := by
  unfold pathExists
  rw [Program.evaluate_bind, evaluate_send]
  simp only [FileRequest.serve, Function.update_eq_self]
  rfl

/-- Without failures, a reader scans complete event data. -/
theorem evaluate_scanForReading (state : σ) {world : FileWorld} {events : List Bytes}
    (fits : ∀ event ∈ events, event.length ≤ u32Max)
    (stands : (world .pgnoFile).content = some (containerBytes events)) :
    ∃ later, (scanForReading state).evaluate fileHandler world =
        ((.ok (true, events.length), state), later) ∧
      (later .pgnoFile).content = some (containerBytes events) := by
  have found : (pathExists .pgnoFile).evaluate fileHandler world = (true, world) := by
    rw [evaluate_pathExists, stands]
    rfl
  have opens : (FileRequest.send .openFile .pgnoFile).evaluate fileHandler world =
      (.ok (), Function.update world .pgnoFile ⟨some (containerBytes events), 0⟩) := by
    rw [evaluate_send]
    simp only [FileRequest.serve, FileState.present, stands]
  have atStart : (Function.update world .pgnoFile
      ⟨some (containerBytes events), 0⟩ .pgnoFile).content = some (containerBytes events) := by
    rw [Function.update_self]
  have long : 12 ≤ (containerBytes events).length := by
    simp [containerBytes]
  have read := evaluate_readContainerFrames state atStart long
  rw [scanContainer_clean fits, Function.update_idem] at read
  have seeks : (FileRequest.send (.seekStart 0) .pgnoFile).evaluate fileHandler
      (Function.update world .pgnoFile
        ⟨some (containerBytes events), (containerBytes events).length⟩) =
      (.ok 0, Function.update world .pgnoFile ⟨some (containerBytes events), 0⟩) := by
    rw [evaluate_send]
    simp [FileRequest.serve, FileState.present]
  refine ⟨Function.update world .pgnoFile ⟨some (containerBytes events), 0⟩, ?_, atStart⟩
  unfold scanForReading
  rw [Action.evaluate_bind (Action.evaluate_lift found state)]
  simp only [Bool.not_true, Bool.false_eq_true, if_false]
  rw [Action.evaluate_bind (evaluate_orRefuse opens), Action.evaluate_bind read,
    Action.evaluate_bind (Action.evaluate_refuseIf (by simp) _ _),
    Action.evaluate_bind (evaluate_orRefuse seeks)]
  rfl

/-- Without failures, a reader of complete event data shows what its frames say. -/
theorem reader_endsAs {engine : FileEngine} {world : FileWorld} {events : List Bytes}
    (admission : OpenAdmission) (opened : engine.file = true)
    (fits : ∀ event ∈ events, event.length ≤ u32Max)
    (stands : (world .pgnoFile).content = some (containerBytes events)) (state : σ) :
    EndsAs fileHandler (do
        let store ← Action.within engine Store.openReader
        return (admission, store)) state world (fun opened => (opened.1, opened.2.shown))
      (.ok (admission, shownTo events)) := by
  have reads : (Store.openReader engine).evaluate fileHandler world = _ :=
    Store.evaluate_openReader
      (FileEngine.evaluate_recoverFrames Store.recoverReaderFrame _ opened fits stands)
  refine endsAs_bind_ok (Action.evaluate_within reads state) ?_
  exact congrArg (fun shown => (Except.ok (admission, shown) : Except FailureCondition _))
    (Store.shown_concludeReader _ events)

/-- Without failures, the records are read where there are any. -/
theorem evaluate_readFoundRecords (state : σ) {world : FileWorld} {records : Option (List Bytes)}
    {events : List Bytes}
    (recordsFit : ∀ payloads ∈ records, ∀ payload ∈ payloads, payload.length ≤ u32Max)
    (recorded : (world .metaFile).content = records.map containerBytes)
    (stored : (world .pgnoFile).content = some (containerBytes events)) :
    ∃ outcome later, (readFoundRecords state).evaluate fileHandler world =
        ((outcome, state), later) ∧
      conditionOf outcome = Artefact.foundRecords records ∧
      (later .pgnoFile).content = some (containerBytes events) := by
  unfold readFoundRecords
  rw [Action.evaluate_bind (Action.evaluate_lift (evaluate_pathExists .metaFile world) state),
    recorded]
  cases records with
  | none => exact ⟨.ok .empty, world, rfl, rfl, stored⟩
  | some payloads =>
      obtain ⟨later, read, kept, -⟩ :=
        evaluate_readMetaRecords state (recordsFit payloads rfl) recorded
      exact ⟨MetaRecords.ofFrames payloads, later, read, rfl, by rw [kept, stored]⟩

/-- Without failures and competitors, opening files for reading ends as what they
hold says. -/
theorem openRead_verdict {adapter : FileStorageAdapter} {world : FileWorld}
    {records : Option (List Bytes)} {events : List Bytes}
    (fits : Artefact.Fits ⟨records, some events⟩) (holds : world.Holds ⟨records, some events⟩)
    (state : σ) :
    EndsAs fileHandler adapter.openRead state world (fun opened => (opened.1, opened.2.shown))
      (Artefact.readVerdict records events) := by
  obtain ⟨recorded, stored⟩ := holds
  have eventsFit := fits.events events rfl
  have present : (adapter.tryPresence state).evaluate fileHandler world =
      ((.ok (Artefact.presence ⟨records, some events⟩), state), world) := by
    rw [evaluate_tryPresence, recorded, stored]
    cases records with
    | none => rfl
    | some payloads => rfl
  have some : Artefact.presence ⟨records, some events⟩ ≠ .none := by
    cases records <;> simp [Artefact.presence]
  obtain ⟨outcome, first, read, decided, stands⟩ :=
    evaluate_readFoundRecords state fits.records recorded stored
  unfold openRead Artefact.readVerdict
  refine endsAs_bind_ok present ?_
  refine endsAs_bind_ok (Action.evaluate_refuseIf some state world) ?_
  refine endsAs_bind read decided fun found _ => ?_
  refine endsAs_bind_settles (settles_ofExcept _) fun admission _ => ?_
  obtain ⟨second, scanned, stillStands⟩ := evaluate_scanForReading state eventsFit stands
  refine endsAs_bind_ok scanned ?_
  exact reader_endsAs admission rfl eventsFit stillStands state

end FileStorageAdapter

end Pardosa
