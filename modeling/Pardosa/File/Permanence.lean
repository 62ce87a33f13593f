import Pardosa.File.CrashSafety
import Pardosa.File.Verdict
import Pardosa.Store.Ownership

/-!
# Retirement and supersession are permanent

The records of an artefact are folded with the last claim winning, and they are
only ever appended to. Four gates read them: the authority check of a session,
its appends, its synchronizations, and opening for writing. Whatever records come
later, and also while a gate is reading, none of them lets a writer of a retired
artefact or with a superseded epoch pass.
-/

namespace Pardosa

open Foundation

/-- The epoch of a frame that carries an ownership claim. -/
def claimedEpoch (frame : Bytes) : Option UInt64 :=
  match OwnershipRecord.decode frame with
  | .ok (.ownershipClaim claim, _) => some claim.epoch
  | _ => none

/-- Whether a frame carries an outbound pointer. -/
def isOutboundPointer (frame : Bytes) : Bool :=
  match OwnershipRecord.decode frame with
  | .ok (.outboundPointer _, _) => true
  | _ => false

/-- The epochs of the claims among some frames, in order. -/
def claimEpochs (frames : List Bytes) : List UInt64 := frames.filterMap claimedEpoch

/-- The epochs that frames claim are those of both parts. -/
theorem claimEpochs_append (first second : List Bytes) :
    claimEpochs (first ++ second) = claimEpochs first ++ claimEpochs second :=
  List.filterMap_append ..

namespace MetaRecords

variable {place : RecordPlace} {records after : MetaRecords} {frame : Bytes}

/-- A schema descriptor leaves everything but the schema descriptor as it was. -/
theorem absorbRecord_described {schemaVersion : UInt32} {descriptorBytes : Bytes}
    (absorbed : absorbRecord place records (.schemaDescriptor schemaVersion descriptorBytes) =
      .ok after) : ∃ descriptor, after = { records with schemaDescriptor := some descriptor } := by
  simp only [absorbRecord, bind_eq_ok] at absorbed
  obtain ⟨⟨root, consumed⟩, -, rest⟩ := absorbed
  obtain ⟨-, rest⟩ := throwIf_eq_ok.mp rest
  cases described : records.schemaDescriptor with
  | none =>
      rw [described] at rest
      cases rest
      exact ⟨_, rfl⟩
  | some existing =>
      rw [described] at rest
      obtain ⟨-, rest⟩ := throwIf_eq_ok.mp rest
      cases rest
      exact ⟨existing, by rw [← described]⟩

/-- No record takes an outbound pointer back, and only an outbound pointer sets one. -/
theorem absorbRecord_pointer {record : OwnershipRecord}
    (absorbed : absorbRecord place records record = .ok after) :
    after.outboundPointer = match record with
      | .outboundPointer pointer => some pointer
      | _ => records.outboundPointer := by
  cases record with
  | schemaDescriptor schemaVersion descriptorBytes =>
      obtain ⟨descriptor, rfl⟩ := absorbRecord_described absorbed
      rfl
  | _ =>
      cases absorbed
      rfl

/-- Records that are retired stay so. -/
theorem absorbRecord_retired {record : OwnershipRecord}
    (absorbed : absorbRecord place records record = .ok after)
    (retired : records.outboundPointer.isSome = true) : after.outboundPointer.isSome = true := by
  rw [absorbRecord_pointer absorbed]
  cases record with
  | outboundPointer pointer => rfl
  | _ => exact retired

/-- The last claim wins, and nothing else changes it. -/
theorem absorbRecord_claim {record : OwnershipRecord}
    (absorbed : absorbRecord place records record = .ok after) :
    after.latestClaim = match record with
      | .ownershipClaim claim => some claim
      | _ => records.latestClaim := by
  cases record with
  | schemaDescriptor schemaVersion descriptorBytes =>
      obtain ⟨descriptor, rfl⟩ := absorbRecord_described absorbed
      rfl
  | _ =>
      cases absorbed
      rfl

/-- The epoch of the last claim after one more frame. -/
theorem absorbFrame_epoch (absorbed : absorbFrame place records frame = .ok after) :
    after.latestClaim.map OwnershipClaimRecord.epoch =
      (claimedEpoch frame).or (records.latestClaim.map OwnershipClaimRecord.epoch) := by
  obtain ⟨record, consumed, decoded, taken⟩ := absorbFrame_ok absorbed
  rw [absorbRecord_claim taken, claimedEpoch, decoded]
  cases record with
  | ownershipClaim claim => rfl
  | _ => rfl

/-- Whether the artefact is retired after one more frame. -/
theorem absorbFrame_pointer (absorbed : absorbFrame place records frame = .ok after) :
    after.outboundPointer.isSome = (isOutboundPointer frame || records.outboundPointer.isSome) := by
  obtain ⟨record, consumed, decoded, taken⟩ := absorbFrame_ok absorbed
  rw [absorbRecord_pointer taken, isOutboundPointer, decoded]
  cases record with
  | outboundPointer pointer => rfl
  | _ => rfl

/-- Records that were read retired stay retired, whatever is appended. -/
theorem ofFrames_retired {original more : List Bytes} {final : MetaRecords}
    (readable : ofFrames original = .ok records) (retired : records.outboundPointer.isSome = true)
    (extended : ofFrames (original ++ more) = .ok final) : final.outboundPointer.isSome = true := by
  have folded : more.foldlM (absorbFrame inMetaFile) records = .ok final := by
    unfold ofFrames at readable extended
    rw [List.foldlM_append, readable] at extended
    exact extended
  clear extended readable
  induction more generalizing records with
  | nil =>
      cases folded
      exact retired
  | cons frame frames ih =>
      rw [List.foldlM_cons, bind_eq_ok] at folded
      obtain ⟨next, absorbed, rest⟩ := folded
      obtain ⟨record, consumed, -, taken⟩ := absorbFrame_ok absorbed
      exact ih (absorbRecord_retired taken retired) rest

/-- The latest claim is the last one among the frames. -/
theorem ofFrames_epoch {frames : List Bytes} (readable : ofFrames frames = .ok records) :
    records.latestClaim.map OwnershipClaimRecord.epoch = (claimEpochs frames).getLast? := by
  induction frames using List.reverseRecOn generalizing records with
  | nil =>
      cases readable
      rfl
  | append_singleton frames frame ih =>
      unfold ofFrames at readable
      rw [List.foldlM_append, bind_eq_ok] at readable
      obtain ⟨before, earlier, last⟩ := readable
      simp only [List.foldlM_cons, List.foldlM_nil, bind_pure] at last
      rw [absorbFrame_epoch last, ih earlier, claimEpochs_append]
      unfold claimEpochs
      cases claimed : claimedEpoch frame with
      | none => simp [claimed]
      | some epoch => simp [claimed]

end MetaRecords

section Growing

variable [Digests]

/-- Other processes append frames to the ownership record, as far as a family of
frame lists allows, and leave the event data alone; operations are promised to
change no file. -/
def recordsGrow (family : List Bytes → Prop) : Setting fileOperations FileWorld where
  exec := fileSetting.exec
  rely before after := after .pgnoFile = before .pgnoFile ∧
    (after .metaFile).position = (before .metaFile).position ∧
    ∀ frames, (before .metaFile).content = some (containerBytes frames) → family frames →
      ∃ more, (after .metaFile).content = some (containerBytes (frames ++ more)) ∧
        family (frames ++ more)
  guar before after := SameContents before after

variable {family : List Bytes → Prop} {world : FileWorld}

/-- The ownership record holds frames of the family. -/
def Recorded (family : List Bytes → Prop) (world : FileWorld) : Prop :=
  ∃ frames, (world .metaFile).content = some (containerBytes frames) ∧ family frames

/-- The event data is as it was, and the ownership record holds frames of the
family. -/
structure Untouched (family : List Bytes → Prop) (start world : FileWorld) : Prop where
  eventData : (world .pgnoFile).content = (start .pgnoFile).content
  recorded : Recorded family world

namespace Untouched

variable {start moved after : FileWorld}

/-- What others append from the family leaves the artefact untouched. -/
theorem others (holds : Untouched family start world)
    (grown : (recordsGrow family).rely world moved) : Untouched family start moved := by
  obtain ⟨frames, stands, allowed⟩ := holds.recorded
  obtain ⟨same, -, appended⟩ := grown
  obtain ⟨more, extended, stillAllowed⟩ := appended frames stands allowed
  exact ⟨by rw [same]; exact holds.eventData, frames ++ more, extended, stillAllowed⟩

/-- An operation that changes no content leaves the artefact untouched. -/
theorem quiet (holds : Untouched family start world) (same : SameContents world after) :
    Untouched family start after := by
  obtain ⟨frames, stands, allowed⟩ := holds.recorded
  exact ⟨(same .pgnoFile).trans holds.eventData, frames, (same .metaFile).trans stands, allowed⟩

end Untouched

/-- A program that asks for nothing but quiet requests touches nothing. -/
theorem wp_untouched {α : Type} {program : Program fileOperations α} {start : FileWorld}
    (only : program.Only FileOp.IsQuiet) (holds : Untouched family start world) :
    program.wp (recordsGrow family) (fun _ after => Untouched family start after) world := by
  have related : program.wp (recordsGrow family)
      (fun _ after => Untouched family start world → Untouched family start after) world := by
    refine Program.wp_of_only (fun before after => Untouched family start before →
      Untouched family start after) (fun _ => id) ?_ ?_ ?_ only world
    · intro first second third earlier later stands
      exact later (earlier stands)
    · intro before moved grown stands
      exact stands.others grown
    · intro op before answer after quiet performed
      have same := sameContents_of_quiet quiet performed
      exact ⟨same, fun stands => stands.quiet same⟩
  exact Program.wp_mono related fun _ _ owed => owed holds

variable {σ : Type} {state : σ} {start : FileWorld}

/-- A quiet request to an ownership record that may have grown before. -/
theorem wp_send_records {request : FileRequest} (quiet : request.isQuiet = true)
    {frames : List Bytes} {post : request.Res → FileWorld → Prop}
    (stands : (world .metaFile).content = some (containerBytes frames)) (allowed : family frames)
    (eventData : (world .pgnoFile).content = (start .pgnoFile).content)
    (next : ∀ more answer file after, family (frames ++ more) →
      request.Performs ⟨some (containerBytes (frames ++ more)), (world .metaFile).position⟩ answer
        file →
      after .metaFile = file → file.content = some (containerBytes (frames ++ more)) →
      (after .pgnoFile).content = (start .pgnoFile).content → post answer after) :
    (request.send .metaFile).wp (recordsGrow family) post world := by
  rintro moved ⟨samePgno, samePosition, grown⟩ answer after ⟨file, performed, rfl⟩
  obtain ⟨more, extended, stillAllowed⟩ := grown frames stands allowed
  have known : moved .metaFile =
      ⟨some (containerBytes (frames ++ more)), (world .metaFile).position⟩ := by
    rw [← extended, ← samePosition]
  have same : SameContents moved (Function.update moved .metaFile file) :=
    sameContents_of_quiet (show FileOp.IsQuiet ⟨.metaFile, request⟩ from quiet)
      ⟨file, performed, rfl⟩
  have kept := FileRequest.performs_quiet quiet performed
  have performs : request.Performs (moved .metaFile) answer file := performed
  rw [known] at performs kept
  refine ⟨same, next more answer file _ stillAllowed performs (Function.update_self ..) kept ?_⟩
  have other : FileName.pgnoFile ≠ .metaFile := by decide
  rw [Function.update_of_ne other, samePgno]
  exact eventData

/-- Scanning an ownership record that may grow meanwhile finds frames that it held
at some point. -/
theorem wp_scanRecords (fits : ∀ frames, family frames → ∀ frame ∈ frames, frame.length ≤ u32Max)
    (holds : Untouched family start world) :
    (readContainerFrames .metaFile).wp (recordsGrow family)
      (fun outcome after later => after = state ∧ Untouched family start later ∧
        ∀ scan, outcome = .ok scan → ∃ frames,
          family frames ∧ scan.frames = frames) state world := by
  obtain ⟨eventData, frames, stands, allowed⟩ := holds
  simp only [readContainerFrames, Action.wp_bind, Action.wp_refuseIf]
  refine wp_send_records rfl stands allowed eventData ?_
  rintro more (failure | reached) file first allowedFirst sought known stands eventData
  · rw [← known] at stands
    exact ⟨rfl, ⟨eventData, _, stands, allowedFirst⟩, by rintro scan ⟨⟩⟩
  have atStart : file.position = 0 := by
    rcases sought with served | ⟨⟨failure, impossible⟩, -⟩
    · cases served
      rfl
    · cases impossible
  subst known
  refine wp_send_records rfl stands allowedFirst eventData ?_
  rintro further (failure | len) file second allowedSecond measured known stands eventData
  · rw [← known] at stands
    exact ⟨rfl, ⟨eventData, _, stands, allowedSecond⟩, by rintro scan ⟨⟩⟩
  have whole : len = (containerBytes (frames ++ more ++ further)).length ∧ file.position = 0 := by
    rcases measured with served | ⟨⟨failure, impossible⟩, -⟩
    · cases served
      exact ⟨rfl, atStart⟩
    · cases impossible
  obtain ⟨rfl, stillAtStart⟩ := whole
  have long : ¬(containerBytes (frames ++ more ++ further)).length < 12 := by
    simp [containerBytes]
  simp only [Except.mapError]
  rw [if_neg long]
  subst known
  refine wp_send_records rfl stands allowedSecond eventData ?_
  rintro latest (failure | buf) file third allowedThird read known stands eventData
  · rw [← known] at stands
    exact ⟨rfl, ⟨eventData, _, stands, allowedThird⟩, by rintro scan ⟨⟩⟩
  rw [stillAtStart] at read
  have bytes : buf = containerBytes (frames ++ more ++ further) := by
    rcases read with served | ⟨⟨failure, impossible⟩, -⟩
    · simp only [FileRequest.serve, FileState.present, List.drop_zero,
        containerBytes_append _ latest, List.take_left] at served
      exact Except.ok.inj (congrArg Prod.fst served)
    · cases impossible
  subst bytes
  rw [← known] at stands
  simp only [Except.mapError]
  rw [if_neg (by simp), scanContainer_clean (fits _ allowedSecond)]
  refine ⟨rfl, ⟨eventData, _, stands, allowedThird⟩, ?_⟩
  rintro scan ⟨⟩
  exact ⟨_, allowedSecond, rfl⟩

/-- Reading an ownership record that may grow meanwhile fails, finds none, or finds
the records of frames that it held at some point. -/
theorem wp_readGrowingRecords
    (fits : ∀ frames, family frames → ∀ frame ∈ frames, frame.length ≤ u32Max)
    (holds : Untouched family start world) :
    readMetaRecords.wp (recordsGrow family)
      (fun outcome after later => after = state ∧ Untouched family start later ∧
        ∀ records, outcome = .ok records → records = .empty ∨
          ∃ frames, family frames ∧ MetaRecords.ofFrames frames = .ok records) state world := by
  have looks : (pathExists .metaFile).Only FileOp.IsQuiet := pathExists_only rfl
  have opens : (FileRequest.openFile.send .metaFile).Only FileOp.IsQuiet := only_send rfl
  simp only [readMetaRecords, Action.wp_bind, Action.wp_lift]
  refine Program.wp_mono (wp_untouched looks holds) ?_
  rintro (_ | _) first untouchedFirst
  · refine ⟨rfl, untouchedFirst, ?_⟩
    rintro records ⟨⟩
    exact Or.inl rfl
  simp only [Bool.not_true, Bool.false_eq_true, if_false, Action.wp_bind, Action.wp_attempt,
    Action.wp_ofExcept, Action.wp_refuseIf]
  refine wp_orRefuse.mpr (Program.wp_mono (wp_untouched opens untouchedFirst) ?_)
  rintro (failure | _) second untouchedSecond
  · exact ⟨rfl, untouchedSecond, by rintro records ⟨⟩⟩
  refine Action.wp_mono (wp_scanRecords fits untouchedSecond) ?_
  rintro (failure | scan) _ third ⟨rfl, untouchedThird, found⟩
  · exact ⟨rfl, untouchedThird, by rintro records ⟨⟩⟩
  obtain ⟨frames, allowed, rfl⟩ := found scan rfl
  dsimp only [Except.mapError]
  split_ifs with torn outdated
  · exact ⟨rfl, untouchedThird, by rintro records ⟨⟩⟩
  · exact ⟨rfl, untouchedThird, by rintro records ⟨⟩⟩
  · refine ⟨rfl, untouchedThird, ?_⟩
    intro records decoded
    exact Or.inr ⟨scan.frames, allowed, decoded⟩

end Growing

/-- Records that bar a writer with an epoch: they name a successor of the artefact,
or no claim of that epoch is the last. -/
def MetaRecords.Bars (records : MetaRecords) (carried : UInt64) : Prop :=
  records.outboundPointer.isSome = true ∨
    ∀ claim, records.latestClaim = some claim → claim.epoch ≠ carried

/-- Every list of frames that the ownership record may come to hold bars a writer. -/
structure Barring (family : List Bytes → Prop) (carried : UInt64) : Prop where
  fits : ∀ frames, family frames → ∀ frame ∈ frames, frame.length ≤ u32Max
  bars : ∀ frames records, family frames → MetaRecords.ofFrames frames = .ok records →
    records.Bars carried

section Gates

variable [Digests] {family : List Bytes → Prop} {carried : UInt64} {start world : FileWorld}

/-- A refusal that leaves both files alone. -/
def RefusesUntouched {σ α : Type} (family : List Bytes → Prop) (start : FileWorld)
    (outcome : Except OperationFailure α) (_ : σ) (later : FileWorld) : Prop :=
  Untouched family start later ∧ ∃ failure, outcome = .error failure

variable (barring : Barring family carried) (holds : Untouched family start world)

include barring holds

/-- Records that are read bar the carried epoch, and nothing is touched. -/
theorem wp_readBarring {σ : Type} (state : σ) :
    readMetaRecords.wp (recordsGrow family)
      (fun outcome after later => after = state ∧ Untouched family start later ∧
        ∀ records, outcome = .ok records → records.Bars carried) state world := by
  refine Action.wp_mono (wp_readGrowingRecords barring.fits holds) ?_
  rintro outcome after later ⟨same, untouched, found⟩
  refine ⟨same, untouched, ?_⟩
  intro records read
  rcases found records read with rfl | ⟨frames, allowed, decoded⟩
  · exact Or.inr (by rintro claim ⟨⟩)
  · exact barring.bars frames records allowed decoded

/-- The authority check refuses a session with the barred epoch. -/
theorem wp_checkAuthority_barred {engine : FileEngine} (carries : engine.carriedEpoch = carried) :
    FileEngine.checkAuthority.wp (recordsGrow family) (RefusesUntouched family start) engine
      world := by
  simp only [FileEngine.checkAuthority, Action.wp_bind, Action.wp_get, Action.wp_refuseIf]
  split_ifs with uncertain unlocked
  · exact ⟨holds, _, rfl⟩
  · exact ⟨holds, _, rfl⟩
  refine Action.wp_mono (wp_readBarring barring holds engine) ?_
  rintro (failure | records) after later ⟨rfl, untouched, bars⟩
  · exact ⟨untouched, _, rfl⟩
  dsimp only
  split_ifs with retired
  · exact ⟨untouched, _, rfl⟩
  simp only [Action.wp_require]
  cases claimed : records.latestClaim with
  | none => exact ⟨untouched, _, rfl⟩
  | some claim =>
      rcases bars records rfl with pointed | superseded
      · exact (retired pointed).elim
      · have stale : claim.epoch ≠ after.carriedEpoch := by
          rw [carries]
          exact superseded claim claimed
        dsimp only
        rw [if_pos stale]
        exact ⟨untouched, _, rfl⟩

/-- Appends of a session with the barred epoch are refused. -/
theorem wp_appendBlock_barred {engine : FileEngine} (carries : engine.carriedEpoch = carried)
    (block : Bytes) :
    (FileEngine.appendBlock block).wp (recordsGrow family) (RefusesUntouched family start) engine
      world := by
  unfold FileEngine.appendBlock
  rw [Action.wp_bind]
  refine Action.wp_mono (wp_checkAuthority_barred barring holds carries) ?_
  rintro outcome after later ⟨untouched, failure, rfl⟩
  exact ⟨untouched, failure, rfl⟩

/-- So are its synchronizations. -/
theorem wp_sync_barred {engine : FileEngine} (carries : engine.carriedEpoch = carried) :
    FileEngine.sync.wp (recordsGrow family) (RefusesUntouched family start) engine world := by
  unfold FileEngine.sync
  rw [Action.wp_bind]
  refine Action.wp_mono (wp_checkAuthority_barred barring holds carries) ?_
  rintro outcome after later ⟨untouched, failure, rfl⟩
  exact ⟨untouched, failure, rfl⟩

omit barring holds in
/-- Records that bar a writer do not admit it. -/
theorem MetaRecords.admitsWriter_barred {records : MetaRecords} (bars : records.Bars carried) :
    ∃ condition, records.admitsWriter carried = .error condition := by
  unfold admitsWriter
  by_cases retired : records.outboundPointer.isSome = true
  · exact ⟨_, by rw [refusedWhen, if_pos retired]; rfl⟩
  rw [refusedWhen, if_neg retired, ok_bind]
  cases records.describes with
  | error condition => exact ⟨condition, rfl⟩
  | ok described =>
      rw [ok_bind]
      cases claimed : records.latestClaim with
      | none => exact ⟨_, rfl⟩
      | some claim =>
          rcases bars with pointed | superseded
          · exact (retired pointed).elim
          · exact ⟨_, if_pos (superseded claim claimed)⟩

omit barring in
/-- The checks on the records refuse a writer that they bar. -/
theorem wp_admitRecords_barred {σ : Type} {records : MetaRecords} (bars : records.Bars carried)
    (state : σ) :
    (FileStorageAdapter.admitRecords records carried).wp (recordsGrow family)
      (RefusesUntouched family start) state world := by
  obtain ⟨condition, refuses⟩ := MetaRecords.admitsWriter_barred bars
  obtain ⟨outcome, decides, verdict⟩ :=
    (FileStorageAdapter.admitRecords_settles records carried :
      Settles (FileStorageAdapter.admitRecords records carried :
        Action fileOperations OperationFailure σ Unit) _)
  rw [refuses] at verdict
  cases outcome with
  | ok value => cases verdict
  | error failure =>
      unfold Action.wp
      rw [decides state]
      exact ⟨holds, failure, rfl⟩

/-- Opening for writing with the barred epoch is refused. -/
theorem FileStorageAdapter.wp_openWrite_barred {σ : Type} (adapter : FileStorageAdapter)
    (state : σ) :
    (adapter.openWrite carried).wp (recordsGrow family) (RefusesUntouched family start) state
      world := by
  have looks : (adapter.tryPresence state).Only FileOp.IsQuiet :=
    adapter.tryPresence_only (fun _ => rfl) state
  have opens : (FileRequest.openFile.send .pgnoFile).Only FileOp.IsQuiet := only_send rfl
  simp only [openWrite, checkOpenWritePresence, Action.wp_bind]
  refine Program.wp_mono (wp_untouched looks holds) ?_
  rintro ⟨failure | presence, between⟩ first untouched
  · exact ⟨untouched, _, rfl⟩
  cases presence with
  | none => exact ⟨untouched, _, rfl⟩
  | eventDataOnly => exact ⟨untouched, _, rfl⟩
  | ownershipRecordOnly =>
      simp only [Action.wp_bind, Action.wp_refuseIf, Action.wp_require]
      refine Action.wp_mono (wp_readBarring barring untouched _) ?_
      rintro (failure | records) _ second ⟨rfl, untouchedSecond, bars⟩
      · exact ⟨untouchedSecond, _, rfl⟩
      dsimp only
      split_ifs with retired
      · exact ⟨untouchedSecond, _, rfl⟩
      cases claimed : records.latestClaim with
      | none => exact ⟨untouchedSecond, _, rfl⟩
      | some claim =>
          rcases bars records rfl with pointed | superseded
          · exact (retired pointed).elim
          · dsimp only
            rw [if_pos (superseded claim claimed)]
            exact ⟨untouchedSecond, _, rfl⟩
  | both =>
      have quiet : FileOp.IsQuiet ⟨.pgnoFile, .tryLock⟩ := rfl
      have locks : (acquireFileExclusion adapter.exclusionPolicy between).Only FileOp.IsQuiet :=
        acquireFileExclusion_only adapter.exclusionPolicy quiet between
      simp only [Action.wp_pure, Action.wp_bind]
      refine wp_orRefuse.mpr (Program.wp_mono (wp_untouched opens untouched) ?_)
      rintro (failure | _) second untouchedSecond
      · exact ⟨untouchedSecond, _, rfl⟩
      refine Program.wp_mono (wp_untouched locks untouchedSecond) ?_
      rintro ⟨failure | _, owner⟩ third untouchedThird
      · exact ⟨untouchedThird, _, rfl⟩
      simp only [openLocked, Action.wp_bind]
      refine Action.wp_mono (wp_readBarring barring untouchedThird _) ?_
      rintro (failure | records) _ fourth ⟨rfl, untouchedFourth, bars⟩
      · exact ⟨untouchedFourth, _, rfl⟩
      refine Action.wp_mono (wp_admitRecords_barred untouchedFourth (bars records rfl) _) ?_
      rintro outcome later final ⟨untouchedFinal, failure, rfl⟩
      exact ⟨untouchedFinal, failure, rfl⟩

end Gates

/-- An action that fails in every run, with the event data as it was at every point
of it. -/
structure Refused [Digests] {σ α : Type} (family : List Bytes → Prop)
    (action : Action fileOperations OperationFailure σ α) (state : σ) (world : FileWorld) :
    Prop where
  fails : ∀ outcome after later,
    action.Runs (recordsGrow family) state world outcome after later →
    ∃ failure, outcome = .error failure
  keeps : ∀ rest later, (action state).Reaches (recordsGrow family) world rest later →
    (later .pgnoFile).content = (world .pgnoFile).content

/-- An action that refuses and touches nothing is refused in all its runs. -/
theorem Refused.of_wp [Digests] {σ α : Type} {family : List Bytes → Prop}
    {action : Action fileOperations OperationFailure σ α} {state : σ} {world : FileWorld}
    (holds : action.wp (recordsGrow family) (RefusesUntouched family world) state world) :
    Refused family action state world where
  fails outcome after later runs := (Action.wp_of_runs runs holds).2
  keeps rest later reaches := by
    let Kept (now : FileWorld) : Prop := (now .pgnoFile).content = (world .pgnoFile).content
    have others : ∀ {before after}, (recordsGrow family).rely before after → Kept before →
        Kept after := by
      intro before after grown kept
      show (after .pgnoFile).content = _
      rw [grown.1]
      exact kept
    have promised : ∀ {before after}, (recordsGrow family).guar before after → Kept before →
        Kept after := fun same kept => (same .pgnoFile).trans kept
    exact Program.invariant_of_reaches others promised reaches holds rfl

/-- The four gates of the artefact refuse a writer with an epoch, as long as its
ownership record holds frames of a family. -/
structure RefusedAtEveryGate [Digests] (family : List Bytes → Prop) (carried : UInt64) : Prop where
  checkAuthority : ∀ {world} {engine : FileEngine}, Recorded family world →
    engine.carriedEpoch = carried → Refused family FileEngine.checkAuthority engine world
  appendBlock : ∀ {world} {engine : FileEngine} (block : Bytes), Recorded family world →
    engine.carriedEpoch = carried → Refused family (FileEngine.appendBlock block) engine world
  sync : ∀ {world} {engine : FileEngine}, Recorded family world →
    engine.carriedEpoch = carried → Refused family FileEngine.sync engine world
  openWrite : ∀ {world} {σ : Type} (adapter : FileStorageAdapter) (state : σ),
    Recorded family world → Refused family (adapter.openWrite carried) state world

/-- What bars an epoch is refused at every gate. -/
theorem Barring.refusedAtEveryGate [Digests] {family : List Bytes → Prop} {carried : UInt64}
    (barring : Barring family carried) : RefusedAtEveryGate family carried where
  checkAuthority recorded carries :=
    Refused.of_wp (wp_checkAuthority_barred barring ⟨rfl, recorded⟩ carries)
  appendBlock block recorded carries :=
    Refused.of_wp (wp_appendBlock_barred barring ⟨rfl, recorded⟩ carries block)
  sync recorded carries := Refused.of_wp (wp_sync_barred barring ⟨rfl, recorded⟩ carries)
  openWrite adapter state recorded :=
    Refused.of_wp (adapter.wp_openWrite_barred barring ⟨rfl, recorded⟩ state)

/-- The lists of frames that come from one by appending frames. -/
structure Extension (original frames : List Bytes) : Prop where
  appended : original <+: frames
  fits : ∀ frame ∈ frames, frame.length ≤ u32Max

/-- The extensions in which every claim has a greater epoch than those before. -/
structure IncreasingExtension (original frames : List Bytes) : Prop
    extends Extension original frames where
  increasing : (claimEpochs frames).Pairwise (· < ·)

/-- Nothing that is appended to the records of a retired artefact admits a writer. -/
theorem barring_of_retired {original : List Bytes} {records : MetaRecords}
    (readable : MetaRecords.ofFrames original = .ok records)
    (retired : records.outboundPointer.isSome = true) (carried : UInt64) :
    Barring (Extension original) carried where
  fits frames extension := extension.fits
  bars frames final extension decoded := by
    obtain ⟨more, rfl⟩ := extension.appended
    exact Or.inl (MetaRecords.ofFrames_retired readable retired decoded)

/-- Nothing that is appended to the records lets an epoch come back once another
claim followed it. -/
theorem barring_of_superseded {original : List Bytes} {records : MetaRecords} {carried : UInt64}
    (readable : MetaRecords.ofFrames original = .ok records)
    (granted : carried ∈ claimEpochs original)
    (superseded : ∀ claim, records.latestClaim = some claim → claim.epoch ≠ carried) :
    Barring (IncreasingExtension original) carried where
  fits frames extension := extension.fits
  bars frames final extension decoded := by
    obtain ⟨more, rfl⟩ := extension.appended
    have passed : (claimEpochs original).getLast? ≠ some carried := by
      rw [← MetaRecords.ofFrames_epoch readable]
      intro last
      obtain ⟨claim, latest, same⟩ := Option.map_eq_some_iff.mp last
      exact superseded claim latest same
    have increasing := extension.increasing
    rw [claimEpochs_append] at increasing
    have final := Succession.superseded increasing granted passed
    rw [← claimEpochs_append, ← MetaRecords.ofFrames_epoch decoded] at final
    refine Or.inr ?_
    intro claim latest same
    exact final (by rw [latest, Option.map_some, same])

section Granted

variable [Digests] {family : List Bytes → Prop} {world : FileWorld} {σ : Type} {state : σ}

/-- Records that are read successfully and end with a claim were held with that
claim as the last. -/
theorem claim_of_readGrowingRecords {after : σ} {later : FileWorld} {records : MetaRecords}
    {claim : OwnershipClaimRecord}
    (fits : ∀ frames, family frames → ∀ frame ∈ frames, frame.length ≤ u32Max)
    (recorded : Recorded family world)
    (runs : readMetaRecords.Runs (recordsGrow family) state world (.ok records) after later)
    (latest : records.latestClaim = some claim) :
    ∃ frames, family frames ∧ claim.epoch ∈ claimEpochs frames := by
  have holds : Untouched family world world := ⟨rfl, recorded⟩
  obtain ⟨-, -, found⟩ := Action.wp_of_runs runs (wp_readGrowingRecords fits holds)
  rcases found records rfl with rfl | ⟨frames, allowed, decoded⟩
  · cases latest
  · have last := MetaRecords.ofFrames_epoch decoded
    rw [latest] at last
    exact ⟨frames, allowed, List.mem_of_getLast? last.symm⟩

/-- Opening for writing hands out an epoch only when the records hold a claim of it. -/
theorem FileStorageAdapter.granted_of_openWrite {adapter : FileStorageAdapter} {carried : UInt64}
    {store : Store FileEngine} {after : σ} {later : FileWorld}
    (fits : ∀ frames, family frames → ∀ frame ∈ frames, frame.length ≤ u32Max)
    (recorded : Recorded family world)
    (runs : (adapter.openWrite carried).Runs (recordsGrow family) state world (.ok store) after
      later) :
    ∃ frames, family frames ∧ carried ∈ claimEpochs frames := by
  have looks : (adapter.tryPresence state).Only FileOp.IsQuiet :=
    adapter.tryPresence_only (fun _ => rfl) state
  have holds : Untouched family world world := ⟨rfl, recorded⟩
  obtain ⟨checked, between, mid, checks, opens⟩ := Action.runs_bind_ok_iff.mp runs
  obtain ⟨presence, _, first, looked, rest⟩ := Action.runs_bind_ok_iff.mp checks
  have untouched := Program.wp_of_runs looked (wp_untouched looks holds)
  cases presence with
  | none => cases rest
  | eventDataOnly => cases rest
  | ownershipRecordOnly =>
      obtain ⟨records, _, second, read, rest⟩ := Action.runs_bind_ok_iff.mp rest
      obtain ⟨_, _, _, -, rest⟩ := Action.runs_bind_ok_iff.mp rest
      obtain ⟨claim, _, _, required, rest⟩ := Action.runs_bind_ok_iff.mp rest
      obtain ⟨_, _, _, fresh, -⟩ := Action.runs_bind_ok_iff.mp rest
      obtain ⟨same, -⟩ := Action.runs_refuseIf_ok_iff.mp fresh
      obtain ⟨latest, -⟩ := Action.runs_require_ok required
      rw [not_ne_iff] at same
      exact same ▸ claim_of_readGrowingRecords fits untouched.recorded read latest
  | both =>
      have quiet : FileOp.IsQuiet ⟨.pgnoFile, .tryLock⟩ := rfl
      have quietOpening : FileOp.IsQuiet ⟨.pgnoFile, .openFile⟩ := rfl
      cases rest
      obtain ⟨_, _, second, opened, rest⟩ := Action.runs_bind_ok_iff.mp opens
      obtain ⟨_, _, third, locked, rest⟩ := Action.runs_bind_ok_iff.mp rest
      obtain ⟨records, _, fourth, read, rest⟩ := Action.runs_bind_ok_iff.mp rest
      obtain ⟨_, _, fifth, admitted, -⟩ := Action.runs_bind_ok_iff.mp rest
      have untouchedSecond := Program.wp_of_runs opened
        (wp_untouched (only_orRefuse (only_send quietOpening) _) untouched)
      have untouchedThird := Program.wp_of_runs locked
        (wp_untouched (acquireFileExclusion_only _ quiet _) untouchedSecond)
      obtain ⟨_, _, _, -, rest⟩ := Action.runs_bind_ok_iff.mp admitted
      obtain ⟨_, _, _, -, rest⟩ := Action.runs_bind_ok_iff.mp rest
      obtain ⟨claim, _, _, required, fresh⟩ := Action.runs_bind_ok_iff.mp rest
      obtain ⟨same, -⟩ := Action.runs_refuseIf_ok_iff.mp fresh
      obtain ⟨latest, -⟩ := Action.runs_require_ok required
      rw [not_ne_iff] at same
      exact same ▸ claim_of_readGrowingRecords fits untouchedThird.recorded read latest

end Granted

/-- Retirement and supersession are permanent. However the records are extended,
before a gate reads them and while it does, the four gates refuse every writer of a
retired artefact, and every writer whose epoch another claim followed; the event
data stays as it is. An epoch that `openWrite` grants is among the recorded claims,
so the second part is about every session that was opened and later superseded. -/
theorem retirement_and_supersession_permanent [Digests] {original : List Bytes}
    {records : MetaRecords}
    (readable : MetaRecords.ofFrames original = .ok records) :
    (records.outboundPointer.isSome = true →
      ∀ carried, RefusedAtEveryGate (Extension original) carried) ∧
    (∀ carried ∈ claimEpochs original,
      (∀ claim, records.latestClaim = some claim → claim.epoch ≠ carried) →
      RefusedAtEveryGate (IncreasingExtension original) carried) ∧
    ∀ (adapter : FileStorageAdapter) carried world store later,
      Recorded (Extension original) world →
      (adapter.openWrite carried).Runs (recordsGrow (Extension original)) () world (.ok store) ()
        later →
      ∃ frames, Extension original frames ∧ carried ∈ claimEpochs frames := by
  refine ⟨?_, ?_, ?_⟩
  · intro retired carried
    exact (barring_of_retired readable retired carried).refusedAtEveryGate
  · intro carried granted superseded
    exact (barring_of_superseded readable granted superseded).refusedAtEveryGate
  · intro adapter carried world store later recorded runs
    exact adapter.granted_of_openWrite (fun _ extension => extension.fits) recorded runs

section Example

attribute [local instance] standardDigests

/-- The seeded records with a claim that supersedes the first. -/
def supersededFrames : List Bytes :=
  seedFrames ++ [(OwnershipRecord.ownershipClaim (bareClaim 2)).encode]

/-- An artefact with an event, whose first owner was superseded. -/
def supersededFiles : FileWorld
  | .metaFile => ⟨some (containerBytes supersededFrames), 0⟩
  | .pgnoFile => ⟨some (containerBytes [genesisPayload]), 0⟩

/-- The seeded records with a pointer to the next generation. -/
def retiredFrames : List Bytes :=
  seedFrames ++ [(OwnershipRecord.outboundPointer ⟨⟨List.replicate 16 0, rfl⟩, 1⟩).encode]

/-- The first owner cannot append or open again, and nobody can open the artefact
once it is retired. -/
theorem retirement_and_supersession_permanent_first :
    RefusedAtEveryGate (Extension retiredFrames) 1 ∧
    Recorded (IncreasingExtension supersededFrames) supersededFiles ∧
    Refused (IncreasingExtension supersededFrames)
      (FileEngine.appendBlock (ContainerFrame.frameBytes genesisPayload))
      (seededAdapter.engine 1 1 none) supersededFiles ∧
    Refused (IncreasingExtension supersededFrames) (seededAdapter.openWrite 1) ()
      supersededFiles := by
  have readable : MetaRecords.ofFrames supersededFrames =
      .ok ⟨some (bareClaim 2), some ⟨1, .u8⟩, none, none, none, none, none⟩ := by
    decide +kernel
  have readableRetired : MetaRecords.ofFrames retiredFrames =
      .ok ⟨some (bareClaim 1), some ⟨1, .u8⟩, some ⟨⟨List.replicate 16 0, rfl⟩, 1⟩, none, none,
        none, none⟩ := by
    decide +kernel
  have recorded : Recorded (IncreasingExtension supersededFrames) supersededFiles := by
    refine ⟨supersededFrames, rfl, ⟨List.prefix_rfl, ?_⟩, ?_⟩
    · decide +kernel
    · decide +kernel
  obtain ⟨-, superseded, -⟩ := retirement_and_supersession_permanent readable
  have gates := superseded 1 (by decide +kernel) (by rintro claim ⟨⟩; decide)
  have retired := (retirement_and_supersession_permanent readableRetired).1 rfl 1
  exact ⟨retired, recorded, gates.appendBlock _ recorded rfl,
    gates.openWrite seededAdapter () recorded⟩

end Example

end Pardosa
