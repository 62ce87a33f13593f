import Pardosa.File.MutualExclusion

/-!
# Reader snapshots of shared event data

Readers take no lock, so a scan may find the event data as any operation of any
process has left it. What it returns are the whole frames, each written by one append
that did not fail, and a later scan returns these first.
-/

namespace Pardosa

open Foundation

section Scans

/-- A callback that collects the frames it is handed. -/
def collectFrame : FrameRecoveryCallback (List Bytes) := fun _ frame frames =>
  (.ok (), frames ++ [frame])

/-- Collecting the frames collects all of them, in order. -/
theorem deliverFrames_collectFrame (position : Nat) (frames earlier : List Bytes) :
    deliverFrames collectFrame position frames earlier =
      (.ok (position + frames.length), earlier ++ frames) := by
  induction frames generalizing position earlier with
  | nil => simp [deliverFrames]
  | cons frame frames ih =>
      simp only [deliverFrames, collectFrame] at ih ⊢
      rw [ih, List.length_cons, List.append_assoc, List.singleton_append]
      congr 2
      omega

variable [Digests]

/-- A reader with an open handle has scanned a snapshot of the event data, in one of
its two ways, and has got these frames. -/
inductive ScanReturns (content : Option Bytes) (frames : List Bytes) : Prop where
  | readAll {engine after : FileEngine} {snapshot later : FileWorld}
      (stands : (snapshot .pgnoFile).content = content) (opened : engine.file = true)
      (runs : FileEngine.readAll.Runs aloneFiles engine snapshot (.ok frames) after later)
  | recoverFrames {engine after : FileEngine} {count : Nat} {snapshot later : FileWorld}
      (stands : (snapshot .pgnoFile).content = content) (opened : engine.file = true)
      (runs : (FileEngine.recoverFrames collectFrame).Runs aloneFiles (engine, []) snapshot
        (.ok count) (after, frames) later)

variable {σ : Type} {state after : σ} {world later : FileWorld} {scan : ContainerScan}

/-- A scan that succeeds has decoded the bytes that are there. -/
theorem runs_readContainerFrames_ok
    (runs : (readContainerFrames .pgnoFile).Runs aloneFiles state world (.ok scan) after later) :
    after = state ∧ ∃ content, (world .pgnoFile).content = some content ∧
      scanContainer content = .ok scan := by
  simp only [readContainerFrames, Action.runs_bind_ok_iff] at runs
  obtain ⟨position, _, first, sought, len, _, second, measured, _, _, _, long, buf, _, third, read,
    _, _, _, whole, scanned⟩ := runs
  obtain ⟨seeks, rfl⟩ := runs_orRefuse_ok_iff.mp sought
  obtain ⟨measures, rfl⟩ := runs_orRefuse_ok_iff.mp measured
  obtain ⟨-, rfl, rfl⟩ := Action.runs_refuseIf_ok_iff.mp long
  obtain ⟨reads, rfl⟩ := runs_orRefuse_ok_iff.mp read
  obtain ⟨-, rfl, rfl⟩ := Action.runs_refuseIf_ok_iff.mp whole
  obtain ⟨decoded, rfl, -⟩ := Action.runs_ofExcept_iff.mp scanned
  have same :=
    sameContents_of_runs (only_send (rfl : FileOp.IsQuiet ⟨.pgnoFile, .seekStart 0⟩)) seeks
  obtain ⟨moved, performed, rfl⟩ := runs_send_iff.mp seeks
  have atStart := FileRequest.performs_seekStart_ok performed
  obtain ⟨file, performed, rfl⟩ := runs_send_iff.mp measures
  rw [Function.update_self] at performed
  obtain ⟨kept, content, stands, rfl⟩ := FileRequest.performs_metadataLen_ok performed
  obtain ⟨last, performed, rfl⟩ := runs_send_iff.mp reads
  have known : moved = ⟨moved.content, moved.position⟩ := rfl
  rw [stands, atStart] at known
  rw [Function.update_self, kept, known] at performed
  have all := FileRequest.performs_readToEnd_ok performed
  have bytes := same .pgnoFile
  rw [Function.update_self, stands] at bytes
  exact ⟨rfl, content, bytes.symm, all ▸ decoded⟩

/-- A reader's scan that succeeds has found nothing but whole frames. -/
theorem FileEngine.runs_scanClean_ok
    (runs : scanClean.Runs aloneFiles state world (.ok scan) after later) :
    after = state ∧ scan.frames = wholeFrames (world .pgnoFile).content := by
  simp only [scanClean, Action.runs_bind_ok_iff] at runs
  obtain ⟨_, _, first, sought, found, _, second, read, _, _, _, clean, _, _, third, returned, ⟨⟩⟩ :=
    runs
  obtain ⟨seeks, rfl⟩ := runs_orRefuse_ok_iff.mp sought
  obtain ⟨-, rfl, rfl⟩ := Action.runs_refuseIf_ok_iff.mp clean
  obtain ⟨-, rfl⟩ := runs_orRefuse_ok_iff.mp returned
  have same :=
    sameContents_of_runs (only_send (rfl : FileOp.IsQuiet ⟨.pgnoFile, .seekStart 0⟩)) seeks
  obtain ⟨rfl, content, stands, scanned⟩ := runs_readContainerFrames_ok read
  rw [same .pgnoFile] at stands
  refine ⟨rfl, ?_⟩
  simp only [wholeFrames, stands, scanned]

/-- Whatever way a reader takes, it gets the whole frames of its snapshot. -/
theorem ScanReturns.frames_eq {content : Option Bytes} {frames : List Bytes}
    (scan : ScanReturns content frames) : frames = wholeFrames content := by
  cases scan with
  | @readAll engine after snapshot later stands opened runs =>
      unfold FileEngine.readAll at runs
      obtain ⟨_, _, _, ⟨⟩, runs⟩ := Action.runs_bind_ok_iff.mp runs
      obtain ⟨_, _, _, ⟨⟩, runs⟩ := Action.runs_bind_ok_iff.mp runs
      simp only [opened, Bool.not_true, Bool.false_eq_true, if_false] at runs
      obtain ⟨scan, _, _, scanned, ⟨⟩⟩ := Action.runs_bind_ok_iff.mp runs
      rw [← stands]
      exact (FileEngine.runs_scanClean_ok scanned).2
  | @recoverFrames engine after count snapshot later stands opened runs =>
      unfold FileEngine.recoverFrames at runs
      obtain ⟨_, _, _, ⟨⟩, runs⟩ := Action.runs_bind_ok_iff.mp runs
      simp only [opened, Bool.not_true, Bool.false_eq_true, if_false] at runs
      obtain ⟨scan, _, _, scanned, runs⟩ := Action.runs_bind_ok_iff.mp runs
      obtain ⟨_, _, _, ⟨⟩, delivered⟩ := Action.runs_bind_ok_iff.mp runs
      obtain ⟨rfl, known⟩ := FileEngine.runs_scanClean_ok scanned
      rw [stands] at known
      unfold Action.Runs Action.mutate at delivered
      simp only [deliverFrames_collectFrame, List.nil_append] at delivered
      cases delivered
      exact known

/-- Without failures, a scan of whole frames returns them. -/
theorem ScanReturns.of_clean {frames : List Bytes} {engine : FileEngine}
    (opened : engine.file = true) (fits : ∀ frame ∈ frames, frame.length ≤ u32Max) :
    ScanReturns (some (containerBytes frames)) frames := by
  let snapshot : FileWorld := fun _ => ⟨some (containerBytes frames), 0⟩
  have stands : (snapshot .pgnoFile).content = some (containerBytes frames) := rfl
  have scans := FileEngine.evaluate_scanClean
    { engine with readAllCount := engine.readAllCount + 1 } fits stands
  have returned : ((FileEngine.readAll engine).evaluate fileHandler snapshot).1 =
      (.ok frames, { engine with readAllCount := engine.readAllCount + 1 }) := by
    unfold FileEngine.readAll
    rw [Action.evaluate_bind rfl, Action.evaluate_bind rfl]
    rw [if_neg (by simp [opened]), Action.evaluate_bind scans]
    rfl
  have runs := runs_alone (FileEngine.readAll engine) snapshot
  rw [returned] at runs
  exact .readAll stands opened runs

end Scans

section Consistency

variable [Digests] {Process : Type} [DecidableEq Process]
  {config : FileConfiguration Process}

/-- An append that may have written a frame: it landed, its landing stayed
undetermined, or it has not returned, and never will if its process has died. -/
inductive MayHaveWritten (outcomes : List AppendOutcome) (number : Nat) : Prop where
  | landed {count : Nat} (known : outcomes[number]? = some (.ok (.landed count)))
  | undetermined (known : UndeterminedAt outcomes number)
  | unreturned (beyond : outcomes.length ≤ number)

omit [Digests] [DecidableEq Process] in
/-- A frame on record was written by an append that may have written it. -/
theorem Accounted.mayHaveWritten {process : Process} {outcomes : List AppendOutcome}
    {shared : SharedFiles Process} {number : Nat} (accounted : Accounted process outcomes shared)
    (author : (process, number) ∈ shared.authors) : MayHaveWritten outcomes number := by
  by_cases returned : number < outcomes.length
  · obtain ⟨verdict, known⟩ := accounted.written author returned
    cases verdict with
    | landed count => exact .landed known
    | undetermined carriedEpoch => exact .undetermined ⟨carriedEpoch, known⟩
  · exact .unreturned (Nat.le_of_not_lt returned)

/-- In every run of any number of processes on one artefact, a reader's scan of any
moment that succeeds returns frames of which each was written by an append of its own,
and that append has not failed; every later scan that succeeds returns these frames
first. -/
theorem reader_scans_are_prefixes {Process : Type} [DecidableEq Process]
    {config : FileConfiguration Process} {frames : List Bytes}
    (run : (processes Process).Reaches (noArtefact Process) config)
    (scan : ScanReturns (config.world.content .pgnoFile) frames) :
    (∃ authors : List (Process × Nat), authors.Nodup ∧ authors.length = frames.length ∧
      ∀ (place : Nat) (process : Process) (number : Nat), authors[place]? = some (process, number) →
        (config.world.begun process)[number]? = frames[place]? ∧
        MayHaveWritten (config.doing process).state.outcomes number) ∧
    ∀ later framesLater, (processes Process).Reaches config later →
      ScanReturns (later.world.content .pgnoFile) framesLater → frames <+: framesLater := by
  obtain ⟨sound, -⟩ := (noArtefact_sound Process).reaches processes_obey run
  obtain rfl : frames = config.world.frames := scan.frames_eq
  refine ⟨⟨config.world.authors, sound.invariant.once, sound.invariant.credited, ?_⟩, ?_⟩
  · intro place process number author
    exact ⟨sound.invariant.written author,
      (accounts_of_sound sound process).2.mayHaveWritten (List.mem_of_getElem? author)⟩
  · intro later framesLater further scanLater
    obtain ⟨-, grows⟩ := sound.reaches processes_obey further
    rw [scanLater.frames_eq]
    exact grows.frames

end Consistency

section Crash

attribute [local instance] standardDigests

/-- A process that dies in its only append, after the frame was written. -/
theorem reaches_crash : ∃ config : FileConfiguration Nat,
    (processes Nat).Reaches (noArtefact Nat) config ∧
      (∀ process, (config.doing process).state.outcomes = []) ∧
      config.world.content .pgnoFile = some (containerBytes [genesisPayload]) := by
  obtain ⟨config, after, store, reached, does, waits, runs, -, -, stands⟩ := runs_unsynced
  let session : Tenure := .live seededCreation (seededAdapter.newSession (bareClaim 1)) []
  let program : Program fileOperations Tenure :=
    (Store.appendFrameVerdict genesisPayload (seededAdapter.newSession (bareClaim 1))).bind
      fun result => .ret (.live seededCreation result.2 ([] ++ [result.1]))
  have possible : (processes Nat).program (.append genesisPayload) session = some program := rfl
  have started : (processes Nat).Step config ⟨config.world.appending 0 genesisPayload,
      Function.update config.doing 0 (.busy (.append genesisPayload) session program)⟩ :=
    .start does possible
  have busy : Function.update config.doing 0 (.busy (.append genesisPayload) session program) 0 =
      .busy (.append genesisPayload) session program := Function.update_self ..
  have written := Pool.reaches_of_runs busy runs
  rw [Function.update_idem] at written
  refine ⟨_, (reached.tail started).trans (written.tail (.die 0)), ?_, ?_⟩
  · intro process
    by_cases own : process = 0
    · subst own
      simp [processes, session, Doing.state, Tenure.died, Tenure.outcomes]
    · simp [Function.update_of_ne own, waits process own, Doing.state, Tenure.outcomes]
  · simpa [processes, Doing.state, Tenure.died, SharedFiles.left, SharedFiles.released] using stands

/-- A container of the first event scans to its frame. -/
theorem scanReturns_genesis : ScanReturns (some (containerBytes [genesisPayload]))
    [genesisPayload] := by
  have opened : (seededAdapter.newSession (bareClaim 1)).engine.file = true := rfl
  refine .of_clean opened ?_
  intro frame member
  rw [List.mem_singleton.mp member]
  exact genesisPayload_admitted.fits

/-- A reader may scan a frame whose writer crashed before it knew. -/
theorem reader_scans_are_prefixes_crash : ∃ config : FileConfiguration Nat,
    (processes Nat).Reaches (noArtefact Nat) config ∧
      (∃ process number, (config.world.begun process)[number]? = some genesisPayload ∧
        MayHaveWritten (config.doing process).state.outcomes number) ∧
      ∀ later framesLater, (processes Nat).Reaches config later →
        ScanReturns (later.world.content .pgnoFile) framesLater →
        [genesisPayload] <+: framesLater := by
  obtain ⟨config, reached, -, stands⟩ := reaches_crash
  have scan : ScanReturns (config.world.content .pgnoFile) [genesisPayload] := by
    rw [stands]
    exact scanReturns_genesis
  obtain ⟨⟨authors, -, counted, wrote⟩, prefixes⟩ := reader_scans_are_prefixes reached scan
  have first : 0 < authors.length := by
    rw [counted]
    exact Nat.zero_lt_one
  exact ⟨config, reached, ⟨_, _, wrote 0 _ _ (List.getElem?_eq_getElem first)⟩, prefixes⟩

/-- A reader sees a frame although no append has ever returned. -/
theorem scan_returns_frame_of_crash : ∃ config : FileConfiguration Nat,
    (processes Nat).Reaches (noArtefact Nat) config ∧
      ScanReturns (config.world.content .pgnoFile) [genesisPayload] ∧
      ∀ process, (config.doing process).state.outcomes = [] := by
  obtain ⟨config, reached, none, stands⟩ := reaches_crash
  refine ⟨config, reached, ?_, none⟩
  rw [stands]
  exact scanReturns_genesis

end Crash

end Pardosa
