import Pardosa.File.Files
import Pardosa.File.Scan

/-!
# Reading and reconciling a container file

Opening an artefact for writing scans its event data and cuts off an unfinished
last frame. The scan takes any overrunning length prefix for such a frame, at
whatever offset it stands; `scanAndReconcile_keeps_length_iff` says exactly which
file contents lose bytes that way.
-/

namespace Pardosa

open Foundation

/-- Turn an error of the operating system into a refusal. -/
def orRefuse {σ α : Type} (program : Program fileOperations (Except IoError α))
    (condition : FailureCondition) (detail : String) :
    Action fileOperations OperationFailure σ α := do
  let answer ← Action.lift program
  Action.ofExcept (answer.mapError fun failure => ⟨condition, detail ++ failure.message⟩)

/-- A checked operation owes for its answer, or for the refusal. -/
@[simp] theorem wp_orRefuse {σ α World : Type} {setting : Setting fileOperations World}
    {program : Program fileOperations (Except IoError α)} {condition : FailureCondition}
    {detail : String} {post : Except OperationFailure α → σ → World → Prop} {state : σ}
    {world : World} :
    (orRefuse program condition detail).wp setting post state world ↔
      program.wp setting (fun answer after => post
        (answer.mapError fun failure => ⟨condition, detail ++ failure.message⟩) state after)
          world := by
  simp only [orRefuse, Action.wp_bind, Action.wp_lift, Action.wp_ofExcept]

/-- A request that is served when nothing fails. -/
theorem evaluate_orRefuse {σ α : Type} {program : Program fileOperations (Except IoError α)}
    {condition : FailureCondition} {detail : String} {state : σ}
    {world later : FileWorld} {value : α}
    (served : program.evaluate fileHandler world = (.ok value, later)) :
    (orRefuse program condition detail state).evaluate fileHandler world =
      ((.ok value, state), later) := by
  unfold orRefuse
  rw [Action.evaluate_bind (Action.evaluate_lift served state)]
  rfl

/-- What sending a request evaluates to. -/
theorem evaluate_send (request : FileRequest) (name : FileName) (world : FileWorld) :
    (request.send name).evaluate fileHandler world =
      ((request.serve (world name)).1, Function.update world name (request.serve (world name)).2) :=
  rfl

section Reconcile

variable [Digests]

/-- Reads a container file and scans its frames. A length beyond the address
space is refused by the source; no file of this model has one. -/
def readContainerFrames {σ : Type} (name : FileName) :
    Action fileOperations OperationFailure σ ContainerScan := do
  let _ ← orRefuse (FileRequest.send (.seekStart 0) name) (.precursorChainBroken none)
    "failed to seek container file: "
  let fileLen ← orRefuse (FileRequest.send .metadataLen name) .transportUnavailable
    "failed to read container file metadata: "
  Action.refuseIf (fileLen < 12) ⟨.precursorChainBroken none, "container file too short for header"⟩
  let buf ← orRefuse (FileRequest.send (.readToEnd fileLen) name) (.precursorChainBroken none)
    "failed to read container file: "
  Action.refuseIf (buf.length ≠ fileLen) ⟨.precursorChainBroken none,
    "container file truncated during initial horizon read"⟩
  Action.ofExcept (scanContainer buf)

/-- Cuts off a torn tail and leaves the handle at the end of the event data. -/
def reconcileTailState {σ : Type} (scan : ContainerScan) :
    Action fileOperations OperationFailure σ (Option TornTailInfo) :=
  match scan.tailState with
  | .clean => do
      let _ ← orRefuse (FileRequest.send .seekEnd .pgnoFile) (.precursorChainBroken none)
        "failed to seek to end of .pgno: "
      return none
  | .tornTail info => do
      orRefuse (FileRequest.send (.setLen info.validLen) .pgnoFile) .transportUnavailable
        "failed to truncate torn trailing frame in .pgno: "
      orRefuse (FileRequest.send .syncData .pgnoFile) .transportUnavailable
        "failed to sync truncated .pgno: "
      let _ ← orRefuse (FileRequest.send (.seekStart info.validLen) .pgnoFile)
        (.precursorChainBroken none) "failed to seek to end of container: "
      return some info

/-- The reconciliation of `openWrite`: scan the event data, then cut its torn
tail. -/
def scanAndReconcile {σ : Type} :
    Action fileOperations OperationFailure σ (ContainerScan × Option TornTailInfo) := do
  let scan ← readContainerFrames .pgnoFile
  let recovered ← reconcileTailState scan
  return (scan, recovered)

section Rules

variable {allows : Option Bytes → Option Bytes → Prop} [Std.Refl allows] {world : FileWorld}
  {σ : Type} {state : σ}

/-- Reading the ownership record leaves the event data alone. -/
theorem wp_readContainerFrames_meta
    {post : Except OperationFailure ContainerScan → σ → FileWorld → Prop}
    (holds : ∀ outcome after, after .pgnoFile = world .pgnoFile → post outcome state after) :
    (readContainerFrames .metaFile).wp (honouring allows) post state world := by
  simp only [readContainerFrames, Action.wp_bind, Action.wp_refuseIf,
    Action.wp_ofExcept]
  refine wp_send_meta _ ?_
  rintro (failure | _) first kept
  · exact holds _ _ kept
  refine wp_send_meta _ ?_
  rintro (failure | fileLen) second keptSecond
  · exact holds _ _ (keptSecond.trans kept)
  dsimp only [Except.mapError]
  split_ifs with short
  · exact holds _ _ (keptSecond.trans kept)
  refine wp_send_meta _ ?_
  rintro (failure | buf) third keptThird
  · exact holds _ _ ((keptThird.trans keptSecond).trans kept)
  dsimp only [Except.mapError]
  split_ifs with cut
  · exact holds _ _ ((keptThird.trans keptSecond).trans kept)
  · exact holds _ _ ((keptThird.trans keptSecond).trans kept)

variable {content : Bytes}

/-- Reading the event data scans the bytes that are there. -/
theorem wp_readContainerFrames_pgno
    {post : Except OperationFailure ContainerScan → σ → FileWorld → Prop}
    (stands : (world .pgnoFile).content = some content)
    (failed : ∀ failure after, (after .pgnoFile).content = some content →
      post (.error failure) state after)
    (read : ∀ after, after .pgnoFile = ⟨some content, content.length⟩ →
      post (scanContainer content) state after) :
    (readContainerFrames .pgnoFile).wp (honouring allows) post state world := by
  have known : world .pgnoFile = ⟨some content, (world .pgnoFile).position⟩ := by rw [← stands]
  simp only [readContainerFrames, Action.wp_bind, Action.wp_refuseIf,
    Action.wp_ofExcept]
  refine wp_seekStart_pgno known ?_ ?_
  · intro first atStart
    refine wp_metadataLen_pgno atStart ?_ ?_
    · intro second still
      dsimp only [Except.mapError]
      split_ifs with short
      · exact failed _ _ (by rw [still])
      refine wp_readToEnd_pgno still ?_ ?_
      · intro third atEnd
        dsimp only [Except.mapError]
        rw [if_neg (by simp)]
        exact read third atEnd
      · intro failure third kept
        exact failed _ _ kept
    · intro failure second still
      exact failed _ _ (by rw [still])
  · intro failure first still
    exact failed _ _ (by rw [still])

omit [Digests] in
/-- A clean container keeps its bytes. -/
theorem wp_reconcileTailState_clean {scan : ContainerScan}
    {post : Except OperationFailure (Option TornTailInfo) → σ → FileWorld → Prop}
    (clean : scan.tailState = .clean) (stands : (world .pgnoFile).content = some content)
    (failed : ∀ failure after, (after .pgnoFile).content = some content →
      post (.error failure) state after)
    (kept : ∀ after, (after .pgnoFile).content = some content → post (.ok none) state after) :
    (reconcileTailState scan).wp (honouring allows) post state world := by
  have known : world .pgnoFile = ⟨some content, (world .pgnoFile).position⟩ := by rw [← stands]
  unfold reconcileTailState
  rw [clean]
  simp only [Action.wp_bind]
  refine wp_seekEnd_pgno known ?_ ?_
  · intro after atEnd
    exact kept after (by rw [atEnd])
  · intro failure after still
    exact failed _ after (by rw [still])

omit [Digests] in
/-- A torn container loses everything from its valid length on, or a failed cut
leaves it as it was. -/
theorem wp_reconcileTailState_torn {scan : ContainerScan} {info : TornTailInfo}
    {post : Except OperationFailure (Option TornTailInfo) → σ → FileWorld → Prop}
    (torn : scan.tailState = .tornTail info) (stands : (world .pgnoFile).content = some content)
    (promised : allows (some content) (some (resize content info.validLen)))
    (uncut : ∀ failure after, (after .pgnoFile).content = some content →
      post (.error failure) state after)
    (failed : ∀ failure after, (after .pgnoFile).content = some (resize content info.validLen) →
      post (.error failure) state after)
    (cut : ∀ after, (after .pgnoFile).content = some (resize content info.validLen) →
      post (.ok (some info)) state after) :
    (reconcileTailState scan).wp (honouring allows) post state world := by
  have known : world .pgnoFile = ⟨some content, (world .pgnoFile).position⟩ := by rw [← stands]
  unfold reconcileTailState
  rw [torn]
  simp only [Action.wp_bind]
  refine wp_setLen_pgno known promised ?_ ?_
  · intro first resized
    refine wp_syncData_pgno resized ?_
    rintro (failure | _) second still
    · exact failed _ second (by rw [still])
    refine wp_seekStart_pgno still ?_ ?_
    · intro third moved
      exact cut third (by rw [moved])
    · intro failure third unmoved
      exact failed _ third (by rw [unmoved])
  · intro failure first still
    exact uncut _ first (by rw [still])

/-- Reconciliation after a scan: it fails and leaves the bytes, or leaves those that
the scan calls valid. -/
theorem wp_reconcileTailState {scan : ContainerScan}
    {post : Except OperationFailure (Option TornTailInfo) → σ → FileWorld → Prop}
    (scanned : scanContainer content = .ok scan) (stands : (world .pgnoFile).content = some content)
    (promised : allows (some content) (some (content.take scan.validLen)))
    (failed : ∀ failure after, (after .pgnoFile).content = some content →
      post (.error failure) state after)
    (settled : ∀ outcome after, (after .pgnoFile).content = some (content.take scan.validLen) →
      post outcome state after) :
    (reconcileTailState scan).wp (honouring allows) post state world := by
  obtain ⟨payloads, rest, fits, split, frames, valid, ends⟩ := scanContainer_ok scanned
  rcases ends with ⟨clean, rfl⟩ | ⟨torn, nonempty, overruns⟩
  · refine wp_reconcileTailState_clean clean stands failed ?_
    intro later kept
    rw [List.append_nil] at split
    refine settled _ later ?_
    rw [kept, valid, ← split, List.take_length]
  · have shortened : resize content scan.validLen = content.take scan.validLen := by
      rw [split, valid, resize_append, List.take_left]
    refine wp_reconcileTailState_torn torn stands ?_ failed ?_ ?_
    · rw [shortened]
      exact promised
    · intro failure later resized
      rw [shortened] at resized
      exact settled _ later resized
    · intro later resized
      rw [shortened] at resized
      exact settled _ later resized

/-- Reconciliation by the scan of the event data: it fails and leaves the bytes,
or leaves those that the scan calls valid. -/
theorem wp_scanAndReconcile
    {post : Except OperationFailure (ContainerScan × Option TornTailInfo) → σ → FileWorld → Prop}
    (stands : (world .pgnoFile).content = some content)
    (failed : ∀ failure after, (after .pgnoFile).content = some content →
      post (.error failure) state after)
    (settled : ∀ scan, scanContainer content = .ok scan →
      allows (some content) (some (content.take scan.validLen)) ∧
      ∀ outcome after, (after .pgnoFile).content = some (content.take scan.validLen) →
        (∀ result, outcome = .ok result → result.1 = scan) → post outcome state after) :
    scanAndReconcile.wp (honouring allows) post state world := by
  simp only [scanAndReconcile, Action.wp_bind, Action.wp_pure]
  refine wp_readContainerFrames_pgno stands failed ?_
  intro after atEnd
  have same : (after .pgnoFile).content = some content := by rw [atEnd]
  cases scanned : scanContainer content with
  | error failure => exact failed failure after same
  | ok scan =>
      obtain ⟨promised, settles⟩ := settled scan scanned
      refine wp_reconcileTailState scanned same promised failed ?_
      rintro (failure | recovered) later left
      · refine settles _ later left ?_
        rintro _ ⟨⟩
      · refine settles _ later left ?_
        rintro _ ⟨⟩
        rfl

/-- Without failures, a container shorter than a header is refused. -/
theorem evaluate_readContainerFrames_short (state : σ) {name : FileName}
    (stands : (world name).content = some content) (short : content.length < 12) :
    (readContainerFrames name state).evaluate fileHandler world =
      ((.error ⟨.precursorChainBroken none, "container file too short for header"⟩, state),
        Function.update world name ⟨some content, 0⟩) := by
  have seek : (FileRequest.send (.seekStart 0) name).evaluate fileHandler world =
      (.ok 0, Function.update world name ⟨some content, 0⟩) := by
    rw [evaluate_send]
    simp only [FileRequest.serve, FileState.present, stands]
  have len : (FileRequest.send .metadataLen name).evaluate fileHandler
        (Function.update world name ⟨some content, 0⟩) =
      (.ok content.length, Function.update world name ⟨some content, 0⟩) := by
    rw [evaluate_send]
    simp [FileRequest.serve, FileState.present]
  unfold readContainerFrames
  rw [Action.evaluate_bind (evaluate_orRefuse seek), Action.evaluate_bind (evaluate_orRefuse len)]
  refine Action.evaluate_bind_error ?_
  rw [Action.refuseIf_of_holds _ _ short]
  rfl

/-- Without failures, reading a container of at least a header's length scans
its bytes. -/
theorem evaluate_readContainerFrames (state : σ) {name : FileName}
    (stands : (world name).content = some content) (long : 12 ≤ content.length) :
    (readContainerFrames name state).evaluate fileHandler world =
      ((scanContainer content, state),
        Function.update world name ⟨some content, content.length⟩) := by
  have seek : (FileRequest.send (.seekStart 0) name).evaluate fileHandler world =
      (.ok 0, Function.update world name ⟨some content, 0⟩) := by
    rw [evaluate_send]
    simp only [FileRequest.serve, FileState.present, stands]
  have len : (FileRequest.send .metadataLen name).evaluate fileHandler
        (Function.update world name ⟨some content, 0⟩) =
      (.ok content.length, Function.update world name ⟨some content, 0⟩) := by
    rw [evaluate_send]
    simp [FileRequest.serve, FileState.present]
  have read : (FileRequest.send (.readToEnd content.length) name).evaluate fileHandler
        (Function.update world name ⟨some content, 0⟩) =
      (.ok content, Function.update world name ⟨some content, content.length⟩) := by
    rw [evaluate_send]
    simp [FileRequest.serve, FileState.present]
  unfold readContainerFrames
  rw [Action.evaluate_bind (evaluate_orRefuse seek), Action.evaluate_bind (evaluate_orRefuse len),
    Action.evaluate_bind (Action.evaluate_refuseIf (by omega) _ _),
    Action.evaluate_bind (evaluate_orRefuse read),
    Action.evaluate_bind (Action.evaluate_refuseIf (by simp) _ _)]
  rfl

omit [Digests] in
/-- Without failures, reconciling a torn container cuts it. -/
theorem evaluate_reconcileTailState_torn {scan : ContainerScan} {info : TornTailInfo}
    (torn : scan.tailState = .tornTail info) (stands : (world .pgnoFile).content = some content) :
    (reconcileTailState scan state).evaluate fileHandler world =
      ((.ok (some info), state), Function.update world .pgnoFile
        ⟨some (resize content info.validLen), info.validLen⟩) := by
  have cut : (FileRequest.send (.setLen info.validLen) .pgnoFile).evaluate fileHandler world =
      (.ok (), Function.update world .pgnoFile
        ⟨some (resize content info.validLen), (world .pgnoFile).position⟩) := by
    rw [evaluate_send]
    simp only [FileRequest.serve, FileState.present, stands]
  have sync : ∀ file, (FileRequest.send .syncData .pgnoFile).evaluate fileHandler
        (Function.update world .pgnoFile file) =
      (.ok (), Function.update world .pgnoFile file) := by
    intro file
    rw [evaluate_send]
    simp [FileRequest.serve]
  have seek : (FileRequest.send (.seekStart info.validLen) .pgnoFile).evaluate fileHandler
        (Function.update world .pgnoFile
          ⟨some (resize content info.validLen), (world .pgnoFile).position⟩) =
      (.ok info.validLen, Function.update world .pgnoFile
        ⟨some (resize content info.validLen), info.validLen⟩) := by
    rw [evaluate_send]
    simp [FileRequest.serve, FileState.present]
  unfold reconcileTailState
  rw [torn]
  dsimp only
  rw [Action.evaluate_bind (evaluate_orRefuse cut),
    Action.evaluate_bind (evaluate_orRefuse (sync _)),
    Action.evaluate_bind (evaluate_orRefuse seek)]
  rfl

omit [Digests] in
/-- Without failures, reconciling a clean container moves to its end. -/
theorem evaluate_reconcileTailState_clean {scan : ContainerScan}
    (clean : scan.tailState = .clean) (stands : (world .pgnoFile).content = some content) :
    (reconcileTailState scan state).evaluate fileHandler world =
      ((.ok none, state), Function.update world .pgnoFile ⟨some content, content.length⟩) := by
  have seek : (FileRequest.send .seekEnd .pgnoFile).evaluate fileHandler world =
      (.ok content.length, Function.update world .pgnoFile ⟨some content, content.length⟩) := by
    rw [evaluate_send]
    simp only [FileRequest.serve, FileState.present, stands]
  unfold reconcileTailState
  rw [clean]
  dsimp only
  rw [Action.evaluate_bind (evaluate_orRefuse seek)]
  rfl

/-- Without failures, reconciliation leaves what the scan calls valid. -/
theorem evaluate_scanAndReconcile (state : σ) {scan : ContainerScan}
    (stands : (world .pgnoFile).content = some content)
    (scanned : scanContainer content = .ok scan) :
    ∃ recovered position, (scanAndReconcile state).evaluate fileHandler world =
      ((.ok (scan, recovered), state), Function.update world .pgnoFile
        ⟨some (content.take scan.validLen), position⟩) := by
  obtain ⟨payloads, rest, fits, split, frames, valid, ends⟩ := scanContainer_ok scanned
  have long : 12 ≤ content.length := by
    rw [split]
    simp [containerBytes]
  have read := evaluate_readContainerFrames state stands long
  rw [scanned] at read
  have atEnd : (Function.update world .pgnoFile
      ⟨some content, content.length⟩ .pgnoFile).content = some content := by
    rw [Function.update_self]
  unfold scanAndReconcile
  rw [Action.evaluate_bind read]
  rcases ends with ⟨clean, rfl⟩ | ⟨torn, nonempty, overruns⟩
  · rw [List.append_nil] at split
    rw [Action.evaluate_bind (evaluate_reconcileTailState_clean clean atEnd),
      Function.update_idem, valid, ← split, List.take_length]
    exact ⟨none, content.length, rfl⟩
  · have shortened : resize content scan.validLen = content.take scan.validLen := by
      rw [split, valid, resize_append, List.take_left]
    rw [Action.evaluate_bind (evaluate_reconcileTailState_torn torn atEnd), Function.update_idem,
      shortened]
    exact ⟨_, scan.validLen, rfl⟩

end Rules

/-- Reconciling these bytes fails and leaves them as they are, or leaves a file
of the same length. -/
def ReconcilesInPlace (content : Bytes) : Prop :=
  ∀ (world later : FileWorld) outcome, (world .pgnoFile).content = some content →
    scanAndReconcile.Runs fileSetting () world outcome () later →
      ((∃ failure, outcome = .error failure) ∧ (later .pgnoFile).content = some content) ∨
      ∃ left, (later .pgnoFile).content = some left ∧ left.length = content.length

/-- Reconciliation keeps the length of exactly those bytes that do not end inside
a frame. -/
theorem scanAndReconcile_keeps_length_iff (corrupted : Bytes) :
    ReconcilesInPlace corrupted ↔ ¬EndsTorn corrupted := by
  constructor
  · rintro keeps ⟨whole, rest, fits, rfl, nonempty, overruns⟩
    let world : FileWorld := fun _ => ⟨some (containerBytes whole ++ rest), 0⟩
    have runs := runs_fileHandler (scanAndReconcile ()) world
    obtain ⟨recovered, position, evaluated⟩ := evaluate_scanAndReconcile ()
      (rfl : (world .pgnoFile).content = _) (scanContainer_torn fits nonempty overruns)
    rw [evaluated, List.take_left] at runs
    rcases keeps world _ _ rfl runs with ⟨⟨failure, failed⟩, -⟩ | ⟨kept, stands, sameLength⟩
    · cases failed
    · dsimp only at stands
      rw [Function.update_self] at stands
      cases stands
      rw [List.length_append] at sameLength
      have positive := List.length_pos_iff.mpr nonempty
      omega
  · intro whole world later outcome stands runs
    have holds : scanAndReconcile.wp (keeping fun _ => True)
        (fun outcome _ later =>
          ((∃ failure, outcome = .error failure) ∧ (later .pgnoFile).content = some corrupted) ∨
            ∃ left, (later .pgnoFile).content = some left ∧ left.length = corrupted.length)
        () world := by
      refine wp_scanAndReconcile stands ?_ ?_
      · intro failure after kept
        exact Or.inl ⟨⟨failure, rfl⟩, kept⟩
      · intro scan scanned
        refine ⟨fun _ => trivial, ?_⟩
        intro outcome after left _
        obtain ⟨payloads, rest, fits, split, -, valid, ends⟩ := scanContainer_ok scanned
        rcases ends with ⟨-, rfl⟩ | ⟨-, nonempty, overruns⟩
        · rw [List.append_nil] at split
          rw [valid, ← split, List.take_length] at left
          exact Or.inr ⟨corrupted, left, rfl⟩
        · exact (whole ⟨payloads, rest, fits, split, nonempty, overruns⟩).elim
    exact Action.wp_of_runs (Program.runs_promising _ runs) holds

end Reconcile

section Corruption

attribute [local instance] standardDigests

/-- A container of two frames whose first length prefix was altered. -/
def alteredLengthPrefix : Bytes := (containerBytes [[1], [2]]).set 12 255

/-- An artefact whose event data was altered so. -/
def alteredFiles : FileWorld := fun _ => ⟨some alteredLengthPrefix, 0⟩

/-- One altered byte of the first committed frame, and reconciliation discards
both frames without an error. -/
theorem scanAndReconcile_discards_committed_frames :
    alteredLengthPrefix.length = (containerBytes [[1], [2]]).length ∧
      ¬ReconcilesInPlace alteredLengthPrefix ∧
      ∃ result later, scanAndReconcile.Runs fileSetting () alteredFiles (.ok result) () later ∧
        (later .pgnoFile).content = some ContainerHeader.new.toBytes := by
  have layout : alteredLengthPrefix = containerBytes [] ++ alteredLengthPrefix.drop 12 := by
    decide +kernel
  have overruns : ContainerFrame.Overruns (alteredLengthPrefix.drop 12) :=
    Or.inr (by decide +kernel)
  have scanned := scanContainer_torn (List.forall_mem_nil _) (by decide +kernel) overruns
  rw [← layout] at scanned
  obtain ⟨recovered, position, evaluated⟩ := evaluate_scanAndReconcile ()
    (rfl : (alteredFiles .pgnoFile).content = _) scanned
  have left : alteredLengthPrefix.take (containerBytes []).length =
      ContainerHeader.new.toBytes := by
    decide +kernel
  have runs := runs_fileHandler (scanAndReconcile ()) alteredFiles
  rw [evaluated, left] at runs
  refine ⟨by decide +kernel, ?_, _, _, runs, ?_⟩
  · intro keeps
    rcases keeps _ _ _ rfl runs with ⟨⟨failure, failed⟩, -⟩ | ⟨kept, stands, sameLength⟩
    · cases failed
    · dsimp only at stands
      rw [Function.update_self] at stands
      cases stands
      exact absurd sameLength (by decide +kernel)
  · dsimp only
    rw [Function.update_self]

end Corruption

end Pardosa
