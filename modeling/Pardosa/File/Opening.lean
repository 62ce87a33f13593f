import Pardosa.File.Append
import Pardosa.Store.Recovery

/-!
# Opening event data

What `openWrite` does to event data that is there, with and without failures on
the way. Whatever happens, the file keeps its bytes or is left with those that
the scan calls valid.
-/

namespace Pardosa

open Foundation

section Rules

variable [Digests] {allows : Option Bytes → Option Bytes → Prop} [Std.Refl allows]
  {world : FileWorld} {payloads : List Bytes}

/-- A reader's scan of a complete container. -/
theorem wp_scanClean {σ : Type} {state : σ}
    {post : Except OperationFailure ContainerScan → σ → FileWorld → Prop}
    (fits : ∀ payload ∈ payloads, payload.length ≤ u32Max)
    (stands : (world .pgnoFile).content = some (containerBytes payloads))
    (failed : ∀ failure after, (after .pgnoFile).content = some (containerBytes payloads) →
      post (.error failure) state after)
    (scanned : ∀ scan after, scan.frames = payloads →
      (after .pgnoFile).content = some (containerBytes payloads) → post (.ok scan) state after) :
    FileEngine.scanClean.wp (honouring allows) post state world := by
  have known : world .pgnoFile = ⟨some (containerBytes payloads), (world .pgnoFile).position⟩ := by
    rw [← stands]
  simp only [FileEngine.scanClean, Action.wp_bind, Action.wp_refuseIf]
  refine wp_seekStart_pgno known ?_ ?_
  · intro first atStart
    refine wp_readContainerFrames_pgno (by rw [atStart]) failed ?_
    intro second atEnd
    rw [scanContainer_clean fits]
    dsimp only
    rw [if_neg (by simp)]
    refine wp_seekStart_pgno atEnd ?_ ?_
    · intro third moved
      exact scanned _ third rfl (by rw [moved])
    · intro failure third still
      exact failed _ third (by rw [still])
  · intro failure first still
    exact failed _ first (by rw [still])

/-- Recovery of a complete container hands its payloads to the callback. -/
theorem FileEngine.wp_recoverFrames {σ : Type} {onFrame : FrameRecoveryCallback σ}
    {engine : FileEngine} {captured : σ}
    {post : Except OperationFailure Nat → FileEngine × σ → FileWorld → Prop}
    (opened : engine.file = true)
    (fits : ∀ payload ∈ payloads, payload.length ≤ u32Max)
    (stands : (world .pgnoFile).content = some (containerBytes payloads))
    (failed : ∀ failure after, (after .pgnoFile).content = some (containerBytes payloads) →
      post (.error failure) (engine, captured) after)
    (delivered : ∀ after, (after .pgnoFile).content = some (containerBytes payloads) →
      post (deliverFrames onFrame 0 payloads captured).1
        ({ engine with frameCount := payloads.length },
          (deliverFrames onFrame 0 payloads captured).2) after) :
    (recoverFrames onFrame).wp (honouring allows) post (engine, captured) world := by
  simp only [recoverFrames, Action.wp_bind, Action.wp_get, opened, Bool.not_true,
    Bool.false_eq_true, if_false]
  refine wp_scanClean fits stands failed ?_
  rintro scan after rfl still
  exact delivered after still

/-- Opening a writer over a complete container. -/
theorem FileEngine.wp_openWriter {engine : FileEngine}
    {post : Except OperationFailure (Store FileEngine) → FileEngine → FileWorld → Prop}
    (opened : engine.file = true)
    (fits : ∀ payload ∈ payloads, payload.length ≤ u32Max)
    (stands : (world .pgnoFile).content = some (containerBytes payloads))
    (failed : ∀ failure engine after, (after .pgnoFile).content = some (containerBytes payloads) →
      post (.error failure) engine after)
    (recovered : ∀ index after, SessionIndex.buildFromFrames payloads = .ok index →
      (after .pgnoFile).content = some (containerBytes payloads) →
      post (.ok ⟨{ engine with frameCount := payloads.length },
        RollingCommitment.new.absorb payloads, index, none, false, none⟩)
        { engine with frameCount := payloads.length } after) :
    Store.openWriter.wp (honouring allows) post engine world := by
  refine Store.wp_openWriter (FileEngine.wp_recoverFrames opened fits stands ?_ ?_)
  · intro failure after still
    exact failed failure engine after still
  · intro after still
    cases built : SessionIndex.buildFromFrames payloads with
    | error failure =>
        have refused := Store.deliverFrames_recoverFrame_error 0 .new fits built
        rw [refused]
        exact failed failure _ after still
    | ok index =>
        rw [Store.deliverFrames_recoverFrame 0 .new fits built]
        exact recovered index after built still

/-- Opening a writer over event data that ends inside a frame is refused. -/
theorem FileEngine.wp_openWriter_torn {engine : FileEngine} {rest : Bytes}
    {post : Except OperationFailure (Store FileEngine) → FileEngine → FileWorld → Prop}
    (opened : engine.file = true) (fits : ∀ payload ∈ payloads, payload.length ≤ u32Max)
    (nonempty : rest ≠ []) (overruns : ContainerFrame.Overruns rest)
    (stands : (world .pgnoFile).content = some (containerBytes payloads ++ rest))
    (failed : ∀ failure engine after, post (.error failure) engine after) :
    Store.openWriter.wp (honouring allows) post engine world := by
  have known : world .pgnoFile =
      ⟨some (containerBytes payloads ++ rest), (world .pgnoFile).position⟩ := by
    rw [← stands]
  refine Store.wp_openWriter ?_
  show (recoverFrames Store.recoverFrame).wp (honouring allows) _ _ world
  simp only [recoverFrames, Action.wp_bind, Action.wp_get, opened, Bool.not_true,
    Bool.false_eq_true, if_false, scanClean, Action.wp_refuseIf]
  refine wp_seekStart_pgno known ?_ ?_
  · intro first atStart
    refine wp_readContainerFrames_pgno (by rw [atStart])
      (fun failure after _ => failed _ _ after) ?_
    intro second atEnd
    rw [scanContainer_torn fits nonempty overruns]
    dsimp only
    rw [if_pos (by simp)]
    exact failed _ _ second
  · intro failure first still
    exact failed _ _ first

variable {adapter : FileStorageAdapter} {carriedEpoch : UInt64} {content : Bytes} {σ : Type}
  {state : σ}

omit [Digests] in
/-- Taking the lock leaves the event data as it is. -/
theorem wp_acquireFileExclusion {policy : FileExclusionPolicy}
    {post : Except OperationFailure Unit → σ → FileWorld → Prop}
    (holds : ∀ outcome after, after .pgnoFile = world .pgnoFile → post outcome state after) :
    (acquireFileExclusion policy).wp (honouring allows) post state world := by
  cases policy with
  | standard =>
      simp only [acquireFileExclusion, Action.wp_bind, Action.wp_lift]
      refine wp_tryLock_pgno ?_
      rintro ((_ | failure) | _) after kept
      · exact holds _ after kept
      · exact holds _ after kept
      · exact holds _ after kept
  | simulateUnavailable => exact holds _ world rfl
  | simulateHeldByOther => exact holds _ world rfl

namespace FileStorageAdapter

omit [Digests] in
/-- Event data that is there is found, or cannot be looked for. -/
theorem wp_tryPresence {post : Except OperationFailure ArtefactPresence → σ → FileWorld → Prop}
    (stands : (world .pgnoFile).content = some content)
    (failed : ∀ failure after, (after .pgnoFile).content = some content →
      post (.error failure) state after)
    (found : ∀ after, (after .pgnoFile).content = some content →
      post (.ok .eventDataOnly) state after ∧ post (.ok .both) state after) :
    adapter.tryPresence.wp (honouring allows) post state world := by
  simp only [tryPresence, Action.wp_bind]
  refine wp_send_meta _ ?_
  rintro (failure | metaExists) first kept
  · exact failed _ first (by rw [kept, stands])
  have known : first .pgnoFile = ⟨some content, (first .pgnoFile).position⟩ := by
    rw [← stands, ← kept]
  refine wp_tryExists_pgno known ?_ ?_
  · intro second still
    obtain ⟨orphan, complete⟩ := found second (by rw [still])
    cases metaExists with
    | false => exact orphan
    | true => exact complete
  · intro failure second still
    exact failed _ second (by rw [still])

/-- With event data there, opening goes on to open it or fails. -/
theorem wp_checkOpenWritePresence
    {post : Except OperationFailure (Option (Store FileEngine)) → σ → FileWorld → Prop}
    (stands : (world .pgnoFile).content = some content)
    (failed : ∀ failure after, (after .pgnoFile).content = some content →
      post (.error failure) state after)
    (proceeds : ∀ after, (after .pgnoFile).content = some content → post (.ok none) state after) :
    (adapter.checkOpenWritePresence carriedEpoch).wp (honouring allows) post state world := by
  simp only [checkOpenWritePresence, Action.wp_bind]
  refine wp_tryPresence stands failed ?_
  intro after still
  exact ⟨failed _ after still, proceeds after still⟩

/-- The checks on the ownership records touch no file. -/
theorem wp_admitRecords {records : MetaRecords} {setting : Setting fileOperations FileWorld}
    {post : Except OperationFailure Unit → σ → FileWorld → Prop}
    (holds : ∀ outcome, post outcome state world) :
    (admitRecords records carriedEpoch).wp setting post state world := by
  simp only [admitRecords, requireDescriptor, Action.wp_bind, Action.wp_refuseIf,
    Action.wp_require]
  by_cases retired : records.outboundPointer.isSome = true
  · rw [if_pos retired]
    exact holds _
  rw [if_neg retired]
  cases records.schemaDescriptor with
  | none => exact holds _
  | some descriptor =>
      dsimp only
      simp only [Action.wp_ofExcept]
      cases AdmittedDescriptor.tryFromDescriptor descriptor with
      | error failure => exact holds _
      | ok admitted =>
          dsimp only [Except.mapError, Action.wp_pure]
          cases records.latestClaim with
          | none => exact holds _
          | some claim =>
              dsimp only
              split_ifs with stale
              · exact holds _
              · exact holds _

/-- With the event data opened and locked: a failure leaves the bytes or those
that the scan calls valid, and an opened store is recovered from the latter. -/
theorem wp_openLocked {post : Except OperationFailure (Store FileEngine) → σ → FileWorld → Prop}
    {scan : ContainerScan} (fits : ∀ payload ∈ payloads, payload.length ≤ u32Max)
    (stands : (world .pgnoFile).content = some content)
    (scanned : scanContainer content = .ok scan) (frames : scan.frames = payloads)
    (valid : content.take scan.validLen = containerBytes payloads)
    (promised : allows (some content) (some (containerBytes payloads)))
    (failed : ∀ failure after, (after .pgnoFile).content = some content ∨
      (after .pgnoFile).content = some (containerBytes payloads) →
        post (.error failure) state after)
    (opened : ∀ engine index after, engine.frameCount = payloads.length →
      SessionIndex.buildFromFrames payloads = .ok index →
      (after .pgnoFile).content = some (containerBytes payloads) →
      post (.ok ⟨engine, RollingCommitment.new.absorb payloads, index, none, false, none⟩)
        state after) :
    (adapter.openLocked carriedEpoch).wp (honouring allows) post state world := by
  simp only [openLocked, Action.wp_bind]
  refine wp_readMetaRecords ?_
  rintro (failure | records) first kept
  · exact failed _ first (.inl (by rw [kept, stands]))
  have unread : (first .pgnoFile).content = some content := by rw [kept, stands]
  refine wp_admitRecords ?_
  rintro (failure | _)
  · exact failed _ first (.inl unread)
  refine wp_scanAndReconcile unread (fun failure after same => failed failure after (.inl same)) ?_
  intro found scannedAgain
  rw [scanned] at scannedAgain
  cases scannedAgain
  rw [valid]
  refine ⟨promised, ?_⟩
  rintro (failure | ⟨result, recovered⟩) second left same
  · exact failed _ second (.inr left)
  cases same _ rfl
  simp only [Action.wp_within]
  refine FileEngine.wp_openWriter rfl fits left ?_ ?_
  · intro failure engine after kept
    exact failed failure after (.inr kept)
  · intro index after built kept
    exact opened _ index after rfl built kept

/-- Opening for writing: a failure leaves the bytes or those that the scan calls
valid, and an opened store is recovered from the latter. -/
theorem wp_openWrite {post : Except OperationFailure (Store FileEngine) → σ → FileWorld → Prop}
    {scan : ContainerScan} (fits : ∀ payload ∈ payloads, payload.length ≤ u32Max)
    (stands : (world .pgnoFile).content = some content)
    (scanned : scanContainer content = .ok scan) (frames : scan.frames = payloads)
    (valid : content.take scan.validLen = containerBytes payloads)
    (promised : allows (some content) (some (containerBytes payloads)))
    (failed : ∀ failure after, (after .pgnoFile).content = some content ∨
      (after .pgnoFile).content = some (containerBytes payloads) →
        post (.error failure) state after)
    (opened : ∀ engine index after, engine.frameCount = payloads.length →
      SessionIndex.buildFromFrames payloads = .ok index →
      (after .pgnoFile).content = some (containerBytes payloads) →
      post (.ok ⟨engine, RollingCommitment.new.absorb payloads, index, none, false, none⟩)
        state after) :
    (adapter.openWrite carriedEpoch).wp (honouring allows) post state world := by
  simp only [openWrite, Action.wp_bind]
  refine wp_checkOpenWritePresence stands (fun failure after kept =>
    failed failure after (.inl kept))
    ?_
  intro first still
  have known : first .pgnoFile = ⟨some content, (first .pgnoFile).position⟩ := by rw [← still]
  simp only [Action.wp_bind]
  refine wp_openFile_pgno known ?_
  rintro (failure | _) second still
  · exact failed _ second (.inl still)
  refine wp_acquireFileExclusion ?_
  rintro (failure | _) third kept
  · exact failed _ third (.inl (by rw [kept, still]))
  exact wp_openLocked fits (by rw [kept, still]) scanned frames valid promised failed opened

end FileStorageAdapter

end Rules

section Success

variable [Digests] {world : FileWorld} {payloads : List Bytes} {σ : Type}

/-- Without failures, the records of a complete `.meta` file are those of its
frames. -/
theorem evaluate_readMetaRecords (state : σ) {frames : List Bytes}
    (fits : ∀ frame ∈ frames, frame.length ≤ u32Max)
    (stands : (world .metaFile).content = some (containerBytes frames)) :
    ∃ later, (readMetaRecords state).evaluate fileHandler world =
        ((MetaRecords.ofFrames frames, state), later) ∧
      later .pgnoFile = world .pgnoFile ∧
      (later .metaFile).content = some (containerBytes frames) := by
  have found : (pathExists .metaFile).evaluate fileHandler world = (true, world) := by
    unfold pathExists
    rw [Program.evaluate_bind, evaluate_send]
    simp only [FileRequest.serve, stands, Function.update_eq_self]
    rfl
  have opens : (FileRequest.send .openFile .metaFile).evaluate fileHandler world =
      (.ok (), Function.update world .metaFile ⟨some (containerBytes frames), 0⟩) := by
    rw [evaluate_send]
    simp only [FileRequest.serve, FileState.present, stands]
  have atStart : (Function.update world .metaFile
      ⟨some (containerBytes frames), 0⟩ .metaFile).content = some (containerBytes frames) := by
    rw [Function.update_self]
  have long : 12 ≤ (containerBytes frames).length := by
    simp [containerBytes]
  have read := evaluate_readContainerFrames state atStart long
  rw [scanContainer_clean fits, Function.update_idem] at read
  refine ⟨Function.update world .metaFile
    ⟨some (containerBytes frames), (containerBytes frames).length⟩, ?_, ?_, ?_⟩
  · unfold readMetaRecords
    rw [Action.evaluate_bind (Action.evaluate_lift found state)]
    simp only [Bool.not_true, Bool.false_eq_true, if_false]
    rw [Action.evaluate_bind (evaluate_orRefuse opens),
      Action.evaluate_bind (Action.evaluate_attempt read)]
    simp only [Except.mapError]
    rw [Action.evaluate_bind rfl, Action.evaluate_bind (Action.evaluate_refuseIf (by simp) _ _),
      Action.evaluate_bind (Action.evaluate_refuseIf (by simp [ContainerHeader.new]) _ _)]
    rfl
  · exact Function.update_of_ne (by decide) ..
  · rw [Function.update_self]

/-- The ownership record admits a writer with an epoch: a claim of that epoch, an
admissible descriptor and no outbound pointer. -/
def AdmitsWriter (world : FileWorld) (epoch : UInt64) : Prop :=
  ∃ frames records claim descriptor admitted, (∀ frame ∈ frames, frame.length ≤ u32Max) ∧
    (world .metaFile).content = some (containerBytes frames) ∧
    MetaRecords.ofFrames frames = .ok records ∧ records.outboundPointer = none ∧
    records.schemaDescriptor = some descriptor ∧
    AdmittedDescriptor.tryFromDescriptor descriptor = .ok admitted ∧
    records.latestClaim = some claim ∧ claim.epoch = epoch

/-- Records that carry what is asked for are admitted. -/
theorem FileStorageAdapter.evaluate_admitRecords (state : σ) {records : MetaRecords}
    {descriptor : SchemaDescriptor} {admitted : AdmittedDescriptor} {claim : OwnershipClaimRecord}
    {epoch : UInt64} (owned : records.outboundPointer = none)
    (described : records.schemaDescriptor = some descriptor)
    (admits : AdmittedDescriptor.tryFromDescriptor descriptor = .ok admitted)
    (claimed : records.latestClaim = some claim) (current : claim.epoch = epoch) :
    (admitRecords records epoch state).evaluate fileHandler world = ((.ok (), state), world) := by
  have required : (requireDescriptor records state).evaluate fileHandler world =
      ((.ok (), state), world) := by
    unfold requireDescriptor
    rw [described, Action.evaluate_bind rfl, admits, Action.evaluate_bind rfl]
    rfl
  unfold admitRecords
  rw [owned, Action.evaluate_bind (Action.evaluate_refuseIf (by simp) _ _),
    Action.evaluate_bind required, claimed, Action.evaluate_bind rfl]
  exact Action.evaluate_refuseIf (by simp [current]) _ _

/-- Without failures, a reader's scan of a complete container succeeds. -/
theorem FileEngine.evaluate_scanClean (state : σ)
    (fits : ∀ payload ∈ payloads, payload.length ≤ u32Max)
    (stands : (world .pgnoFile).content = some (containerBytes payloads)) :
    (scanClean state).evaluate fileHandler world =
      ((.ok ⟨.new, payloads, RollingCommitment.new.absorb payloads, .clean,
        (containerBytes payloads).length⟩, state),
        Function.update world .pgnoFile
          ⟨some (containerBytes payloads), (containerBytes payloads).length⟩) := by
  have seeks : ∀ target position, (FileRequest.send (.seekStart target) .pgnoFile).evaluate
        fileHandler (Function.update world .pgnoFile ⟨some (containerBytes payloads), position⟩) =
      (.ok target, Function.update world .pgnoFile ⟨some (containerBytes payloads), target⟩) := by
    intro target position
    rw [evaluate_send]
    simp [FileRequest.serve, FileState.present]
  have initial : Function.update world .pgnoFile
      ⟨some (containerBytes payloads), (world .pgnoFile).position⟩ = world := by
    rw [← stands]
    exact Function.update_eq_self ..
  have first := seeks 0 (world .pgnoFile).position
  rw [initial] at first
  have atStart : (Function.update world .pgnoFile
      ⟨some (containerBytes payloads), 0⟩ .pgnoFile).content = some (containerBytes payloads) := by
    rw [Function.update_self]
  have long : 12 ≤ (containerBytes payloads).length := by
    simp [containerBytes]
  have read := evaluate_readContainerFrames state atStart long
  rw [scanContainer_clean fits, Function.update_idem] at read
  unfold scanClean
  rw [Action.evaluate_bind (evaluate_orRefuse first), Action.evaluate_bind read,
    Action.evaluate_bind (Action.evaluate_refuseIf (by simp) _ _),
    Action.evaluate_bind (evaluate_orRefuse (seeks _ _))]
  rfl

/-- Without failures, recovery of a complete container hands its payloads to the
callback. -/
theorem FileEngine.evaluate_recoverFrames {engine : FileEngine}
    (onFrame : FrameRecoveryCallback σ) (captured : σ) (opened : engine.file = true)
    (fits : ∀ payload ∈ payloads, payload.length ≤ u32Max)
    (stands : (world .pgnoFile).content = some (containerBytes payloads)) :
    (recoverFrames onFrame (engine, captured)).evaluate fileHandler world =
      (((deliverFrames onFrame 0 payloads captured).1,
        { engine with frameCount := payloads.length },
        (deliverFrames onFrame 0 payloads captured).2),
        Function.update world .pgnoFile
          ⟨some (containerBytes payloads), (containerBytes payloads).length⟩) := by
  unfold recoverFrames
  rw [Action.evaluate_bind rfl]
  simp only [opened, Bool.not_true, Bool.false_eq_true, if_false]
  rw [Action.evaluate_bind (evaluate_scanClean _ fits stands), Action.evaluate_bind rfl]
  simp only [Action.mutate, Program.evaluate, opened]

/-- Without failures, opening a writer over a complete container ends as building
the index from its frames does. -/
theorem FileEngine.evaluate_openWriter {engine : FileEngine}
    (opened : engine.file = true) (fits : ∀ payload ∈ payloads, payload.length ≤ u32Max)
    (stands : (world .pgnoFile).content = some (containerBytes payloads)) :
    ∃ later, (Store.openWriter engine).evaluate fileHandler world =
      (((SessionIndex.buildFromFrames payloads).map fun index =>
        (⟨{ engine with frameCount := payloads.length }, RollingCommitment.new.absorb payloads,
          index, none, false, none⟩ : Store FileEngine),
        { engine with frameCount := payloads.length }), later) :=
  ⟨_, Store.evaluate_openWriter fits
    (evaluate_recoverFrames Store.recoverFrame (.new, .new) opened fits stands)⟩

omit [Digests] in
/-- Without failures, looking for an artefact finds the files that are there. -/
theorem FileStorageAdapter.evaluate_tryPresence (adapter : FileStorageAdapter) (state : σ)
    (world : FileWorld) :
    (adapter.tryPresence state).evaluate fileHandler world =
      ((.ok (match (world .metaFile).content.isSome, (world .pgnoFile).content.isSome with
        | false, false => .none
        | true, false => .ownershipRecordOnly
        | false, true => .eventDataOnly
        | true, true => .both), state), world) := by
  have exists_eq : ∀ name, (FileRequest.send .tryExists name).evaluate fileHandler world =
      (.ok (world name).content.isSome, world) := by
    intro name
    rw [evaluate_send]
    simp only [FileRequest.serve, Function.update_eq_self]
  unfold tryPresence
  rw [Action.evaluate_bind (evaluate_orRefuse (exists_eq .metaFile)),
    Action.evaluate_bind (evaluate_orRefuse (exists_eq .pgnoFile))]
  rfl

omit [Digests] in
/-- Without failures, the lock is free. -/
theorem evaluate_acquireFileExclusion (state : σ) (world : FileWorld) :
    (acquireFileExclusion .standard state).evaluate fileHandler world =
      ((.ok (), state), world) := by
  have locked : (FileRequest.send .tryLock .pgnoFile).evaluate fileHandler world =
      (.ok (), world) := by
    rw [evaluate_send]
    simp only [FileRequest.serve, Function.update_eq_self]
  unfold acquireFileExclusion
  rw [Action.evaluate_bind (Action.evaluate_lift locked state)]
  rfl

/-- Without failures, opening an artefact whose ownership record admits the
writer and whose valid frames the index accepts succeeds. -/
theorem FileStorageAdapter.evaluate_openWrite (state : σ) {adapter : FileStorageAdapter}
    {epoch : UInt64} {content : Bytes} {scan : ContainerScan} {index : SessionIndex}
    (standard : adapter.exclusionPolicy = .standard) (admits : AdmitsWriter world epoch)
    (fits : ∀ payload ∈ payloads, payload.length ≤ u32Max)
    (stands : (world .pgnoFile).content = some content)
    (scanned : scanContainer content = .ok scan)
    (valid : content.take scan.validLen = containerBytes payloads)
    (built : SessionIndex.buildFromFrames payloads = .ok index) :
    ∃ store later, (adapter.openWrite epoch state).evaluate fileHandler world =
      ((.ok store, state), later) := by
  obtain ⟨metaFrames, records, claim, descriptor, admitted, metaFits, metaStands, decoded, owned,
    described, admittedAs, claimed, current⟩ := admits
  have present : (adapter.tryPresence state).evaluate fileHandler world =
      ((.ok .both, state), world) := by
    rw [evaluate_tryPresence, metaStands, stands]
    rfl
  have proceeds : (adapter.checkOpenWritePresence epoch state).evaluate fileHandler world =
      ((.ok none, state), world) := by
    unfold checkOpenWritePresence
    rw [Action.evaluate_bind present]
    rfl
  have opens : (FileRequest.send .openFile .pgnoFile).evaluate fileHandler world =
      (.ok (), Function.update world .pgnoFile ⟨some content, 0⟩) := by
    rw [evaluate_send]
    simp only [FileRequest.serve, FileState.present, stands]
  have metaKept : (Function.update world .pgnoFile ⟨some content, 0⟩ .metaFile).content =
      some (containerBytes metaFrames) := by
    rw [Function.update_of_ne (by decide), metaStands]
  obtain ⟨later, read, kept, -⟩ := evaluate_readMetaRecords state metaFits metaKept
  rw [decoded] at read
  have stillStands : (later .pgnoFile).content = some content := by
    rw [kept, Function.update_self]
  obtain ⟨recovered, position, reconciled⟩ := evaluate_scanAndReconcile state stillStands scanned
  have left : (Function.update later .pgnoFile
      ⟨some (content.take scan.validLen), position⟩ .pgnoFile).content =
        some (containerBytes payloads) := by
    rw [Function.update_self, valid]
  obtain ⟨final, opened⟩ := FileEngine.evaluate_openWriter
    (rfl : (adapter.engine epoch scan.frames.length recovered).file = true) fits left
  rw [built] at opened
  refine ⟨⟨adapter.engine epoch payloads.length recovered, RollingCommitment.new.absorb payloads,
    index, none, false, none⟩, final, ?_⟩
  unfold openWrite
  rw [Action.evaluate_bind proceeds]
  dsimp only
  unfold openLocked
  rw [Action.evaluate_bind (evaluate_orRefuse opens), standard,
    Action.evaluate_bind (evaluate_acquireFileExclusion state _), Action.evaluate_bind read,
    Action.evaluate_bind (evaluate_admitRecords state owned described admittedAs claimed current),
    Action.evaluate_bind reconciled]
  exact Action.evaluate_within opened state

/-- Without failures, a session that is not fenced and holds its lock is
authorized while the ownership record admits its epoch. -/
theorem FileEngine.evaluate_checkAuthority {engine : FileEngine}
    (certain : engine.uncertain = false) (excluding : engine.lacksExclusion = false)
    (admits : AdmitsWriter world engine.carriedEpoch) :
    ∃ later, (checkAuthority engine).evaluate fileHandler world = ((.ok (), engine), later) ∧
      later .pgnoFile = world .pgnoFile ∧ AdmitsWriter later engine.carriedEpoch := by
  obtain ⟨frames, records, claim, descriptor, admitted, fits, stands, decoded, owned, described,
    admittedAs, claimed, current⟩ := admits
  obtain ⟨later, read, kept, metaKept⟩ := evaluate_readMetaRecords engine fits stands
  rw [decoded] at read
  refine ⟨later, ?_, kept, frames, records, claim, descriptor, admitted, fits, metaKept, decoded,
    owned, described, admittedAs, claimed, current⟩
  unfold checkAuthority
  rw [Action.evaluate_bind rfl,
    Action.evaluate_bind (Action.evaluate_refuseIf (by simp [certain]) _ _),
    Action.evaluate_bind (Action.evaluate_refuseIf (by simp [excluding]) _ _),
    Action.evaluate_bind read, owned,
    Action.evaluate_bind (Action.evaluate_refuseIf (by simp) _ _), claimed,
    Action.evaluate_bind rfl]
  exact Action.evaluate_refuseIf (by simp [current]) _ _

omit [Digests] in
/-- Without failures, one round writes all bytes at the end of a file. -/
theorem evaluate_writeAll {name : FileName} {base : Bytes} (block : Bytes)
    (stands : world name = ⟨some base, base.length⟩) :
    (writeAll name block).evaluate fileHandler world =
      (.ok (), Function.update world name ⟨some (base ++ block), (base ++ block).length⟩) := by
  cases block with
  | nil =>
      rw [List.append_nil, ← stands, Function.update_eq_self]
      rfl
  | cons byte bytes =>
      unfold writeAll
      rw [List.length_cons, writeAllLoop, Program.evaluate_bind, evaluate_send, stands]
      simp only [FileRequest.serve, FileState.present, overwrite_end, List.length_cons,
        List.drop_succ_cons, List.drop_length, List.length_append]
      unfold writeAllLoop
      rfl

omit [Digests] in
/-- An engine as `openWrite` makes it: certain, locked, told to simulate
nothing. -/
structure FileEngine.Ready (engine : FileEngine) : Prop where
  certain : engine.uncertain = false
  excluding : engine.lacksExclusion = false
  opened : engine.file = true
  settled : engine.checkAppendSimulation = (.ok none, engine)
  writes : engine.simulateWriteError = false
  syncs : engine.simulateSyncError = false

/-- Without failures, an append of a ready engine lands while the ownership
record admits its epoch. -/
theorem FileEngine.evaluate_appendBlock {engine : FileEngine} {base : Bytes} (block : Bytes)
    (ready : engine.Ready) (admits : AdmitsWriter world engine.carriedEpoch)
    (stands : (world .pgnoFile).content = some base) :
    ∃ later, (appendBlock block engine).evaluate fileHandler world =
      ((.ok (.landed (engine.frameCount + 1)), { engine with frameCount := engine.frameCount + 1 }),
        later) ∧
      (later .pgnoFile).content = some (base ++ block) ∧
      AdmitsWriter later engine.carriedEpoch := by
  obtain ⟨first, authorized, kept, stillAdmits⟩ :=
    evaluate_checkAuthority ready.certain ready.excluding admits
  have seeks : (FileRequest.send .seekEnd .pgnoFile).evaluate fileHandler first =
      (.ok base.length, Function.update first .pgnoFile ⟨some base, base.length⟩) := by
    rw [evaluate_send]
    simp only [FileRequest.serve, FileState.present, kept, stands]
  have atEnd : Function.update first .pgnoFile ⟨some base, base.length⟩ .pgnoFile =
      ⟨some base, base.length⟩ := Function.update_self ..
  have written := evaluate_writeAll block atEnd
  rw [Function.update_idem] at written
  generalize arrived : Function.update first .pgnoFile
    ⟨some (base ++ block), (base ++ block).length⟩ = later at written
  have metaKept : later .metaFile = first .metaFile := by
    rw [← arrived, Function.update_of_ne (by decide)]
  have writes : (engine.writeRes block).evaluate fileHandler
      (Function.update first .pgnoFile ⟨some base, base.length⟩) = (.ok (), later) := by
    unfold writeRes
    rw [ready.writes]
    exact written
  have synced : (FileRequest.send .syncData .pgnoFile).evaluate fileHandler later =
      (.ok (), later) := by
    rw [evaluate_send]
    simp only [FileRequest.serve, Function.update_eq_self]
  have syncs : engine.syncRes.evaluate fileHandler later = (.ok (), later) := by
    unfold syncRes
    rw [ready.syncs]
    exact synced
  refine ⟨later, ?_, by rw [← arrived, Function.update_self], ?_⟩
  · unfold appendBlock
    rw [Action.evaluate_bind authorized, Action.evaluate_bind rfl,
      Action.evaluate_bind (Action.evaluate_refuseIf (by simp [ready.excluding]) _ _)]
    have simulates : ((Action.mutate checkAppendSimulation : Action fileOperations _ _ _)
        engine).evaluate fileHandler first = ((.ok none, engine), first) := by
      simp only [Action.mutate, Program.evaluate, ready.settled]
    rw [Action.evaluate_bind simulates]
    dsimp only
    unfold writeBlock
    rw [Action.evaluate_bind rfl,
      Action.evaluate_bind (Action.evaluate_refuseIf (by simp [ready.opened]) _ _),
      Action.evaluate_bind (evaluate_orRefuse seeks),
      Action.evaluate_bind (Action.evaluate_lift writes engine)]
    dsimp only
    unfold settleBlock
    rw [Action.evaluate_bind rfl, Action.evaluate_bind (Action.evaluate_lift syncs engine)]
    rfl
  · unfold AdmitsWriter at stillAdmits ⊢
    rw [metaKept]
    exact stillAdmits

end Success

end Pardosa
