import Pardosa.File.Exclusion

/-!
# Tenures

What a process does with its session: appends, of which each writes its frame behind
the others under the lock or leaves a beginning of it in a session that is fenced, and
the release of the lock. With the opening calls, every call of every process keeps to
the discipline.
-/

namespace Pardosa

open Foundation

section Append

variable [Digests]

/-- What an append makes of a store and of the event data: nothing, its frame behind
the old bytes, or a beginning of its frame in a session that is fenced. -/
inductive Appended (store : Store FileEngine) (base payload : Bytes) :
    AppendOutcome → Store FileEngine → Option Bytes → Prop where
  | refused (failure : OperationFailure) :
      Appended store base payload (.error failure) store (some base)
  | landed {envelope : EventEnvelope} {engine : FileEngine} (count : Nat)
      (certain : store.engine.uncertain = false)
      (admitted : AdmittedFrame store.fiberIndex payload envelope)
      (counted : engine = { store.engine with frameCount := store.engine.frameCount + 1 }) :
      Appended store base payload (.ok (.landed count))
        (({ store with engine } : Store FileEngine).committed envelope
          (ContainerFrame.frameBytes payload))
        (some (base ++ ContainerFrame.frameBytes payload))
  | undetermined {part : Bytes} (diagnostic : String) (carriedEpoch : UInt64)
      (certain : store.engine.uncertain = false)
      (begins : part <+: ContainerFrame.frameBytes payload) :
      Appended store base payload (.ok (.undetermined carriedEpoch))
        (({ store with engine := store.engine.fence diagnostic } : Store FileEngine).fenced
          carriedEpoch)
        (some (base ++ part))

variable {allows : Option Bytes → Option Bytes → Prop} [Std.Refl allows] {world : FileWorld}
  {store : Store FileEngine} {base payload : Bytes}

/-- An append over undisturbed event data. -/
theorem FileEngine.wp_appendFrameVerdict (stands : (world .pgnoFile).content = some base)
    (promised : store.engine.uncertain = false → payload.length ≤ u32Max →
      Appending allows base (ContainerFrame.frameBytes payload)) :
    (Store.appendFrameVerdict payload).wp (honouring allows) (fun outcome after later =>
      Appended store base payload outcome after (later .pgnoFile).content) store world := by
  let Stands (world : FileWorld) : Prop := (world .pgnoFile).content = some base
  refine Store.wp_appendFrameVerdict (I := Stands) (J := Stands) stands ?_ ?_ ?_
  · intro before stands
    have checks : checkAuthority.wp (honouring allows) (fun _ _ after => Stands after) store.engine
        before := by
      refine wp_checkAuthority ?_ ?_
      · intro failure after kept
        exact (congrArg FileState.content kept).trans stands
      · intro after kept _
        exact (congrArg FileState.content kept).trans stands
    refine (Program.wp_bind _ _ _ _).mpr (Program.wp_mono checks ?_)
    rintro ⟨failure | _, engine⟩ after stands
    · have stands : (after .pgnoFile).content = some base := stands
      show Appended store base payload (.error failure) store (after .pgnoFile).content
      rw [stands]
      exact .refused failure
    · exact stands
  · intro before failure stands _
    have stands : (before .pgnoFile).content = some base := stands.elim id id
    rw [stands]
    exact .refused failure
  · intro before envelope stands admitted
    refine FileEngine.wp_appendBlock stands ?_ ?_
    · intro failure after stands
      show Appended store base payload (.error failure) store (after .pgnoFile).content
      rw [stands]
      exact .refused failure
    · intro certain
      refine ⟨promised certain admitted.fits, ?_, ?_, ?_⟩
      · intro failure after stands
        show Appended store base payload (.error failure) store (after .pgnoFile).content
        rw [stands]
        exact .refused failure
      · intro after stands
        dsimp only [Store.landingPost]
        rw [stands]
        exact .landed _ certain admitted rfl
      · intro part diagnostic after begins stands
        dsimp only [Store.landingPost]
        rw [stands]
        exact .undetermined diagnostic _ certain begins

omit [Std.Refl allows] in
/-- Besides calm requests, an append asks for writes to the event data and for a cut. -/
theorem FileEngine.appendFrameVerdict_only {allowed : fileOperations.Op → Prop}
    (calm : ∀ (name : FileName) (request : FileRequest), request.isCalm = true →
      allowed (⟨name, request⟩ : FileOp))
    (writes : ∀ bytes, allowed (⟨.pgnoFile, .write bytes⟩ : FileOp))
    (cuts : ∀ len, allowed (⟨.pgnoFile, .setLen len⟩ : FileOp)) (payload : Bytes) :
    (Store.appendFrameVerdict payload : Action fileOperations OperationFailure (Store FileEngine)
      _).Only allowed := by
  have checked : FileEngine.checkAuthority.Only allowed :=
    FileEngine.checkAuthority_only fun _ quiet => calm _ _ quiet
  have lengthened : (FileRequest.seekEnd.send .pgnoFile).Only allowed := only_send (calm _ _ rfl)
  have synced : (FileRequest.syncData.send .pgnoFile).Only allowed := only_send (calm _ _ rfl)
  refine Store.appendFrameVerdict_only ?_ fun block => ?_
  · intro engine
    exact Program.only_bind (checked engine) fun _ => trivial
  refine Action.only_bind checked fun _ => ?_
  refine Action.only_bind Action.only_get fun engine => ?_
  refine Action.only_bind (Action.only_refuseIf _ _) fun _ => ?_
  refine Action.only_bind (Action.only_mutate _) ?_
  rintro (_ | verdict)
  · refine Action.only_bind Action.only_get fun engine => ?_
    refine Action.only_bind (Action.only_refuseIf _ _) fun _ => ?_
    refine Action.only_bind (only_orRefuse lengthened) fun initialLen => ?_
    refine Action.only_bind (Action.only_lift ?_) ?_
    · unfold writeRes
      split
      · trivial
      · exact writeAllLoop_only writes _ _
    · rintro (failure | _)
      · refine Action.only_bind (Action.only_lift ?_) fun _ => ?_
        · refine Program.only_bind (only_send (cuts _)) ?_
          rintro (failure | _)
          · trivial
          refine Program.only_bind synced ?_
          rintro (failure | _)
          · trivial
          refine Program.only_bind (only_send (calm _ _ rfl)) ?_
          rintro (failure | _)
          · trivial
          · trivial
        · refine Action.only_bind (Action.only_modify _) fun _ => ?_
          exact Action.only_bind Action.only_get fun _ => Action.only_pure _
      · refine Action.only_bind Action.only_get fun engine => ?_
        refine Action.only_bind (Action.only_lift ?_) ?_
        · unfold syncRes
          split
          · trivial
          · exact synced
        · rintro (failure | _)
          · exact Action.only_bind (Action.only_modify _) fun _ => Action.only_pure _
          · exact Action.only_bind (Action.only_modify _) fun _ => Action.only_pure _
  · exact Action.only_pure _

omit [Std.Refl allows] in
/-- An append takes no lock and creates nothing. -/
theorem FileEngine.appendFrameVerdict_steady (payload : Bytes) :
    (Store.appendFrameVerdict payload : Action fileOperations OperationFailure (Store FileEngine)
      _).Only FileOp.IsSteady :=
  appendFrameVerdict_only (fun _ _ calm => FileOp.isSteady_of_isCalm calm)
    (fun _ => ⟨nofun, nofun, nofun⟩) (fun _ => ⟨nofun, nofun, nofun⟩) payload

/-- The event data stays, or one beginning of a frame behind the others gives way to
another. -/
def growing (frames : List Bytes) (tail payload : Bytes) (before after : Option Bytes) : Prop :=
  after = before ∨ tail = [] ∧ payload.length ≤ u32Max ∧ ∃ part whole,
    part <+: ContainerFrame.frameBytes payload ∧ whole <+: ContainerFrame.frameBytes payload ∧
    (part = ContainerFrame.frameBytes payload → whole = ContainerFrame.frameBytes payload) ∧
    before = some (containerBytes frames ++ part) ∧ after = some (containerBytes frames ++ whole)

instance growing_refl (frames : List Bytes) (tail payload : Bytes) :
    Std.Refl (growing frames tail payload) := ⟨fun _ => .inl rfl⟩

/-- An append lets the event data grow by a beginning of its frame. -/
theorem appending_growing {frames : List Bytes} {payload : Bytes} (fits : payload.length ≤ u32Max) :
    Appending (growing frames [] payload) (containerBytes frames)
      (ContainerFrame.frameBytes payload) where
  grows part whole within begins := by
    refine .inr ⟨rfl, fits, part, whole, within.trans begins, begins, ?_, rfl, rfl⟩
    rintro rfl
    exact begins.eq_of_length_le within.length_le
  cut part begins partly := by
    refine .inr ⟨rfl, fits, part, [], begins, List.nil_prefix, ?_, rfl, by rw [List.append_nil]⟩
    intro whole
    exact (partly whole).symm.trans whole

/-- A beginning of a frame behind others: it counts once it is whole. -/
theorem Shape.of_part {frames : List Bytes} {part payload : Bytes}
    (fits : ∀ frame ∈ frames, frame.length ≤ u32Max) (payloadFits : payload.length ≤ u32Max)
    (begins : part <+: ContainerFrame.frameBytes payload) :
    Shape (some (containerBytes frames ++ part))
      (if part = ContainerFrame.frameBytes payload then frames ++ [payload] else frames) := by
  split_ifs with whole
  · rw [whole, ← framesBytes_singleton, ← containerBytes_append]
    refine .clean ?_
    intro frame member
    rcases List.mem_append.mp member with earlier | last
    · exact fits frame earlier
    · rw [List.mem_singleton.mp last]
      exact payloadFits
  · exact .container payload fits payloadFits begins whole

end Append

section Writing

variable [Digests] {Process : Type} [DecidableEq Process] {process : Process}
  {opened : OpeningCall} {store : Store FileEngine} {outcomes : List AppendOutcome}
  {frames : List Bytes} {tail payload part : Bytes} {shared before after : SharedFiles Process}

/-- A process in the middle of an append: behind its frames is what its session left
there before, or so much of the frame that it writes. -/
structure Writing (process : Process) (opened : OpeningCall) (store : Store FileEngine)
    (outcomes : List AppendOutcome) (frames : List Bytes) (tail payload part : Bytes)
    (shared : SharedFiles Process) : Prop where
  won : Won process opened shared
  accounted : Accounted process outcomes shared
  counted : outcomes.length + 1 = (shared.begun process).length
  last : (shared.begun process).getLast? = some payload
  session : SessionOver process store frames (tail ++ part) shared
  own : PartOf process outcomes.length payload frames part shared
  behind : tail = [] ∨ part = [] ∧ LeftBehind process outcomes frames tail shared
  wrote : (process, outcomes.length) ∈ shared.authors ↔ part = ContainerFrame.frameBytes payload

namespace Writing

omit [DecidableEq Process] in
/-- What holds while a process writes is kept. -/
theorem kept (keeps : SharedFiles.Keeps process before after)
    (writing : Writing process opened store outcomes frames tail payload part before) :
    Writing process opened store outcomes frames tail payload part after where
  won := writing.won.kept keeps
  accounted := writing.accounted.kept keeps
  counted := by
    rw [keeps.begun]
    exact writing.counted
  last := by
    rw [keeps.begun]
    exact writing.last
  session := writing.session.kept keeps
  own := writing.own.kept keeps
  behind := writing.behind.imp_right fun left => ⟨left.1, left.2.kept keeps⟩
  wrote := (keeps.authors _).trans writing.wrote

omit [DecidableEq Process] in
/-- That is how a process is found at any time of an append. -/
theorem during (writing : Writing process opened store outcomes frames tail payload part shared) :
    (ProcessCall.append payload).During process (.live opened store outcomes) shared := by
  refine ⟨writing.won, writing.accounted, writing.counted, writing.last, frames, tail ++ part,
    writing.session, ?_⟩
  rcases writing.behind with rfl | ⟨rfl, left⟩
  · exact .inr writing.own
  · rw [List.append_nil]
    exact .inl left

omit [DecidableEq Process] in
/-- Event data that is appended to has its header. -/
theorem complete (writing : Writing process opened store outcomes frames tail payload part shared) :
    HeaderComplete (shared.content .pgnoFile) :=
  ⟨_, writing.session.stands, by simp [containerBytes]⟩

omit [Digests] in
/-- A certain session has left no torn tail. -/
theorem nothing_of_certain (fenced : tail = [] ∨ store.engine.uncertain = true)
    (certain : store.engine.uncertain = false) : tail = [] := by
  rcases fenced with nothing | uncertain
  · exact nothing
  · rw [certain] at uncertain
    cases uncertain

/-- One operation of an append. -/
theorem performed {op : FileOp} {answer : op.request.Res} (steady : op.IsSteady)
    (inv : SharedFiles.Inv before)
    (writing : Writing process opened store outcomes frames tail payload part before)
    (performed : SharedFiles.Performs process op before answer after)
    (grows : growing frames tail payload (before.content .pgnoFile) (after.content .pgnoFile)) :
    before.MayLeave process (after.content .pgnoFile) ∧ ∃ part,
      Writing process opened store outcomes frames tail payload part after := by
  rcases grows with same | ⟨rfl, fits, written, whole, -, begins, stays, stood, stands⟩
  · have authors := performed.authors_eq (congrArg wholeFrames same)
    refine ⟨by rw [same]; exact inv.mayLeave_same process, part, writing.kept ?_⟩
    obtain ⟨-, file, -, rfl⟩ := performed
    refine ⟨rfl, SharedFiles.maker_touched inv, ?_, ?_, ?_, fun _ _ => same⟩
    · intro number
      rw [authors]
    · rw [authors]
    · exact Eq.congr_left (SharedFiles.holderAfter_steady steady)
  · obtain rfl : written = part := by
      have same := stood.symm.trans writing.session.stands
      simpa using same
    have shape := Shape.of_part writing.session.fits fits begins
    have framesBefore : before.frames = if written = ContainerFrame.frameBytes payload then
        frames ++ [payload] else frames := by
      rw [SharedFiles.frames, stood]
      exact (Shape.of_part writing.session.fits fits writing.own.begins).wholeFrames_eq
    have number : (before.begun process).length - 1 = outcomes.length := by
      rw [← writing.counted]
      rfl
    have leaves : before.MayLeave process (after.content .pgnoFile) := by
      rw [stands]
      refine ⟨by rw [shape.wholeFrames_eq]; exact shape, ?_, fun _ => ⟨_, rfl, ?_⟩,
        .inr (.inl ⟨writing.session.holder, writing.complete⟩)⟩
      · rw [shape.wholeFrames_eq, framesBefore, number]
        by_cases done : written = ContainerFrame.frameBytes payload
        · rw [if_pos done, if_pos (stays done)]
          exact .inl rfl
        · rw [if_neg done]
          by_cases now : whole = ContainerFrame.frameBytes payload
          · rw [if_pos now]
            exact .inr ⟨payload, rfl, writing.last, mt writing.wrote.mp done⟩
          · rw [if_neg now]
            exact .inl rfl
      · simp [containerBytes]
    have framesAfter : after.frames = if whole = ContainerFrame.frameBytes payload then
        frames ++ [payload] else frames := by
      rw [SharedFiles.frames, stands]
      exact shape.wholeFrames_eq
    refine ⟨leaves, whole, ?_⟩
    obtain ⟨-, file, -, rfl⟩ := performed
    have credited := SharedFiles.authors_touched leaves
    rw [number] at credited
    refine ⟨fun created => SharedFiles.maker_touched inv (writing.won created), ⟨?_, ?_, ?_⟩,
      writing.counted, writing.last, ⟨?_, writing.session.file, writing.session.locked, stands,
      writing.session.fits, writing.session.derived⟩, ⟨begins, fun _ => fits, ?_⟩, .inl rfl, ?_⟩
    · exact writing.accounted.begun
    · intro other author earlier
      rcases credited with ⟨-, kept⟩ | ⟨-, -, -, -, more⟩
      · rw [kept] at author
        exact writing.accounted.written author earlier
      · rw [more] at author
        rcases List.mem_append.mp author with old | new
        · exact writing.accounted.written old earlier
        · cases List.mem_singleton.mp new
          omega
    · intro other count landed
      have old := writing.accounted.landed landed
      rcases credited with ⟨-, kept⟩ | ⟨-, -, -, -, more⟩
      · rw [kept]
        exact old
      · rw [more]
        exact List.mem_append_left _ old
    · exact (SharedFiles.holderAfter_steady steady).trans writing.session.holder
    · intro now
      rcases credited with ⟨same, kept⟩ | ⟨_, more, -, fresh, authors⟩
      · rw [kept]
        refine writing.own.credited ?_
        by_contra partly
        rw [framesAfter, framesBefore, if_pos now, if_neg partly] at same
        simp at same
      · have partly : written ≠ ContainerFrame.frameBytes payload := fun done =>
          fresh (writing.wrote.mpr done)
        rw [if_neg partly] at framesBefore
        rw [authors, ← framesBefore, ← inv.credited, List.getElem?_concat_length]
    · rcases credited with ⟨same, kept⟩ | ⟨_, more, -, fresh, authors⟩
      · rw [kept, writing.wrote]
        refine ⟨stays, fun now => ?_⟩
        by_contra partly
        rw [framesAfter, framesBefore, if_pos now, if_neg partly] at same
        simp at same
      · rw [authors]
        refine ⟨fun _ => ?_, fun _ => by simp⟩
        by_contra partly
        rw [framesAfter, framesBefore, if_neg partly, if_neg (mt stays partly)] at more
        simp at more

omit [DecidableEq Process] in
/-- What an append leaves agrees with what was written. -/
theorem ends {outcome : AppendOutcome} {later : Store FileEngine}
    (writing : Writing process opened store outcomes frames tail payload part shared)
    (fenced : tail = [] ∨ store.engine.uncertain = true)
    (appended : Appended store (containerBytes frames ++ tail) payload outcome later
      (shared.content .pgnoFile)) :
    AppendEnds process outcomes.length outcome shared ∧
      Settled process later (outcomes ++ [outcome]) shared := by
  have stands := writing.session.stands
  have later : LeftBehind process outcomes frames tail shared →
      LeftBehind process (outcomes ++ [outcome]) frames tail shared := by
    rintro ⟨number, torn, carriedEpoch, begun, undetermined, begins⟩
    have earlier : number < outcomes.length := (List.getElem?_eq_some_iff.mp undetermined).1
    refine ⟨number, torn, carriedEpoch, begun, ?_, begins⟩
    rw [List.getElem?_append_left earlier]
    exact undetermined
  generalize known : shared.content .pgnoFile = content at appended
  cases appended with
  | refused failure =>
      obtain rfl : part = [] := by
        have same := known.symm.trans stands
        simpa using same
      rw [List.append_nil] at stands
      have unwritten : (process, outcomes.length) ∉ shared.authors := fun author =>
        ContainerFrame.frameBytes_ne_nil payload (writing.wrote.mp author).symm
      have session := writing.session
      rw [List.append_nil] at session
      refine ⟨⟨fun author => (unwritten author).elim, by rintro count ⟨⟩⟩, frames,
        tail, session, ?_⟩
      rcases fenced with nothing | uncertain
      · exact .inl nothing
      · rcases writing.behind with nothing | ⟨-, left⟩
        · exact .inl nothing
        · exact .inr ⟨uncertain, later left⟩
  | @landed envelope engine count certain admitted counted =>
      obtain rfl := nothing_of_certain fenced certain
      obtain rfl : part = ContainerFrame.frameBytes payload := by
        have same := known.symm.trans stands
        simpa using same.symm
      have author := writing.wrote.mpr rfl
      refine ⟨⟨fun _ => ⟨_, rfl⟩, fun _ => author⟩, frames ++ [payload], [], ?_, .inl rfl⟩
      subst counted
      refine ⟨writing.session.holder, writing.session.file, writing.session.locked, ?_, ?_, ?_⟩
      · rw [stands, containerBytes_append, framesBytes_singleton, List.append_nil, List.nil_append]
      · intro frame member
        rcases List.mem_append.mp member with earlier | last
        · exact writing.session.fits frame earlier
        · rw [List.mem_singleton.mp last]
          exact admitted.fits
      · have derived : ({ store with engine := { store.engine with
            frameCount := store.engine.frameCount + 1 } } : Store FileEngine).DerivedFrom frames :=
          ⟨writing.session.derived.index, writing.session.derived.rolling⟩
        exact derived.committed admitted
  | @undetermined arrived diagnostic carriedEpoch certain begins =>
      obtain rfl := nothing_of_certain fenced certain
      obtain rfl : part = arrived := by
        have same := known.symm.trans stands
        simpa using same.symm
      have session := writing.session
      rw [List.nil_append] at session
      refine ⟨⟨fun _ => ⟨_, rfl⟩, by rintro count ⟨⟩⟩, frames, part,
        ⟨session.holder, session.file, session.locked, session.stands, session.fits,
          session.derived.index, session.derived.rolling⟩, .inr ⟨rfl, ?_⟩⟩
      refine ⟨outcomes.length, payload, carriedEpoch, ?_, by simp, writing.own⟩
      have last := writing.last
      rw [List.getLast?_eq_getElem?, ← writing.counted] at last
      exact last

end Writing

/-- An append of a process among others. -/
theorem ProcessCall.wp_append (fenced : tail = [] ∨ store.engine.uncertain = true)
    (writing : Writing process opened store outcomes frames tail payload [] shared) :
    ((Store.appendFrameVerdict payload store).bind fun result =>
      .ret (.live opened result.2 (outcomes ++ [result.1]))).wp
      ((ProcessCall.append payload).setting process (.live opened store outcomes))
      ((ProcessCall.append payload).Ends process (.live opened store outcomes)) shared := by
  let Kept (moved : SharedFiles Process) : Prop := ∃ part,
    Writing process opened store outcomes frames tail payload part moved
  have stands : (shared.view process .pgnoFile).content = some (containerBytes frames ++ tail) := by
    have stands := writing.session.stands
    rw [List.append_nil] at stands
    exact stands
  have appends : (Store.appendFrameVerdict payload).wp (honouring (growing frames tail payload))
      (fun outcome after later => Appended store (containerBytes frames ++ tail) payload outcome
        after (later .pgnoFile).content) store (shared.view process) := by
    refine FileEngine.wp_appendFrameVerdict stands ?_
    intro certain fits
    obtain rfl := Writing.nothing_of_certain fenced certain
    rw [List.append_nil]
    exact appending_growing fits
  have only := FileEngine.appendFrameVerdict_steady payload store
  refine (Program.wp_bind _ _ _ _).mpr (Program.wp_mono
    (wp_undisturbed Kept ?_ ?_ ?_ only ⟨[], writing⟩ appends) ?_)
  · rintro before ⟨part, writing⟩
    exact ⟨writing.session.holder, writing.complete⟩
  · rintro before after sees ⟨part, writing⟩
    exact ⟨part, writing.kept sees.rely.toKeeps⟩
  · rintro op before answer after steady inv - ⟨part, writing⟩ performed grows
    obtain ⟨leaves, more, further⟩ := writing.performed steady inv performed grows
    exact ⟨leaves, further.during, fun _ => ⟨more, further⟩⟩
  · rintro ⟨outcome, later⟩ after ⟨appended, part, writing⟩
    obtain ⟨accounts, settled⟩ := writing.ends fenced appended
    exact ⟨outcome, later, rfl, accounts, settled⟩

end Writing

section Discipline

variable [Digests] {Process : Type} [DecidableEq Process]

/-- A release of the lock among others. -/
theorem ProcessCall.wp_releaseExclusion {process : Process} {opened : OpeningCall}
    {store : Store FileEngine} {outcomes : List AppendOutcome} {shared : SharedFiles Process} :
    ((FileEngine.releaseExclusion store.engine).bind fun _ =>
      .ret (.gone (some opened) outcomes)).wp
      (ProcessCall.releaseExclusion.setting process (.live opened store outcomes))
      (ProcessCall.releaseExclusion.Ends process (.live opened store outcomes)) shared := by
  let Unlocks (op : FileOp) : Prop := op = ⟨.pgnoFile, .unlock⟩
  have only : FileEngine.releaseExclusion.Only Unlocks := by
    refine Action.only_bind Action.only_get fun engine => ?_
    split_ifs
    · exact Action.only_bind (only_orRefuse (only_send rfl)) fun _ => Action.only_modify _
    · exact Action.only_pure _
  let Anything (_ : SharedFiles Process) : Prop := True
  have nothing : Anything shared := trivial
  refine (Program.wp_bind _ _ _ _).mpr (Program.wp_mono (Discipline.wp_of_only
    (fun _ anything => anything) ?_ (only store.engine) nothing) fun _ _ _ => rfl)
  rintro op before answer after rfl inv ⟨won, accounted⟩ - performed
  have kept := performed.content_pgno (.inr rfl)
  have authors := performed.authors_eq (congrArg wholeFrames kept)
  have moves := SharedFiles.Performs.moves_same inv performed kept
  obtain ⟨-, file, -, rfl⟩ := performed
  refine ⟨moves, ⟨fun created => SharedFiles.maker_touched inv (won created), ?_⟩, trivial⟩
  refine ⟨accounted.begun, ?_, ?_⟩
  · rw [authors]
    exact accounted.written
  · rw [authors]
    exact accounted.landed

variable {process : Process} {tenure final : Tenure} {call : ProcessCall}
  {shared : SharedFiles Process}

omit [DecidableEq Process] in
/-- A process may do nothing. -/
theorem exclusion_moves_refl (inv : SharedFiles.Inv shared) :
    (exclusion Process).Moves process shared shared :=
  ⟨inv, SharedFiles.Grows.refl shared, fun other _ => SharedFiles.Rely.refl other shared⟩

/-- It may let go of the lock. -/
theorem exclusion_moves_released (inv : SharedFiles.Inv shared) :
    (exclusion Process).Moves process shared (shared.released process) :=
  ⟨SharedFiles.inv_released inv,
    ⟨id, id, List.prefix_rfl, List.prefix_rfl, fun _ => List.prefix_rfl⟩,
    fun _ apart => SharedFiles.rely_released apart⟩

/-- It may begin an append. -/
theorem exclusion_moves_appending (inv : SharedFiles.Inv shared) (payload : Bytes) :
    (exclusion Process).Moves process shared (shared.appending process payload) :=
  ⟨SharedFiles.inv_appending inv payload, SharedFiles.grows_appending payload,
    fun _ apart => SharedFiles.rely_appending apart payload⟩

/-- A session that is over leaves its files to the others. -/
theorem Tenure.gone_holds {opened : Option OpeningCall} {outcomes : List AppendOutcome}
    (accounted : Accounted process outcomes shared)
    (won : ∀ call, opened = some call → Won process call shared) :
    (Tenure.gone opened outcomes).Holds process (shared.released process) :=
  ⟨shared.holder_released process,
    ⟨accounted.begun, accounted.written, accounted.landed⟩, won⟩

omit [Digests] [DecidableEq Process] in
/-- Without appends there is nothing to account for. -/
theorem Accounted.nil : Accounted process [] shared :=
  ⟨Nat.zero_le _, nofun, nofun⟩

/-- A process that never had a session owes nothing. -/
theorem Tenure.never_holds : (Tenure.gone none []).Holds process (shared.released process) :=
  Tenure.gone_holds .nil nofun

/-- A call may start: the discipline holds during it, and it ends as it should. -/
theorem ProcessCall.starts {program : Program fileOperations Tenure}
    (inv : SharedFiles.Inv shared) (holds : tenure.Holds process shared)
    (possible : call.program tenure = some program) :
    (exclusion Process).Moves process shared (shared.entered process call) ∧
      call.During process tenure (shared.entered process call) ∧
      program.wp (call.setting process tenure) (call.Ends process tenure)
        (shared.entered process call) := by
  cases call with
  | opening call =>
      cases tenure with
      | live => cases possible
      | gone => cases possible
      | waiting =>
          cases possible
          refine ⟨exclusion_moves_refl inv, holds.2, ?_⟩
          refine (Program.wp_bind _ _ _ _).mpr (Program.wp_mono call.wp_perform ?_)
          rintro ⟨failure | store, _⟩ after handsOut
          · exact .inl rfl
          · exact .inr ⟨store, rfl, handsOut store rfl⟩
  | append payload =>
      cases tenure with
      | waiting => cases possible
      | gone => cases possible
      | live opened store outcomes =>
          cases possible
          obtain ⟨won, accounted, counted, frames, tail, session, behind⟩ := holds
          have began : (shared.appending process payload).begun process =
              shared.begun process ++ [payload] := by simp [SharedFiles.appending]
          have unwritten : (process, outcomes.length) ∉ shared.authors := by
            intro author
            obtain ⟨place, at_place⟩ := List.mem_iff_getElem?.mp author
            have written := inv.written at_place
            have inside : place < shared.frames.length := by
              rw [← inv.credited]
              exact (List.getElem?_eq_some_iff.mp at_place).1
            rw [List.getElem?_eq_getElem inside] at written
            have known := (List.getElem?_eq_some_iff.mp written).1
            omega
          have writing : Writing process opened store outcomes frames tail payload []
              (shared.appending process payload) := by
            refine ⟨won, ⟨?_, accounted.written, accounted.landed⟩, ?_, ?_, ?_,
              ⟨List.nil_prefix, fun none => (none rfl).elim, fun whole => ?_⟩, ?_, ?_⟩
            · rw [began, List.length_append]
              exact Nat.le_add_right_of_le accounted.begun
            · rw [began, List.length_append, counted]
              rfl
            · rw [began, List.getLast?_concat]
            · rw [List.append_nil]
              exact ⟨session.holder, session.file, session.locked, session.stands, session.fits,
                session.derived⟩
            · exact (ContainerFrame.frameBytes_ne_nil payload whole.symm).elim
            · refine behind.imp_right fun left => ⟨rfl, ?_⟩
              obtain ⟨number, torn, carriedEpoch, begun, undetermined, part⟩ := left.2
              refine ⟨number, torn, carriedEpoch, ?_, undetermined, part.begins, part.fits,
                part.credited⟩
              rw [began, List.getElem?_append_left (List.getElem?_eq_some_iff.mp begun).1]
              exact begun
            · exact ⟨fun author => (unwritten author).elim,
                fun whole => (ContainerFrame.frameBytes_ne_nil payload whole.symm).elim⟩
          exact ⟨exclusion_moves_appending inv payload, writing.during,
            ProcessCall.wp_append (behind.imp_right fun left => left.1) writing⟩
  | releaseExclusion =>
      cases tenure with
      | waiting => cases possible
      | gone => cases possible
      | live opened store outcomes =>
          cases possible
          obtain ⟨won, accounted, -⟩ := holds
          exact ⟨exclusion_moves_refl inv, ⟨won, accounted⟩, wp_releaseExclusion⟩

/-- A call that has ended leaves its process as it should be between calls. -/
theorem ProcessCall.finishes (inv : SharedFiles.Inv shared)
    (during : call.During process tenure shared) (ends : call.Ends process tenure final shared) :
    (exclusion Process).Moves process shared (SharedFiles.left process final shared) ∧
      final.Holds process (SharedFiles.left process final shared) := by
  cases call with
  | opening call =>
      cases tenure with
      | live => cases during
      | gone => cases during
      | waiting =>
          rcases ends with rfl | ⟨store, rfl, won, frames, session⟩
          · exact ⟨exclusion_moves_released inv, Tenure.never_holds⟩
          · have unbegun : Unbegun process shared := during
            refine ⟨exclusion_moves_refl inv, won, .nil, ?_, frames, [], session, .inl rfl⟩
            rw [SharedFiles.left, unbegun.1]
            rfl
  | append payload =>
      cases tenure with
      | waiting => cases during
      | gone => cases during
      | live opened store outcomes =>
          obtain ⟨won, accounted, counted, -⟩ := during
          obtain ⟨outcome, after, rfl, accounts, settled⟩ := ends
          have length : (outcomes ++ [outcome]).length = (shared.begun process).length := by
            rw [← counted, List.length_append, List.length_singleton]
          refine ⟨exclusion_moves_refl inv, won, ⟨length.le, ?_, ?_⟩, length, settled⟩
          · intro number author inside
            by_cases earlier : number < outcomes.length
            · rw [List.getElem?_append_left earlier]
              exact accounted.written author earlier
            · rw [List.length_append, List.length_singleton] at inside
              obtain rfl : number = outcomes.length := by omega
              obtain ⟨verdict, rfl⟩ := accounts.written author
              exact ⟨verdict, by simp⟩
          · intro number count landed
            by_cases earlier : number < outcomes.length
            · rw [List.getElem?_append_left earlier] at landed
              exact accounted.landed landed
            · have inside := (List.getElem?_eq_some_iff.mp landed).1
              rw [List.length_append, List.length_singleton] at inside
              obtain rfl : number = outcomes.length := by omega
              have last : outcome = .ok (.landed count) := by simpa using landed
              exact accounts.landed last
  | releaseExclusion =>
      cases tenure with
      | waiting => cases during
      | gone => cases during
      | live opened store outcomes =>
          obtain ⟨won, accounted⟩ := during
          obtain rfl : final = .gone (some opened) outcomes := ends
          refine ⟨exclusion_moves_released inv, Tenure.gone_holds accounted ?_⟩
          rintro call ⟨⟩
          exact won

/-- A process may die between its calls. -/
theorem Tenure.dies (inv : SharedFiles.Inv shared) (holds : tenure.Holds process shared) :
    (exclusion Process).Moves process shared (SharedFiles.left process tenure.died shared) ∧
      tenure.died.Holds process (SharedFiles.left process tenure.died shared) := by
  cases tenure with
  | waiting => exact ⟨exclusion_moves_released inv, Tenure.never_holds⟩
  | live opened store outcomes =>
      obtain ⟨won, accounted, -⟩ := holds
      refine ⟨exclusion_moves_released inv, Tenure.gone_holds accounted ?_⟩
      rintro call ⟨⟩
      exact won
  | gone opened outcomes =>
      obtain ⟨-, accounted, won⟩ := holds
      exact ⟨exclusion_moves_released inv, Tenure.gone_holds accounted won⟩

/-- A process may die during a call. -/
theorem ProcessCall.dies (inv : SharedFiles.Inv shared)
    (during : call.During process tenure shared) :
    (exclusion Process).Moves process shared (SharedFiles.left process tenure.died shared) ∧
      tenure.died.Holds process (SharedFiles.left process tenure.died shared) := by
  cases tenure with
  | waiting => exact ⟨exclusion_moves_released inv, Tenure.never_holds⟩
  | gone =>
      cases call with
      | opening => cases during
      | append => cases during
      | releaseExclusion => cases during
  | live opened store outcomes =>
      have accounts : Won process opened shared ∧ Accounted process outcomes shared := by
        cases call with
        | opening => cases during
        | append => exact ⟨during.1, during.2.1⟩
        | releaseExclusion => exact during
      refine ⟨exclusion_moves_released inv, Tenure.gone_holds accounts.2 ?_⟩
      rintro call ⟨⟩
      exact accounts.1

/-- Every process keeps to the discipline, whatever the others do. -/
theorem processes_obey : (processes Process).Obeys (exclusion Process) where
  rely_refl := SharedFiles.Rely.refl
  rely_trans earlier later := SharedFiles.Rely.trans earlier later
  grows_refl := SharedFiles.Grows.refl
  grows_trans earlier later := SharedFiles.Grows.trans earlier later
  holds sees holds := Tenure.Holds.kept sees.rely.toKeeps holds
  during sees during := ProcessCall.During.kept sees.rely.toKeeps during
  ends sees ends := ProcessCall.Ends.kept sees.rely.toKeeps ends
  start inv holds possible := ProcessCall.starts inv holds possible
  finish inv during ends := ProcessCall.finishes inv during ends
  die_idle inv holds := Tenure.dies inv holds
  die_busy inv during := ProcessCall.dies inv during
  others inv rewrites := ⟨SharedFiles.inv_rewrites inv rewrites,
    SharedFiles.grows_rewrites rewrites, fun actor => SharedFiles.rely_rewrites actor rewrites⟩

variable (Process) in
/-- The discipline holds where nothing has been done. -/
theorem noArtefact_sound : Sound (processes Process) (exclusion Process) (noArtefact Process) where
  invariant := ⟨.missing, fun _ => rfl, rfl, nofun, List.nodup_nil⟩
  idle := by
    rintro process tenure ⟨⟩
    exact ⟨nofun, rfl, nofun⟩
  busy := nofun

end Discipline

end Pardosa
