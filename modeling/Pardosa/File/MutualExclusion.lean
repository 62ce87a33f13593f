import Pardosa.File.Reopening
import Pardosa.File.Tenures

/-!
# File writers exclude each other

In every run of any number of processes on one artefact at most one writer session is
live, at most one creation succeeds, and a session knows every frame that another one
has written. What a session may not know is one frame of its own: one that it is
writing, or whose landing stayed undetermined, which fences it.
-/

namespace Pardosa

open Foundation

/-- The call that opened the session of a process. -/
def Tenure.opened : Tenure → Option OpeningCall
  | .waiting => none
  | .live opened _ _ => some opened
  | .gone opened _ => opened

/-- The outcomes of the appends of a process. -/
def Tenure.outcomes : Tenure → List AppendOutcome
  | .waiting => []
  | .live _ _ outcomes => outcomes
  | .gone _ outcomes => outcomes

/-- Processes on one artefact, and what each of them is doing. -/
abbrev FileConfiguration (Process : Type) :=
  Configuration fileOperations (SharedFiles Process) Process ProcessCall Tenure

section Exclusion

variable {Process : Type}

/-- A process has a session that it was not told to release, between two calls or in
the middle of an append. -/
inductive Live (config : FileConfiguration Process) (process : Process)
    (store : Store FileEngine) : Prop where
  | between {opened : OpeningCall} {outcomes : List AppendOutcome}
      (doing : config.doing process = .idle (.live opened store outcomes))
  | appending {opened : OpeningCall} {outcomes : List AppendOutcome} {payload : Bytes}
      {rest : Program fileOperations Tenure}
      (doing : config.doing process = .busy (.append payload) (.live opened store outcomes) rest)

/-- A creation of a process has succeeded. -/
def Created (config : FileConfiguration Process) (process : Process) : Prop :=
  ∃ call, (config.doing process).state.opened = some call ∧ call.isCreate = true

variable [Digests]

/-- A session was built from some frames, and the event data holds these and at most one
more, which a given append of its process has written. -/
def KnowsAllBut (process : Process) (store : Store FileEngine) (own : Nat → Prop)
    (shared : SharedFiles Process) : Prop :=
  ∃ frames, store.DerivedFrom frames ∧ (shared.frames = frames ∨ ∃ payload number,
    shared.frames = frames ++ [payload] ∧ shared.authors[frames.length]? = some (process, number) ∧
      (shared.begun process)[number]? = some payload ∧ own number)

/-- An append whose landing stayed undetermined. -/
def UndeterminedAt (outcomes : List AppendOutcome) (number : Nat) : Prop :=
  ∃ carriedEpoch, outcomes[number]? = some (.ok (.undetermined carriedEpoch))

/-- Writers exclude each other in a configuration. -/
structure Excludes (config : FileConfiguration Process) : Prop where
  /-- A live session holds the lock on an open file. -/
  locked : ∀ {process store}, Live config process store →
    config.world.holder = some process ∧ store.engine.file = true ∧ store.engine.locked = true
  one : ∀ {process other store another}, Live config process store → Live config other another →
    process = other
  created : ∀ {process other}, Created config process → Created config other → process = other
  /-- Between two calls, a session that is not fenced knows exactly the frames of the
  event data. -/
  known : ∀ {process opened store outcomes},
    config.doing process = .idle (.live opened store outcomes) → store.engine.uncertain = false →
    store.DerivedFrom config.world.frames
  /-- A fenced one may miss one frame of its own that stayed undetermined. -/
  fenced : ∀ {process opened store outcomes},
    config.doing process = .idle (.live opened store outcomes) →
    KnowsAllBut process store (UndeterminedAt outcomes) config.world
  /-- So may one in the middle of an append, or the frame that it is writing. -/
  appending : ∀ {process opened store outcomes payload rest},
    config.doing process = .busy (.append payload) (.live opened store outcomes) rest →
    KnowsAllBut process store (fun number => number = outcomes.length ∨
      UndeterminedAt outcomes number) config.world
  /-- An append that landed has written a frame. -/
  landed : ∀ {process : Process} {number count : Nat},
    (config.doing process).state.outcomes[number]? = some (.ok (.landed count)) →
    ∃ (place : Nat) (payload : Bytes), config.world.authors[place]? = some (process, number) ∧
      (config.world.begun process)[number]? = some payload ∧
      config.world.frames[place]? = some payload

/-- Frames that were written once stay where they are, with all their bytes. -/
structure Preserves (before after : SharedFiles Process) : Prop where
  frames : before.frames <+: after.frames
  authors : before.authors <+: after.authors
  bytes : before.frames ≠ [] → ∃ rest,
    after.content .pgnoFile = some (containerBytes before.frames ++ rest)

/-- The bytes of whole frames stand at the beginning of the event data. -/
theorem Shape.bytes_of_prefix {content : Option Bytes} {earlier frames : List Bytes}
    (shape : Shape content frames) (begins : earlier <+: frames) (some_frame : earlier ≠ []) :
    ∃ rest, content = some (containerBytes earlier ++ rest) := by
  obtain ⟨more, rfl⟩ := begins
  generalize split : earlier ++ more = frames at shape
  cases shape with
  | missing => exact (some_frame (List.append_eq_nil_iff.mp split).1).elim
  | header => exact (some_frame (List.append_eq_nil_iff.mp split).1).elim
  | container payload =>
      rw [← split, containerBytes_append, List.append_assoc]
      exact ⟨_, rfl⟩

/-- Files that grow keep their whole frames and who wrote them. -/
theorem SharedFiles.Grows.preserves {before after : SharedFiles Process}
    (grows : SharedFiles.Grows before after) (inv : SharedFiles.Inv after) :
    Preserves before after :=
  ⟨grows.frames, grows.authors, fun some_frame => inv.shape.bytes_of_prefix grows.frames some_frame⟩

section Sessions

variable {process : Process} {store : Store FileEngine} {frames : List Bytes} {tail payload : Bytes}
  {number : Nat} {shared : SharedFiles Process} {own : Nat → Prop}

/-- A session without a torn tail stands over all whole frames. -/
theorem SessionOver.frames_eq (session : SessionOver process store frames [] shared) :
    shared.frames = frames := by
  rw [SharedFiles.frames, session.stands, List.append_nil]
  exact (Shape.clean session.fits).wholeFrames_eq

/-- A beginning of a frame behind the frames of a session is at most one more frame. -/
theorem SessionOver.knowsAllBut (session : SessionOver process store frames tail shared)
    (part : PartOf process number payload frames tail shared)
    (begun : (shared.begun process)[number]? = some payload) (owned : own number) :
    KnowsAllBut process store own shared := by
  refine ⟨frames, session.derived, ?_⟩
  by_cases nothing : tail = []
  · subst nothing
    exact .inl session.frames_eq
  have shape := Shape.of_part session.fits (part.fits nothing) part.begins
  have known : shared.frames = if tail = ContainerFrame.frameBytes payload then
      frames ++ [payload] else frames := by
    rw [SharedFiles.frames, session.stands]
    exact shape.wholeFrames_eq
  by_cases whole : tail = ContainerFrame.frameBytes payload
  · rw [if_pos whole] at known
    exact .inr ⟨payload, number, known, part.credited whole, begun, owned⟩
  · rw [if_neg whole] at known
    exact .inl known

end Sessions

section Configurations

variable [DecidableEq Process] {config : FileConfiguration Process} {process : Process}
  {store : Store FileEngine} {opened : OpeningCall} {outcomes : List AppendOutcome}
  {tenure : Tenure} {shared : SharedFiles Process}

omit [DecidableEq Process] in
/-- What a process owes at any time for its creation and its appends. -/
theorem Tenure.Holds.accounts (holds : tenure.Holds process shared) :
    (∀ call, tenure.opened = some call → Won process call shared) ∧
      Accounted process tenure.outcomes shared := by
  cases tenure with
  | waiting => exact ⟨nofun, .nil⟩
  | live opened store outcomes =>
      obtain ⟨won, accounted, -⟩ := holds
      refine ⟨?_, accounted⟩
      rintro call ⟨⟩
      exact won
  | gone opened outcomes =>
      obtain ⟨-, accounted, won⟩ := holds
      exact ⟨won, accounted⟩

omit [DecidableEq Process] in
/-- What a process owes for its creation and its appends, in the middle of a call. -/
theorem ProcessCall.During.accounts {call : ProcessCall}
    (during : call.During process tenure shared) :
    (∀ opened, tenure.opened = some opened → Won process opened shared) ∧
      Accounted process tenure.outcomes shared := by
  cases tenure with
  | waiting => exact ⟨nofun, .nil⟩
  | gone =>
      cases call with
      | opening => cases during
      | append => cases during
      | releaseExclusion => cases during
  | live opened store outcomes =>
      cases call with
      | opening => cases during
      | append =>
          obtain ⟨won, accounted, -⟩ := during
          refine ⟨?_, accounted⟩
          rintro call ⟨⟩
          exact won
      | releaseExclusion =>
          obtain ⟨won, accounted⟩ := during
          refine ⟨?_, accounted⟩
          rintro call ⟨⟩
          exact won

/-- What every process owes for its creation and its appends. -/
theorem accounts_of_sound (sound : Sound (processes Process) (exclusion Process) config)
    (process : Process) :
    (∀ call, (config.doing process).state.opened = some call → Won process call config.world) ∧
      Accounted process (config.doing process).state.outcomes config.world := by
  cases doing : config.doing process with
  | idle tenure => exact (sound.idle doing).accounts
  | busy call tenure rest => exact (sound.busy doing).1.accounts

/-- A live session stands over the event data. -/
theorem Live.session (sound : Sound (processes Process) (exclusion Process) config)
    (live : Live config process store) :
    ∃ frames tail, SessionOver process store frames tail config.world := by
  cases live with
  | between doing =>
      obtain ⟨-, -, -, frames, tail, session, -⟩ := sound.idle doing
      exact ⟨frames, tail, session⟩
  | appending doing =>
      obtain ⟨-, -, -, -, frames, tail, session, -⟩ := (sound.busy doing).1
      exact ⟨frames, tail, session⟩

/-- Writers exclude each other where every process is as the discipline wants it. -/
theorem excludes_of_sound (sound : Sound (processes Process) (exclusion Process) config) :
    Excludes config where
  locked := by
    intro process store live
    obtain ⟨frames, tail, session⟩ := live.session sound
    exact ⟨session.holder, session.file, session.locked⟩
  one := by
    intro process other store another live theirs
    obtain ⟨_, _, session⟩ := live.session sound
    obtain ⟨_, _, theirSession⟩ := theirs.session sound
    exact Option.some.inj (session.holder.symm.trans theirSession.holder)
  created := by
    rintro process other ⟨call, opened, isCreate⟩ ⟨another, theirs, theyCreate⟩
    have mine := (accounts_of_sound sound process).1 call opened isCreate
    have others := (accounts_of_sound sound other).1 another theirs theyCreate
    exact Option.some.inj (mine.symm.trans others)
  known := by
    intro process opened store outcomes doing certain
    obtain ⟨-, -, -, frames, tail, session, rfl | ⟨fenced, -⟩⟩ := sound.idle doing
    · rw [session.frames_eq]
      exact session.derived
    · rw [certain] at fenced
      cases fenced
  fenced := by
    intro process opened store outcomes doing
    obtain ⟨-, -, -, frames, tail, session, rfl | ⟨-, left⟩⟩ := sound.idle doing
    · exact ⟨frames, session.derived, .inl session.frames_eq⟩
    · obtain ⟨number, payload, carriedEpoch, begun, undetermined, part⟩ := left
      exact session.knowsAllBut part begun ⟨carriedEpoch, undetermined⟩
  appending := by
    intro process opened store outcomes payload rest doing
    obtain ⟨-, -, counted, last, frames, tail, session, left | part⟩ := (sound.busy doing).1
    · obtain ⟨number, torn, carriedEpoch, begun, undetermined, part⟩ := left
      exact session.knowsAllBut part begun (.inr ⟨carriedEpoch, undetermined⟩)
    · refine session.knowsAllBut part ?_ (.inl rfl)
      rw [List.getLast?_eq_getElem?, ← counted] at last
      exact last
  landed := by
    intro process number count landed
    have author := (accounts_of_sound sound process).2.landed landed
    obtain ⟨place, stands⟩ := List.mem_iff_getElem?.mp author
    have written := sound.invariant.written stands
    have inside : place < config.world.frames.length := by
      rw [← sound.invariant.credited]
      exact (List.getElem?_eq_some_iff.mp stands).1
    rw [List.getElem?_eq_getElem inside] at written
    exact ⟨place, _, stands, written, List.getElem?_eq_getElem inside⟩

/-- In every run of any number of processes on one artefact: a live session holds the
lock, and no other is live; at most one creation has succeeded; a session between two
calls that is not fenced was built from exactly the frames of the event data, and any
other may miss only one frame, of an append of its own that has not returned or stayed
undetermined; and the frames that were ever written stay, with all their bytes. -/
theorem file_writers_exclude {Process : Type} [DecidableEq Process]
    {config : FileConfiguration Process}
    (run : (processes Process).Reaches (noArtefact Process) config) :
    Excludes config ∧ ∀ later, (processes Process).Reaches config later →
      Preserves config.world later.world := by
  obtain ⟨sound, -⟩ := (noArtefact_sound Process).reaches processes_obey run
  refine ⟨excludes_of_sound sound, ?_⟩
  intro later further
  obtain ⟨soundLater, grows⟩ := sound.reaches processes_obey further
  exact SharedFiles.Grows.preserves grows soundLater.invariant

end Configurations

end Exclusion

section Alone

variable [Digests]

/-- What a process does alone on the files as it sees them, it does on the shared ones,
as long as no other process holds the lock. -/
theorem SharedFiles.runs_of_view {Process : Type} [DecidableEq Process] {process : Process}
    {shared : SharedFiles Process} {α : Type} {program : Program fileOperations α} {value : α}
    {later : FileWorld} (free : shared.holder = none ∨ shared.holder = some process)
    (runs : program.Runs aloneFiles (shared.view process) value later) :
    ∃ after, program.Runs (.solo ((processes Process).exec process)) shared value after ∧
      after.view process = later ∧ (after.holder = none ∨ after.holder = some process) := by
  generalize seen : shared.view process = world at runs
  induction runs generalizing shared with
  | ret => exact ⟨shared, .ret, seen, free⟩
  | @call op next before moved after final answer value others performed rest ih =>
      cases others
      obtain ⟨file, performs, rfl⟩ := performed
      subst seen
      have holder : (shared.touched process op answer file).holder = none ∨
          (shared.touched process op answer file).holder = some process := by
        have kept := SharedFiles.holderAfter_cases shared.holder process op answer
        rcases kept with kept | taken | released
        · exact free.imp (fun none => kept.trans none) fun own => kept.trans own
        · exact .inr taken
        · exact .inl released
      obtain ⟨last, runs, view, lock⟩ := ih holder (SharedFiles.view_touched ..)
      exact ⟨last, .call rfl ⟨fun _ => free, file, performs, rfl⟩ runs, view, lock⟩

variable {world : FileWorld} {engine : FileEngine} {base : Bytes}

/-- A ready engine whose synchronization fails has written its whole block, and is
fenced. -/
theorem FileEngine.runs_appendBlock_unsynced (block : Bytes) (ready : engine.Ready)
    (admits : AdmitsWriter world engine.carriedEpoch)
    (stands : (world .pgnoFile).content = some base) (failure : IoError) :
    ∃ later, (appendBlock block).Runs aloneFiles engine world
      (.ok (.undetermined engine.carriedEpoch))
      (engine.fence ("sync_data failed; write landing undetermined: " ++ failure.message)) later ∧
      (later .pgnoFile).content = some (base ++ block) := by
  obtain ⟨first, authorized, kept, -⟩ :=
    evaluate_checkAuthority ready.certain ready.excluding admits
  have authority := runs_alone (checkAuthority engine) world
  rw [authorized] at authority
  have atEnd : Function.update first .pgnoFile ⟨some base, base.length⟩ .pgnoFile =
      ⟨some base, base.length⟩ := Function.update_self ..
  have seeks : (FileRequest.send .seekEnd .pgnoFile).Runs aloneFiles first (.ok base.length)
      (Function.update first .pgnoFile ⟨some base, base.length⟩) := by
    refine runs_send_iff.mpr ⟨_, .inl ?_, rfl⟩
    simp only [FileRequest.serve, FileState.present, kept, stands]
    rfl
  have written := runs_alone (writeAll .pgnoFile block)
    (Function.update first .pgnoFile ⟨some base, base.length⟩)
  rw [evaluate_writeAll block atEnd, Function.update_idem] at written
  have writes : (engine.writeRes block).Runs aloneFiles
      (Function.update first .pgnoFile ⟨some base, base.length⟩) (.ok ())
      (Function.update first .pgnoFile ⟨some (base ++ block), (base ++ block).length⟩) := by
    unfold writeRes
    rw [ready.writes]
    exact written
  have syncs : engine.syncRes.Runs aloneFiles
      (Function.update first .pgnoFile ⟨some (base ++ block), (base ++ block).length⟩)
      (.error failure)
      (Function.update first .pgnoFile ⟨some (base ++ block), (base ++ block).length⟩) := by
    unfold syncRes
    rw [ready.syncs]
    refine runs_send_iff.mpr ⟨_, .inr ⟨⟨failure, rfl⟩, rfl⟩, ?_⟩
    rw [Function.update_eq_self]
  refine ⟨Function.update first .pgnoFile ⟨some (base ++ block), (base ++ block).length⟩,
    Action.runs_bind_ok_iff.mpr ⟨(), engine, first, authority, ?_⟩, by rw [Function.update_self]⟩
  refine Action.runs_bind_ok_iff.mpr ⟨engine, engine, first, .ret, ?_⟩
  refine Action.runs_bind_ok_iff.mpr ⟨(), engine, first,
    Action.runs_refuseIf_ok_iff.mpr ⟨by simp [ready.excluding], rfl, rfl⟩, ?_⟩
  have simulates : (Action.mutate checkAppendSimulation : Action fileOperations _ _ _).Runs
      aloneFiles engine first (.ok none) engine first := by
    unfold Action.Runs Action.mutate
    rw [ready.settled]
    exact .ret
  refine Action.runs_bind_ok_iff.mpr ⟨none, engine, first, simulates, ?_⟩
  refine Action.runs_bind_ok_iff.mpr ⟨engine, engine, first, .ret, ?_⟩
  refine Action.runs_bind_ok_iff.mpr ⟨(), engine, first,
    Action.runs_refuseIf_ok_iff.mpr ⟨by simp [ready.opened], rfl, rfl⟩, ?_⟩
  refine Action.runs_bind_ok_iff.mpr ⟨base.length, engine, _,
    runs_orRefuse_ok_iff.mpr ⟨seeks, rfl⟩, ?_⟩
  refine Action.runs_bind_ok_iff.mpr ⟨.ok (), engine, _,
    Action.runs_lift_ok_iff.mpr ⟨writes, rfl⟩, ?_⟩
  refine Action.runs_bind_ok_iff.mpr ⟨engine, engine, _, .ret, ?_⟩
  refine Action.runs_bind_ok_iff.mpr ⟨.error failure, engine, _,
    Action.runs_lift_ok_iff.mpr ⟨syncs, rfl⟩, ?_⟩
  exact .ret

/-- An admitted append whose synchronization fails leaves its frame in the event data
and the session as it was, but fenced. -/
theorem FileEngine.runs_appendFrameVerdict_unsynced {store : Store FileEngine} {payload : Bytes}
    {envelope : EventEnvelope} (certain : store.isUncertain = false) (ready : store.engine.Ready)
    (admits : AdmitsWriter world store.engine.carriedEpoch)
    (admitted : AdmittedFrame store.fiberIndex payload envelope)
    (stands : (world .pgnoFile).content = some base) (failure : IoError) :
    ∃ after later, (Store.appendFrameVerdict payload).Runs aloneFiles store world
      (.ok (.undetermined store.engine.carriedEpoch)) after later ∧
      after.rollingCommitment = store.rollingCommitment ∧
      (later .pgnoFile).content = some (base ++ ContainerFrame.frameBytes payload) := by
  obtain ⟨first, checked, kept, stillAdmits⟩ :=
    evaluate_checkAuthority ready.certain ready.excluding admits
  have authorized : (StorageEngine.checkAuthority store.engine).Runs aloneFiles world (.ok ())
      first := by
    have runs := runs_alone (checkAuthority store.engine) world
    rw [checked] at runs
    exact Program.runs_bind_iff.mpr ⟨_, first, runs, .ret⟩
  have stood : (first .pgnoFile).content = some base := by rw [kept, stands]
  obtain ⟨later, appended, arrived⟩ := runs_appendBlock_unsynced
    (ContainerFrame.frameBytes payload) ready stillAdmits stood failure
  have landing : (Store.landFrame envelope (ContainerFrame.frameBytes payload)).Runs
    aloneFiles store
      first (.ok (.undetermined store.engine.carriedEpoch)) (({ store with
        engine := store.engine.fence ("sync_data failed; write landing undetermined: " ++
          failure.message) } : Store FileEngine).fenced store.engine.carriedEpoch) later :=
    Action.runs_bind_ok_iff.mpr ⟨.undetermined store.engine.carriedEpoch, _, later,
      Action.runs_on_iff.mpr ⟨_, appended, rfl⟩, .ret⟩
  have admission : (Store.admitFrame payload).Runs aloneFiles store world
      (.ok (envelope, ContainerFrame.frameBytes payload)) store first :=
    Store.admitFrame_runs_iff.mpr ⟨certain, rfl, admitted, rfl, authorized⟩
  exact ⟨_, later, Action.runs_bind_ok_iff.mpr ⟨_, store, first, admission, landing⟩, rfl, arrived⟩

end Alone

section Unsynced

attribute [local instance] standardDigests

/-- An admitted schema. -/
def seededDescriptor : AdmittedDescriptor :=
  ⟨⟨1, .u64⟩, [9, 1, 0, 0, 0, 4], blake3 [1, 0, 0, 0, 4]⟩

/-- A creation of the artefact. -/
def seededCreation : OpeningCall :=
  .createWithLimit seededAdapter (bareClaim 1) seededDescriptor u32Max

/-- The session over the created artefact. -/
def seededTenure : Tenure := .live seededCreation (seededAdapter.newSession (bareClaim 1)) []

/-- Alone, a process creates the artefact. -/
theorem runs_seededCreation : ∃ (program : Program fileOperations Tenure) (after : SharedFiles Nat),
    ProcessCall.program (.opening seededCreation) .waiting = some program ∧
      program.Runs (.solo fun op before answer after =>
        SharedFiles.Performs (0 : Nat) op before answer after) (noArtefact Nat).world seededTenure
        after ∧
      AdmitsWriter (after.view 0) 1 ∧ after.content .pgnoFile = some (containerBytes []) := by
  have admits : AdmittedDescriptor.tryFromDescriptor ⟨1, .u64⟩ = .ok seededDescriptor := rfl
  obtain ⟨later, evaluated⟩ := FileStorageAdapter.evaluate_create ()
    (rfl : seededAdapter.exclusionPolicy = .standard)
    (fun _ => rfl : ∀ name, ((noArtefact Nat).world.view 0 name).content = none)
    (by decide +kernel : (OwnershipRecord.ownershipClaim (bareClaim 1)).encode.length ≤ u32Max)
    (by decide : seededDescriptor.encodedRecord.length ≤ u32Max)
  have created := runs_alone (seededAdapter.create (bareClaim 1) seededDescriptor ())
    ((noArtefact Nat).world.view 0)
  rw [evaluated] at created
  obtain ⟨-, claimFits, descriptorFits, recorded, headed⟩ :=
    FileStorageAdapter.runs_create_ok created
  have called : (((seededCreation.perform ()).bind fun result =>
      .ret (seededCreation.conclude result.1)) : Program fileOperations Tenure).Runs aloneFiles
      ((noArtefact Nat).world.view 0) seededTenure later :=
    Program.runs_bind_iff.mpr ⟨_, later, created, .ret⟩
  obtain ⟨after, runs, view, -⟩ := SharedFiles.runs_of_view (.inl rfl) called
  have stands : ∀ name, after.content name = (later name).content := fun name =>
    congrArg FileState.content (congrFun view name)
  refine ⟨_, after, rfl, runs, ?_, (stands .pgnoFile).trans headed⟩
  rw [view]
  refine ⟨_, _, bareClaim 1, ⟨1, .u64⟩, seededDescriptor, ?_, recorded,
    MetaRecords.ofFrames_created admits, rfl, rfl, admits, rfl, rfl⟩
  intro frame member
  simp only [List.mem_cons, List.not_mem_nil, or_false] at member
  rcases member with rfl | rfl
  · exact claimFits
  · exact descriptorFits

/-- A process creates the artefact and has a session over it. -/
theorem reaches_seededCreation : ∃ config : FileConfiguration Nat,
    (processes Nat).Reaches (noArtefact Nat) config ∧
      config.doing 0 = .idle (.live seededCreation (seededAdapter.newSession (bareClaim 1)) []) ∧
      (∀ other, other ≠ 0 → config.doing other = .idle .waiting) ∧
      AdmitsWriter (config.world.view 0) 1 ∧
      config.world.content .pgnoFile = some (containerBytes []) := by
  obtain ⟨program, after, possible, runs, admits, headed⟩ := runs_seededCreation
  have idle : (noArtefact Nat).doing 0 = .idle .waiting := rfl
  have programmed : (processes Nat).program (.opening seededCreation) .waiting = some program :=
    possible
  let config : FileConfiguration Nat :=
    ⟨after, Function.update (noArtefact Nat).doing 0 (.idle seededTenure)⟩
  have reached : (processes Nat).Reaches (noArtefact Nat) config :=
    Pool.reaches_call idle programmed runs
  have does : config.doing 0 = .idle seededTenure := by simp [config]
  exact ⟨config, reached, does, fun other apart => Function.update_of_ne apart .., admits, headed⟩

/-- The opening of the artefact by another process. -/
def rivalOpening : OpeningCall := .openWrite seededAdapter 1

/-- Alone or not, a process that opens the artefact may find the lock held. -/
theorem runs_rivalOpening {shared : SharedFiles Nat} {recorded container : Bytes}
    (metaThere : shared.content .metaFile = some recorded)
    (pgnoThere : shared.content .pgnoFile = some container) :
    ∃ after, ((rivalOpening.perform ()).bind fun result =>
        .ret (rivalOpening.conclude result.1) : Program fileOperations Tenure).Runs
          (.solo ((processes Nat).exec 1)) shared (.gone none []) after := by
  -- both files are there, and looking for them leaves them as they are
  let first := shared.touched 1 ⟨.metaFile, .tryExists⟩ (.ok true) (shared.view 1 .metaFile)
  have findsRecord : SharedFiles.Performs 1 ⟨.metaFile, .tryExists⟩ shared (.ok true) first :=
    ⟨False.elim, _, .inl (by simp [FileRequest.serve, SharedFiles.view, metaThere]), rfl⟩
  have firstContent : first.content = shared.content := Function.update_eq_self ..
  let second := first.touched 1 ⟨.pgnoFile, .tryExists⟩ (.ok true) (first.view 1 .pgnoFile)
  have findsData : SharedFiles.Performs 1 ⟨.pgnoFile, .tryExists⟩ first (.ok true) second :=
    ⟨False.elim, _,
      .inl (by simp [FileRequest.serve, SharedFiles.view, firstContent, pgnoThere]), rfl⟩
  have secondContent : second.content = first.content := Function.update_eq_self ..
  -- the event data is opened, and its lock is refused
  let third := second.touched 1 ⟨.pgnoFile, .openFile⟩ (.ok ()) ⟨some container, 0⟩
  have opens : SharedFiles.Performs 1 ⟨.pgnoFile, .openFile⟩ second (.ok ()) third := by
    refine ⟨False.elim, _, .inl ?_, rfl⟩
    simp only [FileRequest.serve, FileState.present, SharedFiles.view, secondContent, firstContent,
      pgnoThere]
    rfl
  have refused : SharedFiles.Performs 1 ⟨.pgnoFile, .tryLock⟩ third (.error .wouldBlock)
      (third.touched 1 ⟨.pgnoFile, .tryLock⟩ (.error .wouldBlock) (third.view 1 .pgnoFile)) :=
    ⟨False.elim, _, .inr ⟨⟨.wouldBlock, rfl⟩, rfl⟩, rfl⟩
  exact ⟨_, .call rfl findsRecord (.call rfl findsData (.call rfl opens (.call rfl refused .ret)))⟩

/-- One process creates the artefact and another one is refused its lock. -/
theorem file_writers_exclude_seeded : ∃ (config : FileConfiguration Nat) (store : Store FileEngine),
    (processes Nat).Reaches (noArtefact Nat) config ∧ Live config 0 store ∧ Created config 0 ∧
      config.doing 1 = .idle (.gone none []) ∧
      config.world.holder = some 0 ∧ store.DerivedFrom config.world.frames ∧
      (∀ other another, Live config other another → (0 : Nat) = other) ∧
      ∀ later, (processes Nat).Reaches config later → Preserves config.world later.world := by
  obtain ⟨created, reached, does, waits, admits, headed⟩ := reaches_seededCreation
  obtain ⟨_, _, _, _, _, -, recorded, -⟩ := admits
  obtain ⟨after, runs⟩ := runs_rivalOpening recorded headed
  have programmed : (processes Nat).program (.opening rivalOpening) .waiting = some
      ((rivalOpening.perform ()).bind fun result => .ret (rivalOpening.conclude result.1)) := rfl
  let config : FileConfiguration Nat := ⟨(processes Nat).left 1 (.gone none []) after,
    Function.update created.doing 1 (.idle (.gone none []))⟩
  have refused : (processes Nat).Reaches (noArtefact Nat) config :=
    reached.trans (Pool.reaches_call (waits 1 (by decide)) programmed runs)
  have stays : config.doing 0 =
      .idle (.live seededCreation (seededAdapter.newSession (bareClaim 1)) []) := by
    simp [config, does]
  obtain ⟨excludes, preserves⟩ := file_writers_exclude refused
  have live : Live config 0 (seededAdapter.newSession (bareClaim 1)) := .between stays
  refine ⟨config, seededAdapter.newSession (bareClaim 1), refused, live, ?_,
    by simp [config], (excludes.locked live).1, excludes.known stays rfl,
    fun _ _ theirs => excludes.one live theirs, preserves⟩
  refine ⟨seededCreation, ?_, rfl⟩
  rw [stays]
  rfl

/-- The append of a frame whose synchronization fails. -/
theorem runs_unsynced : ∃ (config : FileConfiguration Nat) (after : SharedFiles Nat)
    (store : Store FileEngine), (processes Nat).Reaches (noArtefact Nat) config ∧
      config.doing 0 = .idle (.live seededCreation (seededAdapter.newSession (bareClaim 1)) []) ∧
      (∀ other, other ≠ 0 → config.doing other = .idle .waiting) ∧
      ((Store.appendFrameVerdict genesisPayload (seededAdapter.newSession (bareClaim 1))).bind
        fun result => .ret (.live seededCreation result.2 ([] ++ [result.1])) :
        Program fileOperations Tenure).Runs (.solo ((processes Nat).exec 0))
        (config.world.appending 0 genesisPayload)
        (.live seededCreation store [.ok (.undetermined 1)]) after ∧
      store.rollingCommitment = .new ∧ after.frames = [genesisPayload] ∧
      after.content .pgnoFile = some (containerBytes [genesisPayload]) := by
  obtain ⟨config, reached, does, waits, admits, stands⟩ := reaches_seededCreation
  obtain ⟨store, later, appended, rolled, arrived⟩ := FileEngine.runs_appendFrameVerdict_unsynced
    (rfl : (seededAdapter.newSession (bareClaim 1)).isUncertain = false)
    ⟨rfl, rfl, rfl, rfl, rfl, rfl⟩ admits genesisPayload_admitted stands
      ⟨false, "Input/output error (os error 5)"⟩
  have free : (config.world.appending 0 genesisPayload).holder = none ∨
      (config.world.appending 0 genesisPayload).holder = some 0 := by
    obtain ⟨sound, -⟩ := (noArtefact_sound Nat).reaches processes_obey reached
    obtain ⟨-, -, -, frames, tail, session, -⟩ := sound.idle does
    exact .inr session.holder
  have called :
    ((Store.appendFrameVerdict genesisPayload (seededAdapter.newSession (bareClaim 1))).bind
      fun result => .ret (.live seededCreation result.2 ([] ++ [result.1])) :
      Program fileOperations Tenure).Runs aloneFiles (config.world.view 0)
      (.live seededCreation store [.ok (.undetermined 1)]) later :=
    Program.runs_bind_iff.mpr ⟨_, later, appended, .ret⟩
  obtain ⟨after, runs, view, -⟩ := SharedFiles.runs_of_view free called
  have content : after.content .pgnoFile = some (containerBytes [genesisPayload]) := by
    have bytes := congrArg FileState.content (congrFun view .pgnoFile)
    rw [arrived, ← framesBytes_singleton, ← containerBytes_append, List.nil_append] at bytes
    exact bytes
  refine ⟨config, after, store, reached, does, waits, runs, rolled, ?_, content⟩
  rw [SharedFiles.frames, content]
  refine (Shape.clean ?_).wholeFrames_eq
  intro frame member
  rw [List.mem_singleton.mp member]
  exact genesisPayload_admitted.fits

/-- A session whose append was written and not synchronized is live, and does not know
its own frame. -/
theorem live_session_misses_own_frame : ∃ (config : FileConfiguration Nat)
    (store : Store FileEngine), (processes Nat).Reaches (noArtefact Nat) config ∧
      Live config 0 store ∧ config.world.frames = [genesisPayload] ∧
      ¬store.DerivedFrom config.world.frames := by
  obtain ⟨config, after, store, reached, does, -, runs, rolled, frames, -⟩ := runs_unsynced
  let tenure : Tenure := .live seededCreation store [.ok (.undetermined 1)]
  let later : FileConfiguration Nat := ⟨after, Function.update config.doing 0 (.idle tenure)⟩
  have possible : (processes Nat).program (.append genesisPayload)
      (.live seededCreation (seededAdapter.newSession (bareClaim 1)) []) = some
      ((Store.appendFrameVerdict genesisPayload (seededAdapter.newSession (bareClaim 1))).bind
        fun result => .ret (.live seededCreation result.2 ([] ++ [result.1]))) := rfl
  have called : (processes Nat).Reaches config later := Pool.reaches_call does possible runs
  have doing : later.doing 0 = .idle (.live seededCreation store [.ok (.undetermined 1)]) := by
    simp [later, tenure]
  refine ⟨later, store, reached.trans called, .between doing, frames, ?_⟩
  intro derived
  have absorbed := derived.rolling
  rw [rolled, frames] at absorbed
  have counted := congrArg RollingCommitment.frameCount absorbed
  cases counted

end Unsynced

end Pardosa
