import Pardosa.File.MutualExclusion
import Pardosa.Store.CommitmentBinding

/-!
# The history in a file, whoever writes

Any number of processes create, open, append to and release one artefact, and any of
them may die in the middle of a write. The whole frames of the event data are those of
one unbroken history all the same: nothing but an append writes a frame, it writes one
only if the index of its session admits it, and as long as its session holds the lock
that index is the one of all the frames there are.
-/

namespace Pardosa

open Foundation

section Histories

variable [Digests]

namespace Store

section Admission

variable {S : Signature} {Engine : Type} [StorageEngine S Engine] {store : Store Engine}
  {payload : Bytes}

/-- What passes the checks of an append is a frame that the index admits. -/
theorem yields_admitFrame (store : Store Engine) (payload : Bytes) :
    (admitFrame payload store).Yields fun result => result.2 = store ∧
      ∀ envelope block, result.1 = .ok (envelope, block) →
        AdmittedFrame store.fiberIndex payload envelope ∧
          block = ContainerFrame.frameBytes payload := by
  let Passes (outcome : Except OperationFailure (EventEnvelope × Bytes)) (after : Store Engine)
      (_ : Unit) : Prop :=
    after = store ∧ ∀ envelope block, outcome = .ok (envelope, block) →
      AdmittedFrame store.fiberIndex payload envelope ∧ block = ContainerFrame.frameBytes payload
  have refuses : ∀ failure, Passes (.error failure) store () := by
    refine fun failure => ⟨rfl, ?_⟩
    rintro envelope block ⟨⟩
  have owed : (admitFrame payload).wp .anything Passes store () := by
    refine wp_admitFrame (fun failure _ => refuses failure) ?_
    refine Program.wp_of_forall (fun _ _ => trivial) ?_
    rintro (failure | _) after
    · exact refuses failure
    · refine ⟨fun failure _ => refuses failure, ?_⟩
      intro envelope admitted
      refine ⟨rfl, ?_⟩
      rintro _ _ ⟨⟩
      exact ⟨admitted, rfl⟩
  exact Program.yields_of_wp owed

/-- An append turns to its engine only with a frame that the index admits. -/
theorem appendFrameVerdict_guarded {allowed : S.Op → Prop}
    (authority : ∀ engine : Engine, (StorageEngine.checkAuthority engine).Only allowed)
    (landing : ∀ envelope, AdmittedFrame store.fiberIndex payload envelope →
      (StorageEngine.appendBlock (ContainerFrame.frameBytes payload) :
        Action S OperationFailure Engine (WriteLandingVerdict Nat)).Only allowed) :
    (appendFrameVerdict payload store).Only allowed := by
  refine Program.only_bind_of_yields (admitFrame_only authority store)
    (yields_admitFrame store payload) ?_
  rintro ⟨failure | ⟨envelope, block⟩, _⟩ ⟨rfl, admits⟩
  · trivial
  · obtain ⟨admitted, rfl⟩ := admits envelope block rfl
    exact landFrame_only (landing envelope admitted) _

end Admission

end Store

variable {Process : Type} [DecidableEq Process]

/-- An operation that leaves the bytes of the event data alone. -/
def FileOp.SparesEvents (op : FileOp) : Prop := op.name = .metaFile ∨ op.request.isQuiet = true

/-- What a call may ask for: only an append changes the event data of an artefact that has
been opened, and only with a frame that the index of its session admits. -/
def ProcessCall.Permits : ProcessCall → Tenure → FileOp → Prop
  | .opening _, _, _ => True
  | .append payload, .live _ store _, op => op.SparesEvents ∨
      ∃ envelope, AdmittedFrame store.fiberIndex payload envelope
  | _, _, op => op.SparesEvents

/-- Every call asks for what it may ask for. -/
theorem ProcessCall.program_only {call : ProcessCall} {tenure : Tenure}
    {program : Program fileOperations Tenure} (possible : call.program tenure = some program) :
    program.Only (call.Permits tenure) := by
  cases call with
  | opening call => exact Program.only_of_forall (fun _ => trivial) program
  | append payload =>
      cases tenure with
      | waiting => cases possible
      | gone opened outcomes => cases possible
      | live opened store outcomes =>
          cases possible
          refine Program.only_bind (Store.appendFrameVerdict_guarded ?_ ?_) fun _ => trivial
          · intro engine
            exact Program.only_bind
              (FileEngine.checkAuthority_only (fun _ _ => .inl (.inl rfl)) engine) fun _ => trivial
          · intro envelope admitted engine
            exact Program.only_of_forall (fun _ => .inr ⟨envelope, admitted⟩) _
  | releaseExclusion =>
      cases tenure with
      | waiting => cases possible
      | gone opened outcomes => cases possible
      | live opened store outcomes =>
          cases possible
          refine Program.only_bind ?_ fun _ => trivial
          have only : FileEngine.releaseExclusion.Only
              (ProcessCall.releaseExclusion.Permits (.live opened store outcomes)) := by
            refine Action.only_bind Action.only_get fun engine => ?_
            split_ifs
            · exact Action.only_bind (only_orRefuse (only_send (.inr rfl)))
                fun _ => Action.only_modify _
            · exact Action.only_pure _
          exact only store.engine

section Frames

variable {process : Process} {before after : SharedFiles Process} {op : FileOp}
  {answer : op.request.Res}

/-- An operation adds at most one frame, and that one its process has begun to append. -/
theorem SharedFiles.Performs.frames_cases (inv : Inv before) (later : Inv after)
    (grows : before.frames <+: after.frames) (performed : Performs process op before answer after) :
    after.frames = before.frames ∨ ∃ payload, after.frames = before.frames ++ [payload] ∧
      (before.begun process).getLast? = some payload := by
  obtain ⟨-, file, -, is⟩ := performed
  have begun : after.begun = before.begun := by
    rw [is]
    rfl
  have authors : after.authors = if before.frames.length < after.frames.length then
      before.authors ++ [(process, (before.begun process).length - 1)] else before.authors := by
    rw [is]
    rfl
  by_cases longer : before.frames.length < after.frames.length
  · right
    rw [if_pos longer] at authors
    obtain ⟨more, split⟩ := grows
    have one : more.length = 1 := by
      have credited := later.credited
      rw [authors, ← split, List.length_append, List.length_append, inv.credited] at credited
      exact (Nat.add_left_cancel credited).symm
    obtain ⟨payload, rfl⟩ := List.length_eq_one_iff.mp one
    refine ⟨payload, split.symm, ?_⟩
    have author : after.authors[before.frames.length]? =
        some (process, (before.begun process).length - 1) := by
      rw [authors, ← inv.credited]
      exact List.getElem?_concat_length
    have written := later.written author
    rw [begun, ← split, List.getElem?_concat_length] at written
    rw [List.getLast?_eq_getElem?]
    exact written
  · left
    exact (grows.eq_of_length_le (Nat.not_lt.mp longer)).symm

end Frames

omit [DecidableEq Process] in
/-- A session knows its frames from what it carries. -/
theorem KnowsAllBut.derived_eq {process : Process} {store : Store FileEngine} {own : Nat → Prop}
    {shared : SharedFiles Process} {frames : List Bytes}
    (knows : KnowsAllBut process store own shared) (inv : SharedFiles.Inv shared)
    (derived : store.DerivedFrom frames) (fits : ∀ frame ∈ frames, frame.length ≤ u32Max) :
    shared.frames = frames ∨ ∃ payload, shared.frames = frames ++ [payload] := by
  obtain ⟨known, same, holds⟩ := knows
  have prefixed : known <+: shared.frames := by
    rcases holds with all | ⟨payload, -, more, -⟩
    · rw [all]
    · exact ⟨[payload], more.symm⟩
  obtain rfl : known = frames := by
    refine RollingCommitment.eq_of_absorbed_eq
      (fun frame member => inv.shape.fits frame (prefixed.subset member)) fits ?_
    rw [← same.rolling, ← derived.rolling]
  rcases holds with all | ⟨payload, -, more, -⟩
  · exact .inl all
  · exact .inr ⟨payload, more⟩

section Growth

variable {before after : FileConfiguration Process}

/-- The event data keeps its frames, or gets one more that their index admits. -/
def AddsAdmitted (before after : SharedFiles Process) : Prop :=
  after.frames = before.frames ∨ ∃ index payload envelope,
    SessionIndex.buildFromFrames before.frames = .ok index ∧
      AdmittedFrame index payload envelope ∧ after.frames = before.frames ++ [payload]

/-- A frame that a call adds is one that the index of all frames before it admits. -/
theorem addsAdmitted_of_performs {process : Process} {call : ProcessCall} {tenure : Tenure}
    {op : FileOp} {answer : op.request.Res} {next : op.request.Res → Program fileOperations Tenure}
    {rest : Program fileOperations Tenure}
    (sound : Sound (processes Process) (exclusion Process) before)
    (later : Sound (processes Process) (exclusion Process) after)
    (grows : before.world.frames <+: after.world.frames)
    (doing : before.doing process = .busy call tenure (.call op next))
    (does : after.doing process = .busy call tenure rest)
    (performed : SharedFiles.Performs process op before.world answer after.world)
    (permits : call.Permits tenure op) : AddsAdmitted before.world after.world := by
  obtain same | ⟨payload, more, begun⟩ :=
    performed.frames_cases sound.invariant later.invariant grows
  · exact .inl same
  have spared : ¬op.SparesEvents := by
    intro spares
    have same : after.world.frames = before.world.frames :=
      congrArg wholeFrames (performed.content_pgno spares)
    simp [same] at more
  have during := (sound.busy doing).1
  cases call with
  | opening opening =>
      cases tenure with
      | waiting =>
          have unbegun : Unbegun process before.world := during
          simp [unbegun.1] at begun
      | live => cases during
      | gone => cases during
  | releaseExclusion => exact (spared permits).elim
  | append payload =>
      cases tenure with
      | waiting => cases during
      | gone => cases during
      | live opened store outcomes =>
          obtain ⟨-, -, -, last, -⟩ := during
          obtain rfl := Option.some.inj (last.symm.trans begun)
          obtain ⟨envelope, admitted⟩ := Or.resolve_left permits spared
          -- before and after, the session knows all frames but one: it knew all of them before
          obtain ⟨frames, derived, known⟩ := (excludes_of_sound sound).appending doing
          have knows := (excludes_of_sound later).appending does
          have all : before.world.frames = frames := by
            obtain all | ⟨own, -, extra, -⟩ := known
            · exact all
            have fits : ∀ frame ∈ frames, frame.length ≤ u32Max := by
              intro frame member
              refine sound.invariant.shape.fits frame ?_
              rw [extra]
              exact List.mem_append_left _ member
            obtain short | ⟨_, short⟩ := knows.derived_eq later.invariant derived fits <;>
              simp [more, extra] at short
          rw [← all] at derived
          exact .inr ⟨store.fiberIndex, payload, envelope, derived.index, admitted, more⟩

omit [DecidableEq Process] in
/-- Event data that stays the same adds nothing that was not admitted. -/
theorem AddsAdmitted.of_content {before after : SharedFiles Process}
    (same : after.content .pgnoFile = before.content .pgnoFile) : AddsAdmitted before after :=
  .inl (congrArg wholeFrames same)

/-- So does every step of whatever processes. -/
theorem addsAdmitted_of_step (sound : Sound (processes Process) (exclusion Process) before)
    (permits : ∀ {process call tenure rest}, before.doing process = .busy call tenure rest →
      rest.Only (call.Permits tenure))
    (step : (processes Process).Step before after) : AddsAdmitted before.world after.world := by
  obtain ⟨later, grows⟩ := sound.reaches processes_obey (.single step)
  have freed (process : Process) (tenure : Tenure) :
      (before.world.left process tenure).content = before.world.content := by
    cases tenure <;> rfl
  cases step with
  | @start process call tenure _ _ _ => cases call <;> exact .of_content rfl
  | perform busy performed =>
      exact addsAdmitted_of_performs sound later grows.frames busy (Function.update_self ..)
        performed (permits busy).1
  | @finish process _ _ final _ => exact .of_content (congrFun (freed process final) _)
  | die process => exact .of_content (congrFun (freed process _) _)
  | others moved =>
      obtain ⟨-, bytes, rfl⟩ := moved
      refine .of_content ?_
      dsimp only
      rw [Function.update_of_ne (by decide)]

omit [DecidableEq Process] in
/-- What continues an accepted history by an admitted frame. -/
theorem AddsAdmitted.history {before after : SharedFiles Process} {index : SessionIndex}
    (adds : AddsAdmitted before after) (history : UnbrokenHistory before.frames index) :
    ∃ more envelopes final, after.frames = before.frames ++ more ∧
      index.Accepts more envelopes final ∧ UnbrokenHistory after.frames final := by
  obtain same | ⟨known, payload, envelope, built, admitted, more⟩ := adds
  · exact ⟨[], [], index, by rw [same, List.append_nil], .nil, by rw [same]; exact history⟩
  · cases history.built.symm.trans built
    refine ⟨[payload], [envelope], _, more, .cons admitted .nil, ?_⟩
    rw [more]
    exact history.concat admitted

/-- So does every run. -/
theorem history_of_reaches {config later : FileConfiguration Process} {index : SessionIndex}
    (sound : Sound (processes Process) (exclusion Process) config)
    (permits : ∀ {process call tenure rest}, config.doing process = .busy call tenure rest →
      rest.Only (call.Permits tenure))
    (history : UnbrokenHistory config.world.frames index)
    (run : (processes Process).Reaches config later) :
    ∃ more envelopes final, later.world.frames = config.world.frames ++ more ∧
      index.Accepts more envelopes final ∧ UnbrokenHistory later.world.frames final := by
  induction run with
  | refl => exact ⟨[], [], index, (List.append_nil _).symm, .nil, history⟩
  | tail reached step ih =>
      obtain ⟨more, envelopes, middle, known, accepts, history⟩ := ih
      have adds := addsAdmitted_of_step (sound.reaches processes_obey reached).1
        (Pool.busy_only ProcessCall.program_only permits reached) step
      obtain ⟨frames, others, final, grown, further, history⟩ := adds.history history
      refine ⟨more ++ frames, envelopes ++ others, final, ?_, accepts.append further, history⟩
      rw [grown, known, List.append_assoc]

end Growth

/-- In every run of any number of processes on one artefact, some of which may die in the
middle of a write, the whole frames of the event data are those of one unbroken history.
Whatever comes later continues it: every further frame is admitted by the index of the
frames before it. A live session between two calls that is not fenced has that index. -/
theorem file_history_unbroken {config : FileConfiguration Process}
    (run : (processes Process).Reaches (noArtefact Process) config) :
    ∃ index, UnbrokenHistory config.world.frames index ∧
      (∀ {process opened store outcomes},
        config.doing process = .idle (.live opened store outcomes) →
        store.engine.uncertain = false → store.fiberIndex = index) ∧
      ∀ later, (processes Process).Reaches config later → ∃ more envelopes final,
        later.world.frames = config.world.frames ++ more ∧ index.Accepts more envelopes final ∧
          UnbrokenHistory later.world.frames final := by
  have idle : ∀ {process call tenure rest},
      (noArtefact Process).doing process = .busy call tenure rest →
        rest.Only (call.Permits tenure) := by
    rintro process call tenure rest ⟨⟩
  have permits : ∀ {process call tenure rest}, config.doing process = .busy call tenure rest →
      rest.Only (call.Permits tenure) :=
    Pool.busy_only ProcessCall.program_only idle run
  obtain ⟨-, -, index, -, -, history⟩ :=
    history_of_reaches (noArtefact_sound Process) idle .nil run
  obtain ⟨sound, -⟩ := (noArtefact_sound Process).reaches processes_obey run
  refine ⟨index, history, ?_, fun later further =>
    history_of_reaches sound permits history further⟩
  intro process opened store outcomes doing certain
  have derived := (excludes_of_sound sound).known doing certain
  exact Except.ok.inj (derived.index.symm.trans history.built)

end Histories

section Example

attribute [local instance] standardDigests

/-- A process dies after an append whose synchronization failed: its frame stays, and is a
history. -/
theorem file_history_unbroken_unsynced : ∃ (config : FileConfiguration Nat) (index : SessionIndex),
    (processes Nat).Reaches (noArtefact Nat) config ∧ config.world.frames = [genesisPayload] ∧
      UnbrokenHistory config.world.frames index := by
  obtain ⟨config, after, store, reached, does, -, runs, -, frames, -⟩ := runs_unsynced
  have possible : (processes Nat).program (.append genesisPayload)
      (.live seededCreation (seededAdapter.newSession (bareClaim 1)) []) = some
      ((Store.appendFrameVerdict genesisPayload (seededAdapter.newSession (bareClaim 1))).bind
        fun result => .ret (.live seededCreation result.2 ([] ++ [result.1]))) := rfl
  have called := Pool.reaches_call does possible runs
  have died := (reached.trans called).tail (.die 0)
  obtain ⟨index, history, -⟩ := file_history_unbroken died
  refine ⟨_, index, died, ?_, history⟩
  have freed (tenure : Tenure) : (after.left 0 tenure).content = after.content := by
    cases tenure <;> rfl
  rw [← frames]
  exact congrArg wholeFrames (congrFun (freed _) _)

end Example

end Pardosa
