import Pardosa.File.CrashSafety
import Pardosa.File.Seeding

/-!
# Creation follows its plan

Processes create one artefact, complete its creation and open it, at the same time and
with failing operations, and nobody else touches the ownership record. Only the process
that created the record writes to it, and the event data is created only behind a record
that is there in full. So what can be observed of the artefact moves as `CreationPlan`
says, one operation of one process at a time.
-/

namespace Pardosa

open Foundation

section Pool

variable [Digests] {Process : Type}

/-- A call that a program can make: its descriptor comes from an admission. -/
def ProcessCall.Typed : ProcessCall → Prop
  | .opening (.createWithLimit _ _ descriptor _) => descriptor.Admitted
  | _ => True

instance : (call : ProcessCall) → Decidable call.Typed
  | .opening (.createWithLimit _ _ descriptor _) => inferInstanceAs (Decidable descriptor.Admitted)
  | .opening (.completeCreation _ _) => .isTrue trivial
  | .opening (.openWrite _ _) => .isTrue trivial
  | .append _ => .isTrue trivial
  | .releaseExclusion => .isTrue trivial

variable (Process) in
/-- Processes on one artefact whose ownership record nobody else touches. -/
def creators [DecidableEq Process] :
    Pool fileOperations (SharedFiles Process) Process ProcessCall Tenure :=
  { processes Process with
    program := fun call tenure => if call.Typed then call.program tenure else none
    others := fun _ _ => False }

/-- The claim that a session was opened for. -/
def OpeningCall.Carries : OpeningCall → OwnershipClaimRecord → Prop
  | .createWithLimit _ initialClaim _ _, claim => initialClaim = claim
  | .completeCreation _ own, claim => own = claim
  | .openWrite _ carriedEpoch, claim => carriedEpoch = claim.epoch

namespace SharedFiles

/-- Which files are there. -/
def presence (shared : SharedFiles Process) : ArtefactPresence :=
  match (shared.content .metaFile).isSome, (shared.content .pgnoFile).isSome with
  | false, false => .none
  | true, false => .ownershipRecordOnly
  | false, true => .eventDataOnly
  | true, true => .both

/-- The claim that the ownership record holds. -/
def seededClaim (shared : SharedFiles Process) : Option OwnershipClaimRecord :=
  recordedClaim (shared.content .metaFile)

/-- How far the creation of the artefact has come. -/
def progression (shared : SharedFiles Process) : Option CreationProgression :=
  CreationPlan.observed shared.presence shared.seededClaim

end SharedFiles

end Pool

section Discipline

variable [Digests] {Process : Type}

namespace SharedFiles

/-- What holds of planned creations at any time: the ownership record is a beginning of
one seed, and event data is there only behind a whole one. -/
structure Planned (shared : SharedFiles Process) : Prop where
  made : (shared.maker .metaFile).isSome = (shared.content .metaFile).isSome
  record : ∀ {bytes}, shared.content .metaFile = some bytes →
    ∃ seed : Seed, bytes <+: seed.record
  events : (shared.content .pgnoFile).isSome = true →
    ∃ seed : Seed, shared.content .metaFile = some seed.record

/-- How the files may change at all: nothing goes away. -/
structure Furthers (before after : SharedFiles Process) : Prop where
  record : ∀ {bytes}, before.content .metaFile = some bytes →
    ∃ more, after.content .metaFile = some (bytes ++ more)
  events : (before.content .pgnoFile).isSome = true → (after.content .pgnoFile).isSome = true
  maker : ∀ {process}, before.maker .metaFile = some process → after.maker .metaFile = some process

/-- What a process relies on when others act: its handles stay, and so does the ownership
record that it created. -/
structure Leaves (process : Process) (before after : SharedFiles Process) : Prop where
  position : after.position process = before.position process
  maker : before.maker .metaFile = some process → after.maker .metaFile = some process
  own : before.maker .metaFile = some process →
    after.content .metaFile = before.content .metaFile

omit [Digests] in
/-- Standing still is no step back. -/
theorem Furthers.refl (shared : SharedFiles Process) : Furthers shared shared :=
  ⟨fun stands => ⟨[], by rw [List.append_nil]; exact stands⟩, id, id⟩

omit [Digests] in
/-- Two steps on are a step on. -/
theorem Furthers.trans {first second third : SharedFiles Process} (earlier : Furthers first second)
    (later : Furthers second third) : Furthers first third where
  record stands := by
    obtain ⟨more, stands⟩ := earlier.record stands
    obtain ⟨others, stands⟩ := later.record stands
    exact ⟨more ++ others, by rw [← List.append_assoc]; exact stands⟩
  events present := later.events (earlier.events present)
  maker made := later.maker (earlier.maker made)

omit [Digests] in
/-- A process leaves alone what does not change. -/
theorem Leaves.refl (process : Process) (shared : SharedFiles Process) :
    Leaves process shared shared := ⟨rfl, id, fun _ => rfl⟩

omit [Digests] in
/-- It leaves alone what it leaves alone twice. -/
theorem Leaves.trans {process : Process} {first second third : SharedFiles Process}
    (earlier : Leaves process first second) (later : Leaves process second third) :
    Leaves process first third where
  position := later.position.trans earlier.position
  maker made := later.maker (earlier.maker made)
  own made := (later.own (earlier.maker made)).trans (earlier.own made)

/-- A whole ownership record. -/
def Whole (seed : Seed) (shared : SharedFiles Process) : Prop :=
  shared.content .metaFile = some seed.record

end SharedFiles

/-- A property that lasts while creations go on. -/
def Enduring (property : SharedFiles Process → Prop) : Prop :=
  ∀ {before after}, SharedFiles.Furthers before after → SharedFiles.Planned after →
    property before → property after

/-- A whole ownership record stays as it is. -/
theorem enduring_whole (seed : Seed) :
    Enduring fun shared : SharedFiles Process => shared.Whole seed := by
  intro before after furthers planned whole
  obtain ⟨more, stands⟩ := furthers.record whole
  obtain ⟨other, begins⟩ := planned.record stands
  rw [seed.nothing_more begins, List.append_nil] at stands
  exact stands

/-- The call that opened a session carries the claim of a whole ownership record. -/
def Opened (opened : OpeningCall) (shared : SharedFiles Process) : Prop :=
  ∃ seed : Seed, shared.Whole seed ∧ opened.Carries seed.claim

/-- What holds of a process: its session, if it has one, was opened for the claim. -/
def Tenure.Planned (tenure : Tenure) (shared : SharedFiles Process) : Prop :=
  match tenure with
  | .live opened _ _ => Opened opened shared
  | _ => True

/-- What always holds endures. -/
theorem enduring_true : Enduring fun _ : SharedFiles Process => True := fun _ _ _ => trivial

/-- An opening that is complete endures. -/
theorem enduring_opened (opened : OpeningCall) :
    Enduring fun shared : SharedFiles Process => Opened opened shared := by
  rintro before after furthers planned ⟨seed, whole, carries⟩
  exact ⟨seed, enduring_whole seed furthers planned whole, carries⟩

/-- What a tenure is planned to hold endures. -/
theorem enduring_planned (tenure : Tenure) :
    Enduring fun shared : SharedFiles Process => tenure.Planned shared := by
  intro before after furthers planned holds
  cases tenure with
  | live opened store outcomes => exact enduring_opened opened furthers planned holds
  | waiting => trivial
  | gone opened outcomes => trivial

variable (Process) in
/-- What processes that create one artefact promise each other. -/
def planning : Discipline (SharedFiles Process) Process ProcessCall Tenure where
  Inv := SharedFiles.Planned
  Grows := SharedFiles.Furthers
  Rely := SharedFiles.Leaves
  Holds _ tenure shared := tenure.Planned shared
  During _ _ tenure shared := tenure.Planned shared
  Ends _ _ _ final shared := final.Planned shared

end Discipline

section Moves

/-- A request leaves a missing file missing, or creates it without any bytes. -/
theorem FileRequest.performs_missing {request : FileRequest} {before after : FileState}
    {answer : request.Res} (performed : request.Performs before answer after)
    (missing : before.content = none) :
    after.content = none ∨ request = .createNew ∧ after.content = some [] := by
  rcases performed with served | failed
  · have final : after = (request.serve before).2 := congrArg Prod.snd served
    rw [final]
    cases request with
    | createNew => exact .inr ⟨rfl, by simp [serve, missing]⟩
    | _ => exact .inl (by simp [serve, FileState.present, missing])
  · cases request with
    | write bytes =>
        rcases failed with ⟨-, same⟩ | ⟨count, -, taken⟩
        · exact .inl (by rw [same]; exact missing)
        · have final := congrArg Prod.snd taken
          simp only [FileState.present, missing] at final
          exact .inl (by rw [final]; exact missing)
    | readToEnd limit => exact .inl (failed.2.trans missing)
    | _ => exact .inl (by rw [failed.2]; exact missing)

namespace SharedFiles

variable [Digests] {Process : Type} [DecidableEq Process]
  {before after : SharedFiles Process} {process : Process} {op : FileOp}
  {answer : op.request.Res} {file : FileState}

/-- The ownership record gets a maker when it is created, and keeps it. -/
theorem maker_meta (made : (before.maker .metaFile).isSome = (before.content .metaFile).isSome)
    (performs : op.request.Performs (before.view process op.name) answer file) :
    (∀ {other}, before.maker .metaFile = some other →
      (before.touched process op answer file).maker .metaFile = some other) ∧
    ((before.touched process op answer file).maker .metaFile).isSome =
      ((before.touched process op answer file).content .metaFile).isSome := by
  unfold touched
  dsimp only
  by_cases own : op.name = .metaFile
  · rw [own]
    cases known : before.content .metaFile with
    | none =>
        rw [known] at made
        have unmade : before.maker .metaFile = none := by simpa using made
        cases file.content <;> simp [unmade]
    | some bytes =>
        have present := FileRequest.performs_present performs (by simp [view, own, known])
        rw [known] at made
        simp [present, made]
  · have apart : FileName.metaFile ≠ op.name := fun same => own same.symm
    split_ifs <;> simp [Function.update_of_ne apart, made]

/-- What an operation may make of the files: the ownership record stays, or is a longer
beginning of a seed in the hands of its maker, and event data comes behind a whole one. -/
structure MayMake (before : SharedFiles Process) (process : Process) (after : SharedFiles Process) :
    Prop where
  record : after.content .metaFile = before.content .metaFile ∨
    (before.content .metaFile = none ∨ before.maker .metaFile = some process) ∧
      ∃ (seed : Seed) (bytes : Bytes), after.content .metaFile = some bytes ∧
        bytes <+: seed.record ∧ ∀ {old}, before.content .metaFile = some old → old <+: bytes
  events : (after.content .pgnoFile).isSome = true → (before.content .pgnoFile).isSome = true ∨
    ∃ seed : Seed, before.Whole seed ∧ after.Whole seed

/-- An operation that makes of the files what it may keeps the promises to the others. -/
theorem Performs.plans (planned : Planned before)
    (performed : Performs process op before answer after) (makes : before.MayMake process after) :
    (planning Process).Moves process before after := by
  obtain ⟨-, file, performs, rfl⟩ := performed
  obtain ⟨maker, made⟩ := maker_meta planned.made performs
  have record : ∀ {bytes}, before.content .metaFile = some bytes → ∃ more,
      (before.touched process op answer file).content .metaFile = some (bytes ++ more) := by
    intro bytes stands
    rcases makes.record with same | ⟨-, seed, longer, known, -, extends_⟩
    · exact ⟨[], by rw [same, List.append_nil]; exact stands⟩
    · obtain ⟨more, rfl⟩ := extends_ stands
      exact ⟨more, known⟩
  have seeds : ∀ {bytes}, (before.touched process op answer file).content .metaFile = some bytes →
      ∃ seed : Seed, bytes <+: seed.record := by
    intro bytes stands
    rcases makes.record with same | ⟨-, seed, longer, known, begins, -⟩
    · exact planned.record (same.symm.trans stands)
    · rw [known] at stands
      cases stands
      exact ⟨seed, begins⟩
  have events : (before.content .pgnoFile).isSome = true →
      ((before.touched process op answer file).content .pgnoFile).isSome = true := by
    intro present
    unfold touched
    by_cases own : FileName.pgnoFile = op.name
    · have seen : (before.view process op.name).content.isSome = true := by
        rw [← own]
        exact present
      simpa [own] using FileRequest.performs_present performs seen
    · simpa [Function.update_of_ne own] using present
  refine ⟨⟨made, seeds, ?_⟩, ⟨record, events, maker⟩, ?_⟩
  · intro present
    rcases makes.events present with earlier | ⟨seed, -, whole⟩
    · obtain ⟨seed, whole⟩ := planned.events earlier
      obtain ⟨more, stands⟩ := record whole
      obtain ⟨other, begins⟩ := seeds stands
      rw [seed.nothing_more begins, List.append_nil] at stands
      exact ⟨seed, stands⟩
    · exact ⟨seed, whole⟩
  · intro other apart
    refine ⟨Function.update_of_ne apart .., maker, ?_⟩
    intro theirs
    rcases makes.record with same | ⟨missing | own, -⟩
    · exact same
    · have made := planned.made
      rw [theirs, missing] at made
      cases made
    · rw [own] at theirs
      exact (apart (Option.some.inj theirs).symm).elim

end SharedFiles

end Moves

section Rules

variable [Digests] {Process : Type} [DecidableEq Process] {process : Process} {call : ProcessCall}
  {tenure : Tenure} {shared : SharedFiles Process} {property : SharedFiles Process → Prop}

/-- The files as a process finds them during a call. -/
abbrev ProcessCall.planned (call : ProcessCall) (process : Process) (tenure : Tenure) :
    Setting fileOperations (SharedFiles Process) :=
  (planning Process).setting (creators Process) process call tenure

/-- One request, with what the others did before it. -/
theorem wp_send_planned {request : FileRequest} {name : FileName}
    {post : request.Res → SharedFiles Process → Prop}
    (holds : ∀ moved, (planning Process).Sees process shared moved → ∀ answer after,
      SharedFiles.Performs process ⟨name, request⟩ moved answer after →
      moved.MayMake process after ∧ (SharedFiles.Planned after → SharedFiles.Furthers moved after →
        post answer after)) :
    (request.send name).wp (call.planned process tenure) post shared := by
  rintro moved ⟨sees, during⟩ answer after performed
  obtain ⟨makes, owed⟩ := holds moved sees answer after performed
  have moves := SharedFiles.Performs.plans sees.invariant performed makes
  exact ⟨⟨moves, enduring_planned tenure moves.grows moves.invariant during⟩,
    owed moves.invariant moves.grows⟩

/-- An operation that creates nothing and leaves the ownership record alone. -/
def FileOp.SparesRecord (op : FileOp) : Prop :=
  op.request ≠ .createNew ∧ (op.name = .pgnoFile ∨ op.request.isQuiet = true)

omit [Digests] in
/-- A quiet operation spares the ownership record. -/
theorem FileOp.sparesRecord_of_isQuiet {name : FileName} {request : FileRequest}
    (quiet : request.isQuiet = true) : (⟨name, request⟩ : FileOp).SparesRecord := by
  refine ⟨?_, .inr quiet⟩
  rintro rfl
  cases quiet

/-- Such an operation leaves both the record and what is missing. -/
theorem SharedFiles.Performs.spares {op : FileOp} {before after : SharedFiles Process}
    {answer : op.request.Res} (spares : op.SparesRecord)
    (performed : Performs process op before answer after) :
    after.content .metaFile = before.content .metaFile ∧ before.MayMake process after := by
  obtain ⟨-, file, performs, rfl⟩ := performed
  have record : (before.touched process op answer file).content .metaFile =
      before.content .metaFile := by
    unfold touched
    by_cases own : FileName.metaFile = op.name
    · have quiet : op.request.isQuiet = true := by
        refine spares.2.resolve_left ?_
        rw [← own]
        rintro ⟨⟩
      have kept := FileRequest.performs_quiet quiet performs
      simpa [own, view] using kept
    · simp [Function.update_of_ne own]
  refine ⟨record, .inl record, ?_⟩
  intro present
  refine .inl ?_
  by_contra missing
  rw [Bool.not_eq_true, Option.isSome_eq_false_iff, Option.isNone_iff_eq_none] at missing
  unfold touched at present
  by_cases own : FileName.pgnoFile = op.name
  · have absent : (before.view process op.name).content = none := by
      rw [← own]
      exact missing
    rcases FileRequest.performs_missing performs absent with still | ⟨creates, -⟩
    · simp [own, still] at present
    · exact spares.1 creates
  · simp [Function.update_of_ne own, missing] at present

/-- Operations that spare the record keep what endures. -/
theorem wp_sparing (enduring : Enduring property) {α : Type} {program : Program fileOperations α}
    (only : program.Only FileOp.SparesRecord) (start : property shared) :
    program.wp (call.planned process tenure) (fun _ after => property after) shared := by
  refine Discipline.wp_of_only ?_ ?_ only start
  · intro before after sees holds
    exact enduring sees.grows sees.invariant holds
  · intro op before answer after spares planned during holds performed
    have moves := SharedFiles.Performs.plans planned performed
      (SharedFiles.Performs.spares spares performed).2
    exact ⟨moves, enduring_planned tenure moves.grows moves.invariant during,
      enduring moves.grows moves.invariant holds⟩

/-- One request that spares the record. -/
theorem wp_send_sparing {request : FileRequest} {name : FileName}
    {post : request.Res → SharedFiles Process → Prop}
    (spares : (⟨name, request⟩ : FileOp).SparesRecord)
    (holds : ∀ moved after answer, (planning Process).Sees process shared moved →
      SharedFiles.Performs process ⟨name, request⟩ moved answer after →
      SharedFiles.Planned after → after.content .metaFile = moved.content .metaFile →
      post answer after) :
    (request.send name).wp (call.planned process tenure) post shared := by
  refine wp_send_planned ?_
  intro moved sees answer after performed
  obtain ⟨same, makes⟩ := SharedFiles.Performs.spares spares performed
  exact ⟨makes, fun planned _ => holds moved after answer sees performed planned same⟩

omit [Digests] in
/-- A read from the start answers a beginning of the content. -/
theorem FileRequest.performs_readToEnd_prefix {limit : Nat} {before after : FileState} {buf : Bytes}
    (performed : (FileRequest.readToEnd limit).Performs before (.ok buf) after)
    (atStart : before.position = 0) :
    ∃ content, before.content = some content ∧ buf <+: content := by
  rcases performed with served | ⟨⟨failure, impossible⟩, -⟩
  · have answered := congrArg Prod.fst served
    simp only [FileRequest.serve, FileState.present, atStart, List.drop_zero] at answered
    cases known : before.content with
    | none =>
        rw [known] at answered
        cases answered
    | some content =>
        rw [known] at answered
        cases answered
        exact ⟨content, rfl, List.take_prefix _ _⟩
  · cases impossible

variable {σ : Type} {state : σ}

/-- Scanning the ownership record finds a beginning of what is there. -/
theorem wp_readContainerFrames_planned :
    (readContainerFrames .metaFile).wp (call.planned process tenure) (fun outcome _ after =>
      ∀ scan, outcome = .ok scan → ∃ (seed : Seed) (buf content : Bytes),
        after.content .metaFile = some content ∧ content <+: seed.record ∧ buf <+: content ∧
          scanContainer buf = .ok scan) state shared := by
  simp only [readContainerFrames, Action.wp_bind, Action.wp_refuseIf]
  refine wp_send_sparing (FileOp.sparesRecord_of_isQuiet rfl) ?_
  rintro moved first (failure | position) sees performed planned same
  · rintro scan ⟨⟩
  have atStart : first.position process .metaFile = 0 := by
    obtain ⟨-, file, performs, rfl⟩ := performed
    have moved := FileRequest.performs_seekStart_ok performs
    simpa [SharedFiles.touched] using moved
  refine wp_send_sparing (FileOp.sparesRecord_of_isQuiet rfl) ?_
  rintro moved second (failure | len) sees performed planned same
  · rintro scan ⟨⟩
  have stillAtStart : second.position process .metaFile = 0 := by
    obtain ⟨-, file, performs, rfl⟩ := performed
    obtain ⟨rfl, -⟩ := FileRequest.performs_metadataLen_ok performs
    simpa [SharedFiles.touched, SharedFiles.view, sees.rely.position] using atStart
  dsimp only [Except.mapError]
  split_ifs with short
  · rintro scan ⟨⟩
  refine wp_send_sparing (FileOp.sparesRecord_of_isQuiet rfl) ?_
  rintro moved third (failure | buf) sees performed planned same
  · rintro scan ⟨⟩
  have read : ∃ content, moved.content .metaFile = some content ∧ buf <+: content := by
    obtain ⟨-, file, performs, rfl⟩ := performed
    refine FileRequest.performs_readToEnd_prefix performs ?_
    show moved.position process .metaFile = 0
    rw [sees.rely.position]
    exact stillAtStart
  obtain ⟨content, stands, begins⟩ := read
  dsimp only [Except.mapError]
  split_ifs with cut
  · rintro scan ⟨⟩
  · intro scan scanned
    obtain ⟨seed, within⟩ := planned.record (same.trans stands)
    exact ⟨seed, buf, content, same.trans stands, within, begins, scanned⟩

/-- Whoever reads a descriptor from the ownership record has found it whole. -/
theorem wp_readMetaRecords_planned :
    readMetaRecords.wp (call.planned process tenure) (fun outcome _ after =>
      ∀ records, outcome = .ok records → records.schemaDescriptor.isSome = true →
        ∃ seed : Seed, after.Whole seed ∧
          records = .created seed.claim seed.admitted.descriptor) state shared := by
  have looks : (pathExists .metaFile).Only FileOp.SparesRecord :=
    pathExists_only (FileOp.sparesRecord_of_isQuiet rfl)
  have opens : (FileRequest.openFile.send .metaFile).Only FileOp.SparesRecord :=
    only_send (FileOp.sparesRecord_of_isQuiet rfl)
  simp only [readMetaRecords, Action.wp_bind, Action.wp_lift]
  refine Program.wp_mono (wp_sparing enduring_true looks trivial) ?_
  rintro (_ | _) first -
  · rintro records ⟨⟩ ⟨⟩
  simp only [Bool.not_true, Bool.false_eq_true, if_false, Action.wp_bind, Action.wp_attempt,
    Action.wp_ofExcept, Action.wp_refuseIf]
  refine wp_orRefuse.mpr (Program.wp_mono (wp_sparing enduring_true opens trivial) ?_)
  rintro (failure | _) second -
  · rintro records ⟨⟩
  refine Action.wp_mono wp_readContainerFrames_planned ?_
  rintro (failure | scan) _ third found
  · rintro records ⟨⟩
  dsimp only [Except.mapError]
  split_ifs with torn outdated
  · rintro records ⟨⟩
  · rintro records ⟨⟩
  intro records decoded described
  obtain ⟨seed, buf, content, stands, within, begins, scanned⟩ := found scan rfl
  obtain ⟨rfl, created⟩ := seed.described (begins.trans within) scanned decoded described
  refine ⟨seed, ?_, created⟩
  rw [SharedFiles.Whole, stands, within.eq_of_length_le begins.length_le]

end Rules

section Creator

variable [Digests] {Process : Type} [DecidableEq Process] {process : Process}
  {opening : OpeningCall} {shared : SharedFiles Process} {property : SharedFiles Process → Prop}
  {adapter : FileStorageAdapter} {σ : Type} {state : σ} {seed : Seed}

/-- The files as a process finds them while it opens the artefact. -/
abbrev OpeningCall.planned (opening : OpeningCall) (process : Process) :
    Setting fileOperations (SharedFiles Process) :=
  (ProcessCall.opening opening).planned process .waiting

/-- A process that has written so much of an ownership record it created. -/
structure Recording (process : Process) (bytes : Bytes) (shared : SharedFiles Process) : Prop where
  maker : shared.maker .metaFile = some process
  content : shared.content .metaFile = some bytes
  position : shared.position process .metaFile = bytes.length

omit [DecidableEq Process] in
/-- A process goes on recording as others move. -/
theorem Recording.sees {bytes : Bytes} {moved : SharedFiles Process}
    (seeding : Recording process bytes shared)
    (sees : (planning Process).Sees process shared moved) :
    Recording process bytes moved where
  maker := sees.grows.maker seeding.maker
  content := (sees.rely.own seeding.maker).trans seeding.content
  position := by
    rw [sees.rely.position]
    exact seeding.position

/-- Creating the ownership record, a process begins to write it. -/
theorem wp_createNew_record (seed : Seed) :
    (FileRequest.send .createNew .metaFile).wp (opening.planned process)
      (fun answer after => answer = .ok () → Recording process [] after) shared := by
  refine wp_send_planned ?_
  intro moved sees answer after performed
  obtain ⟨-, file, performs, rfl⟩ := performed
  have events : (moved.touched process ⟨.metaFile, .createNew⟩ answer file).content .pgnoFile =
      moved.content .pgnoFile := by
    simp [SharedFiles.touched]
  rcases answer with failure | _
  · have same : (moved.touched process ⟨.metaFile, .createNew⟩ (.error failure) file).content
        .metaFile = moved.content .metaFile := by
      rw [FileRequest.performs_createNew_error performs]
      simp [SharedFiles.touched, SharedFiles.view]
    refine ⟨⟨.inl same, fun present => .inl (events ▸ present)⟩, ?_⟩
    rintro - - ⟨⟩
  · obtain ⟨missing, rfl⟩ := FileRequest.performs_createNew_ok performs
    have absent : moved.content .metaFile = none := missing
    have created : (moved.touched process ⟨.metaFile, .createNew⟩ (.ok ()) ⟨some [], 0⟩).content
        .metaFile = some [] := by
      simp [SharedFiles.touched]
    refine ⟨⟨.inr ⟨.inl absent, seed, [], created, List.nil_prefix, ?_⟩,
      fun present => .inl (events ▸ present)⟩, ?_⟩
    · intro old stands
      rw [absent] at stands
      cases stands
    · rintro - - -
      refine ⟨?_, created, ?_⟩
      · simp [SharedFiles.touched, absent]
      · simp [SharedFiles.touched]

/-- Writing the next bytes of an ownership record, or fewer of them. -/
theorem wp_writeRecord {rounds : Nat} {arrived bytes : Bytes}
    (within : arrived ++ bytes <+: seed.record) (seeding : Recording process arrived shared) :
    (writeAllLoop .metaFile rounds bytes).wp (opening.planned process)
      (fun answer after => answer = .ok () → Recording process (arrived ++ bytes) after)
        shared := by
  induction rounds generalizing shared arrived bytes with
  | zero =>
      cases bytes with
      | nil =>
          rw [List.append_nil]
          exact fun _ => seeding
      | cons byte bytes => rintro ⟨⟩
  | succ rounds ih =>
      cases bytes with
      | nil =>
          rw [List.append_nil]
          exact fun _ => seeding
      | cons byte bytes =>
          refine (Program.wp_bind _ _ _ _).mpr (wp_send_planned ?_)
          intro moved sees answer after performed
          have written := seeding.sees sees
          have view : moved.view process .metaFile = ⟨some arrived, arrived.length⟩ := by
            unfold SharedFiles.view
            rw [written.content, written.position]
          obtain ⟨-, file, performs, rfl⟩ := performed
          have events : (moved.touched process ⟨.metaFile, .write (byte :: bytes)⟩ answer
              file).content .pgnoFile = moved.content .pgnoFile := by
            simp [SharedFiles.touched]
          have performs : (FileRequest.write (byte :: bytes)).Performs
              ⟨some arrived, arrived.length⟩ answer file := view ▸ performs
          rcases FileRequest.performs_write_end performs with ⟨failure, rfl, rfl⟩ |
            ⟨count, fewer, rfl, rfl⟩
          · refine ⟨⟨.inl ?_, fun present => .inl (events ▸ present)⟩, ?_⟩
            · simp [SharedFiles.touched, written.content]
            · rintro - - ⟨⟩
          · have split : arrived ++ (byte :: bytes) =
                (arrived ++ (byte :: bytes).take count) ++ (byte :: bytes).drop count := by
              rw [List.append_assoc, List.take_append_drop]
            have arrives : (moved.touched process ⟨.metaFile, .write (byte :: bytes)⟩ (.ok count)
                ⟨some (arrived ++ (byte :: bytes).take count), arrived.length + count⟩).content
                .metaFile = some (arrived ++ (byte :: bytes).take count) := by
              simp [SharedFiles.touched]
            rw [split] at within ⊢
            refine ⟨⟨.inr ⟨.inr written.maker, seed, _, arrives,
              (List.prefix_append _ _).trans within, ?_⟩, fun present =>
                .inl (events ▸ present)⟩, ?_⟩
            · intro old stands
              rw [written.content] at stands
              cases stands
              exact List.prefix_append _ _
            · rintro - furthers
              cases count with
              | zero => rintro ⟨⟩
              | succ count =>
                  refine ih within ⟨furthers.maker written.maker, arrives, ?_⟩
                  rw [List.length_append, List.length_take_of_le fewer]
                  simp [SharedFiles.touched]

/-- Writing the next frame of an ownership record. -/
theorem wp_writeMetaFrame_planned {arrived payload : Bytes} {what : String}
    (within : arrived ++ ContainerFrame.frameBytes payload <+: seed.record)
    (seeding : Recording process arrived shared) :
    (FileStorageAdapter.writeMetaFrame payload what).wp (opening.planned process)
      (fun outcome _ after => outcome = .ok () →
        Recording process (arrived ++ ContainerFrame.frameBytes payload) after) state shared := by
  unfold FileStorageAdapter.writeMetaFrame
  rw [Action.wp_bind, Action.wp_ofExcept]
  cases encoded : ContainerFrame.encodePayload payload with
  | error failure => rintro ⟨⟩
  | ok frame =>
      obtain ⟨-, rfl⟩ := encodePayload_ok_iff.mp encoded
      refine wp_orRefuse.mpr (Program.wp_mono (wp_writeRecord within seeding) ?_)
      rintro (failure | _) after written
      · rintro ⟨⟩
      · exact fun _ => written rfl

omit [Digests] in
/-- A claim whose length was checked fits into a frame. -/
theorem claimFits_of_checked {claim : OwnershipClaimRecord} {maxWireLen len : Nat}
    (checked : computeClaimWireLenBounded (utf8Bytes claim.operatorLabel.val).length maxWireLen =
      .ok len) : (OwnershipRecord.ownershipClaim claim).encode.length ≤ u32Max := by
  rw [OwnershipRecord.length_encode_ownershipClaim]
  unfold computeClaimWireLenBounded at checked
  split at checked
  · cases checked
  rename_i total added
  split_ifs at checked with long
  have sum : total = 69 + (utf8Bytes claim.operatorLabel.val).length := by
    unfold checkedAdd at added
    split_ifs at added
    exact (Option.some.inj added).symm
  omega

/-- Looking for the files keeps what endures. -/
theorem FileStorageAdapter.wp_tryPresence_planned (enduring : Enduring property)
    (start : property shared) :
    adapter.tryPresence.wp (opening.planned process) (fun _ _ after => property after) state
      shared :=
  wp_sparing enduring (adapter.tryPresence_only (fun _ => FileOp.sparesRecord_of_isQuiet rfl) state)
    start

/-- The first half of a creation ends with a whole ownership record for its claim. -/
theorem FileStorageAdapter.wp_createOwnershipRecord_planned {claim : OwnershipClaimRecord}
    {descriptor : AdmittedDescriptor} {maxWireLen : Nat} (admits : descriptor.Admitted) :
    (adapter.createOwnershipRecord claim descriptor maxWireLen).wp (opening.planned process)
      (fun outcome _ after => outcome = .ok () → ∃ seed : Seed, seed.claim = claim ∧
        after.Whole seed) state shared := by
  unfold createOwnershipRecord
  rw [Action.wp_bind]
  refine Action.wp_mono (adapter.wp_tryPresence_planned enduring_true trivial) ?_
  rintro (failure | presence) state first -
  · rintro ⟨⟩
  dsimp only
  rw [Action.wp_bind, Action.wp_ofExcept]
  cases admitCreate presence with
  | error failure => rintro ⟨⟩
  | ok =>
      dsimp only
      rw [Action.wp_bind, Action.wp_ofExcept]
      cases checked : computeClaimWireLenBounded (utf8Bytes claim.operatorLabel.val).length
          maxWireLen with
      | error failure => rintro ⟨⟩
      | ok len =>
          let seed : Seed := ⟨claim, descriptor, admits, claimFits_of_checked checked⟩
          have split : ([] ++ ContainerHeader.new.toBytes) ++
              ContainerFrame.frameBytes seed.claimPayload ++
              ContainerFrame.frameBytes seed.admitted.encodedRecord = seed.record := by
            rw [seed.record_eq, List.nil_append, List.append_assoc]
          have whole : ([] ++ ContainerHeader.new.toBytes) ++
              ContainerFrame.frameBytes seed.claimPayload ++
              ContainerFrame.frameBytes seed.admitted.encodedRecord <+: seed.record := by
            rw [split]
          have claimed := (List.prefix_append _ _).trans whole
          have headed := (List.prefix_append _ _).trans claimed
          dsimp only
          rw [Action.wp_bind, Action.wp_lift]
          refine Program.wp_mono (wp_createNew_record seed) ?_
          rintro (failure | _) second seeding
          · rintro ⟨⟩
          dsimp only
          rw [Action.wp_bind, Action.wp_ofExcept]
          dsimp only [Except.mapError]
          rw [Action.wp_bind]
          refine wp_orRefuse.mpr (Program.wp_mono (wp_writeRecord headed (seeding rfl)) ?_)
          rintro (failure | _) third seeding
          · rintro ⟨⟩
          dsimp only [Except.mapError]
          rw [Action.wp_bind]
          refine Action.wp_mono (wp_writeMetaFrame_planned claimed (seeding rfl)) ?_
          rintro (failure | _) _ fourth seeding
          · rintro ⟨⟩
          dsimp only
          rw [Action.wp_bind]
          refine Action.wp_mono (wp_writeMetaFrame_planned whole (seeding rfl)) ?_
          rintro (failure | _) _ fifth seeding
          · rintro ⟨⟩
          dsimp only
          have recorded : fifth.Whole seed := by
            rw [SharedFiles.Whole, (seeding rfl).content, split]
          have syncs : (FileRequest.send .syncData .metaFile).Only FileOp.SparesRecord :=
            only_send (FileOp.sparesRecord_of_isQuiet rfl)
          refine wp_orRefuse.mpr (Program.wp_mono
            (wp_sparing (enduring_whole seed) syncs recorded) ?_)
          rintro answer last recorded -
          exact ⟨seed, rfl, recorded⟩

end Creator

end Pardosa
