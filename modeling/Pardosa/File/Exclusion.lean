import Pardosa.File.Processes

/-!
# Every process keeps to the discipline

The calls of a process, one operation at a time and with other processes in between.
Before the lock is taken a process only looks, or writes the header of a file that it
created itself. From a complete header on, the lock protects the event data, and the
rules for undisturbed files apply to what the process sees of them.
-/

namespace Pardosa

open Foundation

/-- An operation that concerns neither the event data nor its lock. -/
def FileOp.IsCalm (op : FileOp) : Prop :=
  op.name = .metaFile ∨ op.request.isCalm = true

/-- An operation that neither creates a file nor concerns a lock. -/
def FileOp.IsSteady (op : FileOp) : Prop :=
  op.request ≠ .createNew ∧ op.request ≠ .tryLock ∧ op.request ≠ .unlock

namespace SharedFiles

variable {Process : Type} [DecidableEq Process]

/-- The event data, its lock and its record are as they were. -/
structure Same (before after : SharedFiles Process) : Prop where
  content : after.content .pgnoFile = before.content .pgnoFile
  holder : after.holder = before.holder
  authors : after.authors = before.authors
  begun : after.begun = before.begun
  maker : ∀ {name process}, before.maker name = some process → after.maker name = some process

omit [DecidableEq Process] in
/-- Files that stay the same keep everything. -/
theorem Same.keeps {before after : SharedFiles Process} (same : Same before after)
    (process : Process) : Keeps process before after where
  begun := by rw [same.begun]
  maker := same.maker
  authors number := by rw [same.authors]
  credited := by rw [same.authors]
  holder := by rw [same.holder]
  locked _ _ := same.content

variable [Digests] {before after : SharedFiles Process} {process : Process} {op : FileOp}
  {answer : op.request.Res}

omit [Digests] in
/-- A steady operation leaves the lock where it is. -/
theorem holderAfter_steady {holder : Option Process} (steady : op.IsSteady) :
    holderAfter holder process op answer = holder := by
  obtain ⟨name, request⟩ := op
  obtain ⟨-, unlocked, locked⟩ := steady
  cases name with
  | metaFile => cases request <;> rfl
  | pgnoFile =>
      cases request with
      | tryLock => exact (unlocked rfl).elim
      | unlock => exact (locked rfl).elim
      | _ => rfl

omit [Digests] in
/-- So does a calm one. -/
theorem holderAfter_calm {holder : Option Process} (calm : op.IsCalm) :
    holderAfter holder process op answer = holder := by
  obtain ⟨name, request⟩ := op
  rcases calm with record | calm
  · cases record
    cases request <;> rfl
  · cases name with
    | metaFile => cases request <;> rfl
    | pgnoFile =>
        cases request with
        | tryLock => cases calm
        | unlock => cases calm
        | _ => rfl

/-- An operation on the ownership record, or one that leaves bytes alone, leaves the
event data. -/
theorem Performs.content_pgno (performed : Performs process op before answer after)
    (quiet : op.name = .metaFile ∨ op.request.isQuiet = true) :
    after.content .pgnoFile = before.content .pgnoFile := by
  obtain ⟨-, file, performs, rfl⟩ := performed
  unfold touched
  dsimp only
  by_cases own : FileName.pgnoFile = op.name
  · rw [own, Function.update_self]
    rcases quiet with record | quiet
    · rw [record] at own
      cases own
    · exact FileRequest.performs_quiet quiet performs
  · rw [Function.update_of_ne own]

/-- The record of authors changes only with the whole frames. -/
theorem Performs.authors_eq (performed : Performs process op before answer after)
    (kept : after.frames = before.frames) : after.authors = before.authors := by
  obtain ⟨-, file, -, rfl⟩ := performed
  exact if_neg (Nat.not_lt.mpr (congrArg List.length kept).le)

/-- A calm operation leaves the files as they were. -/
theorem Performs.same (inv : Inv before) (performed : Performs process op before answer after)
    (calm : op.IsCalm) : Same before after := by
  have kept := performed.content_pgno (calm.imp_right FileRequest.isQuiet_of_isCalm)
  have authors := performed.authors_eq (congrArg wholeFrames kept)
  obtain ⟨-, file, -, rfl⟩ := performed
  exact ⟨kept, holderAfter_calm calm, authors, rfl, maker_touched inv⟩

/-- An operation that makes of the event data what the process may make of it keeps
the promises to the others. -/
theorem Performs.moves (inv : Inv before) (performed : Performs process op before answer after)
    (leaves : before.MayLeave process (after.content .pgnoFile)) :
    (exclusion Process).Moves process before after := by
  obtain ⟨lock, file, performs, rfl⟩ := performed
  exact ⟨inv_touched inv performs leaves, grows_touched inv leaves,
    fun other apart => rely_touched inv lock leaves apart⟩

/-- An operation that leaves the event data alone is one that exclusion permits. -/
theorem Performs.moves_same (inv : Inv before) (performed : Performs process op before answer after)
    (kept : after.content .pgnoFile = before.content .pgnoFile) :
    (exclusion Process).Moves process before after := by
  refine performed.moves inv ?_
  rw [kept]
  exact inv.mayLeave_same process

end SharedFiles

section Rules

variable [Digests] {Process : Type} [DecidableEq Process] {process : Process} {call : ProcessCall}
  {tenure : Tenure} {shared : SharedFiles Process}

/-- The files as a process finds them during a call. -/
abbrev ProcessCall.setting (call : ProcessCall) (process : Process) (tenure : Tenure) :
    Setting fileOperations (SharedFiles Process) :=
  (exclusion Process).setting (processes Process) process call tenure

/-- Calm operations keep what the others and they themselves keep. -/
theorem wp_calm {Kept : SharedFiles Process → Prop}
    (others : ∀ {before after}, (exclusion Process).Sees process before after → Kept before →
      Kept after)
    (same : ∀ {before after}, SharedFiles.Same before after → SharedFiles.Grows before after →
      Kept before → Kept after)
    {α : Type} {program : Program fileOperations α} (only : program.Only FileOp.IsCalm)
    (start : Kept shared) :
    program.wp (call.setting process tenure) (fun _ after => Kept after) shared := by
  refine Discipline.wp_of_only others ?_ only start
  intro op before answer after calm inv during kept performed
  have unchanged := SharedFiles.Performs.same inv performed calm
  have moves := SharedFiles.Performs.moves_same inv performed unchanged.content
  exact ⟨moves, ProcessCall.During.kept (unchanged.keeps process) during,
    same unchanged moves.grows kept⟩

/-- A property that lasts: growing files keep it. -/
def Lasting (property : SharedFiles Process → Prop) : Prop :=
  ∀ {before after}, SharedFiles.Grows before after → property before → property after

/-- A calm program keeps what lasts. -/
theorem wp_calm_lasting {property : SharedFiles Process → Prop} (lasting : Lasting property)
    {α : Type} {program : Program fileOperations α} (only : program.Only FileOp.IsCalm)
    (start : property shared) :
    program.wp (call.setting process tenure) (fun _ after => property after) shared :=
  wp_calm (fun sees => lasting sees.grows) (fun _ grows => lasting grows) only start

/-- Calm operations do not lose the lock. -/
theorem wp_calm_holder {α : Type} {program : Program fileOperations α}
    (only : program.Only FileOp.IsCalm) (holder : shared.holder = some process) :
    program.wp (call.setting process tenure) (fun _ after => after.holder = some process) shared :=
  wp_calm (fun sees holds => sees.rely.holder.mpr holds)
    (fun same _ holds => same.holder.trans holds) only holder

/-- One request, with what the others did before it. -/
theorem wp_send_shared {request : FileRequest} {name : FileName}
    {post : request.Res → SharedFiles Process → Prop}
    (holds : ∀ moved, (exclusion Process).Sees process shared moved →
      call.During process tenure moved → ∀ answer after,
      SharedFiles.Performs process ⟨name, request⟩ moved answer after →
      moved.MayLeave process (after.content .pgnoFile) ∧ call.During process tenure after ∧
        (SharedFiles.Inv after → SharedFiles.Grows moved after → post answer after)) :
    (request.send name).wp (call.setting process tenure) post shared := by
  rintro moved ⟨sees, during⟩ answer after performed
  obtain ⟨leaves, still, owed⟩ := holds moved sees during answer after performed
  have moves := SharedFiles.Performs.moves sees.invariant performed leaves
  exact ⟨⟨moves, still⟩, owed moves.invariant moves.grows⟩

/-- One calm request: the event data, its lock and its record stay. -/
theorem wp_send_calm {request : FileRequest} {name : FileName}
    {post : request.Res → SharedFiles Process → Prop}
    (calm : (⟨name, request⟩ : FileOp).IsCalm)
    (holds : ∀ moved after answer, (exclusion Process).Sees process shared moved →
      SharedFiles.Performs process ⟨name, request⟩ moved answer after →
      SharedFiles.Same moved after → post answer after) :
    (request.send name).wp (call.setting process tenure) post shared := by
  refine wp_send_shared ?_
  intro moved sees during answer after performed
  have same := SharedFiles.Performs.same sees.invariant performed calm
  have leaves : moved.MayLeave process (after.content .pgnoFile) := by
    rw [same.content]
    exact SharedFiles.Inv.mayLeave_same sees.invariant process
  exact ⟨leaves, ProcessCall.During.kept (same.keeps process) during,
    fun _ _ => holds moved after answer sees performed same⟩

/-- Under the lock and with a complete header, a process sees undisturbed files: what
it owes there it owes among the others. -/
theorem wp_undisturbed {allows : Option Bytes → Option Bytes → Prop}
    (Kept : SharedFiles Process → Prop)
    (locked : ∀ {before}, Kept before → before.holder = some process ∧
      HeaderComplete (before.content .pgnoFile))
    (others : ∀ {before after}, (exclusion Process).Sees process before after → Kept before →
      Kept after)
    (steps : ∀ {op : FileOp} {before} {answer : op.request.Res} {after}, op.IsSteady →
      SharedFiles.Inv before → call.During process tenure before → Kept before →
      SharedFiles.Performs process op before answer after →
      allows (before.content .pgnoFile) (after.content .pgnoFile) →
      before.MayLeave process (after.content .pgnoFile) ∧ call.During process tenure after ∧
        (SharedFiles.Grows before after → Kept after))
    {α : Type} {program : Program fileOperations α} {post : α → FileWorld → Prop}
    (only : program.Only FileOp.IsSteady) (start : Kept shared)
    (holds : program.wp (honouring allows) post (shared.view process)) :
    program.wp (call.setting process tenure)
      (fun value after => post value (after.view process) ∧ Kept after) shared := by
  let Completed (moved : SharedFiles Process) : Prop :=
    Kept moved ∧ SharedFiles.Inv moved ∧ call.During process tenure moved
  refine Program.wp_of_view (fun moved => moved.view process) Completed ?_ ?_ ?_ only start holds
  · rintro before after kept ⟨sees, during⟩
    obtain ⟨holder, complete⟩ := locked kept
    refine ⟨?_, others sees kept, sees.invariant, during⟩
    show after.view process .pgnoFile = before.view process .pgnoFile
    unfold SharedFiles.view
    rw [sees.rely.locked holder complete, sees.rely.position]
  · rintro op before answer after - - ⟨-, file, performs, rfl⟩
    exact ⟨file, performs, SharedFiles.view_touched ..⟩
  · rintro op before answer after steady ⟨kept, inv, during⟩ performed promise
    obtain ⟨leaves, still, later⟩ := steps steady inv during kept performed promise
    have moves := SharedFiles.Performs.moves inv performed leaves
    exact ⟨⟨moves, still⟩, later moves.grows⟩

end Rules

section Opening

variable [Digests] {Process : Type} [DecidableEq Process] {process : Process} {call : OpeningCall}
  {shared : SharedFiles Process} {σ : Type} {state : σ} {property : SharedFiles Process → Prop}

/-- The files as a process finds them while it opens the artefact. -/
abbrev OpeningCall.setting (call : OpeningCall) (process : Process) :
    Setting fileOperations (SharedFiles Process) :=
  (ProcessCall.opening call).setting process .waiting

/-- An opening process has begun no append, also after an operation. -/
theorem Unbegun.performed {op : FileOp} {before after : SharedFiles Process}
    {answer : op.request.Res} (unbegun : Unbegun process before)
    (performed : SharedFiles.Performs process op before answer after)
    (authors : after.authors = before.authors) : Unbegun process after := by
  obtain ⟨-, file, -, rfl⟩ := performed
  refine ⟨unbegun.1, ?_⟩
  rw [authors]
  exact unbegun.2

/-- Taking the lock keeps what lasts, and tells whether the process holds it. -/
theorem wp_acquireFileExclusion_shared {policy : FileExclusionPolicy} (lasting : Lasting property)
    (start : property shared) :
    (acquireFileExclusion policy).wp (call.setting process)
      (fun outcome _ after => property after ∧
        (outcome = .ok () → after.holder = some process ∧ SharedFiles.Inv after)) state shared := by
  cases policy with
  | simulateUnavailable => exact ⟨start, by rintro ⟨⟩⟩
  | simulateHeldByOther => exact ⟨start, by rintro ⟨⟩⟩
  | standard =>
      simp only [acquireFileExclusion, Action.wp_bind, Action.wp_lift]
      refine wp_send_shared ?_
      intro moved sees during answer after performed
      have kept := performed.content_pgno (Or.inr rfl)
      have authors := performed.authors_eq (congrArg wholeFrames kept)
      have leaves : moved.MayLeave process (after.content .pgnoFile) := by
        rw [kept]
        exact SharedFiles.Inv.mayLeave_same sees.invariant process
      refine ⟨leaves, Unbegun.performed during performed authors, ?_⟩
      intro inv grows
      have still := lasting grows (lasting sees.grows start)
      obtain ⟨-, file, -, rfl⟩ := performed
      rcases answer with (_ | failure) | _
      · exact ⟨still, by rintro ⟨⟩⟩
      · exact ⟨still, by rintro ⟨⟩⟩
      · exact ⟨still, fun _ => ⟨rfl, inv⟩⟩

/-- Creating the ownership record, a process becomes its maker. -/
theorem wp_createNew_meta :
    (FileRequest.send .createNew .metaFile).wp (call.setting process)
      (fun answer after => answer = .ok () → after.maker .metaFile = some process) shared := by
  refine wp_send_shared ?_
  intro moved sees during answer after performed
  have kept := performed.content_pgno (Or.inl rfl)
  have authors := performed.authors_eq (congrArg wholeFrames kept)
  have leaves : moved.MayLeave process (after.content .pgnoFile) := by
    rw [kept]
    exact SharedFiles.Inv.mayLeave_same sees.invariant process
  refine ⟨leaves, Unbegun.performed during performed authors, ?_⟩
  rintro - - rfl
  obtain ⟨-, file, performs, rfl⟩ := performed
  obtain ⟨missing, rfl⟩ := FileRequest.performs_createNew_ok performs
  have absent : moved.content .metaFile = none := missing
  simp [SharedFiles.touched, absent]

/-- A process that has written so much of the header of a file it created. -/
structure Heading (process : Process) (part : Bytes) (shared : SharedFiles Process) : Prop where
  maker : shared.maker .pgnoFile = some process
  content : shared.content .pgnoFile = some part
  position : shared.position process .pgnoFile = part.length

omit [Digests] [DecidableEq Process] in
/-- Part of a header is not a header. -/
theorem Heading.incomplete {part : Bytes} (heading : Heading process part shared)
    (short : part.length < 12) : ¬HeaderComplete (shared.content .pgnoFile) := by
  rintro ⟨bytes, known, long⟩
  rw [heading.content] at known
  cases known
  omega

/-- Creating the event data, a process becomes its maker and starts with its header. -/
theorem wp_createNew_pgno (lasting : Lasting property) (start : property shared) :
    (FileRequest.send .createNew .pgnoFile).wp (call.setting process)
      (fun answer after => property after ∧ (answer = .ok () → Heading process [] after))
      shared := by
  refine wp_send_shared ?_
  intro moved sees during answer after performed
  have inv : SharedFiles.Inv moved := sees.invariant
  have reached := lasting sees.grows start
  rcases answer with failure | _
  · have kept : after.content .pgnoFile = moved.content .pgnoFile := by
      obtain ⟨-, file, performs, rfl⟩ := performed
      rw [FileRequest.performs_createNew_error performs]
      simp [SharedFiles.touched, SharedFiles.view]
    have leaves : moved.MayLeave process (after.content .pgnoFile) := by
      rw [kept]
      exact inv.mayLeave_same process
    have authors := performed.authors_eq (congrArg wholeFrames kept)
    exact ⟨leaves, Unbegun.performed during performed authors,
      fun _ grows => ⟨lasting grows reached, by rintro ⟨⟩⟩⟩
  · obtain ⟨lock, file, performs, rfl⟩ := id performed
    obtain ⟨missing, rfl⟩ := FileRequest.performs_createNew_ok performs
    have absent : moved.content .pgnoFile = none := missing
    have created : (moved.touched process ⟨.pgnoFile, .createNew⟩ (.ok ()) ⟨some [], 0⟩).content
        .pgnoFile = some [] := by simp [SharedFiles.touched]
    have shape : Shape (some []) [] := .header List.nil_prefix (by decide)
    have none : moved.frames = [] := by rw [SharedFiles.frames, absent]; rfl
    have unmade : moved.maker .pgnoFile = Option.none := by
      have made := inv.made .pgnoFile
      rw [absent] at made
      simpa using made
    have leaves : moved.MayLeave process (some []) := by
      refine ⟨by rw [shape.wholeFrames_eq]; exact shape, Or.inl ?_, ?_, Or.inr (Or.inr ⟨?_, ?_⟩)⟩
      · rw [shape.wholeFrames_eq, none]
      · rintro ⟨bytes, known, -⟩
        rw [absent] at known
        cases known
      · rintro ⟨bytes, known, -⟩
        rw [absent] at known
        cases known
      · rw [unmade]
        rintro other - ⟨⟩
    have authors := performed.authors_eq (by
      rw [SharedFiles.frames, created, shape.wholeFrames_eq, none])
    rw [created]
    refine ⟨leaves, Unbegun.performed during performed authors, ?_⟩
    intro _ grows
    refine ⟨lasting grows reached, fun _ => ⟨?_, created, ?_⟩⟩
    · simp [SharedFiles.touched, absent]
    · simp [SharedFiles.touched]

/-- Event data with part of its header holds no frames. -/
theorem Shape.of_header {part : Bytes} (begins : part <+: ContainerHeader.new.toBytes) :
    Shape (some part) [] := by
  by_cases short : part.length < 12
  · exact .header begins short
  · have whole : part = ContainerHeader.new.toBytes :=
      begins.eq_of_length_le (by rw [ContainerHeader.length_toBytes]; omega)
    have empty : containerBytes [] = ContainerHeader.new.toBytes := by
      simp [containerBytes, framesBytes]
    rw [whole, ← empty]
    exact .clean (List.forall_mem_nil _)

omit [DecidableEq Process] in
/-- What a process relies on while it writes a header. -/
theorem Heading.sees {part : Bytes} {moved : SharedFiles Process}
    (heading : Heading process part shared) (short : part.length < 12)
    (sees : (exclusion Process).Sees process shared moved) : Heading process part moved where
  maker := sees.rely.maker heading.maker
  content := by
    rw [sees.rely.making heading.maker (heading.incomplete short)]
    exact heading.content
  position := by
    rw [sees.rely.position]
    exact heading.position

omit [DecidableEq Process] in
/-- A process may write the header of a file it created. -/
theorem Heading.mayLeave {part more : Bytes} (heading : Heading process part shared)
    (short : part.length < 12) (begins : part <+: ContainerHeader.new.toBytes)
    (further : more <+: ContainerHeader.new.toBytes) : shared.MayLeave process (some more) := by
  have shape := Shape.of_header further
  have before : shared.frames = [] := by
    rw [SharedFiles.frames, heading.content]
    exact (Shape.of_header begins).wholeFrames_eq
  refine ⟨by rw [shape.wholeFrames_eq]; exact shape, Or.inl ?_, ?_, Or.inr (Or.inr ⟨?_, ?_⟩)⟩
  · rw [shape.wholeFrames_eq, before]
  · intro complete
    exact (heading.incomplete short complete).elim
  · exact heading.incomplete short
  · rintro other apart made
    rw [heading.maker] at made
    exact apart (Option.some.inj made).symm

/-- Writing the rest of a header completes it, or fails. -/
theorem wp_writeHeader (lasting : Lasting property) {rounds : Nat} {arrived bytes : Bytes}
    (split : arrived ++ bytes = ContainerHeader.new.toBytes) (start : property shared)
    (heading : Heading process arrived shared) :
    (writeAllLoop .pgnoFile rounds bytes).wp (call.setting process)
      (fun answer after => property after ∧
        (answer = .ok () → HeaderComplete (after.content .pgnoFile))) shared := by
  have length := congrArg List.length split
  rw [List.length_append, ContainerHeader.length_toBytes] at length
  induction rounds generalizing shared arrived bytes with
  | zero =>
      cases bytes with
      | nil => exact ⟨start, fun _ => ⟨arrived, heading.content, by simpa using length.ge⟩⟩
      | cons byte bytes => exact ⟨start, by rintro ⟨⟩⟩
  | succ rounds ih =>
      cases bytes with
      | nil => exact ⟨start, fun _ => ⟨arrived, heading.content, by simpa using length.ge⟩⟩
      | cons byte bytes =>
          have short : arrived.length < 12 := by
            rw [List.length_cons] at length
            omega
          have begins : arrived <+: ContainerHeader.new.toBytes := ⟨byte :: bytes, split⟩
          refine (Program.wp_bind _ _ _ _).mpr (wp_send_shared ?_)
          intro moved sees during answer after performed
          have headed := heading.sees short sees
          have reached := lasting sees.grows start
          have unwritten : moved.frames = [] := by
            rw [SharedFiles.frames, headed.content]
            exact (Shape.of_header begins).wholeFrames_eq
          have view : moved.view process .pgnoFile = ⟨some arrived, arrived.length⟩ := by
            unfold SharedFiles.view
            rw [headed.content, headed.position]
          obtain ⟨lock, file, performs, rfl⟩ := id performed
          have performs : (FileRequest.write (byte :: bytes)).Performs
            ⟨some arrived, arrived.length⟩
              answer file := view ▸ performs
          rcases FileRequest.performs_write_end performs with ⟨failure, rfl, rfl⟩ |
            ⟨count, within, rfl, rfl⟩
          · have kept : (moved.touched process ⟨.pgnoFile, .write (byte :: bytes)⟩ (.error failure)
                ⟨some arrived, arrived.length⟩).content .pgnoFile = some arrived := by
              simp [SharedFiles.touched]
            have authors := performed.authors_eq (by
              rw [SharedFiles.frames, kept, (Shape.of_header begins).wholeFrames_eq, unwritten])
            rw [kept]
            exact ⟨headed.mayLeave short begins begins, Unbegun.performed during performed authors,
              fun _ grows => ⟨lasting grows reached, by rintro ⟨⟩⟩⟩
          · have progress : (arrived ++ (byte :: bytes).take count) ++ (byte :: bytes).drop count =
                ContainerHeader.new.toBytes := by
              rw [List.append_assoc, List.take_append_drop, split]
            have further : arrived ++ (byte :: bytes).take count <+: ContainerHeader.new.toBytes :=
              ⟨_, progress⟩
            have written : (moved.touched process ⟨.pgnoFile, .write (byte :: bytes)⟩ (.ok count)
                ⟨some (arrived ++ (byte :: bytes).take count), arrived.length + count⟩).content
                .pgnoFile = some (arrived ++ (byte :: bytes).take count) := by
              simp [SharedFiles.touched]
            have authors := performed.authors_eq (by
              rw [SharedFiles.frames, written, (Shape.of_header further).wholeFrames_eq, unwritten])
            refine ⟨by rw [written]; exact headed.mayLeave short begins further,
              Unbegun.performed during performed authors, ?_⟩
            intro _ grows
            cases count with
            | zero => exact ⟨lasting grows reached, by rintro ⟨⟩⟩
            | succ count =>
                have total := congrArg List.length progress
                rw [List.length_append, ContainerHeader.length_toBytes] at total
                refine ih progress (lasting grows reached) ⟨grows.maker headed.maker, written, ?_⟩
                  total
                rw [List.length_append, List.length_take_of_le within]
                simp [SharedFiles.touched]

omit [Digests] in
/-- What is calm is steady. -/
theorem FileOp.isSteady_of_isCalm {name : FileName} {request : FileRequest}
    (calm : request.isCalm = true) : (⟨name, request⟩ : FileOp).IsSteady := by
  refine ⟨?_, ?_, ?_⟩
  · rintro rfl
    cases calm
  · rintro rfl
    cases calm
  · rintro rfl
    cases calm

/-- A process that holds the lock on complete event data of a known content. -/
structure Owning (process : Process) (content : Bytes) (shared : SharedFiles Process) : Prop where
  holder : shared.holder = some process
  stands : shared.content .pgnoFile = some content
  long : 12 ≤ content.length

omit [DecidableEq Process] in
/-- A process goes on owning what it owns as others move. -/
theorem Owning.sees {content : Bytes} {moved : SharedFiles Process}
    (owning : Owning process content shared)
    (sees : (exclusion Process).Sees process shared moved) :
    Owning process content moved where
  holder := sees.rely.holder.mpr owning.holder
  stands := by
    rw [sees.rely.locked owning.holder ⟨content, owning.stands, owning.long⟩]
    exact owning.stands
  long := owning.long

/-- Reading undisturbed event data. -/
theorem wp_undisturbed_reading (lasting : Lasting property) {content : Bytes} {α : Type}
    {program : Program fileOperations α} {post : α → FileWorld → Prop}
    (only : program.Only FileOp.IsSteady) (start : property shared)
    (owning : Owning process content shared)
    (holds : program.wp (honouring Eq) post (shared.view process)) :
    program.wp (call.setting process) (fun value after => post value (after.view process) ∧
      property after ∧ Owning process content after) shared := by
  let Kept (moved : SharedFiles Process) : Prop := property moved ∧ Owning process content moved
  refine wp_undisturbed Kept ?_ ?_ ?_ only ⟨start, owning⟩ holds
  · rintro before ⟨-, owning⟩
    exact ⟨owning.holder, content, owning.stands, owning.long⟩
  · rintro before after sees ⟨reached, owning⟩
    exact ⟨lasting sees.grows reached, owning.sees sees⟩
  · rintro op before answer after steady inv during ⟨reached, owning⟩ performed same
    have authors := performed.authors_eq (congrArg wholeFrames same.symm)
    refine ⟨by rw [← same]; exact inv.mayLeave_same process,
      Unbegun.performed during performed authors, fun grows => ⟨lasting grows reached, ?_⟩⟩
    refine ⟨?_, same.symm.trans owning.stands, owning.long⟩
    obtain ⟨-, file, -, rfl⟩ := performed
    exact (SharedFiles.holderAfter_steady steady).trans owning.holder

/-- Opening a writer over locked event data derives its state from all the frames. -/
theorem wp_openWriter_shared (lasting : Lasting property) {engine : FileEngine}
    {frames : List Bytes} (opened : engine.file = true) (locked : engine.locked = true)
    (start : property shared) (shape : Shape (shared.content .pgnoFile) frames)
    (holder : shared.holder = some process)
    (complete : HeaderComplete (shared.content .pgnoFile)) :
    Store.openWriter.wp (call.setting process) (fun outcome _ after => property after ∧
      ∀ store, outcome = .ok store → ∃ frames, SessionOver process store frames [] after)
      engine shared := by
  obtain ⟨tail, stands, ends⟩ := shape.of_complete complete
  have fits := shape.fits
  have owning : Owning process (containerBytes frames ++ tail) shared :=
    ⟨holder, stands, by simp [containerBytes]⟩
  have recovers : Store.openWriter.wp (honouring Eq) (fun outcome _ _ => ∀ store,
      outcome = .ok store → tail = [] ∧ store.engine.file = true ∧ store.engine.locked = true ∧
        store.DerivedFrom frames) engine (shared.view process) := by
    rcases ends with rfl | ⟨nonempty, overruns⟩
    · rw [List.append_nil] at stands
      refine FileEngine.wp_openWriter opened fits stands ?_ ?_
      · rintro failure after later - store ⟨⟩
      · rintro index after built - store ⟨⟩
        exact ⟨rfl, opened, locked, built, rfl⟩
    · refine FileEngine.wp_openWriter_torn opened fits nonempty overruns stands ?_
      rintro failure after later store ⟨⟩
  have only := FileEngine.openWriter_only (fun _ calm => FileOp.isSteady_of_isCalm calm) engine
  refine Program.wp_mono (wp_undisturbed_reading lasting only start owning recovers) ?_
  rintro ⟨outcome, engine⟩ after ⟨recovered, reached, owning⟩
  refine ⟨reached, ?_⟩
  rintro store rfl
  obtain ⟨rfl, file, held, derived⟩ := recovered store rfl
  exact ⟨frames, owning.holder, file, held, owning.stands, fits, derived⟩

/-- What a process does with event data that it created: the header, the lock, and a
writer over whatever is there by then. -/
theorem wp_newEventData (lasting : Lasting property) {engine : FileEngine}
    {policy : FileExclusionPolicy} {headerCondition syncCondition : FailureCondition}
    {headerDetail syncDetail : String} (opened : engine.file = true) (locked : engine.locked = true)
    (start : property shared) (heading : Heading process [] shared) :
    (do
      orRefuse (writeAll .pgnoFile ContainerHeader.new.toBytes) headerCondition headerDetail
      orRefuse (FileRequest.send .syncData .pgnoFile) syncCondition syncDetail
      acquireFileExclusion policy
      Action.within engine Store.openWriter :
        Action fileOperations OperationFailure σ (Store FileEngine)).wp (call.setting process)
      (fun outcome _ after => ∀ store, outcome = .ok store → property after ∧
        ∃ frames, SessionOver process store frames [] after) state shared := by
  have complete : Lasting fun shared : SharedFiles Process => property shared ∧
      HeaderComplete (shared.content .pgnoFile) := by
    rintro before after grows ⟨reached, complete⟩
    exact ⟨lasting grows reached, grows.complete complete⟩
  have syncs : (FileRequest.send .syncData .pgnoFile).Only FileOp.IsCalm := only_send (Or.inr rfl)
  rw [Action.wp_bind]
  refine wp_orRefuse.mpr (Program.wp_mono
    (wp_writeHeader lasting (List.nil_append _) start heading) ?_)
  rintro (failure | _) first ⟨reached, written⟩
  · rintro store ⟨⟩
  dsimp only [Except.mapError]
  rw [Action.wp_bind]
  refine wp_orRefuse.mpr (Program.wp_mono
    (wp_calm_lasting complete syncs ⟨reached, written rfl⟩) ?_)
  rintro (failure | _) second headed
  · rintro store ⟨⟩
  dsimp only [Except.mapError]
  rw [Action.wp_bind]
  refine Action.wp_mono (wp_acquireFileExclusion_shared complete headed) ?_
  rintro (failure | _) _ third ⟨⟨reached, whole⟩, lock⟩
  · rintro store ⟨⟩
  obtain ⟨holder, inv⟩ := lock rfl
  rw [Action.wp_within]
  refine Action.wp_mono (wp_openWriter_shared lasting opened locked reached inv.shape holder
    whole) ?_
  rintro outcome after final ⟨reached, session⟩ store is
  exact ⟨reached, session store is⟩

end Opening

section Calls

variable [Digests] {Process : Type} [DecidableEq Process] {process : Process} {call : OpeningCall}
  {shared : SharedFiles Process} {adapter : FileStorageAdapter} {σ : Type} {state : σ}

omit [Digests] [DecidableEq Process] in
/-- Looking for the files is calm. -/
theorem FileStorageAdapter.tryPresence_calm (adapter : FileStorageAdapter) (state : σ) :
    (adapter.tryPresence state).Only FileOp.IsCalm :=
  adapter.tryPresence_only (fun _ => Or.inr rfl) state

omit [DecidableEq Process] in
/-- Reading the records is calm. -/
theorem readMetaRecords_calm (state : σ) : (readMetaRecords state).Only FileOp.IsCalm :=
  readMetaRecords_only (fun _ _ => Or.inl rfl) state

omit [DecidableEq Process] in
/-- What always holds lasts. -/
theorem lasting_true : Lasting fun _ : SharedFiles Process => True := fun _ _ => trivial

omit [DecidableEq Process] in
/-- Who created a file lasts. -/
theorem lasting_maker (name : FileName) (process : Process) :
    Lasting fun shared : SharedFiles Process => shared.maker name = some process :=
  fun grows made => grows.maker made

/-- The first half of a creation succeeds only for the maker of the ownership
record. -/
theorem FileStorageAdapter.wp_createOwnershipRecord_shared {claim : OwnershipClaimRecord}
    {descriptor : AdmittedDescriptor} {maxWireLen : Nat} :
    (adapter.createOwnershipRecord claim descriptor maxWireLen).wp (call.setting process)
      (fun outcome _ after => outcome = .ok () → after.maker .metaFile = some process)
      state shared := by
  have frame : ∀ payload what, (writeMetaFrame payload what :
      Action fileOperations OperationFailure σ Unit).Only FileOp.IsCalm := by
    intro payload what
    refine Action.only_bind (Action.only_ofExcept _) fun bytes => ?_
    exact only_orRefuse (writeAllLoop_only (fun _ => Or.inl rfl) _ _)
  unfold createOwnershipRecord
  rw [Action.wp_bind]
  refine Program.wp_mono (wp_calm_lasting lasting_true (adapter.tryPresence_calm state) trivial) ?_
  rintro ⟨failure | presence, _⟩ first -
  · rintro ⟨⟩
  dsimp only
  rw [Action.wp_bind, Action.wp_ofExcept]
  cases admitCreate presence with
  | error failure => rintro ⟨⟩
  | ok =>
      dsimp only
      rw [Action.wp_bind, Action.wp_ofExcept]
      cases computeClaimWireLenBounded (utf8Bytes claim.operatorLabel.val).length maxWireLen with
      | error failure => rintro ⟨⟩
      | ok len =>
          dsimp only
          rw [Action.wp_bind, Action.wp_lift]
          refine Program.wp_mono wp_createNew_meta ?_
          rintro (failure | _) second made
          · rintro ⟨⟩
          dsimp only
          rw [Action.wp_bind, Action.wp_ofExcept]
          dsimp only [Except.mapError]
          refine Program.wp_mono
            (wp_calm_lasting (lasting_maker .metaFile process) ?_ (made rfl)) ?_
          · refine Action.only_bind (only_orRefuse (writeAllLoop_only (fun _ => Or.inl rfl) _ _))
              (fun _ => ?_) _
            refine Action.only_bind (frame _ _) fun _ => ?_
            refine Action.only_bind (frame _ _) fun _ => ?_
            exact only_orRefuse (only_send (Or.inl rfl))
          · rintro ⟨outcome, _⟩ after kept _
            exact kept

/-- What an opening call owes when it hands out a session. -/
def HandsOut (process : Process) (property : SharedFiles Process → Prop)
    (outcome : Except OperationFailure (Store FileEngine)) (after : SharedFiles Process) : Prop :=
  ∀ store, outcome = .ok store → property after ∧
    ∃ frames, SessionOver process store frames [] after

omit [DecidableEq Process] in
/-- A refusal hands out nothing. -/
theorem handsOut_error {property : SharedFiles Process → Prop} {failure : OperationFailure}
    {after : SharedFiles Process} : HandsOut process property (.error failure) after := by
  rintro store ⟨⟩

variable {property : SharedFiles Process → Prop}

/-- The second half of a creation. -/
theorem FileStorageAdapter.wp_createEventData_shared (lasting : Lasting property)
    {claim : OwnershipClaimRecord} (start : property shared) :
    (adapter.createEventData claim).wp (call.setting process)
      (fun outcome _ after => HandsOut process property outcome after) state shared := by
  unfold createEventData
  rw [Action.wp_bind, Action.wp_lift]
  refine Program.wp_mono (wp_createNew_pgno lasting start) ?_
  rintro (failure | _) first ⟨reached, heading⟩
  · exact handsOut_error
  dsimp only
  rw [Action.wp_bind, Action.wp_ofExcept]
  exact wp_newEventData lasting rfl rfl reached (heading rfl)

/-- A creation. -/
theorem FileStorageAdapter.wp_createWithLimit_shared {claim : OwnershipClaimRecord}
    {descriptor : AdmittedDescriptor} {maxWireLen : Nat} :
    (adapter.createWithLimit claim descriptor maxWireLen).wp (call.setting process)
      (fun outcome _ after => HandsOut process (fun shared => shared.maker .metaFile = some process)
        outcome after) state shared := by
  unfold createWithLimit
  rw [Action.wp_bind]
  refine Action.wp_mono adapter.wp_createOwnershipRecord_shared ?_
  rintro (failure | _) between first made
  · exact handsOut_error
  exact adapter.wp_createEventData_shared (lasting_maker .metaFile process) (made rfl)

omit [DecidableEq Process] in
/-- The descriptor check is calm. -/
theorem FileStorageAdapter.requireDescriptor_calm (records : MetaRecords) (state : σ) :
    (requireDescriptor records state).Only FileOp.IsCalm := by
  refine Action.only_bind (Action.only_require _ _) (fun _ => ?_) state
  exact Action.only_bind (Action.only_ofExcept _) fun _ => Action.only_pure _

/-- The completion of a creation. -/
theorem FileStorageAdapter.wp_completeCreation_shared {claim : OwnershipClaimRecord} :
    (adapter.completeCreation claim).wp (call.setting process)
      (fun outcome _ after => HandsOut process (fun _ => True) outcome after) state shared := by
  unfold completeCreation
  rw [Action.wp_bind]
  refine Program.wp_mono (wp_calm_lasting lasting_true (adapter.tryPresence_calm state) trivial) ?_
  rintro ⟨failure | presence, state⟩ first -
  · exact handsOut_error
  cases presence with
  | none => rintro store ⟨⟩
  | eventDataOnly => rintro store ⟨⟩
  | both => rintro store ⟨⟩
  | ownershipRecordOnly =>
      dsimp only
      rw [Action.wp_bind]
      refine Program.wp_mono (wp_calm_lasting lasting_true (readMetaRecords_calm state) trivial) ?_
      rintro ⟨failure | records, state⟩ second -
      · exact handsOut_error
      dsimp only
      rw [Action.wp_bind]
      refine Program.wp_mono
        (wp_calm_lasting lasting_true (requireDescriptor_calm records state) trivial) ?_
      rintro ⟨failure | _, state⟩ third -
      · exact handsOut_error
      dsimp only
      rw [Action.wp_bind, Action.wp_require]
      cases records.latestClaim with
      | none => exact handsOut_error
      | some durableClaim =>
          dsimp only
          rw [Action.wp_bind, Action.wp_refuseIf]
          split_ifs with other
          · exact handsOut_error
          dsimp only
          rw [Action.wp_bind, Action.wp_lift]
          refine Program.wp_mono (wp_createNew_pgno lasting_true trivial) ?_
          rintro (failure | _) fourth ⟨-, heading⟩
          · rintro store ⟨⟩
          dsimp only
          rw [Action.wp_bind, Action.wp_ofExcept]
          exact wp_newEventData lasting_true rfl rfl trivial (heading rfl)

/-- A scan under the lock fails, or finds the bytes that are there; from then on they
stay. -/
theorem wp_readContainerFrames_shared (holder : shared.holder = some process) :
    (readContainerFrames .pgnoFile).wp (call.setting process) (fun outcome _ after =>
      ∀ scan, outcome = .ok scan → ∃ content, Owning process content after ∧
        scanContainer content = .ok scan) state shared := by
  simp only [readContainerFrames, Action.wp_bind, Action.wp_refuseIf]
  refine wp_send_calm (Or.inr rfl) ?_
  rintro moved first (failure | position) sees performed same
  · rintro scan ⟨⟩
  have atStart : first.position process .pgnoFile = 0 := by
    obtain ⟨-, file, performs, rfl⟩ := performed
    have moved := FileRequest.performs_seekStart_ok performs
    simpa [SharedFiles.touched] using moved
  have holderFirst : first.holder = some process := same.holder.trans (sees.rely.holder.mpr holder)
  refine wp_send_calm (Or.inr rfl) ?_
  rintro moved second (failure | len) sees performed same
  · rintro scan ⟨⟩
  have holderSecond : second.holder = some process :=
    same.holder.trans (sees.rely.holder.mpr holderFirst)
  have measured : second.position process .pgnoFile = 0 ∧
      ∃ content, second.content .pgnoFile = some content ∧ len = content.length := by
    obtain ⟨-, file, performs, rfl⟩ := performed
    obtain ⟨rfl, content, known, rfl⟩ := FileRequest.performs_metadataLen_ok performs
    refine ⟨?_, content, ?_, rfl⟩
    · simpa [SharedFiles.touched, SharedFiles.view, sees.rely.position] using atStart
    · exact same.content.trans known
  obtain ⟨stillAtStart, content, stands, rfl⟩ := measured
  dsimp only [Except.mapError]
  split_ifs with short
  · rintro scan ⟨⟩
  have owning : Owning process content second := ⟨holderSecond, stands, Nat.le_of_not_lt short⟩
  refine wp_send_calm (Or.inr rfl) ?_
  rintro moved third (failure | buf) sees performed same
  · rintro scan ⟨⟩
  have owningMoved := owning.sees sees
  have read : buf = content := by
    obtain ⟨-, file, performs, rfl⟩ := performed
    have view : moved.view process .pgnoFile = ⟨some content, 0⟩ := by
      unfold SharedFiles.view
      rw [owningMoved.stands, sees.rely.position, stillAtStart]
    exact FileRequest.performs_readToEnd_ok (view ▸ performs)
  subst read
  dsimp only [Except.mapError]
  rw [if_neg (by simp)]
  intro scan scanned
  exact ⟨buf, ⟨same.holder.trans owningMoved.holder, same.content.trans owningMoved.stands,
    owning.long⟩, scanned⟩

omit [Digests] in
/-- Reconciliation takes no lock and creates nothing. -/
theorem reconcileTailState_only {allowed : fileOperations.Op → Prop} (scan : ContainerScan)
    (permits : ∀ request : FileRequest, (⟨.pgnoFile, request⟩ : FileOp).IsSteady →
      allowed (⟨.pgnoFile, request⟩ : FileOp)) :
    (reconcileTailState scan : Action fileOperations OperationFailure σ _).Only allowed := by
  unfold reconcileTailState
  split
  · refine Action.only_bind (only_orRefuse (only_send (permits _ ?_))) fun _ => Action.only_pure _
    exact FileOp.isSteady_of_isCalm rfl
  · rename_i info _
    refine Action.only_bind (only_orRefuse (only_send (permits (.setLen info.validLen) ?_)))
      fun _ => ?_
    · exact ⟨nofun, nofun, nofun⟩
    refine Action.only_bind (only_orRefuse (only_send (permits .syncData ?_))) fun _ => ?_
    · exact FileOp.isSteady_of_isCalm rfl
    refine Action.only_bind (only_orRefuse (only_send (permits (.seekStart info.validLen) ?_)))
      fun _ => Action.only_pure _
    exact FileOp.isSteady_of_isCalm rfl

/-- The event data stays, or is cut to the given bytes. -/
def cutting (whole : Bytes) (before after : Option Bytes) : Prop :=
  after = before ∨ after = some whole

omit [Digests] in
instance cutting_refl (whole : Bytes) : Std.Refl (cutting whole) := ⟨fun _ => Or.inl rfl⟩

/-- Reconciliation under the lock leaves the whole frames and nothing behind them, or
fails. -/
theorem wp_reconcileTailState_shared {content : Bytes} {scan : ContainerScan}
    (scanned : scanContainer content = .ok scan) (owning : Owning process content shared) :
    (reconcileTailState scan).wp (call.setting process) (fun outcome _ after =>
      ∀ recovered, outcome = .ok recovered →
        Shape (after.content .pgnoFile) scan.frames ∧ after.holder = some process ∧
          HeaderComplete (after.content .pgnoFile)) state shared := by
  obtain ⟨payloads, rest, fits, split, rfl, valid, -⟩ := scanContainer_ok scanned
  have shortened : content.take scan.validLen = containerBytes scan.frames := by
    rw [split, valid, List.take_left]
  have long : 12 ≤ (containerBytes scan.frames).length := by simp [containerBytes]
  let Kept (moved : SharedFiles Process) : Prop := moved.holder = some process ∧
    (moved.content .pgnoFile = some content ∨
      moved.content .pgnoFile = some (containerBytes scan.frames))
  have complete : ∀ {moved}, Kept moved → HeaderComplete (moved.content .pgnoFile) := by
    rintro moved ⟨-, whole | cut⟩
    · exact ⟨content, whole, owning.long⟩
    · exact ⟨_, cut, long⟩
  have frames : ∀ {moved}, Kept moved → moved.frames = scan.frames := by
    rintro moved ⟨-, whole | cut⟩
    · rw [SharedFiles.frames, whole]
      simp only [wholeFrames, scanned]
    · rw [SharedFiles.frames, cut]
      exact (Shape.clean fits).wholeFrames_eq
  have reconciles : (reconcileTailState scan).wp
      (honouring (cutting (containerBytes scan.frames))) (fun outcome _ later =>
      ∀ recovered, outcome = .ok recovered →
        (later .pgnoFile).content = some (containerBytes scan.frames)) state
      (shared.view process) := by
    have stands : (shared.view process .pgnoFile).content = some content := owning.stands
    refine wp_reconcileTailState scanned stands ?_ ?_ ?_
    · rw [shortened]
      exact Or.inr rfl
    · rintro failure after - recovered ⟨⟩
    · intro outcome after left recovered _
      rw [← shortened]
      exact left
  have only := reconcileTailState_only scan (fun _ steady => steady) state
  refine Program.wp_mono (wp_undisturbed Kept ?_ ?_ ?_ only ⟨owning.holder, Or.inl owning.stands⟩
    reconciles) ?_
  · intro before kept
    exact ⟨kept.1, complete kept⟩
  · intro before after sees kept
    refine ⟨sees.rely.holder.mpr kept.1, ?_⟩
    rw [sees.rely.locked kept.1 (complete kept)]
    exact kept.2
  · rintro op before answer after steady inv during kept performed (same | cut)
    · have authors := performed.authors_eq (congrArg wholeFrames same)
      refine ⟨by rw [same]; exact inv.mayLeave_same process,
        Unbegun.performed during performed authors, fun _ => ⟨?_, by rw [same]; exact kept.2⟩⟩
      obtain ⟨-, file, -, rfl⟩ := performed
      exact (SharedFiles.holderAfter_steady steady).trans kept.1
    · have shape : Shape (after.content .pgnoFile) scan.frames := cut ▸ Shape.clean fits
      have left : after.frames = before.frames := shape.wholeFrames_eq.trans (frames kept).symm
      refine ⟨⟨shape.wholeFrames_eq ▸ shape, Or.inl left, fun _ => ⟨_, cut, long⟩,
        Or.inr (Or.inl ⟨kept.1, complete kept⟩)⟩,
        Unbegun.performed during performed (performed.authors_eq left), fun _ => ⟨?_, Or.inr cut⟩⟩
      obtain ⟨-, file, -, rfl⟩ := performed
      exact (SharedFiles.holderAfter_steady steady).trans kept.1
  · rintro ⟨outcome, _⟩ after ⟨left, kept⟩ recovered is
    have stands : after.content .pgnoFile = some (containerBytes scan.frames) := left recovered is
    exact ⟨stands ▸ Shape.clean fits, kept.1, complete kept⟩

omit [DecidableEq Process] in
/-- So are the checks of the records. -/
theorem FileStorageAdapter.admitRecords_calm (records : MetaRecords) (carriedEpoch : UInt64)
    (state : σ) : (admitRecords records carriedEpoch state).Only FileOp.IsCalm := by
  refine Action.only_bind (Action.only_refuseIf _ _) (fun _ => ?_) state
  refine Action.only_bind (requireDescriptor_calm records) fun _ => ?_
  exact Action.only_bind (Action.only_require _ _) fun _ => Action.only_refuseIf _ _

/-- With the lock taken, an opening reconciles the event data and opens a writer over
all the frames that are left. -/
theorem FileStorageAdapter.wp_openLocked_shared {carriedEpoch : UInt64}
    (holder : shared.holder = some process) :
    (adapter.openLocked carriedEpoch).wp (call.setting process)
      (fun outcome _ after => HandsOut process (fun _ => True) outcome after) state shared := by
  unfold openLocked
  rw [Action.wp_bind]
  refine Program.wp_mono (wp_calm_holder (readMetaRecords_calm state) holder) ?_
  rintro ⟨failure | records, state⟩ first holder
  · exact handsOut_error
  dsimp only
  rw [Action.wp_bind]
  refine Program.wp_mono (wp_calm_holder (admitRecords_calm records carriedEpoch state) holder) ?_
  rintro ⟨failure | _, state⟩ second holder
  · exact handsOut_error
  dsimp only
  rw [Action.wp_bind, scanAndReconcile, Action.wp_bind]
  refine Action.wp_mono (wp_readContainerFrames_shared holder) ?_
  rintro (failure | scan) state third scans
  · exact handsOut_error
  obtain ⟨content, owning, scanned⟩ := scans scan rfl
  dsimp only
  rw [Action.wp_bind]
  refine Action.wp_mono (wp_reconcileTailState_shared scanned owning) ?_
  rintro (failure | recovered) state fourth reconciled
  · exact handsOut_error
  obtain ⟨shape, holder, complete⟩ := reconciled recovered rfl
  simp only [Action.wp_pure, Action.wp_within]
  refine Action.wp_mono (wp_openWriter_shared lasting_true rfl rfl trivial shape holder complete) ?_
  rintro outcome after final ⟨-, session⟩ store is
  exact ⟨trivial, session store is⟩

/-- Opening for writing. -/
theorem FileStorageAdapter.wp_openWrite_shared {carriedEpoch : UInt64} :
    (adapter.openWrite carriedEpoch).wp (call.setting process)
      (fun outcome _ after => HandsOut process (fun _ => True) outcome after) state shared := by
  unfold openWrite checkOpenWritePresence
  rw [Action.wp_bind, Action.wp_bind]
  refine Program.wp_mono (wp_calm_lasting lasting_true (adapter.tryPresence_calm state) trivial) ?_
  rintro ⟨failure | presence, state⟩ first -
  · exact handsOut_error
  cases presence with
  | none => rintro store ⟨⟩
  | eventDataOnly => rintro store ⟨⟩
  | ownershipRecordOnly =>
      dsimp only
      rw [Action.wp_bind]
      refine Program.wp_mono (wp_calm_lasting lasting_true (readMetaRecords_calm state) trivial) ?_
      rintro ⟨failure | records, state⟩ second -
      · exact handsOut_error
      simp only [Action.wp_bind, Action.wp_refuseIf, Action.wp_require]
      split_ifs with retired
      · exact handsOut_error
      cases records.latestClaim with
      | none => exact handsOut_error
      | some claim =>
          dsimp only
          split_ifs with stale
          · exact handsOut_error
          refine Action.wp_mono adapter.wp_completeCreation_shared ?_
          rintro (failure | store) state third handsOut
          · exact handsOut_error
          · exact handsOut
  | both =>
      dsimp only
      rw [Action.wp_pure]
      dsimp only
      rw [Action.wp_bind]
      refine wp_orRefuse.mpr (wp_send_calm (Or.inr rfl) ?_)
      rintro - second (failure | _) - - -
      · exact handsOut_error
      dsimp only [Except.mapError]
      rw [Action.wp_bind]
      refine Action.wp_mono (wp_acquireFileExclusion_shared lasting_true trivial) ?_
      rintro (failure | _) state third ⟨-, lock⟩
      · exact handsOut_error
      exact adapter.wp_openLocked_shared (lock rfl).1

/-- Whatever call opens the artefact, a session it hands out holds the lock and is
derived from all the frames that are there. -/
theorem OpeningCall.wp_perform (call : OpeningCall) :
    call.perform.wp (call.setting process)
      (fun outcome _ after => HandsOut process (Won process call) outcome after) () shared := by
  cases call with
  | createWithLimit adapter initialClaim descriptor maxWireLen =>
      refine Action.wp_mono adapter.wp_createWithLimit_shared ?_
      intro outcome _ after handsOut store is
      exact (handsOut store is).imp_left fun made _ => made
  | completeCreation adapter claim =>
      refine Action.wp_mono adapter.wp_completeCreation_shared ?_
      intro outcome _ after handsOut store is
      exact (handsOut store is).imp_left fun _ => nofun
  | openWrite adapter carriedEpoch =>
      refine Action.wp_mono adapter.wp_openWrite_shared ?_
      intro outcome _ after handsOut store is
      exact (handsOut store is).imp_left fun _ => nofun

end Calls

end Pardosa
