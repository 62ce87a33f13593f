import Pardosa.Foundation.Concurrent
import Pardosa.File.Quiet

/-!
# Files shared by processes

The two files of an artefact as several processes see them: the bytes are shared,
every process has the positions of its own handles, and at most one of them holds
the lock on the event data. Three further fields are for the record only and no
operation looks at them: who created each file, which payloads each process has
begun to append, and which of these appends wrote each frame.
-/

namespace Pardosa

open Foundation

variable [Digests]

/-- The event data shows these whole frames: it is missing, ends inside its header,
or ends with a frame or inside one. -/
inductive Shape : Option Bytes → List Bytes → Prop where
  | missing : Shape none []
  | header {part : Bytes} (begins : part <+: ContainerHeader.new.toBytes)
    (short : part.length < 12) :
      Shape (some part) []
  | container {frames : List Bytes} {tail : Bytes} (payload : Bytes)
      (fits : ∀ frame ∈ frames, frame.length ≤ u32Max) (payloadFits : payload.length ≤ u32Max)
      (begins : tail <+: ContainerFrame.frameBytes payload)
      (unfinished : tail ≠ ContainerFrame.frameBytes payload) :
      Shape (some (containerBytes frames ++ tail)) frames

/-- The whole frames of the event data. -/
def wholeFrames : Option Bytes → List Bytes
  | none => []
  | some bytes => match scanContainer bytes with
    | .ok scan => scan.frames
    | .error _ => []

/-- The event data has all of its header. -/
def HeaderComplete (content : Option Bytes) : Prop :=
  ∃ bytes, content = some bytes ∧ 12 ≤ bytes.length

/-- Event data without a whole header is not scanned. -/
theorem scanContainer_short {part : Bytes} (short : part.length < 12) {scan : ContainerScan} :
    scanContainer part ≠ .ok scan := by
  intro scanned
  obtain ⟨payloads, rest, -, rfl, -⟩ := scanContainer_ok scanned
  rw [containerBytes, List.length_append, List.length_append, ContainerHeader.length_toBytes]
    at short
  omega

/-- A frame that is begun and not finished overruns its bytes. -/
theorem overruns_of_begun {tail payload : Bytes} (fits : payload.length ≤ u32Max)
    (begins : tail <+: ContainerFrame.frameBytes payload)
    (unfinished : tail ≠ ContainerFrame.frameBytes payload) : ContainerFrame.Overruns tail := by
  obtain ⟨rest, split⟩ := begins
  refine overruns_of_partial_frame fits split.symm ?_
  rintro rfl
  rw [List.append_nil] at split
  exact unfinished split

namespace Shape

variable {content : Option Bytes} {frames : List Bytes}

/-- A complete container, with nothing behind its frames. -/
theorem clean (fits : ∀ frame ∈ frames, frame.length ≤ u32Max) :
    Shape (some (containerBytes frames)) frames := by
  have none : ([] : Bytes) ≠ ContainerFrame.frameBytes [] :=
    (ContainerFrame.frameBytes_ne_nil []).symm
  have shape := Shape.container [] fits (Nat.zero_le u32Max) List.nil_prefix none
  rwa [List.append_nil] at shape

/-- Event data of a shape has the whole frames of that shape. -/
theorem wholeFrames_eq (shape : Shape content frames) : wholeFrames content = frames := by
  cases shape with
  | missing => rfl
  | @header part begins short =>
      cases scanned : scanContainer part with
      | ok scan => exact (scanContainer_short short scanned).elim
      | error failure => simp only [wholeFrames, scanned]
  | @container _ tail payload fits payloadFits begins unfinished =>
      by_cases nothing : tail = []
      · simp only [wholeFrames, nothing, List.append_nil, scanContainer_clean fits]
      · simp only [wholeFrames, scanContainer_torn fits nothing
          (overruns_of_begun payloadFits begins unfinished)]

/-- Whole frames fit. -/
theorem fits (shape : Shape content frames) : ∀ frame ∈ frames, frame.length ≤ u32Max := by
  cases shape with
  | missing => exact List.forall_mem_nil _
  | header => exact List.forall_mem_nil _
  | container payload fits => exact fits

/-- With all of its header, the event data is a container. -/
theorem of_complete (shape : Shape content frames) (complete : HeaderComplete content) :
    ∃ tail, content = some (containerBytes frames ++ tail) ∧
      (tail = [] ∨ tail ≠ [] ∧ ContainerFrame.Overruns tail) := by
  obtain ⟨bytes, known, long⟩ := complete
  cases shape with
  | missing => cases known
  | header begins short =>
      cases known
      omega
  | @container _ tail payload fits payloadFits begins unfinished =>
      refine ⟨tail, rfl, ?_⟩
      by_cases nothing : tail = []
      · exact Or.inl nothing
      · exact Or.inr ⟨nothing, overruns_of_begun payloadFits begins unfinished⟩

end Shape

/-- The files of an artefact as processes share them. -/
structure SharedFiles (Process : Type) where
  content : FileName → Option Bytes
  position : Process → FileName → Nat
  /-- The process that holds the lock on the event data. -/
  holder : Option Process
  /-- For the record: the process that created a file. -/
  maker : FileName → Option Process
  /-- For the record: the payloads that a process has begun to append. -/
  begun : Process → List Bytes
  /-- For the record: whose append, and which of them, wrote each whole frame. -/
  authors : List (Process × Nat)

namespace SharedFiles

variable {Process : Type} [DecidableEq Process]

/-- The files as one process sees them. -/
def view (shared : SharedFiles Process) (process : Process) : FileWorld :=
  fun name => ⟨shared.content name, shared.position process name⟩

/-- The whole frames of the event data. -/
def frames (shared : SharedFiles Process) : List Bytes := wholeFrames (shared.content .pgnoFile)

/-- An operation that was answered by handing out the lock on the event data. -/
def TakesLock (op : FileOp) (answer : op.request.Res) : Prop :=
  match op, answer with
  | ⟨.pgnoFile, .tryLock⟩, .ok () => True
  | _, _ => False

/-- Who holds the lock after an operation. -/
def holderAfter (holder : Option Process) (process : Process) (op : FileOp)
    (answer : op.request.Res) : Option Process :=
  match op, answer with
  | ⟨.pgnoFile, .tryLock⟩, .ok () => some process
  | ⟨.pgnoFile, .unlock⟩, .ok () => if holder = some process then none else holder
  | _, _ => holder

/-- The files after an operation of a process that left the file it was about in a
given state. -/
def touched (shared : SharedFiles Process) (process : Process) (op : FileOp)
    (answer : op.request.Res) (file : FileState) : SharedFiles Process :=
  let content := Function.update shared.content op.name file.content
  { content
    position := Function.update shared.position process
      (Function.update (shared.position process) op.name file.position)
    holder := holderAfter shared.holder process op answer
    maker := if (shared.content op.name).isNone && file.content.isSome then
        Function.update shared.maker op.name (some process)
      else shared.maker
    begun := shared.begun
    authors := if shared.frames.length < (wholeFrames (content .pgnoFile)).length then
        shared.authors ++ [(process, (shared.begun process).length - 1)]
      else shared.authors }

/-- What an operation of a process may answer and do: what it may do to its file,
and the lock is handed out to nobody while another process holds it. -/
def Performs (process : Process) (op : FileOp) (before : SharedFiles Process)
    (answer : op.request.Res) (after : SharedFiles Process) : Prop :=
  (TakesLock op answer → before.holder = none ∨ before.holder = some process) ∧
    ∃ file, op.request.Performs (before.view process op.name) answer file ∧
      after = before.touched process op answer file

/-- The files once a process has let go of its handle. -/
def released (shared : SharedFiles Process) (process : Process) : SharedFiles Process :=
  { shared with holder := if shared.holder = some process then none else shared.holder }

/-- The files once a process has begun to append a payload. -/
def appending (shared : SharedFiles Process) (process : Process) (payload : Bytes) :
    SharedFiles Process :=
  { shared with
    begun := Function.update shared.begun process (shared.begun process ++ [payload]) }

/-- Other programs rewrite the ownership record. -/
def Rewrites (before after : SharedFiles Process) : Prop :=
  (before.content .metaFile).isSome = true ∧ ∃ bytes,
    after = { before with content := Function.update before.content .metaFile (some bytes) }

/-- A process sees the file it touched, and the others as they were. -/
theorem view_touched (shared : SharedFiles Process) (process : Process) (op : FileOp)
    (answer : op.request.Res) (file : FileState) :
    (shared.touched process op answer file).view process =
      Function.update (shared.view process) op.name file := by
  funext name
  by_cases same : name = op.name
  · subst same
    simp [view, touched]
  · simp [view, touched, Function.update_of_ne same]

/-- What holds of shared files at any time: the event data has its shape, every
file has a maker, and every whole frame was written by one begun append. -/
structure Inv (shared : SharedFiles Process) : Prop where
  shape : Shape (shared.content .pgnoFile) shared.frames
  made : ∀ name, (shared.maker name).isSome = (shared.content name).isSome
  credited : shared.authors.length = shared.frames.length
  written : ∀ {place : Nat} {process : Process} {number : Nat},
    shared.authors[place]? = some (process, number) →
    (shared.begun process)[number]? = shared.frames[place]?
  once : shared.authors.Nodup

/-- How shared files may change at all. -/
structure Grows (before after : SharedFiles Process) : Prop where
  maker : ∀ {name process}, before.maker name = some process → after.maker name = some process
  complete : HeaderComplete (before.content .pgnoFile) → HeaderComplete (after.content .pgnoFile)
  frames : before.frames <+: after.frames
  authors : before.authors <+: after.authors
  begun : ∀ process, before.begun process <+: after.begun process

/-- What is a process's own stays: its appends and its lock, and while it holds the
lock the event data. -/
structure Keeps (process : Process) (before after : SharedFiles Process) : Prop where
  begun : after.begun process = before.begun process
  maker : ∀ {name}, before.maker name = some process → after.maker name = some process
  authors : ∀ number, (process, number) ∈ after.authors ↔ (process, number) ∈ before.authors
  credited : before.authors <+: after.authors
  holder : after.holder = some process ↔ before.holder = some process
  locked : before.holder = some process → HeaderComplete (before.content .pgnoFile) →
    after.content .pgnoFile = before.content .pgnoFile

/-- What a process relies on when others act: besides what is its own, its handles
stay, and the event data does while the process writes the header of a file that it
created. -/
structure Rely (process : Process) (before after : SharedFiles Process) : Prop
    extends Keeps process before after where
  position : after.position process = before.position process
  making : before.maker .pgnoFile = some process → ¬HeaderComplete (before.content .pgnoFile) →
    after.content .pgnoFile = before.content .pgnoFile

omit [Digests] [DecidableEq Process] in
/-- A process may rely on what does not change. -/
theorem Rely.refl (process : Process) (shared : SharedFiles Process) :
    Rely process shared shared where
  begun := rfl
  maker := id
  authors _ := Iff.rfl
  credited := List.prefix_rfl
  holder := Iff.rfl
  locked _ _ := rfl
  position := rfl
  making _ _ := rfl

omit [Digests] [DecidableEq Process] in
/-- It may rely on two moves as on one. -/
theorem Rely.trans {process : Process} {first second third : SharedFiles Process}
    (earlier : Rely process first second) (later : Rely process second third) :
    Rely process first third where
  position := later.position.trans earlier.position
  begun := later.begun.trans earlier.begun
  maker made := later.maker (earlier.maker made)
  authors number := (later.authors number).trans (earlier.authors number)
  credited := earlier.credited.trans later.credited
  holder := later.holder.trans earlier.holder
  locked holds complete := by
    have same := earlier.locked holds complete
    rw [← same] at complete
    exact (later.locked (earlier.holder.mpr holds) complete).trans same
  making made incomplete := by
    have same := earlier.making made incomplete
    rw [← same] at incomplete
    exact (later.making (earlier.maker made) incomplete).trans same

omit [DecidableEq Process] in
/-- Files that do not change do not shrink. -/
theorem Grows.refl (shared : SharedFiles Process) : Grows shared shared :=
  ⟨id, id, List.prefix_rfl, List.prefix_rfl, fun _ => List.prefix_rfl⟩

omit [DecidableEq Process] in
/-- Files that grow twice grow. -/
theorem Grows.trans {first second third : SharedFiles Process} (earlier : Grows first second)
    (later : Grows second third) : Grows first third :=
  ⟨fun made => later.maker (earlier.maker made), fun complete => later.complete
    (earlier.complete complete), earlier.frames.trans later.frames,
    earlier.authors.trans later.authors, fun process => (earlier.begun process).trans
      (later.begun process)⟩

/-- What a process may make of the event data: whole frames stay, at most the one
it is appending comes in addition, and the process holds the lock, or is the first
to write. -/
structure MayLeave (shared : SharedFiles Process) (process : Process) (content : Option Bytes) :
    Prop where
  shape : Shape content (wholeFrames content)
  frames : wholeFrames content = shared.frames ∨ ∃ payload,
    wholeFrames content = shared.frames ++ [payload] ∧
      (shared.begun process).getLast? = some payload ∧
      (process, (shared.begun process).length - 1) ∉ shared.authors
  complete : HeaderComplete (shared.content .pgnoFile) → HeaderComplete content
  own : content = shared.content .pgnoFile ∨
    shared.holder = some process ∧ HeaderComplete (shared.content .pgnoFile) ∨
    ¬HeaderComplete (shared.content .pgnoFile) ∧
      ∀ other, other ≠ process → shared.maker .pgnoFile ≠ some other

omit [DecidableEq Process] in
/-- A process may leave the event data as it is. -/
theorem Inv.mayLeave_same {shared : SharedFiles Process} (inv : Inv shared) (process : Process) :
    shared.MayLeave process (shared.content .pgnoFile) :=
  ⟨inv.shape, Or.inl rfl, id, Or.inl rfl⟩

section Steps

variable {before : SharedFiles Process} {process other : Process} {op : FileOp}
  {answer : op.request.Res} {file : FileState}

omit [Digests] in
/-- Nobody takes the lock from another process. -/
theorem holderAfter_other (lock : TakesLock op answer → before.holder = none ∨
    before.holder = some process) (apart : other ≠ process) :
    holderAfter before.holder process op answer = some other ↔ before.holder = some other := by
  obtain ⟨name, request⟩ := op
  cases name with
  | metaFile => cases request <;> exact Iff.rfl
  | pgnoFile =>
      cases request with
      | tryLock =>
          cases answer with
          | error failure => exact Iff.rfl
          | ok =>
              have mine : some process ≠ some other := fun same => apart (Option.some.inj same).symm
              rcases lock trivial with free | own
              · simp [holderAfter, free, mine]
              · simp [holderAfter, own, mine]
      | unlock =>
          cases answer with
          | error failure => exact Iff.rfl
          | ok =>
              have mine : some process ≠ some other := fun same => apart (Option.some.inj same).symm
              by_cases own : before.holder = some process
              · simp [holderAfter, own, mine]
              · simp [holderAfter, own]
      | _ => exact Iff.rfl

omit [Digests] in
/-- An operation leaves the lock, takes it or gives it back. -/
theorem holderAfter_cases (holder : Option Process) (process : Process) (op : FileOp)
    (answer : op.request.Res) :
    holderAfter holder process op answer = holder ∨
      holderAfter holder process op answer = some process ∨
      holderAfter holder process op answer = none := by
  unfold holderAfter
  split
  · exact .inr (.inl rfl)
  · split_ifs
    · exact .inr (.inr rfl)
    · exact .inl rfl
  · exact .inl rfl

/-- A file gets a maker once, when it is created. -/
theorem maker_touched (inv : Inv before) {name : FileName}
    (made : before.maker name = some other) :
    (before.touched process op answer file).maker name = some other := by
  unfold touched
  dsimp only
  split_ifs with created
  · have absent : name ≠ op.name := by
      rintro rfl
      have stands := inv.made op.name
      rw [made] at stands
      have missing := (Bool.and_eq_true_iff.mp created).1
      rw [Option.isNone_iff_eq_none] at missing
      rw [missing] at stands
      cases stands
    rw [Function.update_of_ne absent]
    exact made
  · exact made

/-- Every file has a maker after an operation, too. -/
theorem made_touched (inv : Inv before)
    (performed : op.request.Performs (before.view process op.name) answer file) (name : FileName) :
    ((before.touched process op answer file).maker name).isSome =
      ((before.touched process op answer file).content name).isSome := by
  unfold touched
  dsimp only
  by_cases own : name = op.name
  · subst own
    rw [Function.update_self]
    have stands := inv.made op.name
    cases present : before.content op.name with
    | none =>
        rw [present] at stands
        cases written : file.content with
        | none => simpa using stands
        | some bytes => simp
    | some bytes =>
        have still : file.content.isSome = true :=
          FileRequest.performs_present performed (by simp [view, present])
        rw [present] at stands
        simpa [still] using stands
  · rw [Function.update_of_ne own]
    split_ifs with created
    · rw [Function.update_of_ne own]
      exact inv.made name
    · exact inv.made name

/-- The frames and their authors after an operation: as before, or with the one the
process was appending. -/
theorem authors_touched
    (leaves : before.MayLeave process ((before.touched process op answer file).content .pgnoFile)) :
    ((before.touched process op answer file).frames = before.frames ∧
      (before.touched process op answer file).authors = before.authors) ∨
    ∃ payload, (before.touched process op answer file).frames = before.frames ++ [payload] ∧
      (before.begun process).getLast? = some payload ∧
      (process, (before.begun process).length - 1) ∉ before.authors ∧
      (before.touched process op answer file).authors =
        before.authors ++ [(process, (before.begun process).length - 1)] := by
  rcases leaves.frames with same | ⟨payload, more, last, fresh⟩
  · refine Or.inl ⟨same, if_neg ?_⟩
    have length := congrArg List.length same
    exact Nat.not_lt.mpr length.le
  · refine Or.inr ⟨payload, more, last, fresh, if_pos ?_⟩
    have length := congrArg List.length more
    rw [List.length_append, List.length_singleton] at length
    have longer : before.frames.length < before.frames.length + 1 := Nat.lt_succ_self _
    rw [← length] at longer
    exact longer

/-- The invariant is kept by an operation that may leave what it leaves. -/
theorem inv_touched (inv : Inv before)
    (performed : op.request.Performs (before.view process op.name) answer file)
    (leaves : before.MayLeave process ((before.touched process op answer file).content .pgnoFile)) :
    Inv (before.touched process op answer file) := by
  have shape := leaves.shape
  rcases authors_touched leaves with ⟨same, kept⟩ | ⟨payload, more, last, fresh, credited⟩
  · refine ⟨shape, made_touched inv performed, ?_, ?_, ?_⟩
    · rw [same, kept]
      exact inv.credited
    · intro place process number author
      rw [kept] at author
      rw [same]
      exact inv.written author
    · rw [kept]
      exact inv.once
  · refine ⟨shape, made_touched inv performed, ?_, ?_, ?_⟩
    · rw [more, credited, List.length_append, List.length_append, inv.credited]
      rfl
    · intro place author number authored
      rw [credited] at authored
      rw [more]
      by_cases earlier : place < before.authors.length
      · rw [List.getElem?_append_left earlier] at authored
        rw [List.getElem?_append_left (inv.credited ▸ earlier)]
        exact inv.written authored
      · rw [List.getElem?_append_right (by omega)] at authored
        rw [List.getElem?_append_right (by rw [← inv.credited]; omega), ← inv.credited]
        cases gap : place - before.authors.length with
        | succ gap =>
            rw [gap] at authored
            cases authored
        | zero =>
            rw [gap] at authored
            cases authored
            exact List.getLast?_eq_getElem?.symm.trans last
    · rw [credited]
      exact List.nodup_append.mpr ⟨inv.once, List.nodup_singleton _, by
        rintro entry member _ single rfl
        rw [List.mem_singleton.mp single] at member
        exact fresh member⟩

/-- Such an operation only lets the files grow. -/
theorem grows_touched (inv : Inv before)
    (leaves : before.MayLeave process ((before.touched process op answer file).content .pgnoFile)) :
    Grows before (before.touched process op answer file) where
  maker := maker_touched inv
  complete := leaves.complete
  frames := by
    rcases authors_touched leaves with ⟨same, -⟩ | ⟨payload, more, -⟩
    · rw [same]
    · rw [more]
      exact List.prefix_append _ _
  authors := by
    rcases authors_touched leaves with ⟨-, kept⟩ | ⟨payload, -, -, -, credited⟩
    · rw [kept]
    · rw [credited]
      exact List.prefix_append _ _
  begun _ := List.prefix_rfl

/-- Another process may rely on such an operation. -/
theorem rely_touched (inv : Inv before)
    (lock : TakesLock op answer → before.holder = none ∨ before.holder = some process)
    (leaves : before.MayLeave process ((before.touched process op answer file).content .pgnoFile))
    (apart : other ≠ process) : Rely other before (before.touched process op answer file) where
  position := Function.update_of_ne apart ..
  begun := rfl
  maker := maker_touched inv
  authors number := by
    rcases authors_touched leaves with ⟨-, kept⟩ | ⟨payload, -, -, -, credited⟩
    · rw [kept]
    · rw [credited]
      simp [apart]
  credited := (grows_touched inv leaves).authors
  holder := holderAfter_other lock apart
  locked holds complete := by
    rcases leaves.own with same | ⟨mine, -⟩ | ⟨incomplete, -⟩
    · exact same
    · rw [mine] at holds
      exact (apart (Option.some.inj holds).symm).elim
    · exact (incomplete complete).elim
  making made incomplete := by
    rcases leaves.own with same | ⟨-, complete⟩ | ⟨-, unmade⟩
    · exact same
    · exact (incomplete complete).elim
    · exact (unmade other apart made).elim

end Steps

section Moves

variable {before after : SharedFiles Process} {process other : Process}

omit [Digests] in
/-- A process that has let go does not hold the lock. -/
theorem holder_released (shared : SharedFiles Process) (process : Process) :
    (shared.released process).holder ≠ some process := by
  unfold released
  dsimp only
  split_ifs with own
  · exact Option.some_ne_none _ |>.symm
  · exact own

/-- Letting go keeps the invariant. -/
theorem inv_released (inv : Inv before) : Inv (before.released process) :=
  ⟨inv.shape, inv.made, inv.credited, inv.written, inv.once⟩

omit [Digests] in
/-- Another process may rely on a release. -/
theorem rely_released (apart : other ≠ process) : Rely other before (before.released process) := by
  refine ⟨⟨rfl, id, fun _ => Iff.rfl, List.prefix_rfl, ?_, fun _ _ => rfl⟩, rfl, fun _ _ => rfl⟩
  unfold released
  dsimp only
  split_ifs with own
  · rw [own]
    simp [apart.symm]
  · exact Iff.rfl

/-- The beginning of an append keeps the invariant. -/
theorem inv_appending (inv : Inv before) (payload : Bytes) :
    Inv (before.appending process payload) := by
  refine ⟨inv.shape, inv.made, inv.credited, ?_, inv.once⟩
  intro place author number authored
  have earlier := inv.written authored
  by_cases own : author = process
  · subst own
    have inside : place < before.authors.length := by
      obtain ⟨bound, -⟩ := List.getElem?_eq_some_iff.mp authored
      exact bound
    rw [inv.credited] at inside
    have known : number < (before.begun author).length := by
      rw [List.getElem?_eq_getElem inside] at earlier
      obtain ⟨bound, -⟩ := List.getElem?_eq_some_iff.mp earlier
      exact bound
    simp only [appending, Function.update_self]
    rw [List.getElem?_append_left known]
    exact earlier
  · simp only [appending, Function.update_of_ne own]
    exact earlier

/-- It lets the files grow. -/
theorem grows_appending (payload : Bytes) : Grows before (before.appending process payload) := by
  refine ⟨id, id, List.prefix_rfl, List.prefix_rfl, ?_⟩
  intro other
  by_cases own : other = process
  · subst own
    simp [appending]
  · simp [appending, Function.update_of_ne own]

omit [Digests] in
/-- Another process may rely on it. -/
theorem rely_appending (apart : other ≠ process) (payload : Bytes) :
    Rely other before (before.appending process payload) :=
  ⟨⟨Function.update_of_ne apart .., id, fun _ => Iff.rfl, List.prefix_rfl, Iff.rfl, fun _ _ => rfl⟩,
    rfl, fun _ _ => rfl⟩

omit [Digests] [DecidableEq Process] in
/-- Others who rewrite the record leave the event data alone. -/
theorem Rewrites.content_pgno (rewrites : Rewrites before after) :
    after.content .pgnoFile = before.content .pgnoFile := by
  obtain ⟨-, bytes, rfl⟩ := rewrites
  have other : FileName.pgnoFile ≠ .metaFile := by decide
  dsimp only
  rw [Function.update_of_ne other]

omit [DecidableEq Process] in
/-- A rewritten record keeps the invariant. -/
theorem inv_rewrites (inv : Inv before) (rewrites : Rewrites before after) : Inv after := by
  have kept := rewrites.content_pgno
  obtain ⟨present, bytes, rfl⟩ := rewrites
  refine ⟨?_, ?_, ?_, ?_, inv.once⟩
  · rw [frames, kept]
    exact inv.shape
  · intro name
    cases name with
    | metaFile =>
        refine (inv.made .metaFile).trans ?_
        rw [present]
        simp
    | pgnoFile => rw [kept]; exact inv.made .pgnoFile
  · rw [frames, kept]
    exact inv.credited
  · intro place author number authored
    rw [frames, kept]
    exact inv.written authored

omit [DecidableEq Process] in
/-- It takes nothing from the event data. -/
theorem grows_rewrites (rewrites : Rewrites before after) : Grows before after := by
  have kept := rewrites.content_pgno
  obtain ⟨-, bytes, rfl⟩ := rewrites
  refine ⟨id, ?_, ?_, List.prefix_rfl, fun _ => List.prefix_rfl⟩
  · rw [kept]
    exact id
  · rw [frames, frames, kept]

omit [Digests] [DecidableEq Process] in
/-- Every process may rely on it. -/
theorem rely_rewrites (process : Process) (rewrites : Rewrites before after) :
    Rely process before after := by
  have kept := rewrites.content_pgno
  obtain ⟨-, bytes, rfl⟩ := rewrites
  exact ⟨⟨rfl, id, fun _ => Iff.rfl, List.prefix_rfl, Iff.rfl, fun _ _ => kept⟩, rfl,
    fun _ _ => kept⟩

end Moves

end SharedFiles

end Pardosa
