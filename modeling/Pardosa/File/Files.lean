import Mathlib.Logic.Function.Basic
import Pardosa.Foundation.Bytes
import Pardosa.Foundation.Program

/-!
# The files of an artefact

An artefact is a pair of files, the ownership record (`.meta`) and the event
data (`.pgno`). A file is a byte string with the position of the handle that is
open on it. Every operation may fail on its own, and a write may take only the
first bytes of what it is given. Other processes may do anything to the
ownership record at any time, and leave the event data alone.
-/

namespace Pardosa

open Foundation

/-- The two files of an artefact. -/
inductive FileName where
  | metaFile
  | pgnoFile
deriving DecidableEq, Repr

/-- An error of the operating system, as far as the code looks at it. -/
structure IoError where
  alreadyExists : Bool
  message : String
deriving DecidableEq, Repr

/-- Why a lock was not taken. -/
inductive TryLockError where
  | wouldBlock
  | error (failure : IoError)
deriving DecidableEq, Repr

/-- What the code asks of a file. -/
inductive FileRequest where
  | tryExists
  | openFile
  | createNew
  | seekStart (position : Nat)
  | seekEnd
  | metadataLen
  | readToEnd (limit : Nat)
  | write (bytes : Bytes)
  | setLen (len : Nat)
  | syncData
  | tryLock
  | unlock
deriving DecidableEq, Repr

/-- What a request answers. -/
def FileRequest.Res : FileRequest → Type
  | .tryExists => Except IoError Bool
  | .openFile | .createNew | .setLen _ | .syncData | .unlock => Except IoError Unit
  | .seekStart _ | .seekEnd | .metadataLen | .write _ => Except IoError Nat
  | .readToEnd _ => Except IoError Bytes
  | .tryLock => Except TryLockError Unit

/-- A request to one of the files. -/
structure FileOp where
  name : FileName
  request : FileRequest
deriving DecidableEq, Repr

/-- The signature of file operations. -/
def fileOperations : Signature := ⟨FileOp, fun op => op.request.Res⟩

/-- A file that may be absent, and the position of the handle on it. -/
structure FileState where
  content : Option Bytes
  position : Nat
deriving DecidableEq, Repr

/-- The files of one artefact. -/
abbrev FileWorld := FileName → FileState

/-- A file after bytes have been written over it from a position on. -/
def overwrite (content : Bytes) (position : Nat) (bytes : Bytes) : Bytes :=
  content.take position ++ List.replicate (position - content.length) 0 ++ bytes ++
    content.drop (position + bytes.length)

/-- A file cut or padded to a length. -/
def resize (content : Bytes) (len : Nat) : Bytes :=
  content.take len ++ List.replicate (len - content.length) 0

/-- Writing at the end appends. -/
@[simp] theorem overwrite_end (content bytes : Bytes) :
    overwrite content content.length bytes = content ++ bytes := by
  simp [overwrite]

/-- Cutting a file to what it was takes back what was appended. -/
@[simp] theorem resize_append (content tail : Bytes) :
    resize (content ++ tail) content.length = content := by
  simp [resize]

/-- The answer for a file that is not there. -/
def notFound : IoError := ⟨false, "No such file or directory (os error 2)"⟩

/-- The answer for a file that is already there. -/
def fileExists : IoError := ⟨true, "File exists (os error 17)"⟩

/-- Answer a request to a file that has to be there. -/
def FileState.present {α : Type} (file : FileState)
    (answer : Bytes → Except IoError α × FileState) : Except IoError α × FileState :=
  match file.content with
  | none => (.error notFound, file)
  | some content => answer content

/-- How a request is served when nothing goes wrong. -/
def FileRequest.serve : (request : FileRequest) → FileState → request.Res × FileState
  | .tryExists, file => (.ok file.content.isSome, file)
  | .openFile, file => file.present fun content => (.ok (), ⟨some content, 0⟩)
  | .createNew, file =>
      if file.content.isSome then (.error fileExists, file) else (.ok (), ⟨some [], 0⟩)
  | .seekStart position, file =>
      file.present fun content => (.ok position, ⟨some content, position⟩)
  | .seekEnd, file =>
      file.present fun content => (.ok content.length, ⟨some content, content.length⟩)
  | .metadataLen, file => file.present fun content => (.ok content.length, file)
  | .readToEnd limit, file => file.present fun content =>
      let bytes := (content.drop file.position).take limit
      (.ok bytes, ⟨some content, file.position + bytes.length⟩)
  | .write bytes, file => file.present fun content =>
      (.ok bytes.length,
        ⟨some (overwrite content file.position bytes), file.position + bytes.length⟩)
  | .setLen len, file =>
      file.present fun content => (.ok (), ⟨some (resize content len), file.position⟩)
  | .syncData, file | .unlock, file | .tryLock, file => (.ok (), file)

/-- How a request may fail. The file stays as it was, but for a write that took
only the first bytes; where a failed read left the handle is unknown. -/
def FileRequest.Fails : (request : FileRequest) → FileState → request.Res → FileState → Prop
  | .tryLock, before, answer, after => (∃ failure, answer = .error failure) ∧ after = before
  | .readToEnd _, before, answer, after =>
      (∃ failure, answer = .error failure) ∧ after.content = before.content
  | .write bytes, before, answer, after =>
      (∃ failure, answer = .error failure) ∧ after = before ∨
        ∃ count ≤ bytes.length, (answer, after) = before.present fun content =>
          (.ok count, ⟨some (overwrite content before.position (bytes.take count)),
            before.position + count⟩)
  | .tryExists, before, answer, after | .openFile, before, answer, after
  | .createNew, before, answer, after | .setLen _, before, answer, after
  | .syncData, before, answer, after | .unlock, before, answer, after
  | .seekStart _, before, answer, after | .seekEnd, before, answer, after
  | .metadataLen, before, answer, after =>
      (∃ failure, answer = .error failure) ∧ after = before

/-- What a request may answer and do. -/
def FileRequest.Performs (request : FileRequest) (before : FileState) (answer : request.Res)
    (after : FileState) : Prop :=
  (answer, after) = request.serve before ∨ request.Fails before answer after

/-- Files that never fail. -/
def fileHandler : Handler fileOperations FileWorld := fun op world =>
  let (answer, file) := op.request.serve (world op.name)
  (answer, Function.update world op.name file)

/-- The files of an artefact, with failing operations and other processes. -/
def fileSetting : Setting fileOperations FileWorld where
  exec op before answer after := ∃ file, op.request.Performs (before op.name) answer file ∧
    after = Function.update before op.name file
  rely before after := after .pgnoFile = before .pgnoFile
  guar _ _ := True

/-- The promise that the event data changes only as allowed. -/
def honouring (allows : Option Bytes → Option Bytes → Prop) : Setting fileOperations FileWorld :=
  fileSetting.promising fun before after =>
    allows (before .pgnoFile).content (after .pgnoFile).content

/-- The promise that a property of the event data is kept. -/
abbrev keeping (safe : Option Bytes → Prop) : Setting fileOperations FileWorld :=
  honouring fun before after => safe before → safe after

instance keeping_refl (safe : Option Bytes → Prop) :
    Std.Refl fun before after : Option Bytes => safe before → safe after :=
  ⟨fun _ => id⟩

/-- Without failures, files are served as they should be. -/
theorem runs_fileHandler {α : Type} (program : Program fileOperations α) (world : FileWorld) :
    program.Runs fileSetting world (program.evaluate fileHandler world).1
      (program.evaluate fileHandler world).2 := by
  refine Program.runs_evaluate (fun _ => rfl) ?_ program world
  intro op before
  exact ⟨(op.request.serve (before op.name)).2, Or.inl rfl, rfl⟩

/-- What a program keeps of the event data holds wherever it is cut. -/
theorem keeping_of_reaches {α : Type} {safe : Option Bytes → Prop}
    {program rest : Program fileOperations α} {world crashed : FileWorld}
    {post : α → FileWorld → Prop} (reaches : program.Reaches fileSetting world rest crashed)
    (holds : program.wp (keeping safe) post world) (start : safe (world .pgnoFile).content) :
    safe (crashed .pgnoFile).content := by
  have others : ∀ {before after : FileWorld}, (keeping safe).rely before after →
      safe (before .pgnoFile).content → safe (after .pgnoFile).content := by
    intro before after others isSafe
    have same : after .pgnoFile = before .pgnoFile := others
    rwa [same]
  exact Program.invariant_of_reaches others id (Program.reaches_promising _ reaches) holds start

/-- Writing at the end of a file: nothing happens, or some of the bytes arrive. -/
theorem FileRequest.performs_write_end {content bytes : Bytes} {answer : Except IoError Nat}
    {file : FileState}
    (performed : (FileRequest.write bytes).Performs ⟨some content, content.length⟩ answer file) :
    (∃ failure, answer = .error failure ∧ file = ⟨some content, content.length⟩) ∨
      ∃ count ≤ bytes.length, answer = .ok count ∧
        file = ⟨some (content ++ bytes.take count), content.length + count⟩ := by
  have took : ∀ count ≤ bytes.length, ∀ taken : Bytes, taken = bytes.take count →
      (answer, file) = ((.ok count, ⟨some (overwrite content content.length taken),
        content.length + count⟩) : Except IoError Nat × FileState) →
      ∃ count ≤ bytes.length, answer = .ok count ∧
        file = ⟨some (content ++ bytes.take count), content.length + count⟩ := by
    rintro count within taken rfl outcome
    cases outcome
    refine ⟨count, within, rfl, ?_⟩
    rw [overwrite_end]
  rcases performed with served | ⟨⟨failure, rfl⟩, rfl⟩ | ⟨count, within, taken⟩
  · exact Or.inr (took bytes.length (Nat.le_refl _) bytes List.take_length.symm served)
  · exact Or.inl ⟨failure, rfl, rfl⟩
  · exact Or.inr (took count within _ rfl taken)

/-- A look that succeeds tells whether the file is there. -/
theorem FileRequest.performs_tryExists_ok {before file : FileState} {found : Bool}
    (performed : FileRequest.tryExists.Performs before (.ok found) file) :
    found = before.content.isSome ∧ file = before := by
  rcases performed with served | ⟨⟨failure, impossible⟩, -⟩
  · cases served
    exact ⟨rfl, rfl⟩
  · cases impossible

/-- A file can be created only where there is none. -/
theorem FileRequest.performs_createNew_ok {before file : FileState} {done : Unit}
    (performed : FileRequest.createNew.Performs before (.ok done) file) :
    before.content = none ∧ file = ⟨some [], 0⟩ := by
  rcases performed with served | ⟨⟨failure, impossible⟩, -⟩
  · simp only [FileRequest.serve] at served
    split_ifs at served with there
    · cases served
    · cases served
      exact ⟨Option.not_isSome_iff_eq_none.mp there, rfl⟩
  · cases impossible

/-- A creation that fails changes nothing. -/
theorem FileRequest.performs_createNew_error {before file : FileState} {failure : IoError}
    (performed : FileRequest.createNew.Performs before (.error failure) file) : file = before := by
  rcases performed with served | ⟨-, same⟩
  · simp only [FileRequest.serve] at served
    split_ifs at served with there
    · exact congrArg Prod.snd served
    · cases served
  · exact same

/-- Synchronizing changes nothing. -/
theorem FileRequest.performs_syncData_ok {before file : FileState} {done : Unit}
    (performed : FileRequest.syncData.Performs before (.ok done) file) : file = before := by
  rcases performed with served | ⟨⟨failure, impossible⟩, -⟩
  · cases served
    rfl
  · cases impossible

/-- A write behind the bytes of a file takes the first of what it is given. -/
theorem FileRequest.performs_write_ok {content bytes : Bytes} {count : Nat} {file : FileState}
    (performed : (FileRequest.write bytes).Performs ⟨some content, content.length⟩ (.ok count)
      file) :
    count ≤ bytes.length ∧
      file = ⟨some (content ++ bytes.take count), (content ++ bytes.take count).length⟩ := by
  rcases performs_write_end performed with ⟨failure, impossible, -⟩ | ⟨taken, within, same, rfl⟩
  · cases impossible
  · cases same
    refine ⟨within, ?_⟩
    rw [List.length_append, List.length_take_of_le within]

/-- A seek that succeeds puts the handle where it was asked to. -/
theorem FileRequest.performs_seekStart_ok {before after : FileState} {target position : Nat}
    (performed : (FileRequest.seekStart target).Performs before (.ok position) after) :
    after.position = target := by
  rcases performed with served | ⟨⟨failure, impossible⟩, -⟩
  · have final : after = ((FileRequest.seekStart target).serve before).2 := congrArg Prod.snd served
    have answered := congrArg Prod.fst served
    simp only [FileRequest.serve, FileState.present] at answered final
    cases known : before.content with
    | none =>
        rw [known] at answered
        cases answered
    | some content => rw [final, known]
  · cases impossible

/-- A length that is answered is that of the content. -/
theorem FileRequest.performs_metadataLen_ok {before after : FileState} {len : Nat}
    (performed : FileRequest.metadataLen.Performs before (.ok len) after) :
    after = before ∧ ∃ content, before.content = some content ∧ len = content.length := by
  rcases performed with served | ⟨⟨failure, impossible⟩, -⟩
  · have final : after = (FileRequest.metadataLen.serve before).2 := congrArg Prod.snd served
    have answered := congrArg Prod.fst served
    simp only [FileRequest.serve, FileState.present] at answered final
    cases known : before.content with
    | none =>
        rw [known] at answered
        cases answered
    | some content =>
        rw [known] at answered final
        exact ⟨final, content, rfl, Except.ok.inj answered⟩
  · cases impossible

/-- A read to the end that succeeds answers the content. -/
theorem FileRequest.performs_readToEnd_ok {after : FileState} {content buf : Bytes}
    (performed : (FileRequest.readToEnd content.length).Performs ⟨some content, 0⟩
      (.ok buf) after) :
    buf = content := by
  rcases performed with served | ⟨⟨failure, impossible⟩, -⟩
  · have answered := congrArg Prod.fst served
    simp only [FileRequest.serve, FileState.present, List.drop_zero, List.take_length] at answered
    exact Except.ok.inj answered
  · cases impossible

section Rules

variable {allows : Option Bytes → Option Bytes → Prop} [Std.Refl allows] {world : FileWorld}

/-- Send a request to a file. -/
def FileRequest.send (request : FileRequest) (name : FileName) :
    Program fileOperations request.Res :=
  .call (⟨name, request⟩ : FileOp) .ret

/-- Whatever happens to the ownership record, the event data stays. -/
theorem wp_send_meta (request : FileRequest) {post : request.Res → FileWorld → Prop}
    (holds : ∀ answer after, after .pgnoFile = world .pgnoFile → post answer after) :
    (request.send .metaFile).wp (honouring allows) post world := by
  rintro moved others answer after ⟨file, _, rfl⟩
  have kept : Function.update moved .metaFile file .pgnoFile = moved .pgnoFile :=
    Function.update_of_ne (by decide) ..
  refine ⟨?_, holds answer _ (kept.trans others)⟩
  show allows (moved .pgnoFile).content (Function.update moved .metaFile file .pgnoFile).content
  rw [kept]
  exact Std.Refl.refl _

omit [Std.Refl allows] in
/-- A request to the event data. -/
theorem wp_send_pgno (request : FileRequest) {post : request.Res → FileWorld → Prop}
    (holds : ∀ answer file, request.Performs (world .pgnoFile) answer file →
      allows (world .pgnoFile).content file.content ∧
        ∀ after, after .pgnoFile = file → post answer after) :
    (request.send .pgnoFile).wp (honouring allows) post world := by
  rintro moved others answer after ⟨file, performed, rfl⟩
  have same : moved .pgnoFile = world .pgnoFile := others
  have kept : Function.update moved .pgnoFile file .pgnoFile = file := Function.update_self ..
  rw [same] at performed
  obtain ⟨promised, owed⟩ := holds answer file performed
  refine ⟨?_, owed _ kept⟩
  show allows (moved .pgnoFile).content (Function.update moved .pgnoFile file .pgnoFile).content
  rw [kept, same]
  exact promised

/-- A request to the event data that is served as it should be, or refused and then without
effect. -/
theorem wp_send_or_error {request : FileRequest} {ε : Type} (refused : ε → request.Res)
    {answered : request.Res} {file moved : FileState} {post : request.Res → FileWorld → Prop}
    (stands : world .pgnoFile = file)
    (fails : ∀ answer after, request.Fails file answer after →
      (∃ failure, answer = refused failure) ∧ after = file)
    (serves : request.serve file = (answered, moved)) (promised : allows file.content moved.content)
    (succeeds : ∀ after, after .pgnoFile = moved → post answered after)
    (failed : ∀ failure after, after .pgnoFile = file → post (refused failure) after) :
    (request.send .pgnoFile).wp (honouring allows) post world := by
  refine wp_send_pgno _ ?_
  rw [stands]
  rintro answer after (served | fell)
  · rw [serves] at served
    cases served
    exact ⟨promised, succeeds⟩
  · obtain ⟨⟨failure, rfl⟩, rfl⟩ := fails answer after fell
    exact ⟨Std.Refl.refl _, failed failure⟩

variable {content : Bytes} {position : Nat}

/-- Looking for event data that is there. -/
theorem wp_tryExists_pgno {post : Except IoError Bool → FileWorld → Prop}
    (stands : world .pgnoFile = ⟨some content, position⟩)
    (found : ∀ after, after .pgnoFile = ⟨some content, position⟩ → post (.ok true) after)
    (failed : ∀ failure after, after .pgnoFile = ⟨some content, position⟩ →
      post (.error failure) after) :
    (FileRequest.send .tryExists .pgnoFile).wp (honouring allows) post world :=
  wp_send_or_error Except.error stands (fun _ _ => id) rfl (Std.Refl.refl _) found failed

/-- Opening event data that is there. -/
theorem wp_openFile_pgno {post : Except IoError Unit → FileWorld → Prop}
    (stands : world .pgnoFile = ⟨some content, position⟩)
    (holds : ∀ answer after, (after .pgnoFile).content = some content → post answer after) :
    (FileRequest.send .openFile .pgnoFile).wp (honouring allows) post world :=
  wp_send_or_error Except.error stands (fun _ _ => id) rfl (Std.Refl.refl _)
    (fun after moved => holds _ after (by rw [moved]))
    (fun failure after still => holds _ after (by rw [still]))

/-- Locking the event data. -/
theorem wp_tryLock_pgno {post : Except TryLockError Unit → FileWorld → Prop}
    (holds : ∀ answer after, after .pgnoFile = world .pgnoFile → post answer after) :
    (FileRequest.send .tryLock .pgnoFile).wp (honouring allows) post world :=
  wp_send_or_error Except.error rfl (fun _ _ => id) rfl (Std.Refl.refl _) (holds _)
    fun _ => holds _

/-- Moving the handle on the event data. -/
theorem wp_seekStart_pgno {target : Nat} {post : Except IoError Nat → FileWorld → Prop}
    (stands : world .pgnoFile = ⟨some content, position⟩)
    (moved : ∀ after, after .pgnoFile = ⟨some content, target⟩ → post (.ok target) after)
    (failed : ∀ failure after, after .pgnoFile = ⟨some content, position⟩ →
      post (.error failure) after) :
    (FileRequest.send (.seekStart target) .pgnoFile).wp (honouring allows) post world :=
  wp_send_or_error Except.error stands (fun _ _ => id) rfl (Std.Refl.refl _) moved failed

/-- Moving the handle behind the event data. -/
theorem wp_seekEnd_pgno {post : Except IoError Nat → FileWorld → Prop}
    (stands : world .pgnoFile = ⟨some content, position⟩)
    (moved : ∀ after, after .pgnoFile = ⟨some content, content.length⟩ →
      post (.ok content.length) after)
    (failed : ∀ failure after, after .pgnoFile = ⟨some content, position⟩ →
      post (.error failure) after) :
    (FileRequest.send .seekEnd .pgnoFile).wp (honouring allows) post world :=
  wp_send_or_error Except.error stands (fun _ _ => id) rfl (Std.Refl.refl _) moved failed

/-- Asking for the length of the event data. -/
theorem wp_metadataLen_pgno {post : Except IoError Nat → FileWorld → Prop}
    (stands : world .pgnoFile = ⟨some content, position⟩)
    (answered : ∀ after, after .pgnoFile = ⟨some content, position⟩ →
      post (.ok content.length) after)
    (failed : ∀ failure after, after .pgnoFile = ⟨some content, position⟩ →
      post (.error failure) after) :
    (FileRequest.send .metadataLen .pgnoFile).wp (honouring allows) post world :=
  wp_send_or_error Except.error stands (fun _ _ => id) rfl (Std.Refl.refl _) answered failed

/-- Reading the event data from its start to its end. -/
theorem wp_readToEnd_pgno {post : Except IoError Bytes → FileWorld → Prop}
    (stands : world .pgnoFile = ⟨some content, 0⟩)
    (answered : ∀ after, after .pgnoFile = ⟨some content, content.length⟩ →
      post (.ok content) after)
    (failed : ∀ failure after, (after .pgnoFile).content = some content →
      post (.error failure) after) :
    (FileRequest.send (.readToEnd content.length) .pgnoFile).wp (honouring allows) post world := by
  refine wp_send_pgno _ ?_
  rw [stands]
  rintro answer file (served | ⟨⟨failure, rfl⟩, kept⟩)
  · simp only [FileRequest.serve, FileState.present, List.drop_zero, List.take_length,
      Nat.zero_add] at served
    cases served
    exact ⟨Std.Refl.refl _, answered⟩
  · have same : file.content = some content := kept
    refine ⟨by rw [same]; exact Std.Refl.refl _, ?_⟩
    rintro after rfl
    exact failed failure after same

/-- Synchronizing the event data. -/
theorem wp_syncData_pgno {post : Except IoError Unit → FileWorld → Prop}
    (stands : world .pgnoFile = ⟨some content, position⟩)
    (holds : ∀ answer after, after .pgnoFile = ⟨some content, position⟩ → post answer after) :
    (FileRequest.send .syncData .pgnoFile).wp (honouring allows) post world :=
  wp_send_or_error Except.error stands (fun _ _ => id) rfl (Std.Refl.refl _) (holds _)
    fun _ => holds _

/-- Cutting or padding the event data. -/
theorem wp_setLen_pgno {len : Nat} {post : Except IoError Unit → FileWorld → Prop}
    (stands : world .pgnoFile = ⟨some content, position⟩)
    (promised : allows (some content) (some (resize content len)))
    (cut : ∀ after, after .pgnoFile = ⟨some (resize content len), position⟩ → post (.ok ()) after)
    (failed : ∀ failure after, after .pgnoFile = ⟨some content, position⟩ →
      post (.error failure) after) :
    (FileRequest.send (.setLen len) .pgnoFile).wp (honouring allows) post world :=
  wp_send_or_error Except.error stands (fun _ _ => id) rfl promised cut failed

/-- Writing behind the event data: any number of the bytes may arrive. -/
theorem wp_write_pgno {bytes : Bytes} {post : Except IoError Nat → FileWorld → Prop}
    (stands : world .pgnoFile = ⟨some content, content.length⟩)
    (promised : ∀ count ≤ bytes.length,
      allows (some content) (some (content ++ bytes.take count)))
    (written : ∀ count after, count ≤ bytes.length →
      after .pgnoFile = ⟨some (content ++ bytes.take count), content.length + count⟩ →
      post (.ok count) after)
    (failed : ∀ failure after, after .pgnoFile = ⟨some content, content.length⟩ →
      post (.error failure) after) :
    (FileRequest.send (.write bytes) .pgnoFile).wp (honouring allows) post world := by
  refine wp_send_pgno _ ?_
  rw [stands]
  intro answer file performed
  rcases FileRequest.performs_write_end performed with ⟨failure, rfl, rfl⟩ |
    ⟨count, within, rfl, rfl⟩
  · exact ⟨Std.Refl.refl _, failed failure⟩
  · exact ⟨promised count within, fun after => written count after within⟩

end Rules

end Pardosa
