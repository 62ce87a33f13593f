import Pardosa.File.Opening
import Pardosa.File.SharedFiles

/-!
# Processes on one artefact

Any number of processes create, open, append to and release one artefact. Each of
them makes one opening call; when it succeeds the process has a writer session, on
which it makes any number of appends until it releases the session or dies. A
process that opens the artefact several times counts as several of these.

The lock is taken after the file was created and its header written, and the file is
looked at before it is locked, so other processes act between any two operations of
an opening. What they may do to each other is stated once, as a discipline.
-/

namespace Pardosa

open Foundation

/-- The calls that open a writer session. -/
inductive OpeningCall where
  | createWithLimit (adapter : FileStorageAdapter) (initialClaim : OwnershipClaimRecord)
      (descriptor : AdmittedDescriptor) (maxWireLen : Nat)
  | completeCreation (adapter : FileStorageAdapter) (claim : OwnershipClaimRecord)
  | openWrite (adapter : FileStorageAdapter) (carriedEpoch : UInt64)

/-- A call of `create`. -/
def OpeningCall.isCreate : OpeningCall → Bool
  | .createWithLimit .. => true
  | _ => false

/-- The calls of a process. -/
inductive ProcessCall where
  | opening (call : OpeningCall)
  | append (payload : Bytes)
  | releaseExclusion

/-- What an append returned. -/
abbrev AppendOutcome := Except OperationFailure (WriteLandingVerdict Nat)

/-- A process before, during and after its session, with the call that opened it
and the outcomes of its appends. -/
inductive Tenure where
  | waiting
  | live (opened : OpeningCall) (store : Store FileEngine) (outcomes : List AppendOutcome)
  | gone (opened : Option OpeningCall) (outcomes : List AppendOutcome)

/-- What is left of a process that died. -/
def Tenure.died : Tenure → Tenure
  | .waiting => .gone none []
  | .live opened _ outcomes => .gone (some opened) outcomes
  | .gone opened outcomes => .gone opened outcomes

section Pool

variable [Digests]

def OpeningCall.perform :
    OpeningCall → Action fileOperations OperationFailure Unit (Store FileEngine)
  | .createWithLimit adapter initialClaim descriptor maxWireLen =>
      adapter.createWithLimit initialClaim descriptor maxWireLen
  | .completeCreation adapter claim => adapter.completeCreation claim
  | .openWrite adapter carriedEpoch => adapter.openWrite carriedEpoch

/-- The process after its opening call. -/
def OpeningCall.conclude (call : OpeningCall) : Except OperationFailure (Store FileEngine) → Tenure
  | .ok store => .live call store []
  | .error _ => .gone none []

/-- The program of a call; a session is gone once it was told to release its lock. -/
def ProcessCall.program : ProcessCall → Tenure → Option (Program fileOperations Tenure)
  | .opening call, .waiting =>
      some ((call.perform ()).bind fun result => .ret (call.conclude result.1))
  | .append payload, .live opened store outcomes =>
      some ((Store.appendFrameVerdict payload store).bind fun result =>
        .ret (.live opened result.2 (outcomes ++ [result.1])))
  | .releaseExclusion, .live opened store outcomes =>
      some ((FileEngine.releaseExclusion store.engine).bind fun _ =>
        .ret (.gone (some opened) outcomes))
  | _, _ => none

variable {Process : Type} [DecidableEq Process]

/-- A process without a session has no handle either. -/
def SharedFiles.left (process : Process) (tenure : Tenure) (shared : SharedFiles Process) :
    SharedFiles Process :=
  match tenure with
  | .live .. => shared
  | _ => shared.released process

def SharedFiles.entered (process : Process) (call : ProcessCall) (shared : SharedFiles Process) :
    SharedFiles Process :=
  match call with
  | .append payload => shared.appending process payload
  | _ => shared

variable (Process) in
/-- Processes on one artefact, whose ownership record others may rewrite. -/
def processes : Pool fileOperations (SharedFiles Process) Process ProcessCall Tenure where
  exec process op before answer after := SharedFiles.Performs process op before answer after
  program := ProcessCall.program
  entered process call _ := SharedFiles.entered process call
  left := SharedFiles.left
  dead := Tenure.died
  others := SharedFiles.Rewrites

variable (Process) in
/-- No artefact, and nobody has done anything yet. -/
def noArtefact : Configuration fileOperations (SharedFiles Process) Process ProcessCall Tenure where
  world := ⟨fun _ => none, fun _ _ => 0, none, fun _ => none, fun _ => [], []⟩
  doing _ := .idle .waiting

end Pool

section Discipline

variable [Digests] {Process : Type} [DecidableEq Process]

/-- The outcomes of a process's appends agree with what was written: an append that
wrote its frame did not fail, and one that landed wrote it. -/
structure Accounted (process : Process) (outcomes : List AppendOutcome)
    (shared : SharedFiles Process) : Prop where
  begun : outcomes.length ≤ (shared.begun process).length
  written : ∀ {number : Nat}, (process, number) ∈ shared.authors → number < outcomes.length →
    ∃ verdict, outcomes[number]? = some (.ok verdict)
  landed : ∀ {number count : Nat}, outcomes[number]? = some (.ok (.landed count)) →
    (process, number) ∈ shared.authors

/-- A successful `create` has made the ownership record. -/
def Won (process : Process) (opened : OpeningCall) (shared : SharedFiles Process) : Prop :=
  opened.isCreate = true → shared.maker .metaFile = some process

/-- A session over event data: the process holds the lock, and index and commitment
come from exactly the given frames of it. -/
structure SessionOver (process : Process) (store : Store FileEngine) (frames : List Bytes)
    (tail : Bytes) (shared : SharedFiles Process) : Prop where
  holder : shared.holder = some process
  file : store.engine.file = true
  locked : store.engine.locked = true
  stands : shared.content .pgnoFile = some (containerBytes frames ++ tail)
  fits : ∀ frame ∈ frames, frame.length ≤ u32Max
  derived : store.DerivedFrom frames

/-- Bytes behind the given frames begin the frame of an append of a process; once it is
whole it is credited to that append. -/
structure PartOf (process : Process) (number : Nat) (payload : Bytes) (frames : List Bytes)
    (tail : Bytes) (shared : SharedFiles Process) : Prop where
  begins : tail <+: ContainerFrame.frameBytes payload
  fits : tail ≠ [] → payload.length ≤ u32Max
  credited : tail = ContainerFrame.frameBytes payload →
    shared.authors[frames.length]? = some (process, number)

/-- Bytes that an append of undetermined landing has left behind. -/
def LeftBehind (process : Process) (outcomes : List AppendOutcome) (frames : List Bytes)
    (tail : Bytes) (shared : SharedFiles Process) : Prop :=
  ∃ (number : Nat) (payload : Bytes) (carriedEpoch : UInt64),
    (shared.begun process)[number]? = some payload ∧
    outcomes[number]? = some (.ok (.undetermined carriedEpoch)) ∧
    PartOf process number payload frames tail shared

/-- A session between two calls: behind its frames is nothing, or what an append of
undetermined landing has left there, and then the session is fenced. -/
def Settled (process : Process) (store : Store FileEngine) (outcomes : List AppendOutcome)
    (shared : SharedFiles Process) : Prop :=
  ∃ frames tail, SessionOver process store frames tail shared ∧
    (tail = [] ∨ store.engine.uncertain = true ∧ LeftBehind process outcomes frames tail shared)

/-- A process that has not begun any append. -/
def Unbegun (process : Process) (shared : SharedFiles Process) : Prop :=
  shared.begun process = [] ∧ ∀ number, (process, number) ∉ shared.authors

/-- What holds of a process between its calls. -/
def Tenure.Holds (process : Process) (tenure : Tenure) (shared : SharedFiles Process) : Prop :=
  match tenure with
  | .waiting => shared.holder ≠ some process ∧ Unbegun process shared
  | .live opened store outcomes => Won process opened shared ∧ Accounted process outcomes shared ∧
      outcomes.length = (shared.begun process).length ∧ Settled process store outcomes shared
  | .gone opened outcomes => shared.holder ≠ some process ∧ Accounted process outcomes shared ∧
      ∀ call, opened = some call → Won process call shared

/-- What holds of a process at any time of a call. -/
def ProcessCall.During (process : Process) (call : ProcessCall) (tenure : Tenure)
    (shared : SharedFiles Process) : Prop :=
  match call, tenure with
  | .opening _, .waiting => Unbegun process shared
  | .append payload, .live opened store outcomes =>
      Won process opened shared ∧ Accounted process outcomes shared ∧
        outcomes.length + 1 = (shared.begun process).length ∧
        (shared.begun process).getLast? = some payload ∧
        ∃ frames tail, SessionOver process store frames tail shared ∧
          (LeftBehind process outcomes frames tail shared ∨
            PartOf process outcomes.length payload frames tail shared)
  | .releaseExclusion, .live opened _ outcomes =>
      Won process opened shared ∧ Accounted process outcomes shared
  | _, _ => False

/-- What an append leaves: an outcome that agrees with what was written. -/
structure AppendEnds (process : Process) (number : Nat) (outcome : AppendOutcome)
    (shared : SharedFiles Process) : Prop where
  written : (process, number) ∈ shared.authors → ∃ verdict, outcome = .ok verdict
  landed : ∀ {count}, outcome = .ok (.landed count) → (process, number) ∈ shared.authors

/-- What holds when a call ends. -/
def ProcessCall.Ends (process : Process) (call : ProcessCall) (tenure final : Tenure)
    (shared : SharedFiles Process) : Prop :=
  match call, tenure with
  | .opening call, .waiting => final = .gone none [] ∨ ∃ store, final = .live call store [] ∧
      Won process call shared ∧ ∃ frames, SessionOver process store frames [] shared
  | .append _, .live opened _ outcomes => ∃ outcome after,
      final = .live opened after (outcomes ++ [outcome]) ∧
        AppendEnds process outcomes.length outcome shared ∧
        Settled process after (outcomes ++ [outcome]) shared
  | .releaseExclusion, .live opened _ outcomes => final = .gone (some opened) outcomes
  | _, _ => False

variable (Process) in
/-- What processes on one artefact promise each other. -/
def exclusion : Discipline (SharedFiles Process) Process ProcessCall Tenure where
  Inv := SharedFiles.Inv
  Grows := SharedFiles.Grows
  Rely := SharedFiles.Rely
  Holds := Tenure.Holds
  During := ProcessCall.During
  Ends := ProcessCall.Ends

variable {process : Process} {before after : SharedFiles Process}
  (keeps : SharedFiles.Keeps process before after)

include keeps

omit [Digests] [DecidableEq Process] in
/-- What a process has accounted for stays accounted for. -/
theorem Accounted.kept {outcomes : List AppendOutcome}
    (accounted : Accounted process outcomes before) :
    Accounted process outcomes after where
  begun := by
    rw [keeps.begun]
    exact accounted.begun
  written author := accounted.written ((keeps.authors _).mp author)
  landed known := (keeps.authors _).mpr (accounted.landed known)

omit [DecidableEq Process] in
/-- A session stays over its frames. -/
theorem SessionOver.kept {store : Store FileEngine} {frames : List Bytes} {tail : Bytes}
    (session : SessionOver process store frames tail before) :
    SessionOver process store frames tail after where
  holder := keeps.holder.mpr session.holder
  file := session.file
  locked := session.locked
  stands := by
    have complete : HeaderComplete (before.content .pgnoFile) :=
      ⟨_, session.stands, by simp [containerBytes]⟩
    rw [keeps.locked session.holder complete]
    exact session.stands
  fits := session.fits
  derived := session.derived

omit [DecidableEq Process] in
/-- A frame that is partly written stays so. -/
theorem PartOf.kept {number : Nat} {payload : Bytes} {frames : List Bytes} {tail : Bytes}
    (part : PartOf process number payload frames tail before) :
    PartOf process number payload frames tail after where
  begins := part.begins
  fits := part.fits
  credited whole := by
    obtain ⟨rest, split⟩ := keeps.credited
    have known := part.credited whole
    rw [← split, List.getElem?_append_left (List.getElem?_eq_some_iff.mp known).1]
    exact known

omit [DecidableEq Process] in
/-- What a process left behind stays behind. -/
theorem LeftBehind.kept {outcomes : List AppendOutcome} {frames : List Bytes} {tail : Bytes}
    (left : LeftBehind process outcomes frames tail before) :
    LeftBehind process outcomes frames tail after := by
  obtain ⟨number, payload, carriedEpoch, begun, undetermined, part⟩ := left
  exact ⟨number, payload, carriedEpoch, by rw [keeps.begun]; exact begun, undetermined,
    part.kept keeps⟩

omit [DecidableEq Process] in
/-- A settled process stays settled. -/
theorem Settled.kept {store : Store FileEngine} {outcomes : List AppendOutcome}
    (settled : Settled process store outcomes before) : Settled process store outcomes after := by
  obtain ⟨frames, tail, session, rest⟩ := settled
  refine ⟨frames, tail, session.kept keeps, ?_⟩
  rcases rest with nothing | ⟨fenced, left⟩
  · exact Or.inl nothing
  · exact Or.inr ⟨fenced, left.kept keeps⟩

omit [Digests] [DecidableEq Process] in
/-- A process that has begun nothing has still begun nothing. -/
theorem Unbegun.kept (unbegun : Unbegun process before) : Unbegun process after :=
  ⟨keeps.begun.trans unbegun.1, fun number author =>
    unbegun.2 number ((keeps.authors number).mp author)⟩

omit [Digests] [DecidableEq Process] in
/-- A creation that was won stays won. -/
theorem Won.kept {opened : OpeningCall} (won : Won process opened before) :
    Won process opened after := fun created => keeps.maker (won created)

omit [DecidableEq Process] in
/-- A process between its calls stays as it is. -/
theorem Tenure.Holds.kept {tenure : Tenure} (holds : tenure.Holds process before) :
    tenure.Holds process after := by
  cases tenure with
  | waiting =>
      obtain ⟨free, unbegun⟩ := holds
      exact ⟨fun holder => free (keeps.holder.mp holder), unbegun.kept keeps⟩
  | live opened store outcomes =>
      obtain ⟨won, accounted, counted, settled⟩ := holds
      exact ⟨won.kept keeps, accounted.kept keeps, by rw [keeps.begun]; exact counted,
        settled.kept keeps⟩
  | gone opened outcomes =>
      obtain ⟨free, accounted, won⟩ := holds
      exact ⟨fun holder => free (keeps.holder.mp holder), accounted.kept keeps,
        fun call is => (won call is).kept keeps⟩

omit [DecidableEq Process] in
/-- What holds during a call is kept. -/
theorem ProcessCall.During.kept {call : ProcessCall} {tenure : Tenure}
    (during : call.During process tenure before) : call.During process tenure after := by
  cases call with
  | opening call =>
      cases tenure with
      | waiting => exact Unbegun.kept keeps during
      | live => cases during
      | gone => cases during
  | append payload =>
      cases tenure with
      | waiting => cases during
      | gone => cases during
      | live opened store outcomes =>
          obtain ⟨won, accounted, counted, last, frames, tail, session, rest⟩ := during
          refine ⟨won.kept keeps, accounted.kept keeps, by rw [keeps.begun]; exact counted,
            by rw [keeps.begun]; exact last, frames, tail, session.kept keeps, ?_⟩
          rcases rest with left | part
          · exact Or.inl (left.kept keeps)
          · exact Or.inr (part.kept keeps)
  | releaseExclusion =>
      cases tenure with
      | waiting => cases during
      | gone => cases during
      | live opened store outcomes =>
          obtain ⟨won, accounted⟩ := during
          exact ⟨won.kept keeps, accounted.kept keeps⟩

omit [DecidableEq Process] in
/-- So is what a call ends in. -/
theorem ProcessCall.Ends.kept {call : ProcessCall} {tenure final : Tenure}
    (ends : call.Ends process tenure final before) : call.Ends process tenure final after := by
  cases call with
  | opening call =>
      cases tenure with
      | live => cases ends
      | gone => cases ends
      | waiting =>
          rcases ends with refused | ⟨store, is, won, frames, session⟩
          · exact Or.inl refused
          · exact Or.inr ⟨store, is, won.kept keeps, frames, session.kept keeps⟩
  | append payload =>
      cases tenure with
      | waiting => cases ends
      | gone => cases ends
      | live opened store outcomes =>
          obtain ⟨outcome, later, is, appended, settled⟩ := ends
          refine ⟨outcome, later, is, ⟨?_, ?_⟩, settled.kept keeps⟩
          · intro author
            exact appended.written ((keeps.authors _).mp author)
          · intro count landed
            exact (keeps.authors _).mpr (appended.landed landed)
  | releaseExclusion =>
      cases tenure with
      | waiting => cases ends
      | gone => cases ends
      | live opened store outcomes => exact ends

end Discipline

end Pardosa
