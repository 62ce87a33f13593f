import Pardosa.Store.Atomicity
import Pardosa.Store.FiberRuns
import Pardosa.Store.Framing

/-!
# The lifecycle of a fiber handle

`FiberState.applyAction` is the state machine of a fiber, and the calls of a handle refine
it: a call that succeeds takes the transition it stands for, a call that fails changes
nothing, and every handle that any sequence of calls reaches is one that
`FiberHandle.withState` accepts. What the calls do not check, on the branches that continue
a chain, is whether the envelope they mint fits a frame.
-/

namespace Pardosa

open Foundation

/-- Migration policy applied to a fiber during migration. -/
inductive FiberMigrationPolicy where
  | keep
  | purge
  | lockAndPrune
deriving DecidableEq, Repr

/-- A lifecycle transition attempted on a fiber. -/
inductive AttemptedTransition where
  | create
  | update
  | detach
  | rescue
  | migrate (policy : FiberMigrationPolicy)
deriving DecidableEq, Repr

/-- A transition that the lifecycle rejects. -/
structure IllegalStateTransition where
  origin : FiberState
  attempted : AttemptedTransition
deriving DecidableEq, Repr

/-- The lifecycle state machine. -/
def FiberState.applyAction (state : FiberState) (action : AttemptedTransition) :
    Except IllegalStateTransition FiberState :=
  match state, action with
  | .defined, .detach => .ok .detached
  | .detached, .migrate .keep => .ok .detached
  | .detached, .migrate .lockAndPrune => .ok .locked
  | .detached, .migrate .purge | .locked, .migrate .purge => .ok .purged
  | .undefined, .create | .purged, .create => .ok .defined
  | .defined, .update => .ok .defined
  | .detached, .rescue | .locked, .rescue => .ok .defined
  | _, _ => .error ⟨state, action⟩

namespace LifecycleCall

/-- The identifier of the event that a call mints. -/
def eventId : LifecycleCall → Id
  | .append eventId _ | .detach eventId _ | .rescue eventId _ => eventId

/-- The payload of the event that a call mints. -/
def payload : LifecycleCall → Bytes
  | .append _ payload | .detach _ payload | .rescue _ payload => payload

/-- The transition that a call stands for: an append creates a fiber that is not there. -/
def action : LifecycleCall → FiberState → AttemptedTransition
  | .append _ _, .undefined | .append _ _, .purged => .create
  | .append _ _, _ => .update
  | .detach _ _, _ => .detach
  | .rescue _ _, _ => .rescue

/-- Whether a call in a state continues the chain of the fiber, so that no genesis envelope
is made. -/
def Chains : LifecycleCall → FiberState → Prop
  | .append _ _, .defined | .detach _ _, .defined | .rescue _ _, .detached => True
  | _, _ => False

end LifecycleCall

namespace FiberHandle

/-- A handle whose fields do not contradict its state. -/
def IsConsistent (handle : FiberHandle) : Prop :=
  withState handle.fiberId handle.state handle.precursor handle.precursorHash handle.eventCount =
    .ok handle

/-- What consistency asks of a fiber that has events. -/
theorem isConsistent_of_active {handle : FiberHandle}
    (active : handle.state = .defined ∨ handle.state = .detached)
    (named : handle.precursor ≠ zeroId) (committed : handle.precursorHash ≠ zeroHash)
    (begun : 0 < handle.eventCount) (bounded : handle.eventCount ≤ maxEventsPerFiber) :
    handle.IsConsistent := by
  have passes : ¬(handle.precursor = zeroId ∨ handle.precursorHash = zeroHash ∨
      handle.eventCount = 0 ∨ handle.eventCount > maxEventsPerFiber) := by
    rintro (zero | zero | zero | above)
    · exact named zero
    · exact committed zero
    · omega
    · omega
  unfold IsConsistent withState
  rcases active with state | state <;> rw [state] <;> simp only [if_neg passes] <;> rw [← state]

variable [Digests]

/-- The handles that the constructors return. -/
inductive Constructed : FiberHandle → Prop where
  | new (fiberId : Id) : Constructed (new fiberId)
  | withState {fiberId precursor : Id} {state : FiberState} {precursorHash : Hash}
      {eventCount : Nat} {handle : FiberHandle}
      (accepted : withState fiberId state precursor precursorHash eventCount = .ok handle) :
      Constructed handle
  | fromEnvelopes {fiberId : Id} {envelopes : List EventEnvelope} {handle : FiberHandle}
      (accepted : fromEnvelopes fiberId envelopes = .ok handle)
      (nonzero : ∀ envelope ∈ envelopes, envelope.commitment ≠ zeroHash) : Constructed handle

omit [Digests] in
/-- A handle made from a state is consistent. -/
theorem isConsistent_of_withState {fiberId precursor : Id} {state : FiberState}
    {precursorHash : Hash} {eventCount : Nat} {handle : FiberHandle}
    (accepted : withState fiberId state precursor precursorHash eventCount = .ok handle) :
    handle.IsConsistent := by
  have kept : handle = ⟨fiberId, state, precursor, precursorHash, eventCount⟩ := by
    unfold withState at accepted
    split at accepted <;> split_ifs at accepted <;> cases accepted <;> rfl
  subst kept
  exact accepted

omit [Digests] in
/-- So is a new handle. -/
theorem isConsistent_new (fiberId : Id) : (new fiberId).IsConsistent := by
  unfold IsConsistent withState
  simp [FiberHandle.new]

/-- Every handle that a constructor returns is consistent. -/
theorem Constructed.isConsistent {handle : FiberHandle} (constructed : Constructed handle) :
    handle.IsConsistent := by
  cases constructed with
  | new fiberId => exact isConsistent_new fiberId
  | withState accepted => exact isConsistent_of_withState accepted
  | @fromEnvelopes fiberId envelopes handle accepted nonzero =>
      obtain ⟨holds, -, rfl⟩ := fromEnvelopes_ok_iff.mp accepted
      rcases List.eq_nil_or_concat envelopes with rfl | ⟨earlier, last, rfl⟩
      · exact isConsistent_new fiberId
      · rw [List.concat_eq_append] at holds nonzero ⊢
        obtain ⟨-, -, named, -, room⟩ := IsHistory.concat_iff.mp holds
        rw [tipOf_concat]
        refine isConsistent_of_active ?_ named (nonzero last (by simp)) (Nat.succ_pos _) room
        change last.fiberState = _ ∨ last.fiberState = _
        unfold EventEnvelope.fiberState
        cases last.header.detached
        · exact .inl rfl
        · exact .inr rfl

end FiberHandle

namespace LifecycleCall

open FiberHandle

variable [Digests] {call : LifecycleCall} {before after : FiberHandle} {envelope : EventEnvelope}

/-- What a call that succeeds has checked and done. -/
structure Succeeds (call : LifecycleCall) (before : FiberHandle) (envelope : EventEnvelope)
    (after : FiberHandle) : Prop where
  named : call.eventId ≠ zeroId
  fresh : call.eventId ≠ before.precursor
  room : before.eventCount < maxEventsPerFiber
  minted : envelope.header.eventId = call.eventId
  carried : envelope.payload = call.payload
  moved : ∃ state, before.state.applyAction (call.action before.state) = .ok state ∧
    (state = .defined ∨ state = .detached) ∧
    after = before.advanced state envelope (before.eventCount + 1)
  framed : call.Chains before.state ∨ call.payload.length + 85 ≤ u32Max

/-- What follows once the checks that all calls share have passed. -/
theorem Succeeds.of_advanced {count : Nat} {state : FiberState}
    (counted : before.nextCount call.eventId = .ok count)
    (minted : envelope.header.eventId = call.eventId) (carried : envelope.payload = call.payload)
    (permitted : before.state.applyAction (call.action before.state) = .ok state)
    (active : state = .defined ∨ state = .detached)
    (framed : call.Chains before.state ∨ call.payload.length + 85 ≤ u32Max) :
    call.Succeeds before envelope (before.advanced state envelope count) := by
  obtain ⟨named, fresh, room, rfl⟩ := nextCount_ok_iff.mp counted
  exact ⟨named, fresh, room, minted, carried, ⟨state, permitted, active, rfl⟩, framed⟩

/-- A call that answers with an envelope has succeeded. -/
theorem succeeds_of_perform (performed : call.perform before = (.ok envelope, after)) :
    call.Succeeds before envelope after := by
  cases call with
  | append eventId payload =>
      simp only [perform, FiberHandle.append] at performed
      split at performed
      · cases performed
      rename_i count counted
      split at performed
      · rename_i state
        split at performed
        · cases performed
        rename_i genesis minted
        cases performed
        obtain ⟨-, fits, rfl⟩ := mintGenesis_ok_iff.mp minted
        exact .of_advanced counted rfl rfl (by rw [state]; rfl) (.inl rfl) (.inr fits)
      · rename_i state
        split at performed
        · cases performed
        rename_i genesis minted
        cases performed
        obtain ⟨-, fits, rfl⟩ := mintGenesis_ok_iff.mp minted
        exact .of_advanced counted rfl rfl (by rw [state]; rfl) (.inl rfl) (.inr fits)
      · rename_i state
        cases performed
        exact .of_advanced counted rfl rfl (by rw [state]; rfl) (.inl rfl)
          (.inl (by rw [state]; trivial))
      · cases performed
      · cases performed
  | detach eventId payload =>
      simp only [perform, FiberHandle.detach] at performed
      split at performed
      · cases performed
      rename_i count counted
      split at performed
      · rename_i state
        cases performed
        exact .of_advanced counted rfl rfl (by rw [state]; rfl) (.inr rfl)
          (.inl (by rw [state]; trivial))
      all_goals cases performed
  | rescue eventId payload =>
      simp only [perform, FiberHandle.rescue] at performed
      split at performed
      · cases performed
      rename_i count counted
      split at performed
      · rename_i state
        cases performed
        exact .of_advanced counted rfl rfl (by rw [state]; rfl) (.inl rfl)
          (.inl (by rw [state]; trivial))
      · rename_i state
        split at performed
        · cases performed
        rename_i genesis minted
        cases performed
        obtain ⟨-, fits, rfl⟩ := mintGenesis_ok_iff.mp minted
        exact .of_advanced counted rfl rfl (by rw [state]; rfl) (.inl rfl) (.inr fits)
      all_goals cases performed

/-- A call that continues a chain makes no other check than those that all calls share. -/
theorem exists_perform_of_chains (chains : call.Chains before.state)
    (named : call.eventId ≠ zeroId) (fresh : call.eventId ≠ before.precursor)
    (room : before.eventCount < maxEventsPerFiber) :
    ∃ envelope after, call.perform before = (.ok envelope, after) ∧
      envelope.payload = call.payload := by
  have counted := nextCount_ok_iff.mpr ⟨named, fresh, room, rfl⟩
  cases call with
  | append eventId payload =>
      have counted : before.nextCount eventId = .ok (before.eventCount + 1) := counted
      cases state : before.state <;> rw [state] at chains <;> try exact chains.elim
      refine ⟨before.chained false eventId payload, before.advanced .defined
        (before.chained false eventId payload) (before.eventCount + 1), ?_, rfl⟩
      simp only [perform, FiberHandle.append, counted, state]
  | detach eventId payload =>
      have counted : before.nextCount eventId = .ok (before.eventCount + 1) := counted
      cases state : before.state <;> rw [state] at chains <;> try exact chains.elim
      refine ⟨before.chained true eventId payload, before.advanced .detached
        (before.chained true eventId payload) (before.eventCount + 1), ?_, rfl⟩
      simp only [perform, FiberHandle.detach, counted, state]
  | rescue eventId payload =>
      have counted : before.nextCount eventId = .ok (before.eventCount + 1) := counted
      cases state : before.state <;> rw [state] at chains <;> try exact chains.elim
      refine ⟨before.chained false eventId payload, before.advanced .defined
        (before.chained false eventId payload) (before.eventCount + 1), ?_, rfl⟩
      simp only [perform, FiberHandle.rescue, counted, state]

/-- What a call promises of the handle it is made on. -/
structure Refines (call : LifecycleCall) (before : FiberHandle) : Prop where
  atomic : ∀ failure after, call.perform before = (.error failure, after) → after = before
  transition : ∀ envelope after, call.perform before = (.ok envelope, after) →
    before.state.applyAction (call.action before.state) = .ok after.state
  counted : ∀ envelope after, call.perform before = (.ok envelope, after) →
    after.eventCount = before.eventCount + 1 ∧ after.eventCount ≤ maxEventsPerFiber
  tip : ∀ envelope after, call.perform before = (.ok envelope, after) →
    after.fiberId = before.fiberId ∧ after.precursor = envelope.header.eventId ∧
      after.precursorHash = envelope.commitment
  encodable : ∀ envelope after, call.perform before = (.ok envelope, after) →
    (envelope.encode []).1 = .ok ()

/-- A call that continues a chain and passes the checks that all calls share has a payload
that fits a frame. -/
def FitsFrame (call : LifecycleCall) (before : FiberHandle) : Prop :=
  call.Chains before.state → call.eventId ≠ zeroId → call.eventId ≠ before.precursor →
    before.eventCount < maxEventsPerFiber → call.payload.length + 85 ≤ u32Max

/-- A call keeps its promises exactly when what it chains fits a frame. -/
theorem refines_iff : call.Refines before ↔ call.FitsFrame before := by
  constructor
  · intro refines chains named fresh room
    obtain ⟨envelope, after, performed, carried⟩ := exists_perform_of_chains chains named fresh room
    have encodable := refines.encodable envelope after performed
    rw [← carried]
    exact envelope.encode_ok_iff.mp encodable
  · intro fits
    refine ⟨fun failure after => perform_error, ?_, ?_, ?_, ?_⟩
    · intro envelope after performed
      obtain ⟨state, permitted, -, rfl⟩ := (succeeds_of_perform performed).moved
      exact permitted
    · intro envelope after performed
      have succeeds := succeeds_of_perform performed
      obtain ⟨state, -, -, rfl⟩ := succeeds.moved
      exact ⟨rfl, succeeds.room⟩
    · intro envelope after performed
      obtain ⟨state, -, -, rfl⟩ := (succeeds_of_perform performed).moved
      exact ⟨rfl, rfl, rfl⟩
    · intro envelope after performed
      have succeeds := succeeds_of_perform performed
      have framed : call.payload.length + 85 ≤ u32Max :=
        succeeds.framed.elim
          (fun chains => fits chains succeeds.named succeeds.fresh succeeds.room) id
      rw [← succeeds.carried] at framed
      exact envelope.encode_ok_iff.mpr framed

/-- A call that succeeds leaves a consistent handle. -/
theorem Succeeds.isConsistent (succeeds : call.Succeeds before envelope after)
    (nonzero : envelope.commitment ≠ zeroHash) : after.IsConsistent := by
  obtain ⟨state, -, active, rfl⟩ := succeeds.moved
  refine isConsistent_of_active active ?_ nonzero (Nat.succ_pos _) succeeds.room
  change envelope.header.eventId ≠ zeroId
  rw [succeeds.minted]
  exact succeeds.named

/-- The calls of a run, each beside the handle it is made on. -/
def steps : List LifecycleCall → FiberHandle → List (FiberHandle × LifecycleCall)
  | [], _ => []
  | call :: calls, handle => (handle, call) :: steps calls (call.perform handle).2

/-- Along a run, every handle is consistent. -/
theorem isConsistent_of_run (calls : List LifecycleCall) (handle : FiberHandle)
    (consistent : handle.IsConsistent)
    (nonzero : ∀ envelope ∈ (run calls handle).1, envelope.commitment ≠ zeroHash) :
    (∀ step ∈ steps calls handle, step.1.IsConsistent) ∧ (run calls handle).2.IsConsistent := by
  induction calls generalizing handle with
  | nil => exact ⟨nofun, consistent⟩
  | cons call calls ih =>
      simp only [steps, run, List.forall_mem_cons] at nonzero ⊢
      rcases performed : call.perform handle with ⟨_ | envelope, after⟩ <;>
        simp only [performed] at nonzero ⊢
      · obtain rfl := perform_error performed
        obtain ⟨along, final⟩ := ih after consistent nonzero
        exact ⟨⟨consistent, along⟩, final⟩
      · have succeeds := succeeds_of_perform performed
        obtain ⟨along, final⟩ := ih after
          (succeeds.isConsistent (nonzero envelope (List.mem_cons_self ..)))
          fun later mem => nonzero later (List.mem_cons_of_mem _ mem)
        exact ⟨⟨consistent, along⟩, final⟩

/-- Whatever calls are made on a handle that a constructor returned, it stays consistent, and
every call refines the lifecycle exactly when whatever continues a chain fits a frame. -/
theorem lifecycle_refined_iff {start : FiberHandle} (constructed : Constructed start)
    (calls : List LifecycleCall)
    (nonzero : ∀ envelope ∈ (run calls start).1, envelope.commitment ≠ zeroHash) :
    ((∀ step ∈ steps calls start, step.1.IsConsistent ∧ step.2.Refines step.1) ∧
      (run calls start).2.IsConsistent) ↔
    ∀ step ∈ steps calls start, step.2.FitsFrame step.1 := by
  obtain ⟨along, final⟩ := isConsistent_of_run calls start constructed.isConsistent nonzero
  constructor
  · intro refined step mem
    exact refines_iff.mp (refined.1 step mem).2
  · intro fits
    exact ⟨fun step mem => ⟨along step mem, refines_iff.mpr (fits step mem)⟩, final⟩

end LifecycleCall

section Example

attribute [local instance] standardDigests

open LifecycleCall
open FiberHandle (new)

/-- A fiber is created and detached. -/
theorem lifecycle_refined_iff_detached :
    (∀ step ∈ steps [append (repeatedId 1) [7], detach (repeatedId 2) []] (new (repeatedId 5)),
        step.1.IsConsistent ∧ step.2.Refines step.1) ∧
      (run [append (repeatedId 1) [7], detach (repeatedId 2) []]
        (new (repeatedId 5))).2.IsConsistent :=
  (lifecycle_refined_iff (.new (repeatedId 5))
      [append (repeatedId 1) [7], detach (repeatedId 2) []] (by decide +kernel)).mpr (by
    intro step mem
    simp only [steps, List.mem_cons, List.not_mem_nil, or_false] at mem
    rcases mem with rfl | rfl
    · exact fun _ _ _ _ => by decide
    · exact fun _ _ _ _ => by decide)

/-- A payload that fills a frame by itself is appended to a fiber that has an event, and the
envelope that the call returns cannot be encoded. -/
theorem chained_append_overflows_frame :
    (∀ envelope ∈ (run [append (repeatedId 1) [7]] (new (repeatedId 5))).1,
      envelope.commitment ≠ zeroHash) ∧
    ∃ envelope after, (append (repeatedId 2) (List.replicate u32Max 0)).perform
        (run [append (repeatedId 1) [7]] (new (repeatedId 5))).2 = (.ok envelope, after) ∧
      (envelope.encode []).1 ≠ .ok () := by
  refine ⟨by decide +kernel, ?_⟩
  have chains : (append (repeatedId 2) (List.replicate u32Max 0)).Chains
      (run [append (repeatedId 1) [7]] (new (repeatedId 5))).2.state := by
    have state : (run [append (repeatedId 1) [7]] (new (repeatedId 5))).2.state = .defined := by
      decide +kernel
    rw [state]
    trivial
  obtain ⟨envelope, after, performed, carried⟩ :=
    exists_perform_of_chains chains (by decide +kernel) (by decide +kernel) (by decide +kernel)
  refine ⟨envelope, after, performed, fun encodable => ?_⟩
  have fits := envelope.encode_ok_iff.mp encodable
  rw [carried, payload, List.length_replicate] at fits
  exact absurd fits (by decide)

end Example

end Pardosa
