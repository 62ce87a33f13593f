import Pardosa.Store.FiberViews
import Pardosa.Store.Landings
import Pardosa.Store.Session

/-!
# The lifecycle of what has landed

Handles mint only what the lifecycle permits. The index looks at links, identifiers
and counts, not at the detached flag, so an append of an envelope made elsewhere may
land out of order; as long as no call does that, every fiber's landed envelopes are
what some run of a handle mints.
-/

namespace Pardosa

open Foundation

section Runs

variable [Digests]

/-- A handle that the index hands out stands behind the fiber's history. -/
theorem HistoryInvariant.fiber_ok {index : SessionIndex} {accepted : List EventEnvelope}
    {fiberId : Id} {handle : FiberHandle} (holds : HistoryInvariant index accepted)
    (found : index.fiber fiberId = .ok handle) :
    handle = FiberHandle.standing fiberId (ofFiber accepted fiberId) := by
  unfold SessionIndex.fiber at found
  unfold FiberHandle.standing
  split_ifs at found
  cases slot : index.fibers.lookup fiberId with
  | none =>
      rw [slot] at found
      rw [holds.untracked fiberId slot]
      cases found
      rfl
  | some kept =>
      rw [slot] at found
      cases kept with
      | broken reason eventCount => cases found
      | active tip =>
          rw [(holds.active fiberId tip slot).tipOf_eq]
          simp only [Option.map_some, Option.getD_some, FiberTip.handle,
            EventEnvelope.fiberState] at found ⊢
          cases flag : tip.envelope.header.detached with
          | false =>
              simp only [flag, Bool.false_eq_true, if_false, FiberHandle.withState] at found ⊢
              split_ifs at found
              cases found
              rfl
          | true =>
              simp only [flag, if_true, FiberHandle.withState] at found ⊢
              split_ifs at found
              cases found
              rfl

omit [Digests] in
/-- An envelope that a frame holds is within what a frame holds. -/
theorem SessionIndex.framed_of_decode {frame : Bytes} {envelope : EventEnvelope}
    (decoded : decodeAndValidateFrame frame = .ok envelope) (fits : frame.length ≤ u32Max) :
    envelope.payload.length + 85 ≤ u32Max := by
  obtain ⟨covered, -⟩ := EventEnvelope.decode_ok (decodeAndValidateFrame_ok_iff.mp decoded)
  omega

/-- An unbroken fiber whose accepted envelopes are as handles mint them: flags in order,
every envelope within a frame. -/
structure LawfulFiber (index : SessionIndex) (accepted : List EventEnvelope) (fiberId : Id) :
    Prop where
  agrees : HistoryInvariant index accepted
  unbroken : ∀ reason eventCount, index.fibers.lookup fiberId ≠ some (.broken reason eventCount)
  lawful : Lawful (ofFiber accepted fiberId)
  framed : ∀ envelope ∈ ofFiber accepted fiberId, envelope.payload.length + 85 ≤ u32Max

namespace LawfulFiber

variable {index : SessionIndex} {accepted : List EventEnvelope} {envelope : EventEnvelope}
  {fiberId : Id}

/-- A commit to the fiber keeps it lawful when its lifecycle permits the envelope, and a
commit to another fiber leaves it alone. -/
theorem commit (holds : LawfulFiber index accepted fiberId) (admits : index.Admits envelope)
    (permitted : envelope.header.fiberId = fiberId →
      Permits (ofFiber accepted envelope.header.fiberId) envelope.header.detached)
    (framed : envelope.payload.length + 85 ≤ u32Max) :
    LawfulFiber (index.commitEnvelopeUnchecked envelope) (accepted ++ [envelope]) fiberId := by
  by_cases same : fiberId = envelope.header.fiberId
  · subst same
    refine ⟨holds.agrees.commit admits, ?_, ?_, ?_⟩
    · simp [SessionIndex.commitEnvelopeUnchecked]
    · rw [ofFiber_append_self]
      exact holds.lawful.concat (permitted rfl)
    · rw [ofFiber_append_self]
      intro other member
      rcases List.mem_append.mp member with earlier | last
      · exact holds.framed other earlier
      · rw [List.mem_singleton.mp last]
        exact framed
  · refine ⟨holds.agrees.commit admits, ?_, ?_, ?_⟩
    · rw [index.commitEnvelopeUnchecked_lookup_of_ne same]
      exact holds.unbroken
    · rw [ofFiber_append_of_ne same]
      exact holds.lawful
    · rw [ofFiber_append_of_ne same]
      exact holds.framed

/-- A lawful fiber is minted by a run of a handle. -/
theorem minted (holds : LawfulFiber index accepted fiberId) :
    ∃ calls handle, LifecycleCall.run calls (FiberHandle.new fiberId) =
      (ofFiber accepted fiberId, handle) := by
  obtain ⟨calls, minted⟩ := LifecycleCall.exists_run (holds.agrees.unbroken holds.unbroken).1
    own_of_mem_ofFiber holds.lawful holds.framed
  exact ⟨calls, _, minted⟩

end LawfulFiber

/-- The lifecycle permits an envelope behind the tip that an index keeps of its fiber. -/
def SessionIndex.PermitsNext (index : SessionIndex) (envelope : EventEnvelope) : Prop :=
  envelope.header.detached = true → ∃ tip,
    index.fibers.lookup envelope.header.fiberId = some (.active tip) ∧
      tip.envelope.header.detached = false

/-- What the index keeps of a fiber is what its lifecycle looks at. -/
theorem HistoryInvariant.permits {index : SessionIndex} {accepted : List EventEnvelope}
    {envelope : EventEnvelope} (holds : HistoryInvariant index accepted)
    (permitted : index.PermitsNext envelope) :
    Permits (ofFiber accepted envelope.header.fiberId) envelope.header.detached := by
  intro detached
  obtain ⟨tip, slot, attached⟩ := permitted detached
  exact ⟨tip, (holds.active _ tip slot).tipOf_eq, attached⟩

variable {S : Signature} {Engine World : Type} [StorageEngine S Engine]
  {setting : Setting S World}

/-- A raw append is in order for a fiber when the session is uncertain and refuses it, or
when what it may land in the fiber is permitted; the lifecycle calls see to that
themselves. -/
def WriteCall.InOrder (fiberId : Id) (store : Store Engine) : WriteCall → Prop
  | .appendFrame payload => store.isUncertain = false → ∀ envelope,
      AdmittedFrame store.fiberIndex payload envelope → envelope.header.fiberId = fiberId →
        store.fiberIndex.PermitsNext envelope
  | .appendEnvelope envelope => store.isUncertain = false → store.fiberIndex.Admits envelope →
      envelope.header.fiberId = fiberId → store.fiberIndex.PermitsNext envelope
  | .appendToFiber .. | .detachFiber .. | .rescueFiber .. => True

/-- What a lifecycle call does to a handle. -/
def LifecycleCall.mint (call : LifecycleCall) (handle : FiberHandle) :
    Except OperationFailure EventEnvelope × FiberHandle :=
  call.perform handle

/-- What a handle of the session mints is permitted behind its own fiber. -/
theorem Store.Mints.permits {store : Store Engine} {accepted : List EventEnvelope}
    {envelope : EventEnvelope} {call : LifecycleCall} {fiberId : Id}
    (mints : store.Mints call.mint fiberId envelope)
    (holds : HistoryInvariant store.fiberIndex accepted) :
    Permits (ofFiber accepted envelope.header.fiberId) envelope.header.detached := by
  obtain ⟨handle, handleAt, minted⟩ := mints
  have found : store.fiberIndex.fiber fiberId = .ok handle := by
    unfold Store.fiber at handleAt
    obtain ⟨-, -, found⟩ := bind_eq_ok.mp handleAt
    exact found
  obtain rfl := holds.fiber_ok found
  cases performed : call.perform (FiberHandle.standing fiberId (ofFiber accepted fiberId)) with
  | mk outcome after =>
      rw [LifecycleCall.mint, performed] at minted
      cases minted
      obtain ⟨-, -, rfl, -, permitted, -⟩ := LifecycleCall.perform_ok performed
      exact permitted

/-- A call that is in order for a fiber writes there what the lifecycle permits. -/
theorem WriteCall.Writes.permits {call : WriteCall} {store : Store Engine} {fiberId : Id}
    {accepted : List EventEnvelope} {envelope : EventEnvelope} {payload : Bytes}
    (writes : call.Writes store envelope payload) (certain : store.isUncertain = false)
    (inOrder : call.InOrder fiberId store)
    (admitted : AdmittedFrame store.fiberIndex payload envelope)
    (holds : HistoryInvariant store.fiberIndex accepted)
    (own : envelope.header.fiberId = fiberId) :
    Permits (ofFiber accepted envelope.header.fiberId) envelope.header.detached := by
  cases call with
  | appendFrame passed =>
      cases writes
      exact holds.permits (inOrder certain envelope admitted own)
  | appendEnvelope passed =>
      obtain ⟨rfl, -⟩ := writes
      exact holds.permits (inOrder certain admitted.admits own)
  | appendToFiber target eventId body =>
      have mints : store.Mints (LifecycleCall.append eventId body).mint target envelope := writes.1
      exact mints.permits holds
  | detachFiber target eventId body =>
      have mints : store.Mints (LifecycleCall.detach eventId body).mint target envelope := writes.1
      exact mints.permits holds
  | rescueFiber target eventId body =>
      have mints : store.Mints (LifecycleCall.rescue eventId body).mint target envelope := writes.1
      exact mints.permits holds

/-- A write that is in order for a fiber where it is made. -/
def OrderedStep (fiberId : Id) (setting : Setting S World) (before : Store Engine × World)
    (event : WriteCall × Except OperationFailure (WriteLandingVerdict WriteReceipt))
    (after : Store Engine × World) : Prop :=
  WriteStep setting before event after ∧ event.1.InOrder fiberId before.1

/-- Only a certain session lands anything. -/
theorem WriteStep.certain {before after : Store Engine × World} {payload : Bytes}
    {event : WriteCall × Except OperationFailure (WriteLandingVerdict WriteReceipt)}
    (step : WriteStep setting before event after) (lands : writtenPayload event = some payload) :
    before.1.isUncertain = false := by
  by_contra uncertain
  obtain ⟨call, outcome⟩ := event
  obtain ⟨store, world⟩ := before
  obtain ⟨written, later⟩ := after
  obtain ⟨failure, refused⟩ := call.perform_uncertain (Bool.eq_true_of_not_eq_false uncertain)
  have ended : call.perform.Runs setting store world outcome written later := step
  rw [Action.Runs, refused] at ended
  cases ended
  rw [writtenPayload_error] at lands
  cases lands

/-- Through a run that is in order for a fiber, what has landed in it stays lawful. -/
theorem LawfulFiber.run {before after : Store Engine × World} {accepted : List EventEnvelope}
    {fiberId : Id}
    {events : List (WriteCall × Except OperationFailure (WriteLandingVerdict WriteReceipt))}
    (run : Trace (OrderedStep fiberId setting) before events after)
    (holds : LawfulFiber before.1.fiberIndex accepted fiberId) :
    LawfulFiber after.1.fiberIndex (accepted ++ envelopesOf (writtenPayloads events)) fiberId := by
  induction run generalizing accepted with
  | nil =>
      rw [writtenPayloads, List.filterMap_nil, envelopesOf_nil, List.append_nil]
      exact holds
  | @cons start next final event events step rest ih =>
      obtain ⟨written, inOrder⟩ := step
      obtain ⟨quiet, index, -⟩ | ⟨envelope, payload, lands, admitted, writes, index, -⟩ :=
        written.landed
      · rw [writtenPayloads, List.filterMap_cons_none quiet]
        exact ih (index ▸ holds)
      · rw [writtenPayloads, List.filterMap_cons_some lands,
          envelopesOf_cons_ok admitted.decoded, List.append_cons]
        refine ih ?_
        rw [index]
        exact holds.commit admitted.admits
          (writes.permits (written.certain lands) inOrder admitted holds.agrees)
          (SessionIndex.framed_of_decode admitted.decoded admitted.fits)

/-- Where every raw append is in order for a fiber, its landed envelopes are a sequence that
the lifecycle allows, and one that some run of a handle mints. -/
theorem Store.landed_history_lawful {engine opened : Engine} {world openedWorld later : World}
    {store live : Store Engine} {prior : List Bytes} {fiberId : Id}
    {events : List (WriteCall × Except OperationFailure (WriteLandingVerdict WriteReceipt))}
    (delivers : StorageEngine.Delivers setting engine world (.ok prior))
    (opening : openWriter.Runs setting engine world (.ok store) opened openedWorld)
    (unbroken : ∀ reason eventCount,
      store.fiberIndex.fibers.lookup fiberId ≠ some (.broken reason eventCount))
    (lawful : Lawful (ofFiber (envelopesOf prior) fiberId))
    (run : Trace (OrderedStep fiberId setting) (store, openedWorld) events (live, later)) :
    Lawful (ofFiber (envelopesOf (prior ++ writtenPayloads events)) fiberId) ∧
      ∃ calls handle, LifecycleCall.run calls (FiberHandle.new fiberId) =
        (ofFiber (envelopesOf (prior ++ writtenPayloads events)) fiberId, handle) := by
  obtain ⟨fits, index, built, rfl⟩ :=
    (Action.wp_of_runs opening (wp_openWriter_delivers delivers) store).mp rfl
  have agrees := HistoryInvariant.start.processFrames built
  rw [List.nil_append] at agrees
  have start : LawfulFiber index (envelopesOf prior) fiberId := by
    refine ⟨agrees, unbroken, lawful, ?_⟩
    intro envelope member
    obtain ⟨frame, logged, decoded⟩ := List.mem_filterMap.mp (mem_of_mem_ofFiber member)
    cases accepted : SessionIndex.decodeAndValidateFrame frame with
    | error failure =>
        rw [accepted] at decoded
        cases decoded
    | ok found =>
        rw [accepted] at decoded
        cases decoded
        exact SessionIndex.framed_of_decode accepted (fits frame logged)
  have landed := LawfulFiber.run run start
  rw [envelopesOf, List.filterMap_append]
  exact ⟨landed.lawful, landed.minted⟩

end Runs

section Detached

attribute [local instance] standardDigests

/-- The writes of a session over the in-memory engine, and the store they leave. -/
def inMemoryRun : List WriteCall → Store InMemoryEngine →
    List (WriteCall × Except OperationFailure (WriteLandingVerdict WriteReceipt)) ×
      Store InMemoryEngine
  | [], store => ([], store)
  | call :: calls, store =>
      let (outcome, after) := stillValue (call.perform store)
      let (events, final) := inMemoryRun calls after
      ((call, outcome) :: events, final)

/-- The writes over the in-memory engine are a run. -/
theorem trace_inMemoryRun (calls : List WriteCall) (store : Store InMemoryEngine) :
    Trace (WriteStep stillWorld) (store, ()) (inMemoryRun calls store).1
      ((inMemoryRun calls store).2, ()) := by
  induction calls generalizing store with
  | nil => exact .nil
  | cons call calls ih => exact .cons (inMemory_writeStep call store) (ih _)

/-- They are made in the order in which they are listed. -/
theorem calls_inMemoryRun (calls : List WriteCall) (store : Store InMemoryEngine) :
    (inMemoryRun calls store).1.map Prod.fst = calls := by
  induction calls generalizing store with
  | nil => rfl
  | cons call calls ih => exact congrArg (call :: ·) (ih _)

/-- The detach of the fiber that the first event opened. -/
def detachEvent : EventEnvelope :=
  ⟨⟨repeatedId 3, repeatedId 2, true, repeatedId 1, genesisEvent.commitment⟩, [8]⟩

/-- The session that has appended the first event as an envelope. -/
def openedStore : Store InMemoryEngine :=
  (stillValue ((WriteCall.appendEnvelope genesisEvent).perform freshStore)).2

/-- A first event appended as an envelope of the caller's, then detached. -/
theorem Store.landed_history_lawful_detached :
    Lawful [genesisEvent, detachEvent] ∧
      ∃ calls handle, LifecycleCall.run calls (FiberHandle.new (repeatedId 2)) =
        ([genesisEvent, detachEvent], handle) := by
  have opening : openWriter.Runs stillWorld (InMemoryEngine.new 1) () (.ok freshStore)
      (InMemoryEngine.new 1) () := runs_stillValue (openWriter (InMemoryEngine.new 1))
  have attached : (WriteCall.appendEnvelope genesisEvent).InOrder (repeatedId 2) freshStore := by
    rintro - - - ⟨⟩
  have first : OrderedStep (repeatedId 2) stillWorld (freshStore, ()) _ (openedStore, ()) :=
    ⟨inMemory_writeStep (.appendEnvelope genesisEvent) freshStore, attached⟩
  have second : OrderedStep (repeatedId 2) stillWorld (openedStore, ()) _ _ :=
    ⟨inMemory_writeStep (.detachFiber (repeatedId 2) (repeatedId 3) [8]) openedStore, trivial⟩
  have lawful := landed_history_lawful (InMemoryEngine.delivers (InMemoryEngine.new 1)) opening
    (by rintro _ _ ⟨⟩) .nil (.cons first (.cons second .nil))
  have landed : ofFiber (envelopesOf ([] ++ writtenPayloads
      [(.appendEnvelope genesisEvent,
          (stillValue ((WriteCall.appendEnvelope genesisEvent).perform freshStore)).1),
        (.detachFiber (repeatedId 2) (repeatedId 3) [8],
          (stillValue ((WriteCall.detachFiber (repeatedId 2) (repeatedId 3) [8]).perform
            openedStore)).1)])) (repeatedId 2) = [genesisEvent, detachEvent] := by
    decide +kernel
  rwa [landed] at lawful

/-- A second detach right behind it. -/
def secondDetach : EventEnvelope :=
  ⟨⟨repeatedId 4, repeatedId 2, true, repeatedId 3, detachEvent.commitment⟩, [9]⟩

/-- The writes of a session that detaches its fiber twice in a row. -/
def detachTwice : List WriteCall :=
  [.appendToFiber (repeatedId 2) (repeatedId 1) [7], .detachFiber (repeatedId 2) (repeatedId 3) [8],
    .appendEnvelope secondDetach]

/-- What the double detach lands. -/
def detachedTwice : List EventEnvelope := [genesisEvent, detachEvent, secondDetach]

/-- A fiber cannot be detached while it is detached. -/
theorem not_lawful_detachedTwice : ¬Lawful detachedTwice := by
  intro lawful
  have split : detachedTwice = [genesisEvent, detachEvent] ++ [secondDetach] := rfl
  rw [split] at lawful
  obtain ⟨tip, isTip, attached⟩ := lawful.permits rfl
  cases isTip
  cases attached

/-- A second detach lands behind the first one, which no run of a handle mints. -/
theorem Store.landed_history_unlawful :
    openWriter.Runs stillWorld (InMemoryEngine.new 1) () (.ok freshStore)
      (InMemoryEngine.new 1) () ∧
    ∃ events final, Trace (WriteStep stillWorld) (freshStore, ()) events (final, ()) ∧
      events.map Prod.fst = detachTwice ∧
      ¬Lawful (ofFiber (envelopesOf (writtenPayloads events)) (repeatedId 2)) ∧
      ∀ calls, (LifecycleCall.run calls (FiberHandle.new (repeatedId 2))).1 ≠
        ofFiber (envelopesOf (writtenPayloads events)) (repeatedId 2) := by
  refine ⟨runs_stillValue (openWriter (InMemoryEngine.new 1)), _, _,
    trace_inMemoryRun detachTwice freshStore, calls_inMemoryRun _ _, ?_⟩
  have landed : ofFiber (envelopesOf (writtenPayloads (inMemoryRun detachTwice freshStore).1))
      (repeatedId 2) = detachedTwice := by
    decide +kernel
  rw [landed]
  refine ⟨not_lawful_detachedTwice, ?_⟩
  intro calls minted
  have lawful :=
    (@LifecycleCall.run_standing _ (repeatedId 2) calls [] .nil (by simp) .nil ?_).2.2.1
  · rw [FiberHandle.standing_nil, List.nil_append, minted] at lawful
    exact not_lawful_detachedTwice lawful
  · rw [FiberHandle.standing_nil, List.nil_append, minted]
    decide +kernel

end Detached

end Pardosa
