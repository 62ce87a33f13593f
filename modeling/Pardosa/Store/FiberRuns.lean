import Pardosa.Store.FiberReplay

/-!
# Runs of a fiber handle

Which envelopes a handle mints. A call that succeeds mints an envelope that extends
the history so far, under a flag that the lifecycle permits there, and every such
envelope is minted by some call.
-/

namespace Pardosa

open Foundation

/-- A call on a handle that may mint an envelope. -/
inductive LifecycleCall where
  | append (eventId : Id) (payload : Bytes)
  | detach (eventId : Id) (payload : Bytes)
  | rescue (eventId : Id) (payload : Bytes)
deriving DecidableEq, Repr

/-- Whether the lifecycle permits a detached or an attached envelope behind a history:
only a defined fiber detaches, and a detached one is rescued first. -/
def Permits (history : List EventEnvelope) (detached : Bool) : Prop :=
  detached = true → ∃ tip ∈ tipOf history, tip.envelope.header.detached = false

/-- Every envelope of a sequence is permitted where it stands. -/
inductive Lawful : List EventEnvelope → Prop where
  | nil : Lawful []
  | concat {history : List EventEnvelope} {envelope : EventEnvelope} (lawful : Lawful history)
      (permitted : Permits history envelope.header.detached) : Lawful (history ++ [envelope])

/-- The last envelope of a lawful sequence is permitted behind the others. -/
theorem Lawful.permits {history : List EventEnvelope} {envelope : EventEnvelope}
    (lawful : Lawful (history ++ [envelope])) : Permits history envelope.header.detached := by
  generalize whole : history ++ [envelope] = sequence at lawful
  cases lawful with
  | nil => simp at whole
  | concat before permitted =>
      obtain ⟨rfl, last⟩ := List.append_inj' whole rfl
      cases last
      exact permitted

variable [Digests]

namespace LifecycleCall

/-- Perform a call on a handle. -/
def perform (handle : FiberHandle) : LifecycleCall →
    Except OperationFailure EventEnvelope × FiberHandle
  | .append eventId payload => handle.append eventId payload
  | .detach eventId payload => handle.detach eventId payload
  | .rescue eventId payload => handle.rescue eventId payload

/-- The envelopes the successful calls of a run return, and the handle it leaves. -/
def run : List LifecycleCall → FiberHandle → List EventEnvelope × FiberHandle
  | [], handle => ([], handle)
  | call :: calls, handle => match call.perform handle with
      | (.error _, after) => run calls after
      | (.ok envelope, after) => (envelope :: (run calls after).1, (run calls after).2)

/-- A refused call leaves the handle alone. -/
theorem perform_error {call : LifecycleCall} {handle after : FiberHandle}
    {failure : OperationFailure} (refused : call.perform handle = (.error failure, after)) :
    after = handle := by
  cases call with
  | append eventId payload =>
      simp only [perform, FiberHandle.append] at refused
      split at refused
      · cases refused
        rfl
      · split at refused
        · split at refused <;> cases refused
          rfl
        · split at refused <;> cases refused
          rfl
        · cases refused
        · cases refused
          rfl
        · cases refused
          rfl
  | detach eventId payload =>
      simp only [perform, FiberHandle.detach] at refused
      split at refused
      · cases refused
        rfl
      · split at refused <;> cases refused <;> rfl
  | rescue eventId payload =>
      simp only [perform, FiberHandle.rescue] at refused
      split at refused
      · cases refused
        rfl
      · split at refused
        · cases refused
        · split at refused <;> cases refused
          rfl
        · cases refused
          rfl
        · cases refused
          rfl
        · cases refused
          rfl

end LifecycleCall

namespace FiberHandle

/-- The handle that stands behind a history. -/
def standing (fiberId : Id) (history : List EventEnvelope) : FiberHandle :=
  ((tipOf history).map (FiberTip.handle fiberId)).getD (new fiberId)

/-- Behind no envelopes stands a new handle. -/
@[simp] theorem standing_nil (fiberId : Id) : standing fiberId [] = new fiberId := rfl

/-- Behind some envelopes a handle stands at the last of them. -/
@[simp] theorem standing_concat (fiberId : Id) (history : List EventEnvelope)
    (envelope : EventEnvelope) :
    standing fiberId (history ++ [envelope]) =
      ⟨fiberId, envelope.fiberState, envelope.header.eventId, envelope.commitment,
        history.length + 1⟩ := by
  simp [standing, FiberTip.handle]

/-- A handle counts the envelopes that it stands behind. -/
@[simp] theorem eventCount_standing (fiberId : Id) (history : List EventEnvelope) :
    (standing fiberId history).eventCount = history.length := by
  rcases List.eq_nil_or_concat history with rfl | ⟨earlier, last, rfl⟩
  · rfl
  · simp [List.concat_eq_append]

omit [Digests] in
/-- A handle counts on exactly under a new identifier and within its limit. -/
theorem nextCount_ok_iff {handle : FiberHandle} {eventId : Id} {count : Nat} :
    handle.nextCount eventId = .ok count ↔
      eventId ≠ zeroId ∧ eventId ≠ handle.precursor ∧ handle.eventCount < maxEventsPerFiber ∧
        count = handle.eventCount + 1 := by
  unfold nextCount
  split_ifs with zero same full
  · simp [zero]
  · simp [same]
  · simp only [false_iff]
    rintro ⟨-, -, room, -⟩
    omega
  · simp only [Except.ok.injEq, zero, same, ne_eq, not_false_eq_true, true_and]
    omega

omit [Digests] in
/-- A first envelope is minted exactly under a name and within a frame. -/
theorem mintGenesis_ok_iff {handle : FiberHandle} {eventId : Id} {payload : Bytes}
    {detail : String} {envelope : EventEnvelope} :
    handle.mintGenesis eventId payload detail = .ok envelope ↔
      eventId ≠ zeroId ∧ payload.length + 85 ≤ u32Max ∧
        envelope = ⟨⟨eventId, handle.fiberId, false, zeroId, zeroHash⟩, payload⟩ := by
  unfold mintGenesis EventEnvelope.genesis
  simp only [mapError_eq_ok, throwIf_eq_ok, bind_eq_ok, pure_eq_ok]
  constructor
  · rintro ⟨named, len, measured, rfl⟩
    obtain ⟨rfl, -, fits⟩ := envelopeWireLen_ok measured
    exact ⟨named, fits, rfl⟩
  · rintro ⟨named, fits, rfl⟩
    exact ⟨named, _, envelopeWireLen_of_le fits fits, rfl⟩

/-- Minting an envelope moves the handle behind it. -/
theorem advanced_standing {fiberId : Id} {history : List EventEnvelope} {envelope : EventEnvelope}
    {state : FiberState} (reached : state = envelope.fiberState) :
    (standing fiberId history).advanced state envelope (history.length + 1) =
      standing fiberId (history ++ [envelope]) := by
  rw [standing_concat, reached]
  rcases List.eq_nil_or_concat history with rfl | ⟨earlier, last, rfl⟩
  · rfl
  · rw [List.concat_eq_append, standing_concat]
    rfl

/-- The first envelope of a fiber. -/
theorem extends_nil_iff {envelope : EventEnvelope} : Extends [] envelope ↔
    envelope.header.precursor = zeroId ∧ envelope.header.precursorHash = zeroHash := Iff.rfl

/-- An envelope extends a history when it follows the last of it. -/
theorem extends_concat_iff {history : List EventEnvelope} {last envelope : EventEnvelope} :
    Extends (history ++ [last]) envelope ↔ Follows last envelope := by
  simp [Extends]

end FiberHandle

namespace LifecycleCall

open FiberHandle

/-- Every envelope that is minted is in order, and the handle moves behind it. -/
theorem perform_ok {fiberId : Id} {history : List EventEnvelope} {call : LifecycleCall}
    {envelope : EventEnvelope} {after : FiberHandle}
    (performed : call.perform (standing fiberId history) = (.ok envelope, after)) :
    envelope.header.eventId ≠ zeroId ∧ Extends history envelope ∧
      envelope.header.fiberId = fiberId ∧ history.length < maxEventsPerFiber ∧
      Permits history envelope.header.detached ∧
      after = standing fiberId (history ++ [envelope]) := by
  rcases List.eq_nil_or_concat history with rfl | ⟨earlier, last, rfl⟩
  · cases call with
    | append eventId payload =>
        simp only [perform, FiberHandle.append] at performed
        split at performed
        · cases performed
        · rename_i count counted
          obtain ⟨named, -, room, rfl⟩ := nextCount_ok_iff.mp counted
          simp only [standing_nil, new] at performed
          split at performed
          · cases performed
          · rename_i minted
            cases performed
            obtain ⟨-, -, rfl⟩ := mintGenesis_ok_iff.mp minted
            refine ⟨named, ⟨rfl, rfl⟩, rfl, room, ?_, rfl⟩
            rintro ⟨⟩
    | detach eventId payload =>
        simp only [perform, FiberHandle.detach, standing_nil, new] at performed
        split at performed <;> cases performed
    | rescue eventId payload =>
        simp only [perform, FiberHandle.rescue, standing_nil, new] at performed
        split at performed <;> cases performed
  · rw [List.concat_eq_append] at performed ⊢
    -- what a chained envelope is: the handle carries the last identifier and commitment
    have chain : ∀ detached eventId payload count state,
        (standing fiberId (earlier ++ [last])).nextCount eventId = .ok count →
        state = (if detached then FiberState.detached else .defined) →
        (detached = true → last.header.detached = false) →
        (.ok ((standing fiberId (earlier ++ [last])).chained detached eventId payload),
          (standing fiberId (earlier ++ [last])).advanced state
            ((standing fiberId (earlier ++ [last])).chained detached eventId payload) count) =
          ((.ok envelope, after) : Except OperationFailure EventEnvelope × FiberHandle) →
        envelope.header.eventId ≠ zeroId ∧ Extends (earlier ++ [last]) envelope ∧
          envelope.header.fiberId = fiberId ∧
          (earlier ++ [last]).length < maxEventsPerFiber ∧
          Permits (earlier ++ [last]) envelope.header.detached ∧
          after = standing fiberId (earlier ++ [last] ++ [envelope]) := by
      rintro detached eventId payload count state counted reached permitted minted
      obtain ⟨named, -, room, rfl⟩ := nextCount_ok_iff.mp counted
      rw [eventCount_standing] at room minted
      cases minted
      refine ⟨named, ?_, ?_, room, ?_, advanced_standing reached⟩
      · rw [extends_concat_iff, chained, standing_concat]
        exact ⟨rfl, rfl⟩
      · rw [chained, standing_concat]
      · intro isDetached
        exact ⟨_, tipOf_concat earlier last, permitted isDetached⟩
    have state : (standing fiberId (earlier ++ [last])).state = last.fiberState := by
      rw [standing_concat]
    cases flag : last.header.detached with
    | false =>
        simp only [EventEnvelope.fiberState, flag, Bool.false_eq_true, if_false] at state
        cases call with
        | append eventId payload =>
            simp only [perform, FiberHandle.append, state] at performed
            split at performed
            · cases performed
            · exact chain _ _ _ _ _ ‹_› rfl (by rintro ⟨⟩) performed
        | detach eventId payload =>
            simp only [perform, FiberHandle.detach, state] at performed
            split at performed
            · cases performed
            · exact chain _ _ _ _ _ ‹_› rfl (fun _ => flag) performed
        | rescue eventId payload =>
            simp only [perform, FiberHandle.rescue, state] at performed
            split at performed <;> cases performed
    | true =>
        simp only [EventEnvelope.fiberState, flag, if_true] at state
        cases call with
        | append eventId payload =>
            simp only [perform, FiberHandle.append, state] at performed
            split at performed <;> cases performed
        | detach eventId payload =>
            simp only [perform, FiberHandle.detach, state] at performed
            split at performed <;> cases performed
        | rescue eventId payload =>
            simp only [perform, FiberHandle.rescue, state] at performed
            split at performed
            · cases performed
            · exact chain _ _ _ _ _ ‹_› rfl (by rintro ⟨⟩) performed

/-- A run mints a lawful history, as long as no identifier comes twice, and leaves the
handle behind it. -/
theorem run_standing {fiberId : Id} {calls : List LifecycleCall} {history : List EventEnvelope}
    (holds : IsHistory history)
    (own : ∀ envelope ∈ history, envelope.header.fiberId = fiberId) (lawful : Lawful history)
    (distinct : (eventIds (history ++ (run calls (standing fiberId history)).1)).Nodup) :
    IsHistory (history ++ (run calls (standing fiberId history)).1) ∧
      (∀ envelope ∈ history ++ (run calls (standing fiberId history)).1,
        envelope.header.fiberId = fiberId) ∧
      Lawful (history ++ (run calls (standing fiberId history)).1) ∧
      (run calls (standing fiberId history)).2 =
        standing fiberId (history ++ (run calls (standing fiberId history)).1) := by
  induction calls generalizing history with
  | nil =>
      simp only [run, List.append_nil]
      exact ⟨holds, own, lawful, trivial⟩
  | cons call calls ih =>
      cases performed : call.perform (standing fiberId history) with
      | mk outcome after =>
          cases outcome with
          | error failure =>
              obtain rfl := perform_error performed
              simp only [run, performed] at distinct ⊢
              exact ih holds own lawful distinct
          | ok envelope =>
              obtain ⟨named, linked, ownsToo, room, permitted, rfl⟩ := perform_ok performed
              have minted : run (call :: calls) (standing fiberId history) =
                  (envelope :: (run calls (standing fiberId (history ++ [envelope]))).1,
                    (run calls (standing fiberId (history ++ [envelope]))).2) := by
                simp only [run, performed]
              rw [minted] at distinct ⊢
              dsimp only at distinct ⊢
              rw [List.append_cons] at distinct ⊢
              have fresh : ∀ earlier ∈ history,
                  earlier.header.eventId ≠ envelope.header.eventId := by
                intro earlier member same
                unfold eventIds at distinct
                rw [List.map_append, List.map_append, List.nodup_append, List.nodup_append]
                  at distinct
                exact distinct.1.2.2 _ (List.mem_map.mpr ⟨earlier, member, rfl⟩) _ (by simp) same
              refine ih (IsHistory.concat_iff.mpr ⟨holds, linked, named, fresh, room⟩) ?_
                (lawful.concat permitted) distinct
              intro each member
              rcases List.mem_append.mp member with before | isNew
              · exact own each before
              · rw [List.mem_singleton.mp isNew]
                exact ownsToo

/-- A run in two parts is the run of both. -/
theorem run_append (first second : List LifecycleCall) (handle : FiberHandle) :
    run (first ++ second) handle =
      ((run first handle).1 ++ (run second (run first handle).2).1,
        (run second (run first handle).2).2) := by
  induction first generalizing handle with
  | nil => rfl
  | cons call calls ih =>
      cases performed : call.perform handle with
      | mk outcome after =>
          cases outcome with
          | error failure => simp only [List.cons_append, run, performed, ih]
          | ok envelope => simp only [List.cons_append, run, performed, ih]

/-- Every envelope in order is minted by some call. -/
theorem exists_perform_ok {fiberId : Id} {history : List EventEnvelope} {envelope : EventEnvelope}
    (grown : IsHistory (history ++ [envelope])) (own : envelope.header.fiberId = fiberId)
    (permitted : Permits history envelope.header.detached)
    (fits : envelope.payload.length + 85 ≤ u32Max) :
    ∃ call : LifecycleCall, call.perform (standing fiberId history) =
      (.ok envelope, standing fiberId (history ++ [envelope])) := by
  obtain ⟨-, linked, named, fresh, room⟩ := IsHistory.concat_iff.mp grown
  obtain ⟨⟨eventId, fiber, detached, precursor, precursorHash⟩, payload⟩ := envelope
  dsimp only at own
  subst own
  rcases List.eq_nil_or_concat history with rfl | ⟨earlier, last, rfl⟩
  · obtain ⟨rfl, rfl⟩ := extends_nil_iff.mp linked
    obtain rfl : detached = false := by
      by_contra isDetached
      obtain ⟨tip, isTip, -⟩ := permitted (by simpa using isDetached)
      cases isTip
    have counted : (new fiber).nextCount eventId = .ok 1 :=
      nextCount_ok_iff.mpr ⟨named, named, room, rfl⟩
    have minted : (new fiber).mintGenesis eventId payload
        "failed to construct genesis envelope" =
          .ok ⟨⟨eventId, fiber, false, zeroId, zeroHash⟩, payload⟩ :=
      mintGenesis_ok_iff.mpr ⟨named, fits, rfl⟩
    have created : (new fiber).state = .undefined := rfl
    refine ⟨.append eventId payload, ?_⟩
    simp only [perform, FiberHandle.append, standing_nil, counted, created, minted]
    rfl
  · rw [List.concat_eq_append] at *
    obtain ⟨rfl, rfl⟩ := extends_concat_iff.mp linked
    have counted : (standing fiber (earlier ++ [last])).nextCount eventId =
        .ok ((earlier ++ [last]).length + 1) := by
      refine nextCount_ok_iff.mpr ⟨named, ?_, ?_, ?_⟩
      · rw [standing_concat]
        exact (fresh last (by simp)).symm
      · rwa [eventCount_standing]
      · rw [eventCount_standing]
    have state : (standing fiber (earlier ++ [last])).state = last.fiberState := by
      rw [standing_concat]
    have written : (standing fiber (earlier ++ [last])).chained detached eventId payload =
        ⟨⟨eventId, fiber, detached, last.header.eventId, last.commitment⟩, payload⟩ := by
      rw [chained, standing_concat]
    rw [← written]
    unfold EventEnvelope.fiberState at state
    cases detached with
    | true =>
        obtain ⟨tip, isTip, attached⟩ := permitted rfl
        rw [tipOf_concat, Option.mem_some_iff] at isTip
        subst isTip
        have defined : last.header.detached = false := attached
        refine ⟨.detach eventId payload, ?_⟩
        rw [if_neg (by simp [defined])] at state
        simp only [perform, FiberHandle.detach, counted, state]
        exact congrArg (Prod.mk _) (advanced_standing rfl)
    | false =>
        cases flag : last.header.detached with
        | false =>
            refine ⟨.append eventId payload, ?_⟩
            rw [if_neg (by simp [flag])] at state
            simp only [perform, FiberHandle.append, counted, state]
            exact congrArg (Prod.mk _) (advanced_standing rfl)
        | true =>
            refine ⟨.rescue eventId payload, ?_⟩
            rw [if_pos flag] at state
            simp only [perform, FiberHandle.rescue, counted, state]
            exact congrArg (Prod.mk _) (advanced_standing rfl)

/-- Every lawful history whose envelopes fit their frames is minted by a run. -/
theorem exists_run {fiberId : Id} {history : List EventEnvelope} (holds : IsHistory history)
    (own : ∀ envelope ∈ history, envelope.header.fiberId = fiberId) (lawful : Lawful history)
    (fits : ∀ envelope ∈ history, envelope.payload.length + 85 ≤ u32Max) :
    ∃ calls, run calls (new fiberId) = (history, standing fiberId history) := by
  induction lawful with
  | nil => exact ⟨[], rfl⟩
  | @concat history envelope lawful permitted ih =>
      obtain ⟨calls, minted⟩ := ih (IsHistory.concat_iff.mp holds).1
        (fun other member => own other (List.mem_append_left _ member))
        (fun other member => fits other (List.mem_append_left _ member))
      obtain ⟨call, performed⟩ := exists_perform_ok holds (own envelope (by simp)) permitted
        (fits envelope (by simp))
      refine ⟨calls ++ [call], ?_⟩
      rw [run_append, minted]
      simp only [run, performed]

end LifecycleCall

end Pardosa
