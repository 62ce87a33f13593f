import Pardosa.Store.Consistent
import Pardosa.Store.FiberRuns

/-!
# Three views of a fiber

The handle that minted a fiber's envelopes, the handle replayed from them and the one
the session index hands out stand behind the same history. The index refuses a tip
whose commitment is all zeroes, the others do not.
-/

namespace Pardosa

open Foundation

section Views

variable [Digests]

/-- The index hands out the handle that stands behind the fiber's history. -/
theorem SessionIndex.fiber_of_history {index : SessionIndex} {fiberId : Id}
    {history : List EventEnvelope} (indexed : index.hasRawFrames = false)
    (slot : index.fibers.lookup fiberId = (tipOf history).map .active) (holds : IsHistory history)
    (nonzero : ∀ envelope ∈ history, envelope.commitment ≠ zeroHash) :
    index.fiber fiberId = .ok (FiberHandle.standing fiberId history) := by
  unfold fiber FiberHandle.standing
  rw [if_neg (by simp [indexed]), slot]
  cases isTip : tipOf history with
  | none => rfl
  | some tip =>
      have kept := holds tip isTip
      have member := List.mem_of_getLast? kept.last
      have named := kept.named tip.envelope member
      have committed := nonzero tip.envelope member
      have bounded := kept.bounded
      have counted := kept.counted
      have counts : tip.eventCount ≠ 0 := by
        rw [counted]
        exact Nat.pos_iff_ne_zero.mp (List.length_pos_of_mem member)
      have consistent : ¬(tip.envelope.header.eventId = zeroId ∨
          tip.envelope.commitment = zeroHash ∨ tip.eventCount = 0 ∨
          tip.eventCount > maxEventsPerFiber) := by
        rintro (zero | zero | zero | beyond)
        · exact named zero
        · exact committed zero
        · exact counts zero
        · omega
      simp only [Option.map_some, Option.getD_some, FiberTip.handle, EventEnvelope.fiberState]
      cases tip.envelope.header.detached with
      | false =>
          simp only [Bool.false_eq_true, if_false, FiberHandle.withState]
          rw [if_neg consistent]
      | true =>
          simp only [if_true, FiberHandle.withState]
          rw [if_neg consistent]

/-- Recovery keeps the index in agreement with the envelopes of the frames. -/
theorem HistoryInvariant.processFrames {index after : SessionIndex}
    {accepted : List EventEnvelope} {frames : List Bytes} (holds : HistoryInvariant index accepted)
    (processed : index.processFrames frames = .ok after) :
    HistoryInvariant after (accepted ++ envelopesOf frames) := by
  induction frames generalizing index accepted with
  | nil =>
      cases processed
      rw [envelopesOf_nil, List.append_nil]
      exact holds
  | cons frame frames ih =>
      let run : IndexRun := ⟨index, accepted⟩
      have step := IndexRun.step_invariant (show HistoryInvariant run.index run.accepted from holds)
        (.processFrame frame)
      simp only [IndexRun.step, IndexCall.perform, IndexCall.envelope] at step
      simp only [SessionIndex.processFrames] at processed
      cases stepped : index.processFrame frame with
      | mk outcome next =>
          rw [stepped] at processed step
          cases outcome with
          | error failure => cases processed
          | ok =>
              rw [envelopesOf_cons, ← List.append_assoc]
              exact ih step processed

/-- An unbroken fiber stands at the tip of its history. -/
theorem HistoryInvariant.unbroken {index : SessionIndex} {accepted : List EventEnvelope}
    {fiberId : Id} (holds : HistoryInvariant index accepted)
    (unbroken : ∀ reason eventCount, index.fibers.lookup fiberId ≠
      some (.broken reason eventCount)) :
    IsHistory (ofFiber accepted fiberId) ∧
      index.fibers.lookup fiberId = (tipOf (ofFiber accepted fiberId)).map .active := by
  cases slot : index.fibers.lookup fiberId with
  | none =>
      rw [holds.untracked fiberId slot]
      exact ⟨.nil, rfl⟩
  | some found =>
      cases found with
      | broken reason eventCount => exact (unbroken _ _ slot).elim
      | active tip =>
          have history := holds.active fiberId tip slot
          rw [IsHistory, history.tipOf_eq]
          refine ⟨?_, rfl⟩
          rintro _ ⟨⟩
          exact history

/-- Recovery never turns an index into one of raw frames. -/
theorem SessionIndex.hasRawFrames_processFrames {index after : SessionIndex} {frames : List Bytes}
    (processed : index.processFrames frames = .ok after) :
    after.hasRawFrames = index.hasRawFrames := by
  induction frames generalizing index with
  | nil =>
      cases processed
      rfl
  | cons frame frames ih =>
      simp only [SessionIndex.processFrames] at processed
      obtain ⟨failure, refused⟩ | ⟨envelope, -, ⟨-, committed⟩ |
        ⟨broken, ⟨_, _, _, _, rfl⟩, recorded⟩ | ⟨failure, _, -, refused⟩⟩ :=
        index.processFrame_cases frame
      · rw [refused] at processed
        cases processed
      · rw [committed] at processed
        have kept := ih processed
        exact kept
      · rw [recorded] at processed
        have kept := ih processed
        exact kept
      · rw [refused] at processed
        cases processed

omit [Digests] in
/-- The envelopes of a history are all of its fiber's. -/
theorem ofFiber_eq_self {fiberId : Id} {history : List EventEnvelope}
    (own : ∀ envelope ∈ history, envelope.header.fiberId = fiberId) :
    ofFiber history fiberId = history :=
  List.filter_eq_self.mpr fun envelope member => decide_eq_true (own envelope member)

/-- A history of one fiber is consistent by itself. -/
theorem IsHistory.consistent {fiberId : Id} {history : List EventEnvelope}
    (holds : IsHistory history)
    (own : ∀ envelope ∈ history, envelope.header.fiberId = fiberId) : Consistent history := by
  have within : history.length ≤ maxEventsPerFiber ∧ (eventIds history).Nodup := by
    cases isTip : tipOf history with
    | none =>
        rw [tipOf_eq_none_iff.mp isTip]
        exact ⟨Nat.zero_le _, List.nodup_nil⟩
    | some tip => exact ⟨(holds tip isTip).bounded, (holds tip isTip).distinct⟩
  constructor
  · intro other
    by_cases same : other = fiberId
    · rw [same, ofFiber_eq_self own]
      exact holds
    · have none : ofFiber history other = [] := by
        refine List.filter_eq_nil_iff.mpr fun envelope member => ?_
        rw [own envelope member]
        simpa using Ne.symm same
      rw [none]
      exact .nil
  · exact within.2
  · exact Nat.le_trans within.1 (by decide)
  · have single : fiberIds history ⊆ {fiberId} := by
      intro other member
      obtain ⟨envelope, found, rfl⟩ := List.mem_map.mp (List.mem_toFinset.mp member)
      rw [Finset.mem_singleton]
      exact own envelope found
    have card := Finset.card_le_card single
    rw [Finset.card_singleton] at card
    exact Nat.le_trans card (by decide)

/-- The three machines agree on every fiber: what recovery keeps of an unbroken one is
what its replay gives, and what a run of a handle minted is accepted by both with the
handle as it stands. -/
theorem FiberHandle.views_agree :
    (∀ {frames : List Bytes} {index : SessionIndex} {fiberId : Id},
      SessionIndex.buildFromFrames frames = .ok index →
      (∀ reason eventCount, index.fibers.lookup fiberId ≠ some (.broken reason eventCount)) →
      (∀ envelope ∈ envelopesOf frames, envelope.commitment ≠ zeroHash) →
      ∃ handle, index.fiber fiberId = .ok handle ∧
        fromEnvelopes fiberId (ofFiber (envelopesOf frames) fiberId) = .ok handle) ∧
    ∀ {fiberId : Id} {calls : List LifecycleCall} {minted : List EventEnvelope}
      {handle : FiberHandle},
      LifecycleCall.run calls (new fiberId) = (minted, handle) →
      (eventIds minted).Nodup →
      (∀ envelope ∈ minted, envelope.commitment ≠ zeroHash) →
      fromEnvelopes fiberId minted = .ok handle ∧
        ∃ index, SessionIndex.new.commitEnvelopes minted = .ok index ∧
          index.fiber fiberId = .ok handle := by
  constructor
  · intro frames index fiberId built unbroken nonzero
    have holds := HistoryInvariant.start.processFrames built
    rw [List.nil_append] at holds
    have indexed := SessionIndex.hasRawFrames_processFrames built
    have kept := holds.unbroken unbroken
    refine ⟨_, SessionIndex.fiber_of_history indexed kept.2 kept.1 ?_,
      fromEnvelopes_ok_iff.mpr ⟨kept.1, own_of_mem_ofFiber, rfl⟩⟩
    exact fun envelope member => nonzero envelope (mem_of_mem_ofFiber member)
  · intro fiberId calls minted handle ran distinct nonzero
    have ran' : LifecycleCall.run calls (standing fiberId []) = (minted, handle) := ran
    have whole := @LifecycleCall.run_standing _ fiberId calls [] .nil (by simp) .nil
    rw [ran', List.nil_append] at whole
    obtain ⟨holds, own, -, stands⟩ := whole distinct
    dsimp only at holds own stands
    subst stands
    refine ⟨fromEnvelopes_ok_iff.mpr ⟨holds, own, rfl⟩, ?_⟩
    obtain ⟨index, left⟩ := SessionIndex.Holds.exists_holds minted
    have consistent := holds.consistent own
    refine ⟨index, (SessionIndex.Holds.new.commitEnvelopes_ok_iff .nil).mpr ⟨consistent, left⟩, ?_⟩
    refine SessionIndex.fiber_of_history left.indexed ?_ holds nonzero
    rw [left.slot, ofFiber_eq_self own]

end Views

section Lifecycle

attribute [local instance] standardDigests

/-- A fiber that is opened, detached and rescued. -/
def rescuedFiber : List LifecycleCall :=
  [.append (repeatedId 1) [7], .detach (repeatedId 2) [8], .append (repeatedId 3) [9],
    .rescue (repeatedId 4) [10]]

/-- A log that breaks one fiber leaves the other in agreement; in a run, a refused append
mints nothing and the rest is accepted everywhere. -/
theorem FiberHandle.views_agree_rescued :
    (∃ index handle, SessionIndex.buildFromFrames [firstFrame, otherFrame, firstFrame] = .ok index ∧
      index.hasBrokenFibers = true ∧ index.fiber (repeatedId 4) = .ok handle ∧
      fromEnvelopes (repeatedId 4) (ofFiber (envelopesOf [firstFrame, otherFrame, firstFrame])
        (repeatedId 4)) = .ok handle) ∧
    ∃ minted handle index, minted.length = 3 ∧ handle.state = .defined ∧
      LifecycleCall.run rescuedFiber (new (repeatedId 9)) = (minted, handle) ∧
      fromEnvelopes (repeatedId 9) minted = .ok handle ∧
      SessionIndex.new.commitEnvelopes minted = .ok index ∧
      index.fiber (repeatedId 9) = .ok handle := by
  obtain ⟨recovery, run⟩ := views_agree
  constructor
  · obtain ⟨index, built, broken, slot⟩ : ∃ index,
        SessionIndex.buildFromFrames [firstFrame, otherFrame, firstFrame] = .ok index ∧
        index.hasBrokenFibers = true ∧
        (index.fibers.lookup (repeatedId 4)).all FiberSlot.isBroken = false :=
      ⟨_, rfl, by decide +kernel, by decide +kernel⟩
    obtain ⟨handle, handed, replayed⟩ := @recovery _ index (repeatedId 4) built
      (by
        intro reason eventCount isBroken
        rw [isBroken] at slot
        cases slot)
      (by decide +kernel)
    exact ⟨index, handle, built, broken, handed, replayed⟩
  · obtain ⟨replayed, index, committed, handed⟩ := @run (repeatedId 9) rescuedFiber _ _ rfl
      (by decide +kernel) (by decide +kernel)
    exact ⟨_, _, index, by decide +kernel, by decide +kernel, rfl, replayed, committed, handed⟩

end Lifecycle

end Pardosa
