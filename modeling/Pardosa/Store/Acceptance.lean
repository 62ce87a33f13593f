import Pardosa.Store.Reads
import Pardosa.Store.Recovery

/-!
# Accepted frames

The live path refuses what does not continue a fiber, recovery marks the fiber
broken and goes on. `SessionIndex.Accepts` is the history without a rejection:
frames that are admitted one after the other. Recovery ends without a broken
fiber exactly on such histories.
-/

namespace Pardosa

open Foundation

namespace SessionIndex

/-- Some fiber of the index is broken. -/
def HasBreak (index : SessionIndex) : Prop :=
  ∃ fiberId reason eventCount, index.fibers.lookup fiberId = some (.broken reason eventCount)

/-- The index reports broken fibers exactly when a slot is broken. -/
theorem hasBrokenFibers_iff {index : SessionIndex} :
    index.hasBrokenFibers = true ↔ index.HasBreak := by
  unfold hasBrokenFibers HasBreak
  rw [decide_eq_true_iff]
  constructor
  · rintro ⟨fiberId, -, broken⟩
    cases slot : index.fibers.lookup fiberId with
    | none => simp [slot] at broken
    | some found =>
        cases found with
        | active tip => simp [slot, FiberSlot.isBroken] at broken
        | broken reason eventCount => exact ⟨fiberId, reason, eventCount, slot⟩
  · rintro ⟨fiberId, reason, eventCount, slot⟩
    refine ⟨fiberId, Finmap.mem_keys.mpr (Finmap.mem_iff.mpr ⟨_, slot⟩), ?_⟩
    simp [slot, FiberSlot.isBroken]

/-- It reports none exactly when no slot is. -/
theorem hasBrokenFibers_eq_false_iff {index : SessionIndex} :
    index.hasBrokenFibers = false ↔ ¬index.HasBreak := by
  rw [← hasBrokenFibers_iff, Bool.not_eq_true]

/-- A new index has no broken fiber. -/
theorem not_hasBreak_new : ¬SessionIndex.new.HasBreak := by
  rintro ⟨fiberId, reason, eventCount, slot⟩
  cases slot

/-- What breaks a fiber leaves a broken fiber. -/
theorem BreaksAt.hasBreak {index after : SessionIndex} {fiberId : Id}
    (breaks : index.BreaksAt after fiberId) : after.HasBreak := by
  obtain ⟨reason, eventCount, slot⟩ := breaks.slot
  exact ⟨fiberId, reason, eventCount, slot⟩

/-- A commit changes the slot of its own fiber only. -/
theorem commitEnvelopeUnchecked_lookup_of_ne (index : SessionIndex) {envelope : EventEnvelope}
    {fiberId : Id} (other : fiberId ≠ envelope.header.fiberId) :
    (index.commitEnvelopeUnchecked envelope).fibers.lookup fiberId =
      index.fibers.lookup fiberId := by
  unfold commitEnvelopeUnchecked
  exact Finmap.lookup_insert_of_ne _ other

/-- A commit leaves its fiber active. -/
theorem commitEnvelopeUnchecked_lookup_self (index : SessionIndex) (envelope : EventEnvelope) :
    ∃ tip, (index.commitEnvelopeUnchecked envelope).fibers.lookup envelope.header.fiberId =
      some (.active tip) := by
  unfold commitEnvelopeUnchecked
  exact ⟨_, Finmap.lookup_insert _⟩

variable [Digests]

/-- Committing an admitted envelope neither breaks a fiber nor repairs one. -/
theorem Admits.hasBreak_commit_iff {index : SessionIndex} {envelope : EventEnvelope}
    (admits : index.Admits envelope) :
    (index.commitEnvelopeUnchecked envelope).HasBreak ↔ index.HasBreak := by
  constructor
  · rintro ⟨fiberId, reason, eventCount, slot⟩
    by_cases own : fiberId = envelope.header.fiberId
    · obtain ⟨tip, active⟩ := index.commitEnvelopeUnchecked_lookup_self envelope
      rw [own, active] at slot
      cases slot
    · rw [index.commitEnvelopeUnchecked_lookup_of_ne own] at slot
      exact ⟨fiberId, reason, eventCount, slot⟩
  · rintro ⟨fiberId, reason, eventCount, slot⟩
    have other : fiberId ≠ envelope.header.fiberId := by
      rintro rfl
      exact admits.not_broken slot
    refine ⟨fiberId, reason, eventCount, ?_⟩
    rw [index.commitEnvelopeUnchecked_lookup_of_ne other, slot]

/-- Recovery never forgets a break. -/
theorem hasBreak_processFrames {index after : SessionIndex} {frames : List Bytes}
    (processed : index.processFrames frames = .ok after) (broken : index.HasBreak) :
    after.HasBreak := by
  induction frames generalizing index with
  | nil =>
      cases processed
      exact broken
  | cons frame frames ih =>
      simp only [processFrames] at processed
      obtain ⟨failure, refused⟩ | ⟨envelope, -, ⟨admits, committed⟩ | ⟨next, breaks, marked⟩ |
        ⟨failure, _, -, refused⟩⟩ := index.processFrame_cases frame
      · rw [refused] at processed
        cases processed
      · rw [committed] at processed
        exact ih processed (admits.hasBreak_commit_iff.mpr broken)
      · rw [marked] at processed
        obtain ⟨fiberId, reason, eventCount, slot⟩ := breaks.hasBreak
        exact ih processed ⟨fiberId, reason, eventCount, slot⟩
      · rw [refused] at processed
        cases processed

/-- Refusals of recovery are never chain breaks: those are recorded. -/
theorem processFrame_error {index after : SessionIndex} {frame : Bytes}
    {failure : OperationFailure} (refused : index.processFrame frame = (.error failure, after)) :
    failure.condition.isChainBreak = false := by
  have recorded : ∀ (broken : SessionIndex) fiberId eventId failure after,
      broken.recordBrokenEventId fiberId eventId = (.error failure, after) →
      failure.condition.isChainBreak = false := by
    intro broken fiberId eventId failure after step
    unfold recordBrokenEventId at step
    simp only at step
    split at step
    · split at step
      · cases step
        rfl
      · split_ifs at step <;> cases step <;> rfl
    · split_ifs at step <;> cases step
      rfl
  unfold processFrame at refused
  split_ifs at refused with short
  · cases refused
    rfl
  split at refused
  · cases refused
    rfl
  simp only at refused
  split at refused
  · exact recorded _ _ _ _ _ refused
  split at refused
  · cases refused
  split_ifs at refused with chainBreak
  · split at refused
    · rename_i refusal marked marking
      cases refused
      unfold markFiberBroken at marking
      simp only at marking
      split_ifs at marking
      · cases marking
        rfl
      · cases marking
    · exact recorded _ _ _ _ _ refused
  · cases refused
    simpa using chainBreak

/-- A refused log is refused for another reason than a broken chain. -/
theorem processFrames_error {index : SessionIndex} {frames : List Bytes}
    {failure : OperationFailure} (refused : index.processFrames frames = .error failure) :
    failure.condition.isChainBreak = false := by
  induction frames generalizing index with
  | nil => cases refused
  | cons frame frames ih =>
      simp only [processFrames] at refused
      split at refused
      · rename_i stopped
        cases refused
        exact processFrame_error stopped
      · exact ih refused

/-- The frames are admitted one after the other. -/
inductive Accepts : SessionIndex → List Bytes → List EventEnvelope → SessionIndex → Prop where
  | nil {index : SessionIndex} : Accepts index [] [] index
  | cons {index after : SessionIndex} {frame : Bytes} {frames : List Bytes}
      {envelope : EventEnvelope} {envelopes : List EventEnvelope}
      (admitted : AdmittedFrame index frame envelope)
      (rest : Accepts (index.commitEnvelopeUnchecked envelope) frames envelopes after) :
      Accepts index (frame :: frames) (envelope :: envelopes) after

namespace Accepts

variable {index after : SessionIndex} {frames : List Bytes} {envelopes : List EventEnvelope}

/-- Accepted frames are within the width of a frame. -/
theorem fits (accepts : Accepts index frames envelopes after) :
    ∀ frame ∈ frames, frame.length ≤ u32Max := by
  induction accepts with
  | nil => simp
  | cons admitted _ ih =>
      rintro frame (_ | ⟨_, member⟩)
      · exact admitted.fits
      · exact ih frame member

/-- Recovery commits accepted frames. -/
theorem processFrames (accepts : Accepts index frames envelopes after) :
    index.processFrames frames = .ok after := by
  induction accepts with
  | nil => rfl
  | cons admitted _ ih =>
      simp only [SessionIndex.processFrames, admitted.processFrame]
      exact ih

/-- Acceptance breaks no fiber and mends none. -/
theorem hasBreak_iff (accepts : Accepts index frames envelopes after) :
    after.HasBreak ↔ index.HasBreak := by
  induction accepts with
  | nil => rfl
  | cons admitted _ ih => rw [ih, admitted.admits.hasBreak_commit_iff]

/-- No accepted frame is too short for an envelope. -/
theorem refuseShortFrames (accepts : Accepts index frames envelopes after) :
    Store.refuseShortFrames frames = .ok () := by
  induction accepts with
  | nil => rfl
  | cons admitted _ ih =>
      unfold Store.refuseShortFrames
      rw [if_neg (Nat.not_lt.mpr admitted.long), ih]

/-- Accepted frames are read as the envelopes that were accepted. -/
theorem decodeFrames (accepts : Accepts index frames envelopes after) :
    Store.decodeFrames frames = .ok envelopes := by
  induction accepts with
  | nil => rfl
  | cons admitted _ ih =>
      unfold Store.decodeFrames
      rw [admitted.decoded, ih]
      rfl

/-- What is accepted behind what was accepted is accepted together. -/
theorem append {middle : SessionIndex} {more : List Bytes} {others : List EventEnvelope}
    (accepts : Accepts index frames envelopes middle) (rest : Accepts middle more others after) :
    Accepts index (frames ++ more) (envelopes ++ others) after := by
  induction accepts with
  | nil => exact rest
  | cons admitted _ ih => exact .cons admitted (ih rest)

end Accepts

/-- No break at the end means no rejection on the way. -/
theorem accepts_of_processFrames {index after : SessionIndex} {frames : List Bytes}
    (fits : ∀ frame ∈ frames, frame.length ≤ u32Max)
    (processed : index.processFrames frames = .ok after) (whole : ¬after.HasBreak) :
    ∃ envelopes, Accepts index frames envelopes after := by
  induction frames generalizing index with
  | nil =>
      cases processed
      exact ⟨[], .nil⟩
  | cons frame frames ih =>
      have others := fun other member => fits other (List.mem_cons_of_mem frame member)
      have step := processed
      simp only [SessionIndex.processFrames] at step
      obtain ⟨failure, refused⟩ | ⟨envelope, decoded, ⟨admits, committed⟩ | ⟨next, breaks, marked⟩ |
        ⟨failure, _, -, refused⟩⟩ := index.processFrame_cases frame
      · rw [refused] at step
        cases step
      · have long : 85 ≤ frame.length := by
          by_contra short
          unfold processFrame at committed
          rw [if_pos (by omega)] at committed
          cases committed
        rw [committed] at step
        obtain ⟨envelopes, rest⟩ := ih others step
        exact ⟨envelope :: envelopes,
          .cons ⟨decoded, long, fits frame (List.mem_cons_self ..), admits⟩ rest⟩
      · rw [marked] at step
        obtain ⟨fiberId, reason, eventCount, slot⟩ := breaks.hasBreak
        exact (whole (hasBreak_processFrames step ⟨fiberId, reason, eventCount, slot⟩)).elim
      · rw [refused] at step
        cases step

/-- Nothing follows, or a frame that is not admitted. -/
def StopsAt (index : SessionIndex) (rest : List Bytes) : Prop :=
  rest = [] ∨ ∃ frame later, rest = frame :: later ∧ ∀ envelope, ¬AdmittedFrame index frame envelope

/-- Every list of frames has a longest accepted part. -/
theorem exists_accepts (index : SessionIndex) (frames : List Bytes) :
    ∃ accepted rest envelopes after, frames = accepted ++ rest ∧
      Accepts index accepted envelopes after ∧ after.StopsAt rest := by
  induction frames generalizing index with
  | nil => exact ⟨[], [], [], index, rfl, .nil, .inl rfl⟩
  | cons frame frames ih =>
      by_cases admitted : ∃ envelope, AdmittedFrame index frame envelope
      · obtain ⟨envelope, admitted⟩ := admitted
        obtain ⟨accepted, rest, envelopes, after, rfl, accepts, stops⟩ :=
          ih (index.commitEnvelopeUnchecked envelope)
        exact ⟨frame :: accepted, rest, envelope :: envelopes, after, rfl,
          .cons admitted accepts, stops⟩
      · push Not at admitted
        exact ⟨[], frame :: frames, [], index, rfl, .nil, .inr ⟨frame, frames, rfl, admitted⟩⟩

/-- Where the longest accepted part ends, acceptance ends: what is accepted as a
whole is accepted with the same envelopes. -/
theorem Accepts.whole {index middle after : SessionIndex} {accepted rest : List Bytes}
    {envelopes others : List EventEnvelope} (part : Accepts index accepted envelopes middle)
    (stops : middle.StopsAt rest) (whole : Accepts index (accepted ++ rest) others after) :
    rest = [] ∧ envelopes = others ∧ middle = after := by
  induction part generalizing others with
  | nil =>
      obtain rfl | ⟨frame, later, rfl, refused⟩ := stops
      · cases whole
        exact ⟨rfl, rfl, rfl⟩
      · cases whole with
        | cons admitted _ => exact (refused _ admitted).elim
  | cons admitted _ ih =>
      cases whole with
      | cons again rest =>
          cases admitted.decoded.symm.trans again.decoded
          obtain ⟨rfl, rfl, rfl⟩ := ih stops rest
          exact ⟨rfl, rfl, rfl⟩

end SessionIndex

variable [Digests]

/-- The frames are those of an unbroken history, with this index. -/
structure UnbrokenHistory (frames : List Bytes) (index : SessionIndex) : Prop where
  built : SessionIndex.buildFromFrames frames = .ok index
  unbroken : ¬index.HasBreak

/-- No frames are an unbroken history. -/
theorem UnbrokenHistory.nil : UnbrokenHistory [] .new :=
  ⟨rfl, SessionIndex.not_hasBreak_new⟩

/-- An admitted frame continues a history. -/
theorem UnbrokenHistory.concat {frames : List Bytes} {index : SessionIndex} {payload : Bytes}
    {envelope : EventEnvelope} (history : UnbrokenHistory frames index)
    (admitted : AdmittedFrame index payload envelope) :
    UnbrokenHistory (frames ++ [payload]) (index.commitEnvelopeUnchecked envelope) where
  built := by
    have built := history.built
    unfold SessionIndex.buildFromFrames at built ⊢
    rw [SessionIndex.processFrames_append, built]
    simp only [SessionIndex.processFrames, admitted.processFrame]
  unbroken := by
    rw [admitted.admits.hasBreak_commit_iff]
    exact history.unbroken

end Pardosa
