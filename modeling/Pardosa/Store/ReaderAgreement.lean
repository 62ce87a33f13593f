import Pardosa.Store.FiberRuns
import Pardosa.Store.ReaderSession

/-!
# Reader session and session index

The two validators keep different data. Behind a consistent history both accept what
extends it under a new identifier, apart from one check that only the index makes: it
refuses an event whose identifier is all zeroes, which the reader observes.
-/

namespace Pardosa

open Foundation

section Agreement

variable [Digests]

/-- How many envelopes are committed one after the other before one is refused. -/
def SessionIndex.acceptedCount (index : SessionIndex) : List EventEnvelope → Nat
  | [] => 0
  | envelope :: envelopes => match index.commitEnvelope envelope with
      | (.error _, _) => 0
      | (.ok (), after) => after.acceptedCount envelopes + 1

namespace SessionIndex.Holds

variable {index : SessionIndex} {history : List EventEnvelope} {envelope : EventEnvelope}

/-- An envelope that keeps the history consistent is counted. -/
theorem acceptedCount_cons (holds : index.Holds history) (consistent : Consistent history)
    (kept : Consistent (history ++ [envelope])) (envelopes : List EventEnvelope) :
    index.acceptedCount (envelope :: envelopes) =
      (index.commitEnvelopeUnchecked envelope).acceptedCount envelopes + 1 := by
  have validated := validateAppend_ok_iff.mpr ((holds.admits_iff consistent).mpr kept)
  simp only [acceptedCount, commitEnvelope, validated]

/-- One that does not ends the count. -/
theorem acceptedCount_refused (holds : index.Holds history) (consistent : Consistent history)
    (broken : ¬Consistent (history ++ [envelope])) (envelopes : List EventEnvelope) :
    index.acceptedCount (envelope :: envelopes) = 0 := by
  simp only [acceptedCount, commitEnvelope]
  cases validated : index.validateAppend envelope with
  | error failure => rfl
  | ok =>
      have admits := validateAppend_ok_iff.mp validated
      exact (broken ((holds.admits_iff consistent).mp admits)).elim

end SessionIndex.Holds

namespace ArtefactReader

variable {Locator : Type} {locator : Locator}

/-- The observations of some envelopes, from a position on. -/
def observationsFrom (locator : Locator) (position : Nat) :
    List EventEnvelope → List (ReaderObservation Locator)
  | [] => []
  | envelope :: envelopes =>
      ⟨position, envelope.header.eventId, envelope.header.fiberId, locator,
        envelope.header.precursor = zeroId⟩ :: observationsFrom locator (position + 1) envelopes

/-- Answers that observe just the accepted envelopes, and then refuse if there are more. -/
def AgreesFrom (locator : Locator) (position : Nat) (envelopes : List EventEnvelope)
    (accepted : Nat) (readings : List (Reading Locator)) : Prop :=
  ∃ last, readings = (observationsFrom locator position (envelopes.take accepted)).map
      (fun observation => some (.ok observation)) ++ [last] ∧
    if accepted < envelopes.length then ∃ failure, last = some (.error failure) else last = none

omit [Digests] in
/-- Agreement goes on behind an observation. -/
theorem agreesFrom_cons {position accepted : Nat} {envelope : EventEnvelope}
    {envelopes : List EventEnvelope} {readings : List (Reading Locator)} :
    AgreesFrom locator position (envelope :: envelopes) (accepted + 1)
        (some (.ok ⟨position, envelope.header.eventId, envelope.header.fiberId, locator,
          envelope.header.precursor = zeroId⟩) :: readings) ↔
      AgreesFrom locator (position + 1) envelopes accepted readings := by
  unfold AgreesFrom
  simp [observationsFrom]

/-- The session over a stream observes exactly the longest prefix that an empty session
index accepts; the next call refuses exactly when a further envelope exists. -/
def Agrees (locator : Locator) (stream : List StreamEnvelope) : Prop :=
  let envelopes := stream.map fun item => item.envelope
  let accepted := SessionIndex.new.acceptedCount envelopes
  AgreesFrom locator 0 envelopes accepted ((withStream locator stream).reads (accepted + 1)).1

/-- An envelope that only lacks an identifier: it extends the history of its fiber, and
its own identifier is all zeroes. -/
structure Nameless (history : List EventEnvelope) (envelope : EventEnvelope) : Prop where
  nameless : envelope.header.eventId = zeroId
  extends_fiber : Extends (ofFiber history envelope.header.fiberId) envelope

section Behind

variable {observed : List EventEnvelope} {envelope : EventEnvelope}

/-- What a session observes behind a consistent history. -/
theorem observable_iff (consistent : Consistent observed) :
    Observable observed envelope ↔ envelope.header.eventId ∉ eventIds observed ∧
      Extends (ofFiber observed envelope.header.fiberId) envelope := by
  have linked_iff : (if envelope.header.precursor = zeroId then
      envelope.header.precursorHash = zeroHash ∧ ofFiber observed envelope.header.fiberId = []
    else ∃ last ∈ (ofFiber observed envelope.header.fiberId).getLast?,
      last.header.eventId = envelope.header.precursor ∧
        last.commitment = envelope.header.precursorHash) ↔
      Extends (ofFiber observed envelope.header.fiberId) envelope := by
    rcases List.eq_nil_or_concat (ofFiber observed envelope.header.fiberId) with
      untracked | ⟨earlier, last, tracked⟩
    · rw [untracked, FiberHandle.extends_nil_iff]
      by_cases genesis : envelope.header.precursor = zeroId
      · simp [genesis]
      · simp [genesis]
    · rw [List.concat_eq_append] at tracked
      have history := consistent.histories envelope.header.fiberId
      rw [tracked] at history ⊢
      have named := (history _ (tipOf_concat earlier last)).named last (by simp)
      rw [FiberHandle.extends_concat_iff, List.getLast?_concat, Follows]
      by_cases genesis : envelope.header.precursor = zeroId
      · rw [if_pos genesis, genesis]
        constructor
        · rintro ⟨-, none⟩
          simp at none
        · rintro ⟨same, -⟩
          exact (named same.symm).elim
      · rw [if_neg genesis]
        simp [eq_comm]
  constructor
  · rintro ⟨fresh, linked⟩
    exact ⟨fresh, linked_iff.mp linked⟩
  · rintro ⟨fresh, linked⟩
    exact ⟨fresh, linked_iff.mpr linked⟩

/-- Within the limits of a stream, the index admits what the session observes under an
identifier. -/
theorem consistent_concat_iff (consistent : Consistent observed)
    (room : observed.length < maxStreamItems) :
    Consistent (observed ++ [envelope]) ↔
      envelope.header.eventId ≠ zeroId ∧ Observable observed envelope := by
  have fibers : (insert envelope.header.fiberId (fiberIds observed)).card ≤
      observed.length + 1 := by
    refine Nat.le_trans (Finset.card_insert_le _ _) (Nat.succ_le_succ ?_)
    unfold fiberIds
    exact Nat.le_trans (List.toFinset_card_le _) (by rw [List.length_map])
  have own : (ofFiber observed envelope.header.fiberId).length ≤ observed.length :=
    List.length_filter_le _ _
  have seen : observed.length < maxSeenEvents := Nat.lt_of_lt_of_le room (by decide)
  rw [Consistent.concat_iff, observable_iff consistent]
  unfold maxStreamItems at room
  constructor
  · rintro ⟨-, named, fresh, -, linked, -, -⟩
    exact ⟨named, fresh, linked⟩
  · rintro ⟨named, fresh, linked⟩
    refine ⟨consistent, named, fresh, seen, linked, ?_, ?_⟩
    · unfold maxEventsPerFiber
      omega
    · unfold maxActiveFibers
      omega

/-- What the session observes and the index does not admit is nameless. -/
theorem nameless_iff (consistent : Consistent observed)
    (room : observed.length < maxStreamItems) :
    Nameless observed envelope ↔
      Observable observed envelope ∧ ¬Consistent (observed ++ [envelope]) := by
  rw [consistent_concat_iff consistent room, observable_iff consistent]
  constructor
  · rintro ⟨nameless, linked⟩
    refine ⟨⟨?_, linked⟩, fun both => both.1 nameless⟩
    intro member
    obtain ⟨other, isOther, same⟩ := List.mem_map.mp member
    have history := consistent.histories other.header.fiberId
    have own : other ∈ ofFiber observed other.header.fiberId :=
      List.mem_filter.mpr ⟨isOther, by simp⟩
    cases isTip : tipOf (ofFiber observed other.header.fiberId) with
    | none =>
        rw [tipOf_eq_none_iff.mp isTip] at own
        cases own
    | some tip => exact (history tip isTip).named other own (same.trans nameless)
  · rintro ⟨observable, refused⟩
    refine ⟨?_, observable.2⟩
    by_contra named
    exact refused ⟨named, observable⟩

end Behind

section Turn

variable {reader : ArtefactReader Locator} {index : SessionIndex}
  {observed before after : List EventEnvelope} {envelope : EventEnvelope}
  {queue : List StreamEnvelope}

/-- Behind the same consistent history, session and index go on alike as long as no
nameless envelope has its turn. -/
theorem agreesFrom_of_named (consistent : Consistent observed) (holds : index.Holds observed)
    (behind : reader.state.Behind observed queue)
    (named : ∀ before envelope after,
      (queue.map fun item => item.envelope) = before ++ envelope :: after →
        Consistent (observed ++ before) → ¬Nameless (observed ++ before) envelope) :
    AgreesFrom reader.locator observed.length (queue.map fun item => item.envelope)
      (index.acceptedCount (queue.map fun item => item.envelope))
      (reader.reads (index.acceptedCount (queue.map fun item => item.envelope) + 1)).1 := by
  induction queue generalizing reader index observed with
  | nil =>
      refine ⟨none, ?_, rfl⟩
      rw [reads_of_idle (readEvent_exhausted behind)]
      rfl
  | cons item queue ih =>
      have room : observed.length < maxStreamItems := by
        have room := behind.room
        rw [List.length_cons] at room
        omega
      rw [List.map_cons]
      obtain ⟨observable, next, answered, further⟩ |
          ⟨unobservable, failure, next, answered, -, -⟩ :=
        readEvent_answers behind
      · have kept : Consistent (observed ++ [item.envelope]) := by
          by_contra broken
          refine named [] item.envelope _ rfl ?_ ?_
          · rwa [List.append_nil]
          · rw [List.append_nil]
            exact (nameless_iff consistent room).mpr ⟨observable, broken⟩
        rw [holds.acceptedCount_cons consistent kept]
        simp only [reads, answered]
        refine agreesFrom_cons.mpr ?_
        have rest := @ih ⟨reader.locator, next⟩ _ _ kept (holds.commit item.envelope) further ?_
        · rwa [List.length_append, List.length_singleton] at rest
        · intro before envelope after split
          rw [← List.append_cons]
          exact named (item.envelope :: before) envelope after (by rw [List.map_cons, split]; rfl)
      · have broken : ¬Consistent (observed ++ [item.envelope]) := fun kept =>
          unobservable ((consistent_concat_iff consistent room).mp kept).2
        rw [holds.acceptedCount_refused consistent broken]
        refine ⟨some (.error failure), ?_, ?_⟩
        · simp [reads, answered, observationsFrom]
        · rw [if_pos (by simp)]
          exact ⟨failure, rfl⟩

/-- A nameless envelope that has its turn is observed, and the index refuses it. -/
theorem not_agreesFrom (consistent : Consistent observed) (holds : index.Holds observed)
    (behind : reader.state.Behind observed queue)
    (split : (queue.map fun item => item.envelope) = before ++ envelope :: after)
    (kept : Consistent (observed ++ before)) (nameless : Nameless (observed ++ before) envelope) :
    ¬AgreesFrom reader.locator observed.length (queue.map fun item => item.envelope)
      (index.acceptedCount (queue.map fun item => item.envelope))
      (reader.reads (index.acceptedCount (queue.map fun item => item.envelope) + 1)).1 := by
  induction before generalizing reader index observed queue with
  | nil =>
      obtain ⟨item, queue, rfl, rfl, -⟩ := List.map_eq_cons_iff.mp split
      have room : observed.length < maxStreamItems := by
        have room := behind.room
        rw [List.length_cons] at room
        omega
      rw [List.append_nil] at nameless
      obtain ⟨observable, broken⟩ := (nameless_iff consistent room).mp nameless
      obtain ⟨-, next, answered, -⟩ | ⟨unobservable, -⟩ := readEvent_answers behind
      · rw [List.map_cons, holds.acceptedCount_refused consistent broken]
        rintro ⟨last, readings, refused⟩
        rw [if_pos (by simp)] at refused
        obtain ⟨failure, rfl⟩ := refused
        simp [reads, answered, observationsFrom] at readings
      · exact (unobservable observable).elim
  | cons first before ih =>
      obtain ⟨item, queue, rfl, rfl, rest⟩ := List.map_eq_cons_iff.mp split
      have room : observed.length < maxStreamItems := by
        have room := behind.room
        rw [List.length_cons] at room
        omega
      rw [List.append_cons] at kept nameless
      have extended : Consistent (observed ++ [item.envelope]) := kept.of_append
      obtain ⟨-, next, answered, further⟩ | ⟨unobservable, -⟩ := readEvent_answers behind
      · rw [List.map_cons, holds.acceptedCount_cons consistent extended]
        simp only [reads, answered]
        intro agrees
        have agrees := agreesFrom_cons.mp agrees
        have apart := @ih ⟨reader.locator, next⟩ _ _ _ extended (holds.commit item.envelope)
          further rest kept nameless
        rw [List.length_append, List.length_singleton] at apart
        exact apart agrees
      · exact (unobservable ((consistent_concat_iff consistent room).mp extended).2).elim

end Turn

/-- Over a stream within the limits, the session observes exactly the longest prefix that
an empty session index accepts, and refuses what follows it, if and only if no envelope
with an identifier of zeroes extends its fiber behind a consistent history. -/
theorem agrees_with_index_iff (locator : Locator) {stream : List StreamEnvelope}
    (limits : WithinLimits stream) :
    Agrees locator stream ↔ ¬∃ before envelope after,
      (stream.map fun item => item.envelope) = before ++ envelope :: after ∧
        Consistent before ∧ Nameless before envelope := by
  obtain ⟨state, opened, behind⟩ := withStream_within locator limits
  have behind : (withStream locator stream).state.Behind [] stream := by
    rw [opened]
    exact behind
  constructor
  · rintro agrees ⟨before, envelope, after, split, consistent, nameless⟩
    exact not_agreesFrom .nil .new behind split consistent nameless agrees
  · intro named
    refine agreesFrom_of_named .nil .new behind ?_
    rintro before envelope after split consistent nameless
    exact named ⟨before, envelope, after, split, consistent, nameless⟩

end ArtefactReader

end Agreement

section Genesis

attribute [local instance] standardDigests

/-- A stream of two named events, the second linked to the first, is observed and accepted
alike. -/
theorem ArtefactReader.agrees_with_index_iff_chained :
    SessionIndex.new.acceptedCount [genesisEvent, chainedEvent] = 2 ∧
      Agrees "artefact" [firstItem, chainedItem] := by
  refine ⟨by decide +kernel, (agrees_with_index_iff "artefact" ⟨by decide, by decide⟩).mpr ?_⟩
  rintro ⟨before, envelope, after, split, -, nameless⟩
  have named : ∀ other ∈ [genesisEvent, chainedEvent], other.header.eventId ≠ zeroId := by
    simp only [List.forall_mem_cons]
    exact ⟨by decide, by decide, List.forall_mem_nil _⟩
  refine named envelope ?_ nameless.nameless
  rw [show [genesisEvent, chainedEvent] = before ++ envelope :: after from split]
  simp

/-- The first event of a fiber under an identifier of zeroes. -/
def namelessGenesis : EventEnvelope :=
  ⟨⟨zeroId, repeatedId 2, false, zeroId, zeroHash⟩, [7]⟩

/-- That event in a stream. -/
def namelessItem : StreamEnvelope := ⟨namelessGenesis, 1, by decide⟩

/-- A session observes an event under an identifier of zeroes that no session index
accepts. -/
theorem ArtefactReader.disagrees_with_index :
    WithinLimits [namelessItem] ∧ SessionIndex.new.acceptedCount [namelessGenesis] = 0 ∧
      ((withStream "artefact" [namelessItem]).reads 1).1 =
        [some (.ok ⟨0, zeroId, repeatedId 2, "artefact", true⟩)] ∧
      ¬Agrees "artefact" [namelessItem] := by
  have limits : WithinLimits [namelessItem] := ⟨by decide, by decide⟩
  have accepted : SessionIndex.new.acceptedCount [namelessGenesis] = 0 := by decide +kernel
  have observed : ((withStream "artefact" [namelessItem]).reads 1).1 =
      [some (.ok ⟨0, zeroId, repeatedId 2, "artefact", true⟩)] := by
    decide +kernel
  refine ⟨limits, accepted, observed, ?_⟩
  obtain ⟨state, opened, behind⟩ := withStream_within "artefact" limits
  unfold Agrees
  rw [opened]
  exact @not_agreesFrom _ _ ⟨"artefact", state⟩ _ _ [] [] _ _ .nil .new behind rfl .nil
    ⟨rfl, rfl, rfl⟩

end Genesis

end Pardosa
