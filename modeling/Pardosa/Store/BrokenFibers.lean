import Pardosa.Store.FiberOrder

/-!
# Broken fibers

A broken slot absorbs: no call repairs it, every call about its fiber fails, and no
call about one fiber touches the slot of another. What the index has once seen of
identifiers it goes on refusing, on whatever fiber they come back.
-/

namespace Pardosa

open Foundation

/-- A call on a session index. -/
inductive IndexOperation where
  | processFrame (frame : Bytes)
  | commitEnvelope (envelope : EventEnvelope)
  | prepareAppend (envelope : EventEnvelope)
  | markFiberBroken (fiberId : Id) (reason : String)
  | invalidateFiber (fiberId : Id)
deriving DecidableEq, Repr

namespace IndexOperation

/-- The fiber a call is about, when its frame or argument names one. -/
def concerns : IndexOperation → Option Id
  | .processFrame frame => frameFiber frame
  | .commitEnvelope envelope | .prepareAppend envelope => some envelope.header.fiberId
  | .markFiberBroken fiberId _ | .invalidateFiber fiberId => some fiberId

/-- What a call returns and the index it leaves. -/
def perform [Digests] (index : SessionIndex) :
    IndexOperation → Except OperationFailure Unit × SessionIndex
  | .processFrame frame => index.processFrame frame
  | .commitEnvelope envelope => index.commitEnvelope envelope
  | .prepareAppend envelope => (index.prepareAppend envelope, index)
  | .markFiberBroken fiberId reason => index.markFiberBroken fiberId reason
  | .invalidateFiber fiberId => index.invalidateFiber fiberId

/-- The index after calls, whatever they return. -/
def performAll [Digests] (index : SessionIndex) (operations : List IndexOperation) : SessionIndex :=
  operations.foldl (fun reached operation => (operation.perform reached).2) index

end IndexOperation

namespace SessionIndex

variable {index middle after : SessionIndex} {fiberId : Id} {concerned : Option Id}

/-- The slot of a fiber is broken. -/
def IsBroken (index : SessionIndex) (fiberId : Id) : Prop :=
  ∃ reason eventCount, index.fibers.lookup fiberId = some (.broken reason eventCount)

/-- What a call about one fiber, or about none, leaves alone. -/
structure Keeps (index after : SessionIndex) (concerned : Option Id) : Prop where
  others : ∀ other, concerned ≠ some other → after.fibers.lookup other = index.fibers.lookup other
  broken : ∀ fiberId, index.IsBroken fiberId → after.IsBroken fiberId
  seen : index.seenEventIds ⊆ after.seenEventIds
  raw : after.hasRawFrames = index.hasRawFrames

namespace Keeps

/-- An index that is left alone keeps everything. -/
theorem refl (index : SessionIndex) (concerned : Option Id) : index.Keeps index concerned where
  others := fun _ _ => rfl
  broken := fun _ isBroken => isBroken
  seen := Finset.Subset.refl _
  raw := rfl

/-- Remembering an identifier touches no slot. -/
theorem insert_seen (keeps : index.Keeps after concerned) (eventId : Id) :
    index.Keeps { after with seenEventIds := insert eventId after.seenEventIds } concerned where
  others := keeps.others
  broken := keeps.broken
  seen := Finset.Subset.trans keeps.seen (Finset.subset_insert _ _)
  raw := keeps.raw

end Keeps

/-- A break keeps all but its own fiber. -/
theorem BreaksAt.keeps (breaks : index.BreaksAt after fiberId) :
    index.Keeps after (some fiberId) := by
  have slot := breaks.slot
  obtain ⟨reason, eventCount, revision, -, rfl⟩ := breaks
  have others : ∀ other, other ≠ fiberId →
      (index.fibers.insert fiberId (.broken reason eventCount)).lookup other =
        index.fibers.lookup other :=
    fun other differs => Finmap.lookup_insert_of_ne _ differs
  refine ⟨?_, ?_, Finset.Subset.refl _, rfl⟩
  · intro other differs
    exact others other fun same => differs (congrArg some same.symm)
  · rintro other ⟨reason', eventCount', isBroken⟩
    by_cases same : other = fiberId
    · rw [same]
      exact slot
    · exact ⟨reason', eventCount', (others other same).trans isBroken⟩

/-- Marking a fiber broken keeps all other fibers. -/
theorem markFiberBroken_keeps (index : SessionIndex) (fiberId : Id) (reason : String) :
    index.Keeps (index.markFiberBroken fiberId reason).2 (some fiberId) := by
  obtain ⟨failure, refused⟩ | ⟨after, marked, breaks⟩ := index.markFiberBroken_cases fiberId reason
  · rw [refused]
    exact .refl index _
  · rw [marked]
    exact breaks.keeps

section Calls

variable [Digests] {envelope : EventEnvelope}

/-- A commit of an admitted envelope. -/
theorem Admits.keeps (admits : index.Admits envelope) :
    index.Keeps (index.commitEnvelopeUnchecked envelope) (some envelope.header.fiberId) where
  others := by
    intro other differs
    exact index.commitEnvelopeUnchecked_lookup_of_ne fun same => differs (congrArg some same.symm)
  broken := by
    rintro other ⟨reason, eventCount, isBroken⟩
    have differs : other ≠ envelope.header.fiberId := by
      rintro rfl
      exact admits.not_broken isBroken
    exact ⟨reason, eventCount,
      (index.commitEnvelopeUnchecked_lookup_of_ne differs).trans isBroken⟩
  seen := Finset.subset_insert _ _
  raw := rfl

/-- Every call leaves the other fibers, the broken ones and what was seen alone. -/
theorem perform_keeps (index : SessionIndex) (operation : IndexOperation) :
    index.Keeps (operation.perform index).2 operation.concerns := by
  cases operation with
  | processFrame frame =>
      simp only [IndexOperation.perform, IndexOperation.concerns]
      obtain ⟨failure, refused⟩ | ⟨envelope, decoded, ⟨admits, committed⟩ |
        ⟨broken, breaks, recorded⟩ | ⟨failure, after, breaks, refused⟩⟩ :=
        index.processFrame_cases frame
      · rw [refused]
        exact .refl index _
      · rw [committed, frameFiber, decoded]
        exact admits.keeps
      · rw [recorded, frameFiber, decoded, ← breaks.seen]
        exact breaks.keeps.insert_seen _
      · rw [refused, frameFiber, decoded]
        exact breaks.keeps
  | commitEnvelope envelope =>
      simp only [IndexOperation.perform, IndexOperation.concerns, commitEnvelope]
      cases validated : index.validateAppend envelope with
      | error failure => exact .refl index _
      | ok => exact (validateAppend_ok_iff.mp validated).keeps
  | prepareAppend envelope => exact .refl index _
  | markFiberBroken fiberId reason => exact index.markFiberBroken_keeps fiberId reason
  | invalidateFiber fiberId => exact index.markFiberBroken_keeps fiberId _

/-- What no sequence of calls undoes. -/
theorem performAll_keeps (index : SessionIndex) (operations : List IndexOperation) :
    (∀ fiberId, index.IsBroken fiberId →
      (IndexOperation.performAll index operations).IsBroken fiberId) ∧
    index.seenEventIds ⊆ (IndexOperation.performAll index operations).seenEventIds ∧
    (IndexOperation.performAll index operations).hasRawFrames = index.hasRawFrames := by
  induction operations generalizing index with
  | nil => exact ⟨fun _ isBroken => isBroken, Finset.Subset.refl _, rfl⟩
  | cons operation operations ih =>
      have step := index.perform_keeps operation
      obtain ⟨broken, seen, raw⟩ := ih (operation.perform index).2
      exact ⟨fun fiberId isBroken => broken fiberId (step.broken fiberId isBroken),
        Finset.Subset.trans step.seen seen, raw.trans step.raw⟩

/-- Every call about a broken fiber fails, and a commit changes nothing. -/
theorem IsBroken.refuses (isBroken : index.IsBroken fiberId) :
    (∃ failure, index.fiber fiberId = .error failure) ∧
      (∃ failure, index.getLatest fiberId = .error failure) ∧
      (∃ failure, index.eventCount fiberId = .error failure) ∧
      ∀ envelope, envelope.header.fiberId = fiberId → ∃ failure,
        index.validateAppend envelope = .error failure ∧
        index.commitEnvelope envelope = (.error failure, index) := by
  obtain ⟨reason, count, slot⟩ := isBroken
  refine ⟨?_, ?_, ?_, ?_⟩
  · unfold fiber
    rw [slot]
    split_ifs
    · exact ⟨_, rfl⟩
    · exact ⟨_, rfl⟩
  · unfold getLatest
    rw [slot]
    split_ifs
    · exact ⟨_, rfl⟩
    · exact ⟨_, rfl⟩
  · unfold SessionIndex.eventCount
    rw [slot]
    split_ifs
    · exact ⟨_, rfl⟩
    · exact ⟨_, rfl⟩
  · rintro envelope rfl
    unfold commitEnvelope
    cases validated : index.validateAppend envelope with
    | error failure => exact ⟨failure, rfl, rfl⟩
    | ok => exact ((validateAppend_ok_iff.mp validated).not_broken slot).elim

/-- A frame that recovery goes past has its identifier remembered. -/
theorem seen_of_processFrame {frame : Bytes} (decoded : decodeAndValidateFrame frame = .ok envelope)
    (passed : (index.processFrame frame).1 = .ok ()) :
    envelope.header.eventId ∈ (index.processFrame frame).2.seenEventIds := by
  obtain ⟨failure, refused⟩ | ⟨found, decoded', ⟨-, committed⟩ | ⟨broken, -, recorded⟩ |
    ⟨failure, after, -, refused⟩⟩ := index.processFrame_cases frame
  · rw [refused] at passed
    cases passed
  · cases decoded.symm.trans decoded'
    rw [committed]
    exact Finset.mem_insert_self _ _
  · cases decoded.symm.trans decoded'
    rw [recorded]
    exact Finset.mem_insert_self _ _
  · rw [refused] at passed
    cases passed

/-- What was seen is refused: as a repetition, unless the index holds raw frames or the
identifier is empty, which are looked at first. -/
theorem refuses_seen (seen : envelope.header.eventId ∈ index.seenEventIds) :
    ∃ failure, index.validateAppend envelope = .error failure ∧
      index.commitEnvelope envelope = (.error failure, index) ∧
      (index.hasRawFrames = false → envelope.header.eventId ≠ zeroId →
        failure = ⟨.precursorChainBroken none,
          "duplicate event ID observed across session fibers per C5.61"⟩) := by
  unfold commitEnvelope validateAppend
  by_cases raw : index.hasRawFrames = true
  · rw [if_pos raw]
    refine ⟨_, rfl, rfl, ?_⟩
    intro indexed
    rw [indexed] at raw
    cases raw
  rw [if_neg raw]
  by_cases empty : envelope.header.eventId = zeroId
  · rw [if_pos empty]
    exact ⟨_, rfl, rfl, fun _ named => (named empty).elim⟩
  rw [if_neg empty, if_pos seen]
  exact ⟨_, rfl, rfl, fun _ _ => rfl⟩

/-- Recovery does not commit what was seen: it breaks the fiber or leaves it as it is. -/
theorem processFrame_seen {frame : Bytes} (decoded : decodeAndValidateFrame frame = .ok envelope)
    (seen : envelope.header.eventId ∈ index.seenEventIds) :
    (index.processFrame frame).2.IsBroken envelope.header.fiberId ∨
      (index.processFrame frame).2 = index := by
  obtain ⟨failure, refused⟩ | ⟨found, decoded', ⟨admits, committed⟩ | ⟨broken, breaks, recorded⟩ |
    ⟨failure, after, breaks, refused⟩⟩ := index.processFrame_cases frame
  · exact .inr (by rw [refused])
  · cases decoded.symm.trans decoded'
    exact (admits.fresh seen).elim
  · cases decoded.symm.trans decoded'
    rw [recorded]
    exact .inl breaks.slot
  · cases decoded.symm.trans decoded'
    rw [refused]
    exact .inl breaks.slot

/-- Broken fibers stay broken and apart, over every sequence of calls; the identifiers
recovery went past are refused from then on, on every fiber. -/
theorem broken_fibers_absorb (index : SessionIndex) (operations : List IndexOperation) :
    (∀ fiberId, index.IsBroken fiberId →
      (IndexOperation.performAll index operations).IsBroken fiberId ∧
      (∃ failure, (IndexOperation.performAll index operations).fiber fiberId = .error failure) ∧
      (∃ failure, (IndexOperation.performAll index operations).getLatest fiberId =
        .error failure) ∧
      (∃ failure, (IndexOperation.performAll index operations).eventCount fiberId =
        .error failure) ∧
      ∀ envelope, envelope.header.fiberId = fiberId → ∃ failure,
        (IndexOperation.performAll index operations).validateAppend envelope = .error failure ∧
        (IndexOperation.performAll index operations).commitEnvelope envelope =
          (.error failure, IndexOperation.performAll index operations)) ∧
    (∀ (operation : IndexOperation) other, operation.concerns ≠ some other →
      (operation.perform index).2.fibers.lookup other = index.fibers.lookup other) ∧
    ∀ frame envelope, decodeAndValidateFrame frame = .ok envelope →
      (index.processFrame frame).1 = .ok () →
      ∀ other, other.header.eventId = envelope.header.eventId →
      let later := IndexOperation.performAll (index.processFrame frame).2 operations
      (∃ failure, later.validateAppend other = .error failure ∧
        later.commitEnvelope other = (.error failure, later) ∧
        (index.hasRawFrames = false → envelope.header.eventId ≠ zeroId →
          failure = ⟨.precursorChainBroken none,
            "duplicate event ID observed across session fibers per C5.61"⟩)) ∧
      ∀ again, decodeAndValidateFrame again = .ok other →
        (later.processFrame again).2.IsBroken other.header.fiberId ∨
          (later.processFrame again).2 = later := by
  refine ⟨?_, ?_, ?_⟩
  · intro fiberId isBroken
    have stays := (index.performAll_keeps operations).1 fiberId isBroken
    exact ⟨stays, stays.refuses⟩
  · exact fun operation other apart => (index.perform_keeps operation).others other apart
  · intro frame envelope decoded passed other same
    dsimp only
    obtain ⟨-, grown, raw⟩ := (index.processFrame frame).2.performAll_keeps operations
    have seen : other.header.eventId ∈
        (IndexOperation.performAll (index.processFrame frame).2 operations).seenEventIds := by
      rw [same]
      exact grown (seen_of_processFrame decoded passed)
    have kept : (index.processFrame frame).2.hasRawFrames = index.hasRawFrames :=
      (index.perform_keeps (.processFrame frame)).raw
    rw [kept] at raw
    refine ⟨?_, fun again decodedAgain => processFrame_seen decodedAgain seen⟩
    obtain ⟨failure, refused, committed, duplicate⟩ := refuses_seen seen
    refine ⟨failure, refused, committed, ?_⟩
    rw [raw, same] at duplicate
    exact duplicate

end Calls

section Nameless

attribute [local instance] standardDigests

/-- An index with one broken fiber. -/
def brokenIndex : SessionIndex := (SessionIndex.new.markFiberBroken (repeatedId 2) "broken").2

/-- A first event under the empty identifier. -/
def namelessEvent (fiberId : Id) : EventEnvelope :=
  ⟨⟨zeroId, fiberId, false, zeroId, zeroHash⟩, [7]⟩

/-- Its frame on the broken fiber. -/
def namelessFrame : Bytes := ((namelessEvent (repeatedId 2)).encode []).2

/-- Recovery goes past an event without an identifier on a broken fiber; another fiber
then refuses the identifier as empty, not as a repetition. -/
theorem nameless_event_refused_as_empty :
    brokenIndex.IsBroken (repeatedId 2) ∧
      decodeAndValidateFrame namelessFrame = .ok (namelessEvent (repeatedId 2)) ∧
      (brokenIndex.processFrame namelessFrame).1 = .ok () ∧
      (brokenIndex.processFrame namelessFrame).2.validateAppend (namelessEvent (repeatedId 4)) =
        .error ⟨.valueConstraintViolated .empty, "event_id cannot be all-zeroes"⟩ ∧
      (brokenIndex.processFrame namelessFrame).2.validateAppend (namelessEvent (repeatedId 4)) ≠
        .error ⟨.precursorChainBroken none,
          "duplicate event ID observed across session fibers per C5.61"⟩ :=
  ⟨⟨"broken", 0, rfl⟩, by decide +kernel, by decide +kernel, by decide +kernel, by decide +kernel⟩

/-- The first event comes twice: its fiber is broken for good, and a commit of its
identifier on another fiber is refused as a repetition. -/
theorem broken_fibers_absorb_repeated :
    ∃ index : SessionIndex, index.IsBroken (repeatedId 2) ∧
      (IndexOperation.performAll index [.commitEnvelope genesisEvent, .processFrame otherFrame,
        .invalidateFiber (repeatedId 4)]).IsBroken (repeatedId 2) ∧
      (IndexOperation.performAll (index.processFrame firstFrame).2
        [.processFrame otherFrame]).validateAppend
          { otherGenesis with header.eventId := repeatedId 1 } =
        .error ⟨.precursorChainBroken none,
          "duplicate event ID observed across session fibers per C5.61"⟩ := by
  have broken : (IndexOperation.performAll .new
      [.processFrame firstFrame, .processFrame firstFrame]).IsBroken (repeatedId 2) :=
    ⟨_, _, rfl⟩
  refine ⟨_, broken, ?_, ?_⟩
  · obtain ⟨stays, -, -⟩ := broken_fibers_absorb (IndexOperation.performAll .new
      [.processFrame firstFrame, .processFrame firstFrame])
      [.commitEnvelope genesisEvent, .processFrame otherFrame, .invalidateFiber (repeatedId 4)]
    exact (stays _ broken).1
  · obtain ⟨-, -, refused⟩ := broken_fibers_absorb (IndexOperation.performAll .new
      [.processFrame firstFrame, .processFrame firstFrame]) [.processFrame otherFrame]
    obtain ⟨⟨failure, refusal, -, duplicate⟩, -⟩ := refused firstFrame genesisEvent
      (by decide +kernel) (by decide +kernel)
        { otherGenesis with header.eventId := repeatedId 1 } rfl
    rw [refusal, duplicate (by decide +kernel) (by decide +kernel)]

end Nameless

end SessionIndex

end Pardosa
