import Mathlib.Data.Finmap
import Pardosa.Store.FiberHandle

/-!
# Session index

Per fiber the index keeps the tip and the number of accepted events, or the
reason the fiber is broken; across fibers it keeps the set of event
identifiers it has seen. `validateAppend` decides admission, `commitEnvelope`
is the live path and `processFrame` the recovery path, which records a chain
break instead of refusing it.
-/

namespace Pardosa

open Foundation

/-- Maximum active tracked fibers in a session index. -/
def maxActiveFibers : Nat := 100000

/-- Largest number of event identifiers a session may have seen. -/
def maxSeenEvents : Nat := min (maxActiveFibers * maxEventsPerFiber) u64Max

/-- Latest envelope and event count of a fiber. -/
structure FiberTip where
  envelope : EventEnvelope
  eventCount : Nat
deriving DecidableEq, Repr

/-- What the index knows of a fiber. -/
inductive FiberSlot where
  | active (tip : FiberTip)
  | broken (reason : String) (eventCount : Nat)
deriving DecidableEq, Repr

/-- Whether a slot records a chain break. -/
def FiberSlot.isBroken : FiberSlot → Bool
  | .active _ => false
  | .broken _ _ => true

/-- Events counted on a fiber, broken or not. -/
def FiberSlot.eventCount : FiberSlot → Nat
  | .active tip => tip.eventCount
  | .broken _ eventCount => eventCount

/-- In-memory index of the fibers of a session. -/
structure SessionIndex where
  fibers : Finmap (fun _ : Id => FiberSlot)
  seenEventIds : Finset Id
  revision : UInt64
  hasRawFrames : Bool
deriving DecidableEq

namespace SessionIndex

/-- An empty session index. -/
def new : SessionIndex := ⟨∅, ∅, 0, false⟩

/-- Marks that the index has unindexed raw frames. -/
def markHasRawFrames (index : SessionIndex) : SessionIndex :=
  { index with hasRawFrames := true, revision := index.revision + 1 }

/-- Marks a fiber as broken, keeping its event count. -/
def markFiberBroken (index : SessionIndex) (fiberId : Id) (reason : String) :
    Except OperationFailure Unit × SessionIndex :=
  let reason := String.ofList (reason.toList.take 256)
  if fiberId ∉ index.fibers ∧ index.fibers.keys.card ≥ maxActiveFibers then
    (.error ⟨.valueConstraintViolated .tooLong,
      "active tracked fibers capacity exceeded (MAX_ACTIVE_FIBERS)"⟩, index)
  else
    let eventCount := match index.fibers.lookup fiberId with
      | some (.active tip) => tip.eventCount
      | some (.broken _ eventCount) => eventCount
      | none => 0
    (.ok (), { index with
      fibers := index.fibers.insert fiberId (.broken reason eventCount)
      revision := index.revision + 1 })

/-- Invalidates a fiber by marking it broken. -/
def invalidateFiber (index : SessionIndex) (fiberId : Id) :
    Except OperationFailure Unit × SessionIndex :=
  index.markFiberBroken fiberId "invalidated fiber"

/-- Whether any fiber is marked broken. -/
def hasBrokenFibers (index : SessionIndex) : Bool :=
  decide (∃ fiberId ∈ index.fibers.keys,
    (index.fibers.lookup fiberId).any FiberSlot.isBroken = true)

/-- Number of distinct active fibers. -/
def len (index : SessionIndex) : Nat :=
  (index.fibers.keys.filter fun fiberId =>
    (index.fibers.lookup fiberId).all FiberSlot.isBroken = false).card

/-- The refusal of point lookups in a session with raw frames. -/
def rawFramesLookup : OperationFailure :=
  ⟨.envelopeMismatch, "session contains unindexed raw frames; point lookup unavailable"⟩

/-- The latest envelope of a fiber. -/
def getLatest (index : SessionIndex) (fiberId : Id) :
    Except OperationFailure (Option EventEnvelope) :=
  if index.hasRawFrames then .error rawFramesLookup
  else match index.fibers.lookup fiberId with
    | some (.active tip) => .ok (some tip.envelope)
    | some (.broken _ _) =>
        .error ⟨.precursorChainBroken none, "cannot get latest envelope on broken fiber"⟩
    | none => .ok none

/-- The event count of a fiber. -/
def eventCount (index : SessionIndex) (fiberId : Id) : Except OperationFailure Nat :=
  if index.hasRawFrames then .error rawFramesLookup
  else match index.fibers.lookup fiberId with
    | some (.active tip) => .ok tip.eventCount
    | some (.broken _ _) =>
        .error ⟨.precursorChainBroken none, "cannot query event count on broken fiber"⟩
    | none => .ok 0

/-- Decodes a frame payload and verifies that it is consumed completely. -/
def decodeAndValidateFrame (frame : Bytes) : Except OperationFailure EventEnvelope :=
  match EventEnvelope.decode frame with
  | .error failure => .error ⟨.envelopeMismatch, "frame decode error: " ++ failure.display⟩
  | .ok (envelope, consumed) =>
      if consumed ≠ frame.length then
        .error ⟨.envelopeMismatch, "frame decode error: " ++
          (DecodeError.truncatedPayload frame.length consumed).display⟩
      else .ok envelope

/-- Counts an event of a broken fiber and remembers its identifier. -/
def recordBrokenEventId (index : SessionIndex) (fiberId eventId : Id) :
    Except OperationFailure Unit × SessionIndex :=
  let countLimit : OperationFailure :=
    ⟨.valueConstraintViolated .tooLong, "broken fiber event count limit exceeded"⟩
  let remember (index : SessionIndex) : Except OperationFailure Unit × SessionIndex :=
    if eventId ∉ index.seenEventIds then
      if index.seenEventIds.card ≥ maxSeenEvents then
        (.error ⟨.valueConstraintViolated .tooLong, "seen event ids limit exceeded"⟩, index)
      else (.ok (), { index with seenEventIds := insert eventId index.seenEventIds })
    else (.ok (), index)
  match index.fibers.lookup fiberId with
  | some (.broken reason eventCount) =>
      match checkedAdd eventCount 1 with
      | none => (.error countLimit, index)
      | some nextCount =>
          if nextCount > maxEventsPerFiber then (.error countLimit, index)
          else remember { index with
            fibers := index.fibers.insert fiberId (.broken reason nextCount) }
  | _ => remember index

/-- Commits an envelope without validating it again. -/
def commitEnvelopeUnchecked (index : SessionIndex) (envelope : EventEnvelope) : SessionIndex :=
  let fiberId := envelope.header.fiberId
  let tip : FiberTip := match index.fibers.lookup fiberId with
    | some (.active tip) => ⟨envelope, tip.eventCount + 1⟩
    | _ => ⟨envelope, 1⟩
  { index with
    seenEventIds := insert envelope.header.eventId index.seenEventIds
    fibers := index.fibers.insert fiberId (.active tip)
    revision := index.revision + 1 }

/-- The capacity condition under which a fiber may enter the map. -/
def Tracks (index : SessionIndex) (fiberId : Id) : Prop :=
  fiberId ∈ index.fibers ∨ index.fibers.keys.card < maxActiveFibers

/-- `after` differs from `index` by a broken slot of one fiber and possibly by
its revision. -/
def BreaksAt (index after : SessionIndex) (fiberId : Id) : Prop :=
  ∃ reason eventCount revision, index.Tracks fiberId ∧
    after = { index with
      fibers := index.fibers.insert fiberId (.broken reason eventCount), revision }

/-- What counting an event of a broken fiber can do. -/
theorem recordBrokenEventId_cases {index : SessionIndex} {fiberId : Id} (eventId : Id)
    {reason : String} {eventCount : Nat}
    (slot : index.fibers.lookup fiberId = some (.broken reason eventCount)) :
    (∃ failure after, index.recordBrokenEventId fiberId eventId = (.error failure, after) ∧
      index.BreaksAt after fiberId) ∨
    (∃ broken, index.BreaksAt broken fiberId ∧
      index.recordBrokenEventId fiberId eventId = (.ok (), { broken with
        seenEventIds := insert eventId index.seenEventIds })) := by
  have tracked : index.Tracks fiberId := Or.inl (Finmap.mem_iff.mpr ⟨_, slot⟩)
  have unchanged : index.BreaksAt index fiberId := by
    refine ⟨reason, eventCount, index.revision, tracked, ?_⟩
    have same : index.fibers.insert fiberId (.broken reason eventCount) = index.fibers := by
      apply Finmap.ext_lookup
      intro other
      by_cases equal : other = fiberId
      · rw [equal, Finmap.lookup_insert, slot]
      · rw [Finmap.lookup_insert_of_ne _ equal]
    rw [same]
  unfold recordBrokenEventId
  simp only [slot]
  split
  · exact Or.inl ⟨_, _, rfl, unchanged⟩
  · rename_i nextCount added
    have counted : index.BreaksAt { index with
        fibers := index.fibers.insert fiberId (.broken reason nextCount) } fiberId :=
      ⟨reason, nextCount, index.revision, tracked, rfl⟩
    split_ifs with limit seen full
    · exact Or.inl ⟨_, _, rfl, unchanged⟩
    · refine Or.inr ⟨_, counted, ?_⟩
      rw [Finset.insert_eq_of_mem seen]
    · exact Or.inl ⟨_, _, rfl, counted⟩
    · exact Or.inr ⟨_, counted, rfl⟩

/-- What marking a fiber broken can do. -/
theorem markFiberBroken_cases (index : SessionIndex) (fiberId : Id) (reason : String) :
    (∃ failure, index.markFiberBroken fiberId reason = (.error failure, index)) ∨
    (∃ after, index.markFiberBroken fiberId reason = (.ok (), after) ∧
      index.BreaksAt after fiberId) := by
  unfold markFiberBroken
  simp only
  split_ifs with capacity
  · exact Or.inl ⟨_, rfl⟩
  · refine Or.inr ⟨_, rfl, _, _, _, ?_, rfl⟩
    by_cases present : fiberId ∈ index.fibers
    · exact Or.inl present
    · exact Or.inr (by
        have := not_and.mp capacity present
        omega)

/-- A fiber that breaks is broken. -/
theorem BreaksAt.slot {index after : SessionIndex} {fiberId : Id}
    (breaks : index.BreaksAt after fiberId) :
    ∃ reason eventCount, after.fibers.lookup fiberId = some (.broken reason eventCount) := by
  obtain ⟨reason, eventCount, _, _, rfl⟩ := breaks
  exact ⟨reason, eventCount, Finmap.lookup_insert _⟩

/-- A break forgets no identifier. -/
theorem BreaksAt.seen {index after : SessionIndex} {fiberId : Id}
    (breaks : index.BreaksAt after fiberId) : after.seenEventIds = index.seenEventIds := by
  obtain ⟨_, _, _, _, rfl⟩ := breaks
  rfl

/-- Breaking the same fiber twice is breaking it once. -/
theorem BreaksAt.trans {index middle after : SessionIndex} {fiberId : Id}
    (first : index.BreaksAt middle fiberId) (second : middle.BreaksAt after fiberId) :
    index.BreaksAt after fiberId := by
  obtain ⟨_, _, _, tracked, rfl⟩ := first
  obtain ⟨reason, eventCount, revision, _, rfl⟩ := second
  refine ⟨reason, eventCount, revision, tracked, ?_⟩
  rw [Finmap.insert_insert]

variable [Digests]

/-- A handle for the current state of a fiber. -/
def fiber (index : SessionIndex) (fiberId : Id) : Except OperationFailure FiberHandle :=
  if index.hasRawFrames then .error rawFramesLookup
  else match index.fibers.lookup fiberId with
    | some (.active tip) =>
        let state := if tip.envelope.header.detached then FiberState.detached else .defined
        FiberHandle.withState fiberId state tip.envelope.header.eventId tip.envelope.commitment
          tip.eventCount
    | some (.broken _ _) =>
        .error ⟨.precursorChainBroken none, "cannot construct fiber handle for broken fiber"⟩
    | none => .ok (FiberHandle.new fiberId)

/-- Validates an envelope against the index before it is written. -/
def validateAppend (index : SessionIndex) (envelope : EventEnvelope) :
    Except OperationFailure Unit :=
  if index.hasRawFrames then
    .error ⟨.envelopeMismatch, "session contains unindexed raw frames; append unavailable"⟩
  else if envelope.header.eventId = zeroId then
    .error ⟨.valueConstraintViolated .empty, "event_id cannot be all-zeroes"⟩
  else if envelope.header.eventId ∈ index.seenEventIds then
    .error ⟨.precursorChainBroken none,
      "duplicate event ID observed across session fibers per C5.61"⟩
  else if index.seenEventIds.card ≥ maxSeenEvents then
    .error ⟨.valueConstraintViolated .tooLong, "seen event ids limit exceeded"⟩
  else match index.fibers.lookup envelope.header.fiberId with
    | some (.broken _ _) =>
        .error ⟨.invariantBreakingConfiguration, "cannot append to broken fiber"⟩
    | some (.active tip) =>
        if envelope.header.precursor = zeroId then
          .error ⟨.precursorChainBroken none, "duplicate genesis on same fiber"⟩
        else if envelope.header.precursor ≠ tip.envelope.header.eventId then
          .error ⟨.precursorChainBroken none,
            "precursor does not match predecessor event ID per C5.40"⟩
        else if envelope.header.precursorHash ≠ tip.envelope.commitment then
          .error ⟨.precursorChainBroken none,
            "precursor commitment hash does not match predecessor commitment per C5.40"⟩
        else if tip.eventCount ≥ maxEventsPerFiber then
          .error ⟨.valueConstraintViolated .tooLong,
            "event count boundary reached (MAX_EVENTS_PER_FIBER)"⟩
        else .ok ()
    | none =>
        if index.fibers.keys.card ≥ maxActiveFibers then
          .error ⟨.valueConstraintViolated .tooLong,
            "active tracked fibers capacity exceeded (MAX_ACTIVE_FIBERS)"⟩
        else if envelope.header.precursor ≠ zeroId ∨ envelope.header.precursorHash ≠ zeroHash then
          .error ⟨.precursorChainBroken none,
            "initial envelope on fiber must carry genesis precursor zeroes per C4.19 and C5.40"⟩
        else .ok ()

/-- Pre-validates an envelope. -/
def prepareAppend (index : SessionIndex) (envelope : EventEnvelope) :
    Except OperationFailure Unit :=
  index.validateAppend envelope

/-- Commits an envelope after validation. -/
def commitEnvelope (index : SessionIndex) (envelope : EventEnvelope) :
    Except OperationFailure Unit × SessionIndex :=
  match index.validateAppend envelope with
  | .error failure => (.error failure, index)
  | .ok () => (.ok (), index.commitEnvelopeUnchecked envelope)

/-- The refusal of a frame that is not exactly one envelope. -/
def malformedFrame : OperationFailure :=
  ⟨.envelopeMismatch, "frame length < 85 bytes or malformed envelope in ordinary session index"⟩

/-- Processes one recovered frame: chain breaks are recorded, other refusals are
returned. Changes made before a refusal stay. -/
def processFrame (index : SessionIndex) (frame : Bytes) :
    Except OperationFailure Unit × SessionIndex :=
  if frame.length < 85 then (.error malformedFrame, index)
  else match decodeAndValidateFrame frame with
    | .error _ => (.error malformedFrame, index)
    | .ok envelope =>
        let fiberId := envelope.header.fiberId
        let eventId := envelope.header.eventId
        match index.fibers.lookup fiberId with
        | some (.broken _ _) => index.recordBrokenEventId fiberId eventId
        | _ =>
            match index.validateAppend envelope with
            | .ok () => (.ok (), index.commitEnvelopeUnchecked envelope)
            | .error failure =>
                if failure.condition.isChainBreak then
                  match index.markFiberBroken fiberId failure.diagnosticDetail with
                  | (.error refusal, marked) => (.error refusal, marked)
                  | (.ok (), marked) => marked.recordBrokenEventId fiberId eventId
                else (.error failure, index)

/-- Processes frames in order, stopping at the first refusal. -/
def processFrames (index : SessionIndex) : List Bytes → Except OperationFailure SessionIndex
  | [] => .ok index
  | frame :: frames =>
      match index.processFrame frame with
      | (.error failure, _) => .error failure
      | (.ok (), after) => after.processFrames frames

/-- Rebuilds a session index from an ordered sequence of raw container frames. -/
def buildFromFrames (frames : List Bytes) : Except OperationFailure SessionIndex :=
  new.processFrames frames

/-- Frames are processed in two parts as they are in one. -/
theorem processFrames_append (index : SessionIndex) (first second : List Bytes) :
    index.processFrames (first ++ second) =
      match index.processFrames first with
      | .error failure => .error failure
      | .ok after => after.processFrames second := by
  induction first generalizing index with
  | nil => rfl
  | cons frame frames ih =>
      simp only [List.cons_append, processFrames]
      cases index.processFrame frame with
      | mk outcome after =>
          cases outcome with
          | error failure => rfl
          | ok => exact ih after

/-- What `validateAppend` admits: the next envelope of an unbroken fiber, or a
genesis envelope of a fiber not yet tracked. -/
def Continues (index : SessionIndex) (envelope : EventEnvelope) : Prop :=
  match index.fibers.lookup envelope.header.fiberId with
  | some (.broken _ _) => False
  | some (.active tip) =>
      envelope.header.precursor = tip.envelope.header.eventId ∧
        envelope.header.precursorHash = tip.envelope.commitment ∧
        envelope.header.precursor ≠ zeroId ∧ tip.eventCount < maxEventsPerFiber
  | none =>
      envelope.header.precursor = zeroId ∧ envelope.header.precursorHash = zeroHash ∧
        index.fibers.keys.card < maxActiveFibers

/-- Admission, as one condition. -/
structure Admits (index : SessionIndex) (envelope : EventEnvelope) : Prop where
  indexed : index.hasRawFrames = false
  named : envelope.header.eventId ≠ zeroId
  fresh : envelope.header.eventId ∉ index.seenEventIds
  room : index.seenEventIds.card < maxSeenEvents
  continues : index.Continues envelope

/-- Validation passes exactly what the index admits. -/
theorem validateAppend_ok_iff {index : SessionIndex} {envelope : EventEnvelope} :
    index.validateAppend envelope = .ok () ↔ index.Admits envelope := by
  constructor
  · intro accepted
    cases slot : index.fibers.lookup envelope.header.fiberId with
    | none =>
        simp only [validateAppend, slot] at accepted
        split_ifs at accepted with raw zero seen full capacity genesis
        push Not at genesis
        refine ⟨by simpa using raw, zero, seen, by omega, ?_⟩
        simp only [Continues, slot]
        exact ⟨genesis.1, genesis.2, by omega⟩
    | some found =>
        cases found with
        | broken reason eventCount =>
            simp only [validateAppend, slot] at accepted
            split_ifs at accepted
        | active tip =>
            simp only [validateAppend, slot] at accepted
            split_ifs at accepted with raw zero seen full genesis other hash count
            refine ⟨by simpa using raw, zero, seen, by omega, ?_⟩
            simp only [Continues, slot]
            exact ⟨by simpa using other, by simpa using hash, genesis, by omega⟩
  · rintro ⟨indexed, named, fresh, room, continues⟩
    unfold Continues at continues
    unfold validateAppend
    rw [if_neg (by simp [indexed]), if_neg named, if_neg fresh, if_neg (by omega)]
    split at continues <;> rename_i slot
    · exact continues.elim
    · obtain ⟨other, hash, genesis, count⟩ := continues
      rw [if_neg genesis, if_neg (by simpa using other), if_neg (by simpa using hash),
        if_neg (by omega)]
    · obtain ⟨genesis, hash, capacity⟩ := continues
      rw [if_neg (by omega), if_neg (by simp [genesis, hash])]

/-- An admitted envelope belongs to a fiber that is not broken. -/
theorem Admits.not_broken {index : SessionIndex} {envelope : EventEnvelope} {reason : String}
    {eventCount : Nat} (admits : index.Admits envelope) :
    index.fibers.lookup envelope.header.fiberId ≠ some (.broken reason eventCount) := by
  intro slot
  have continues := admits.continues
  simp [Continues, slot] at continues

/-- An admitted envelope finds its fiber tracked, or room for it. -/
theorem Admits.tracks {index : SessionIndex} {envelope : EventEnvelope}
    (admits : index.Admits envelope) : index.Tracks envelope.header.fiberId := by
  cases slot : index.fibers.lookup envelope.header.fiberId with
  | some found => exact Or.inl (Finmap.mem_iff.mpr ⟨found, slot⟩)
  | none =>
      have continues := admits.continues
      simp only [Continues, slot] at continues
      exact Or.inr continues.2.2

/-- Everything `processFrame` can do: refuse without a change, commit, break the
envelope's fiber and count the event, or break it and refuse. -/
theorem processFrame_cases (index : SessionIndex) (frame : Bytes) :
    (∃ failure, index.processFrame frame = (.error failure, index)) ∨
    (∃ envelope, decodeAndValidateFrame frame = .ok envelope ∧
      ((index.Admits envelope ∧
          index.processFrame frame = (.ok (), index.commitEnvelopeUnchecked envelope)) ∨
        (∃ broken, index.BreaksAt broken envelope.header.fiberId ∧
          index.processFrame frame = (.ok (), { broken with
            seenEventIds := insert envelope.header.eventId index.seenEventIds })) ∨
        (∃ failure after, index.BreaksAt after envelope.header.fiberId ∧
          index.processFrame frame = (.error failure, after)))) := by
  unfold processFrame
  split_ifs with short
  · exact Or.inl ⟨_, rfl⟩
  split
  · exact Or.inl ⟨_, rfl⟩
  rename_i envelope decoded
  simp only
  split
  · rename_i reason eventCount slot
    refine Or.inr ⟨envelope, decoded, Or.inr ?_⟩
    obtain ⟨failure, after, recorded, breaks⟩ | ⟨broken, breaks, recorded⟩ :=
      recordBrokenEventId_cases envelope.header.eventId slot
    · exact Or.inr ⟨failure, after, breaks, recorded⟩
    · exact Or.inl ⟨broken, breaks, recorded⟩
  · split
    · rename_i accepted
      exact Or.inr ⟨envelope, decoded, Or.inl ⟨validateAppend_ok_iff.mp accepted, rfl⟩⟩
    · rename_i failure _
      split_ifs with chainBreak
      · obtain ⟨refusal, marked⟩ | ⟨marked, marking, breaks⟩ :=
          index.markFiberBroken_cases envelope.header.fiberId failure.diagnosticDetail
        · rw [marked]
          exact Or.inl ⟨refusal, rfl⟩
        · rw [marking]
          refine Or.inr ⟨envelope, decoded, Or.inr ?_⟩
          obtain ⟨reason, eventCount, slot⟩ := breaks.slot
          obtain ⟨failure, after, recorded, again⟩ | ⟨broken, again, recorded⟩ :=
            recordBrokenEventId_cases envelope.header.eventId slot
          · exact Or.inr ⟨failure, after, breaks.trans again, recorded⟩
          · refine Or.inl ⟨broken, breaks.trans again, ?_⟩
            rw [breaks.seen] at recorded
            exact recorded
      · exact Or.inl ⟨_, rfl⟩

end SessionIndex

end Pardosa
