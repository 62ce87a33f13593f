import Mathlib.Data.List.Chain
import Pardosa.Store.SessionIndex

/-!
# Accepted history of a session index

The index keeps a tip, a count and a set. This file relates them to the whole
list of envelopes the index has accepted, over every run of live commits and
recovered frames, in any order and with any refusals in between.
-/

namespace Pardosa

open Foundation

/-- The accepted envelopes of one fiber, in acceptance order. -/
def ofFiber (accepted : List EventEnvelope) (fiberId : Id) : List EventEnvelope :=
  accepted.filter fun envelope => envelope.header.fiberId = fiberId

/-- One more envelope goes to its own fiber. -/
theorem ofFiber_append (accepted : List EventEnvelope) (envelope : EventEnvelope) (fiberId : Id) :
    ofFiber (accepted ++ [envelope]) fiberId =
      ofFiber accepted fiberId ++ if envelope.header.fiberId = fiberId then [envelope] else [] := by
  unfold ofFiber
  rw [List.filter_append]
  by_cases same : envelope.header.fiberId = fiberId
  · simp [same]
  · simp [same]

/-- One more envelope is the last of its fiber. -/
theorem ofFiber_append_self (accepted : List EventEnvelope) (envelope : EventEnvelope) :
    ofFiber (accepted ++ [envelope]) envelope.header.fiberId =
      ofFiber accepted envelope.header.fiberId ++ [envelope] := by
  rw [ofFiber_append, if_pos rfl]

/-- One more envelope leaves every other fiber alone. -/
theorem ofFiber_append_of_ne {envelope : EventEnvelope} {fiberId : Id}
    (other : fiberId ≠ envelope.header.fiberId) (accepted : List EventEnvelope) :
    ofFiber (accepted ++ [envelope]) fiberId = ofFiber accepted fiberId := by
  rw [ofFiber_append, if_neg (Ne.symm other), List.append_nil]

/-- An envelope of a fiber is one of the accepted ones. -/
theorem mem_of_mem_ofFiber {accepted : List EventEnvelope} {fiberId : Id}
    {envelope : EventEnvelope} (found : envelope ∈ ofFiber accepted fiberId) :
    envelope ∈ accepted :=
  (List.mem_filter.mp found).1

/-- The envelopes of a fiber are all its own. -/
theorem own_of_mem_ofFiber {accepted : List EventEnvelope} {fiberId : Id} :
    ∀ envelope ∈ ofFiber accepted fiberId, envelope.header.fiberId = fiberId := by
  intro envelope member
  simpa using (List.mem_filter.mp member).2

/-- A tracked fiber keeps the map within its capacity. -/
theorem SessionIndex.Tracks.capacity {index : SessionIndex} {fiberId : Id} {slot : FiberSlot}
    (tracked : index.Tracks fiberId) (within : index.fibers.keys.card ≤ maxActiveFibers) :
    (index.fibers.insert fiberId slot).keys.card ≤ maxActiveFibers := by
  have keys : (index.fibers.insert fiberId slot).keys = insert fiberId index.fibers.keys := by
    ext other
    rw [Finmap.mem_keys, Finmap.mem_insert, Finset.mem_insert, Finmap.mem_keys]
  rw [keys]
  rcases tracked with present | room
  · rw [Finset.insert_eq_of_mem (Finmap.mem_keys.mpr present)]
    exact within
  · exact Nat.le_trans (Finset.card_insert_le _ _) room

variable [Digests]

/-- An envelope names the one before it and commits to it. -/
def Follows (before after : EventEnvelope) : Prop :=
  after.header.precursor = before.header.eventId ∧
    after.header.precursorHash = before.commitment

/-- What an active slot says about the history of its fiber. -/
structure FiberHistory (history : List EventEnvelope) (tip : FiberTip) : Prop where
  genesis : ∀ first ∈ history.head?,
    first.header.precursor = zeroId ∧ first.header.precursorHash = zeroHash
  linked : history.IsChain Follows
  last : history.getLast? = some tip.envelope
  counted : tip.eventCount = history.length
  bounded : history.length ≤ maxEventsPerFiber
  named : ∀ envelope ∈ history, envelope.header.eventId ≠ zeroId
  distinct : (history.map fun envelope => envelope.header.eventId).Nodup

namespace FiberHistory

/-- A first envelope is a history, under a name and with genesis zeroes. -/
theorem start {envelope : EventEnvelope} (named : envelope.header.eventId ≠ zeroId)
    (genesis : envelope.header.precursor = zeroId ∧ envelope.header.precursorHash = zeroHash) :
    FiberHistory [envelope] ⟨envelope, 1⟩ where
  genesis := by simpa using genesis
  linked := List.isChain_singleton envelope
  last := rfl
  counted := rfl
  bounded := by simp [maxEventsPerFiber]
  named := by simpa using named
  distinct := by simp

/-- A history goes on with an envelope that follows its tip under a new name. -/
theorem extend {history : List EventEnvelope} {tip : FiberTip} {envelope : EventEnvelope}
    (holds : FiberHistory history tip) (follows : Follows tip.envelope envelope)
    (room : tip.eventCount < maxEventsPerFiber) (named : envelope.header.eventId ≠ zeroId)
    (fresh : ∀ earlier ∈ history, earlier.header.eventId ≠ envelope.header.eventId) :
    FiberHistory (history ++ [envelope]) ⟨envelope, tip.eventCount + 1⟩ where
  genesis := by
    have nonempty : history ≠ [] := by
      rintro rfl
      cases holds.last
    rw [List.head?_append_of_ne_nil _ nonempty]
    exact holds.genesis
  linked := by
    rw [List.isChain_append]
    refine ⟨holds.linked, List.isChain_singleton envelope, ?_⟩
    intro before isLast after isHead
    rw [holds.last, Option.mem_some_iff] at isLast
    rw [List.head?_cons, Option.mem_some_iff] at isHead
    rw [← isLast, ← isHead]
    exact follows
  last := by simp
  counted := by simp [holds.counted]
  bounded := by
    have counted := holds.counted
    rw [List.length_append, List.length_singleton]
    omega
  named := by
    intro each found
    rcases List.mem_append.mp found with earlier | isNew
    · exact holds.named each earlier
    · rw [List.mem_singleton.mp isNew]
      exact named
  distinct := by
    rw [List.map_append, List.map_singleton, List.nodup_append]
    refine ⟨holds.distinct, List.nodup_singleton _, ?_⟩
    intro left isEarlier right isNew
    obtain ⟨earlier, found, rfl⟩ := List.mem_map.mp isEarlier
    rw [List.mem_singleton.mp isNew]
    exact fresh earlier found

end FiberHistory

/-- The index agrees with the list of accepted envelopes. -/
structure HistoryInvariant (index : SessionIndex) (accepted : List EventEnvelope) : Prop where
  active : ∀ fiberId tip, index.fibers.lookup fiberId = some (.active tip) →
    FiberHistory (ofFiber accepted fiberId) tip
  untracked : ∀ fiberId, index.fibers.lookup fiberId = none → ofFiber accepted fiberId = []
  disjoint : ∀ first second tip tip', first ≠ second →
    index.fibers.lookup first = some (.active tip) →
    index.fibers.lookup second = some (.active tip') →
    ∀ left ∈ ofFiber accepted first, ∀ right ∈ ofFiber accepted second,
      left.header.eventId ≠ right.header.eventId
  seen : ∀ eventId, eventId ∈ index.seenEventIds ↔
    ∃ envelope ∈ accepted, envelope.header.eventId = eventId
  capacity : index.fibers.keys.card ≤ maxActiveFibers

namespace HistoryInvariant

variable {index after : SessionIndex} {accepted : List EventEnvelope} {envelope : EventEnvelope}
  {fiberId : Id}

/-- A new index agrees with having accepted nothing. -/
theorem start : HistoryInvariant .new [] where
  active := by
    intro fiberId tip slot
    simp [SessionIndex.new] at slot
  untracked := by
    intro fiberId _
    rfl
  disjoint := by
    intro first second tip tip' _ slot
    simp [SessionIndex.new] at slot
  seen := by simp [SessionIndex.new]
  capacity := by simp [SessionIndex.new]

/-- Breaking a fiber forgets what was known of it and nothing else. -/
theorem breaks (holds : HistoryInvariant index accepted) (broken : index.BreaksAt after fiberId) :
    HistoryInvariant after accepted := by
  obtain ⟨reason, eventCount, revision, tracked, rfl⟩ := broken
  -- An active slot after the break is the slot of another fiber, unchanged.
  have unchanged : ∀ other tip,
      (index.fibers.insert fiberId (.broken reason eventCount)).lookup other = some (.active tip) →
        index.fibers.lookup other = some (.active tip) := by
    intro other tip slot
    by_cases same : other = fiberId
    · rw [same, Finmap.lookup_insert] at slot
      cases slot
    · rwa [Finmap.lookup_insert_of_ne _ same] at slot
  constructor
  · intro other tip slot
    exact holds.active other tip (unchanged other tip slot)
  · intro other absent
    by_cases same : other = fiberId
    · rw [same, Finmap.lookup_insert] at absent
      cases absent
    · rw [Finmap.lookup_insert_of_ne _ same] at absent
      exact holds.untracked other absent
  · intro first second tip tip' distinct slot slot'
    exact holds.disjoint first second tip tip' distinct (unchanged first tip slot)
      (unchanged second tip' slot')
  · exact holds.seen
  · exact tracked.capacity holds.capacity

/-- Remembering one more accepted identifier. -/
theorem seen_append (holds : HistoryInvariant index accepted) (eventId : Id) :
    eventId ∈ insert envelope.header.eventId index.seenEventIds ↔
      ∃ each ∈ accepted ++ [envelope], each.header.eventId = eventId := by
  rw [Finset.mem_insert, holds.seen]
  constructor
  · rintro (rfl | ⟨each, found, rfl⟩)
    · exact ⟨envelope, by simp, rfl⟩
    · exact ⟨each, by simp [found], rfl⟩
  · rintro ⟨each, found, rfl⟩
    rcases List.mem_append.mp found with earlier | isNew
    · exact Or.inr ⟨each, earlier, rfl⟩
    · rw [List.mem_singleton.mp isNew]
      exact Or.inl rfl

/-- Counting an event of a broken fiber adds to no active fiber's history. -/
theorem recorded (holds : HistoryInvariant index accepted)
    (broken : ∃ reason eventCount,
      index.fibers.lookup envelope.header.fiberId = some (.broken reason eventCount)) :
    HistoryInvariant
      { index with seenEventIds := insert envelope.header.eventId index.seenEventIds }
      (accepted ++ [envelope]) := by
  obtain ⟨reason, eventCount, brokenSlot⟩ := broken
  have unbroken : ∀ other slot, index.fibers.lookup other = slot →
      slot ≠ some (.broken reason eventCount) → other ≠ envelope.header.fiberId := by
    rintro other slot found differs rfl
    exact differs (found.symm.trans brokenSlot)
  constructor
  · intro other tip slot
    rw [ofFiber_append_of_ne (unbroken other _ slot (by simp))]
    exact holds.active other tip slot
  · intro other absent
    rw [ofFiber_append_of_ne (unbroken other _ absent (by simp))]
    exact holds.untracked other absent
  · intro first second tip tip' distinct slot slot'
    rw [ofFiber_append_of_ne (unbroken first _ slot (by simp)),
      ofFiber_append_of_ne (unbroken second _ slot' (by simp))]
    exact holds.disjoint first second tip tip' distinct slot slot'
  · exact holds.seen_append
  · exact holds.capacity

/-- An admitted envelope's identifier is not the identifier of any accepted one. -/
theorem fresh (holds : HistoryInvariant index accepted) (admits : index.Admits envelope) :
    ∀ earlier ∈ accepted, earlier.header.eventId ≠ envelope.header.eventId := by
  intro earlier found same
  exact admits.fresh ((holds.seen _).mpr ⟨earlier, found, same⟩)

/-- Committing an admitted envelope extends its fiber's history and leaves the
others alone. -/
theorem commit (holds : HistoryInvariant index accepted) (admits : index.Admits envelope) :
    HistoryInvariant (index.commitEnvelopeUnchecked envelope) (accepted ++ [envelope]) := by
  have extended : ∀ tip,
      (index.commitEnvelopeUnchecked envelope).fibers.lookup envelope.header.fiberId =
        some (.active tip) →
      FiberHistory (ofFiber accepted envelope.header.fiberId ++ [envelope]) tip := by
    intro tip slot
    unfold SessionIndex.commitEnvelopeUnchecked at slot
    simp only [Finmap.lookup_insert, Option.some.injEq, FiberSlot.active.injEq] at slot
    have continues := admits.continues
    unfold SessionIndex.Continues at continues
    split at continues <;> rename_i found
    · exact continues.elim
    · obtain ⟨precursor, hash, _, room⟩ := continues
      rw [found] at slot
      rw [← slot]
      refine (holds.active _ _ found).extend ⟨precursor, hash⟩ room admits.named ?_
      intro earlier member
      exact holds.fresh admits earlier (mem_of_mem_ofFiber member)
    · obtain ⟨precursor, hash, _⟩ := continues
      rw [found] at slot
      rw [← slot, holds.untracked _ found, List.nil_append]
      exact FiberHistory.start admits.named ⟨precursor, hash⟩
  have others : ∀ other, other ≠ envelope.header.fiberId →
      (index.commitEnvelopeUnchecked envelope).fibers.lookup other =
        index.fibers.lookup other := by
    intro other differs
    exact Finmap.lookup_insert_of_ne _ differs
  -- Across fibers only the new envelope can collide, and its identifier is fresh.
  have apart : ∀ other tip, other ≠ envelope.header.fiberId →
      index.fibers.lookup other = some (.active tip) →
      ∀ tip', (index.commitEnvelopeUnchecked envelope).fibers.lookup envelope.header.fiberId =
        some (.active tip') →
      ∀ left ∈ ofFiber accepted other,
      ∀ right ∈ ofFiber accepted envelope.header.fiberId ++ [envelope],
        left.header.eventId ≠ right.header.eventId := by
    intro other tip differs slot tip' slot' left member right member'
    rcases List.mem_append.mp member' with earlier | isNew
    · cases found : index.fibers.lookup envelope.header.fiberId with
      | none =>
          rw [holds.untracked _ found] at earlier
          cases earlier
      | some kept =>
          cases kept with
          | broken reason eventCount => exact (admits.not_broken found).elim
          | active before =>
              exact holds.disjoint other _ tip before differs slot found left member right earlier
    · rw [List.mem_singleton.mp isNew]
      exact holds.fresh admits left (mem_of_mem_ofFiber member)
  constructor
  · intro fiberId tip slot
    by_cases same : fiberId = envelope.header.fiberId
    · rw [same] at slot ⊢
      rw [ofFiber_append_self]
      exact extended tip slot
    · rw [others fiberId same] at slot
      rw [ofFiber_append_of_ne same]
      exact holds.active fiberId tip slot
  · intro fiberId absent
    by_cases same : fiberId = envelope.header.fiberId
    · rw [same] at absent
      simp [SessionIndex.commitEnvelopeUnchecked] at absent
    · rw [others fiberId same] at absent
      rw [ofFiber_append_of_ne same]
      exact holds.untracked fiberId absent
  · intro first second tip tip' distinct slot slot'
    by_cases isFirst : first = envelope.header.fiberId
    · have isOther : second ≠ envelope.header.fiberId := by
        intro isSecond
        exact distinct (isFirst.trans isSecond.symm)
      rw [others second isOther] at slot'
      rw [isFirst] at slot ⊢
      rw [ofFiber_append_self, ofFiber_append_of_ne isOther]
      intro left member right member' same
      exact apart second tip' isOther slot' tip slot right member' left member same.symm
    · rw [others first isFirst] at slot
      rw [ofFiber_append_of_ne isFirst]
      by_cases isSecond : second = envelope.header.fiberId
      · rw [isSecond] at slot' ⊢
        rw [ofFiber_append_self]
        exact apart first tip isFirst slot tip' slot'
      · rw [others second isSecond] at slot'
        rw [ofFiber_append_of_ne isSecond]
        exact holds.disjoint first second tip tip' distinct slot slot'
  · exact holds.seen_append
  · exact admits.tracks.capacity holds.capacity

end HistoryInvariant

/-- A call that may change the index. -/
inductive IndexCall where
  | commitEnvelope (envelope : EventEnvelope)
  | processFrame (frame : Bytes)
deriving DecidableEq, Repr

namespace IndexCall

/-- What a call returns and the index it leaves. -/
def perform (index : SessionIndex) : IndexCall → Except OperationFailure Unit × SessionIndex
  | .commitEnvelope envelope => index.commitEnvelope envelope
  | .processFrame frame => index.processFrame frame

/-- The envelope a call is about, when its bytes hold one. -/
def envelope : IndexCall → Option EventEnvelope
  | .commitEnvelope envelope => some envelope
  | .processFrame frame => (SessionIndex.decodeAndValidateFrame frame).toOption

end IndexCall

/-- An index with the envelopes accepted on the way to it. -/
structure IndexRun where
  index : SessionIndex
  accepted : List EventEnvelope

namespace IndexRun

/-- One call. A refused call adds nothing to the accepted envelopes, whatever it
changed in the index. -/
def step (run : IndexRun) (call : IndexCall) : IndexRun :=
  match call.perform run.index with
  | (.ok (), after) => ⟨after, run.accepted ++ call.envelope.toList⟩
  | (.error _, after) => ⟨after, run.accepted⟩

/-- The run of a sequence of calls on an empty index. -/
def ofCalls (calls : List IndexCall) : IndexRun := calls.foldl step ⟨.new, []⟩

/-- Every call keeps the index in agreement with what it accepted. -/
theorem step_invariant {run : IndexRun} (holds : HistoryInvariant run.index run.accepted)
    (call : IndexCall) : HistoryInvariant (run.step call).index (run.step call).accepted := by
  cases call with
  | commitEnvelope envelope =>
      cases validated : run.index.validateAppend envelope with
      | error failure =>
          simp only [step, IndexCall.perform, SessionIndex.commitEnvelope, validated]
          exact holds
      | ok =>
          simp only [step, IndexCall.perform, SessionIndex.commitEnvelope, validated]
          exact holds.commit (SessionIndex.validateAppend_ok_iff.mp validated)
  | processFrame frame =>
      obtain ⟨failure, refused⟩ | ⟨envelope, decoded, ⟨admits, committed⟩ |
        ⟨broken, breaks, recorded⟩ | ⟨failure, after, breaks, refused⟩⟩ :=
        run.index.processFrame_cases frame
      · simp only [step, IndexCall.perform, refused]
        exact holds
      · simp only [step, IndexCall.perform, committed, IndexCall.envelope, decoded]
        exact holds.commit admits
      · simp only [step, IndexCall.perform, recorded, IndexCall.envelope, decoded]
        rw [← breaks.seen]
        exact (holds.breaks breaks).recorded breaks.slot
      · simp only [step, IndexCall.perform, refused]
        exact holds.breaks breaks

/-- In every run, however calls are mixed and refused, the index agrees with the
envelopes it accepted. -/
theorem history_invariant (calls : List IndexCall) :
    HistoryInvariant (ofCalls calls).index (ofCalls calls).accepted := by
  unfold ofCalls
  induction calls using List.reverseRecOn with
  | nil => exact HistoryInvariant.start
  | append_singleton earlier call ih =>
      rw [List.foldl_append]
      exact step_invariant ih call

end IndexRun

end Pardosa
