import Pardosa.Store.ArtefactReader
import Pardosa.Store.Consistent

/-!
# Runs of a reader session

A session stands behind the events it has observed: position, tracked fibers and
resident events are those of the observed prefix, and the retained bytes are those of
what is queued. It goes on by one event, ends with a refusal, or has nothing to read.
-/

namespace Pardosa

open Foundation

/-- The bytes that a queue is charged with. -/
def queuedBytes (queue : List StreamEnvelope) : Nat :=
  (queue.map fun item => 85 + item.capacity).sum

/-- An empty queue retains nothing. -/
@[simp] theorem queuedBytes_nil : queuedBytes [] = 0 := rfl

/-- A queued envelope retains its header and its capacity. -/
@[simp] theorem queuedBytes_cons (item : StreamEnvelope) (queue : List StreamEnvelope) :
    queuedBytes (item :: queue) = 85 + item.capacity + queuedBytes queue := by
  simp [queuedBytes]

/-- Two queues retain what both of them do. -/
@[simp] theorem queuedBytes_append (first second : List StreamEnvelope) :
    queuedBytes (first ++ second) = queuedBytes first + queuedBytes second := by
  simp [queuedBytes]

/-- A stream within both limits. -/
structure WithinLimits (stream : List StreamEnvelope) : Prop where
  items : stream.length ≤ maxStreamItems
  bytes : queuedBytes stream ≤ maxStreamBytes

/-- An empty stream is within the limits. -/
theorem WithinLimits.nil : WithinLimits [] := ⟨Nat.zero_le _, Nat.zero_le _⟩

namespace Ingestion

variable {ingestion : Ingestion} {items : List StreamEnvelope}

/-- An ingestion that has queued everything so far. -/
structure Counts (ingestion : Ingestion) : Prop where
  count : ingestion.count = ingestion.stream.length
  retained : ingestion.retainedBytes = queuedBytes ingestion.stream
  within : WithinLimits ingestion.stream
  capacityRefused : ingestion.capacityRefused = false
  byteCapacityRefused : ingestion.byteCapacityRefused = false

/-- A reader starts with nothing counted. -/
theorem Counts.start : Counts start :=
  ⟨rfl, rfl, .nil, rfl, rfl⟩

/-- One more item, within the limits or beyond one of them. -/
theorem ingest_cons (counts : ingestion.Counts) (item : StreamEnvelope)
    (items : List StreamEnvelope) :
    ingestion.ingest (item :: items) =
      if ingestion.stream.length + 1 ≤ maxStreamItems then
        if queuedBytes (ingestion.stream ++ [item]) ≤ maxStreamBytes then
          ingest { ingestion with
            stream := ingestion.stream ++ [item]
            retainedBytes := queuedBytes (ingestion.stream ++ [item])
            count := ingestion.stream.length + 1 } items
        else { ingestion with
          byteCapacityRefused := true
          count := ingestion.stream.length + 1 }
      else { ingestion with
        capacityRefused := true
        count := ingestion.stream.length + 1 } := by
  have counted : saturatingAdd ingestion.count 1 = ingestion.stream.length + 1 := by
    have items := counts.within.items
    rw [counts.count]
    unfold saturatingAdd
    unfold maxStreamItems at items
    unfold u64Max
    omega
  have total : queuedBytes (ingestion.stream ++ [item]) =
      ingestion.retainedBytes + (85 + item.capacity) := by
    rw [counts.retained]
    simp
  simp only [ingest, counted, total]
  by_cases room : ingestion.stream.length + 1 ≤ maxStreamItems
  · rw [if_pos room, if_pos room]
    by_cases within : ingestion.retainedBytes + (85 + item.capacity) ≤ maxStreamBytes
    · have small : ingestion.retainedBytes + (85 + item.capacity) ≤ u64Max :=
        Nat.le_trans within (by decide)
      rw [checkedAdd_eq (by omega)]
      simp only [checkedAdd_eq small, if_pos within]
    · rw [if_neg within]
      split
      · rfl
      · rename_i envSize sized
        obtain rfl := checkedAdd_eq_some sized
        split
        · rfl
        · rename_i newRetained added
          obtain rfl := checkedAdd_eq_some added
          rw [if_neg within]
  · rw [if_neg room, if_neg room]

/-- An ingestion takes over all items, or refuses over exactly one of the limits. -/
theorem ingest_cases (counts : ingestion.Counts) (items : List StreamEnvelope) :
    (WithinLimits (ingestion.stream ++ items) ∧ (ingestion.ingest items).Counts ∧
      (ingestion.ingest items).stream = ingestion.stream ++ items) ∨
    (¬WithinLimits (ingestion.stream ++ items) ∧
      (ingestion.ingest items).capacityRefused =
        !(ingestion.ingest items).byteCapacityRefused) := by
  induction items generalizing ingestion with
  | nil =>
      rw [List.append_nil]
      exact .inl ⟨counts.within, counts, rfl⟩
  | cons item items ih =>
      rw [ingest_cons counts]
      split_ifs with room within
      · have further : Counts { ingestion with
            stream := ingestion.stream ++ [item]
            retainedBytes := queuedBytes (ingestion.stream ++ [item])
            count := ingestion.stream.length + 1 } :=
          ⟨by simp, rfl, ⟨by simpa using room, within⟩, counts.capacityRefused,
            counts.byteCapacityRefused⟩
        rw [List.append_cons]
        exact ih further
      · refine .inr ⟨?_, by rw [counts.capacityRefused]; rfl⟩
        intro limits
        have bytes := limits.bytes
        simp only [queuedBytes_append, queuedBytes_cons, queuedBytes_nil] at bytes within
        omega
      · refine .inr ⟨?_, by rw [counts.byteCapacityRefused]; rfl⟩
        intro limits
        have items := limits.items
        simp only [List.length_append, List.length_cons] at items
        omega

end Ingestion

/-- What a session tracks of a fiber whose last observed event this is. -/
def FiberTracking.behind [Digests] (envelope : EventEnvelope) : FiberTracking :=
  ⟨envelope.header.eventId, envelope.commitment⟩

namespace ReaderState

/-- A session that has ended has nothing left to hand out and retains nothing. -/
structure Ended (state : ReaderState) : Prop where
  failed : state.terminallyFailed = true
  stream : state.stream = []
  retained : state.retainedBytes = 0
  capacityRefused : state.capacityRefused = false
  byteCapacityRefused : state.byteCapacityRefused = false

/-- A session over a stream beyond the limits, before it has said so. -/
structure Refused (state : ReaderState) : Prop where
  failed : state.terminallyFailed = true
  stream : state.stream = []
  retained : state.retainedBytes = 0
  once : state.capacityRefused = !state.byteCapacityRefused

variable [Digests]

/-- A session that has observed some events and has others queued. -/
structure Behind (state : ReaderState) (observed : List EventEnvelope)
    (queue : List StreamEnvelope) : Prop where
  position : state.observedPosition = observed.length
  fibers : ∀ fiberId, state.fibers.lookup fiberId =
    (ofFiber observed fiberId).getLast?.map FiberTracking.behind
  events : ∀ eventId, state.observedEvents.lookup eventId =
    (observed.find? fun envelope => envelope.header.eventId = eventId).map fun envelope =>
      envelope.header.fiberId
  distinct : (eventIds observed).Nodup
  stream : state.stream = queue
  retained : state.retainedBytes = queuedBytes queue
  bounded : queuedBytes queue ≤ maxStreamBytes
  room : observed.length + queue.length ≤ maxStreamItems
  failed : state.terminallyFailed = false
  capacityRefused : state.capacityRefused = false
  byteCapacityRefused : state.byteCapacityRefused = false

variable {state : ReaderState} {observed : List EventEnvelope} {queue : List StreamEnvelope}
  {envelope : EventEnvelope}

namespace Behind

/-- The tracked fibers are the fibers of the observed events. -/
theorem keys (behind : state.Behind observed queue) : state.fibers.keys = fiberIds observed := by
  ext fiberId
  rw [Finmap.mem_keys, mem_fiberIds_iff, ← Finmap.lookup_isSome, behind.fibers, Option.isSome_map,
    Option.isSome_iff_ne_none, ne_eq, List.getLast?_eq_none_iff]

/-- A reader tracks the fibers it has observed. -/
theorem mem_fibers_iff (behind : state.Behind observed queue) {fiberId : Id} :
    fiberId ∈ state.fibers ↔ ofFiber observed fiberId ≠ [] := by
  rw [← Finmap.mem_keys, behind.keys, mem_fiberIds_iff]

/-- It remembers the events it has observed. -/
theorem mem_observedEvents_iff (behind : state.Behind observed queue) {eventId : Id} :
    eventId ∈ state.observedEvents ↔ eventId ∈ eventIds observed := by
  rw [← Finmap.lookup_isSome, behind.events, Option.isSome_map, List.find?_isSome]
  simp [eventIds]

/-- There is always room for another fiber. -/
theorem capacity (behind : state.Behind observed queue) :
    ¬state.fibers.keys.card ≥ maxReaderFibers := by
  have fibers : (fiberIds observed).card ≤ observed.length := by
    unfold fiberIds
    exact Nat.le_trans (List.toFinset_card_le _) (by rw [List.length_map])
  have room := behind.room
  rw [behind.keys]
  unfold maxStreamItems at room
  unfold maxReaderFibers
  omega

/-- The position never overflows. -/
theorem next_position (behind : state.Behind observed queue) :
    checkedAdd state.observedPosition 1 = some (observed.length + 1) := by
  have room := behind.room
  rw [behind.position]
  refine checkedAdd_eq ?_
  unfold maxStreamItems at room
  unfold u64Max
  omega

/-- The fiber of an observed event is found under its identifier. -/
theorem events_of_mem (behind : state.Behind observed queue) (member : envelope ∈ observed) :
    state.observedEvents.lookup envelope.header.eventId = some envelope.header.fiberId := by
  rw [behind.events]
  cases found : observed.find? fun other => other.header.eventId = envelope.header.eventId with
  | none =>
      have none := List.find?_eq_none.mp found envelope member
      simp at none
  | some other =>
      have same : other.header.eventId = envelope.header.eventId := by
        simpa using List.find?_some found
      obtain rfl := List.inj_on_of_nodup_map behind.distinct (List.mem_of_find?_eq_some found)
        member same
      rfl

/-- Taking an item off the queue releases what it was charged. -/
theorem pop {item : StreamEnvelope} (behind : state.Behind observed (item :: queue)) :
    Behind { state with
      stream := queue
      retainedBytes := state.retainedBytes - saturatingAdd 85 item.capacity } observed queue := by
  have bounded := behind.bounded
  have room := behind.room
  rw [queuedBytes_cons] at bounded
  rw [List.length_cons] at room
  refine ⟨behind.position, behind.fibers, behind.events, behind.distinct, rfl, ?_, by omega,
    by omega, behind.failed, behind.capacityRefused, behind.byteCapacityRefused⟩
  have charged : saturatingAdd 85 item.capacity = 85 + item.capacity := by
    refine Nat.min_eq_left ?_
    unfold maxStreamBytes at bounded
    unfold u64Max
    omega
  dsimp only
  rw [behind.retained, charged, queuedBytes_cons]
  omega

/-- Recording a new event moves the session behind it. -/
theorem record (behind : state.Behind observed queue)
    (room : observed.length + queue.length < maxStreamItems)
    (fresh : envelope.header.eventId ∉ eventIds observed) :
    Behind { state with
      observedPosition := observed.length + 1
      fibers := state.fibers.insert envelope.header.fiberId
        ⟨envelope.header.eventId, envelope.commitment⟩
      observedEvents :=
        state.observedEvents.insert envelope.header.eventId envelope.header.fiberId }
      (observed ++ [envelope]) queue where
  position := by simp
  fibers := by
    intro fiberId
    by_cases same : fiberId = envelope.header.fiberId
    · rw [same, Finmap.lookup_insert, ofFiber_append_self, List.getLast?_concat]
      rfl
    · rw [Finmap.lookup_insert_of_ne _ same, ofFiber_append_of_ne same]
      exact behind.fibers fiberId
  events := by
    intro eventId
    rw [List.find?_append]
    by_cases same : eventId = envelope.header.eventId
    · have unseen : (observed.find? fun other => other.header.eventId = envelope.header.eventId) =
          none := by
        rw [List.find?_eq_none]
        intro other member equal
        exact fresh (List.mem_map.mpr ⟨other, member, by simpa using equal⟩)
      rw [same, Finmap.lookup_insert, unseen]
      simp
    · rw [Finmap.lookup_insert_of_ne _ same, behind.events]
      have other : ¬envelope.header.eventId = eventId := fun equal => same equal.symm
      simp [other]
  distinct := by
    unfold eventIds
    rw [List.map_append, List.map_singleton, ← List.concat_eq_append, List.nodup_concat]
    exact ⟨fresh, behind.distinct⟩
  stream := behind.stream
  retained := behind.retained
  bounded := behind.bounded
  room := by
    rw [List.length_append, List.length_singleton]
    omega
  failed := behind.failed
  capacityRefused := behind.capacityRefused
  byteCapacityRefused := behind.byteCapacityRefused

/-- A refusal ends the session. -/
theorem ended (behind : state.Behind observed queue) : state.markTerminallyFailed.Ended :=
  ⟨rfl, rfl, rfl, behind.capacityRefused, behind.byteCapacityRefused⟩

end Behind

end ReaderState

/-- What a session observes behind the events so far: a new event that opens a fiber of
its own, or continues the fiber it names. -/
structure Observable [Digests] (observed : List EventEnvelope) (envelope : EventEnvelope) :
    Prop where
  fresh : envelope.header.eventId ∉ eventIds observed
  linked : if envelope.header.precursor = zeroId then
      envelope.header.precursorHash = zeroHash ∧ ofFiber observed envelope.header.fiberId = []
    else ∃ last ∈ (ofFiber observed envelope.header.fiberId).getLast?,
      last.header.eventId = envelope.header.precursor ∧
        last.commitment = envelope.header.precursorHash

namespace ArtefactReader

variable [Digests] {Locator : Type} {locator : Locator} {stream : List StreamEnvelope}

variable (locator) in
/-- A session over a stream within the limits begins with all of it queued. -/
theorem withStream_within (limits : WithinLimits stream) :
    ∃ state, withStream locator stream = ⟨locator, state⟩ ∧ state.Behind [] stream := by
  obtain ⟨-, counts, queued⟩ | ⟨beyond, -⟩ := Ingestion.ingest_cases .start stream
  · have queued : (Ingestion.start.ingest stream).stream = stream := queued
    refine ⟨_, rfl, ?_⟩
    have quiet : ((Ingestion.start.ingest stream).capacityRefused ||
        (Ingestion.start.ingest stream).byteCapacityRefused) = false := by
      rw [counts.capacityRefused, counts.byteCapacityRefused]
      rfl
    simp only [quiet, Bool.false_eq_true, if_false]
    have retained := counts.retained
    rw [queued] at retained
    exact ⟨rfl, fun _ => rfl, fun _ => rfl, List.nodup_nil, queued, retained, limits.bytes,
      by simpa using limits.items, rfl, counts.capacityRefused, counts.byteCapacityRefused⟩
  · exact (beyond limits).elim

variable (locator) in
omit [Digests] in
/-- A session over a stream beyond them begins refused. -/
theorem withStream_beyond (beyond : ¬WithinLimits stream) :
    ∃ state, withStream locator stream = ⟨locator, state⟩ ∧ state.Refused := by
  obtain ⟨limits, -⟩ | ⟨-, once⟩ := Ingestion.ingest_cases .start stream
  · exact (beyond limits).elim
  · refine ⟨_, rfl, ?_⟩
    have refused : ((Ingestion.start.ingest stream).capacityRefused ||
        (Ingestion.start.ingest stream).byteCapacityRefused) = true := by
      rw [once]
      simp
    simp only [refused, if_true]
    exact ⟨rfl, rfl, rfl, once⟩

/-- The refusal that only an overflow of the position is given. -/
def overflowDetail : String := "observed position counter overflow"

section Reading

variable {reader : ArtefactReader Locator} {observed : List EventEnvelope}
  {queue : List StreamEnvelope} {envelope : EventEnvelope}

/-- The observation of an event behind those observed before it. -/
def observation (locator : Locator) (observed : List EventEnvelope) (envelope : EventEnvelope) :
    ReaderObservation Locator :=
  ⟨observed.length, envelope.header.eventId, envelope.header.fiberId, locator,
    envelope.header.precursor = zeroId⟩

/-- A read that observes an event moves the session behind it; a read that refuses one
says nothing of the position and ends the session. -/
def Answers (locator : Locator) (observed : List EventEnvelope) (queue : List StreamEnvelope)
    (envelope : EventEnvelope) (answer : Reading Locator × ArtefactReader Locator) : Prop :=
  (Observable observed envelope ∧ ∃ next : ReaderState,
    answer = (some (.ok (observation locator observed envelope)), ⟨locator, next⟩) ∧
      next.Behind (observed ++ [envelope]) queue) ∨
  (¬Observable observed envelope ∧ ∃ failure, ∃ next : ReaderState,
    answer = (some (.error failure), ⟨locator, next⟩) ∧
      failure.diagnosticDetail ≠ overflowDetail ∧ next.Ended)

/-- A refusal is one answer. -/
theorem Answers.fail {state : ReaderState} (behind : state.Behind observed queue)
    {failure : OperationFailure} (other : failure.diagnosticDetail ≠ overflowDetail)
    (refused : ¬Observable observed envelope) :
    Answers locator observed queue envelope (ArtefactReader.fail ⟨locator, state⟩ failure) :=
  .inr ⟨refused, failure, _, rfl, other, behind.ended⟩

/-- A first envelope of a fiber is answered as the observed ones demand. -/
theorem readGenesis_answers (behind : reader.state.Behind observed queue)
    (room : observed.length + queue.length < maxStreamItems)
    (fresh : envelope.header.eventId ∉ eventIds observed)
    (genesis : envelope.header.precursor = zeroId) :
    Answers reader.locator observed queue envelope (reader.readGenesis envelope) := by
  have unseen := mt behind.mem_observedEvents_iff.mp fresh
  unfold readGenesis
  by_cases hash : envelope.header.precursorHash = zeroHash
  · rw [if_neg (not_not.mpr hash), if_neg behind.capacity]
    by_cases tracked : envelope.header.fiberId ∈ reader.state.fibers
    · rw [if_pos tracked]
      refine Answers.fail behind (by decide) ?_
      rintro ⟨-, linked⟩
      rw [if_pos genesis] at linked
      exact behind.mem_fibers_iff.mp tracked linked.2
    · rw [if_neg tracked]
      refine .inl ⟨⟨fresh, ?_⟩, _, ?_, behind.record room fresh⟩
      · rw [if_pos genesis]
        exact ⟨hash, not_not.mp (mt behind.mem_fibers_iff.mpr tracked)⟩
      · unfold observeGenesis observation
        rw [if_neg (by simp [genesis, hash]), if_neg unseen, if_neg behind.capacity,
          if_neg tracked, behind.next_position, behind.position]
        simp [conclude, genesis]
  · rw [if_pos hash]
    refine Answers.fail behind (by decide) ?_
    rintro ⟨-, linked⟩
    rw [if_pos genesis] at linked
    exact hash linked.1

/-- A chained envelope is answered as the observed ones demand. -/
theorem readChained_answers (behind : reader.state.Behind observed queue)
    (room : observed.length + queue.length < maxStreamItems)
    (fresh : envelope.header.eventId ∉ eventIds observed)
    (chained : envelope.header.precursor ≠ zeroId) :
    Answers reader.locator observed queue envelope (reader.readChained envelope) := by
  have unseen := mt behind.mem_observedEvents_iff.mp fresh
  -- what an observable envelope continues is tracked and resident
  have tracked : Observable observed envelope →
      reader.state.fibers.lookup envelope.header.fiberId =
        some ⟨envelope.header.precursor, envelope.header.precursorHash⟩ ∧
      reader.state.observedEvents.lookup envelope.header.precursor =
        some envelope.header.fiberId := by
    rintro ⟨-, linked⟩
    rw [if_neg chained] at linked
    obtain ⟨last, isLast, precursor, hash⟩ := linked
    have member := List.mem_of_getLast? isLast
    have own := own_of_mem_ofFiber last member
    constructor
    · rw [behind.fibers, isLast, ← precursor, ← hash]
      rfl
    · rw [← precursor, behind.events_of_mem (mem_of_mem_ofFiber member), own]
  unfold readChained
  split
  · rename_i absent
    refine Answers.fail behind (by decide) ?_
    intro observable
    rw [(tracked observable).2] at absent
    cases absent
  rename_i prevFiber resident
  split_ifs with otherFiber
  · refine Answers.fail behind (by decide) ?_
    intro observable
    rw [(tracked observable).2] at resident
    cases resident
    exact otherFiber rfl
  split
  · rename_i absent
    refine Answers.fail behind (by decide) ?_
    intro observable
    rw [(tracked observable).1] at absent
    cases absent
  rename_i fiber slot
  split_ifs with stale mismatch
  · refine Answers.fail behind (by decide) ?_
    intro observable
    rw [(tracked observable).1] at slot
    cases slot
    exact stale rfl
  · refine Answers.fail behind (by decide) ?_
    intro observable
    rw [(tracked observable).1] at slot
    cases slot
    exact mismatch rfl
  · push Not at stale mismatch
    refine .inl ⟨⟨fresh, ?_⟩, _, ?_, behind.record room fresh⟩
    · have last := slot
      rw [behind.fibers, Option.map_eq_some_iff] at last
      obtain ⟨last, isLast, rfl⟩ := last
      rw [if_neg chained]
      exact ⟨last, isLast, stale, mismatch⟩
    · unfold observeEvent observation
      rw [if_neg chained, if_neg unseen]
      simp only [slot]
      rw [if_neg (not_not.mpr stale), if_neg (not_not.mpr mismatch), behind.next_position,
        behind.position]
      simp [conclude, chained]

/-- One read of a session that has something queued. -/
theorem readEvent_answers {item : StreamEnvelope}
    (behind : reader.state.Behind observed (item :: queue)) :
    Answers reader.locator observed queue item.envelope reader.readEvent := by
  have popped := behind.pop
  have room : observed.length + queue.length < maxStreamItems := by
    have room := behind.room
    rw [List.length_cons] at room
    omega
  unfold readEvent
  rw [if_neg (by simp [behind.capacityRefused]), if_neg (by simp [behind.byteCapacityRefused]),
    if_neg (by simp [behind.failed])]
  simp only [behind.stream]
  split_ifs with seen genesis
  · refine Answers.fail popped (by decide) ?_
    rintro ⟨fresh, -⟩
    exact fresh (behind.mem_observedEvents_iff.mp seen)
  · exact readGenesis_answers popped room (mt behind.mem_observedEvents_iff.mpr seen) genesis
  · exact readChained_answers popped room (mt behind.mem_observedEvents_iff.mpr seen) genesis

/-- A session that has read everything answers nothing more. -/
theorem readEvent_exhausted (behind : reader.state.Behind observed []) :
    reader.readEvent = (none, reader) := by
  unfold readEvent
  rw [if_neg (by simp [behind.capacityRefused]), if_neg (by simp [behind.byteCapacityRefused]),
    if_neg (by simp [behind.failed])]
  simp only [behind.stream]

/-- So does a session that has ended. -/
theorem readEvent_ended (ended : reader.state.Ended) : reader.readEvent = (none, reader) := by
  unfold readEvent
  rw [if_neg (by simp [ended.capacityRefused]), if_neg (by simp [ended.byteCapacityRefused]),
    if_pos ended.failed]

/-- A session over a stream beyond the limits says so once. -/
theorem readEvent_refused (refused : reader.state.Refused) :
    ∃ failure, ∃ next : ReaderState,
      reader.readEvent = (some (.error failure), ⟨reader.locator, next⟩) ∧
        failure.diagnosticDetail ≠ overflowDetail ∧ next.Ended := by
  have once := refused.once
  unfold readEvent
  by_cases items : reader.state.capacityRefused = true
  · have bytes : reader.state.byteCapacityRefused = false := by
      rw [items] at once
      simpa using once.symm
    refine ⟨limitExceeded "stream item limit exceeded", _, if_pos items, by decide, ?_⟩
    exact ⟨rfl, rfl, rfl, rfl, bytes⟩
  · have none : reader.state.capacityRefused = false := by simpa using items
    have bytes : reader.state.byteCapacityRefused = true := by
      rw [none] at once
      simpa using once.symm
    refine ⟨limitExceeded "stream byte limit exceeded", _, (if_neg items).trans (if_pos bytes),
      by decide, ?_⟩
    exact ⟨rfl, rfl, rfl, none, rfl⟩

end Reading

/-- What calls on a session answer that has observed some events and has others queued,
and the state they leave. -/
inductive Readings (locator : Locator) : List EventEnvelope → List StreamEnvelope →
    List (Reading Locator) → ReaderState → Prop where
  | done {observed : List EventEnvelope} {queue : List StreamEnvelope} {final : ReaderState}
      (behind : final.Behind observed queue) : Readings locator observed queue [] final
  | exhausted {observed : List EventEnvelope} {final : ReaderState}
      (behind : final.Behind observed []) (count : Nat) :
      Readings locator observed [] (List.replicate count none) final
  | observed {observed : List EventEnvelope} {item : StreamEnvelope}
      {queue : List StreamEnvelope} {readings : List (Reading Locator)} {final : ReaderState}
      (observable : Observable observed item.envelope)
      (rest : Readings locator (observed ++ [item.envelope]) queue readings final) :
      Readings locator observed (item :: queue)
        (some (.ok (observation locator observed item.envelope)) :: readings) final
  | refused {observed : List EventEnvelope} {item : StreamEnvelope}
      {queue : List StreamEnvelope} {failure : OperationFailure} {final : ReaderState}
      (unobservable : ¬Observable observed item.envelope)
      (other : failure.diagnosticDetail ≠ overflowDetail) (ended : final.Ended) (count : Nat) :
      Readings locator observed (item :: queue)
        (some (.error failure) :: List.replicate count none) final

/-- A session that answers nothing more stays as it is. -/
theorem reads_of_idle {reader : ArtefactReader Locator} (idle : reader.readEvent = (none, reader))
    (calls : Nat) : reader.reads calls = (List.replicate calls none, reader) := by
  induction calls with
  | zero => rfl
  | succ calls ih =>
      simp only [reads, idle, ih]
      rfl

/-- The calls of a session, one after the other. -/
theorem reads_readings {reader : ArtefactReader Locator} {observed : List EventEnvelope}
    {queue : List StreamEnvelope} (behind : reader.state.Behind observed queue) (calls : Nat) :
    Readings reader.locator observed queue (reader.reads calls).1 (reader.reads calls).2.state := by
  induction calls generalizing reader observed queue with
  | zero => exact .done behind
  | succ calls ih =>
      cases queue with
      | nil =>
          rw [reads_of_idle (readEvent_exhausted behind)]
          exact .exhausted behind _
      | cons item queue =>
          obtain ⟨observable, next, answered, further⟩ |
            ⟨unobservable, failure, next, answered, other, ended⟩ := readEvent_answers behind
          · simp only [reads, answered]
            exact .observed observable (@ih ⟨reader.locator, next⟩ _ _ further)
          · have idle : (⟨reader.locator, next⟩ : ArtefactReader Locator).readEvent =
                (none, ⟨reader.locator, next⟩) := readEvent_ended ended
            simp only [reads, answered, reads_of_idle idle]
            exact .refused unobservable other ended calls

/-- What the answers of a session's calls say, and what the session retains behind them. -/
structure Reports (offset : Nat) (stream : List StreamEnvelope) (readings : List (Reading Locator))
    (state : ReaderState) : Prop where
  /-- The observation of a call carries its position and the identifiers of the element
  that stands there. -/
  numbered : ∀ (call : Nat) observation, readings[call]? = some (some (Except.ok observation)) →
    observation.position = offset + call ∧ ∃ item, stream[call]? = some item ∧
      observation.eventId = item.envelope.header.eventId ∧
      observation.fiberId = item.envelope.header.fiberId
  /-- Behind a refusal is nothing. -/
  closed : ∀ (call : Nat) (failure : OperationFailure),
    readings[call]? = some (some (Except.error failure)) →
    ∀ (later : Nat) reading, call < later → readings[later]? = some reading → reading = none
  /-- Nothing is answered behind a refusal or the whole stream only. -/
  exhausted : ∀ call : Nat, readings[call]? = some none →
    stream.length ≤ call ∨ ∃ earlier < call, ∃ failure : OperationFailure,
      readings[earlier]? = some (some (Except.error failure))
  retained : state.retainedBytes = queuedBytes state.stream
  bounded : state.retainedBytes ≤ maxStreamBytes
  released : ∀ failure : OperationFailure, some (.error failure) ∈ readings →
    state.stream = [] ∧ state.retainedBytes = 0
  /-- No refusal is the one of an overflow of the position. -/
  position : ∀ failure : OperationFailure, some (.error failure) ∈ readings →
    failure.diagnosticDetail ≠ overflowDetail

namespace Reports

variable {offset : Nat} {readings : List (Reading Locator)} {state : ReaderState}

omit [Digests] in
/-- A session that has ended retains what is queued, within the limit. -/
theorem retained_of_ended (ended : state.Ended) :
    state.retainedBytes = queuedBytes state.stream ∧ state.retainedBytes ≤ maxStreamBytes := by
  rw [ended.retained, ended.stream]
  exact ⟨rfl, Nat.zero_le _⟩

omit [Digests] in
/-- Answers that are nothing but nothing, behind the whole stream. -/
theorem silent (nothing : stream = []) (count : Nat)
    (retained : state.retainedBytes = queuedBytes state.stream)
    (bounded : state.retainedBytes ≤ maxStreamBytes) :
    Reports offset stream (List.replicate count (none : Reading Locator)) state where
  numbered := by
    intro call observation answered
    have member := List.mem_of_getElem? answered
    cases (List.mem_replicate.mp member).2
  closed := by
    intro call failure answered
    have member := List.mem_of_getElem? answered
    cases (List.mem_replicate.mp member).2
  exhausted := by
    intro call _
    rw [nothing]
    exact .inl (Nat.zero_le _)
  retained := retained
  bounded := bounded
  released := by
    intro failure member
    cases (List.mem_replicate.mp member).2
  position := by
    intro failure member
    cases (List.mem_replicate.mp member).2

omit [Digests] in
/-- A refusal, and nothing behind it. -/
theorem refused {failure : OperationFailure} (other : failure.diagnosticDetail ≠ overflowDetail)
    (ended : state.Ended) (count : Nat) :
    Reports offset stream
      (some (.error failure) :: List.replicate count (none : Reading Locator)) state where
  numbered := by
    intro call observation answered
    rcases List.mem_cons.mp (List.mem_of_getElem? answered) with first | later
    · cases first
    · cases (List.mem_replicate.mp later).2
  closed := by
    intro call blamed _ later reading behind answered
    obtain ⟨before, rfl⟩ := Nat.exists_eq_add_of_lt behind
    rw [List.getElem?_cons_succ] at answered
    exact (List.mem_replicate.mp (List.mem_of_getElem? answered)).2
  exhausted := by
    intro call answered
    cases call with
    | zero => cases answered
    | succ call => exact .inr ⟨0, Nat.succ_pos _, failure, rfl⟩
  retained := (retained_of_ended ended).1
  bounded := (retained_of_ended ended).2
  released := fun _ _ => ⟨ended.stream, ended.retained⟩
  position := by
    intro blamed member
    rcases List.mem_cons.mp member with first | later
    · cases first
      exact other
    · cases (List.mem_replicate.mp later).2

omit [Digests] in
/-- One more observation in front. -/
theorem cons {item : StreamEnvelope} {seen : ReaderObservation Locator}
    (reports : Reports (offset + 1) stream readings state) (position : seen.position = offset)
    (eventId : seen.eventId = item.envelope.header.eventId)
    (fiberId : seen.fiberId = item.envelope.header.fiberId) :
    Reports offset (item :: stream) (some (.ok seen) :: readings) state where
  numbered := by
    intro call observation answered
    cases call with
    | zero =>
        cases answered
        exact ⟨position, item, rfl, eventId, fiberId⟩
    | succ call =>
        rw [List.getElem?_cons_succ] at answered ⊢
        obtain ⟨numbered, element⟩ := reports.numbered call observation answered
        exact ⟨by omega, element⟩
  closed := by
    intro call failure answered later reading behind
    cases call with
    | zero => cases answered
    | succ call =>
        cases later with
        | zero => omega
        | succ later =>
            rw [List.getElem?_cons_succ] at answered ⊢
            exact reports.closed call failure answered later reading (by omega)
  exhausted := by
    intro call answered
    cases call with
    | zero => cases answered
    | succ call =>
        rw [List.getElem?_cons_succ] at answered
        obtain whole | ⟨earlier, before, failure, refused⟩ := reports.exhausted call answered
        · exact .inl (by simpa using whole)
        · refine .inr ⟨earlier + 1, by omega, failure, ?_⟩
          rw [List.getElem?_cons_succ]
          exact refused
  retained := reports.retained
  bounded := reports.bounded
  released := by
    intro failure member
    rcases List.mem_cons.mp member with first | later
    · cases first
    · exact reports.released failure later
  position := by
    intro failure member
    rcases List.mem_cons.mp member with first | later
    · cases first
    · exact reports.position failure later

end Reports

/-- The answers of a session report its stream from where it stands. -/
theorem Readings.reports {observed : List EventEnvelope} {queue : List StreamEnvelope}
    {readings : List (Reading Locator)} {final : ReaderState}
    (answers : Readings locator observed queue readings final) :
    Reports observed.length queue readings final := by
  induction answers with
  | @done observed queue final behind =>
      have retained := behind.retained
      have bounded := behind.bounded
      rw [← behind.stream] at retained bounded
      rw [← retained] at bounded
      exact ⟨by simp, by simp, by simp, retained, bounded, by simp, by simp⟩
  | @exhausted observed final behind count =>
      have retained := behind.retained
      rw [← behind.stream] at retained
      refine Reports.silent rfl count retained ?_
      rw [behind.retained]
      exact Nat.zero_le _
  | @observed observed item queue readings final observable rest ih =>
      rw [List.length_append, List.length_singleton] at ih
      exact ih.cons rfl rfl rfl
  | refused unobservable other ended count => exact .refused other ended count

/-- A session over a stream beyond the limits is refused at once. -/
theorem reads_beyond (beyond : ¬WithinLimits stream) (calls : Nat) :
    Reports 0 stream ((withStream locator stream).reads calls).1
      ((withStream locator stream).reads calls).2.state := by
  obtain ⟨state, opened, refused⟩ := withStream_beyond locator beyond
  rw [opened]
  cases calls with
  | zero =>
      refine ⟨by simp [reads], by simp [reads], by simp [reads], ?_, ?_, by simp [reads],
        by simp [reads]⟩
      · exact refused.retained.trans (by rw [reads, refused.stream]; rfl)
      · exact refused.retained.trans_le (Nat.zero_le _)
  | succ calls =>
      obtain ⟨failure, next, answered, other, ended⟩ :=
        @readEvent_refused _ _ ⟨locator, state⟩ refused
      have idle : (⟨locator, next⟩ : ArtefactReader Locator).readEvent = (none, ⟨locator, next⟩) :=
        readEvent_ended ended
      simp only [reads, answered, reads_of_idle idle]
      exact .refused other ended calls

/-- What frames decode into is within the limits of a stream. -/
theorem decodeStream_within {frameCount totalBytes : Nat} {envelopes : List StreamEnvelope}
    {frames : List StreamFrame} (counted : frameCount = envelopes.length)
    (total : totalBytes = queuedBytes envelopes) (within : WithinLimits envelopes)
    (decoded : decodeStream frameCount totalBytes envelopes frames = .ok stream) :
    WithinLimits stream := by
  induction frames generalizing frameCount totalBytes envelopes with
  | nil =>
      cases decoded
      exact within
  | cons item frames ih =>
      obtain ⟨frame, spare⟩ := item
      unfold decodeStream at decoded
      split at decoded
      · cases decoded
      rename_i nextCount counts
      obtain rfl := checkedAdd_eq_some counts
      split_ifs at decoded with items
      split at decoded
      · cases decoded
      dsimp only at decoded
      split_ifs at decoded with checksum
      split at decoded
      · cases decoded
      rename_i envelope consumed _
      split_ifs at decoded with partly
      split at decoded
      · cases decoded
      rename_i envSize sized
      obtain rfl := checkedAdd_eq_some sized
      split at decoded
      · cases decoded
      rename_i nextTotal added
      obtain ⟨added, bytes⟩ := Option.filter_eq_some_iff.mp added
      obtain rfl := checkedAdd_eq_some added
      have bytes : totalBytes + (85 + (envelope.payload.length + spare)) ≤ maxStreamBytes := by
        simpa using bytes
      have charged : totalBytes + (85 + (envelope.payload.length + spare)) =
          queuedBytes (envelopes ++ [⟨envelope, envelope.payload.length + spare,
            Nat.le_add_right _ _⟩]) := by
        simp [total]
      refine ih ?_ charged ⟨?_, ?_⟩ decoded
      · simp [counted]
      · rw [List.length_append, List.length_singleton, ← counted]
        omega
      · rw [← charged]
        exact bytes

/-- Over every stream and any number of calls: observations carry the positions in order
and the identifiers of the elements there, a refusal is the last answer, the retained
bytes are those of what is queued, within the limit and released by a refusal, and no
refusal is of an overflow of the position. A session from frames is not refused. -/
theorem reports_in_order (locator : Locator) :
    (∀ stream calls, Reports 0 stream ((withStream locator stream).reads calls).1
      ((withStream locator stream).reads calls).2.state) ∧
    ∀ frames reader, withFrames locator frames = .ok reader →
      reader.state.capacityRefused = false ∧ reader.state.byteCapacityRefused = false ∧
        ∃ stream, reader = withStream locator stream := by
  constructor
  · intro stream calls
    by_cases limits : WithinLimits stream
    · obtain ⟨state, opened, behind⟩ := withStream_within locator limits
      rw [opened]
      exact (@reads_readings _ _ ⟨locator, state⟩ _ _ behind calls).reports
    · exact reads_beyond limits calls
  · intro frames reader opened
    obtain ⟨stream, decoded, built⟩ := bind_eq_ok.mp opened
    cases built
    have limits := decodeStream_within List.length_nil.symm queuedBytes_nil.symm .nil decoded
    obtain ⟨state, opened, behind⟩ := withStream_within locator limits
    refine ⟨?_, ?_, stream, rfl⟩
    · rw [opened]
      exact behind.capacityRefused
    · rw [opened]
      exact behind.byteCapacityRefused

end ArtefactReader

section Genesis

attribute [local instance] standardDigests

/-- The frame of the first event, its payload decoded into a buffer with three bytes to
spare. -/
def firstStreamFrame : StreamFrame := ⟨⟨firstFrame, crc32c firstFrame⟩, 3⟩

/-- What that frame decodes into. -/
def firstItem : StreamEnvelope := ⟨genesisEvent, 4, by decide⟩

/-- The frame of the event behind it, decoded without a byte to spare. -/
def chainedStreamFrame : StreamFrame := ⟨⟨chainedFrame, crc32c chainedFrame⟩, 0⟩

/-- What the second frame decodes into. -/
def chainedItem : StreamEnvelope := ⟨chainedEvent, 2, by decide⟩

/-- A session from those frames observes both events and then has nothing to read. -/
theorem ArtefactReader.reports_in_order_chained :
    ∃ reader : ArtefactReader String,
      withFrames "artefact" [firstStreamFrame, chainedStreamFrame] = .ok reader ∧
      reader.state.capacityRefused = false ∧ reader.state.byteCapacityRefused = false ∧
      ∃ first second, (reader.reads 3).1 = [some (.ok first), some (.ok second), none] ∧
        first.position = 0 ∧ first.eventId = repeatedId 1 ∧
        second.position = 1 ∧ second.eventId = repeatedId 5 := by
  obtain ⟨sessions, frames⟩ := reports_in_order "artefact"
  have decoded : decodeStream 0 0 [] [firstStreamFrame, chainedStreamFrame] =
      .ok [firstItem, chainedItem] := by
    have first : EventEnvelope.decode firstFrame = .ok (genesisEvent, 86) := by decide +kernel
    have second : EventEnvelope.decode chainedFrame = .ok (chainedEvent, 87) := by decide +kernel
    have firstWhole : firstFrame.length = 86 := by decide +kernel
    have secondWhole : chainedFrame.length = 87 := by decide +kernel
    simp only [decodeStream, firstStreamFrame, chainedStreamFrame, first, second, firstWhole,
      secondWhole, ne_eq, not_true_eq_false, if_false]
    rfl
  have opened : withFrames "artefact" [firstStreamFrame, chainedStreamFrame] =
      .ok (withStream "artefact" [firstItem, chainedItem]) := by
    rw [withFrames, decoded]
    rfl
  obtain ⟨items, bytes, -⟩ := frames _ _ opened
  have answers : ((withStream "artefact" [firstItem, chainedItem]).reads 3).1 =
      [some (.ok ⟨0, repeatedId 1, repeatedId 2, "artefact", true⟩),
        some (.ok ⟨1, repeatedId 5, repeatedId 2, "artefact", false⟩), none] := by
    decide +kernel
  have reported := sessions [firstItem, chainedItem] 3
  rw [answers] at reported
  obtain ⟨firstPosition, _, element, firstId, -⟩ := reported.numbered 0 _ rfl
  cases element
  obtain ⟨secondPosition, _, element, secondId, -⟩ := reported.numbered 1 _ rfl
  cases element
  exact ⟨_, opened, items, bytes, _, _, answers, firstPosition, firstId, secondPosition, secondId⟩

end Genesis

end Pardosa
