import Pardosa.File.CrashSafety
import Pardosa.File.Verdict
import Pardosa.Nats.Prompt

/-!
# Both adapters give the same verdicts

The JetStream adapter arrives at the verdicts that `File/Verdict.lean` states for
an artefact: without failures and contention, files and streams that hold the
same payloads are opened alike.
-/

namespace Pardosa

open Foundation

section Verdicts

variable [Digests]

namespace MetaRecords

omit [Digests] in
/-- Only the text of such a refusal differs from place to place. -/
theorem conditionOf_unreadable (detail other : String) :
    conditionOf (.error (unreadable detail) : Except OperationFailure MetaRecords) =
      conditionOf (.error (unreadable other)) := rfl

omit [Digests] in
/-- The place of a record only shows in the text of a refusal. -/
theorem conditionOf_absorbFrame (place other : RecordPlace) (records : MetaRecords)
    (frame : Bytes) :
    conditionOf (absorbFrame place records frame) =
      conditionOf (absorbFrame other records frame) := by
  unfold absorbFrame
  cases OwnershipRecord.decode frame with
  | error failure => exact conditionOf_unreadable _ _
  | ok decoded =>
      obtain ⟨record, consumed⟩ := decoded
      simp only [Except.mapError, ok_bind]
      split_ifs with trailing
      · exact conditionOf_unreadable _ _
      cases record with
      | schemaDescriptor schemaVersion descriptorBytes =>
          simp only [absorbRecord]
          cases DescriptorNode.decode descriptorBytes with
          | error failure => exact conditionOf_unreadable _ _
          | ok tree =>
              simp only [Except.mapError, ok_bind]
              split_ifs with left
              · exact conditionOf_unreadable _ _
              cases records.schemaDescriptor with
              | none => rfl
              | some existing =>
                  dsimp only
                  split_ifs with conflict
                  · exact conditionOf_unreadable _ _
                  · rfl
      | _ => rfl

omit [Digests] in
/-- The records of frames are refused, if at all, as unreadable. -/
theorem failsOnly_foldlM (records : MetaRecords) (frames : List Bytes) :
    FailsOnly (fun failure : OperationFailure => failure.condition = .ownershipRecordUnreadable)
      (frames.foldlM (absorbFrame inMetaFile) records) := by
  induction frames generalizing records with
  | nil => exact failsOnly_ok records
  | cons frame frames ih =>
      rw [List.foldlM_cons]
      exact failsOnly_bind (failsOnly_absorbFrame inMetaFile records frame) ih

/-- Folding framed messages from a later sequence on is folding their payloads. -/
theorem conditionOf_foldlM_messages {payloads : List Bytes}
    (fits : ∀ payload ∈ payloads, payload.length ≤ u32Max) {seq : Nat} (later : 1 < seq)
    (records : MetaRecords) :
    conditionOf (((payloads.map ContainerFrame.frameBytes).zipIdx seq).foldlM
        (fun records message => records.absorbMessage message.2 message.1) records) =
      conditionOf (payloads.foldlM (absorbFrame inMetaFile) records) := by
  induction payloads generalizing seq records with
  | nil => rfl
  | cons payload payloads ih =>
      obtain ⟨fitting, rest⟩ := List.forall_mem_cons.mp fits
      have message : records.absorbMessage seq (ContainerFrame.frameBytes payload) =
          absorbFrame (inMetaStream seq) records payload := by
        unfold absorbMessage
        rw [if_neg (by omega), unframe_frameBytes fitting]
        rfl
      have same := conditionOf_absorbFrame (inMetaStream seq) inMetaFile records payload
      rw [List.map_cons, List.zipIdx_cons, List.foldlM_cons, List.foldlM_cons, message]
      cases first : absorbFrame inMetaFile records payload with
      | error failure =>
          cases streamed : absorbFrame (inMetaStream seq) records payload with
          | error other =>
              rw [first, streamed] at same
              exact same
          | ok value =>
              rw [first, streamed] at same
              cases same
      | ok value =>
          cases streamed : absorbFrame (inMetaStream seq) records payload with
          | error other =>
              rw [first, streamed] at same
              cases same
          | ok other =>
              rw [first, streamed] at same
              cases same
              exact ih rest (by omega) value

omit [Digests] in
/-- The header of a new container passes its check. -/
theorem checkHeader_new : checkHeader ContainerHeader.new.toBytes = .ok () := by
  decide +kernel

/-- A stream of framed records is read as a file with the same frames. -/
theorem conditionOf_ofMessages {payloads : List Bytes}
    (fits : ∀ payload ∈ payloads, payload.length ≤ u32Max) :
    conditionOf (ofMessages (Broker.framedMessages payloads)) =
      conditionOf (ofFrames payloads) := by
  have header : absorbMessage empty 1 ContainerHeader.new.toBytes = .ok empty := by
    unfold absorbMessage
    rw [if_pos rfl, checkHeader_new]
    rfl
  unfold ofMessages ofFrames Broker.framedMessages
  rw [List.zipIdx_cons, List.foldlM_cons, header]
  exact conditionOf_foldlM_messages fits (by decide) empty

end MetaRecords

/-- The streams hold an artefact. -/
structure Broker.Holds (broker : Broker) (artefact : Artefact) : Prop where
  records : broker.streams .metaStream = artefact.records.map framedMessages
  events : broker.streams .dataStream = artefact.events.map framedMessages

namespace NatsStorageAdapter

variable (adapter : NatsStorageAdapter) {broker : Broker} {σ : Type}

/-- Without failures, reading a stream of framed records ends as reading its
frames does. -/
theorem evaluate_framedRecords (state : σ) {payloads : List Bytes}
    (fits : ∀ payload ∈ payloads, payload.length ≤ u32Max)
    (stands : broker.streams .metaStream = some (Broker.framedMessages payloads)) :
    ∃ outcome, (readMetaStream adapter.metaStreamName state).evaluate
      (promptBroker adapter) broker =
        ((outcome, state), broker) ∧
      conditionOf outcome = conditionOf (MetaRecords.ofFrames payloads) :=
  ⟨_, evaluate_readMetaStream adapter state adapter.metaStreamName stands,
    MetaRecords.conditionOf_ofMessages fits⟩

omit [Digests] in
/-- Whether a stream exists is answered as it stands. -/
theorem evaluate_streamExists (state : σ) (name : StreamName) (streamName : String) :
    (streamExists name streamName state).evaluate (promptBroker adapter) broker =
      ((.ok (broker.streams name).isSome, state), broker) := by
  unfold streamExists
  cases stands : broker.streams name with
  | none =>
      rw [Action.evaluate_bind
        (Action.evaluate_lift (evaluate_getStream_missing adapter stands) state)]
      rfl
  | some messages =>
      rw [Action.evaluate_bind (Action.evaluate_lift (evaluate_getStream adapter stands) state)]
      rfl

omit [Digests] in
/-- Without failures, looking for an artefact finds the streams that are there. -/
theorem evaluate_tryPresence (state : σ) :
    (adapter.tryPresence state).evaluate (promptBroker adapter) broker =
      ((.ok (match (broker.streams .metaStream).isSome, (broker.streams .dataStream).isSome with
        | false, false => .none
        | true, false => .ownershipRecordOnly
        | false, true => .eventDataOnly
        | true, true => .both), state), broker) := by
  unfold tryPresence
  rw [Action.evaluate_bind (evaluate_streamExists adapter state .metaStream _),
    Action.evaluate_bind (evaluate_streamExists adapter state .dataStream _)]
  rfl

/-- The presence of an artefact is that of its streams. -/
theorem evaluate_presence {artefact : Artefact} (holds : broker.Holds artefact) (state : σ) :
    (adapter.tryPresence state).evaluate (promptBroker adapter) broker =
      ((.ok artefact.presence, state), broker) := by
  obtain ⟨records, events⟩ := artefact
  rw [evaluate_tryPresence, holds.records, holds.events]
  cases records <;> cases events <;> rfl

omit [Digests] in
/-- A stream that binds the expected subject passes the inspection. -/
theorem evaluate_inspectStreamSubject (state : σ) {name : StreamName} {messages : List Bytes}
    (streamName legacy : String) (condition : FailureCondition)
    (stands : broker.streams name = some messages) :
    (inspectStreamSubject name streamName (adapter.subject name) legacy condition state).evaluate
      (promptBroker adapter) broker = ((.ok (adapter.subject name), state), broker) := by
  have subjects : (NatsOp.send (.streamSubjects name)).evaluate (promptBroker adapter) broker =
      (.ok [adapter.subject name], broker) := rfl
  unfold inspectStreamSubject
  rw [Action.evaluate_bind (evaluate_askOr _ state (evaluate_getStream adapter stands)),
    Action.evaluate_bind (evaluate_askOr _ state subjects), if_pos rfl]
  rfl

omit [Digests] in
/-- Streams that bind the expected subjects pass the inspection. -/
theorem evaluate_resolveOpenSubjects (state : σ) {presence : ArtefactPresence}
    (recorded : presence = .ownershipRecordOnly ∨ presence = .both →
      ∃ messages, broker.streams .metaStream = some messages)
    (stored : presence = .both ∨ presence = .eventDataOnly →
      ∃ messages, broker.streams .dataStream = some messages) :
    (adapter.resolveOpenSubjects presence state).evaluate (promptBroker adapter) broker =
      ((.ok (), state), broker) := by
  have inspectsMeta : (presence = .ownershipRecordOnly ∨ presence = .both) →
      ∀ condition, (inspectStreamSubject .metaStream adapter.metaStreamName adapter.metaSubject
        (adapter.stem ++ "_meta") condition state).evaluate (promptBroker adapter) broker =
          ((.ok adapter.metaSubject, state), broker) := by
    intro there condition
    obtain ⟨messages, stands⟩ := recorded there
    exact evaluate_inspectStreamSubject adapter state _ _ condition stands
  have inspectsData : (presence = .both ∨ presence = .eventDataOnly) →
      ∀ condition, (inspectStreamSubject .dataStream adapter.dataStreamName adapter.dataSubject
        (adapter.stem ++ "_data") condition state).evaluate (promptBroker adapter) broker =
          ((.ok adapter.dataSubject, state), broker) := by
    intro there condition
    obtain ⟨messages, stands⟩ := stored there
    exact evaluate_inspectStreamSubject adapter state _ _ condition stands
  unfold resolveOpenSubjects
  split_ifs with custom hasData hasRecord hasRecord
  · rfl
  · dsimp only
    rw [Action.evaluate_bind (inspectsMeta hasRecord _),
      Action.evaluate_bind (inspectsData hasData _)]
    rfl
  · dsimp only
    rw [Action.evaluate_bind (inspectsData hasData _)]
    rfl
  · dsimp only
    rw [Action.evaluate_bind (inspectsMeta hasRecord _)]
    rfl
  · rfl

omit [Digests] in
/-- A publish with the right expectation is acknowledged. -/
theorem evaluate_publishSeed (state : σ) (seed : SeedPublish) {messages : List Bytes}
    {expectedLast : Nat} (payload : Bytes) (stands : broker.streams seed.stream = some messages)
    (expected : messages.length = expectedLast) :
    (adapter.publishSeed seed expectedLast payload state).evaluate (promptBroker adapter) broker =
      ((.ok ⟨adapter.streamName seed.stream, expectedLast + 1⟩, state),
        broker.taken seed.stream (some expectedLast) payload) := by
  subst expected
  have publishes : (NatsOp.send (.publish seed.stream (some messages.length) payload)).evaluate
      (promptBroker adapter) broker =
        (.ok broker.publishes.length, broker.taken seed.stream
          (some messages.length) payload) := rfl
  have acknowledged : (NatsOp.send (.awaitAck broker.publishes.length)).evaluate
      (promptBroker adapter) (broker.taken seed.stream (some messages.length) payload) =
        (.ok ⟨adapter.streamName seed.stream, messages.length + 1⟩,
          broker.taken seed.stream (some messages.length) payload) :=
    congrArg (·, broker.taken seed.stream (some messages.length) payload)
      (Broker.acknowledges_taken stands payload adapter.streamName)
  unfold publishSeed
  rw [Action.evaluate_bind (evaluate_askOr _ state publishes),
    Action.evaluate_bind (evaluate_askOr _ state acknowledged),
    Action.evaluate_bind (Action.evaluate_refuseIf (by simp) _ _)]
  rfl

/-- Without failures, opening a writer over framed event data ends as building the
index from its frames does. -/
theorem writer_endsAs (engine : NatsEngine) {events : List Bytes}
    (fits : ∀ event ∈ events, event.length ≤ u32Max)
    (stands : broker.streams .dataStream = some (Broker.framedMessages events)) (state : σ) :
    EndsAs (promptBroker adapter) (Action.within engine Store.openWriter) state broker Store.derived
      (do
        let index ← conditionOf (SessionIndex.buildFromFrames events)
        return (index, RollingCommitment.new.absorb events)) := by
  obtain ⟨after, recovers⟩ :=
    NatsEngine.evaluate_recoverFrames adapter engine Store.recoverFrame (.new, .new) fits stands
  have opened : (Store.openWriter engine).evaluate (promptBroker adapter) broker = _ :=
    Store.evaluate_openWriter fits recovers
  unfold EndsAs
  rw [Action.evaluate_within opened state]
  cases SessionIndex.buildFromFrames events with
  | error failure => rfl
  | ok index => rfl

/-- The descriptor check decides without asking the broker. -/
theorem requireDescriptor_settles (records : MetaRecords) :
    Settles (requireDescriptor records : Action natsOperations OperationFailure σ Unit)
      records.describes :=
  settles_describes fun _ => rfl

/-- The checks of `openWrite` decide without asking the broker. -/
theorem admitRecords_settles (records : MetaRecords) (epoch : UInt64) :
    Settles (admitRecords records epoch : Action natsOperations OperationFailure σ Unit)
      (records.admitsWriter epoch) :=
  settles_admitsWriter (requireDescriptor_settles records)

/-- Opening with both streams there: the records are checked, and the rest is up
to the event data. -/
theorem openWrite_recorded {payloads messages : List Bytes}
    (recordsFit : ∀ payload ∈ payloads, payload.length ≤ u32Max)
    (recorded : broker.streams .metaStream = some (Broker.framedMessages payloads))
    (stored : broker.streams .dataStream = some messages) (epoch : UInt64) (state : σ)
    {verdict : Except FailureCondition (SessionIndex × RollingCommitment)}
    (decided : EndsAs (promptBroker adapter) (do
      let info ← dataExtent adapter.dataStreamName
      Action.within (adapter.engine epoch info.lastSequence (info.messages > 1)) Store.openWriter)
      state broker Store.derived verdict) :
    EndsAs (promptBroker adapter) (adapter.openWrite epoch) state broker Store.derived (do
      let records ← conditionOf (MetaRecords.ofFrames payloads)
      records.admitsWriter epoch
      verdict) := by
  have present : (adapter.tryPresence state).evaluate (promptBroker adapter) broker =
      ((.ok .both, state), broker) := by
    rw [evaluate_tryPresence, recorded, stored]
    rfl
  obtain ⟨outcome, read, found⟩ := evaluate_framedRecords adapter state recordsFit recorded
  unfold openWrite
  refine endsAs_bind_ok present ?_
  refine endsAs_bind_ok (evaluate_resolveOpenSubjects adapter state (fun _ => ⟨_, recorded⟩)
    (fun _ => ⟨_, stored⟩)) ?_
  refine endsAs_bind read found fun records _ => ?_
  exact endsAs_bind_settles (admitRecords_settles records epoch) fun _ _ => decided

/-- Opening complete streams: the records are checked, then the events are
recovered. -/
theorem openWrite_both {payloads events : List Bytes}
    (recordsFit : ∀ payload ∈ payloads, payload.length ≤ u32Max)
    (eventsFit : ∀ event ∈ events, event.length ≤ u32Max)
    (holds : broker.Holds ⟨some payloads, some events⟩) (epoch : UInt64) (state : σ) :
    EndsAs (promptBroker adapter) (adapter.openWrite epoch) state broker Store.derived
      (Artefact.writeVerdict ⟨some payloads, some events⟩ epoch) := by
  refine openWrite_recorded adapter recordsFit holds.records holds.events epoch state ?_
  refine endsAs_bind_ok (evaluate_dataExtent adapter state _ holds.events) ?_
  exact writer_endsAs adapter _ eventsFit holds.events state

/-- Event data without its header is not opened. -/
theorem openWrite_headless {payloads : List Bytes}
    (recordsFit : ∀ payload ∈ payloads, payload.length ≤ u32Max)
    (recorded : broker.streams .metaStream = some (Broker.framedMessages payloads))
    (stored : broker.streams .dataStream = some []) (epoch : UInt64) (state : σ) :
    EndsAs (promptBroker adapter) (adapter.openWrite epoch) state broker Store.derived (do
      let records ← conditionOf (MetaRecords.ofFrames payloads)
      records.admitsWriter epoch
      .error (.precursorChainBroken none)) := by
  refine openWrite_recorded adapter recordsFit recorded stored epoch state ?_
  unfold EndsAs
  rw [Action.evaluate_bind_error (evaluate_dataExtent_empty adapter state _ stored)]
  rfl

/-- The completion of a creation, as far as its records decide. -/
theorem completeCreation_endsAs {payloads : List Bytes} {records : MetaRecords}
    {claim : OwnershipClaimRecord}
    (recordsFit : ∀ payload ∈ payloads, payload.length ≤ u32Max)
    (holds : broker.Holds ⟨some payloads, none⟩)
    (decoded : conditionOf (MetaRecords.ofFrames payloads) = .ok records)
    (claimed : records.latestClaim = some claim) (state : σ) :
    EndsAs (promptBroker adapter) (adapter.completeCreation claim) state broker Store.derived
      (do records.describes; return (.new, .new)) := by
  have present : (adapter.tryPresence state).evaluate (promptBroker adapter) broker =
      ((.ok .ownershipRecordOnly, state), broker) := evaluate_presence adapter holds state
  obtain ⟨outcome, read, decided⟩ := evaluate_framedRecords adapter state recordsFit holds.records
  rw [decoded] at decided
  cases outcome with
  | error failure => cases decided
  | ok found =>
      cases decided
      have creates : (NatsOp.send (.createStream .dataStream)).evaluate
        (promptBroker adapter) broker =
          (.ok (), broker.created .dataStream) := rfl
      have bare : (broker.created .dataStream).streams .dataStream = some [] := by
        have missing : broker.streams .dataStream = none := holds.events
        simp [Broker.created, Broker.messages, missing]
      have headed : ((broker.created .dataStream).taken .dataStream (some 0)
          ContainerHeader.new.toBytes).streams .dataStream = some (Broker.framedMessages []) := by
        have seeded := Broker.streams_taken bare ContainerHeader.new.toBytes
        rw [List.length_nil] at seeded
        rw [seeded, Function.update_self]
        rfl
      unfold completeCreation
      refine endsAs_bind_ok present ?_
      refine endsAs_bind_ok (evaluate_resolveOpenSubjects adapter state
        (fun _ => ⟨_, holds.records⟩) (fun there => by simp at there)) ?_
      refine endsAs_bind_ok read ?_
      refine endsAs_bind_settles (requireDescriptor_settles records) fun _ _ => ?_
      rw [claimed]
      refine endsAs_bind_ok rfl ?_
      refine endsAs_bind_ok (Action.evaluate_refuseIf (by simp) state broker) ?_
      refine endsAs_bind_ok (evaluate_askOr _ state creates) ?_
      refine endsAs_bind_ok (evaluate_publishSeed adapter state (dataSeed _) _ bare rfl) ?_
      exact writer_endsAs adapter _ (List.forall_mem_nil _) headed state

/-- Opening streams without events completes their creation. -/
theorem openWrite_recordOnly {payloads : List Bytes}
    (recordsFit : ∀ payload ∈ payloads, payload.length ≤ u32Max)
    (holds : broker.Holds ⟨some payloads, none⟩) (epoch : UInt64) (state : σ) :
    EndsAs (promptBroker adapter) (adapter.openWrite epoch) state broker Store.derived
      (Artefact.writeVerdict ⟨some payloads, none⟩ epoch) := by
  have present : (adapter.tryPresence state).evaluate (promptBroker adapter) broker =
      ((.ok .ownershipRecordOnly, state), broker) := evaluate_presence adapter holds state
  obtain ⟨outcome, read, decided⟩ := evaluate_framedRecords adapter state recordsFit holds.records
  unfold openWrite Artefact.writeVerdict
  refine endsAs_bind_ok present ?_
  refine endsAs_bind read decided fun records decoded => ?_
  have known : conditionOf (MetaRecords.ofFrames payloads) = .ok records := by
    rw [← decided, decoded]
    rfl
  unfold MetaRecords.admitsCompletion
  simp only [bind_assoc]
  refine endsAs_bind_settles settles_refuseIf fun _ _ => ?_
  refine endsAs_bind_settles settles_require fun claim claimed => ?_
  refine endsAs_bind_settles settles_refuseIf fun _ _ => ?_
  exact completeCreation_endsAs adapter recordsFit holds known (requiredOr_eq_ok.mp claimed) state

/-- Without failures and contention, opening streams for writing ends as what they
hold says. -/
theorem openWrite_verdict {artefact : Artefact} (fits : artefact.Fits)
    (holds : broker.Holds artefact) (epoch : UInt64) (state : σ) :
    EndsAs (promptBroker adapter) (adapter.openWrite epoch) state broker Store.derived
      (artefact.writeVerdict epoch) := by
  obtain ⟨records, events⟩ := artefact
  cases records with
  | some payloads =>
      have recordsFit := fits.records payloads rfl
      cases events with
      | some frames =>
          exact openWrite_both adapter recordsFit (fits.events frames rfl) holds epoch state
      | none => exact openWrite_recordOnly adapter recordsFit holds epoch state
  | none =>
      have present := evaluate_presence adapter holds state
      unfold openWrite
      cases events with
      | some frames => exact endsAs_bind_ok present rfl
      | none => exact endsAs_bind_ok present rfl

/-- Without failures, a reader of framed event data shows what its frames say. -/
theorem reader_endsAs (engine : NatsEngine) {events : List Bytes} (admission : OpenAdmission)
    (fits : ∀ event ∈ events, event.length ≤ u32Max)
    (stands : broker.streams .dataStream = some (Broker.framedMessages events)) (state : σ) :
    EndsAs (promptBroker adapter) (do
        let store ← Action.within engine Store.openReader
        return (admission, store)) state broker (fun opened => (opened.1, opened.2.shown))
      (.ok (admission, shownTo events)) := by
  obtain ⟨after, recovers⟩ := NatsEngine.evaluate_recoverFrames adapter engine
    Store.recoverReaderFrame ⟨.new, .new, none⟩ fits stands
  have reads : (Store.openReader engine).evaluate (promptBroker adapter) broker = _ :=
    Store.evaluate_openReader recovers
  refine endsAs_bind_ok (Action.evaluate_within reads state) ?_
  exact congrArg (fun shown => (Except.ok (admission, shown) : Except FailureCondition _))
    (Store.shown_concludeReader _ events)

/-- Without failures and contention, opening streams for reading ends as what they
hold says. -/
theorem openRead_verdict {records : Option (List Bytes)} {events : List Bytes}
    (fits : Artefact.Fits ⟨records, some events⟩) (holds : broker.Holds ⟨records, some events⟩)
    (state : σ) :
    EndsAs (promptBroker adapter) adapter.openRead state broker
      (fun opened => (opened.1, opened.2.shown)) (Artefact.readVerdict records events) := by
  have present := evaluate_presence adapter holds state
  have there : Artefact.presence ⟨records, some events⟩ ≠ .none := by
    cases records <;> simp [Artefact.presence]
  have read : ∃ outcome, (readMetaStream adapter.metaStreamName state).evaluate
      (promptBroker adapter) broker = ((outcome, state), broker) ∧
        conditionOf outcome = Artefact.foundRecords records := by
    cases records with
    | none => exact ⟨_, evaluate_readMetaStream_missing adapter state _ holds.records, rfl⟩
    | some payloads =>
        exact evaluate_framedRecords adapter state (fits.records payloads rfl) holds.records
  obtain ⟨outcome, evaluated, decided⟩ := read
  unfold openRead Artefact.readVerdict
  refine endsAs_bind_ok present ?_
  refine endsAs_bind_ok (Action.evaluate_refuseIf there state broker) ?_
  refine endsAs_bind evaluated decided fun found _ => ?_
  refine endsAs_bind_settles (settles_ofExcept _) fun admission _ => ?_
  refine endsAs_bind_ok (evaluate_resolveOpenSubjects adapter state ?_
    (fun _ => ⟨_, holds.events⟩)) ?_
  · intro hasRecord
    cases records with
    | none => simp [Artefact.presence] at hasRecord
    | some payloads => exact ⟨_, holds.records⟩
  · exact reader_endsAs adapter _ admission (fits.events events rfl) holds.events state

end NatsStorageAdapter

section Agreement

variable {files : FileStorageAdapter} {streams : NatsStorageAdapter} {world : FileWorld}
  {broker : Broker} {artefact : Artefact}

/-- A file and a stream with the same payloads hold the same records, or cannot be
read. -/
theorem readRecords_alike {payloads : List Bytes}
    (fits : ∀ payload ∈ payloads, payload.length ≤ u32Max)
    (recorded : (world .metaFile).content = some (containerBytes payloads))
    (streamed : broker.streams .metaStream = some (Broker.framedMessages payloads)) :
    (∃ records, ((readMetaRecords ()).evaluate fileHandler world).1.1 = .ok records ∧
      ((readMetaStream streams.metaStreamName ()).evaluate (promptBroker streams) broker).1.1 =
        .ok records) ∨
    ∃ failure other : OperationFailure,
      ((readMetaRecords ()).evaluate fileHandler world).1.1 = .error failure ∧
      ((readMetaStream streams.metaStreamName ()).evaluate (promptBroker streams) broker).1.1 =
        .error other ∧
      failure.condition = .ownershipRecordUnreadable ∧
      other.condition = .ownershipRecordUnreadable := by
  obtain ⟨later, read, -, -⟩ := evaluate_readMetaRecords () fits recorded
  obtain ⟨outcome, readStream, decided⟩ :=
    NatsStorageAdapter.evaluate_framedRecords streams () fits streamed
  rw [read, readStream]
  cases decoded : MetaRecords.ofFrames payloads with
  | error failure =>
      rw [decoded] at decided
      cases outcome with
      | ok records => cases decided
      | error other =>
          have unreadable : failure.condition = .ownershipRecordUnreadable :=
            MetaRecords.failsOnly_foldlM .empty payloads failure decoded
          have same : other.condition = failure.condition := Except.error.inj decided
          exact Or.inr ⟨failure, other, rfl, rfl, unreadable, same.trans unreadable⟩
  | ok records =>
      rw [decoded] at decided
      cases outcome with
      | error other => cases decided
      | ok found =>
          cases decided
          exact Or.inl ⟨records, rfl, rfl⟩

/-- Files and streams that hold the same payloads are read and opened alike,
whatever the payloads are and whichever parts of the artefact are there. -/
theorem adapters_give_same_verdicts (standard : files.exclusionPolicy = .standard)
    (fits : artefact.Fits) (inFiles : world.Holds artefact) (inStreams : broker.Holds artefact) :
    (∀ payloads, artefact.records = some payloads →
      (∃ records, ((readMetaRecords ()).evaluate fileHandler world).1.1 = .ok records ∧
        ((readMetaStream streams.metaStreamName ()).evaluate (promptBroker streams) broker).1.1 =
          .ok records) ∨
      ∃ failure other : OperationFailure,
        ((readMetaRecords ()).evaluate fileHandler world).1.1 = .error failure ∧
        ((readMetaStream streams.metaStreamName ()).evaluate (promptBroker streams) broker).1.1 =
          .error other ∧
        failure.condition = .ownershipRecordUnreadable ∧
        other.condition = .ownershipRecordUnreadable) ∧
    (∀ epoch, EndAlike Store.derived Store.derived
      ((files.openWrite epoch ()).evaluate fileHandler world).1.1
      ((streams.openWrite epoch ()).evaluate (promptBroker streams) broker).1.1) ∧
    (∀ events, artefact.events = some events →
      EndAlike (fun opened => (opened.1, opened.2.shown)) (fun opened => (opened.1, opened.2.shown))
        ((files.openRead ()).evaluate fileHandler world).1.1
        ((streams.openRead ()).evaluate (promptBroker streams) broker).1.1) := by
  refine ⟨?_, ?_, ?_⟩
  · intro payloads recorded
    have inFile : (world .metaFile).content = some (containerBytes payloads) := by
      rw [inFiles.records, recorded]
      rfl
    have inStream : broker.streams .metaStream = some (Broker.framedMessages payloads) := by
      rw [inStreams.records, recorded]
      rfl
    exact readRecords_alike (fits.records payloads recorded) inFile inStream
  · intro epoch
    exact endAlike_of_endsAs
      (FileStorageAdapter.openWrite_verdict standard fits inFiles epoch ())
      (NatsStorageAdapter.openWrite_verdict streams fits inStreams epoch ())
  · intro events stored
    obtain ⟨records, _⟩ := artefact
    cases stored
    exact endAlike_of_endsAs (FileStorageAdapter.openRead_verdict fits inFiles ())
      (NatsStorageAdapter.openRead_verdict streams fits inStreams ())

end Agreement

end Verdicts

section Example

attribute [local instance] standardDigests

/-- The streams of an artefact. -/
def seededStreams : NatsStorageAdapter :=
  ⟨"artefact", "artefact_meta", "artefact_data", "pardosa.artefact.meta", "pardosa.artefact.data",
    false⟩

/-- A claim, a record that is no record, and no events. -/
def strayArtefact : Artefact :=
  ⟨some [(OwnershipRecord.ownershipClaim (bareClaim 1)).encode, [255]], some []⟩

/-- The stray artefact fits its limits. -/
theorem strayArtefact_fits : strayArtefact.Fits where
  records := by
    rintro _ ⟨⟩ payload member
    simp only [List.mem_cons, List.not_mem_nil, or_false] at member
    rcases member with rfl | rfl
    · decide +kernel
    · decide +kernel
  events := by
    rintro _ ⟨⟩ payload member
    cases member

/-- The files of the artefact. -/
def strayFiles : FileWorld
  | .metaFile => ⟨strayArtefact.records.map containerBytes, 0⟩
  | .pgnoFile => ⟨strayArtefact.events.map containerBytes, 0⟩

/-- The streams of the artefact. -/
def strayMessages : StreamName → Option (List Bytes)
  | .metaStream => strayArtefact.records.map Broker.framedMessages
  | .dataStream => strayArtefact.events.map Broker.framedMessages

/-- A record that is no record is refused alike by both adapters. -/
theorem adapters_give_same_verdicts_stray : ∃ (world : FileWorld) (broker : Broker),
    world.Holds strayArtefact ∧ broker.Holds strayArtefact ∧
    EndAlike Store.derived Store.derived
      ((seededAdapter.openWrite 1 ()).evaluate fileHandler world).1.1
      ((seededStreams.openWrite 1 ()).evaluate (promptBroker seededStreams) broker).1.1 := by
  have inFiles : strayFiles.Holds strayArtefact := ⟨rfl, rfl⟩
  have inStreams : Broker.Holds ⟨strayMessages, []⟩ strayArtefact := ⟨rfl, rfl⟩
  exact ⟨_, _, inFiles, inStreams,
    (adapters_give_same_verdicts rfl strayArtefact_fits inFiles inStreams).2.1 1⟩

end Example

end Pardosa
