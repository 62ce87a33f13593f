import Pardosa.Nats.Adapter

/-!
# Questions and publishes

Most of what the code asks of the broker changes nothing there. What a method may
ask for is said once per method; what holds of every operation it may ask for
then holds of all of its runs.
-/

namespace Pardosa

open Foundation

/-- An operation that leaves the broker as it is. -/
def NatsOp.IsQuiet : NatsOp → Prop
  | .createStream _ | .publish .. => False
  | _ => True

/-- A question leaves the broker as it was. -/
theorem NatsOp.same_of_quiet {op : NatsOp} (quiet : op.IsQuiet) {before after : Broker}
    {answer : op.Res} (performed : op.Performs before answer after) : after = before := by
  cases op with
  | createStream name => cases quiet
  | publish name expectedLast payload => cases quiet
  | streamSubjects name => exact performed
  | flush => exact performed
  | getStream name => exact performed.1
  | info name => exact performed.1
  | getRawMessage name sequence => exact performed.1
  | awaitAck ticket => exact performed.1
  | awaitAckWithinTimeout ticket => exact performed.1

section Only

variable {allowed : natsOperations.Op → Prop} {σ : Type}

/-- An operation performs itself alone. -/
theorem NatsOp.only_send {op : NatsOp} (permitted : allowed op) : op.send.Only allowed :=
  ⟨permitted, fun _ => trivial⟩

/-- Refusals do not add operations. -/
theorem only_askOr {α : Type} {program : Program natsOperations (Except NatsError α)}
    {refusal : NatsError → OperationFailure} (only : program.Only allowed) :
    (askOr program refusal : Action natsOperations OperationFailure σ α).Only allowed :=
  Action.only_bind (Action.only_lift only) fun _ => Action.only_ofExcept _

variable (permits : ∀ op : NatsOp, op.IsQuiet → allowed op)

include permits

/-- Whether a stream exists is only asked. -/
theorem streamExists_only (name : StreamName) (streamName : String) :
    (streamExists name streamName : Action natsOperations OperationFailure σ _).Only allowed := by
  refine Action.only_bind (Action.only_lift (NatsOp.only_send (permits _ trivial))) ?_
  rintro (failure | _)
  · dsimp only
    split_ifs
    · exact Action.only_pure _
    · exact fun _ => trivial
  · exact Action.only_pure _

/-- Which streams are present is only asked. -/
theorem NatsStorageAdapter.tryPresence_only (adapter : NatsStorageAdapter) :
    (adapter.tryPresence : Action natsOperations OperationFailure σ _).Only allowed := by
  refine Action.only_bind (streamExists_only permits _ _) fun _ => ?_
  exact Action.only_bind (streamExists_only permits _ _) fun _ => Action.only_pure _

/-- The subject of a stream is only asked for. -/
theorem inspectStreamSubject_only (name : StreamName) (streamName canonical legacy : String)
    (condition : FailureCondition) :
    (inspectStreamSubject name streamName canonical legacy condition :
      Action natsOperations OperationFailure σ _).Only allowed := by
  refine Action.only_bind (only_askOr (NatsOp.only_send (permits _ trivial))) fun _ => ?_
  refine Action.only_bind (only_askOr (NatsOp.only_send (permits _ trivial))) fun subjects => ?_
  split_ifs
  · exact Action.only_pure _
  · exact Action.only_pure _
  · exact fun _ => trivial

/-- The subjects to open under are only asked for. -/
theorem NatsStorageAdapter.resolveOpenSubjects_only (adapter : NatsStorageAdapter)
    (presence : ArtefactPresence) :
    (adapter.resolveOpenSubjects presence : Action natsOperations OperationFailure σ _).Only
      allowed := by
  have inspects : ∀ name streamName canonical legacy condition,
      (inspectStreamSubject name streamName canonical legacy condition :
        Action natsOperations OperationFailure σ _).Only allowed :=
    inspectStreamSubject_only permits
  unfold resolveOpenSubjects
  split_ifs
  · exact Action.only_pure _
  · refine Action.only_bind (inspects _ _ _ _ _) fun _ => ?_
    exact Action.only_bind (inspects _ _ _ _ _) fun _ => Action.only_pure _
  · exact Action.only_bind (inspects _ _ _ _ _) fun _ => Action.only_pure _
  · exact Action.only_bind (inspects _ _ _ _ _) fun _ => Action.only_pure _
  · exact Action.only_pure _

/-- A seeding publish publishes one message and waits for it. -/
theorem NatsStorageAdapter.publishSeed_only (adapter : NatsStorageAdapter) (seed : SeedPublish)
    {expectedLast : Nat} {payload : Bytes}
    (publishes : allowed (NatsOp.publish seed.stream (some expectedLast) payload)) :
    (adapter.publishSeed seed expectedLast payload :
      Action natsOperations OperationFailure σ _).Only allowed := by
  refine Action.only_bind (only_askOr (NatsOp.only_send publishes)) fun ticket => ?_
  refine Action.only_bind (only_askOr (NatsOp.only_send (permits _ trivial))) fun ack => ?_
  exact Action.only_bind (Action.only_refuseIf _ _) fun _ => Action.only_pure _

variable [Digests]

/-- The ownership records are only fetched. -/
theorem absorbMessages_only (count seq : Nat) (records : MetaRecords) :
    (absorbMessages count seq records : Action natsOperations OperationFailure σ _).Only
      allowed := by
  induction count generalizing seq records with
  | zero => exact Action.only_pure _
  | succ count ih =>
      refine Action.only_bind (only_askOr (NatsOp.only_send (permits _ trivial))) fun raw => ?_
      exact Action.only_bind (Action.only_ofExcept _) fun next => ih _ _

/-- Reading the ownership records only asks questions. -/
theorem readMetaStream_only (metaStreamName : String) :
    (readMetaStream metaStreamName : Action natsOperations OperationFailure σ _).Only allowed := by
  refine Action.only_bind (Action.only_lift (NatsOp.only_send (permits _ trivial))) ?_
  rintro (failure | _)
  · dsimp only
    split_ifs
    · exact Action.only_pure _
    · exact fun _ => trivial
  · refine Action.only_bind (only_askOr (NatsOp.only_send (permits _ trivial))) fun info => ?_
    refine Action.only_bind (Action.only_refuseIf _ _) fun _ => ?_
    refine Action.only_bind (Action.only_refuseIf _ _) fun _ => ?_
    exact absorbMessages_only permits _ _ _

omit permits in
/-- The checks on the ownership records ask nothing at all. -/
theorem NatsStorageAdapter.admitRecords_only (records : MetaRecords) (carriedEpoch : UInt64) :
    (admitRecords records carriedEpoch : Action natsOperations OperationFailure σ _).Only
      allowed := by
  refine Action.only_bind (Action.only_refuseIf _ _) fun _ => ?_
  refine Action.only_bind ?_ fun _ => ?_
  · refine Action.only_bind (Action.only_require _ _) fun _ => ?_
    exact Action.only_bind (Action.only_ofExcept _) fun _ => Action.only_pure _
  · exact Action.only_bind (Action.only_require _ _) fun _ => Action.only_refuseIf _ _

omit [Digests] in
/-- The extent of the event data is only asked for. -/
theorem dataExtent_only (dataStreamName : String) :
    (dataExtent dataStreamName : Action natsOperations OperationFailure σ _).Only allowed := by
  refine Action.only_bind (only_askOr (NatsOp.only_send (permits _ trivial))) fun _ => ?_
  refine Action.only_bind (only_askOr (NatsOp.only_send (permits _ trivial))) fun info => ?_
  refine Action.only_bind (Action.only_refuseIf _ _) fun _ => ?_
  refine Action.only_bind (Action.only_refuseIf _ _) fun _ => ?_
  refine Action.only_bind (only_askOr (NatsOp.only_send (permits _ trivial))) fun raw => ?_
  refine Action.only_bind (Action.only_ofExcept _) fun _ => ?_
  exact Action.only_bind (Action.only_refuseIf _ _) fun _ => Action.only_pure _

/-- Events are only fetched. -/
theorem readFrames_only (count seq : Nat) :
    (readFrames count seq : Action natsOperations OperationFailure σ _).Only allowed := by
  induction count generalizing seq with
  | zero => exact Action.only_pure _
  | succ count ih =>
      refine Action.only_bind (only_askOr (NatsOp.only_send (permits _ trivial))) fun raw => ?_
      refine Action.only_bind (Action.only_ofExcept _) fun payload => ?_
      exact Action.only_bind (ih _) fun _ => Action.only_pure _

/-- All event data is only fetched. -/
theorem readDataFrames_only (dataStreamName : String) :
    (readDataFrames dataStreamName : Action natsOperations OperationFailure σ _).Only allowed := by
  refine Action.only_bind (dataExtent_only permits _) fun info => ?_
  split_ifs
  · exact readFrames_only permits _ _
  · exact Action.only_pure _

/-- A chunk of event data is only fetched. -/
theorem readDataChunk_only (dataStreamName : String) (startIndex maxItems : Nat) :
    (readDataChunk dataStreamName startIndex maxItems :
      Action natsOperations OperationFailure σ _).Only allowed := by
  unfold readDataChunk
  split_ifs
  · exact Action.only_pure _
  · refine Action.only_bind (dataExtent_only permits _) fun info => ?_
    cases (checkedAdd info.firstSequence 1).bind (checkedAdd · startIndex) with
    | none => exact Action.only_pure _
    | some startSeq =>
        dsimp only
        split_ifs
        · exact Action.only_pure _
        · exact readFrames_only permits _ _

/-- A range of event data is only fetched. -/
theorem readRange_only (dataStreamName : String) (fromSeq toSeq : Nat) :
    (readRange dataStreamName fromSeq toSeq : Action natsOperations OperationFailure σ _).Only
      allowed := by
  unfold readRange
  split_ifs
  · exact Action.only_pure _
  · refine Action.only_bind (only_askOr (NatsOp.only_send (permits _ trivial))) fun _ => ?_
    exact readFrames_only permits _ _

/-- Recovery only fetches, whatever its callback does. -/
theorem NatsEngine.recoverLoop_only (onFrame : FrameRecoveryCallback σ) (dataStreamName : String)
    (chunkStep last fuel currentSeq totalRecovered : Nat) :
    (recoverLoop onFrame dataStreamName chunkStep last fuel currentSeq totalRecovered).Only
      allowed := by
  induction fuel generalizing currentSeq totalRecovered with
  | zero => exact Action.only_pure _
  | succ fuel ih =>
      unfold recoverLoop
      split_ifs
      · exact Action.only_pure _
      refine Action.only_bind (readRange_only permits _ _ _) fun frames => ?_
      refine Action.only_bind (Action.only_refuseIf _ _) fun _ => ?_
      refine Action.only_bind (fun _ => trivial) fun total => ?_
      split_ifs
      · exact Action.only_pure _
      · exact ih _ _

/-- Recovery only asks questions. -/
theorem NatsEngine.recoverFrames_only (chunkSize : Nat) (onFrame : FrameRecoveryCallback σ) :
    (recoverFrames chunkSize onFrame).Only allowed := by
  refine Action.only_bind Action.only_get ?_
  rintro ⟨engine, captured⟩
  refine Action.only_bind (dataExtent_only permits _) fun info => ?_
  dsimp only
  cases checkedAdd info.firstSequence 1 with
  | none => exact Action.only_bind (fun _ => trivial) fun _ => Action.only_pure _
  | some dataStartSeq =>
      dsimp only
      split_ifs
      · exact Action.only_bind (fun _ => trivial) fun _ => Action.only_pure _
      · refine Action.only_bind (recoverLoop_only permits _ _ _ _ _ _ _) fun total => ?_
        exact Action.only_bind (fun _ => trivial) fun _ => Action.only_pure _

/-- The authority check only asks questions. -/
theorem NatsEngine.checkAuthority_only :
    (checkAuthority : Action natsOperations OperationFailure NatsEngine Unit).Only allowed := by
  refine Action.only_bind Action.only_get fun engine => ?_
  refine Action.only_bind (Action.only_refuseIf _ _) fun _ => ?_
  refine Action.only_bind (readMetaStream_only permits _) fun records => ?_
  refine Action.only_bind (Action.only_refuseIf _ _) fun _ => ?_
  exact Action.only_bind (Action.only_require _ _) fun claim => Action.only_refuseIf _ _

/-- So does a flush. -/
theorem NatsEngine.sync_only :
    (sync : Action natsOperations OperationFailure NatsEngine Unit).Only allowed := by
  refine Action.only_bind (checkAuthority_only permits) fun _ => ?_
  refine Action.only_bind (Action.only_lift (NatsOp.only_send (permits _ trivial))) ?_
  rintro (failure | _)
  · exact Action.only_bind (Action.only_modify _) fun _ => fun _ => trivial
  · exact Action.only_pure _

/-- Opening a writer over event data only asks questions. -/
theorem NatsEngine.openWriter_only :
    (Store.openWriter : Action natsOperations OperationFailure NatsEngine _).Only allowed := by
  intro engine
  refine Program.only_bind (recoverFrames_only permits _ _ _) ?_
  rintro ⟨_ | count, after, captured⟩
  · trivial
  · trivial

/-- Opening streams that are both there only asks questions. -/
theorem NatsStorageAdapter.openBoth_only (adapter : NatsStorageAdapter) (carriedEpoch : UInt64) :
    (do
      adapter.resolveOpenSubjects .both
      let records ← readMetaStream adapter.metaStreamName
      admitRecords records carriedEpoch
      let info ← dataExtent adapter.dataStreamName
      Action.within (adapter.engine carriedEpoch info.lastSequence (info.messages > 1))
        Store.openWriter : Action natsOperations OperationFailure σ (Store NatsEngine)).Only
      allowed := by
  refine Action.only_bind (resolveOpenSubjects_only permits adapter _) fun _ => ?_
  refine Action.only_bind (readMetaStream_only permits _) fun records => ?_
  refine Action.only_bind (admitRecords_only records carriedEpoch) fun _ => ?_
  refine Action.only_bind (dataExtent_only permits _) fun info => ?_
  intro own
  refine Program.only_bind (NatsEngine.openWriter_only permits _) ?_
  rintro ⟨outcome, engine⟩
  trivial

end Only

end Pardosa
