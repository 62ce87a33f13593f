import Pardosa.File.Permanence
import Pardosa.Nats.Clients
import Pardosa.Nats.Verdict
import Pardosa.Store.Divergence

/-!
# Sessions that another owner has overtaken

A JetStream session notices another owner in three places: the check that the store
makes before it turns to the engine, the same check at the start of the engine's
append, and the refusal of a publish. Only the engine's append fences the session.
What the session finds there ends it for good; what the store's own check finds is
reported and forgotten.
-/

namespace Pardosa

open Foundation

section Inert

variable {σ : Type}

/-- A question whose refusals are ordinary changes no session and fails ordinarily. -/
theorem inert_askOr {α : Type} {program : Program natsOperations (Except NatsError α)}
    {refusal : NatsError → OperationFailure} (ordinary : ∀ failure, (refusal failure).Ordinary) :
    (askOr program refusal : Action natsOperations OperationFailure σ α).Inert
      OperationFailure.Ordinary :=
  Action.inert_bind (Action.inert_lift program) fun _ =>
    Action.inert_ofExcept (failsOnly_mapError ordinary)

/-- A stream that cannot be opened is an ordinary failure. -/
theorem ordinary_mapNatsStreamOpenError (streamName : String) (failure : NatsError) :
    (mapNatsStreamOpenError streamName failure).Ordinary := by
  unfold mapNatsStreamOpenError
  split_ifs <;> rfl

/-- A stream whose extent cannot be asked for is an ordinary failure. -/
theorem ordinary_mapNatsInfoError (streamName : String) (failure : NatsError) :
    (mapNatsInfoError streamName failure).Ordinary := by
  unfold mapNatsInfoError
  split_ifs <;> rfl

/-- An event that cannot be fetched is an ordinary failure. -/
theorem ordinary_mapNatsRawMessageError (seq : Nat) (failure : NatsError) :
    (mapNatsRawMessageError seq failure).Ordinary := by
  unfold mapNatsRawMessageError
  split_ifs <;> rfl

/-- A record that cannot be fetched is an ordinary failure. -/
theorem ordinary_mapMetaRawMessageError (seq : Nat) (failure : NatsError) :
    (mapMetaRawMessageError seq failure).Ordinary := by
  unfold mapMetaRawMessageError
  split_ifs
  · rfl
  · exact ordinary_mapNatsRawMessageError seq failure

/-- Asking for the extent of the event data changes no session and fails ordinarily. -/
theorem inert_dataExtent (dataStreamName : String) :
    (dataExtent dataStreamName : Action natsOperations OperationFailure σ StreamInfo).Inert
      OperationFailure.Ordinary := by
  refine Action.inert_bind (inert_askOr (ordinary_mapNatsStreamOpenError _)) fun _ => ?_
  refine Action.inert_bind (inert_askOr (ordinary_mapNatsInfoError _)) fun info => ?_
  refine Action.inert_bind (Action.inert_refuseIf rfl) fun _ => ?_
  refine Action.inert_bind (Action.inert_refuseIf rfl) fun _ => ?_
  refine Action.inert_bind (inert_askOr (ordinary_mapNatsRawMessageError _)) fun raw => ?_
  refine Action.inert_bind (Action.inert_ofExcept (failsOnly_mapError fun _ => rfl)) fun _ => ?_
  exact Action.inert_bind (Action.inert_refuseIf rfl) fun _ => Action.inert_pure _

variable [Digests]

/-- An event that cannot be unframed is an ordinary failure. -/
theorem failsOnly_unframeData (seq : Nat) (raw : Bytes) :
    FailsOnly OperationFailure.Ordinary (unframeData seq raw) := by
  unfold unframeData
  refine failsOnly_bind (failsOnly_mapError fun _ => rfl) ?_
  rintro ⟨payload, consumed⟩
  exact failsOnly_refuseIf (failsOnly_error rfl) (failsOnly_ok payload)

/-- Fetching events one after the other changes no session and fails ordinarily. -/
theorem inert_readFrames (count seq : Nat) :
    (readFrames count seq : Action natsOperations OperationFailure σ _).Inert
      OperationFailure.Ordinary := by
  induction count generalizing seq with
  | zero => exact Action.inert_pure _
  | succ count ih =>
      refine Action.inert_bind (inert_askOr (ordinary_mapNatsRawMessageError _)) fun raw => ?_
      refine Action.inert_bind (Action.inert_ofExcept (failsOnly_unframeData _ _)) fun payload => ?_
      exact Action.inert_bind (ih _) fun _ => Action.inert_pure _

/-- Reading all event data changes no session and fails ordinarily. -/
theorem inert_readDataFrames (dataStreamName : String) :
    (readDataFrames dataStreamName : Action natsOperations OperationFailure σ _).Inert
      OperationFailure.Ordinary := by
  refine Action.inert_bind (inert_dataExtent _) fun info => ?_
  split_ifs
  · exact inert_readFrames _ _
  · exact Action.inert_pure _

/-- Reading a chunk of event data changes no session and fails ordinarily. -/
theorem inert_readDataChunk (dataStreamName : String) (startIndex maxItems : Nat) :
    (readDataChunk dataStreamName startIndex maxItems :
      Action natsOperations OperationFailure σ _).Inert OperationFailure.Ordinary := by
  unfold readDataChunk
  split_ifs
  · exact Action.inert_pure _
  · refine Action.inert_bind (inert_dataExtent _) fun info => ?_
    cases (checkedAdd info.firstSequence 1).bind (checkedAdd · startIndex) with
    | none => exact Action.inert_pure _
    | some startSeq =>
        dsimp only
        split_ifs
        · exact Action.inert_pure _
        · exact inert_readFrames _ _

/-- Reading a range of event data changes no session and fails ordinarily. -/
theorem inert_readRange (dataStreamName : String) (fromSeq toSeq : Nat) :
    (readRange dataStreamName fromSeq toSeq : Action natsOperations OperationFailure σ _).Inert
      OperationFailure.Ordinary := by
  unfold readRange
  split_ifs
  · exact Action.inert_pure _
  · refine Action.inert_bind (inert_askOr (ordinary_mapNatsStreamOpenError _)) fun _ => ?_
    exact inert_readFrames _ _

/-- A record that cannot be taken in is an ordinary failure. -/
theorem MetaRecords.failsOnly_absorbMessage (records : MetaRecords) (seq : Nat) (raw : Bytes) :
    FailsOnly OperationFailure.Ordinary (records.absorbMessage seq raw) := by
  unfold absorbMessage
  split_ifs
  · refine failsOnly_bind ?_ fun _ => failsOnly_ok records
    unfold checkHeader
    refine failsOnly_bind (failsOnly_mapError fun _ => rfl) ?_
    rintro ⟨header, consumed⟩
    refine failsOnly_refuseIf (failsOnly_error rfl) ?_
    exact failsOnly_throwIf rfl (failsOnly_ok ())
  · refine failsOnly_bind ?_ fun payload => ?_
    · unfold unframe
      refine failsOnly_bind (failsOnly_mapError fun _ => rfl) ?_
      rintro ⟨payload, consumed⟩
      exact failsOnly_refuseIf (failsOnly_error rfl) (failsOnly_ok payload)
    · intro failure refused
      have unreadable := failsOnly_absorbFrame _ _ _ failure refused
      rw [OperationFailure.Ordinary, unreadable]
      rfl

/-- Reading the ownership records changes no session and fails ordinarily. -/
theorem inert_absorbMessages (count seq : Nat) (records : MetaRecords) :
    (absorbMessages count seq records : Action natsOperations OperationFailure σ _).Inert
      OperationFailure.Ordinary := by
  induction count generalizing seq records with
  | zero => exact Action.inert_pure _
  | succ count ih =>
      refine Action.inert_bind (inert_askOr (ordinary_mapMetaRawMessageError _)) fun raw => ?_
      refine Action.inert_bind (Action.inert_ofExcept ?_) fun next => ih _ _
      exact records.failsOnly_absorbMessage seq raw

/-- Reading the ownership records changes nothing and fails without a sign of
another owner. -/
theorem inert_readMetaStream (metaStreamName : String) :
    (readMetaStream metaStreamName : Action natsOperations OperationFailure σ _).Inert
      OperationFailure.Ordinary := by
  refine Action.inert_bind (Action.inert_lift _) ?_
  rintro (failure | _)
  · dsimp only
    split_ifs
    · exact Action.inert_pure _
    · exact Action.inert_throw (ordinary_mapNatsStreamOpenError _ _)
  · refine Action.inert_bind (inert_askOr (ordinary_mapNatsInfoError _)) fun info => ?_
    refine Action.inert_bind (Action.inert_refuseIf rfl) fun _ => ?_
    refine Action.inert_bind (Action.inert_refuseIf rfl) fun _ => ?_
    exact inert_absorbMessages _ _ _

end Inert

/-- The ownership records give the artefact to another owner: they retire it, or
their latest claim is not of the epoch that a session carries. -/
def MetaRecords.Supersedes (records : MetaRecords) (carriedEpoch : UInt64) : Prop :=
  records.outboundPointer.isSome = true ∨
    ∃ claim, records.latestClaim = some claim ∧ claim.epoch ≠ carriedEpoch

namespace NatsEngine

/-- The engine knows that something about its writes is unknown, and says so. -/
def Fenced (engine : NatsEngine) : Prop :=
  engine.uncertain = true ∧ engine.uncertainDiagnostic.isSome = true

/-- A session that is fenced is fenced with its diagnostic. -/
theorem fenced_fence (engine : NatsEngine) (diagnostic : String) :
    (engine.fence diagnostic).Fenced := ⟨rfl, rfl⟩

section Authority

variable [Digests] {engine after : NatsEngine} {answers : List (Σ op : NatsOp, op.Res)}
  {outcome : Except OperationFailure Unit}

/-- The records that some answers to a session add up to. -/
def ReadsRecords (engine : NatsEngine) (answers : List (Σ op : NatsOp, op.Res))
    (records : MetaRecords) : Prop :=
  (readMetaStream engine.metaStreamName engine).Answered answers (.ok records, engine)

/-- What the answers to an authority check say: it passes over records that leave the
session its authority, and finds another owner in records that do not. -/
def Checked (engine : NatsEngine) (answers : List (Σ op : NatsOp, op.Res)) :
    Except OperationFailure Unit → Prop
  | .ok () => ∃ records, engine.ReadsRecords answers records ∧
      ¬records.Supersedes engine.carriedEpoch
  | .error failure => failure.Ordinary ∨
      (failure.condition = .staleEpoch ∨ failure.condition = .retiredMigrationSource) ∧
        ∃ records, engine.ReadsRecords answers records ∧ records.Supersedes engine.carriedEpoch

/-- An authority check answers what the records give, and leaves the engine as it was. -/
theorem checked_of_answered (answered : (checkAuthority engine).Answered answers (outcome, after)) :
    after = engine ∧ engine.Checked answers outcome := by
  unfold checkAuthority at answered
  rw [Action.bind_of_ok rfl] at answered
  by_cases uncertain : engine.uncertain = true
  · rw [Action.bind_of_error (Action.refuseIf_of_holds _ _ uncertain)] at answered
    cases answered
    exact ⟨rfl, Or.inl rfl⟩
  rw [Action.bind_of_ok (Action.refuseIf_of_not _ _ uncertain)] at answered
  obtain ⟨read, rest, ⟨found, middle⟩, rfl, reads, checks⟩ :=
    Program.answered_bind_iff.mp answered
  obtain ⟨rfl, ordinary⟩ := Program.yields_iff_answered.mp (inert_readMetaStream _ engine) _ _ reads
  cases found with
  | error failure =>
      cases checks
      exact ⟨rfl, Or.inl (ordinary failure rfl)⟩
  | ok records =>
      dsimp only at checks
      by_cases retired : records.outboundPointer.isSome = true
      · rw [Action.bind_of_error (Action.refuseIf_of_holds _ _ retired)] at checks
        cases checks
        rw [List.append_nil]
        exact ⟨rfl, Or.inr ⟨Or.inr rfl, records, reads, Or.inl retired⟩⟩
      rw [Action.bind_of_ok (Action.refuseIf_of_not _ _ retired)] at checks
      cases claimed : records.latestClaim with
      | none =>
          rw [claimed] at checks
          cases checks
          exact ⟨rfl, Or.inl rfl⟩
      | some claim =>
          rw [claimed, Action.bind_of_ok rfl] at checks
          by_cases stale : claim.epoch ≠ middle.carriedEpoch
          · rw [Action.refuseIf_of_holds _ _ stale] at checks
            cases checks
            rw [List.append_nil]
            exact ⟨rfl, Or.inr ⟨Or.inl rfl, records, reads, Or.inr ⟨claim, claimed, stale⟩⟩⟩
          · rw [Action.refuseIf_of_not _ _ stale] at checks
            cases checks
            rw [List.append_nil]
            refine ⟨rfl, records, reads, ?_⟩
            rintro (pointed | ⟨other, latest, differs⟩)
            · exact retired pointed
            · rw [claimed] at latest
              cases latest
              exact stale differs

/-- The same check as the store makes it. -/
theorem checked_of_storageCheck
    (answered : (StorageEngine.checkAuthority engine).Answered answers outcome) :
    engine.Checked answers outcome := by
  obtain ⟨first, rest, ⟨found, after⟩, rfl, checks, ⟨⟩⟩ := Program.answered_bind_iff.mp answered
  rw [List.append_nil]
  exact (checked_of_answered checks).2

/-- Reading the ownership records asks the broker at least one question. -/
theorem ReadsRecords.asks {records : MetaRecords} (reads : engine.ReadsRecords answers records) :
    answers ≠ [] := by
  rintro rfl
  cases reads

end Authority

section Landing

/-- A session that settles a collision is fenced. -/
theorem yields_settlePublish
    (outcome : Except OperationFailure (WriteLandingVerdict PubAck × Option String))
    (known : ∀ failure, outcome = .error failure → failure.Ordinary ∨
      failure.condition = .concurrencyConflict) (engine : NatsEngine) :
    (settlePublish outcome engine).Yields fun result =>
      ∀ failure, result.1 = .error failure → failure.Ordinary ∨ result.2.Fenced := by
  rcases outcome with failure | ⟨ack | carriedEpoch, diagnostic⟩
  · rintro _ ⟨⟩
    rcases known failure rfl with ordinary | conflict
    · exact Or.inl ordinary
    · refine Or.inr ?_
      dsimp only
      rw [if_pos conflict]
      exact fenced_fence engine _
  · simp only [settlePublish]
    rw [Action.bind_of_ok rfl]
    split_ifs
    · rintro _ ⟨⟩
    · rintro _ ⟨⟩
  · rintro _ ⟨⟩

/-- A publish fails without a sign of another owner, or with a collision. -/
theorem yields_publishBlock (engine : NatsEngine) (block : Bytes) :
    (engine.publishBlock block).Yields fun outcome => ∀ failure, outcome = .error failure →
      failure.Ordinary ∨ failure.condition = .concurrencyConflict := by
  rintro (refused | ticket)
  · change (ite (refused.coded = true) _ _ : Program natsOperations _).Yields _
    split_ifs
    · rintro _ ⟨⟩
      exact Or.inr rfl
    · rintro _ ⟨⟩
      exact Or.inl rfl
  · rintro (_ | _ | ack)
    · rintro _ ⟨⟩
    · rename_i failure
      change (ite (failure.coded = true) _ _ : Program natsOperations _).Yields _
      split_ifs
      · rintro _ ⟨⟩
        exact Or.inr rfl
      · rintro _ ⟨⟩
    · rintro _ ⟨⟩

variable [Digests]

/-- The engine's append fences the session whenever it finds another owner. -/
theorem yields_appendBlock (block : Bytes) (engine : NatsEngine) :
    (appendBlock block engine).Yields fun result =>
      ∀ failure, result.1 = .error failure → failure.Ordinary ∨ result.2.Fenced := by
  have checks : (checkAuthority engine).Yields fun result => ∀ failure,
      result.1 = .error failure → failure.Ordinary ∨ failure.condition = .staleEpoch ∨
        failure.condition = .retiredMigrationSource := by
    refine Program.yields_iff_answered.mpr ?_
    rintro answers ⟨outcome, after⟩ answered failure rfl
    rcases (checked_of_answered answered).2 with ordinary | ⟨found, -⟩
    · exact Or.inl ordinary
    · exact Or.inr found
  have attempts : (Action.attempt checkAuthority engine :
      Program natsOperations (Except OperationFailure (Except OperationFailure Unit) × _)).Yields
      fun result => ∃ found, result.1 = .ok found ∧ ∀ failure, found = .error failure →
        failure.Ordinary ∨ failure.condition = .staleEpoch ∨
          failure.condition = .retiredMigrationSource :=
    Program.yields_bind checks fun result known => ⟨result.1, rfl, known⟩
  refine Program.yields_bind attempts ?_
  rintro ⟨_, after⟩ ⟨found, rfl, known⟩
  cases found with
  | error failure =>
      rintro _ ⟨⟩
      rcases known failure rfl with ordinary | found
      · exact Or.inl ordinary
      · refine Or.inr ?_
        dsimp only
        rw [if_pos found]
        exact fenced_fence after _
  | ok =>
      unfold landBlock
      dsimp only
      rw [Action.bind_of_ok rfl]
      split_ifs with simulated
      · rintro _ ⟨⟩
      by_cases overflow : after.lastDataSeq = u64Max
      · rw [Action.bind_of_error (Action.refuseIf_of_holds _ _ overflow)]
        rintro _ ⟨⟩
        exact Or.inl rfl
      rw [Action.bind_of_ok (Action.refuseIf_of_not _ _ overflow)]
      have publishes : (Action.lift (after.publishBlock block) after :
          Program natsOperations (Except OperationFailure _ × NatsEngine)).Yields fun result =>
          ∃ outcome, result.1 = .ok outcome ∧ ∀ failure, outcome = .error failure →
            failure.Ordinary ∨ failure.condition = .concurrencyConflict :=
        Program.yields_bind (yields_publishBlock after block) fun outcome known =>
          ⟨outcome, rfl, known⟩
      refine Program.yields_bind publishes ?_
      rintro ⟨_, later⟩ ⟨outcome, rfl, known⟩
      exact yields_settlePublish outcome known later

end Landing

section Recovery

variable {σ : Type} {onFrame : FrameRecoveryCallback σ} {going : σ → Prop}
  {stopped : OperationFailure → σ → Prop}
  (delivers : ∀ position frame captured, going captured → Handed going stopped
    (onFrame position frame captured).1 (onFrame position frame captured).2)
  (ordinarily : ∀ failure captured, failure.Ordinary → going captured → stopped failure captured)

include delivers

/-- Handing over frames goes on or stops as the callback says. -/
theorem handed_deliverFrames (frames : List Bytes) (position : Nat) (captured : σ)
    (goes : going captured) :
    Handed going stopped (deliverFrames onFrame position frames captured).1
      (deliverFrames onFrame position frames captured).2 := by
  induction frames generalizing position captured with
  | nil => exact goes
  | cons frame frames ih =>
      have handed := delivers position frame captured goes
      unfold deliverFrames
      cases result : onFrame position frame captured with
      | mk outcome after =>
          rw [result] at handed
          cases outcome with
          | error failure => exact handed
          | ok => exact ih (position + 1) after handed

variable [Digests]

include ordinarily

/-- The chunk loop of recovery goes on or stops as the callback says, on the same engine. -/
theorem yields_recoverLoop (dataStreamName : String) (chunkStep last fuel currentSeq total : Nat)
    (engine : NatsEngine) (captured : σ) (goes : going captured) :
    (recoverLoop onFrame dataStreamName chunkStep last fuel currentSeq total
      (engine, captured)).Yields fun result =>
        Handed going stopped result.1 result.2.2 ∧ result.2.1 = engine := by
  induction fuel generalizing currentSeq total captured with
  | zero => exact ⟨goes, rfl⟩
  | succ fuel ih =>
      unfold recoverLoop
      split_ifs with beyond
      · exact ⟨goes, rfl⟩
      refine Action.yields_bind_inert (inert_readRange _ _ _) ?_ fun frames => ?_
      · exact fun failure ordinary => ⟨ordinarily failure captured ordinary goes, rfl⟩
      have missing : ∀ detail, (chainBroken detail).Ordinary := fun _ => rfl
      refine Action.yields_bind_inert (Action.inert_refuseIf (missing _)) ?_ fun _ => ?_
      · exact fun failure ordinary => ⟨ordinarily failure captured ordinary goes, rfl⟩
      have handed := handed_deliverFrames delivers frames total captured goes
      let Hands (result : Except OperationFailure Nat × NatsEngine × σ) : Prop :=
        Handed going stopped result.1 result.2.2 ∧ result.2.1 = engine
      have hands : (Program.ret ((deliverFrames onFrame total frames captured).1, engine,
          (deliverFrames onFrame total frames captured).2) : Program natsOperations _).Yields
            Hands :=
        ⟨handed, rfl⟩
      refine Program.yields_bind hands ?_
      rintro ⟨_ | total, _, after⟩ ⟨handed, rfl⟩
      · exact ⟨handed, rfl⟩
      · dsimp only
        split_ifs
        · exact ⟨handed, rfl⟩
        · exact ih _ _ _ handed

/-- Recovery fails as its callback does or without a sign of another owner, and changes
nothing of the engine but the sequence at which the event data ends. -/
theorem yields_recoverFrames (chunkSize : Nat) (engine : NatsEngine) (captured : σ)
    (goes : going captured) :
    (recoverFrames chunkSize onFrame (engine, captured)).Yields fun result =>
      Handed going stopped result.1 result.2.2 ∧
        ∃ last, result.2.1 = { engine with lastDataSeq := last } := by
  unfold recoverFrames
  rw [Action.bind_of_ok rfl]
  refine Action.yields_bind_inert (inert_dataExtent _) ?_ fun info => ?_
  · exact fun failure ordinary => ⟨ordinarily failure captured ordinary goes, _, rfl⟩
  dsimp only
  cases checkedAdd info.firstSequence 1 with
  | none => exact ⟨goes, _, rfl⟩
  | some dataStartSeq =>
      dsimp only
      split_ifs with beyond
      · exact ⟨goes, _, rfl⟩
      refine Program.yields_bind (yields_recoverLoop delivers ordinarily _ _ _ _ _ _ _ _ goes) ?_
      rintro ⟨_ | total, _, after⟩ ⟨handed, rfl⟩
      · exact ⟨handed, _, rfl⟩
      · exact ⟨handed, _, rfl⟩

omit delivers ordinarily in
/-- Recovery with any callback. -/
theorem yields_recoverFrames_engine (chunkSize : Nat) (onFrame : FrameRecoveryCallback σ)
    (engine : NatsEngine) (captured : σ) :
    (recoverFrames chunkSize onFrame (engine, captured)).Yields fun result =>
      ∃ last, result.2.1 = { engine with lastDataSeq := last } := by
  have delivers : ∀ position frame (captured : σ), True → Handed (fun _ => True) (fun _ _ => True)
      (onFrame position frame captured).1 (onFrame position frame captured).2 := by
    intro position frame captured _
    unfold Handed
    split <;> trivial
  have ordinarily : ∀ (failure : OperationFailure) (captured : σ), failure.Ordinary → True → True :=
    fun _ _ _ _ => trivial
  exact Program.yields_mono (yields_recoverFrames delivers ordinarily chunkSize engine captured
    trivial) fun _ => And.right

end Recovery

section Fencing

variable [Digests] {World : Type} {setting : Setting natsOperations World}
  (promised : ∀ before after, setting.guar before after)

include promised

/-- Recovery over JetStream fails with ordinary failures and leaves its engine as it was. -/
theorem recoversOrdinarily : RecoversOrdinarily NatsEngine setting := by
  intro σ onFrame going stopped ordinarily delivers engine captured world goes
  refine Program.wp_mono (Program.wp_of_yields promised
    (yields_recoverFrames delivers ordinarily 64 engine captured goes) world) ?_
  rintro ⟨outcome, after⟩ later ⟨delivered, -⟩
  exact delivered

/-- No read lifts the fence. -/
theorem readsKeep_fenced : ReadsKeep setting fun engine _ => NatsEngine.Fenced engine where
  isRetired fenced := Program.wp_of_forall promised fun _ _ => fenced
  readChunk {startIndex maxItems engine world} fenced := by
    refine Program.wp_mono (Program.wp_of_yields promised
      (inert_readDataChunk engine.dataStreamName startIndex maxItems engine) world) ?_
    rintro ⟨outcome, _⟩ later ⟨rfl, -⟩
    exact fenced
  readAll {engine world} fenced := by
    let counted : NatsEngine := { engine with readAllCount := engine.readAllCount + 1 }
    refine Program.wp_mono (Program.wp_of_yields promised
      (inert_readDataFrames engine.dataStreamName counted) world) ?_
    rintro ⟨outcome, _⟩ later ⟨rfl, -⟩
    exact fenced
  recoverFrames {σ} onFrame {engine captured world} fenced := by
    refine Program.wp_mono (Program.wp_of_yields promised
      (yields_recoverFrames_engine 64 onFrame engine captured) world) ?_
    rintro ⟨outcome, _, after⟩ later ⟨last, rfl⟩
    exact fenced

omit promised in
/-- A fenced engine refuses to flush before it asks the broker anything. -/
theorem sync_fenced {engine : NatsEngine} (fenced : engine.Fenced) :
    ∃ failure, sync engine = .ret (.error failure, engine) :=
  ⟨_, Action.bind_of_error (Action.guard_of_holds fenced.1)⟩

/-- The JetStream engine stays fenced, whatever the broker answers and others do. -/
theorem fencing : Fencing setting NatsControl.perform fun engine _ => NatsEngine.Fenced engine where
  diagnosed fenced := fenced.2
  sync := sync_fenced
  reads := readsKeep_fenced promised
  control command engine world fenced := by
    cases command with
    | publishTimeout timeout => exact fenced
    | simulateIndeterminate simulate => exact fenced

end Fencing

end NatsEngine

section Openings

variable [Digests] {σ : Type}

/-- What an opening call answers for: its adapter, and the epoch its session carries. -/
def StreamOpening.carries : StreamOpening → NatsStorageAdapter × UInt64
  | .createWithLimit adapter claim _ _ | .completeCreation adapter claim => (adapter, claim.epoch)
  | .openWrite adapter carriedEpoch => (adapter, carriedEpoch)

/-- A session that was just opened. -/
structure Store.Opened (identity : NatsStorageAdapter × UInt64)
    (store : Store NatsEngine) : Prop where
  engine : ∃ last landed, store.engine = identity.1.engine identity.2 last landed
  unbroken : store.brokenReaderCause = none
  certain : store.uncertain = false
  silent : store.uncertainDiagnostic = none

omit [Digests] in
/-- A session just opened is regular. -/
theorem Store.Opened.regular {identity : NatsStorageAdapter × UInt64} {store : Store NatsEngine}
    (opened : store.Opened identity) : store.Regular where
  breaks cause broken := by
    rw [opened.unbroken] at broken
    cases broken
  told told := by
    rw [opened.silent] at told
    cases told

/-- A writer opens over an engine with the identity that the engine was given. -/
theorem NatsStorageAdapter.returns_openWriter (adapter : NatsStorageAdapter) (carriedEpoch : UInt64)
    (last : Nat) (landed : Bool) :
    (Action.within (adapter.engine carriedEpoch last landed) Store.openWriter :
      Action natsOperations OperationFailure σ _).Returns
        (Store.Opened (adapter, carriedEpoch)) := by
  intro state
  have recovery := NatsEngine.yields_recoverFrames_engine 64 Store.recoverFrame
    (adapter.engine carriedEpoch last landed) (RollingCommitment.new, SessionIndex.new)
  have opens : (Store.openWriter (adapter.engine carriedEpoch last landed)).Yields fun result =>
      ∀ store, result.1 = .ok store → store.Opened (adapter, carriedEpoch) := by
    refine Program.yields_bind recovery ?_
    rintro ⟨_ | count, after, captured⟩ ⟨recovered, same⟩
    · rintro _ ⟨⟩
    · rintro _ ⟨⟩
      exact ⟨⟨recovered, landed, same⟩, rfl, rfl, rfl⟩
  exact Program.yields_bind opens fun result returned => returned

/-- A completed creation ends in a session of the claim's epoch. -/
theorem NatsStorageAdapter.returns_completeCreation (adapter : NatsStorageAdapter)
    (claim : OwnershipClaimRecord) : (adapter.completeCreation claim :
      Action natsOperations OperationFailure σ _).Returns
        (Store.Opened (adapter, claim.epoch)) := by
  refine Action.returns_bind fun presence => ?_
  cases presence with
  | none => exact Action.returns_throw _
  | eventDataOnly => exact Action.returns_throw _
  | both => exact Action.returns_throw _
  | ownershipRecordOnly =>
      refine Action.returns_bind fun _ => Action.returns_bind fun records => ?_
      refine Action.returns_bind fun _ => Action.returns_bind fun durableClaim => ?_
      refine Action.returns_bind fun _ => Action.returns_bind fun _ => ?_
      exact Action.returns_bind fun ack => adapter.returns_openWriter _ _ _

/-- An opening ends in a session of the epoch that it was given. -/
theorem NatsStorageAdapter.returns_openWrite (adapter : NatsStorageAdapter)
    (carriedEpoch : UInt64) :
    (adapter.openWrite carriedEpoch : Action natsOperations OperationFailure σ _).Returns
      (Store.Opened (adapter, carriedEpoch)) := by
  refine Action.returns_bind fun presence => ?_
  cases presence with
  | none => exact Action.returns_throw _
  | eventDataOnly => exact Action.returns_throw _
  | ownershipRecordOnly =>
      refine Action.returns_bind fun records => Action.returns_bind fun _ => ?_
      refine Action.returns_bind fun claim => Action.returns_bind_refuseIf fun carries => ?_
      rw [← not_ne_iff.mp carries]
      exact adapter.returns_completeCreation claim
  | both =>
      refine Action.returns_bind fun _ => Action.returns_bind fun records => ?_
      refine Action.returns_bind fun _ => Action.returns_bind fun info => ?_
      exact adapter.returns_openWriter _ _ _

/-- An opening call returns a fresh session of its adapter with the epoch that it was
given. -/
theorem StreamOpening.returns_perform (opening : StreamOpening) :
    opening.perform.Returns (Store.Opened opening.carries) := by
  cases opening with
  | createWithLimit adapter claim descriptor maxWireLen =>
      refine Action.returns_bind fun presence => Action.returns_bind fun _ => ?_
      refine Action.returns_bind fun _ => Action.returns_bind fun _ => ?_
      refine Action.returns_bind fun _ => Action.returns_bind fun claimFrame => ?_
      refine Action.returns_bind fun _ => Action.returns_bind fun descFrame => ?_
      refine Action.returns_bind fun _ => Action.returns_bind fun _ => ?_
      exact Action.returns_bind fun ack => adapter.returns_openWriter _ _ _
  | completeCreation adapter claim => exact adapter.returns_completeCreation claim
  | openWrite adapter carriedEpoch => exact adapter.returns_openWrite carriedEpoch

end Openings

section Found

variable [Digests]

namespace NatsEngine

variable {engine : NatsEngine} {first second before after : List (Σ op : NatsOp, op.Res)}

/-- The answers to so many authority checks, one after the other, which all leave the
session its authority. -/
def Passes (engine : NatsEngine) : Nat → List (Σ op : NatsOp, op.Res) → Prop
  | 0, answers => answers = []
  | checks + 1, answers => ∃ earlier last, answers = earlier ++ last ∧
    engine.Passes checks earlier ∧
      engine.Checked last (.ok ())

/-- The same answers are split in one way only into the checks that pass and the rest. -/
theorem Passes.unique {checks : Nat} (passes : engine.Passes checks first)
    (also : engine.Passes checks second) (same : first ++ before = second ++ after) :
    first = second ∧ before = after := by
  induction checks generalizing first second before after with
  | zero =>
      cases passes
      cases also
      exact ⟨rfl, same⟩
  | succ checks ih =>
      obtain ⟨earlier, last, rfl, passed, records, reads, -⟩ := passes
      obtain ⟨others, final, rfl, alsoPassed, _, alsoReads, -⟩ := also
      rw [List.append_assoc, List.append_assoc] at same
      obtain ⟨rfl, rest⟩ := ih passed alsoPassed same
      obtain ⟨rfl, -, rfl⟩ := reads.unique alsoReads rest
      exact ⟨rfl, rfl⟩

/-- Every check of several passes after those before it. -/
theorem Passes.check {checks total : Nat} (less : checks < total)
    (passes : engine.Passes total first) : ∃ earlier last rest, first = earlier ++ (last ++ rest) ∧
      engine.Passes checks earlier ∧ engine.Checked last (.ok ()) := by
  induction total generalizing first with
  | zero => exact (Nat.not_lt_zero _ less).elim
  | succ total ih =>
      obtain ⟨earlier, last, rfl, passed, checked⟩ := passes
      rcases Nat.lt_or_eq_of_le (Nat.le_of_lt_succ less) with within | rfl
      · obtain ⟨early, this, rest, rfl, passes, checked⟩ := ih within passed
        exact ⟨early, this, rest ++ last, by simp only [List.append_assoc], passes, checked⟩
      · exact ⟨earlier, last, [], by rw [List.append_nil], passed, checked⟩

/-- The answers to a write of which one of the store's own authority checks, after those
that pass, reads ownership records that give the artefact to another owner. -/
def StoppedByStore (engine : NatsEngine) (call : WriteCall)
    (performed : List (Σ op : NatsOp, op.Res)) :
    Prop :=
  ∃ checks < call.sessionChecks, ∃ earlier read records, performed = earlier ++ read ∧
    engine.Passes checks earlier ∧ engine.ReadsRecords read records ∧
      records.Supersedes engine.carriedEpoch

/-- The answers to a write that passes all of the store's own authority checks. -/
def ReachesEngine (engine : NatsEngine) (call : WriteCall)
    (performed : List (Σ op : NatsOp, op.Res)) : Prop :=
  ∃ earlier rest, performed = earlier ++ rest ∧ engine.Passes call.sessionChecks earlier

/-- A write is stopped by the store only on answers of the broker. -/
theorem StoppedByStore.asks {call : WriteCall} (stops : engine.StoppedByStore call first) :
    first ≠ [] := by
  obtain ⟨checks, less, earlier, read, records, rfl, passes, reads, supersedes⟩ := stops
  intro nothing
  exact reads.asks (List.append_eq_nil_iff.mp nothing).2

/-- A write that the store's own check stops does not reach the engine. -/
theorem StoppedByStore.not_reaches {call : WriteCall} (stops : engine.StoppedByStore call first) :
    ¬engine.ReachesEngine call first := by
  obtain ⟨checks, less, earlier, read, records, rfl, passes, reads, supersedes⟩ := stops
  rintro ⟨whole, rest, split, allPass⟩
  obtain ⟨early, last, others, rfl, alsoPasses, found, alsoReads, keeps⟩ := allPass.check less
  simp only [List.append_assoc] at split
  obtain ⟨rfl, same⟩ := passes.unique alsoPasses split
  rw [← List.append_nil read] at same
  obtain ⟨-, agree, -⟩ := reads.unique alsoReads same
  cases agree
  exact keeps supersedes

end NatsEngine

variable {τ : Type}

/-- A write that has returned a sign of another owner. -/
def SessionEvent.Diverged (event : SessionEvent natsOperations NatsControl τ) : Prop :=
  (∃ call, event.call = .write call) ∧
    ∃ failure, event.outcome = .error failure ∧ failure.condition.isDivergence = true

/-- A write that the store's own authority check has stopped because of the ownership
records that it read. -/
def SessionEvent.FoundByStore (event : SessionEvent natsOperations NatsControl τ)
    (engine : NatsEngine) : Prop :=
  ∃ call, event.call = .write call ∧ engine.StoppedByStore call event.performed

variable {World : Type} {setting : Setting natsOperations World}

variable (τ setting) in
/-- The session is uncertain from now on and says so, and refuses every later write,
synchronization and lookup before it asks the broker anything. -/
def Ended (state : Store NatsEngine × World) : Prop :=
  ∀ (later : List (SessionEvent natsOperations NatsControl τ)) final,
    Trace (SessionStep setting NatsControl.perform) state later final →
      final.1.sessionDiagnostic.isSome = true ∧
        ∀ event ∈ later, event.call.isGuarded = true → event.Refused

/-- A fenced session is ended. -/
theorem Ended.of_fenced {state : Store NatsEngine × World} (fenced : state.1.engine.Fenced) :
    Ended τ setting state := by
  intro later final run
  have fencing : Fencing (setting.promising fun _ _ => True) NatsControl.perform
      fun engine _ => NatsEngine.Fenced engine := NatsEngine.fencing fun _ _ => trivial
  obtain ⟨stays, refused⟩ := fencing.forever fenced run
  refine ⟨?_, refused⟩
  unfold Store.sessionDiagnostic
  have told : (StorageEngine.uncertainDiagnostic final.1.engine).isSome = true := stays.2
  rw [Option.isSome_or, told, Bool.or_true]

/-- A write that returns a sign of another owner was either stopped by the store's own
check and changed nothing, or has reached the engine and fenced it. -/
theorem WriteCall.wp_perform_diverges (promised : ∀ before after, setting.guar before after)
    (call : WriteCall) {store : Store NatsEngine} (regular : store.Regular) (world : World) :
    call.perform.wp setting.recording (fun outcome after later => ∀ failure,
      outcome = .error failure → failure.condition.isDivergence = true →
        after = store ∧ store.engine.StoppedByStore call later.2 ∨
          after.engine.Fenced ∧ store.engine.ReachesEngine call later.2) store (world, []) := by
  have nothing : store.engine.Passes 0 [] := rfl
  refine call.wp_perform (J := fun checks after => store.engine.Passes checks after.2)
    nothing ?_ ?_ ?_
  · rintro checks ⟨before, record⟩ less passes
    refine Program.wp_mono (Program.wp_recording_answered promised _ before record) ?_
    rintro outcome ⟨after, recorded⟩ ⟨answers, rfl, answered⟩
    have checked := NatsEngine.checked_of_storageCheck answered
    cases outcome with
    | ok => exact ⟨record, answers, rfl, passes, checked⟩
    | error failure =>
        rintro _ ⟨⟩ diverges
        rcases checked with ordinary | ⟨-, records, reads, supersedes⟩
        · rw [ordinary] at diverges
          cases diverges
        · exact Or.inl ⟨rfl, checks, less, record, answers, records, rfl, passes, reads, supersedes⟩
  · rintro checks before failure passes refusal _ ⟨⟩ diverges
    rw [regular.refusal refusal] at diverges
    cases diverges
  · rintro ⟨before, record⟩ envelope payload passes admitted passed
    refine Program.wp_mono (Program.wp_recording_answered promised _ before record) ?_
    rintro ⟨outcome, engine⟩ ⟨after, recorded⟩ ⟨answers, rfl, answered⟩
    rcases outcome with failure | position | carriedEpoch
    · rintro _ ⟨⟩ diverges
      have fences := Program.yields_iff_answered.mp
        (NatsEngine.yields_appendBlock _ store.engine) _ _ answered failure rfl
      rcases fences with ordinary | fenced
      · rw [ordinary] at diverges
        cases diverges
      · exact Or.inr ⟨fenced, record, answers, rfl, passes⟩
    · rintro _ ⟨⟩
    · rintro _ ⟨⟩

/-- What such a write makes of its session. -/
theorem SessionEvent.Diverged.fences {before after : Store NatsEngine × World}
    {event : SessionEvent natsOperations NatsControl τ} (diverged : event.Diverged)
    (regular : before.1.Regular)
    (step : SessionStep setting NatsControl.perform before event after) :
    before.1.sessionDiagnostic = none ∧ after.1 = before.1 ∧
        event.FoundByStore before.1.engine ∨
      after.1.engine.Fenced ∧ ¬event.FoundByStore before.1.engine := by
  obtain ⟨call, outcome, performed⟩ := event
  obtain ⟨⟨call, rfl⟩, failure, rfl, diverges⟩ := diverged
  have promised : ∀ before after, (setting.promising fun _ _ => True).guar before after :=
    fun _ _ => trivial
  have owed : (SessionCall.perform NatsControl.perform (.write call : SessionCall _ τ)).wp
      (setting.promising fun _ _ => True).recording
      (fun outcome after later => ∀ failure, outcome = .error failure →
        failure.condition.isDivergence = true →
          after = before.1 ∧ before.1.engine.StoppedByStore call later.2 ∨
            after.engine.Fenced ∧ before.1.engine.ReachesEngine call later.2)
      before.1 (before.2, []) := by
    refine (Action.wp_map _).mpr (Action.wp_mono
      (call.wp_perform_diverges promised regular before.2) ?_)
    rintro (refusal | verdict) after later holds
    · rintro _ ⟨⟩
      exact holds refusal rfl
    · rintro _ ⟨⟩
  rcases Action.wp_of_runs (Program.runs_recording_promising _ step) owed failure rfl diverges with
    ⟨same, stops⟩ | ⟨fenced, reaches⟩
  · refine Or.inl ⟨regular.sessionDiagnostic ?_, same, call, rfl, stops⟩
    by_contra uncertain
    have fenced : before.1.isUncertain = true := by simpa using uncertain
    obtain ⟨refusal, refused⟩ := call.perform_uncertain fenced
    have stopped : SessionCall.perform NatsControl.perform
      (.write call : SessionCall _ τ) before.1 =
        .ret (.error refusal, before.1) := Action.bind_of_error refused
    unfold SessionStep Action.Runs at step
    rw [stopped] at step
    have asked := stops.asks
    obtain ⟨after, later⟩ := after
    dsimp only at same step
    subst same
    cases step
    exact asked rfl
  · refine Or.inr ⟨fenced, ?_⟩
    rintro ⟨_, ⟨⟩, stops⟩
    exact stops.not_reaches reaches

/-- A write that returns a sign of another owner ends its session, unless the store's
own check has found the other owner: then the session goes on as if nothing had
happened. -/
theorem divergence_ends_session_iff {opening : StreamOpening} {start : World}
    {opened before after : Store NatsEngine × World}
    {past : List (SessionEvent natsOperations NatsControl τ)}
    {event : SessionEvent natsOperations NatsControl τ}
    (opens : opening.perform.Runs setting () start (.ok opened.1) () opened.2)
    (run : Trace (SessionStep setting NatsControl.perform) opened past before)
    (step : SessionStep setting NatsControl.perform before event after)
    (diverged : event.Diverged) :
    Ended τ setting after ↔ ¬event.FoundByStore before.1.engine := by
  have promised : ∀ before after, (setting.promising fun _ _ => True).guar before after :=
    fun _ _ => trivial
  have initially : opened.1.Regular := by
    have owed := Program.wp_of_yields promised (opening.returns_perform ()) start
    exact (Program.wp_of_runs (Program.runs_promising _ opens) owed opened.1 rfl).regular
  let Regularly (_ : List (SessionEvent natsOperations NatsControl τ))
    (state : Store NatsEngine × World) : Prop := state.1.Regular
  have regular : Regularly past before := by
    refine run.invariant initially ?_
    intro past state event next kept step
    have owed : (event.call.perform NatsControl.perform).wp (setting.promising fun _ _ => True)
        (fun _ after _ => after.Regular) state.1 state.2 :=
      event.call.wp_perform_regular promised (NatsEngine.recoversOrdinarily promised) kept
    exact Action.wp_of_runs (Program.runs_recording_promising _ step) (Action.wp_recording owed)
  rcases diverged.fences regular step with ⟨silent, same, found⟩ | ⟨fenced, notFound⟩
  · refine iff_of_false ?_ (not_not.mpr found)
    intro ended
    have told := (ended [] after .nil).1
    rw [same, silent] at told
    cases told
  · exact iff_of_true (Ended.of_fenced fenced) notFound

end Found

section Overtaken

variable [Digests] (adapter : NatsStorageAdapter) {broker : Broker}

/-- Without failures, the check of a session comes down to the last claim of an ownership
record that is not retired. -/
theorem NatsEngine.evaluate_checkAuthority {engine : NatsEngine} {payloads : List Bytes}
    {records : MetaRecords} {claim : OwnershipClaimRecord}
    (named : engine.metaStreamName = adapter.metaStreamName) (certain : engine.uncertain = false)
    (fits : ∀ payload ∈ payloads, payload.length ≤ u32Max)
    (stands : broker.streams .metaStream = some (Broker.framedMessages payloads))
    (readable : MetaRecords.ofFrames payloads = .ok records)
    (active : records.outboundPointer = none) (claimed : records.latestClaim = some claim) :
    (checkAuthority engine).evaluate (promptBroker adapter) broker =
      ((Action.refuseIf (claim.epoch ≠ engine.carriedEpoch) ⟨.staleEpoch,
        "writer epoch superseded in meta stream; write rejected per C5.5 and C12.4"⟩ :
          Action natsOperations OperationFailure NatsEngine Unit) engine).evaluate
        (promptBroker adapter) broker := by
  obtain ⟨outcome, read, found⟩ :=
    NatsStorageAdapter.evaluate_framedRecords adapter engine fits stands
  rw [readable] at found
  cases outcome with
  | error failure => cases found
  | ok seen =>
      cases found
      rw [← named] at read
      unfold checkAuthority
      rw [Action.evaluate_bind rfl,
        Action.evaluate_bind (Action.evaluate_refuseIf (by simp [certain]) _ _),
        Action.evaluate_bind read,
        Action.evaluate_bind (Action.evaluate_refuseIf (by simp [active]) _ _), claimed,
        Action.evaluate_bind rfl]

end Overtaken

/-- The broker with other clients about, which may ask it for anything. -/
def busyBroker : Setting natsOperations Broker where
  exec op before answer after := NatsOp.Performs op before answer after
  rely := Relation.ReflTransGen fun before after =>
    before.Handles after ∨ ∃ op answer, NatsOp.Performs op before answer after
  guar _ _ := True

section Example

attribute [local instance] standardDigests

/-- The streams of an artefact without events. -/
def seededBroker : Broker where
  streams
    | .metaStream => some (Broker.framedMessages seedFrames)
    | .dataStream => some (Broker.framedMessages [])
  publishes := []

/-- Evaluation with the prompt broker is one of the runs of the busy broker. -/
theorem exists_runs_busyBroker {α : Type} (program : Program natsOperations α) (broker : Broker) :
    ∃ ended, program.Runs busyBroker broker
        (program.evaluate (promptBroker seededStreams) broker).1 ended ∧
      busyBroker.rely ended (program.evaluate (promptBroker seededStreams) broker).2 := by
  refine Program.exists_runs_evaluate Relation.ReflTransGen.trans
    (fun _ => Relation.ReflTransGen.refl) ?_ program broker
  intro op world
  obtain ⟨between, performed, handled⟩ := promptBroker_allowed seededStreams op world
  exact ⟨between, performed, Relation.ReflTransGen.mono (fun _ _ moved => Or.inl moved) _ _ handled⟩

/-- A session of the seeded streams, and an append after another owner has claimed the
next epoch. -/
theorem exists_overtaken : ∃ (store : Store NatsEngine) (opened later : Broker)
    (event : SessionEvent natsOperations NatsControl Unit),
    (StreamOpening.openWrite seededStreams 1).perform.Runs busyBroker () seededBroker (.ok store) ()
      opened ∧
    SessionStep busyBroker NatsControl.perform (store, opened) event (store, later) ∧
    event.Diverged ∧ store.sessionDiagnostic = none := by
  have fits : ∀ payload ∈ supersededFrames, payload.length ≤ u32Max := by decide +kernel
  have seedsFit : ∀ payload ∈ seedFrames, payload.length ≤ u32Max :=
    fun payload member => fits payload (List.mem_append_left _ member)
  -- the session opens
  have holds : seededBroker.Holds ⟨some seedFrames, some []⟩ := ⟨rfl, rfl⟩
  have opens := NatsStorageAdapter.openWrite_both seededStreams seedsFit (by simp) holds 1 ()
  have seeds : MetaRecords.ofFrames seedFrames =
      .ok ⟨some (bareClaim 1), some ⟨1, .u8⟩, none, none, none, none, none⟩ := by
    decide +kernel
  have verdict : Artefact.writeVerdict ⟨some seedFrames, some []⟩ 1 = .ok (.new, .new) := by
    unfold Artefact.writeVerdict
    dsimp only
    rw [seeds]
    rfl
  rw [verdict] at opens
  obtain ⟨store, found, -⟩ := exists_of_endsAs_ok opens
  obtain ⟨opened, runs, moved⟩ := exists_runs_busyBroker (seededStreams.openWrite 1 ()) seededBroker
  have untouched : ((seededStreams.openWrite 1 ()).evaluate (promptBroker seededStreams)
      seededBroker).2 = seededBroker := by
    have present := NatsStorageAdapter.evaluate_presence seededStreams holds ()
    unfold NatsStorageAdapter.openWrite
    rw [Action.evaluate_bind present]
    exact evaluate_promptBroker_quiet seededStreams
      (seededStreams.openBoth_only (fun _ quiet => quiet) 1 ()) seededBroker
  rw [untouched] at moved
  have result : ((seededStreams.openWrite 1 ()).evaluate (promptBroker seededStreams)
      seededBroker).1 = (.ok store, ()) := Prod.ext found (Subsingleton.elim _ _)
  rw [result] at runs
  have session : store.Opened (seededStreams, 1) := Program.wp_of_runs runs
    (Program.wp_of_yields (fun _ _ => trivial) (seededStreams.returns_openWrite 1 ()) seededBroker)
    store rfl
  obtain ⟨⟨last, landed, engine⟩, unbroken, certain, silent⟩ := session
  -- another owner claims the next epoch
  let claimFrame := ContainerFrame.frameBytes (OwnershipRecord.ownershipClaim (bareClaim 2)).encode
  let overtaken := seededBroker.taken .metaStream none claimFrame
  have stands : overtaken.streams .metaStream = some (Broker.framedMessages supersededFrames) := rfl
  have overtakes : busyBroker.rely opened overtaken := by
    have sent : NatsOp.Performs (.publish .metaStream none claimFrame) seededBroker (.ok 0)
        (seededBroker.sent .metaStream none claimFrame) := Or.inl ⟨rfl, rfl⟩
    have handled := seededBroker.sent_taken .metaStream none claimFrame
    exact (moved.tail (Or.inr ⟨_, _, sent⟩)).trans
      (Relation.ReflTransGen.mono (fun _ _ moved => Or.inl moved) _ _ handled)
  -- the store's own check of the next append finds it
  have superseded : MetaRecords.ofFrames supersededFrames =
      .ok ⟨some (bareClaim 2), some ⟨1, .u8⟩, none, none, none, none, none⟩ := by
    decide +kernel
  have named : store.engine.metaStreamName = seededStreams.metaStreamName := by rw [engine]; rfl
  have sure : store.engine.uncertain = false := by rw [engine]; rfl
  have carries : (bareClaim 2).epoch ≠ store.engine.carriedEpoch := by
    rw [engine]
    exact (by decide : (2 : UInt64) ≠ 1)
  let failure : OperationFailure := ⟨.staleEpoch,
    "writer epoch superseded in meta stream; write rejected per C5.5 and C12.4"⟩
  have checked : (NatsEngine.checkAuthority store.engine).evaluate (promptBroker seededStreams)
      overtaken = ((.error failure, store.engine), overtaken) := by
    rw [NatsEngine.evaluate_checkAuthority seededStreams named sure fits stands superseded rfl rfl,
      Action.refuseIf_of_holds _ _ carries]
    rfl
  have undiagnosed : store.sessionDiagnostic = none := by
    unfold Store.sessionDiagnostic
    rw [silent, engine]
    rfl
  have calm : store.isUncertain = false := by
    unfold Store.isUncertain
    rw [certain, engine]
    rfl
  let append : SessionCall NatsControl Unit := .write (.appendFrame [])
  have refused : (append.perform NatsControl.perform store).evaluate (promptBroker seededStreams)
      overtaken = ((.error failure, store), overtaken) := by
    have authority : (StorageEngine.checkAuthority store.engine).evaluate
        (promptBroker seededStreams) overtaken = (.error failure, overtaken) := by
      refine (Program.evaluate_bind _ _ _ _).trans ?_
      rw [checked]
      rfl
    have session : (Store.checkSessionAuthority store).evaluate (promptBroker seededStreams)
        overtaken = ((.error failure, store), overtaken) := by
      unfold Store.checkSessionAuthority
      rw [Action.evaluate_bind rfl,
        Action.evaluate_bind (Action.evaluate_refuseIf (by simp [calm]) _ _),
        Action.evaluate_bind (Action.evaluate_lift authority _)]
      rfl
    have admission : (Store.admitFrame [] store).evaluate (promptBroker seededStreams) overtaken =
        ((.error failure, store), overtaken) := by
      unfold Store.admitFrame
      rw [Action.evaluate_bind (Action.evaluate_refuseIf (by simp) _ _)]
      exact Action.evaluate_bind_error session
    exact Action.evaluate_bind_error (Action.evaluate_bind_error
      (Action.evaluate_bind_error admission))
  obtain ⟨later, appends, -⟩ := exists_runs_busyBroker (append.perform NatsControl.perform store)
    overtaken
  rw [refused] at appends
  obtain ⟨ended, appends, -⟩ := Program.exists_runs_of_rely Relation.ReflTransGen.trans
    (fun _ => Relation.ReflTransGen.refl) overtakes appends
  obtain ⟨performed, recorded⟩ := Program.exists_runs_recording appends []
  exact ⟨store, opened, ended, ⟨append, .error failure, performed⟩, runs, recorded,
    ⟨⟨_, rfl⟩, failure, rfl, rfl⟩, undiagnosed⟩

/-- The append after which the session goes on is one that the store's own check has
stopped. -/
theorem divergence_ends_session_iff_overtaken : ∃ (store : Store NatsEngine)
    (later : Store NatsEngine × Broker) (event : SessionEvent natsOperations NatsControl Unit),
    event.Diverged ∧
      (Ended Unit busyBroker later ↔ ¬event.FoundByStore store.engine) := by
  obtain ⟨store, opened, later, event, opens, step, diverged, -⟩ := exists_overtaken
  have begins : (StreamOpening.openWrite seededStreams 1).perform.Runs busyBroker () seededBroker
      (.ok (store, opened).1) () (store, opened).2 := opens
  exact ⟨store, (store, later), event, diverged,
    divergence_ends_session_iff begins .nil step diverged⟩

/-- After a stale epoch the session is not uncertain. -/
theorem divergence_not_recorded : ∃ (store : Store NatsEngine) (opened later : Broker)
    (event : SessionEvent natsOperations NatsControl Unit),
    (StreamOpening.openWrite seededStreams 1).perform.Runs busyBroker () seededBroker (.ok store) ()
      opened ∧
    SessionStep busyBroker NatsControl.perform (store, opened) event (store, later) ∧
    event.Diverged ∧ ¬Ended Unit busyBroker (store, later) := by
  obtain ⟨store, opened, later, event, opens, step, diverged, silent⟩ := exists_overtaken
  refine ⟨store, opened, later, event, opens, step, diverged, ?_⟩
  intro ended
  have told := (ended [] _ .nil).1
  rw [silent] at told
  cases told

end Example

end Pardosa
