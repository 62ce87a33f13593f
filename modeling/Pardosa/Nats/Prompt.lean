import Pardosa.Nats.Quiet
import Pardosa.Store.Recovery

/-!
# A broker without failures

`promptBroker` answers every question truthfully, binds every stream to the
subject that its adapter expects, and handles a publish as soon as it is sent.
Its answers are among those of `brokerSetting`. With it, reading the streams
comes down to folding their messages.
-/

namespace Pardosa

open Foundation

namespace Broker

/-- The broker after it handled a publish that it was just sent. -/
def taken (broker : Broker) (name : StreamName) (expectedLast : Option Nat) (payload : Bytes) :
    Broker :=
  match broker.streams name with
  | none => broker.sent name expectedLast payload
  | some messages =>
      if ∀ last ∈ expectedLast, last = messages.length then
        (broker.sent name expectedLast payload).accepted broker.publishes.length
          ⟨name, expectedLast, payload, .pending⟩ messages
      else (broker.sent name expectedLast payload).refused broker.publishes.length
        ⟨name, expectedLast, payload, .pending⟩

/-- What became of a publish, as its acknowledgement says. -/
def acknowledges (broker : Broker) (streamName : StreamName → String) (ticket : Nat) :
    Except NatsError PubAck :=
  match broker.publishes[ticket]? with
  | some ⟨name, _, _, .landed sequence _⟩ => .ok ⟨streamName name, sequence⟩
  | some ⟨_, _, _, .refused⟩ => .error ⟨true, "wrong last sequence"⟩
  | _ => .error ⟨false, "timed out"⟩

/-- Sending and handling a publish is a move of the broker. -/
theorem sent_taken (broker : Broker) (name : StreamName) (expectedLast : Option Nat)
    (payload : Bytes) :
    Relation.ReflTransGen Handles (broker.sent name expectedLast payload)
      (broker.taken name expectedLast payload) := by
  have ticketed : (broker.sent name expectedLast payload).publishes[broker.publishes.length]? =
      some ⟨name, expectedLast, payload, .pending⟩ := by
    simp [sent]
  unfold taken
  cases stands : broker.streams name with
  | none => exact .refl
  | some messages =>
      have known : (broker.sent name expectedLast payload).streams name = some messages := stands
      dsimp only
      split_ifs with expected
      · exact .single (.accept ticketed rfl known expected)
      · push Not at expected
        obtain ⟨last, member, wrong⟩ := expected
        exact .single (.refuse ticketed rfl known member wrong)

/-- An acknowledgement tells the truth. -/
theorem answers_acknowledges (broker : Broker) (streamName : StreamName → String) (ticket : Nat) :
    broker.Answers ticket (broker.acknowledges streamName ticket) := by
  unfold acknowledges
  split
  · rename_i name expectedLast payload sequence records found
    exact ⟨records, by simp [fate, found]⟩
  · rename_i found
    intro _
    simp [fate, found]
  · rintro ⟨⟩

/-- A publish with the right expectation is taken. -/
theorem taken_eq {broker : Broker} {name : StreamName} {messages : List Bytes}
    (stands : broker.streams name = some messages) (payload : Bytes) :
    broker.taken name (some messages.length) payload =
      (broker.sent name (some messages.length) payload).accepted broker.publishes.length
        ⟨name, some messages.length, payload, .pending⟩ messages := by
  unfold taken
  rw [stands]
  exact if_pos (by rintro last ⟨⟩; rfl)

/-- A publish that is taken at the end of a stream stands behind its messages. -/
theorem streams_taken {broker : Broker} {name : StreamName} {messages : List Bytes}
    (stands : broker.streams name = some messages) (payload : Bytes) :
    (broker.taken name (some messages.length) payload).streams =
      Function.update broker.streams name (some (messages ++ [payload])) := by
  rw [taken_eq stands]
  rfl

/-- The acknowledgement of a publish that was taken names its stream and sequence. -/
theorem acknowledges_taken {broker : Broker} {name : StreamName} {messages : List Bytes}
    (stands : broker.streams name = some messages) (payload : Bytes)
    (streamName : StreamName → String) :
    (broker.taken name (some messages.length) payload).acknowledges streamName
      broker.publishes.length = .ok ⟨streamName name, messages.length + 1⟩ := by
  rw [taken_eq stands]
  unfold acknowledges accepted sent
  simp

/-- The messages of a stream that is there. -/
def findStream (broker : Broker) (name : StreamName) : Except NatsError (List Bytes) :=
  match broker.streams name with
  | some messages => .ok messages
  | none => .error ⟨true, "stream not found"⟩

/-- The message with a sequence. -/
def rawMessage (broker : Broker) (name : StreamName) (sequence : Nat) : Except NatsError Bytes :=
  match sequence with
  | 0 => .error ⟨true, "no message found"⟩
  | index + 1 =>
      match (broker.messages name)[index]? with
      | some payload => .ok payload
      | none => .error ⟨true, "no message found"⟩

/-- A stream that stands is found. -/
theorem findStream_eq {broker : Broker} {name : StreamName} {messages : List Bytes}
    (stands : broker.streams name = some messages) : broker.findStream name = .ok messages := by
  unfold findStream
  rw [stands]

/-- A stream that does not stand is not found. -/
theorem findStream_missing {broker : Broker} {name : StreamName}
    (missing : broker.streams name = none) :
    broker.findStream name = .error ⟨true, "stream not found"⟩ := by
  unfold findStream
  rw [missing]

/-- A message is fetched by its sequence number, which counts from one. -/
theorem rawMessage_eq {broker : Broker} {name : StreamName} {messages : List Bytes} {index : Nat}
    {payload : Bytes} (stands : broker.streams name = some messages)
    (found : messages[index]? = some payload) :
    broker.rawMessage name (index + 1) = .ok payload := by
  unfold rawMessage Broker.messages
  rw [stands]
  simp only [Option.getD_some, found]

/-- The messages of a stream that carries framed payloads. -/
def framedMessages [Digests] (payloads : List Bytes) : List Bytes :=
  ContainerHeader.new.toBytes :: payloads.map ContainerFrame.frameBytes

end Broker

/-- The subject that a stream of the artefact binds. -/
def NatsStorageAdapter.subject (adapter : NatsStorageAdapter) : StreamName → String
  | .metaStream => adapter.metaSubject
  | .dataStream => adapter.dataSubject

/-- A broker that never fails and handles a publish at once. -/
def promptBroker (adapter : NatsStorageAdapter) : Handler natsOperations Broker :=
  fun (op : NatsOp) broker => match op with
  | .getStream name => ((broker.findStream name).map fun _ => (), broker)
  | .info name => ((broker.findStream name).map Broker.infoOf, broker)
  | .streamSubjects name => (.ok [adapter.subject name], broker)
  | .getRawMessage name sequence => (broker.rawMessage name sequence, broker)
  | .createStream name => (.ok (), broker.created name)
  | .publish name expectedLast payload =>
      (.ok broker.publishes.length, broker.taken name expectedLast payload)
  | .awaitAck ticket => (broker.acknowledges adapter.streamName ticket, broker)
  | .awaitAckWithinTimeout ticket => (some (broker.acknowledges adapter.streamName ticket), broker)
  | .flush => (.ok (), broker)

/-- The prompt broker answers as the broker may, and lets it handle a publish
before anything else. -/
theorem promptBroker_allowed (adapter : NatsStorageAdapter) (op : NatsOp) (broker : Broker) :
    ∃ between, NatsOp.Performs op broker (promptBroker adapter op broker).1 between ∧
      Relation.ReflTransGen Broker.Handles between (promptBroker adapter op broker).2 := by
  cases op with
  | getStream name =>
      refine ⟨broker, ⟨rfl, ?_⟩, .refl⟩
      cases stands : broker.streams name with
      | none =>
          have answer : (broker.findStream name).map (fun _ => ()) = .error _ :=
            congrArg (Except.map fun _ => ()) (Broker.findStream_missing stands)
          exact Or.inl ⟨_, answer⟩
      | some messages =>
          have answer : (broker.findStream name).map (fun _ => ()) = .ok () :=
            congrArg (Except.map fun _ => ()) (Broker.findStream_eq stands)
          exact Or.inr ⟨rfl, answer⟩
  | info name =>
      refine ⟨broker, ⟨rfl, ?_⟩, .refl⟩
      cases stands : broker.streams name with
      | none =>
          have answer : (broker.findStream name).map Broker.infoOf = .error _ :=
            congrArg (Except.map Broker.infoOf) (Broker.findStream_missing stands)
          exact Or.inl ⟨_, answer⟩
      | some messages =>
          have answer : (broker.findStream name).map Broker.infoOf = .ok (Broker.infoOf messages) :=
            congrArg (Except.map Broker.infoOf) (Broker.findStream_eq stands)
          exact Or.inr ⟨messages, rfl, answer⟩
  | streamSubjects name => exact ⟨broker, rfl, .refl⟩
  | getRawMessage name sequence =>
      refine ⟨broker, ⟨rfl, ?_⟩, .refl⟩
      cases sequence with
      | zero => exact Or.inl ⟨_, rfl⟩
      | succ index =>
          have answer : broker.rawMessage name (index + 1) =
            match (broker.messages name)[index]? with
            | some payload => .ok payload
            | none => .error ⟨true, "no message found"⟩ := rfl
          cases found : (broker.messages name)[index]? with
          | none =>
              rw [found] at answer
              exact Or.inl ⟨_, answer⟩
          | some payload =>
              rw [found] at answer
              exact Or.inr ⟨payload, Nat.succ_pos index, found, answer⟩
  | createStream name => exact ⟨broker.created name, Or.inl ⟨rfl, rfl⟩, .refl⟩
  | publish name expectedLast payload =>
      exact ⟨broker.sent name expectedLast payload, Or.inl ⟨rfl, rfl⟩,
        broker.sent_taken name expectedLast payload⟩
  | awaitAck ticket =>
      exact ⟨broker, ⟨rfl, broker.answers_acknowledges adapter.streamName ticket⟩, .refl⟩
  | awaitAckWithinTimeout ticket =>
      refine ⟨broker, ⟨rfl, ?_⟩, .refl⟩
      rintro outcome ⟨⟩
      exact broker.answers_acknowledges adapter.streamName ticket
  | flush => exact ⟨broker, rfl, .refl⟩

/-- Questions leave the prompt broker as it is. -/
theorem evaluate_promptBroker_quiet (adapter : NatsStorageAdapter) {α : Type}
    {program : Program natsOperations α} (only : program.Only NatsOp.IsQuiet) (broker : Broker) :
    (program.evaluate (promptBroker adapter) broker).2 = broker := by
  induction program with
  | ret value => rfl
  | call op next ih =>
      have same : (promptBroker adapter op broker).2 = broker := by
        have quiet : NatsOp.IsQuiet op := only.1
        cases op <;> trivial
      unfold Program.evaluate
      rw [same]
      exact ih _ (only.2 _)

section Reading

variable (adapter : NatsStorageAdapter) {broker : Broker} {name : StreamName} {σ : Type}
  {messages : List Bytes}

omit adapter in
/-- Without failures, a question is answered. -/
theorem evaluate_askOr {α : Type} {handler : Handler natsOperations Broker}
    {program : Program natsOperations (Except NatsError α)}
    (refusal : NatsError → OperationFailure) {later : Broker} {value : α} (state : σ)
    (answered : program.evaluate handler broker = (.ok value, later)) :
    (askOr program refusal state).evaluate handler broker = ((.ok value, state), later) := by
  unfold askOr
  rw [Action.evaluate_bind (Action.evaluate_lift answered state)]
  rfl

/-- Looking up a stream that stands succeeds. -/
theorem evaluate_getStream (stands : broker.streams name = some messages) :
    (NatsOp.send (.getStream name)).evaluate (promptBroker adapter) broker = (.ok (), broker) := by
  change ((broker.findStream name).map fun _ => (), broker) = _
  rw [Broker.findStream_eq stands]
  rfl

/-- Looking up a stream that does not stand says so. -/
theorem evaluate_getStream_missing (missing : broker.streams name = none) :
    (NatsOp.send (.getStream name)).evaluate (promptBroker adapter) broker =
      (.error ⟨true, "stream not found"⟩, broker) := by
  change ((broker.findStream name).map fun _ => (), broker) = _
  rw [Broker.findStream_missing missing]
  rfl

/-- The extent of a stream is that of its messages. -/
theorem evaluate_info (stands : broker.streams name = some messages) :
    (NatsOp.send (.info name)).evaluate (promptBroker adapter) broker =
      (.ok (Broker.infoOf messages), broker) := by
  change ((broker.findStream name).map Broker.infoOf, broker) = _
  rw [Broker.findStream_eq stands]
  rfl

/-- Fetching a message answers its payload. -/
theorem evaluate_getRawMessage {index : Nat} {payload : Bytes}
    (stands : broker.streams name = some messages) (found : messages[index]? = some payload) :
    (NatsOp.send (.getRawMessage name (index + 1))).evaluate (promptBroker adapter) broker =
      (.ok payload, broker) := by
  change (broker.rawMessage name (index + 1), broker) = _
  rw [Broker.rawMessage_eq stands found]
  rfl

variable [Digests]

/-- The messages from a place on are taken into account in order. -/
theorem evaluate_absorbMessages (state : σ) (before : List Bytes) {rest : List Bytes}
    (stands : broker.streams .metaStream = some (before ++ rest)) (records : MetaRecords) :
    (absorbMessages rest.length (before.length + 1) records state).evaluate (promptBroker adapter)
      broker = (((rest.zipIdx (before.length + 1)).foldlM
        (fun records message => records.absorbMessage message.2 message.1) records, state),
        broker) := by
  induction rest generalizing before records with
  | nil => rfl
  | cons raw rest ih =>
      have found : (before ++ raw :: rest)[before.length]? = some raw := by simp
      have read := evaluate_askOr (mapMetaRawMessageError (before.length + 1)) state
        (evaluate_getRawMessage adapter stands found)
      rw [List.length_cons, absorbMessages, Action.evaluate_bind read, List.zipIdx_cons,
        List.foldlM_cons]
      cases absorbed : records.absorbMessage (before.length + 1) raw with
      | error failure => rfl
      | ok next =>
          rw [Action.evaluate_bind rfl]
          have regrouped : broker.streams .metaStream = some ((before ++ [raw]) ++ rest) := by
            rw [stands, List.append_assoc]
            rfl
          have later := ih (before ++ [raw]) regrouped next
          rw [List.length_append] at later
          exact later

/-- The records of a meta stream are those of its messages. -/
theorem evaluate_readMetaStream (state : σ) {first : Bytes} {rest : List Bytes}
    (metaStreamName : String) (stands : broker.streams .metaStream = some (first :: rest)) :
    (readMetaStream metaStreamName state).evaluate (promptBroker adapter) broker =
      ((MetaRecords.ofMessages (first :: rest), state), broker) := by
  have absorbed := evaluate_absorbMessages adapter state [] stands .empty
  unfold readMetaStream
  rw [Action.evaluate_bind (Action.evaluate_lift (evaluate_getStream adapter stands) state)]
  dsimp only
  rw [Action.evaluate_bind (evaluate_askOr _ state (evaluate_info adapter stands)),
    Action.evaluate_bind (Action.evaluate_refuseIf (by simp [Broker.infoOf]) _ _),
    Action.evaluate_bind (Action.evaluate_refuseIf (by simp [Broker.infoOf]) _ _)]
  simp only [Broker.infoOf, List.length_cons, Nat.min_eq_left (Nat.le_add_left 1 rest.length),
    Nat.add_sub_cancel]
  exact absorbed

/-- A meta stream that is not there has no records. -/
theorem evaluate_readMetaStream_missing (state : σ) (metaStreamName : String)
    (missing : broker.streams .metaStream = none) :
    (readMetaStream metaStreamName state).evaluate (promptBroker adapter) broker =
      ((.ok .empty, state), broker) := by
  unfold readMetaStream
  rw [Action.evaluate_bind
    (Action.evaluate_lift (evaluate_getStream_missing adapter missing) state)]
  rfl

omit [Digests] in
/-- Event data without its header is refused. -/
theorem evaluate_dataExtent_empty (state : σ) (dataStreamName : String)
    (stands : broker.streams .dataStream = some []) :
    (dataExtent dataStreamName state).evaluate (promptBroker adapter) broker =
      ((.error (chainBroken "data stream is empty; missing container header per C10.3"), state),
        broker) := by
  unfold dataExtent
  rw [Action.evaluate_bind (evaluate_askOr _ state (evaluate_getStream adapter stands)),
    Action.evaluate_bind (evaluate_askOr _ state (evaluate_info adapter stands))]
  rfl

variable {events : List Bytes}

/-- Event data with its header is accepted. -/
theorem evaluate_dataExtent (state : σ) (dataStreamName : String)
    (stands : broker.streams .dataStream = some (Broker.framedMessages events)) :
    (dataExtent dataStreamName state).evaluate (promptBroker adapter) broker =
      ((.ok ⟨events.length + 1, 1, events.length + 1⟩, state), broker) := by
  have extent : Broker.infoOf (Broker.framedMessages events) =
      ⟨events.length + 1, 1, events.length + 1⟩ := by
    simp [Broker.infoOf, Broker.framedMessages]
  have header : (Broker.framedMessages events)[0]? = some ContainerHeader.new.toBytes := rfl
  have decoded : ContainerHeader.decode ContainerHeader.new.toBytes = .ok (.new, 12) := by
    decide +kernel
  unfold dataExtent
  rw [Action.evaluate_bind (evaluate_askOr _ state (evaluate_getStream adapter stands)),
    Action.evaluate_bind (evaluate_askOr _ state (evaluate_info adapter stands)), extent,
    Action.evaluate_bind (Action.evaluate_refuseIf (by simp) _ _),
    Action.evaluate_bind (Action.evaluate_refuseIf (by simp) _ _),
    Action.evaluate_bind (evaluate_askOr _ state (evaluate_getRawMessage adapter stands header)),
    decoded]
  rw [Action.evaluate_bind rfl]
  rw [Action.evaluate_bind (Action.evaluate_refuseIf (by simp) _ _)]
  rfl

/-- A range of the messages of event data is read as its payloads. -/
theorem evaluate_readFrames (state : σ) (fits : ∀ event ∈ events, event.length ≤ u32Max)
    (stands : broker.streams .dataStream = some (Broker.framedMessages events))
    {count skipped : Nat}
    (within : skipped + count ≤ events.length) :
    (readFrames count (skipped + 2) state).evaluate (promptBroker adapter) broker =
      ((.ok ((events.drop skipped).take count), state), broker) := by
  induction count generalizing skipped with
  | zero => rfl
  | succ count ih =>
      have inside : skipped < events.length := by omega
      have found : (Broker.framedMessages events)[skipped + 1]? =
          some (ContainerFrame.frameBytes events[skipped]) := by
        simp [Broker.framedMessages, inside]
      have decoded : unframeData (skipped + 2) (ContainerFrame.frameBytes events[skipped]) =
          .ok events[skipped] :=
        unframeData_frameBytes (fits _ (List.getElem_mem inside)) _
      have shifted : skipped + 1 + count ≤ events.length := by omega
      have later := ih shifted
      rw [readFrames, Action.evaluate_bind
        (evaluate_askOr _ state (evaluate_getRawMessage adapter stands found)), decoded,
        Action.evaluate_bind rfl, Action.evaluate_bind later, List.drop_eq_getElem_cons inside]
      rfl

/-- A range of event data is read as its payloads. -/
theorem evaluate_readRange (state : σ) (dataStreamName : String)
    (fits : ∀ event ∈ events, event.length ≤ u32Max)
    (stands : broker.streams .dataStream = some (Broker.framedMessages events))
    {skipped toSeq : Nat} (starts : skipped + 2 ≤ toSeq) (ends : toSeq ≤ events.length + 1) :
    (readRange dataStreamName (skipped + 2) toSeq state).evaluate (promptBroker adapter) broker =
      ((.ok ((events.drop skipped).take (toSeq - (skipped + 2) + 1)), state), broker) := by
  have within : skipped + (toSeq - (skipped + 2) + 1) ≤ events.length := by omega
  unfold readRange
  rw [if_neg (by omega),
    Action.evaluate_bind (evaluate_askOr _ state (evaluate_getStream adapter stands))]
  exact evaluate_readFrames adapter state fits stands within

omit [Digests] in
/-- A chunk of recovery ends within the stream, and before its end only when it is full. -/
theorem NatsEngine.chunkEndFrom_bounds {currentSeq chunkStep last : Nat} (some : 0 < chunkStep)
    (within : currentSeq ≤ last) :
    currentSeq ≤ chunkEndFrom currentSeq chunkStep last ∧
      chunkEndFrom currentSeq chunkStep last ≤ last ∧
      (chunkEndFrom currentSeq chunkStep last < last →
        chunkEndFrom currentSeq chunkStep last + 1 = currentSeq + chunkStep) := by
  unfold chunkEndFrom checkedAdd
  split_ifs
  · dsimp only
    omega
  · dsimp only
    omega

/-- The chunk loop of recovery hands the rest of the payloads to its callback, as
long as the stream ends in range or no chunk ends at the largest sequence. -/
theorem evaluate_recoverLoop (onFrame : FrameRecoveryCallback σ) (dataStreamName : String)
    {chunkStep : Nat} (some : 0 < chunkStep) (fits : ∀ event ∈ events, event.length ≤ u32Max)
    (stands : broker.streams .dataStream = .some (Broker.framedMessages events))
    (engine : NatsEngine) {fuel skipped : Nat} (totalRecovered : Nat) (captured : σ)
    (enough : events.length ≤ skipped + fuel)
    (avoids : events.length + 1 ≤ u64Max ∨
      ∀ chunks, skipped + 2 + chunkStep * chunks + (chunkStep - 1) ≠ u64Max) :
    (NatsEngine.recoverLoop onFrame dataStreamName chunkStep (events.length + 1) fuel (skipped + 2)
      totalRecovered (engine, captured)).evaluate (promptBroker adapter) broker =
        (((deliverFrames onFrame totalRecovered (events.drop skipped) captured).1, engine,
          (deliverFrames onFrame totalRecovered (events.drop skipped) captured).2), broker) := by
  induction fuel generalizing skipped totalRecovered captured with
  | zero =>
      rw [List.drop_eq_nil_of_le (by omega)]
      rfl
  | succ fuel ih =>
      unfold NatsEngine.recoverLoop
      by_cases beyond : skipped + 2 > events.length + 1
      · rw [if_pos beyond, List.drop_eq_nil_of_le (by omega)]
        rfl
      rw [if_neg beyond]
      obtain ⟨starts, inside, full⟩ := NatsEngine.chunkEndFrom_bounds some (Nat.le_of_not_lt beyond)
      generalize NatsEngine.chunkEndFrom (skipped + 2) chunkStep (events.length + 1) = chunkEnd at *
      have read := evaluate_readRange adapter (engine, captured) dataStreamName fits stands starts
        inside
      have whole : ((events.drop skipped).take (chunkEnd - (skipped + 2) + 1)).length =
          chunkEnd - (skipped + 2) + 1 := by
        rw [List.length_take, List.length_drop]
        omega
      have split := deliverFrames_append onFrame totalRecovered
        ((events.drop skipped).take (chunkEnd - (skipped + 2) + 1))
        ((events.drop skipped).drop (chunkEnd - (skipped + 2) + 1)) captured
      rw [List.take_append_drop] at split
      rw [split, Action.evaluate_bind read,
        Action.evaluate_bind (Action.evaluate_refuseIf (by simp [whole]) _ _)]
      cases delivered : deliverFrames onFrame totalRecovered
          ((events.drop skipped).take (chunkEnd - (skipped + 2) + 1)) captured with
      | mk outcome passed =>
          cases outcome with
          | error failure =>
              refine Action.evaluate_bind_error
                (Action.evaluate_mutate (?_ : _ = (Except.error failure, engine, passed)) broker)
              simp only [delivered]
          | ok next =>
              rw [Action.evaluate_bind (Action.evaluate_mutate
                (by simp only [delivered] : _ = (Except.ok next, engine, passed)) broker)]
              by_cases last : chunkEnd ≥ events.length + 1
              · rw [if_pos (Or.inr last), List.drop_drop, List.drop_eq_nil_of_le (by omega)]
                rfl
              · have chunk := full (by omega)
                have below : chunkEnd ≠ u64Max := by
                  rcases avoids with inRange | avoids
                  · omega
                  · have first := avoids 0
                    omega
                rw [if_neg (by omega)]
                have next : chunkEnd + 1 = skipped + chunkStep + 2 := by omega
                have length : chunkEnd - (skipped + 2) + 1 = chunkStep := by omega
                rw [next, length, List.drop_drop]
                refine ih _ _ (by omega) (avoids.imp_right ?_)
                intro avoids chunks reached
                refine avoids (chunks + 1) ?_
                rw [Nat.mul_succ, ← reached]
                omega

/-- The engine behind a recovery: it knows where the event data ends, unless the callback has
failed. -/
def NatsEngine.behindRecovery (engine : NatsEngine) (last : Nat) :
    Except OperationFailure Nat → NatsEngine
  | .ok _ => { engine with lastDataSeq := last }
  | .error _ => engine

/-- Recovery of framed event data hands its payloads to the callback. -/
theorem NatsEngine.evaluate_recoverFrames_within (engine : NatsEngine) (chunkSize : Nat)
    (onFrame : FrameRecoveryCallback σ) (captured : σ)
    (fits : ∀ event ∈ events, event.length ≤ u32Max)
    (stands : broker.streams .dataStream = some (Broker.framedMessages events))
    (avoids : events.length + 1 ≤ u64Max ∨
      ∀ chunks, 2 + max chunkSize 1 * chunks + (max chunkSize 1 - 1) ≠ u64Max) :
    (recoverFrames chunkSize onFrame (engine, captured)).evaluate (promptBroker adapter) broker =
      (((deliverFrames onFrame 0 events captured).1,
        engine.behindRecovery (events.length + 1) (deliverFrames onFrame 0 events captured).1,
        (deliverFrames onFrame 0 events captured).2), broker) := by
  have next : checkedAdd 1 1 = some 2 := rfl
  unfold recoverFrames
  rw [Action.evaluate_bind rfl]
  dsimp only
  rw [Action.evaluate_bind (evaluate_dataExtent adapter _ _ stands)]
  dsimp only
  rw [next]
  dsimp only
  by_cases bare : 2 > events.length + 1
  · have none : events = [] := List.eq_nil_of_length_eq_zero (by omega)
    subst none
    rw [if_pos bare]
    rfl
  · rw [if_neg bare]
    have enough : events.length ≤ 0 + (events.length + 1 + 1 - 2) := by omega
    have start : events.length + 1 ≤ u64Max ∨
        ∀ chunks, 0 + 2 + max chunkSize 1 * chunks + (max chunkSize 1 - 1) ≠ u64Max := by
      simpa only [Nat.zero_add] using avoids
    have loop := evaluate_recoverLoop adapter onFrame engine.dataStreamName
      (Nat.lt_of_lt_of_le Nat.one_pos (Nat.le_max_right chunkSize 1)) fits stands engine 0 captured
      enough start
    rw [List.drop_zero] at loop
    cases delivered : deliverFrames onFrame 0 events captured with
    | mk outcome passed =>
        rw [delivered] at loop
        cases outcome with
        | error failure => exact Action.evaluate_bind_error loop
        | ok total =>
            rw [Action.evaluate_bind loop, Action.evaluate_bind rfl]
            rfl

/-- The chunks of a store's recovery never end at the largest sequence. -/
theorem NatsEngine.evaluate_recoverFrames (engine : NatsEngine)
    (onFrame : FrameRecoveryCallback σ) (captured : σ)
    (fits : ∀ event ∈ events, event.length ≤ u32Max)
    (stands : broker.streams .dataStream = some (Broker.framedMessages events)) :
    ∃ after, (recoverFrames 64 onFrame (engine, captured)).evaluate (promptBroker adapter) broker =
      (((deliverFrames onFrame 0 events captured).1, after,
        (deliverFrames onFrame 0 events captured).2), broker) := by
  refine ⟨_, evaluate_recoverFrames_within adapter engine 64 onFrame captured fits stands (.inr ?_)⟩
  intro chunks
  rw [Nat.max_eq_left (by decide)]
  unfold u64Max
  omega

end Reading

end Pardosa
