import Pardosa.Nats.Fencing
import Pardosa.Nats.Following

/-!
# One history, whoever writes

Any number of clients create, complete and open one artefact, append events, read and
claim, and nothing locks. The event data is one unbroken history all the same, and every
append knows its message: exactly one if it reported a landing, at most one if it left
that open, none if it failed.
-/

namespace Pardosa

open Foundation

section Accounts

variable [Digests] {Client τ : Type}

/-- A call of a client sent at most one publish. -/
def SentOnce (client : Client) (number : Nat) (shared : SharedBroker Client τ) : Prop :=
  ∀ ticket other : Nat, shared.senders[ticket]? = some (client, number) →
    shared.senders[other]? = some (client, number) → ticket = other

/-- What the outcome of a write says of its message. -/
def Accounts (client : Client) (number : Nat) (write : WriteCall) (shared : SharedBroker Client τ) :
    ClientOutcome τ → Prop
  | .ok (.session (.verdict (.landed receipt))) => SentOnce client number shared ∧
      ∃ place payload envelope count, shared.Wrote client number .dataStream place ∧
        (shared.broker.messages .dataStream)[place]? = some (ContainerFrame.frameBytes payload) ∧
        SessionIndex.decodeAndValidateFrame payload = .ok envelope ∧
        write.Passes envelope payload ∧ receipt = write.receipt envelope count
  | .ok _ => SentOnce client number shared
  | .error _ => ∀ ticket : Nat, shared.senders[ticket]? = some (client, number) →
      shared.broker.fate ticket = some .refused

/-- The outcomes that a client has got account for its writes. -/
def AccountedFor (client : Client) (outcomes : List (ClientOutcome τ))
    (shared : SharedBroker Client τ) :
    Prop :=
  ∀ (number : Nat) (write : WriteCall) (outcome : ClientOutcome τ),
    (shared.begun client)[number]? = some (.session (.write write)) →
    outcomes[number]? = some outcome → Accounts client number write shared outcome

/-- What a session knows, unless it is fenced: its index is that of a history that the
event data begins with, and that history is not behind the end that it knows. -/
def Current (store : Store NatsEngine) (broker : Broker) : Prop :=
  store.engine.uncertain = true ∨ ∃ frames, ValidFrames frames store.fiberIndex ∧
    broker.Begins frames ∧ 0 < store.engine.lastDataSeq ∧
      store.engine.lastDataSeq ≤ frames.length + 1

/-- What holds of the shared broker at any time. -/
structure Followed (shared : SharedBroker Client τ) : Prop where
  credited : shared.Credited
  numbered : ∀ {ticket number : Nat} {client : Client},
    shared.senders[ticket]? = some (client, number) → number < (shared.begun client).length
  historic : shared.broker.Historic

variable {shared before after : SharedBroker Client τ} {client : Client} {number : Nat}

omit [Digests] in
/-- A call that has sent once has done so for as long as nothing is sent in its name. -/
theorem SentOnce.kept (silent : ∀ ticket : Nat, after.senders[ticket]? = some (client, number) →
    before.senders[ticket]? = some (client, number)) (once : SentOnce client number before) :
    SentOnce client number after :=
  fun ticket other sent also => once ticket other (silent ticket sent) (silent other also)

omit [Digests] in
/-- A publish that was refused stays refused. -/
theorem Broker.Extends.refused {first second : Broker} (extension : first.Extends second)
    {ticket : Nat} (refused : first.fate ticket = some .refused) :
    second.fate ticket = some .refused := by
  obtain ⟨publish, sent, done⟩ := Option.map_eq_some_iff.mp refused
  obtain ⟨fate, kept, settled⟩ := extension.publishes sent
  rw [Broker.fate, kept, settled (by rw [done]; simp)]
  exact congrArg some done

/-- What an outcome says stays true while its call sends nothing more. -/
theorem Accounts.kept (grows : SharedBroker.Grows before after)
    (silent : ∀ ticket : Nat, after.senders[ticket]? = some (client, number) →
      before.senders[ticket]? = some (client, number))
    {write : WriteCall} {outcome : ClientOutcome τ}
    (accounts : Accounts client number write before outcome) :
    Accounts client number write after outcome := by
  cases outcome with
  | error failure =>
      intro ticket sender
      exact grows.broker.refused (accounts ticket (silent ticket sender))
  | ok reply =>
      cases reply with
      | opened => exact SentOnce.kept silent accounts
      | recorded => exact SentOnce.kept silent accounts
      | session reply =>
          cases reply with
          | verdict verdict =>
              cases verdict with
              | undetermined carriedEpoch => exact SentOnce.kept silent accounts
              | landed receipt =>
                  obtain ⟨once, place, payload, envelope, count, wrote, stands, rest⟩ := accounts
                  exact ⟨SentOnce.kept silent once, place, payload, envelope, count,
                    wrote.grows grows, grows.broker.message stands, rest⟩
          | done => exact SentOnce.kept silent accounts
          | handle handle => exact SentOnce.kept silent accounts
          | latest latest => exact SentOnce.kept silent accounts
          | read reply => exact SentOnce.kept silent accounts

/-- Outcomes stay accounted for while the others act. -/
theorem AccountedFor.kept (rely : SharedBroker.Rely client before after)
    {outcomes : List (ClientOutcome τ)} (accounted : AccountedFor client outcomes before) :
    AccountedFor client outcomes after := by
  intro number write outcome called ended
  rw [rely.own] at called
  exact (accounted number write outcome called ended).kept rely.toGrows fun _ => rely.sent

/-- What a session knows stays true as the event data grows. -/
theorem Current.kept {store : Store NatsEngine} (extension : before.broker.Extends after.broker)
    (current : Current store before.broker) : Current store after.broker := by
  rcases current with uncertain | ⟨frames, valid, begins, positive, known⟩
  · exact .inl uncertain
  · exact .inr ⟨frames, valid, begins.extends extension, positive, known⟩

section Refreshed

variable {store : Store NatsEngine}

/-- An engine and an index that know as much as those of a session. -/
theorem Current.of_same {after : Store NatsEngine} {broker : Broker}
    (uncertain : after.engine.uncertain = store.engine.uncertain)
    (last : after.engine.lastDataSeq = store.engine.lastDataSeq)
    (index : after.fiberIndex = store.fiberIndex) (current : Current store broker) :
    Current after broker := by
  unfold Current
  rw [uncertain, last, index]
  exact current

/-- A break that the session retains does not touch what it knows of the event data. -/
theorem Current.retainBreak {after : Store NatsEngine} {broker : Broker}
    (failure : OperationFailure)
    (current : Current after broker) : Current (after.retainBreak failure) broker := by
  unfold Store.retainBreak
  split_ifs
  · exact current
  · exact current

/-- A session that has read a history which is not behind the end that it knows may take it
for its own. -/
theorem Current.exists_bound {broker : Broker} (current : Current store broker) :
    ∃ bound ≤ (broker.messages .dataStream).length, ∀ (after : Store NatsEngine) (later : Broker)
      (frames : List Bytes), ValidFrames frames after.fiberIndex → later.Begins frames →
      bound ≤ frames.length + 1 → after.engine.uncertain = store.engine.uncertain →
      after.engine.lastDataSeq = store.engine.lastDataSeq → Current after later := by
  rcases current with uncertain | ⟨frames, valid, begins, positive, known⟩
  · refine ⟨0, Nat.zero_le _, ?_⟩
    rintro after later frames - - - same -
    exact .inl (same.trans uncertain)
  · refine ⟨store.engine.lastDataSeq, known.trans begins.length, ?_⟩
    rintro after later frames valid begins longer - last
    rw [← last] at positive longer
    exact .inr ⟨frames, valid, begins, positive, longer⟩

/-- A recovery that fails refreshes nothing. -/
theorem Current.concludeIteration_error {broker : Broker} (current : Current store broker)
    (failure : OperationFailure) (captured : Store.ForEachCapture τ) :
    Current (Store.concludeIteration (.error failure) captured store).2 broker := by
  obtain ⟨index, rolling, broken, stopped, caller⟩ := captured
  cases stopped with
  | some refusal => exact current
  | none =>
      cases broken with
      | some refusal => exact current
      | none =>
          dsimp only [Store.concludeIteration]
          split_ifs
          · exact current
          · exact current

/-- A recovery that runs to its end has indexed what it recovered. -/
theorem concludeIteration_ok {visit : EventEnvelopeRef → τ → Except OperationFailure Unit × τ}
    {caller : τ} {frames : List Bytes} {count : Nat} {captured : Store.ForEachCapture τ}
    (delivered : deliverFrames (Store.forEachFrame visit) 0 frames
      ⟨.new, .new, none, none, caller⟩ =
      (.ok count, captured)) (after : Store NatsEngine) :
    (Store.concludeIteration (.ok count) captured after).2.engine = after.engine ∧
      SessionIndex.buildFromFrames frames =
        .ok (Store.concludeIteration (.ok count) captured after).2.fiberIndex := by
  obtain ⟨accepted, rest, envelopes, index, rfl, accepts, stops, outcome, state, delivery, -,
    ending⟩ := Store.deliverFrames_forEachFrame visit caller frames
  rw [delivered] at delivery
  cases delivery
  cases visited : (visitAll visit envelopes caller).1 with
  | error failure =>
      rw [visited] at ending
      cases ending.1
  | ok =>
      rw [visited] at ending
      obtain ⟨quiet, ⟨rfl, -, whole, indexed, -⟩ | ⟨-, failure, ⟨⟩, -⟩⟩ := ending
      unfold Store.concludeIteration
      simp only [quiet, whole, indexed]
      rw [List.append_nil]
      exact ⟨trivial, accepts.processFrames⟩

end Refreshed

/-- The broker handling a publish keeps to the history. -/
theorem Followed.handled (followed : Followed before) (moved : before.Handles after) :
    Followed after := by
  have credited := followed.credited.handled moved
  obtain ⟨broker, handled, rfl⟩ := moved
  exact ⟨credited, followed.numbered, followed.historic.handled handled⟩

/-- A call that is begun keeps to the history. -/
theorem Followed.entered [DecidableEq Client] (followed : Followed shared) (call : ClientCall τ) :
    Followed (shared.entered client call) where
  credited := ⟨followed.credited.senders, followed.credited.logged⟩
  numbered found := by
    have grown : SharedBroker.Grows shared (shared.entered client call) :=
      SharedBroker.grows_entered call
    exact (followed.numbered found).trans_le (grown.begun _).length_le
  historic := followed.historic

/-- What a client with a call under way does, as long as it publishes orderly. -/
theorem Followed.touched (followed : Followed shared) (some_call : shared.begun client ≠ [])
    {op : NatsOp} {answer : op.Res} {broker : Broker}
    (performs : op.Performs shared.broker answer broker)
    (orderly : ∀ name expectedLast payload, op = .publish name expectedLast payload →
      Broker.Orderly shared.broker ⟨name, expectedLast, payload, .pending⟩) :
    Followed (shared.touched client broker) where
  credited := followed.credited.touched (Broker.extends_performed performs)
    (followed.credited.logged.performed performs) client
  numbered {ticket number author} found := by
    rcases SharedBroker.sender_touched found with earlier | ⟨-, rfl, rfl⟩
    · exact followed.numbered earlier
    · have positive := List.length_pos_iff.mpr some_call
      change (shared.begun author).length - 1 < (shared.begun author).length
      omega
  historic := followed.historic.performed performs orderly

end Accounts

namespace Continuing

section Discipline

variable [Digests] {Client τ : Type}

/-- What holds of a client between its calls. -/
def Holds (client : Client) (state : ClientState τ) (shared : SharedBroker Client τ) : Prop :=
  match state with
  | .waiting => shared.begun client = []
  | .live store outcomes => (shared.begun client).length = outcomes.length ∧
      AccountedFor client outcomes shared ∧ Current store shared.broker
  | .gone outcomes => outcomes.length ≤ (shared.begun client).length ∧
      AccountedFor client outcomes shared

/-- What holds of a client at any time of a call: it is the last that it has begun, and those
before it are accounted for. -/
def During (client : Client) (call : ClientCall τ) (state : ClientState τ)
    (shared : SharedBroker Client τ) : Prop :=
  (shared.begun client).length = state.outcomes.length + 1 ∧
    (shared.begun client)[state.outcomes.length]? = some call ∧
      AccountedFor client state.outcomes shared

/-- What holds of a client at the end of a call. -/
structure Ends (client : Client) (call : ClientCall τ) (state final : ClientState τ)
    (shared : SharedBroker Client τ) : Prop where
  accounts : ∃ outcome, final.outcomes = state.outcomes ++ [outcome] ∧ ∀ write,
    call = .session (.write write) → Accounts client state.outcomes.length write shared outcome
  current : ∀ store outcomes, final = .live store outcomes → Current store shared.broker

variable (Client τ) in
/-- What clients of one artefact promise each other. -/
def discipline : Discipline (SharedBroker Client τ) Client (ClientCall τ) (ClientState τ) :=
  brokerDiscipline Followed Holds During Ends

variable {before after : SharedBroker Client τ} {client : Client}

/-- What holds of a client between its calls is not disturbed by the others. -/
theorem Holds.kept {state : ClientState τ} (rely : SharedBroker.Rely client before after)
    (holds : Holds client state before) : Holds client state after := by
  cases state with
  | waiting => exact rely.own.trans holds
  | gone outcomes =>
      obtain ⟨counted, accounted⟩ := holds
      exact ⟨rely.own.symm ▸ counted, accounted.kept rely⟩
  | live store outcomes =>
      obtain ⟨counted, accounted, current⟩ := holds
      exact ⟨(congrArg List.length rely.own).trans counted, accounted.kept rely,
        current.kept rely.broker⟩

/-- What holds of a client in a call is not disturbed by the others. -/
theorem During.kept {call : ClientCall τ} {state : ClientState τ}
    (rely : SharedBroker.Rely client before after) (during : During client call state before) :
    During client call state after := by
  obtain ⟨counted, last, accounted⟩ := during
  unfold During
  rw [rely.own]
  exact ⟨counted, last, accounted.kept rely⟩

/-- A client in a call has begun one. -/
theorem During.some_call {call : ClientCall τ} {state : ClientState τ}
    (during : During client call state before) : before.begun client ≠ [] := by
  intro none
  have counted := during.1
  rw [none] at counted
  cases counted

/-- What holds at the end of a call is not disturbed by the others. -/
theorem Ends.kept {call : ClientCall τ} {state final : ClientState τ}
    (rely : SharedBroker.Rely client before after) (ends : Ends client call state final before) :
    Ends client call state final after where
  accounts := by
    obtain ⟨outcome, grown, accounts⟩ := ends.accounts
    refine ⟨outcome, grown, ?_⟩
    rintro write is
    exact (accounts write is).kept rely.toGrows fun _ => rely.sent
  current store outcomes is := (ends.current store outcomes is).kept rely.broker

/-- A call that has ended is accounted for like those before it. -/
theorem During.ended {call : ClientCall τ} {state final : ClientState τ}
    (during : During client call state before) (ends : Ends client call state final before) :
    Holds client final before := by
  obtain ⟨counted, last, accounted⟩ := during
  obtain ⟨outcome, grown, accounts⟩ := ends.accounts
  have accounted : AccountedFor client final.outcomes before := by
    intro number write known called ended
    rw [grown, List.getElem?_append] at ended
    split_ifs at ended with earlier
    · exact accounted number write known called ended
    · obtain ⟨rfl, rfl⟩ : number = state.outcomes.length ∧ outcome = known := by
        have inside := List.getElem?_eq_some_iff.mp ended
        obtain ⟨one, is⟩ := inside
        have here : number - state.outcomes.length = 0 := by simpa using one
        exact ⟨by omega, by simpa [here] using is⟩
      rw [last] at called
      exact accounts write (Option.some.inj called)
  cases final with
  | waiting => simp [ClientState.outcomes] at grown
  | gone outcomes =>
      refine ⟨?_, accounted⟩
      change outcomes = _ at grown
      rw [counted, grown, List.length_append, List.length_singleton]
  | live store outcomes =>
      refine ⟨?_, accounted, ends.current store outcomes rfl⟩
      change outcomes = _ at grown
      rw [counted, grown, List.length_append, List.length_singleton]

/-- A client begins its next call. -/
theorem Holds.entered [DecidableEq Client] {state : ClientState τ} (call : ClientCall τ)
    (counted : (before.begun client).length = state.outcomes.length)
    (accounted : AccountedFor client state.outcomes before) :
    During client call state (before.entered client call) := by
  have begun : (before.entered client call).begun client = before.begun client ++ [call] :=
    Function.update_self ..
  refine ⟨?_, ?_, ?_⟩
  · rw [begun, List.length_append, counted, List.length_singleton]
  · rw [begun, ← counted, List.getElem?_concat_length]
  · intro number write outcome called ended
    have inside := (List.getElem?_eq_some_iff.mp ended).1
    rw [begun, List.getElem?_append_left (counted ▸ inside)] at called
    exact (accounted number write outcome called ended).kept (SharedBroker.grows_entered call)
      fun _ => id

/-- What a call sends changes nothing for the calls before it. -/
theorem During.touched {call : ClientCall τ} {state : ClientState τ} {broker : Broker}
    (during : During client call state before) (extension : before.broker.Extends broker) :
    During client call state (before.touched client broker) := by
  obtain ⟨counted, last, accounted⟩ := during
  refine ⟨counted, last, ?_⟩
  intro number write outcome called ended
  have inside := (List.getElem?_eq_some_iff.mp ended).1
  refine (accounted number write outcome called ended).kept
    (SharedBroker.grows_touched extension) ?_
  intro ticket found
  rcases SharedBroker.sender_touched found with earlier | ⟨-, -, same⟩
  · exact earlier
  · omega

end Discipline

section Rules

variable [Digests] {Client τ : Type} [DecidableEq Client] {client : Client} {call : ClientCall τ}
  {state : ClientState τ} {world : SharedBroker Client τ} {σ : Type} {own : σ}

/-- The world as a client finds it during a call. -/
abbrev setting (client : Client) (call : ClientCall τ) (state : ClientState τ) :
    Setting natsOperations (SharedBroker Client τ) :=
  (discipline Client τ).setting (streamClients Client fun _ => true) client call state

/-- A client that publishes orderly keeps its promise. -/
theorem wp_orderly {op : NatsOp} {post : op.Res → SharedBroker Client τ → Prop}
    (orderly : ∀ moved : SharedBroker Client τ, SharedBroker.Grows world moved →
      ∀ name expectedLast payload, op = .publish name expectedLast payload →
        Broker.Orderly moved.broker ⟨name, expectedLast, payload, .pending⟩)
    (performed : ∀ (moved : SharedBroker Client τ) answer broker,
      (discipline Client τ).Sees client world moved →
      During client call state moved → op.Performs moved.broker answer broker →
      Followed (moved.touched client broker) → post answer (moved.touched client broker)) :
    op.send.wp (setting client call state) post world := by
  refine wp_request ?_
  intro moved answer broker sees during performs
  have followed := Followed.touched sees.invariant (During.some_call during) performs
    (orderly moved sees.grows)
  exact ⟨followed, During.touched during (Broker.extends_performed performs),
    performed moved answer broker sees during performs followed⟩

section Openings

/-- What a call that is not a session's publishes: any records, and the header of the event
data. -/
def Opens : NatsOp → Prop
  | .publish .dataStream expectedLast payload =>
      expectedLast = some 0 ∧ payload = ContainerHeader.new.toBytes
  | _ => True

omit [Digests] in
/-- A question publishes nothing, so an opening may ask it. -/
theorem opens_quiet (op : NatsOp) (quiet : op.IsQuiet) : Opens op := by
  cases op with
  | publish name expectedLast payload => exact quiet.elim
  | _ => trivial

/-- So it keeps its promise. -/
theorem wp_opens {α : Type} {program : Program natsOperations α} (only : program.Only Opens) :
    program.wp (setting client call state) (fun _ _ => True) world := by
  refine Discipline.wp_of_only (fun _ _ => trivial) ?_ only trivial
  rintro op before answer _ opens followed during - ⟨broker, performs, rfl⟩
  have extension := Broker.extends_performed performs
  refine ⟨⟨Followed.touched followed (During.some_call during) performs ?_,
    SharedBroker.grows_touched extension,
    fun other apart => SharedBroker.rely_touched extension apart⟩,
    During.touched during extension, trivial⟩
  rintro (_ | _) expectedLast payload rfl
  · exact .record
  · obtain ⟨rfl, rfl⟩ := opens
    exact .header

/-- The steps of an opening before it recovers the event data. -/
theorem wp_then {α β : Type} {first : Action natsOperations OperationFailure σ α}
    {next : α → Action natsOperations OperationFailure σ β}
    {ends : β → SharedBroker Client τ → Prop}
    (only : first.Only Opens)
    (rest : ∀ value own world, (next value).wp (setting client call state)
      (fun outcome _ after => ∀ result, outcome = .ok result → ends result after) own world) :
    (first >>= next).wp (setting client call state)
      (fun outcome _ after => ∀ result, outcome = .ok result → ends result after) own world := by
  rw [Action.wp_bind]
  refine Program.wp_mono (wp_opens (only own)) ?_
  rintro ⟨failure | value, after⟩ later -
  · rintro _ ⟨⟩
  · exact rest value after later

/-- A session that has recovered the event data knows it. -/
theorem wp_openWriter (engine : NatsEngine) :
    (Action.within engine Store.openWriter).wp (setting client call state)
      (fun outcome (_ : σ) after => ∀ store : Store NatsEngine, outcome = .ok store →
        Current store after.broker) own world := by
  rw [Action.wp_within]
  refine Store.wp_openWriter (Action.wp_mono (wp_recoverFrames (fun inv => inv.historic)
    (Nat.zero_le _) 64 Store.recoverFrame) ?_)
  rintro (failure | count) ⟨after, rolling, index⟩ later recovered
  · rintro _ ⟨⟩
  · obtain ⟨frames, known, valid, begins, -, ended, delivered⟩ := recovered
    rintro _ ⟨⟩
    obtain ⟨-, processed, -, -⟩ := Store.deliverFrames_recoverFrame_ok_iff.mp delivered
    have same : known = index := Except.ok.inj (valid.built.symm.trans processed)
    subst same
    have last : after.lastDataSeq = frames.length + 1 := congrArg NatsEngine.lastDataSeq ended
    refine .inr ⟨frames, valid, begins, ?_, ?_⟩
    · exact last.symm ▸ Nat.succ_pos _
    · exact last.le

/-- What holds of a session that an opening ends in. -/
def Opened (outcome : Except OperationFailure (Store NatsEngine)) (_ : σ)
    (shared : SharedBroker Client τ) : Prop :=
  ∀ store, outcome = .ok store → Current store shared.broker

omit [Digests] in
/-- A seed that an opening may publish is all that its step publishes. -/
theorem publishSeed_opens (adapter : NatsStorageAdapter) (seed : SeedPublish)
    (expectedLast : Nat) (payload : Bytes)
    (opens : Opens (.publish seed.stream (some expectedLast) payload)) :
    (adapter.publishSeed seed expectedLast payload : Action natsOperations _ σ _).Only Opens :=
  NatsStorageAdapter.publishSeed_only opens_quiet adapter seed opens

/-- A creation ends in a session that knows the event data. -/
theorem wp_createWithLimit (adapter : NatsStorageAdapter) (claim : OwnershipClaimRecord)
    (descriptor : AdmittedDescriptor) (maxWireLen : Nat) :
    (adapter.createWithLimit claim descriptor maxWireLen).wp (setting client call state) Opened own
      world := by
  refine wp_then (NatsStorageAdapter.tryPresence_only opens_quiet adapter)
    fun presence own world => ?_
  refine wp_then (Action.only_ofExcept _) fun _ own world => ?_
  refine wp_then (Action.only_ofExcept _) fun _ own world => ?_
  refine wp_then (only_askOr (NatsOp.only_send trivial)) fun _ own world => ?_
  refine wp_then (publishSeed_opens adapter _ 0 _ trivial) fun _ own world => ?_
  refine wp_then (Action.only_ofExcept _) fun claimFrame own world => ?_
  refine wp_then (publishSeed_opens adapter _ 1 _ trivial) fun _ own world => ?_
  refine wp_then (Action.only_ofExcept _) fun descFrame own world => ?_
  refine wp_then (publishSeed_opens adapter _ 2 _ trivial) fun _ own world => ?_
  refine wp_then (only_askOr (NatsOp.only_send trivial)) fun _ own world => ?_
  refine wp_then (publishSeed_opens adapter _ 0 _ ⟨rfl, rfl⟩) fun ack own world => ?_
  exact wp_openWriter _

/-- Asking for the descriptor publishes nothing. -/
theorem requireDescriptor_opens (records : MetaRecords) :
    (NatsStorageAdapter.requireDescriptor records : Action natsOperations _ σ _).Only Opens := by
  refine Action.only_bind (Action.only_require _ _) fun _ => ?_
  exact Action.only_bind (Action.only_ofExcept _) fun _ => Action.only_pure _

/-- A completed creation ends in a session that knows the event data. -/
theorem wp_completeCreation (adapter : NatsStorageAdapter) (claim : OwnershipClaimRecord) :
    (adapter.completeCreation claim).wp (setting client call state) Opened own world := by
  refine wp_then (NatsStorageAdapter.tryPresence_only opens_quiet adapter)
    fun presence own world => ?_
  cases presence with
  | none => rintro _ ⟨⟩
  | eventDataOnly => rintro _ ⟨⟩
  | both => rintro _ ⟨⟩
  | ownershipRecordOnly =>
      refine wp_then (NatsStorageAdapter.resolveOpenSubjects_only opens_quiet adapter _)
        fun _ own world => ?_
      refine wp_then (readMetaStream_only opens_quiet _) fun records own world => ?_
      refine wp_then (requireDescriptor_opens records) fun _ own world => ?_
      refine wp_then (Action.only_require _ _) fun durableClaim own world => ?_
      refine wp_then (Action.only_refuseIf _ _) fun _ own world => ?_
      refine wp_then (only_askOr (NatsOp.only_send trivial)) fun _ own world => ?_
      refine wp_then (publishSeed_opens adapter _ 0 _ ⟨rfl, rfl⟩) fun ack own world => ?_
      exact wp_openWriter _

/-- An opening ends in a session that knows the event data. -/
theorem wp_openWrite (adapter : NatsStorageAdapter) (carriedEpoch : UInt64) :
    (adapter.openWrite carriedEpoch).wp (setting client call state) Opened own world := by
  refine wp_then (NatsStorageAdapter.tryPresence_only opens_quiet adapter)
    fun presence own world => ?_
  cases presence with
  | none => rintro _ ⟨⟩
  | eventDataOnly => rintro _ ⟨⟩
  | ownershipRecordOnly =>
      refine wp_then (readMetaStream_only opens_quiet _) fun records own world => ?_
      refine wp_then (Action.only_refuseIf _ _) fun _ own world => ?_
      refine wp_then (Action.only_require _ _) fun claim own world => ?_
      refine wp_then (Action.only_refuseIf _ _) fun _ own world => ?_
      exact wp_completeCreation adapter claim
  | both =>
      refine wp_then (NatsStorageAdapter.resolveOpenSubjects_only opens_quiet adapter _)
        fun _ own world => ?_
      refine wp_then (readMetaStream_only opens_quiet _) fun records own world => ?_
      refine wp_then (NatsStorageAdapter.admitRecords_only records carriedEpoch)
        fun _ own world => ?_
      refine wp_then (dataExtent_only opens_quiet _) fun info own world => ?_
      exact wp_openWriter _

/-- Every opening call ends in a session that knows the event data, or in none. -/
theorem wp_opening (opening : StreamOpening) :
    opening.perform.wp (setting client call state) Opened () world := by
  cases opening with
  | createWithLimit adapter claim descriptor maxWireLen =>
      exact wp_createWithLimit adapter claim descriptor maxWireLen
  | completeCreation adapter claim => exact wp_completeCreation adapter claim
  | openWrite adapter carriedEpoch => exact wp_openWrite adapter carriedEpoch

/-- The append of a record to the ownership record leaves the event data alone. -/
theorem recordOwnershipRecord_opens (adapter : NatsStorageAdapter) (record : OwnershipRecord) :
    (adapter.recordOwnershipRecord record : Action natsOperations _ σ _).Only Opens := by
  refine Action.only_bind (Action.only_ofExcept _) fun frame => ?_
  refine Action.only_bind (only_askOr (NatsOp.only_send trivial)) fun ticket => ?_
  refine Action.only_bind (only_askOr (NatsOp.only_send trivial)) fun ack => ?_
  exact Action.only_refuseIf _ _

end Openings

section Appends

/-- A client has sent nothing in a call. -/
def Unsent (client : Client) (number : Nat) (shared : SharedBroker Client τ) : Prop :=
  ∀ ticket : Nat, shared.senders[ticket]? ≠ some (client, number)

/-- A client has sent just this publish in a call. -/
structure SentOnly (client : Client) (number ticket : Nat) (publish : Publish)
    (shared : SharedBroker Client τ) : Prop where
  sender : shared.senders[ticket]? = some (client, number)
  sent : ∃ fate, shared.broker.publishes[ticket]? = some { publish with fate }
  only : ∀ other : Nat, shared.senders[other]? = some (client, number) → other = ticket

variable {before after : SharedBroker Client τ} {number ticket : Nat} {publish : Publish}

omit [Digests] [DecidableEq Client] in
/-- A call that has sent nothing has sent nothing when the others have acted. -/
theorem Unsent.kept (rely : SharedBroker.Rely client before after)
    (unsent : Unsent client number before) : Unsent client number after :=
  fun ticket sent => unsent ticket (rely.sent sent)

omit [Digests] [DecidableEq Client] in
/-- The one publish of a call stays its only one while the others act. -/
theorem SentOnly.kept (rely : SharedBroker.Rely client before after)
    (only : SentOnly client number ticket publish before) :
    SentOnly client number ticket publish after where
  sender := rely.sender only.sender
  sent := by
    obtain ⟨fate, sent⟩ := only.sent
    obtain ⟨later, kept, -⟩ := rely.broker.publishes sent
    exact ⟨later, kept⟩
  only other sent := only.only other (rely.sent sent)

omit [Digests] [DecidableEq Client] in
/-- A call with one publish sent at most one. -/
theorem SentOnly.once (only : SentOnly client number ticket publish before) :
    SentOnce client number before :=
  fun _ _ sent other => (only.only _ sent).trans (only.only _ other).symm

omit [Digests] [DecidableEq Client] in
/-- A call without a publish sent at most one. -/
theorem Unsent.once (unsent : Unsent client number before) : SentOnce client number before :=
  fun ticket _ sent => (unsent ticket sent).elim

omit [Digests] [DecidableEq Client] in
/-- The first publish of a call. -/
theorem Unsent.sends (unsent : Unsent client number before) (credited : before.Credited)
    (current : (before.begun client).length = number + 1) (name : StreamName)
    (expectedLast : Option Nat) (payload : Bytes) :
    SentOnly client number before.broker.publishes.length ⟨name, expectedLast, payload, .pending⟩
      (before.touched client (before.broker.sent name expectedLast payload)) where
  sender := by
    rw [SharedBroker.senders_sent, ← credited.senders, current]
    exact List.getElem?_concat_length
  sent := ⟨.pending, List.getElem?_concat_length⟩
  only other sent := by
    rw [SharedBroker.senders_sent] at sent
    rw [← credited.senders]
    rcases Nat.lt_trichotomy other before.senders.length with earlier | same | beyond
    · rw [List.getElem?_append_left earlier] at sent
      exact (unsent other sent).elim
    · exact same
    · rw [List.getElem?_eq_none (by simp; omega)] at sent
      cases sent

/-- No publish of a call has landed, and none will. -/
def Refused (client : Client) (number : Nat) (shared : SharedBroker Client τ) : Prop :=
  ∀ ticket : Nat, shared.senders[ticket]? = some (client, number) →
    shared.broker.fate ticket = some .refused

omit [Digests] [DecidableEq Client] in
/-- A call that has sent nothing has nothing that could land. -/
theorem Unsent.refused (unsent : Unsent client number before) : Refused client number before :=
  fun ticket sent => (unsent ticket sent).elim

/-- What became of the publish of an event. -/
def Published (client : Client) (number : Nat) (frames : List Bytes) (payload : Bytes)
    (shared : SharedBroker Client τ) :
    Except OperationFailure (WriteLandingVerdict PubAck × Option String) → Prop
  | .error _ => shared.broker.Begins frames ∧ Refused client number shared
  | .ok (.undetermined _, _) => SentOnce client number shared
  | .ok (.landed ack, _) => shared.broker.Begins (frames ++ [payload]) ∧
      ack.sequence = frames.length + 2 ∧ frames.length + 1 < u64Max ∧
        SentOnce client number shared ∧
          shared.Wrote client number .dataStream (frames.length + 1)

variable {frames : List Bytes} {index : SessionIndex} {payload : Bytes} {envelope : EventEnvelope}

omit [DecidableEq Client] in
/-- The answer to a publish says where it landed. -/
theorem published_of_answer {moved later : SharedBroker Client τ} {last : Nat} {ack : PubAck}
    (followed : Followed moved) (begins : moved.broker.Begins frames)
    (known : last ≤ frames.length + 1)
    (grows : SharedBroker.Grows
      (moved.touched client (moved.broker.sent .dataStream (some last)
        (ContainerFrame.frameBytes payload))) later)
    (after : Followed later)
    (only : SentOnly client ((moved.begun client).length - 1) moved.broker.publishes.length
      ⟨.dataStream, some last, ContainerFrame.frameBytes payload, .pending⟩ later)
    (answered : later.broker.Answers moved.broker.publishes.length (.ok ack)) :
    later.broker.Begins (frames ++ [payload]) ∧ ack.sequence = frames.length + 2 ∧
      last = frames.length + 1 ∧
        later.Wrote client ((moved.begun client).length - 1) .dataStream (frames.length + 1) := by
  obtain ⟨wrote, sequence⟩ :=
    SharedBroker.wrote_of_answer followed.credited grows after.credited answered
  have extension := (Broker.extends_sent moved.broker .dataStream (some last)
    (ContainerFrame.frameBytes payload)).trans grows.broker
  obtain ⟨fate, sent⟩ := only.sent
  obtain ⟨records, known'⟩ := answered
  rw [Broker.fate, sent] at known'
  obtain rfl : fate = .landed ack.sequence records := Option.some.inj known'
  have behind := extension.lands_behind followed.credited.logged after.credited.logged
    (Nat.le_refl _) sent rfl
  have longer := begins.length
  obtain ⟨place, is, stands, -⟩ := after.credited.logged.landed sent rfl
  have exactly : last = frames.length + 1 := by
    change (moved.broker.messages .dataStream).length < ack.sequence at behind
    omega
  subst exactly
  obtain rfl : place = frames.length + 1 := by omega
  exact ⟨(begins.extends extension).concat stands, sequence, rfl, wrote⟩

/-- A session that is not fenced publishes what its index admits, and learns what became of
it. -/
theorem wp_publishBlock {engine : NatsEngine} (valid : ValidFrames frames index)
    (begins : world.broker.Begins frames) (positive : 0 < engine.lastDataSeq)
    (known : engine.lastDataSeq ≤ frames.length + 1) (room : engine.lastDataSeq < u64Max)
    (admitted : AdmittedFrame index payload envelope)
    (unsent : Unsent client state.outcomes.length world) :
    (engine.publishBlock (ContainerFrame.frameBytes payload)).wp (setting client call state)
      (fun outcome after => Published client state.outcomes.length frames payload after outcome)
      world := by
  unfold NatsEngine.publishBlock
  rw [Program.wp_bind]
  refine wp_orderly ?_ ?_
  · rintro moved grows name expectedLast block ⟨⟩
    exact .event (begins.extends grows.broker) valid admitted positive known room
  · intro moved answer broker sees during performs followed
    have still := begins.extends sees.grows.broker
    have nothing := unsent.kept sees.rely
    rcases performs with ⟨rfl, rfl⟩ | ⟨⟨failure, rfl⟩, rfl⟩
    · have only := nothing.sends sees.invariant.credited during.1 .dataStream
        (some engine.lastDataSeq) (ContainerFrame.frameBytes payload)
      dsimp only
      unfold NatsEngine.awaitLanding
      rw [Program.wp_bind]
      refine wp_question trivial ?_
      rintro later (_ | failure | ack) sees' - ⟨-, answers⟩
      · exact (only.kept sees'.rely).once
      · dsimp only
        split_ifs with coded
        · refine ⟨?_, ?_⟩
          · exact (still.extends (Broker.extends_sent ..)).extends sees'.grows.broker
          · intro ticket sender
            rw [(only.kept sees'.rely).only ticket sender]
            exact answers _ rfl coded
        · exact (only.kept sees'.rely).once
      · have current : (moved.begun client).length - 1 = state.outcomes.length := by
          rw [during.1]
          rfl
        have sentOnly := only.kept sees'.rely
        rw [← current] at sentOnly ⊢
        obtain ⟨continued, sequence, exactly, wrote⟩ := published_of_answer sees.invariant still
          known sees'.grows sees'.invariant sentOnly (answers _ rfl)
        exact ⟨continued, sequence, exactly ▸ room, sentOnly.once, wrote⟩
    · rw [SharedBroker.touched_same]
      dsimp only
      split_ifs
      · exact ⟨still, nothing.refused⟩
      · exact ⟨still, nothing.refused⟩

/-- What an append makes of its session, and what became of its event. -/
def Appended (client : Client) (number : Nat) (store : Store NatsEngine) (envelope : EventEnvelope)
    (payload : Bytes) (engine : NatsEngine) (shared : SharedBroker Client τ) :
    Except OperationFailure (WriteLandingVerdict Nat) → Prop
  | .error _ => Current { store with engine } shared.broker ∧ Refused client number shared
  | .ok (.landed _) =>
      Current (({ store with engine } : Store NatsEngine).committed envelope
        (ContainerFrame.frameBytes payload)) shared.broker ∧ SentOnce client number shared ∧
        ∃ place, shared.Wrote client number .dataStream place ∧
          (shared.broker.messages .dataStream)[place]? = some (ContainerFrame.frameBytes payload)
  | .ok (.undetermined _) => engine.uncertain = true ∧ SentOnce client number shared

/-- What a session makes of the outcome of its publish. -/
theorem wp_settlePublish {store : Store NatsEngine} {engine : NatsEngine}
    (valid : ValidFrames frames store.fiberIndex)
    (admitted : AdmittedFrame store.fiberIndex payload envelope) (positive : 0 < engine.lastDataSeq)
    (known : engine.lastDataSeq ≤ frames.length + 1)
    {outcome : Except OperationFailure (WriteLandingVerdict PubAck × Option String)}
    (published : Published client number frames payload world outcome) :
    (NatsEngine.settlePublish outcome).wp (setting client call state)
      (fun verdict after later => Appended client number store envelope payload after later verdict)
      engine world := by
  rcases outcome with failure | ⟨ack | carriedEpoch, diagnostic⟩
  · obtain ⟨begins, refused⟩ := published
    simp only [NatsEngine.settlePublish, Action.wp_bind, Action.wp_modify, Action.wp_throw]
    split_ifs
    · exact ⟨.inl rfl, refused⟩
    · exact ⟨.inr ⟨frames, valid, begins, positive, known⟩, refused⟩
  · obtain ⟨begins, sequence, inRange, once, wrote⟩ := published
    simp only [NatsEngine.settlePublish, Action.wp_bind, Action.wp_get]
    split_ifs
    · exact ⟨rfl, once⟩
    · refine ⟨.inr ⟨frames ++ [payload], valid.concat admitted inRange, begins, ?_, ?_⟩, once,
        frames.length + 1, wrote, ?_⟩
      · exact sequence.symm ▸ Nat.succ_pos _
      · rw [List.length_append, List.length_singleton]
        exact sequence.le
      · exact begins.message List.getElem?_concat_length
  · exact ⟨rfl, published⟩

/-- Landing an admitted frame sends at most one publish, and the verdict says what became of
it. -/
theorem wp_landBlock {store : Store NatsEngine} (certain : store.engine.uncertain = false)
    (current : Current store world.broker)
    (admitted : AdmittedFrame store.fiberIndex payload envelope)
    (unsent : Unsent client state.outcomes.length world) :
    (NatsEngine.landBlock (ContainerFrame.frameBytes payload)).wp (setting client call state)
      (fun verdict after later =>
        Appended client state.outcomes.length store envelope payload after later verdict)
      store.engine world := by
  simp only [NatsEngine.landBlock, Action.wp_bind, Action.wp_get]
  split_ifs with simulated
  · exact ⟨rfl, unsent.once⟩
  simp only [Action.wp_bind, Action.wp_refuseIf, Action.wp_lift]
  split_ifs with overflow
  · exact ⟨current, unsent.refused⟩
  rcases current with uncertain | ⟨frames, valid, begins, positive, known⟩
  · rw [certain] at uncertain
    cases uncertain
  have inRange := valid.inRange
  refine Program.wp_mono
    (wp_publishBlock valid begins positive known (by omega) admitted unsent) ?_
  intro outcome later published
  exact wp_settlePublish valid admitted positive known published

omit [DecidableEq Client] in
/-- A check that passes finds its session certain. -/
theorem yields_checkAuthority (engine : NatsEngine) :
    (NatsEngine.checkAuthority engine).Yields fun result =>
      result.2 = engine ∧ (result.1 = .ok () → engine.uncertain = false) := by
  refine Program.yields_iff_answered.mpr ?_
  rintro answers ⟨outcome, after⟩ answered
  refine ⟨(NatsEngine.checked_of_answered answered).1, ?_⟩
  rintro rfl
  by_contra certain
  have uncertain : engine.uncertain = true := Bool.eq_true_of_not_eq_false certain
  unfold NatsEngine.checkAuthority at answered
  rw [Action.bind_of_ok rfl, Action.bind_of_error (Action.refuseIf_of_holds _ _ uncertain)]
    at answered
  cases answered

/-- Questions leave a session where it is. -/
theorem wp_session_asking {store : Store NatsEngine} {α : Type} {program : Program natsOperations α}
    (only : program.Only NatsOp.IsQuiet) {good : α → Prop} (yields : program.Yields good)
    (unsent : Unsent client number world) (current : Current store world.broker) :
    program.wp (setting client call state)
      (fun value after => (Unsent client number after ∧ Current store after.broker) ∧ good value)
      world := by
  let Kept (shared : SharedBroker Client τ) : Prop :=
    Unsent client number shared ∧ Current store shared.broker
  have lasting : ∀ {before after : SharedBroker Client τ},
      (discipline Client τ).Sees client before after → Kept before → Kept after :=
    fun sees kept => ⟨kept.1.kept sees.rely, kept.2.kept sees.grows.broker⟩
  have start : Kept world := ⟨unsent, current⟩
  exact Program.wp_and_yields yields (wp_questions lasting only start)

/-- An append publishes its event only if its session is certain. -/
theorem wp_appendBlock {store : Store NatsEngine} (current : Current store world.broker)
    (admitted : AdmittedFrame store.fiberIndex payload envelope)
    (unsent : Unsent client state.outcomes.length world) :
    (NatsEngine.appendBlock (ContainerFrame.frameBytes payload)).wp (setting client call state)
      (fun verdict after later =>
        Appended client state.outcomes.length store envelope payload after later verdict)
      store.engine world := by
  simp only [NatsEngine.appendBlock, Action.wp_bind, Action.wp_attempt]
  refine Program.wp_mono (wp_session_asking
    (NatsEngine.checkAuthority_only (fun _ quiet => quiet) store.engine)
    (yields_checkAuthority store.engine) unsent current) ?_
  rintro ⟨failure | _, _⟩ later ⟨⟨unsent, current⟩, rfl, certain⟩
  · simp only [Action.wp_bind, Action.wp_modify, Action.wp_throw]
    split_ifs
    · exact ⟨.inl rfl, unsent.refused⟩
    · exact ⟨current, unsent.refused⟩
  · exact wp_landBlock (certain rfl) current admitted unsent

end Appends

section Reads

variable {store : Store NatsEngine} {number : Nat}

/-- What a call that does not write leaves of its session. -/
def Quietly (client : Client) (number : Nat) (after : Store NatsEngine)
    (shared : SharedBroker Client τ) : Prop :=
  Unsent client number shared ∧ Current after shared.broker

/-- The frames that a session reads are a history that the event data begins with. -/
theorem wp_readAllFrames (unsent : Unsent client number world)
    (current : Current store world.broker) :
    Store.readAllFrames.wp (setting client call state)
      (fun outcome after later => Quietly client number after later ∧ ∀ frames,
        outcome = .ok frames → ∃ index, ValidFrames frames index ∧
          Current { after with fiberIndex := index } later.broker) store world := by
  obtain ⟨bound, known, refresh⟩ := current.exists_bound
  have only : (NatsEngine.readAll store.engine).Only NatsOp.IsQuiet :=
    readDataFrames_only (fun _ quiet => quiet) store.engine.dataStreamName _
  have anything : (NatsEngine.readAll store.engine).Yields fun _ => True :=
    Program.yields_of_forall (fun _ => trivial) _
  have kept : NatsEngine.readAll.wp (setting client call state)
      (fun _ _ after => (Unsent client number after ∧ Current store after.broker) ∧ True)
      store.engine
      world := wp_session_asking only anything unsent current
  have read : NatsEngine.readAll.wp (setting client call state)
      (fun outcome after later =>
        after = { store.engine with readAllCount := store.engine.readAllCount + 1 } ∧
          ∀ payloads, outcome = .ok payloads → ∃ index, ValidFrames payloads index ∧
            later.broker.Begins payloads ∧ bound ≤ payloads.length + 1) store.engine world :=
    NatsEngine.wp_readAll (fun inv => inv.historic) known
  simp only [Store.readAllFrames, Action.wp_bind, Action.wp_attempt, Store.wp_onEngine]
  refine Program.wp_mono (Program.wp_and read kept) ?_
  rintro ⟨failure | frames, _⟩ later ⟨⟨rfl, answered⟩, ⟨unsent, current⟩, -⟩
  · simp only [Action.wp_bind, Action.wp_modify, Action.wp_throw]
    refine ⟨⟨unsent, Current.retainBreak failure (current.of_same rfl rfl rfl)⟩, ?_⟩
    rintro _ ⟨⟩
  · obtain ⟨index, valid, begins, longer⟩ := answered frames rfl
    simp only [Action.wp_bind, Action.wp_ofExcept, Store.rollingOf_fits .new valid.fits]
    refine ⟨⟨unsent, current.of_same rfl rfl rfl⟩, ?_⟩
    rintro _ ⟨⟩
    exact ⟨index, valid, refresh _ _ frames valid begins longer rfl rfl⟩

/-- Reading the envelopes sends nothing, and what the session knows stays true. -/
theorem wp_readAllEnvelopesBody (forMigration : Bool) (unsent : Unsent client number world)
    (current : Current store world.broker) :
    (Store.readAllEnvelopesBody forMigration).wp (setting client call state)
      (fun _ after later => Quietly client number after later) store world := by
  simp only [Store.readAllEnvelopesBody, Action.wp_bind, Action.wp_ofExcept]
  refine Action.wp_mono (wp_readAllFrames unsent current) ?_
  rintro (failure | frames) after later ⟨quietly, read⟩
  · exact quietly
  obtain ⟨index, valid, refreshed⟩ := read frames rfl
  dsimp only
  cases Store.refuseShortFrames frames with
  | error failure => exact quietly
  | ok =>
      rw [valid.built]
      dsimp only
      split_ifs
      · exact ⟨quietly.1, refreshed⟩
      · simp only [Action.wp_bind, Action.wp_ofExcept]
        cases Store.decodeFrames frames with
        | error failure => exact quietly
        | ok envelopes => exact ⟨quietly.1, refreshed⟩

/-- That holds as well of the reads that retain a break. -/
theorem wp_readAllEnvelopesInner (forMigration : Bool) (unsent : Unsent client number world)
    (current : Current store world.broker) :
    (Store.readAllEnvelopesInner forMigration).wp (setting client call state)
      (fun _ after later => Quietly client number after later) store world := by
  simp only [Store.readAllEnvelopesInner, Action.wp_bind, Action.wp_get]
  split
  · exact ⟨unsent, current⟩
  · simp only [Action.wp_bind, Action.wp_attempt]
    refine Action.wp_mono (wp_readAllEnvelopesBody forMigration unsent current) ?_
    rintro (failure | envelopes) after later ⟨unsent, current⟩
    · exact ⟨unsent, current.retainBreak failure⟩
    · exact ⟨unsent, current⟩

/-- An iteration that runs to its end takes over both the index and the end of what it has
recovered; any other takes over neither. -/
theorem wp_forEachEnvelope (visit : EventEnvelopeRef → τ → Except OperationFailure Unit × τ)
    (caller : τ) (unsent : Unsent client number world) (current : Current store world.broker) :
    (Store.forEachEnvelope visit caller).wp (setting client call state)
      (fun _ after later => Quietly client number after later) store world := by
  let captured : Store.ForEachCapture τ := ⟨.new, .new, none, none, caller⟩
  have kept : (NatsEngine.recoverFrames 64 (Store.forEachFrame visit) (store.engine, captured)).wp
      (setting client call state) (fun _ after =>
        (Unsent client number after ∧ Current store after.broker) ∧ True) world :=
    wp_session_asking (NatsEngine.recoverFrames_only (fun _ quiet => quiet) 64 _ _)
      (Program.yields_of_forall (fun _ => trivial) _) unsent current
  have recovers : (NatsEngine.recoverFrames 64 (Store.forEachFrame visit)).wp
      (setting client call state) _ (store.engine, captured) world :=
    wp_recoverFrames (fun inv => inv.historic) (Nat.zero_le _) 64 (Store.forEachFrame visit)
  have iterated : (Store.iterateEnvelopes visit caller).wp (setting client call state)
      (fun _ after later => Quietly client number after later) store world := by
    simp only [Store.iterateEnvelopes, Action.wp_bind, Action.wp_get, Action.wp_ofExcept]
    cases store.checkIteration with
    | error failure => exact ⟨unsent, current⟩
    | ok =>
        refine Store.wp_recoverOn (Program.wp_mono (Program.wp_and recovers kept) ?_)
        rintro ⟨failure | count, engine, after⟩ later ⟨recovered, ⟨unsent, current⟩, -⟩
        · cases recovered
          simp only [Action.wp_attempt, Action.wp_mutate, Action.wp_pure]
          exact ⟨unsent, current.concludeIteration_error failure after⟩
        · obtain ⟨frames, index, valid, begins, -, ended, delivered⟩ := recovered
          simp only [Action.wp_attempt, Action.wp_mutate, Action.wp_pure]
          obtain ⟨same, built⟩ := concludeIteration_ok delivered { store with engine }
          have known : index = _ := Except.ok.inj (valid.built.symm.trans built)
          have last : engine.lastDataSeq = frames.length + 1 :=
            congrArg NatsEngine.lastDataSeq ended
          refine ⟨unsent, .inr ⟨frames, known ▸ valid, begins, ?_, ?_⟩⟩
          · rw [same]
            exact last.symm ▸ Nat.succ_pos _
          · rw [same]
            exact last.le
  simp only [Store.forEachEnvelope, Action.wp_bind, Action.wp_ofExcept]
  refine Action.wp_mono iterated ?_
  rintro (failure | ⟨result, caller⟩) after later quietly
  · exact quietly
  · cases result with
    | error failure => exact quietly
    | ok => exact quietly

/-- No read puts its session behind the end that it knows. -/
theorem wp_read (read : ReadCall τ) (unsent : Unsent client number world)
    (current : Current store world.broker) :
    read.perform.wp (setting client call state)
      (fun _ after later => Quietly client number after later) store world := by
  cases read with
  | isRetiredSource =>
      refine (Action.wp_map _).mpr ?_
      simp only [Store.isRetiredSource, Action.wp_bind, Action.wp_get, Action.wp_lift,
        Action.wp_ofExcept]
      have only : (NatsEngine.isRetired store.engine).Only NatsOp.IsQuiet :=
        Program.only_bind (readMetaStream_only (fun _ quiet => quiet) _ ()) fun _ => trivial
      have anything : (NatsEngine.isRetired store.engine).Yields fun _ => True :=
        Program.yields_of_forall (fun _ => trivial) _
      refine Program.wp_mono (wp_session_asking only anything unsent current) ?_
      rintro outcome later ⟨kept, -⟩
      exact kept
  | readBlock index =>
      refine (Action.wp_map _).mpr ?_
      simp only [Store.readBlock, StorageEngine.readBlock, Store.wp_onEngine, Action.wp_bind,
        Action.wp_require]
      have only := readDataChunk_only (fun _ quiet => quiet) store.engine.dataStreamName index 1
        store.engine
      refine Program.wp_mono (wp_session_asking only
        (inert_readDataChunk store.engine.dataStreamName index 1 store.engine) unsent current) ?_
      rintro ⟨failure | chunk, _⟩ later ⟨kept, rfl, -⟩
      · exact kept
      · dsimp only
        split
        · exact kept
        · exact kept
  | readAllFrames =>
      refine (Action.wp_map _).mpr (Action.wp_mono (wp_readAllFrames unsent current) ?_)
      exact fun _ _ _ => And.left
  | readAllEnvelopes =>
      exact (Action.wp_map _).mpr (wp_readAllEnvelopesInner false unsent current)
  | readAllEnvelopesForMigration =>
      exact (Action.wp_map _).mpr (wp_readAllEnvelopesInner true unsent current)
  | forEachEnvelope visit caller =>
      exact (Action.wp_map _).mpr (wp_forEachEnvelope visit caller unsent current)

end Reads

section Sessions

variable {store : Store NatsEngine}

/-- The verdict of a write accounts for its message. -/
theorem wp_write (write : WriteCall) (unsent : Unsent client state.outcomes.length world)
    (current : Current store world.broker) :
    write.perform.wp (setting client call state)
      (fun outcome after later => Current after later.broker ∧
        Accounts client state.outcomes.length write later
          (outcome.map fun verdict => .session (.verdict verdict))) store world := by
  have start : Quietly client state.outcomes.length store world := ⟨unsent, current⟩
  refine write.wp_perform_writes start ?_ ?_ ?_
    (J := fun _ moved => Quietly client state.outcomes.length store moved)
  · rintro checks before _ ⟨unsent, current⟩
    have only : (StorageEngine.checkAuthority store.engine).Only NatsOp.IsQuiet :=
      Program.only_bind (NatsEngine.checkAuthority_only (fun _ quiet => quiet) store.engine)
        fun _ => trivial
    have anything : (StorageEngine.checkAuthority store.engine).Yields fun _ => True :=
      Program.yields_of_forall (fun _ => trivial) _
    refine Program.wp_mono (wp_session_asking only anything unsent current) ?_
    rintro (failure | _) after ⟨⟨unsent, current⟩, -⟩
    · exact ⟨current, unsent.refused⟩
    · exact ⟨unsent, current⟩
  · rintro checks before failure ⟨unsent, current⟩ _
    exact ⟨current, unsent.refused⟩
  · rintro before envelope payload ⟨unsent, current⟩ admitted writes
    refine Action.wp_mono (wp_appendBlock current admitted unsent) ?_
    rintro (failure | position | carriedEpoch) engine later appended
    · exact appended
    · obtain ⟨current, once, place, wrote, stands⟩ := appended
      exact ⟨current, once, place, payload, envelope, _, wrote, stands, admitted.decoded,
        writes.passes, rfl⟩
    · obtain ⟨uncertain, once⟩ := appended
      exact ⟨.inl uncertain, once⟩

omit [DecidableEq Client] in
/-- A flush that fails fences its session; one that succeeds changes nothing. -/
theorem yields_sync (engine : NatsEngine) :
    (NatsEngine.sync engine).Yields fun result =>
      result.2 = engine ∨ result.2.uncertain = true := by
  refine Program.yields_bind (yields_checkAuthority engine) ?_
  rintro ⟨failure | _, _⟩ ⟨rfl, -⟩
  · exact .inl rfl
  · rintro (failure | _)
    · exact .inr rfl
    · exact .inl rfl

/-- A session call leaves a session that knows the event data or is fenced, and a write is
accounted for. -/
theorem wp_session (session : SessionCall NatsControl τ)
    (unsent : Unsent client state.outcomes.length world) (current : Current store world.broker) :
    (session.perform NatsControl.perform).wp (setting client call state)
      (fun outcome after later => Current after later.broker ∧ ∀ write, session = .write write →
        Accounts client state.outcomes.length write later (outcome.map .session)) store world := by
  cases session with
  | write write =>
      refine (Action.wp_map _).mpr (Action.wp_mono (wp_write write unsent current) ?_)
      rintro (failure | verdict) after later ⟨current, accounts⟩
      · exact ⟨current, by rintro _ ⟨⟩; exact accounts⟩
      · exact ⟨current, by rintro _ ⟨⟩; exact accounts⟩
  | sync =>
      refine (Action.wp_map _).mpr ((Store.wp_onEngine _).mpr ?_)
      refine Program.wp_mono (wp_session_asking
        (NatsEngine.sync_only (fun _ quiet => quiet) store.engine) (yields_sync store.engine) unsent
        current) ?_
      rintro ⟨outcome, engine⟩ later ⟨⟨-, current⟩, same | uncertain⟩
      · cases same
        exact ⟨current, by rintro _ ⟨⟩⟩
      · exact ⟨.inl uncertain, by rintro _ ⟨⟩⟩
  | fiber fiberId =>
      simp only [SessionCall.perform, Action.wp_bind, Action.wp_get, Action.wp_ofExcept]
      cases store.fiber fiberId with
      | error failure => exact ⟨current, by rintro _ ⟨⟩⟩
      | ok handle => exact ⟨current, by rintro _ ⟨⟩⟩
  | getLatest fiberId =>
      simp only [SessionCall.perform, Action.wp_bind, Action.wp_get, Action.wp_ofExcept]
      cases store.getLatest fiberId with
      | error failure => exact ⟨current, by rintro _ ⟨⟩⟩
      | ok latest => exact ⟨current, by rintro _ ⟨⟩⟩
  | read read =>
      refine (Action.wp_map _).mpr (Action.wp_mono (wp_read read unsent current) ?_)
      rintro outcome after later ⟨-, current⟩
      exact ⟨current, by rintro _ ⟨⟩⟩
  | control command =>
      refine (Action.wp_map _).mpr ((Store.wp_onEngine _).mpr ?_)
      cases command with
      | publishTimeout timeout => exact ⟨current, by rintro _ ⟨⟩⟩
      | simulateIndeterminate simulate => exact ⟨current, by rintro _ ⟨⟩⟩

end Sessions

end Rules

section Obeys

variable [Digests] {Client τ : Type} [DecidableEq Client]

/-- Every step of a client keeps to the history. -/
theorem obeys :
    (streamClients Client fun _ : ClientCall τ => true).Obeys (discipline Client τ) where
  rely_refl _ _ := .refl _ _
  rely_trans earlier later := SharedBroker.Rely.trans earlier later
  grows_refl _ := .refl _
  grows_trans earlier later := SharedBroker.Grows.trans earlier later
  holds sees holds := Holds.kept sees.rely holds
  during sees during := During.kept sees.rely during
  ends sees ends := Ends.kept sees.rely ends
  start := by
    rintro client call state program world inv holds possible
    have moves : (discipline Client τ).Moves client world (world.entered client call) :=
      ⟨Followed.entered inv call, SharedBroker.grows_entered _,
        fun other apart => SharedBroker.rely_entered _ apart⟩
    replace possible : call.program state = some program := possible
    cases state with
    | gone outcomes => cases call <;> cases possible
    | waiting =>
        have during : During client call .waiting (world.entered client call) := by
          refine Holds.entered call ?_ ?_
          · exact congrArg List.length (holds : world.begun client = [])
          · rintro number write outcome - ⟨⟩
        cases call with
        | session session => cases possible
        | opening opening =>
            cases possible
            refine ⟨moves, during, ?_⟩
            rw [Program.wp_bind]
            refine Program.wp_mono (wp_opening opening) ?_
            rintro ⟨failure | store, _⟩ after opened
            · refine ⟨⟨.error failure, rfl, ?_⟩, ?_⟩
              · rintro write ⟨⟩
              · rintro store outcomes ⟨⟩
            · refine ⟨⟨.ok .opened, rfl, ?_⟩, ?_⟩
              · rintro write ⟨⟩
              · rintro store outcomes ⟨⟩
                exact opened store rfl
        | record adapter entry =>
            cases possible
            refine ⟨moves, during, ?_⟩
            rw [Program.wp_bind]
            refine Program.wp_mono (wp_opens (recordOwnershipRecord_opens adapter entry ())) ?_
            rintro ⟨outcome, _⟩ after -
            refine ⟨⟨outcome.map fun _ => .recorded, rfl, ?_⟩, ?_⟩
            · rintro write ⟨⟩
            · rintro store outcomes ⟨⟩
    | live store outcomes =>
        obtain ⟨counted, accounted, current⟩ := holds
        have unsent : Unsent client outcomes.length (world.entered client call) := by
          intro ticket sent
          have numbered := Followed.numbered inv sent
          omega
        cases call with
        | opening opening => cases possible
        | record adapter entry => cases possible
        | session session =>
            cases possible
            refine ⟨moves, Holds.entered _ counted accounted, ?_⟩
            rw [Program.wp_bind]
            refine Program.wp_mono (wp_session session unsent current) ?_
            rintro ⟨outcome, after⟩ later ⟨current, accounts⟩
            refine ⟨⟨outcome.map .session, rfl, ?_⟩, ?_⟩
            · rintro write ⟨⟩
              exact accounts write rfl
            · rintro store outcomes ⟨⟩
              exact current
  finish := by
    rintro client call state final world inv during ends
    exact ⟨⟨inv, .refl _, fun other _ => .refl other _⟩, During.ended during ends⟩
  die_idle := by
    rintro client state world inv holds
    refine ⟨⟨inv, .refl _, fun other _ => .refl other _⟩, ?_⟩
    cases state with
    | waiting =>
        refine ⟨Nat.zero_le _, ?_⟩
        rintro number write outcome - ⟨⟩
    | live store outcomes => exact ⟨holds.1.ge, holds.2.1⟩
    | gone outcomes => exact holds
  die_busy := by
    rintro client call state world inv ⟨counted, last, accounted⟩
    refine ⟨⟨inv, .refl _, fun other _ => .refl other _⟩, ?_, accounted⟩
    exact counted ▸ Nat.le_succ _
  others inv moved := ⟨Followed.handled inv moved, moved.grows, moved.rely⟩

omit [DecidableEq Client] in
variable (Client τ) in
/-- Before anybody has done anything. -/
theorem noStreams_followed : Followed (noStreams Client τ).world where
  credited := by
    refine ⟨rfl, ⟨?_, ?_, ?_⟩⟩
    · intro name place payload found
      cases found
    · intro ticket sequence records publish found
      cases found
    · intro ticket other sequence records more publish another found
      cases found
  numbered found := by cases found
  historic := by
    refine ⟨⟨?_, ?_, ?_⟩, ?_, .inl rfl⟩
    · intro name place payload found
      cases found
    · intro ticket sequence records publish found
      cases found
    · intro ticket other sequence records more publish another found
      cases found
    · intro ticket publish found
      cases found

variable (Client τ) in
/-- Before there are streams, everything keeps to the history. -/
theorem noStreams_sound :
    Sound (streamClients Client fun _ : ClientCall τ => true) (discipline Client τ)
      (noStreams Client τ) where
  invariant := noStreams_followed Client τ
  idle := by
    rintro client state ⟨⟩
    rfl
  busy := by
    rintro client call state rest ⟨⟩

/-- Every outcome is accounted for. -/
theorem accounted_of_sound {config : StreamConfiguration Client τ}
    (sound : Sound (streamClients Client fun _ : ClientCall τ => true) (discipline Client τ) config)
    (client : Client) : AccountedFor client (config.doing client).state.outcomes config.world := by
  cases doing : config.doing client with
  | busy call state rest => exact (sound.busy doing).1.2.2
  | idle state =>
      have holds : Holds client state config.world := sound.idle doing
      cases state with
      | waiting => rintro number write outcome - ⟨⟩
      | live store outcomes => exact holds.2.1
      | gone outcomes => exact holds.2

end Obeys

end Continuing

section History

variable [Digests] {Client τ : Type}

/-- The event data is one unbroken history, every message of it was written by exactly one
call, and every append that has returned accounts for its message. -/
structure OneHistory (config : StreamConfiguration Client τ) : Prop where
  history : config.world.broker.messages .dataStream = [] ∨ ∃ frames index,
    config.world.broker.messages .dataStream = Broker.framedMessages frames ∧
      SessionIndex.buildFromFrames frames = .ok index ∧ index.hasBrokenFibers = false
  written : ∀ place < (config.world.broker.messages .dataStream).length, ∃ client number,
    config.world.Wrote client number .dataStream place ∧ ∀ other another,
      config.world.Wrote other another .dataStream place → client = other ∧ number = another
  accounted : ∀ client, AccountedFor client (config.doing client).state.outcomes config.world

/-- In every run of any number of clients, whatever they call and whenever they die: the
event data is one unbroken history, and every append knows what became of its event. -/
theorem one_history [DecidableEq Client] {config : StreamConfiguration Client τ}
    (run : (streamClients Client fun _ => true).Reaches (noStreams Client τ) config) :
    OneHistory config := by
  obtain ⟨sound, -⟩ := (Continuing.noStreams_sound Client τ).reaches Continuing.obeys run
  have followed : Followed config.world := sound.invariant
  have credited := followed.credited
  refine ⟨?_, ?_, Continuing.accounted_of_sound sound⟩
  · rcases followed.historic.history with nothing | ⟨frames, index, valid, whole⟩
    · exact .inl nothing
    · exact .inr ⟨frames, index, whole, valid.built,
        SessionIndex.hasBrokenFibers_eq_false_iff.mpr valid.unbroken⟩
  · intro place inside
    obtain ⟨client, number, wrote⟩ := credited.wrote (List.getElem?_eq_getElem inside)
    exact ⟨client, number, wrote, fun other another also => wrote.unique credited also⟩

end History

section Example

attribute [local instance] standardDigests

/-- An owner creates the artefact and appends an event, and the broker takes its time. -/
theorem one_history_number : ∃ config : StreamConfiguration Nat Unit,
    (streamClients Nat fun _ => true).Reaches (noStreams Nat Unit) config ∧ OneHistory config ∧
      config.world.broker.messages .dataStream = Broker.framedMessages [genesisPayload] := by
  obtain ⟨before, sends, -, broker, -, -⟩ := exists_sent
  have pending : before.world.broker.publishes[4]? =
      some ⟨.dataStream, some 1, ContainerFrame.frameBytes genesisPayload, .pending⟩ := by
    rw [broker]
    simp [Broker.sent, createdNumber_publishes]
  have stored : before.world.broker.streams .dataStream = some [ContainerHeader.new.toBytes] := by
    rw [broker]
    exact createdNumber_events
  have takes : before.world.broker.Handles (before.world.broker.accepted 4
      ⟨.dataStream, some 1, ContainerFrame.frameBytes genesisPayload, .pending⟩
      [ContainerHeader.new.toBytes]) :=
    .accept pending rfl stored (by rintro last ⟨⟩; rfl)
  have run := sends.tail (.others ⟨_, takes, rfl⟩)
  refine ⟨_, run, one_history run, ?_⟩
  refine (Broker.messages_accepted stored .dataStream).trans ?_
  rw [Broker.messages, stored]
  rfl

end Example

end Pardosa
