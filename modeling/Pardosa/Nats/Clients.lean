import Pardosa.Foundation.Concurrent
import Pardosa.Nats.BrokerLog

/-!
# Clients of one broker

Any number of clients create, complete and open one artefact on JetStream, make the
calls of their writer sessions, and append ownership records. Nothing locks: between
any two operations of a call other clients act, and publishes that were sent long ago
are handled. A client makes one opening call, or appends one ownership record; who does
so several times counts as several clients.
-/

namespace Pardosa

open Foundation

/-- The calls that open a writer session on streams. -/
inductive StreamOpening where
  | createWithLimit (adapter : NatsStorageAdapter) (claim : OwnershipClaimRecord)
      (descriptor : AdmittedDescriptor) (maxWireLen : Nat)
  | completeCreation (adapter : NatsStorageAdapter) (claim : OwnershipClaimRecord)
  | openWrite (adapter : NatsStorageAdapter) (carriedEpoch : UInt64)

/-- The calls of a client. -/
inductive ClientCall (τ : Type) where
  | opening (call : StreamOpening)
  | session (call : SessionCall NatsControl τ)
  | record (adapter : NatsStorageAdapter) (record : OwnershipRecord)

/-- What a call of a client returns. -/
inductive ClientReply (τ : Type) where
  | opened
  | session (reply : SessionReply τ)
  | recorded

/-- The outcome of a call of a client. -/
abbrev ClientOutcome (τ : Type) := Except OperationFailure (ClientReply τ)

/-- A client before, during and after its session, with the outcomes of its calls. -/
inductive ClientState (τ : Type) where
  | waiting
  | live (store : Store NatsEngine) (outcomes : List (ClientOutcome τ))
  | gone (outcomes : List (ClientOutcome τ))

/-- The outcomes of the calls of a client. -/
def ClientState.outcomes {τ : Type} : ClientState τ → List (ClientOutcome τ)
  | .waiting => []
  | .live _ outcomes => outcomes
  | .gone outcomes => outcomes

/-- What is left of a client that died. -/
def ClientState.died {τ : Type} (state : ClientState τ) : ClientState τ := .gone state.outcomes

/-- The broker as clients share it. -/
structure SharedBroker (Client τ : Type) where
  broker : Broker
  /-- For the record: the calls that a client has begun. -/
  begun : Client → List (ClientCall τ)
  /-- For the record: whose call, and which of them, sent each publish. -/
  senders : List (Client × Nat)

section Pool

variable {Client τ : Type}

namespace SharedBroker

/-- The broker after a client has changed it: what was sent was sent by the last call
that the client has begun. -/
def touched (shared : SharedBroker Client τ) (client : Client) (broker : Broker) :
    SharedBroker Client τ :=
  { shared with
    broker
    senders := shared.senders ++ List.replicate
      (broker.publishes.length - shared.broker.publishes.length)
      (client, (shared.begun client).length - 1) }

/-- What an operation of a client may answer and do. -/
def Performs (client : Client) (op : NatsOp) (before : SharedBroker Client τ) (answer : op.Res)
    (after : SharedBroker Client τ) : Prop :=
  ∃ broker, op.Performs before.broker answer broker ∧ after = before.touched client broker

/-- The broker once a client has begun a call. -/
def entered [DecidableEq Client] (client : Client) (call : ClientCall τ)
    (shared : SharedBroker Client τ) :
    SharedBroker Client τ :=
  { shared with begun := Function.update shared.begun client (shared.begun client ++ [call]) }

/-- The broker handles a publish. -/
def Handles (before after : SharedBroker Client τ) : Prop :=
  ∃ broker, before.broker.Handles broker ∧ after = { before with broker }

end SharedBroker

variable [Digests]

def StreamOpening.perform : StreamOpening →
    Action natsOperations OperationFailure Unit (Store NatsEngine)
  | .createWithLimit adapter claim descriptor maxWireLen =>
      adapter.createWithLimit claim descriptor maxWireLen
  | .completeCreation adapter claim => adapter.completeCreation claim
  | .openWrite adapter carriedEpoch => adapter.openWrite carriedEpoch

/-- A client after its opening call. -/
def StreamOpening.conclude : Except OperationFailure (Store NatsEngine) → ClientState τ
  | .ok store => .live store [.ok .opened]
  | .error failure => .gone [.error failure]

/-- The program of a call, in the states in which a client may make it. -/
def ClientCall.program : ClientCall τ → ClientState τ →
    Option (Program natsOperations (ClientState τ))
  | .opening call, .waiting =>
      some ((call.perform ()).bind fun result => .ret (StreamOpening.conclude result.1))
  | .session call, .live store outcomes =>
      some ((call.perform NatsControl.perform store).bind fun result =>
        .ret (.live result.2 (outcomes ++ [result.1.map .session])))
  | .record adapter entry, .waiting =>
      some ((adapter.recordOwnershipRecord entry ()).bind fun result =>
        .ret (.gone [result.1.map fun _ => .recorded]))
  | _, _ => none

variable (Client) in
/-- Clients of one broker that make certain calls. -/
def streamClients [DecidableEq Client] (may : ClientCall τ → Bool) :
    Pool natsOperations (SharedBroker Client τ) Client (ClientCall τ) (ClientState τ) where
  exec client op before answer after := SharedBroker.Performs client op before answer after
  program call state := if may call then call.program state else none
  entered client call _ := SharedBroker.entered client call
  left _ _ := id
  dead := ClientState.died
  others := SharedBroker.Handles

/-- Clients and what each of them is doing. -/
abbrev StreamConfiguration (Client τ : Type) :=
  Configuration natsOperations (SharedBroker Client τ) Client (ClientCall τ) (ClientState τ)

variable (Client τ) in
/-- No streams, and nobody has done anything yet. -/
def noStreams : StreamConfiguration Client τ where
  world := ⟨⟨fun _ => none, []⟩, fun _ => [], []⟩
  doing _ := .idle .waiting

end Pool

section Growth

variable {Client τ : Type}

namespace SharedBroker

/-- How the shared broker may change at all. -/
structure Grows (before after : SharedBroker Client τ) : Prop where
  broker : before.broker.Extends after.broker
  senders : before.senders <+: after.senders
  begun : ∀ client, before.begun client <+: after.begun client

/-- What a client relies on when others act: they begin no call of it, and they send no
publish in its name. -/
structure Rely (client : Client) (before after : SharedBroker Client τ) : Prop
    extends Grows before after where
  own : after.begun client = before.begun client
  sent : ∀ {ticket number : Nat}, after.senders[ticket]? = some (client, number) →
    before.senders[ticket]? = some (client, number)

/-- Every publish has a sender, and the streams are what the publishes made of them. -/
structure Credited (shared : SharedBroker Client τ) : Prop where
  senders : shared.senders.length = shared.broker.publishes.length
  logged : shared.broker.Logged

/-- A call of a client sent a publish. -/
def Sent (shared : SharedBroker Client τ) (client : Client) (number ticket : Nat)
    (publish : Publish) : Prop :=
  shared.senders[ticket]? = some (client, number) ∧ shared.broker.publishes[ticket]? = some publish

/-- A call of a client wrote the message at a place of a stream. -/
def Wrote (shared : SharedBroker Client τ) (client : Client) (number : Nat) (name : StreamName)
    (place : Nat) : Prop :=
  ∃ ticket publish records, shared.Sent client number ticket publish ∧ publish.stream = name ∧
    publish.fate = .landed (place + 1) records

variable {shared before after first second third : SharedBroker Client τ} {client other : Client}

/-- The shared broker may stay as it is. -/
theorem Grows.refl (shared : SharedBroker Client τ) : Grows shared shared :=
  ⟨.refl _, List.prefix_rfl, fun _ => List.prefix_rfl⟩

/-- The growth of the shared broker adds up. -/
theorem Grows.trans (earlier : Grows first second) (later : Grows second third) :
    Grows first third :=
  ⟨earlier.broker.trans later.broker, earlier.senders.trans later.senders,
    fun client => (earlier.begun client).trans (later.begun client)⟩

/-- A client may rely on nothing having happened. -/
theorem Rely.refl (client : Client) (shared : SharedBroker Client τ) : Rely client shared shared :=
  ⟨.refl shared, rfl, id⟩

/-- What a client relies on holds over several steps when it holds over each. -/
theorem Rely.trans (earlier : Rely client first second) (later : Rely client second third) :
    Rely client first third :=
  ⟨earlier.toGrows.trans later.toGrows, later.own.trans earlier.own,
    fun sent => earlier.sent (later.sent sent)⟩

/-- The sender of a publish stays known. -/
theorem Grows.sender (grows : Grows before after) {ticket : Nat} {entry : Client × Nat}
    (found : before.senders[ticket]? = some entry) : after.senders[ticket]? = some entry := by
  obtain ⟨more, split⟩ := grows.senders
  rw [← split, List.getElem?_append_left (List.getElem?_eq_some_iff.mp found).1]
  exact found

/-- What a call wrote stays written by it. -/
theorem Wrote.grows (grows : Grows before after) {number place : Nat} {name : StreamName}
    (wrote : before.Wrote client number name place) : after.Wrote client number name place := by
  obtain ⟨ticket, publish, records, ⟨sender, sent⟩, is, fate⟩ := wrote
  exact ⟨ticket, publish, records, ⟨grows.sender sender, grows.broker.landed sent fate⟩, is, fate⟩

/-- No two calls wrote the same message. -/
theorem Wrote.unique (credited : shared.Credited) {number another place : Nat} {name : StreamName}
    (wrote : shared.Wrote client number name place) (also : shared.Wrote other another name place) :
    client = other ∧ number = another := by
  obtain ⟨ticket, publish, records, ⟨sender, sent⟩, rfl, fate⟩ := wrote
  obtain ⟨ticket', publish', records', ⟨sender', sent'⟩, same, fate'⟩ := also
  obtain rfl := credited.logged.once sent sent' same.symm fate fate'
  rw [sender] at sender'
  cases sender'
  exact ⟨rfl, rfl⟩

/-- Every message was written by a call. -/
theorem Credited.wrote (credited : shared.Credited) {name : StreamName} {place : Nat}
    {payload : Bytes} (found : (shared.broker.messages name)[place]? = some payload) :
    ∃ client number, shared.Wrote client number name place := by
  obtain ⟨ticket, publish, records, sent, is, -, fate⟩ := credited.logged.written found
  have inside := (List.getElem?_eq_some_iff.mp sent).1
  rw [← credited.senders] at inside
  exact ⟨_, _, ticket, publish, records, ⟨List.getElem?_eq_getElem inside, sent⟩, is, fate⟩

section Touched

variable {broker : Broker}

/-- An operation that leaves the broker as it was credits nothing to anybody. -/
theorem touched_same (shared : SharedBroker Client τ) (client : Client) :
    shared.touched client shared.broker = shared := by
  simp [touched]

/-- An operation of a client lets the shared broker grow. -/
theorem grows_touched (extension : shared.broker.Extends broker) :
    Grows shared (shared.touched client broker) :=
  ⟨extension, List.prefix_append _ _, fun _ => List.prefix_rfl⟩

/-- A publish has the sender that it had, or it was just sent. -/
theorem sender_touched {ticket number : Nat} {author : Client}
    (found : (shared.touched client broker).senders[ticket]? = some (author, number)) :
    shared.senders[ticket]? = some (author, number) ∨ shared.senders.length ≤ ticket ∧
      author = client ∧ number = (shared.begun client).length - 1 := by
  simp only [touched] at found
  by_cases earlier : ticket < shared.senders.length
  · rw [List.getElem?_append_left earlier] at found
    exact .inl found
  · rw [List.getElem?_append_right (Nat.le_of_not_lt earlier), List.getElem?_replicate] at found
    split_ifs at found
    obtain ⟨rfl, rfl⟩ := Prod.mk.inj (Option.some.inj found)
    exact .inr ⟨Nat.le_of_not_lt earlier, rfl, rfl⟩

/-- The other clients can rely on what a client's operation does. -/
theorem rely_touched (extension : shared.broker.Extends broker) (apart : other ≠ client) :
    Rely other shared (shared.touched client broker) := by
  refine ⟨grows_touched extension, rfl, ?_⟩
  intro ticket number found
  rcases sender_touched found with earlier | ⟨-, own, -⟩
  · exact earlier
  · exact (apart own).elim

/-- Publishes are only ever added. -/
theorem length_publishes_le {before after : Broker} (extension : before.Extends after) :
    before.publishes.length ≤ after.publishes.length := by
  by_contra shorter
  have inside : after.publishes.length < before.publishes.length := by omega
  obtain ⟨fate, kept, -⟩ := extension.publishes (List.getElem?_eq_getElem inside)
  rw [List.getElem?_eq_none (le_refl _)] at kept
  cases kept

/-- Every publish has a sender after a client's operation as well. -/
theorem Credited.touched (credited : shared.Credited) (extension : shared.broker.Extends broker)
    (logged : broker.Logged) (client : Client) : (shared.touched client broker).Credited where
  senders := by
    have longer := length_publishes_le extension
    simp only [SharedBroker.touched, List.length_append, List.length_replicate]
    rw [credited.senders]
    omega
  logged := logged

/-- The senders after a client has sent a publish. -/
theorem senders_sent (shared : SharedBroker Client τ) (client : Client) (name : StreamName)
    (expectedLast : Option Nat) (payload : Bytes) :
    (shared.touched client (shared.broker.sent name expectedLast payload)).senders =
      shared.senders ++ [(client, (shared.begun client).length - 1)] := by
  simp [touched, Broker.sent]

end Touched

section Moves

/-- The shared broker grows when it handles a publish. -/
theorem Handles.grows (moved : before.Handles after) : Grows before after := by
  obtain ⟨broker, handled, rfl⟩ := moved
  exact ⟨handled.extension, List.prefix_rfl, fun _ => List.prefix_rfl⟩

/-- Every client can rely on what the broker does by itself. -/
theorem Handles.rely (moved : before.Handles after) (client : Client) :
    Rely client before after := by
  have grows := moved.grows
  obtain ⟨broker, handled, rfl⟩ := moved
  exact ⟨grows, rfl, id⟩

/-- Handling a publish changes no sender. -/
theorem Credited.handled (credited : before.Credited) (moved : before.Handles after) :
    after.Credited := by
  have grown := moved.grows
  obtain ⟨broker, handled, rfl⟩ := moved
  refine ⟨?_, credited.logged.handled handled⟩
  have counted : broker.publishes.length = before.broker.publishes.length := by
    cases handled with
    | accept => simp [Broker.accepted]
    | refuse => simp [Broker.refused]
  exact credited.senders.trans counted.symm

variable [DecidableEq Client]

/-- The shared broker grows when a call is begun. -/
theorem grows_entered (call : ClientCall τ) : Grows shared (shared.entered client call) := by
  refine ⟨.refl _, List.prefix_rfl, fun other => ?_⟩
  by_cases own : other = client
  · subst own
    simp [entered]
  · simp [entered, Function.update_of_ne own]

/-- The other clients can rely on a call that a client begins. -/
theorem rely_entered (call : ClientCall τ) (apart : other ≠ client) :
    Rely other shared (shared.entered client call) :=
  ⟨grows_entered call, Function.update_of_ne apart .., id⟩

end Moves

end SharedBroker

end Growth

section Rules

variable {Client τ : Type}

/-- What clients promise each other, where this holds of the broker, and this of a
client before, during and after a call. -/
def brokerDiscipline (Inv : SharedBroker Client τ → Prop)
    (Holds : Client → ClientState τ → SharedBroker Client τ → Prop)
    (During : Client → ClientCall τ → ClientState τ → SharedBroker Client τ → Prop)
    (Ends : Client → ClientCall τ → ClientState τ → ClientState τ → SharedBroker Client τ → Prop) :
    Discipline (SharedBroker Client τ) Client (ClientCall τ) (ClientState τ) where
  Inv := Inv
  Grows := SharedBroker.Grows
  Rely := SharedBroker.Rely
  Holds := Holds
  During := During
  Ends := Ends

variable [Digests] [DecidableEq Client] {Inv : SharedBroker Client τ → Prop}
  {Holds : Client → ClientState τ → SharedBroker Client τ → Prop}
  {During : Client → ClientCall τ → ClientState τ → SharedBroker Client τ → Prop}
  {Ends : Client → ClientCall τ → ClientState τ → ClientState τ → SharedBroker Client τ → Prop}
  {may : ClientCall τ → Bool} {client : Client} {call : ClientCall τ} {state : ClientState τ}
  {world : SharedBroker Client τ}

/-- An operation of a client among others. -/
theorem wp_request {op : NatsOp} {post : op.Res → SharedBroker Client τ → Prop}
    (performed : ∀ moved answer broker,
      (brokerDiscipline Inv Holds During Ends).Sees client world moved →
      During client call state moved → op.Performs moved.broker answer broker →
      Inv (moved.touched client broker) ∧ During client call state (moved.touched client broker) ∧
        post answer (moved.touched client broker)) :
    op.send.wp ((brokerDiscipline Inv Holds During Ends).setting (streamClients Client may) client
      call state) post world := by
  rintro moved ⟨sees, during⟩ answer _ ⟨broker, performs, rfl⟩
  obtain ⟨inv, still, holds⟩ := performed moved answer broker sees during performs
  have extension := Broker.extends_performed performs
  exact ⟨⟨⟨inv, SharedBroker.grows_touched extension,
    fun other apart => SharedBroker.rely_touched extension apart⟩, still⟩, holds⟩

/-- A question to the broker changes nothing. -/
theorem wp_question {op : NatsOp} {post : op.Res → SharedBroker Client τ → Prop}
    (quiet : op.IsQuiet)
    (answered : ∀ moved answer, (brokerDiscipline Inv Holds During Ends).Sees client world moved →
      During client call state moved → op.Performs moved.broker answer moved.broker →
      post answer moved) :
    op.send.wp ((brokerDiscipline Inv Holds During Ends).setting (streamClients Client may) client
      call state) post world := by
  refine wp_request ?_
  intro moved answer broker sees during performs
  obtain rfl := NatsOp.same_of_quiet quiet performs
  rw [SharedBroker.touched_same]
  exact ⟨sees.invariant, during, answered moved answer sees during performs⟩

/-- What lasts while others act lasts over any questions. -/
theorem wp_questions {Kept : SharedBroker Client τ → Prop}
    (lasting : ∀ {before after}, (brokerDiscipline Inv Holds During Ends).Sees client before after →
      Kept before → Kept after) {α : Type} {program : Program natsOperations α}
    (only : program.Only NatsOp.IsQuiet) (start : Kept world) :
    program.wp ((brokerDiscipline Inv Holds During Ends).setting (streamClients Client may) client
      call state) (fun _ after => Kept after) world := by
  refine Discipline.wp_of_only lasting ?_ only start
  rintro op before answer _ quiet inv during kept ⟨broker, performs, rfl⟩
  obtain rfl := NatsOp.same_of_quiet quiet performs
  rw [SharedBroker.touched_same]
  exact ⟨⟨inv, .refl _, fun other _ => .refl other _⟩, during, kept⟩

/-- A program that only asks keeps what lasts while the others act. -/
theorem wp_asking {Kept : SharedBroker Client τ → Prop}
    (lasting : ∀ {before after}, (brokerDiscipline Inv Holds During Ends).Sees client before after →
      Kept before → Kept after) {σ α : Type} {action : Action natsOperations OperationFailure σ α}
    (only : action.Only NatsOp.IsQuiet) {own : σ} (start : Kept world) :
    action.wp ((brokerDiscipline Inv Holds During Ends).setting (streamClients Client may) client
      call state) (fun _ _ after => Kept after) own world :=
  wp_questions lasting (only own) start

omit [Digests] [DecidableEq Client] in
/-- What a client may do alone with the broker, it may do with the shared one. -/
theorem SharedBroker.runs_of_broker {shared : SharedBroker Client τ} {α : Type}
    {program : Program natsOperations α} {value : α} {later : Broker}
    (runs : program.Runs brokerSetting shared.broker value later) :
    ∃ after : SharedBroker Client τ, program.Runs
        ⟨fun op before answer after => SharedBroker.Performs client op before answer after,
          Relation.ReflTransGen SharedBroker.Handles, fun _ _ => True⟩ shared value after ∧
      after.broker = later ∧ after.begun = shared.begun ∧ ∃ count, after.senders =
        shared.senders ++ List.replicate count (client, (shared.begun client).length - 1) := by
  generalize seen : shared.broker = broker at runs
  induction runs generalizing shared with
  | ret => exact ⟨shared, .ret, seen, rfl, 0, (List.append_nil _).symm⟩
  | @call op next before moved after final answer value others performed rest ih =>
      subst seen
      have moves : Relation.ReflTransGen SharedBroker.Handles shared
          { shared with broker := moved } := by
        clear performed rest ih
        induction others with
        | refl => exact .refl
        | tail _ step ih => exact ih.tail ⟨_, step, rfl⟩
      obtain ⟨last, runs, view, begun, count, senders⟩ :=
        ih (rfl : (SharedBroker.touched { shared with broker := moved } client after).broker =
          after)
      refine ⟨last, .call moves ⟨after, performed, rfl⟩ runs, view, begun,
        after.publishes.length - moved.publishes.length + count, ?_⟩
      rw [senders, List.replicate_add, ← List.append_assoc]
      rfl

/-- What evaluates a call one way, lets the clients reach what it evaluates to. -/
theorem exists_reaches_evaluate {handler : Handler natsOperations Broker}
    (allowed : ∀ (op : NatsOp) broker, ∃ between,
      NatsOp.Performs op broker (handler op broker).1 between ∧
        Relation.ReflTransGen Broker.Handles between (handler op broker).2)
    (shared : SharedBroker Client τ)
    {doing : Client → Doing natsOperations (ClientCall τ) (ClientState τ)}
    {program : Program natsOperations (ClientState τ)} (idle : doing client = .idle state)
    (permitted : may call = true) (possible : call.program state = some program) :
    ∃ after : SharedBroker Client τ,
      (streamClients Client may).Reaches ⟨shared, doing⟩ ⟨after, Function.update doing client
        (.idle (program.evaluate handler shared.broker).1)⟩ ∧
      after.broker = (program.evaluate handler shared.broker).2 ∧
      after.begun = (shared.entered client call).begun ∧ ∃ count, after.senders =
        shared.senders ++ List.replicate count (client, (shared.begun client).length) := by
  have evaluates : ∃ ended, program.Runs brokerSetting (shared.entered client call).broker
      (program.evaluate handler shared.broker).1 ended ∧
      Relation.ReflTransGen Broker.Handles ended (program.evaluate handler shared.broker).2 :=
    Program.exists_runs_evaluate Relation.ReflTransGen.trans (fun _ => Relation.ReflTransGen.refl)
      allowed program shared.broker
  obtain ⟨ended, alone, moved⟩ := evaluates
  obtain ⟨last, runs, rfl, begun, count, senders⟩ := SharedBroker.runs_of_broker alone
  have possible : (streamClients Client may).program call state = some program :=
    (if_pos permitted).trans possible
  have reached := (streamClients Client may).reaches_call_in id id idle possible runs
  have settled : ∀ {before after : Broker}, Relation.ReflTransGen Broker.Handles before after →
      ∀ (shared : SharedBroker Client τ) doing, shared.broker = before →
        (streamClients Client may).Reaches ⟨shared, doing⟩
            ⟨{ shared with broker := after }, doing⟩ := by
    intro before after moves shared doing same
    subst same
    induction moves with
    | refl => exact .refl
    | tail _ step ih => exact ih.tail (.others ⟨_, step, rfl⟩)
  refine ⟨_, reached.trans (settled moved last _ rfl), rfl, begun, count, ?_⟩
  have position : ((shared.entered client call).begun client).length - 1 =
      (shared.begun client).length := by
    simp [SharedBroker.entered]
  rw [← position]
  exact senders

/-- A client has made a call, and nobody else has done anything. -/
structure Called (may : ClientCall τ → Bool) (client : Client) (call : ClientCall τ)
    (result : ClientState τ × Broker) (before after : StreamConfiguration Client τ) : Prop where
  reaches : (streamClients Client may).Reaches before after
  doing : after.doing = Function.update before.doing client (.idle result.1)
  broker : after.world.broker = result.2
  begun : after.world.begun =
    Function.update before.world.begun client (before.world.begun client ++ [call])
  senders : ∃ count, after.world.senders = before.world.senders ++
    List.replicate count (client, (before.world.begun client).length)

/-- What evaluates a call one way, makes it that way. -/
theorem exists_called (may : ClientCall τ → Bool) {handler : Handler natsOperations Broker}
    (allowed : ∀ (op : NatsOp) broker, ∃ between,
      NatsOp.Performs op broker (handler op broker).1 between ∧
        Relation.ReflTransGen Broker.Handles between (handler op broker).2)
    {before : StreamConfiguration Client τ} {client : Client} {state : ClientState τ}
    {call : ClientCall τ} {program : Program natsOperations (ClientState τ)}
    {result : ClientState τ × Broker} (idle : before.doing client = .idle state)
    (permitted : may call = true) (possible : call.program state = some program)
    (evaluates : program.evaluate handler before.world.broker = result) :
    ∃ after, Called may client call result before after := by
  subst evaluates
  obtain ⟨shared, reaches, broker, begun, senders⟩ :=
    exists_reaches_evaluate allowed before.world idle permitted possible
  exact ⟨⟨shared, _⟩, reaches, rfl, broker, begun, senders⟩

end Rules

end Pardosa
