import Pardosa.Nats.OneWinner
import Pardosa.Nats.Watching

/-!
# What a check is worth at the landing

A session reads the ownership record before it publishes an event. The broker takes the
event later, on a condition that says nothing of the ownership record. So the epoch that
an event carries is the recorded one when it lands exactly if no record that landed since
the session's check gives the artefact to another owner.
-/

namespace Pardosa

open Foundation

section Authority

variable [Digests]

/-- The payload of the frame that a message is. -/
def framedPayload (raw : Bytes) : Option Bytes :=
  match ContainerFrame.decode raw with
  | .ok (payload, _) => some payload
  | .error _ => none

/-- The records in some messages. -/
def framedRecords (messages : List Bytes) : List Bytes := messages.filterMap framedPayload

/-- The messages of an ownership record, the first of which is its header, give the
artefact to the owner of an epoch. -/
structure Grants (messages : List Bytes) (epoch : UInt64) : Prop where
  claimed : (claimEpochs (framedRecords (messages.drop 1))).getLast? = some epoch
  active : (framedRecords (messages.drop 1)).any isOutboundPointer = false

/-- Messages that come later give it to somebody else: one of them is an outbound pointer,
or the last claim among them is of another epoch. -/
def Overtakes (later : List Bytes) (epoch : UInt64) : Prop :=
  (framedRecords later).any isOutboundPointer = true ∨
    ∃ other, (claimEpochs (framedRecords later)).getLast? = some other ∧ other ≠ epoch

/-- The records of messages that follow each other follow each other. -/
theorem framedRecords_append (first second : List Bytes) :
    framedRecords (first ++ second) = framedRecords first ++ framedRecords second :=
  List.filterMap_append ..

/-- Framed records are read as what was framed. -/
theorem framedRecords_frames {payloads : List Bytes}
    (fits : ∀ payload ∈ payloads, payload.length ≤ u32Max) :
    framedRecords (payloads.map ContainerFrame.frameBytes) = payloads := by
  induction payloads with
  | nil => rfl
  | cons payload payloads ih =>
      have framed : framedPayload (ContainerFrame.frameBytes payload) = some payload := by
        rw [framedPayload, ContainerFrame.decode_frameBytes (fits payload (List.mem_cons_self ..))]
      have others := ih fun other member => fits other (List.mem_cons_of_mem _ member)
      rw [List.map_cons, framedRecords, List.filterMap_cons_some framed]
      exact congrArg _ others

/-- An owner stays the owner as long as it is not overtaken. -/
theorem Grants.append_iff {first later : List Bytes} {epoch : UInt64} (some_message : first ≠ [])
    (granted : Grants first epoch) : Grants (first ++ later) epoch ↔ ¬Overtakes later epoch := by
  have split : (first ++ later).drop 1 = first.drop 1 ++ later :=
    List.drop_append_of_le_length (List.length_pos_iff.mpr some_message)
  have claims : (claimEpochs (framedRecords ((first ++ later).drop 1))).getLast? =
      (claimEpochs (framedRecords later)).getLast?.or (some epoch) := by
    rw [split, framedRecords_append, claimEpochs_append, List.getLast?_append, granted.claimed]
  have pointers : (framedRecords ((first ++ later).drop 1)).any isOutboundPointer =
      (framedRecords later).any isOutboundPointer := by
    rw [split, framedRecords_append, List.any_append, granted.active, Bool.false_or]
  constructor
  · rintro ⟨claimed, active⟩ (pointed | ⟨other, latest, differs⟩)
    · rw [pointers, pointed] at active
      cases active
    · rw [claims, latest] at claimed
      exact differs (Option.some.inj claimed)
  · intro holds
    refine ⟨?_, ?_⟩
    · rw [claims]
      cases latest : (claimEpochs (framedRecords later)).getLast? with
      | none => rfl
      | some other =>
          by_contra differs
          exact holds (Or.inr ⟨other, latest, fun same => differs (by rw [same]; rfl)⟩)
    · rw [pointers]
      exact Bool.eq_false_iff.mpr fun pointed => holds (Or.inl pointed)

namespace MetaRecords

/-- A message after the first is a frame that carries a record. -/
theorem absorbMessage_framed {records after : MetaRecords} {seq : Nat} {raw : Bytes}
    (beyond : 1 < seq) (absorbed : records.absorbMessage seq raw = .ok after) :
    ∃ payload, framedPayload raw = some payload ∧
      absorbFrame (inMetaStream seq) records payload = .ok after := by
  unfold absorbMessage at absorbed
  rw [if_neg (Nat.ne_of_gt beyond)] at absorbed
  obtain ⟨payload, unframed, taken⟩ := bind_eq_ok.mp absorbed
  refine ⟨payload, ?_, taken⟩
  simp only [unframe, bind_eq_ok, mapError_eq_ok] at unframed
  obtain ⟨⟨content, consumed⟩, decoded, rest⟩ := unframed
  obtain ⟨-, same⟩ := throwIf_eq_ok.mp rest
  cases same
  rw [framedPayload, decoded]

/-- The messages after the first, taken into account, leave the last claim among them, and
an outbound pointer if there is one. -/
theorem absorbMessages_ok {records after : MetaRecords} {rest : List Bytes} {seq : Nat}
    (beyond : 1 < seq) (absorbed : (rest.zipIdx seq).foldlM
      (fun records message => records.absorbMessage message.2 message.1) records = .ok after) :
    after.latestClaim.map OwnershipClaimRecord.epoch =
        (claimEpochs (framedRecords rest)).getLast?.or
          (records.latestClaim.map OwnershipClaimRecord.epoch) ∧
      after.outboundPointer.isSome =
        ((framedRecords rest).any isOutboundPointer || records.outboundPointer.isSome) := by
  induction rest generalizing seq records with
  | nil =>
      cases absorbed
      exact ⟨rfl, rfl⟩
  | cons raw rest ih =>
      rw [List.zipIdx_cons, List.foldlM_cons, bind_eq_ok] at absorbed
      obtain ⟨next, first, others⟩ := absorbed
      obtain ⟨claims, pointers⟩ := ih (Nat.lt_succ_of_lt beyond) others
      obtain ⟨payload, framed, taken⟩ := absorbMessage_framed beyond first
      have records_cons : framedRecords (raw :: rest) = payload :: framedRecords rest :=
        List.filterMap_cons_some framed
      refine ⟨?_, ?_⟩
      · rw [claims, absorbFrame_epoch taken, records_cons, ← Option.or_assoc]
        congr 1
        unfold claimEpochs
        cases claimed : claimedEpoch payload with
        | none => simp [claimed]
        | some epoch => simp [claimed, List.getLast?_cons]
      · rw [pointers, absorbFrame_pointer taken, records_cons, List.any_cons]
        cases isOutboundPointer payload <;> simp

/-- Records that were read from messages and do not supersede a session grant it the
artefact. -/
theorem grants_of_ofMessages {records : MetaRecords} {messages : List Bytes} {epoch : UInt64}
    (some_message : messages ≠ []) (read : ofMessages messages = .ok records)
    (active : records.outboundPointer.isSome = false) {claim : OwnershipClaimRecord}
    (claimed : records.latestClaim = some claim) (carries : claim.epoch = epoch) :
    Grants messages epoch := by
  cases messages with
  | nil => exact (some_message rfl).elim
  | cons header rest =>
      rw [ofMessages, List.zipIdx_cons, List.foldlM_cons, bind_eq_ok] at read
      obtain ⟨next, first, others⟩ := read
      have fresh : next = empty := by
        unfold absorbMessage at first
        rw [if_pos rfl] at first
        obtain ⟨-, -, same⟩ := bind_eq_ok.mp first
        cases same
        rfl
      subst fresh
      obtain ⟨claims, pointers⟩ := absorbMessages_ok (by omega) others
      refine ⟨?_, ?_⟩
      · rw [claimed, Option.map_some, carries] at claims
        rw [List.drop_one, List.tail_cons, claims]
        exact Option.or_none.symm
      · rw [active] at pointers
        rw [List.drop_one, List.tail_cons]
        exact (Bool.or_eq_false_iff.mp pointers.symm).1

end MetaRecords

end Authority

section Vetted

variable [Digests] {Client τ : Type}

/-- What a client has looked at of the ownership record. -/
def Looking (client : Client) (snapshot : List Bytes) (world : WatchedBroker Client τ) : Prop :=
  world.looked client = snapshot.length ∧ snapshot <+: world.records

/-- Every event was sent by a session that had looked at an ownership record that grants
it the artefact, and none has landed before that look. -/
structure Vetted (world : WatchedBroker Client τ) : Prop where
  credited : world.shared.Credited
  counted : world.seen.length = world.shared.broker.publishes.length
  numbered : ∀ {ticket number : Nat} {client : Client},
    world.shared.senders[ticket]? = some (client, number) →
    number < (world.shared.begun client).length
  looked : ∀ client, world.looked client ≤ world.records.length
  recorded : ∀ {ticket sequence records : Nat} {publish : Publish},
    world.shared.broker.publishes[ticket]? = some publish →
    publish.fate = .landed sequence records → records ≤ world.records.length
  vetted : ∀ {client : Client} {number ticket : Nat} {publish : Publish}
    {call : SessionCall NatsControl τ}, world.shared.Sent client number ticket publish →
    (world.shared.begun client)[number]? = some (.session call) →
    ∃ opening snapshot, (world.shared.begun client)[0]? = some (.opening opening) ∧
      world.seen[ticket]? = some snapshot.length ∧ snapshot <+: world.records ∧ snapshot ≠ [] ∧
      Grants snapshot opening.carries.2 ∧ ∀ sequence records,
        publish.fate = .landed sequence records → snapshot.length ≤ records

variable {world before after : WatchedBroker Client τ} {client : Client}

omit [Digests] in
/-- What a client has looked at stays there while the others act. -/
theorem Looking.kept {snapshot : List Bytes} (rely : WatchedBroker.Rely client before after)
    (looking : Looking client snapshot before) : Looking client snapshot after :=
  ⟨rely.looked.trans looking.1, looking.2.trans rely.records⟩

/-- The broker handling a publish gives no session an authority that it had not. -/
theorem Vetted.handled (vetted : Vetted before) (moved : before.Handles after) : Vetted after := by
  obtain ⟨shared, handled, rfl⟩ := moved
  have credited := vetted.credited.handled handled
  obtain ⟨broker, handled, rfl⟩ := handled
  -- a publish that lands now lands behind all records there are
  have landing : ∀ {ticket sequence records : Nat} {publish : Publish},
      broker.publishes[ticket]? = some publish → publish.fate = .landed sequence records →
      ∃ fate, before.shared.broker.publishes[ticket]? = some { publish with fate } ∧
        (fate = .landed sequence records ∨ records = before.records.length) := by
    intro ticket sequence records publish found fate
    cases handled with
    | accept sent pending =>
        rcases Broker.publishes_settled sent found with ⟨rfl, rfl⟩ | ⟨-, earlier⟩
        · cases fate
          exact ⟨_, sent, Or.inr rfl⟩
        · exact ⟨publish.fate, earlier, Or.inl fate⟩
    | refuse sent pending =>
        rcases Broker.publishes_settled sent found with ⟨rfl, rfl⟩ | ⟨-, earlier⟩
        · cases fate
        · exact ⟨publish.fate, earlier, Or.inl fate⟩
  have grown : before.records <+: broker.messages .metaStream :=
    handled.extension.messages .metaStream
  refine ⟨credited, ?_, vetted.numbered, ?_, ?_, ?_⟩
  · exact vetted.counted.trans (vetted.credited.senders.symm.trans credited.senders)
  · exact fun client => (vetted.looked client).trans grown.length_le
  · intro ticket sequence records publish found fate
    obtain ⟨old, earlier, landed | same⟩ := landing found fate
    · exact (vetted.recorded earlier landed).trans grown.length_le
    · exact same.trans_le grown.length_le
  · rintro client number ticket publish call ⟨sender, sent⟩ session
    obtain ⟨old, earlier⟩ := handled.publish sent
    obtain ⟨opening, snapshot, opens, seen, within, some_message, grants, later⟩ :=
      vetted.vetted ⟨sender, earlier⟩ session
    refine ⟨opening, snapshot, opens, seen, within.trans grown, some_message, grants, ?_⟩
    intro sequence records fate
    obtain ⟨old, earlier', landed | same⟩ := landing sent fate
    · rw [earlier] at earlier'
      cases earlier'
      exact later sequence records landed
    · rw [same]
      exact within.length_le

variable [DecidableEq Client]

omit [Digests] in
/-- Any other question leaves a look as it was. -/
theorem Looking.asked {op : NatsOp} {snapshot : List Bytes} (other : op ≠ .info .metaStream)
    (looking : Looking client snapshot world) :
    Looking client snapshot (world.touched client op world.shared.broker) :=
  ⟨by rw [WatchedBroker.looked_touched_of_ne other]; exact looking.1, looking.2⟩

/-- Whoever begins a call has sent nothing in it. -/
theorem Vetted.entered (vetted : Vetted world) (call : ClientCall τ) :
    Vetted (world.entered client call) := by
  have grown : WatchedBroker.Grows world (world.entered client call) :=
    WatchedBroker.grows_entered call
  have begun : ∀ (other : Client) (number : Nat), number < (world.shared.begun other).length →
      ((world.entered client call).shared.begun other)[number]? =
        (world.shared.begun other)[number]? := by
    intro other number inside
    obtain ⟨more, split⟩ := grown.shared.begun other
    rw [← split, List.getElem?_append_left inside]
  refine ⟨⟨vetted.credited.senders, vetted.credited.logged⟩, vetted.counted, ?_, vetted.looked,
    vetted.recorded, ?_⟩
  · intro ticket number other sender
    exact (vetted.numbered sender).trans_le (grown.shared.begun other).length_le
  · rintro other number ticket publish session ⟨sender, sent⟩ is
    have inside := vetted.numbered sender
    rw [begun other number inside] at is
    rw [begun other 0 (Nat.zero_lt_of_lt inside)]
    exact vetted.vetted ⟨sender, sent⟩ is

/-- What a session call publishes it publishes after a look that grants it the artefact. -/
theorem Vetted.touched (vetted : Vetted world) {call : ClientCall τ} {op : NatsOp} {answer : op.Res}
    {broker : Broker} (last : (world.shared.begun client).getLast? = some call)
    (performs : op.Performs world.shared.broker answer broker)
    (publishes : ∀ name expectedLast payload, op = .publish name expectedLast payload →
      ∀ session, call = .session session →
      ∃ opening snapshot, (world.shared.begun client)[0]? = some (.opening opening) ∧
        Looking client snapshot world ∧ snapshot ≠ [] ∧ Grants snapshot opening.carries.2) :
    Vetted (world.touched client op broker) := by
  have extension := Broker.extends_performed performs
  have longer := SharedBroker.length_publishes_le extension
  have grown : world.records <+: (world.touched client op broker).records :=
    extension.messages .metaStream
  refine ⟨vetted.credited.touched extension (vetted.credited.logged.performed performs) client,
    ?_, ?_, ?_, ?_, ?_⟩
  · simp only [WatchedBroker.touched, SharedBroker.touched, List.length_append,
      List.length_replicate, vetted.counted]
    omega
  · intro ticket number author sender
    rcases SharedBroker.sender_touched sender with earlier | ⟨-, rfl, rfl⟩
    · exact vetted.numbered earlier
    · have some_call : world.shared.begun author ≠ [] := by
        intro nothing
        rw [nothing] at last
        cases last
      exact Nat.sub_lt (List.length_pos_iff.mpr some_call) Nat.one_pos
  · intro other
    have still := (vetted.looked other).trans grown.length_le
    unfold WatchedBroker.touched
    dsimp only
    split_ifs
    · by_cases own : other = client
      · subst own
        rw [Function.update_self]
        exact grown.length_le
      · rw [Function.update_of_ne own]
        exact still
    · exact still
  · intro ticket sequence records publish found fate
    rcases Broker.publishes_performed performs found with earlier | ⟨_, _, _, -, -, rfl⟩
    · exact (vetted.recorded earlier fate).trans grown.length_le
    · cases fate
  · rintro author number ticket publish session ⟨sender, sent⟩ is
    rcases Broker.publishes_performed performs sent with
      earlier | ⟨name, expectedLast, payload, asks, rfl, rfl⟩
    · have inside := (List.getElem?_eq_some_iff.mp earlier).1
      rw [← vetted.credited.senders] at inside
      have sender : world.shared.senders[ticket]? = some (author, number) := by
        rcases SharedBroker.sender_touched sender with before | ⟨beyond, -⟩
        · exact before
        · omega
      obtain ⟨opening, snapshot, opens, seen, within, rest⟩ := vetted.vetted ⟨sender, earlier⟩ is
      refine ⟨opening, snapshot, opens, ?_, within.trans grown, rest⟩
      exact (List.getElem?_append_left (List.getElem?_eq_some_iff.mp seen).1).trans seen
    · have fresh : world.shared.senders[world.shared.broker.publishes.length]? = none := by
        rw [List.getElem?_eq_none]
        exact vetted.credited.senders.le
      obtain ⟨rfl, rfl⟩ : author = client ∧ number = (world.shared.begun client).length - 1 := by
        rcases SharedBroker.sender_touched sender with before | ⟨-, own⟩
        · rw [fresh] at before
          cases before
        · exact own
      have begun : (world.shared.begun author)[(world.shared.begun author).length - 1]? =
          some (.session session) := is
      rw [← List.getLast?_eq_getElem?, last] at begun
      obtain ⟨opening, snapshot, opens, looking, some_message, grants⟩ :=
        publishes name expectedLast payload asks session (Option.some.inj begun)
      refine ⟨opening, snapshot, opens, ?_, looking.2.trans grown, some_message, grants, ?_⟩
      · have longer : world.shared.broker.publishes.length < broker.publishes.length :=
          (List.getElem?_eq_some_iff.mp sent).1
        simp only [WatchedBroker.touched]
        rw [← vetted.counted, List.getElem?_append_right (Nat.le_refl _), Nat.sub_self,
          List.getElem?_replicate, if_pos (by rw [vetted.counted]; omega), looking.1]
      · rintro sequence records ⟨⟩

end Vetted

namespace Vetting

variable [Digests] {Client τ : Type}

/-- The session of a client carries the epoch of its opening call. -/
def Carrying (client : Client) (opening : StreamOpening) (engine : NatsEngine)
    (world : WatchedBroker Client τ) : Prop :=
  engine.carriedEpoch = opening.carries.2 ∧
    (world.shared.begun client)[0]? = some (.opening opening)

/-- What holds of a client before and after a call. -/
def Holds (client : Client) (state : ClientState τ) (world : WatchedBroker Client τ) : Prop :=
  match state with
  | .waiting => world.shared.begun client = []
  | .live store _ => ∃ opening, Carrying client opening store.engine world
  | .gone _ => True

/-- What holds of a client at any time of a call. -/
def During (client : Client) (call : ClientCall τ) (state : ClientState τ)
    (world : WatchedBroker Client τ) : Prop :=
  (world.shared.begun client).getLast? = some call ∧ match state with
    | .waiting => world.shared.begun client = [call]
    | .live store _ => ∃ opening, Carrying client opening store.engine world
    | .gone _ => True

/-- What holds of a client at the end of a call. -/
def Ends (client : Client) (_ : ClientCall τ) (_ final : ClientState τ)
    (world : WatchedBroker Client τ) : Prop :=
  final ≠ .waiting ∧ Holds client final world

variable (Client τ) in
/-- What the clients of one broker keep to. -/
def discipline : Discipline (WatchedBroker Client τ) Client (ClientCall τ) (ClientState τ) where
  Inv := Vetted
  Grows := WatchedBroker.Grows
  Rely := WatchedBroker.Rely
  Holds := Holds
  During := During
  Ends := Ends

section Kept

variable {client : Client} {before after : WatchedBroker Client τ}
  (rely : WatchedBroker.Rely client before after)

include rely

omit [Digests] in
/-- A session keeps its epoch while the others act. -/
theorem Carrying.kept {opening : StreamOpening} {engine : NatsEngine}
    (carrying : Carrying client opening engine before) : Carrying client opening engine after :=
  ⟨carrying.1, by rw [rely.own.own]; exact carrying.2⟩

omit [Digests] in
/-- What holds of a client between its calls is not disturbed by the others. -/
theorem Holds.kept {state : ClientState τ} (holds : Holds client state before) :
    Holds client state after := by
  cases state with
  | waiting => exact rely.own.own.trans holds
  | live store outcomes =>
      obtain ⟨opening, carrying⟩ := holds
      exact ⟨opening, carrying.kept rely⟩
  | gone outcomes => trivial

omit [Digests] in
/-- What holds of a client in a call is not disturbed by the others. -/
theorem During.kept {call : ClientCall τ} {state : ClientState τ}
    (during : During client call state before) : During client call state after := by
  obtain ⟨last, holds⟩ := during
  refine ⟨by rw [rely.own.own]; exact last, ?_⟩
  cases state with
  | waiting => exact rely.own.own.trans holds
  | live store outcomes =>
      obtain ⟨opening, carrying⟩ := holds
      exact ⟨opening, carrying.kept rely⟩
  | gone outcomes => trivial

end Kept

section Rules

variable [DecidableEq Client] {client : Client} {call : ClientCall τ} {state : ClientState τ}
  {world : WatchedBroker Client τ} {σ : Type} {own : σ}

/-- The world as a client finds it during a call. -/
abbrev setting (client : Client) (call : ClientCall τ) (state : ClientState τ) :
    Setting natsOperations (WatchedBroker Client τ) :=
  (discipline Client τ).setting (watchedClients Client) client call state

omit [Digests] in
/-- The calls a client has begun are no matter of what the broker does. -/
theorem During.touched {op : NatsOp} {broker : Broker} (during : During client call state world) :
    During client call state (world.touched client op broker) := during

/-- An operation of a client among others: what a session call publishes, it publishes
after a look that grants it the artefact. -/
theorem wp_request {op : NatsOp} {post : op.Res → WatchedBroker Client τ → Prop}
    (vetted : ∀ moved, (discipline Client τ).Sees client world moved →
      During client call state moved →
      ∀ name expectedLast payload, op = .publish name expectedLast payload →
      ∀ session, call = .session session →
      ∃ opening snapshot, (moved.shared.begun client)[0]? = some (.opening opening) ∧
        Looking client snapshot moved ∧ snapshot ≠ [] ∧ Grants snapshot opening.carries.2)
    (performed : ∀ moved answer broker, (discipline Client τ).Sees client world moved →
      During client call state moved → op.Performs moved.shared.broker answer broker →
      post answer (moved.touched client op broker)) :
    op.send.wp (setting client call state) post world := by
  rintro moved ⟨sees, during⟩ answer _ ⟨broker, performs, rfl⟩
  have extension := Broker.extends_performed performs
  refine ⟨⟨⟨?_, WatchedBroker.grows_touched extension,
    fun other apart => WatchedBroker.rely_touched extension apart⟩, during.touched⟩,
    performed moved answer broker sees during performs⟩
  exact Vetted.touched sees.invariant during.1 performs (vetted moved sees during)

/-- A question changes nothing but what was looked at. -/
theorem wp_question {op : NatsOp} {post : op.Res → WatchedBroker Client τ → Prop}
    (quiet : op.IsQuiet)
    (answered : ∀ moved answer, (discipline Client τ).Sees client world moved →
      During client call state moved → op.Performs moved.shared.broker answer moved.shared.broker →
      post answer (moved.touched client op moved.shared.broker)) :
    op.send.wp (setting client call state) post world := by
  refine wp_request ?_ ?_
  · rintro moved sees during name expectedLast payload rfl
    exact quiet.elim
  · intro moved answer broker sees during performs
    obtain rfl := NatsOp.same_of_quiet quiet performs
    exact answered moved answer sees during performs

/-- What others and the own operations keep, a program keeps that publishes nothing, unless
it is no session's program. What all its values have comes on top. -/
theorem wp_keeping {Kept : WatchedBroker Client τ → Prop} {allowed : NatsOp → Prop}
    (harmless : ∀ session, call = .session session → ∀ op : NatsOp, allowed op → op.IsQuiet)
    (others : ∀ {before after}, (discipline Client τ).Sees client before after →
      Kept before → Kept after)
    (steps : ∀ {op before broker}, Kept before → Kept (before.touched client op broker))
    {α : Type} {program : Program natsOperations α} {good : α → Prop}
    (only : program.Only allowed) (yields : program.Yields good) (start : Kept world) :
    program.wp (setting client call state) (fun value after => Kept after ∧ good value) world := by
  refine Program.wp_and_yields yields (Discipline.wp_of_only others ?_ only start)
  rintro op before answer _ permitted inv during kept ⟨broker, performs, rfl⟩
  have extension := Broker.extends_performed performs
  refine ⟨⟨?_, WatchedBroker.grows_touched extension,
    fun other apart => WatchedBroker.rely_touched extension apart⟩, during.touched, steps kept⟩
  refine Vetted.touched inv during.1 performs ?_
  rintro name expectedLast payload rfl session is
  exact (harmless session is _ permitted).elim

/-- The messages that were looked at are taken into account in order. -/
theorem wp_absorbMessages {seen rest : List Bytes} {records : MetaRecords}
    (looking : Looking client (seen ++ rest) world) :
    (absorbMessages rest.length (seen.length + 1) records).wp (setting client call state)
      (fun outcome _ after => Looking client (seen ++ rest) after ∧ ∀ final, outcome = .ok final →
        (rest.zipIdx (seen.length + 1)).foldlM
          (fun records message => records.absorbMessage message.2 message.1) records = .ok final)
      own world := by
  induction rest generalizing seen records world with
  | nil =>
      refine ⟨looking, ?_⟩
      rintro _ ⟨⟩
      rfl
  | cons raw rest ih =>
      simp only [List.length_cons, absorbMessages, Action.wp_bind, Action.wp_ofExcept]
      refine wp_question trivial ?_
      rintro moved answer sees - ⟨-, performs⟩
      have other : NatsOp.getRawMessage .metaStream (seen.length + 1) ≠ .info .metaStream := by
        simp
      have still := (Looking.kept sees.rely looking).asked other
      rcases performs with ⟨failure, rfl⟩ | ⟨payload, -, found, rfl⟩
      · refine ⟨still, ?_⟩
        rintro _ ⟨⟩
      obtain rfl : payload = raw := by
        obtain ⟨later, split⟩ := still.2
        have stands : moved.records[seen.length]? = some payload := found
        have same : moved.records = seen ++ raw :: rest ++ later := split.symm
        rw [same, List.append_assoc, List.getElem?_append_right (Nat.le_refl _),
          Nat.sub_self] at stands
        exact (Option.some.inj stands).symm
      dsimp only [Except.mapError]
      rw [List.zipIdx_cons, List.foldlM_cons]
      cases absorbed : records.absorbMessage (seen.length + 1) payload with
      | error failure =>
          refine ⟨still, ?_⟩
          rintro _ ⟨⟩
      | ok next =>
          have regrouped : seen ++ payload :: rest = (seen ++ [payload]) ++ rest := by
            rw [List.append_assoc]
            rfl
          rw [regrouped] at still ⊢
          have counted : seen.length + 1 + 1 = (seen ++ [payload]).length + 1 := by
            rw [List.length_append, List.length_singleton]
          rw [counted]
          exact ih still

/-- The ownership record is read as it was when the client asked for its extent. -/
theorem wp_readMetaStream (metaStreamName : String) :
    (readMetaStream metaStreamName).wp (setting client call state)
      (fun outcome _ after => ∀ records, outcome = .ok records → records = .empty ∨
        ∃ snapshot, snapshot ≠ [] ∧ Looking client snapshot after ∧
          MetaRecords.ofMessages snapshot = .ok records) own world := by
  simp only [readMetaStream, Action.wp_bind, Action.wp_lift]
  refine wp_question trivial ?_
  rintro moved (failure | _) sees - -
  · dsimp only
    split_ifs
    · rintro _ ⟨⟩
      exact Or.inl rfl
    · rintro _ ⟨⟩
  simp only [Action.wp_bind, Action.wp_refuseIf]
  refine wp_question trivial ?_
  rintro later (failure | info) sees' - ⟨-, performs⟩
  · rintro _ ⟨⟩
  dsimp only [Except.mapError]
  split_ifs with empty gap
  · rintro _ ⟨⟩
  · rintro _ ⟨⟩
  rcases performs with ⟨failure, ⟨⟩⟩ | ⟨messages, stands, ⟨⟩⟩
  have known : later.records = messages := by
    unfold WatchedBroker.records Broker.messages
    rw [stands]
    rfl
  have some_message : messages ≠ [] := fun nothing => empty (by rw [nothing]; rfl)
  have looking : Looking client ([] ++ messages)
      (later.touched client (.info .metaStream) later.shared.broker) := by
    rw [List.nil_append, ← known]
    exact ⟨WatchedBroker.looked_touched .., List.prefix_rfl⟩
  have extent : (Broker.infoOf messages).lastSequence + 1 - (Broker.infoOf messages).firstSequence =
      messages.length ∧ (Broker.infoOf messages).firstSequence = 1 := by
    have positive := List.length_pos_iff.mpr some_message
    simp only [Broker.infoOf]
    omega
  rw [extent.1, extent.2]
  refine Action.wp_mono (wp_absorbMessages looking) ?_
  rintro outcome own after ⟨looking, absorbed⟩ records read
  exact Or.inr ⟨messages, some_message, looking, absorbed records read⟩

/-- A session that passes its check has looked at an ownership record that grants it the
artefact. -/
theorem wp_checkAuthority {engine : NatsEngine}
    {post : Except OperationFailure Unit → NatsEngine → WatchedBroker Client τ → Prop}
    (passes : ∀ snapshot later, snapshot ≠ [] → Looking client snapshot later →
      Grants snapshot engine.carriedEpoch → post (.ok ()) engine later)
    (refuses : ∀ failure later, post (.error failure) engine later) :
    NatsEngine.checkAuthority.wp (setting client call state) post engine world := by
  have reads : (readMetaStream engine.metaStreamName).wp (setting client call state)
      (fun outcome after later => (∀ records, outcome = .ok records → records = .empty ∨
        ∃ snapshot, snapshot ≠ [] ∧ Looking client snapshot later ∧
          MetaRecords.ofMessages snapshot = .ok records) ∧ after = engine) engine world := by
    refine Program.wp_mono
      (Program.wp_and_yields (inert_readMetaStream engine.metaStreamName engine)
      (wp_readMetaStream engine.metaStreamName)) ?_
    rintro ⟨outcome, after⟩ later ⟨read, same, -⟩
    exact ⟨read, same⟩
  simp only [NatsEngine.checkAuthority, Action.wp_bind, Action.wp_get, Action.wp_refuseIf,
    Action.wp_require]
  split_ifs with uncertain
  · exact refuses _ _
  refine Action.wp_mono reads ?_
  rintro (failure | records) _ later ⟨read, rfl⟩
  · exact refuses _ _
  dsimp only
  split_ifs with retired
  · exact refuses _ _
  cases claimed : records.latestClaim with
  | none => exact refuses _ _
  | some claim =>
      dsimp only
      split_ifs with stale
      · exact refuses _ _
      rcases read records rfl with rfl | ⟨snapshot, some_message, looking, folded⟩
      · cases claimed
      · exact passes snapshot later some_message looking
          (MetaRecords.grants_of_ofMessages some_message folded (Bool.eq_false_iff.mpr retired)
            claimed (not_ne_iff.mp stale))

/-- A session that asks questions only keeps its epoch, if every value it ends in does. -/
theorem wp_asking {opening : StreamOpening} {engine : NatsEngine} {α : Type}
    {program : Program natsOperations α} {good : α → Prop} (only : program.Only NatsOp.IsQuiet)
    (yields : program.Yields good) (carrying : Carrying client opening engine world) :
    program.wp (setting client call state)
      (fun value after => Carrying client opening engine after ∧ good value) world :=
  wp_keeping (fun _ _ _ quiet => quiet) (fun sees kept => kept.kept sees.rely)
    (fun kept => kept) only
    yields carrying

omit [Digests] in
/-- An operation leaves the epoch of the session as it is. -/
theorem Carrying.touched {opening : StreamOpening} {engine : NatsEngine}
    (carrying : Carrying client opening engine world) (op : NatsOp) (broker : Broker) :
    Carrying client opening engine (world.touched client op broker) := carrying

omit [Digests] in
omit [DecidableEq Client] in
/-- A fenced session still carries its epoch. -/
theorem Carrying.fence {opening : StreamOpening} {engine : NatsEngine}
    (carrying : Carrying client opening engine world) (diagnostic : String) :
    Carrying client opening (engine.fence diagnostic) world := carrying

/-- Whatever became of a publish, the session keeps its epoch. -/
theorem wp_settlePublish {opening : StreamOpening} {engine : NatsEngine}
    (outcome : Except OperationFailure (WriteLandingVerdict PubAck × Option String))
    (carrying : Carrying client opening engine world) :
    (NatsEngine.settlePublish outcome).wp (setting client call state)
      (fun _ after later => Carrying client opening after later) engine world := by
  rcases outcome with failure | ⟨ack | carriedEpoch, diagnostic⟩
  · simp only [NatsEngine.settlePublish, Action.wp_bind, Action.wp_modify, Action.wp_throw]
    split_ifs
    · exact carrying.fence _
    · exact carrying
  · simp only [NatsEngine.settlePublish, Action.wp_bind, Action.wp_get]
    split_ifs
    · exact carrying.fence _
    · exact carrying
  · exact carrying.fence _

/-- What a session publishes after a look that grants it the artefact is vetted. -/
theorem wp_publishBlock {opening : StreamOpening} {engine : NatsEngine} (block : Bytes)
    (carrying : Carrying client opening engine world) {snapshot : List Bytes}
    (some_message : snapshot ≠ []) (looking : Looking client snapshot world)
    (grants : Grants snapshot engine.carriedEpoch) :
    (engine.publishBlock block).wp (setting client call state)
      (fun _ after => Carrying client opening engine after) world := by
  unfold NatsEngine.publishBlock
  rw [Program.wp_bind]
  refine wp_request ?_ ?_
  · rintro moved sees - name expectedLast payload - session -
    have kept := carrying.kept sees.rely
    exact ⟨opening, snapshot, kept.2, looking.kept sees.rely, some_message, kept.1 ▸ grants⟩
  · rintro moved answer broker sees - -
    have kept := (carrying.kept sees.rely).touched
      (.publish .dataStream (some engine.lastDataSeq) block) broker
    cases answer with
    | error failure =>
        dsimp only
        split_ifs
        · exact kept
        · exact kept
    | ok ticket =>
        dsimp only
        unfold NatsEngine.awaitLanding
        rw [Program.wp_bind]
        refine wp_question trivial ?_
        rintro later (_ | failure | ack) sees' - -
        · exact kept.kept sees'.rely
        · dsimp only
          split_ifs
          · exact kept.kept sees'.rely
          · exact kept.kept sees'.rely
        · exact kept.kept sees'.rely

/-- The append of a session publishes only what it has checked, and leaves its epoch alone. -/
theorem wp_appendBlock {opening : StreamOpening} {engine : NatsEngine} (block : Bytes)
    (carrying : Carrying client opening engine world) :
    (NatsEngine.appendBlock block).wp (setting client call state)
      (fun _ after later => Carrying client opening after later) engine world := by
  have anything : (NatsEngine.checkAuthority engine).Yields fun _ => True :=
    Program.yields_of_forall (fun _ => trivial) _
  have kept : (NatsEngine.checkAuthority engine).wp (setting client call state)
      (fun _ after => Carrying client opening engine after ∧ True) world :=
    wp_asking (NatsEngine.checkAuthority_only (fun _ quiet => quiet) engine) anything carrying
  have checked : NatsEngine.checkAuthority.wp (setting client call state)
      (fun outcome after later => after = engine ∧ ∀ passed, outcome = .ok passed → ∃ snapshot,
        snapshot ≠ [] ∧ Looking client snapshot later ∧ Grants snapshot engine.carriedEpoch)
      engine world := by
    refine wp_checkAuthority ?_ ?_
    · exact fun snapshot later some_message looking grants =>
        ⟨rfl, fun _ _ => ⟨snapshot, some_message, looking, grants⟩⟩
    · refine fun failure later => ⟨rfl, ?_⟩
      rintro _ ⟨⟩
  simp only [NatsEngine.appendBlock, Action.wp_bind, Action.wp_attempt]
  refine Program.wp_mono (Program.wp_and checked kept) ?_
  rintro ⟨failure | _, after⟩ later ⟨⟨rfl, passed⟩, carrying, -⟩
  · simp only [Action.wp_bind, Action.wp_modify, Action.wp_throw]
    split_ifs
    · exact carrying.fence _
    · exact carrying
  obtain ⟨snapshot, some_message, looking, grants⟩ := passed () rfl
  simp only [NatsEngine.landBlock, Action.wp_bind, Action.wp_get]
  split_ifs with simulated
  · exact carrying.fence _
  simp only [Action.wp_bind, Action.wp_refuseIf, Action.wp_lift]
  split_ifs with overflow
  · exact carrying
  refine Program.wp_mono (wp_publishBlock block carrying some_message looking grants) ?_
  intro outcome landed carrying
  exact wp_settlePublish outcome carrying

/-- So a session that asks questions only goes on carrying what it carries. -/
theorem wp_carrying {opening : StreamOpening} {engine : NatsEngine} {α : Type}
    {program : Program natsOperations α} (view : α → NatsEngine)
    (only : program.Only NatsOp.IsQuiet)
    (yields : program.Yields fun value => (view value).carriedEpoch = engine.carriedEpoch)
    (carrying : Carrying client opening engine world) :
    program.wp (setting client call state)
      (fun value after => Carrying client opening (view value) after) world := by
  refine Program.wp_mono (wp_asking only yields carrying) ?_
  rintro value after ⟨kept, same⟩
  exact ⟨same.trans kept.1, kept.2⟩

/-- A session keeps its epoch through every read. -/
theorem readsKeep (opening : StreamOpening) :
    ReadsKeep (setting client call state) (Carrying client opening) where
  isRetired {engine world} carrying := by
    have only : (NatsEngine.isRetired engine).Only NatsOp.IsQuiet :=
      Program.only_bind (readMetaStream_only (fun _ quiet => quiet) _ ()) fun _ => trivial
    exact wp_carrying (fun _ => engine) only (Program.yields_of_forall (fun _ => rfl) _) carrying
  readChunk {startIndex maxItems engine world} carrying := by
    have only := readDataChunk_only (fun _ quiet => quiet) engine.dataStreamName startIndex maxItems
      engine
    refine wp_carrying Prod.snd only (Program.yields_mono
      (inert_readDataChunk engine.dataStreamName startIndex maxItems engine) ?_) carrying
    rintro ⟨outcome, _⟩ ⟨rfl, -⟩
    rfl
  readAll {engine world} carrying := by
    let counted : NatsEngine := { engine with readAllCount := engine.readAllCount + 1 }
    have only := readDataFrames_only (fun _ quiet => quiet) engine.dataStreamName counted
    refine wp_carrying Prod.snd only (Program.yields_mono
      (inert_readDataFrames engine.dataStreamName counted) ?_) carrying
    rintro ⟨outcome, _⟩ ⟨rfl, -⟩
    rfl
  recoverFrames {σ} onFrame {engine captured world} carrying := by
    have only := NatsEngine.recoverFrames_only (fun _ quiet => quiet) 64 onFrame (engine, captured)
    refine wp_carrying (fun result => result.2.1) only (Program.yields_mono
      (NatsEngine.yields_recoverFrames_engine 64 onFrame engine captured) ?_) carrying
    rintro ⟨outcome, _, after⟩ ⟨last, rfl⟩
    rfl

/-- A flush changes nothing of an engine but that it may fence it. -/
theorem yields_sync (engine : NatsEngine) :
    (NatsEngine.sync engine).Yields fun result => result.2.carriedEpoch = engine.carriedEpoch := by
  have checks : (NatsEngine.checkAuthority engine).Yields fun result => result.2 = engine := by
    refine Program.yields_iff_answered.mpr ?_
    rintro answers ⟨outcome, after⟩ answered
    exact (NatsEngine.checked_of_answered answered).1
  refine Program.yields_bind checks ?_
  rintro ⟨failure | _, _⟩ rfl
  · exact rfl
  · rintro (failure | _)
    · exact rfl
    · exact rfl

/-- A session call leaves its session with the epoch that it carries. -/
theorem wp_session {opening : StreamOpening} {store : Store NatsEngine}
    (session : SessionCall NatsControl τ) (carrying : Carrying client opening store.engine world) :
    (session.perform NatsControl.perform).wp (setting client call state)
      (fun _ after later => Carrying client opening after.engine later) store world := by
  cases session with
  | write write =>
      refine (Action.wp_map _).mpr (write.wp_perform carrying ?_ ?_ ?_
        (J := fun _ moved => Carrying client opening store.engine moved))
      · intro checks before _ kept
        have only : (StorageEngine.checkAuthority store.engine).Only NatsOp.IsQuiet :=
          Program.only_bind (NatsEngine.checkAuthority_only (fun _ quiet => quiet) store.engine)
            fun _ => trivial
        have anything : (StorageEngine.checkAuthority store.engine).Yields fun _ => True :=
          Program.yields_of_forall (fun _ => trivial) _
        refine Program.wp_mono (wp_asking only anything kept) ?_
        rintro (failure | _) after ⟨kept, -⟩
        · exact kept
        · exact kept
      · exact fun checks before failure kept _ => kept
      · intro before envelope payload kept _ _
        refine Action.wp_mono (wp_appendBlock _ kept) ?_
        rintro (failure | position | carriedEpoch) engine later still
        · exact still
        · exact still
        · exact still
  | sync =>
      refine (Action.wp_map _).mpr ((Store.wp_onEngine _).mpr ?_)
      exact wp_carrying Prod.snd (NatsEngine.sync_only (fun _ quiet => quiet) store.engine)
        (yields_sync store.engine) carrying
  | fiber fiberId =>
      simp only [SessionCall.perform, Action.wp_bind, Action.wp_get, Action.wp_ofExcept]
      cases store.fiber fiberId with
      | error failure => exact carrying
      | ok handle => exact carrying
  | getLatest fiberId =>
      simp only [SessionCall.perform, Action.wp_bind, Action.wp_get, Action.wp_ofExcept]
      cases store.getLatest fiberId with
      | error failure => exact carrying
      | ok latest => exact carrying
  | read read =>
      refine (Action.wp_map _).mpr (Action.wp_mono
        (read.wp_perform_keeps (readsKeep opening) carrying) ?_)
      rintro outcome after later ⟨kept, -, -⟩
      exact kept
  | control command =>
      refine (Action.wp_map _).mpr ((Store.wp_onEngine _).mpr ?_)
      cases command with
      | publishTimeout timeout => exact carrying
      | simulateIndeterminate simulate => exact carrying

/-- Any program that is not a session's may run: what it publishes is no event. -/
theorem wp_unvetted (other : ∀ session, call ≠ .session session)
    (begins : world.shared.begun client = [call]) {α : Type} {program : Program natsOperations α}
    {good : α → Prop} (yields : program.Yields good) :
    program.wp (setting client call state)
      (fun value after => after.shared.begun client = [call] ∧ good value) world :=
  wp_keeping (fun session is => (other session is).elim)
    (fun sees kept => sees.rely.own.own.trans kept) (fun kept => kept)
    (Program.only_of_forall (fun _ => trivial) program) yields begins

/-- An opening call ends in a session that carries its epoch, or in none. -/
theorem wp_opening {opening : StreamOpening} (is : call = .opening opening)
    (begins : world.shared.begun client = [call]) :
    ((opening.perform ()).bind fun result => .ret (StreamOpening.conclude result.1)).wp
      (setting client call state) (Ends client call state) world := by
  rw [Program.wp_bind]
  have other : ∀ session, call ≠ .session session := by
    rintro session rfl
    cases is
  refine Program.wp_mono (wp_unvetted other begins (opening.returns_perform ())) ?_
  rintro ⟨failure | store, _⟩ after ⟨begun, returned⟩
  · refine ⟨?_, trivial⟩
    rintro ⟨⟩
  · refine ⟨?_, opening, ?_, ?_⟩
    · rintro ⟨⟩
    · obtain ⟨last, landed, engine⟩ := (returned store rfl).engine
      rw [engine]
      rfl
    · rw [begun, is]
      rfl

end Rules

variable [DecidableEq Client]

/-- Every step of a client keeps to the discipline of looks and publishes. -/
theorem obeys : (watchedClients Client).Obeys (discipline Client τ) where
  rely_refl _ _ := .refl _ _
  rely_trans earlier later := WatchedBroker.Rely.trans earlier later
  grows_refl _ := .refl _
  grows_trans earlier later := WatchedBroker.Grows.trans earlier later
  holds sees holds := Holds.kept sees.rely holds
  during sees during := During.kept sees.rely during
  ends := by
    rintro client call state final before after sees ⟨started, holds⟩
    exact ⟨started, Holds.kept sees.rely holds⟩
  start := by
    rintro client call state program world inv holds possible
    have moves : (discipline Client τ).Moves client world (world.entered client call) :=
      ⟨Vetted.entered inv call, WatchedBroker.grows_entered _,
        fun other apart => WatchedBroker.rely_entered _ apart⟩
    have begun : (world.entered client call).shared.begun client =
        world.shared.begun client ++ [call] := Function.update_self ..
    have last : ((world.entered client call).shared.begun client).getLast? = some call := by
      rw [begun, List.getLast?_concat]
    cases state with
    | gone outcomes => cases call <;> cases possible
    | waiting =>
        have begins : (world.entered client call).shared.begun client = [call] := by
          have unbegun : world.shared.begun client = [] := holds
          rw [begun, unbegun]
          rfl
        cases call with
        | session session => cases possible
        | opening opening =>
            cases possible
            exact ⟨moves, ⟨last, begins⟩, wp_opening rfl begins⟩
        | record adapter entry =>
            cases possible
            refine ⟨moves, ⟨last, begins⟩, ?_⟩
            rw [Program.wp_bind]
            have anything : (adapter.recordOwnershipRecord entry ()).Yields fun _ => True :=
              Program.yields_of_forall (fun _ => trivial) _
            refine Program.wp_mono (wp_unvetted (by simp) begins anything) ?_
            rintro result after -
            refine ⟨?_, trivial⟩
            rintro ⟨⟩
    | live store outcomes =>
        obtain ⟨opening, carries, began⟩ := holds
        have carrying : Carrying client opening store.engine (world.entered client call) := by
          refine ⟨carries, ?_⟩
          rw [begun, List.getElem?_append_left (List.getElem?_eq_some_iff.mp began).1]
          exact began
        cases call with
        | opening opening => cases possible
        | record adapter entry => cases possible
        | session session =>
            cases possible
            refine ⟨moves, ⟨last, opening, carrying⟩, ?_⟩
            rw [Program.wp_bind]
            refine Program.wp_mono (wp_session session carrying) ?_
            rintro ⟨outcome, after⟩ later kept
            refine ⟨?_, opening, kept⟩
            rintro ⟨⟩
  finish := by
    rintro client call state final world inv during ⟨started, holds⟩
    exact ⟨⟨inv, .refl _, fun other _ => .refl other _⟩, holds⟩
  die_idle := by
    rintro client state world inv holds
    exact ⟨⟨inv, .refl _, fun other _ => .refl other _⟩, trivial⟩
  die_busy := by
    rintro client call state world inv during
    exact ⟨⟨inv, .refl _, fun other _ => .refl other _⟩, trivial⟩
  others inv moved :=
    ⟨Vetted.handled inv moved, WatchedBroker.grows_handles moved, WatchedBroker.rely_handles moved⟩

variable (Client τ) in
/-- Before anybody has looked at anything, the discipline holds. -/
theorem nothingSeen_sound :
    Sound (watchedClients Client) (discipline Client τ) (nothingSeen Client τ) where
  invariant := by
    refine ⟨⟨rfl, ⟨?_, ?_, ?_⟩⟩, rfl, ?_, fun _ => Nat.le_refl 0, ?_, ?_⟩
    · intro name place payload found
      cases found
    · intro ticket sequence records publish found
      cases found
    · intro ticket other sequence records more publish another found
      cases found
    · intro ticket number client found
      cases found
    · intro ticket sequence records publish found
      cases found
    · rintro client number ticket publish call ⟨sender, -⟩
      cases sender
  idle := by
    rintro client state ⟨⟩
    rfl
  busy := by
    rintro client call state rest ⟨⟩

end Vetting

section Landings

variable [Digests] {Client τ : Type}

/-- An event of a session has landed. The session carried this epoch, it had looked at so
many messages of the ownership record in the check before it published the event, and there
were so many when the event landed. -/
def EventLanded (world : WatchedBroker Client τ) (epoch : UInt64) (looked records : Nat) : Prop :=
  ∃ client number ticket publish sequence call opening,
    world.shared.Sent client number ticket publish ∧
      (world.shared.begun client)[number]? = some (.session call) ∧
      (world.shared.begun client)[0]? = some (.opening opening) ∧ opening.carries.2 = epoch ∧
      world.seen[ticket]? = some looked ∧ publish.fate = .landed sequence records

/-- Every event of a session landed while the ownership record granted the artefact to the
epoch that its session carries. -/
def FencedAtLanding (world : WatchedBroker Client τ) : Prop :=
  ∀ epoch looked records, EventLanded world epoch looked records →
    Grants (world.records.take records) epoch

/-- No event landed after a record that gives the artefact to another owner and that its
session's check was too early to see. -/
def NeverOvertaken (world : WatchedBroker Client τ) : Prop :=
  ∀ epoch looked records, EventLanded world epoch looked records →
    ¬Overtakes ((world.records.take records).drop looked) epoch

/-- An event lands on records that still grant its session the artefact exactly when no
record has overtaken it. -/
theorem Vetted.fenced_iff {world : WatchedBroker Client τ} (vetted : Vetted world) {epoch : UInt64}
    {looked records : Nat} (landed : EventLanded world epoch looked records) :
    Grants (world.records.take records) epoch ↔
      ¬Overtakes ((world.records.take records).drop looked) epoch := by
  obtain ⟨client, number, ticket, publish, sequence, call, opening, sent, session, opens, rfl, seen,
    fate⟩ := landed
  obtain ⟨_, snapshot, opened, known, within, some_message, grants, later⟩ :=
    vetted.vetted sent session
  rw [opens] at opened
  cases opened
  rw [seen] at known
  cases known
  have inside : snapshot <+: world.records.take records :=
    List.prefix_of_prefix_length_le within (List.take_prefix ..) (by
      rw [List.length_take]
      have short := later sequence records fate
      have bounded := within.length_le
      omega)
  obtain ⟨between, split⟩ := inside
  rw [← split, List.drop_left]
  exact grants.append_iff some_message

/-- In every run of any number of clients, the fence holds at every landing exactly if no
event is overtaken: between the look at the ownership record that its session took before
publishing it and its landing, no outbound pointer landed, and no claim of another epoch
landed last. -/
theorem fenced_at_landing_iff [DecidableEq Client] {config : WatchedConfiguration Client τ}
    (run : (watchedClients Client).Reaches (nothingSeen Client τ) config) :
    FencedAtLanding config.world ↔ NeverOvertaken config.world := by
  obtain ⟨sound, -⟩ := (Vetting.nothingSeen_sound Client τ).reaches Vetting.obeys run
  have vetted : Vetted config.world := sound.invariant
  constructor
  · intro fenced epoch looked records landed
    exact (vetted.fenced_iff landed).mp (fenced epoch looked records landed)
  · intro never epoch looked records landed
    exact (vetted.fenced_iff landed).mpr (never epoch looked records landed)

end Landings

section Slow

/-- A broker without failures, but for publishes: it takes its time with all of them. -/
def slowBroker (adapter : NatsStorageAdapter) : Handler natsOperations Broker :=
  fun (op : NatsOp) broker => match op with
  | .publish name expectedLast payload =>
      (.ok broker.publishes.length, broker.sent name expectedLast payload)
  | op => promptBroker adapter op broker

/-- The slow broker answers as a broker may, and then handles what it was sent. -/
theorem slowBroker_allowed (adapter : NatsStorageAdapter) (op : NatsOp) (broker : Broker) :
    ∃ between, NatsOp.Performs op broker (slowBroker adapter op broker).1 between ∧
      Relation.ReflTransGen Broker.Handles between (slowBroker adapter op broker).2 := by
  cases op with
  | publish name expectedLast payload => exact ⟨_, Or.inl ⟨rfl, rfl⟩, .refl⟩
  | _ => exact promptBroker_allowed adapter _ broker

/-- To questions it answers like any broker without failures. -/
theorem evaluate_slowBroker_quiet (adapter : NatsStorageAdapter) {α : Type}
    {program : Program natsOperations α} (only : program.Only NatsOp.IsQuiet) (broker : Broker) :
    program.evaluate (slowBroker adapter) broker =
      program.evaluate (promptBroker adapter) broker := by
  refine Program.evaluate_congr ?_ only broker
  intro op world quiet
  cases op with
  | publish name expectedLast payload => exact quiet.elim
  | _ => rfl

variable [Digests] (adapter : NatsStorageAdapter) {broker : Broker}

/-- A slow broker takes the event of an owner, and does not acknowledge it. -/
theorem evaluate_slowly {store : Store NatsEngine} {payloads : List Bytes} {records : MetaRecords}
    {claim : OwnershipClaimRecord} {payload : Bytes} {envelope : EventEnvelope}
    (named : store.engine.metaStreamName = adapter.metaStreamName)
    (unread : store.uncertain = false) (unsure : store.engine.uncertain = false)
    (told : store.engine.uncertainDiagnostic = none)
    (real : store.engine.simulateIndeterminate = false) (room : store.engine.lastDataSeq ≠ u64Max)
    (fits : ∀ payload ∈ payloads, payload.length ≤ u32Max)
    (stands : broker.streams .metaStream = some (Broker.framedMessages payloads))
    (readable : MetaRecords.ofFrames payloads = .ok records)
    (active : records.outboundPointer = none) (claimed : records.latestClaim = some claim)
    (carries : claim.epoch = store.engine.carriedEpoch)
    (admitted : AdmittedFrame store.fiberIndex payload envelope) :
    ((WriteCall.perform (.appendFrame payload) store).evaluate (slowBroker adapter) broker).2 =
      broker.sent .dataStream (some store.engine.lastDataSeq)
        (ContainerFrame.frameBytes payload) := by
  have checked : (NatsEngine.checkAuthority store.engine).evaluate (slowBroker adapter) broker =
      ((.ok (), store.engine), broker) := by
    rw [evaluate_slowBroker_quiet adapter
      (NatsEngine.checkAuthority_only (fun _ quiet => quiet) store.engine),
      NatsEngine.evaluate_checkAuthority adapter named unsure fits stands readable active claimed,
      Action.refuseIf_of_not _ _ (by simp [carries])]
    rfl
  have authorized : (StorageEngine.checkAuthority store.engine).evaluate (slowBroker adapter)
      broker = (.ok (), broker) := by
    refine (Program.evaluate_bind _ _ _ _).trans ?_
    rw [checked]
    rfl
  have certain : store.isUncertain = false := by
    unfold Store.isUncertain
    rw [unread]
    exact congrArg Option.isSome told
  let block := ContainerFrame.frameBytes payload
  let later := broker.sent .dataStream (some store.engine.lastDataSeq) block
  have unanswered : later.acknowledges adapter.streamName broker.publishes.length =
      .error ⟨false, "timed out"⟩ := by
    simp [later, Broker.acknowledges, Broker.sent]
  have awaited : (NatsOp.send (.awaitAckWithinTimeout broker.publishes.length)).evaluate
      (slowBroker adapter) later = (some (.error ⟨false, "timed out"⟩), later) := by
    rw [← unanswered]
    rfl
  have published : (store.engine.publishBlock block).evaluate (slowBroker adapter) broker =
      (.ok (.undetermined store.engine.carriedEpoch,
        some ("publish ack failed; write landing undetermined: " ++ "timed out")), later) := by
    refine (Program.evaluate_bind _ _ _ _).trans ?_
    change (store.engine.awaitLanding broker.publishes.length).evaluate
      (slowBroker adapter) later = _
    rw [NatsEngine.awaitLanding, Program.evaluate_bind, awaited]
    rfl
  let fenced := store.engine.fence
    ("publish ack failed; write landing undetermined: " ++ "timed out")
  have appended : ((StorageEngine.appendBlock block : Action natsOperations _ NatsEngine _)
      store.engine).evaluate (slowBroker adapter) broker =
        ((.ok (.undetermined store.engine.carriedEpoch), fenced), later) := by
    refine (Action.evaluate_bind (Action.evaluate_attempt checked)).trans ?_
    unfold NatsEngine.landBlock
    dsimp only
    rw [Action.evaluate_bind rfl, if_neg (by simp [real]),
      Action.evaluate_bind (Action.evaluate_refuseIf room _ _),
      Action.evaluate_bind (Action.evaluate_lift published _)]
    rfl
  have landed : (Store.landFrame envelope block store).evaluate (slowBroker adapter) broker =
      ((.ok (.undetermined store.engine.carriedEpoch), _), later) :=
    Action.evaluate_bind (Store.evaluate_onEngine appended)
  have written : (WriteCall.perform (.appendFrame payload) store).evaluate (slowBroker adapter)
      broker = ((.ok (.undetermined store.engine.carriedEpoch), _), later) :=
    Action.evaluate_bind
      ((Store.evaluate_appendFrameVerdict certain authorized admitted).trans landed)
  rw [written]

/-- A session call that writes leaves the broker as its write does. -/
theorem evaluate_write {τ World : Type} {handler : Handler natsOperations World} {world : World}
    (write : WriteCall) (store : Store NatsEngine) :
    ((SessionCall.perform NatsControl.perform (.write write : SessionCall NatsControl τ)
      store).evaluate handler world).2 = ((write.perform store).evaluate handler world).2 := by
  refine (congrArg Prod.snd (Program.evaluate_bind handler (write.perform store) _ world)).trans ?_
  rcases ((write.perform store).evaluate handler world).1 with ⟨_ | verdict, after⟩
  · rfl
  · rfl

omit [Digests] in
/-- A publish without an expectation is taken wherever the stream ends. -/
theorem Broker.taken_anywhere {name : StreamName} {messages : List Bytes}
    (stands : broker.streams name = some messages) (payload : Bytes) :
    broker.taken name none payload = (broker.sent name none payload).accepted
      broker.publishes.length ⟨name, none, payload, .pending⟩ messages := by
  unfold Broker.taken
  rw [stands]
  exact if_pos (by rintro last ⟨⟩)

omit [Digests] in
/-- A question that fails is refused as it says. -/
theorem evaluate_askOr_refused {α : Type} {handler : Handler natsOperations Broker}
    {program : Program natsOperations (Except NatsError α)} (refusal : NatsError → OperationFailure)
    {later : Broker} {failure : NatsError}
    (answered : program.evaluate handler broker = (.error failure, later)) :
    (askOr program refusal () : Program natsOperations _).evaluate handler broker =
      ((.error (refusal failure), ()), later) := by
  unfold askOr
  rw [Action.evaluate_bind (Action.evaluate_lift answered ())]
  rfl

/-- A record is appended wherever the ownership record ends. -/
theorem evaluate_recordOwnershipRecord (record : OwnershipRecord)
    (fits : record.encode.length ≤ u32Max) :
    ((adapter.recordOwnershipRecord record ()).evaluate (promptBroker adapter) broker).2 =
      broker.taken .metaStream none (ContainerFrame.frameBytes record.encode) := by
  have framed : NatsStorageAdapter.seedFrame record.encode "meta frame" =
      .ok (ContainerFrame.frameBytes record.encode) :=
    mapError_eq_ok.mpr (encodePayload_ok_iff.mpr ⟨fits, rfl⟩)
  let frame := ContainerFrame.frameBytes record.encode
  let later := broker.taken .metaStream none frame
  have publishes : (NatsOp.send (.publish .metaStream none frame)).evaluate (promptBroker adapter)
      broker = (.ok broker.publishes.length, later) := rfl
  unfold NatsStorageAdapter.recordOwnershipRecord
  rw [framed, Action.evaluate_bind rfl, Action.evaluate_bind (evaluate_askOr _ () publishes)]
  cases acknowledged : later.acknowledges adapter.streamName broker.publishes.length with
  | error failure =>
      have answered : (NatsOp.send (.awaitAck broker.publishes.length)).evaluate
          (promptBroker adapter) later = (.error failure, later) := congrArg (·, later) acknowledged
      rw [Action.evaluate_bind_error (evaluate_askOr_refused _ answered)]
  | ok ack =>
      have answered : (NatsOp.send (.awaitAck broker.publishes.length)).evaluate
          (promptBroker adapter) later = (.ok ack, later) := congrArg (·, later) acknowledged
      rw [Action.evaluate_bind (evaluate_askOr _ () answered)]
      by_cases named : ack.stream ≠ adapter.metaStreamName
      · rw [Action.refuseIf_of_holds _ _ named]
        rfl
      · rw [Action.refuseIf_of_not _ _ named]
        rfl

end Slow

/-- Every publish has a sender. -/
theorem credited_of_reaches [Digests] {Client τ : Type} [DecidableEq Client]
    {config : StreamConfiguration Client τ}
    (run : (streamClients Client fun _ => true).Reaches (noStreams Client τ) config) :
    config.world.Credited := by
  obtain ⟨world, watched, same⟩ := exists_watched run
  obtain ⟨sound, -⟩ := (Vetting.nothingSeen_sound Client τ).reaches Vetting.obeys watched
  have vetted : Vetted world := sound.invariant
  exact same ▸ vetted.credited

section Example

attribute [local instance] standardDigests

/-- The records of a created artefact. -/
def numberRecords : List Bytes :=
  [(OwnershipRecord.ownershipClaim (bareClaim 1)).encode, numberDescriptor.encodedRecord]

/-- The frame of the claim that supersedes its owner. -/
def successorFrame : Bytes :=
  ContainerFrame.frameBytes (OwnershipRecord.ownershipClaim (bareClaim 2)).encode

/-- The ownership record of the created artefact holds its three records. -/
theorem createdNumber_records :
    createdNumber.2.streams .metaStream = some (Broker.framedMessages numberRecords) ∧
      ∀ record ∈ numberRecords, record.length ≤ u32Max := by
  have evaluates : ∃ ended, (numberCreation.perform ()).Runs brokerSetting ⟨fun _ => none, []⟩
      createdNumber.1 ended ∧ Relation.ReflTransGen Broker.Handles ended createdNumber.2 :=
    Program.exists_runs_evaluate Relation.ReflTransGen.trans (fun _ => Relation.ReflTransGen.refl)
      (promptBroker_allowed seededStreams) (numberCreation.perform ()) _
  obtain ⟨ended, runs, moved⟩ := evaluates
  have only := NatsStorageAdapter.createWithLimit_only (σ := Unit) seededStreams (bareClaim 1)
    numberDescriptor u32Max ()
  have seeding := ((Seeding.fresh (fun _ => rfl) (by rintro publish ⟨⟩)).reaches only
    (Program.reaches_of_runs runs)).handled moved
  have counted : (createdNumber.2.messages .metaStream).length = 3 := by decide +kernel
  exact seeding.complete (List.getElem?_eq_getElem (counted ▸ Nat.lt_succ_self 2))

/-- The event data of the created artefact holds the header alone. -/
theorem createdNumber_events :
    createdNumber.2.streams .dataStream = some [ContainerHeader.new.toBytes] := by decide +kernel

/-- What they say: the first owner, its schema, and nothing else. -/
theorem numberRecords_read : MetaRecords.ofFrames numberRecords =
    .ok ⟨some (bareClaim 1), some ⟨1, .u64⟩, none, none, none, none, none⟩ := by
  decide +kernel

/-- It took four publishes to create it. -/
theorem createdNumber_publishes : createdNumber.2.publishes.length = 4 := by decide +kernel

/-- An owner creates the artefact and sends an event, which the broker does not handle yet. -/
theorem exists_sent : ∃ config : StreamConfiguration Nat Unit,
    (streamClients Nat fun _ => true).Reaches (noStreams Nat Unit) config ∧
      config.doing 1 = .idle .waiting ∧
      config.world.broker = createdNumber.2.sent .dataStream (some 1)
        (ContainerFrame.frameBytes genesisPayload) ∧
      config.world.begun 0 =
        [.opening numberCreation, .session (.write (.appendFrame genesisPayload))] ∧
      config.world.senders = List.replicate 4 (0, 0) ++ [(0, 1)] := by
  obtain ⟨store, created, creates, isEngine, isIndex, certain⟩ := exists_created (fun _ => true) rfl
  obtain ⟨recorded, fits⟩ := createdNumber_records
  have admitted : AdmittedFrame store.fiberIndex genesisPayload genesisEvent := by
    rw [isIndex]
    exact genesisPayload_admitted
  have idle : created.doing 0 = .idle (.live store [.ok .opened]) := by simp [creates.doing]
  let append : SessionCall NatsControl Unit := .write (.appendFrame genesisPayload)
  have possible : (ClientCall.session append : ClientCall Unit).program
      (.live store [.ok .opened]) = some ((append.perform NatsControl.perform store).bind
        fun result => .ret (.live result.2 ([.ok .opened] ++ [result.1.map .session]))) := rfl
  obtain ⟨config, sends⟩ := exists_called (fun _ => true) (slowBroker_allowed seededStreams) idle
    rfl possible rfl
  have sent : config.world.broker = createdNumber.2.sent .dataStream (some 1)
      (ContainerFrame.frameBytes genesisPayload) := by
    have slowly : ((WriteCall.perform (.appendFrame genesisPayload) store).evaluate
        (slowBroker seededStreams) createdNumber.2).2 = createdNumber.2.sent .dataStream
          (some store.engine.lastDataSeq) (ContainerFrame.frameBytes genesisPayload) :=
      evaluate_slowly seededStreams (by rw [isEngine]; rfl) certain (by rw [isEngine]; rfl)
        (by rw [isEngine]; rfl) (by rw [isEngine]; rfl) (by rw [isEngine]; decide) fits recorded
        numberRecords_read rfl rfl (by rw [isEngine]; rfl) admitted
    rw [isEngine] at slowly
    rw [sends.broker, creates.broker]
    refine (congrArg Prod.snd (Program.evaluate_bind _ _ _ _)).trans ?_
    exact (evaluate_write _ _).trans slowly
  have reached := creates.reaches.trans sends.reaches
  have four := createdNumber_publishes
  obtain ⟨count, seeds⟩ := creates.senders
  obtain ⟨more, others⟩ := sends.senders
  have first := (credited_of_reaches creates.reaches).senders
  have second := (credited_of_reaches reached).senders
  rw [others, List.length_append, List.length_replicate, first, creates.broker, sent] at second
  simp only [Broker.sent, List.length_append, List.length_singleton, four] at second
  rw [seeds, creates.broker, four] at first
  simp only [noStreams, List.nil_append, List.length_replicate] at first
  obtain rfl : more = 1 := by omega
  subst first
  refine ⟨config, reached, ?_, sent, ?_, ?_⟩
  · simp [sends.doing, creates.doing, noStreams]
  · simp [sends.begun, creates.begun, noStreams, append]
  · rw [others, seeds]
    simp [creates.begun, noStreams]

/-- Before the broker takes the event, somebody else claims the artefact. -/
theorem exists_landed_overtaken : ∃ config : WatchedConfiguration Nat Unit,
    (watchedClients Nat).Reaches (nothingSeen Nat Unit) config ∧
      ∃ looked, EventLanded config.world 1 looked 4 ∧ config.world.records =
        Broker.framedMessages numberRecords ++ [successorFrame] := by
  obtain ⟨before, sends, idle, broker, begun, senders⟩ := exists_sent
  obtain ⟨recorded, -⟩ := createdNumber_records
  have events := createdNumber_events
  have four := createdNumber_publishes
  have possible : (ClientCall.record seededStreams (.ownershipClaim (bareClaim 2)) :
      ClientCall Unit).program .waiting = some
        ((seededStreams.recordOwnershipRecord (.ownershipClaim (bareClaim 2)) ()).bind
          fun result => .ret (.gone [result.1.map fun _ => .recorded])) := rfl
  obtain ⟨config, claims⟩ := exists_called (fun _ => true) (promptBroker_allowed seededStreams)
    idle rfl possible rfl
  have claimed : config.world.broker =
      before.world.broker.taken .metaStream none successorFrame := by
    rw [claims.broker]
    refine (congrArg Prod.snd (Program.evaluate_bind _ _ _ _)).trans ?_
    exact evaluate_recordOwnershipRecord seededStreams _ (by decide +kernel)
  -- the broker takes the event
  have stands : before.world.broker.streams .metaStream =
      some (Broker.framedMessages numberRecords) := by
    rw [broker]
    exact recorded
  rw [Broker.taken_anywhere stands] at claimed
  have pending : config.world.broker.publishes[4]? =
      some ⟨.dataStream, some 1, ContainerFrame.frameBytes genesisPayload, .pending⟩ := by
    rw [claimed, broker]
    simp [Broker.accepted, Broker.sent, four]
  have stored : config.world.broker.streams .dataStream = some [ContainerHeader.new.toBytes] := by
    rw [claimed, broker]
    simp [Broker.accepted, Broker.sent, events]
  have counted : config.world.broker.messages .metaStream =
      Broker.framedMessages numberRecords ++ [successorFrame] := by
    rw [claimed]
    simp [Broker.accepted, Broker.messages]
  let landed : Broker := config.world.broker.accepted 4
    ⟨.dataStream, some 1, ContainerFrame.frameBytes genesisPayload, .pending⟩
    [ContainerHeader.new.toBytes]
  have takes : config.world.broker.Handles landed :=
    .accept pending rfl stored (by rintro last ⟨⟩; rfl)
  have run : (streamClients Nat fun _ => true).Reaches (noStreams Nat Unit)
      ⟨{ config.world with broker := landed }, config.doing⟩ :=
    (sends.trans claims.reaches).tail (.others ⟨_, takes, rfl⟩)
  obtain ⟨world, watched, same⟩ := exists_watched run
  obtain ⟨sound, -⟩ := (Vetting.nothingSeen_sound Nat Unit).reaches Vetting.obeys watched
  have vetted : Vetted world := sound.invariant
  have author : world.shared.senders[4]? = some (0, 1) := by
    obtain ⟨count, more⟩ := claims.senders
    rw [same]
    simp [more, senders]
  have calls : world.shared.begun 0 =
      [.opening numberCreation, .session (.write (.appendFrame genesisPayload))] := by
    rw [same]
    simp [claims.begun, begun]
  have fated : world.shared.broker.publishes[4]? = some ⟨.dataStream, some 1,
      ContainerFrame.frameBytes genesisPayload, .landed 2 4⟩ := by
    rw [same]
    simp only [landed, Broker.accepted, counted]
    rw [List.getElem?_set_self (List.getElem?_eq_some_iff.mp pending).1]
    rfl
  have sent : world.shared.Sent 0 1 4 _ := ⟨author, fated⟩
  have session : (world.shared.begun 0)[1]? =
      some (.session (.write (.appendFrame genesisPayload))) := by
    rw [calls]
    rfl
  have opens : (world.shared.begun 0)[0]? = some (.opening numberCreation) := by
    rw [calls]
    rfl
  obtain ⟨_, snapshot, -, looked, -⟩ := vetted.vetted sent session
  refine ⟨_, watched, snapshot.length,
    ⟨0, 1, 4, _, 2, _, _, sent, session, opens, rfl, looked, rfl⟩, ?_⟩
  rw [WatchedBroker.records, same]
  exact (Broker.messages_accepted stored .metaStream).trans ((List.append_nil _).trans counted)

/-- The claim of the successor does not grant the artefact to the first owner. -/
theorem not_grants_successor :
    ¬Grants (Broker.framedMessages numberRecords ++ [successorFrame]) 1 := by
  intro grants
  have claims := grants.claimed
  have records : framedRecords ((Broker.framedMessages numberRecords ++ [successorFrame]).drop 1) =
      numberRecords ++ [(OwnershipRecord.ownershipClaim (bareClaim 2)).encode] := by
    have framed : (Broker.framedMessages numberRecords ++ [successorFrame]).drop 1 =
        (numberRecords ++ [(OwnershipRecord.ownershipClaim (bareClaim 2)).encode]).map
          ContainerFrame.frameBytes := by
      simp only [Broker.framedMessages, successorFrame, List.cons_append, List.drop_one,
        List.tail_cons, List.map_append, List.map_cons, List.map_nil]
    rw [framed]
    exact framedRecords_frames (by decide +kernel)
  rw [records] at claims
  revert claims
  decide +kernel

/-- An event does land although another owner has claimed the artefact before. -/
theorem fenced_at_landing_iff_overtaken : ∃ config : WatchedConfiguration Nat Unit,
    (watchedClients Nat).Reaches (nothingSeen Nat Unit) config ∧
      ¬FencedAtLanding config.world ∧ ¬NeverOvertaken config.world := by
  obtain ⟨config, run, looked, landed, records⟩ := exists_landed_overtaken
  have unfenced : ¬FencedAtLanding config.world := by
    intro fenced
    have grants := fenced 1 looked 4 landed
    rw [records, List.take_of_length_le (by rfl)] at grants
    exact not_grants_successor grants
  exact ⟨config, run, unfenced, fun never => unfenced ((fenced_at_landing_iff run).mpr never)⟩

end Example

end Pardosa
