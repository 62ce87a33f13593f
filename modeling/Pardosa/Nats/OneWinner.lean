import Pardosa.Nats.Clients
import Pardosa.Nats.Creation

/-!
# One creation wins

Nothing excludes the clients that create, complete and open one artefact at the same
time; every message that they publish is conditioned on the place that it is meant for.
A creation publishes a record only after the one before it has landed, so all records
come from one creation, and the header of the event data lands once.
-/

namespace Pardosa

open Foundation

/-- Only the calls that open a session. -/
def ClientCall.isOpening {τ : Type} : ClientCall τ → Bool
  | .opening _ => true
  | _ => false

section Conditions

variable [Digests] {Client τ : Type}

/-- A client has begun to create an artefact with these records. -/
def Creates (client : Client) (records : List Bytes) (shared : SharedBroker Client τ) : Prop :=
  ∃ adapter claim descriptor maxWireLen,
    shared.begun client = [.opening (.createWithLimit adapter claim descriptor maxWireLen)] ∧
      records = [(OwnershipRecord.ownershipClaim claim).encode, descriptor.encodedRecord]

/-- What a client may publish: a record of its own creation once all earlier ones have
landed, and the header of the event data once all records have. -/
inductive Permitted (shared : SharedBroker Client τ) (client : Client) : Publish → Prop where
  | record {records : List Bytes} {place : Nat} {payload : Bytes} {fate : PublishFate}
      (creates : Creates client records shared) (seed : IsSeed records .metaStream place payload)
      (earlier : ∀ before < place, ∃ number, shared.Wrote client number .metaStream before) :
      Permitted shared client ⟨.metaStream, some place, payload, fate⟩
  | header {fate : PublishFate} (recorded : 3 ≤ (shared.broker.messages .metaStream).length) :
      Permitted shared client ⟨.dataStream, some 0, ContainerHeader.new.toBytes, fate⟩

/-- Nothing was published but what the clients may publish. -/
structure Conditioned (shared : SharedBroker Client τ) : Prop where
  credited : shared.Credited
  sent : ∀ {client : Client} {number ticket : Nat} {publish : Publish},
    shared.Sent client number ticket publish → Permitted shared client publish

variable {shared before after : SharedBroker Client τ} {client : Client}

/-- What a client may publish it may publish later on. -/
theorem Permitted.grows (grows : SharedBroker.Grows before after)
    (begun : ∀ client, before.begun client ≠ [] → after.begun client = before.begun client)
    {publish : Publish} {fate : PublishFate}
    (permitted : Permitted before client { publish with fate }) :
    Permitted after client publish := by
  obtain ⟨stream, expectedLast, payload, fate'⟩ := publish
  cases permitted with
  | record creates seed earlier =>
      obtain ⟨adapter, claim, descriptor, maxWireLen, begins, is⟩ := creates
      refine .record ⟨adapter, claim, descriptor, maxWireLen, ?_, is⟩ seed ?_
      · rw [begun client (by rw [begins]; simp), begins]
      · intro place less
        obtain ⟨number, wrote⟩ := earlier place less
        exact ⟨number, wrote.grows grows⟩
  | header recorded => exact .header (recorded.trans (grows.broker.messages .metaStream).length_le)

/-- When the broker grows and nothing is sent but what a client may publish, nothing is
published but that. -/
theorem Conditioned.grows (holds : Conditioned before) (grows : SharedBroker.Grows before after)
    (credited : after.Credited)
    (begun : ∀ client, before.begun client ≠ [] → after.begun client = before.begun client)
    (sent : ∀ {client : Client} {number ticket : Nat} {publish : Publish},
      after.Sent client number ticket publish →
      (∃ fate, before.Sent client number ticket { publish with fate }) ∨
        Permitted before client publish) : Conditioned after where
  credited := credited
  sent found := by
    rcases sent found with ⟨fate, earlier⟩ | permitted
    · exact (holds.sent earlier).grows grows begun
    · exact Permitted.grows grows begun permitted

/-- A message that a call wrote was permitted, and stands where it was expected to. -/
theorem Conditioned.wrote (holds : Conditioned shared) {number place : Nat} {name : StreamName}
    (wrote : shared.Wrote client number name place) : ∃ payload fate,
      (shared.broker.messages name)[place]? = some payload ∧
        Permitted shared client ⟨name, some place, payload, fate⟩ := by
  obtain ⟨ticket, ⟨stream, expectedLast, payload, fate⟩, records, sent, rfl, rfl⟩ := wrote
  have permitted := holds.sent sent
  obtain ⟨at_, same, stands, expected⟩ := holds.credited.logged.landed sent.2 rfl
  obtain rfl : place = at_ := Nat.succ.inj same
  refine ⟨payload, .landed (place + 1) records, stands, ?_⟩
  cases permitted with
  | record creates seed earlier =>
      obtain rfl := expected _ rfl
      exact .record creates seed earlier
  | header recorded =>
      obtain rfl := expected _ rfl
      exact .header recorded

/-- All records of the artefact were written by one client. -/
theorem Conditioned.one_creator (holds : Conditioned shared) {other : Client}
    {number another place beyond : Nat} (within : place ≤ beyond)
    (wrote : shared.Wrote client number .metaStream place)
    (also : shared.Wrote other another .metaStream beyond) : client = other := by
  rcases Nat.lt_or_eq_of_le within with less | rfl
  · obtain ⟨payload, fate, -, permitted⟩ := holds.wrote also
    cases permitted with
    | record creates seed earlier =>
        obtain ⟨_, theirs⟩ := earlier place less
        exact (wrote.unique holds.credited theirs).1
  · exact (wrote.unique holds.credited also).1

/-- The ownership record is a beginning of what one creation writes, and every message
of it was written by that creation. -/
theorem Conditioned.meta_prefix (holds : Conditioned shared) :
    shared.broker.messages .metaStream = [] ∨ ∃ client records, Creates client records shared ∧
      shared.broker.messages .metaStream <+: Broker.framedMessages records ∧
      ∀ place < (shared.broker.messages .metaStream).length,
        ∃ number, shared.Wrote client number .metaStream place := by
  by_cases nothing : shared.broker.messages .metaStream = []
  · exact .inl nothing
  have first : 0 < (shared.broker.messages .metaStream).length := List.length_pos_iff.mpr nothing
  obtain ⟨client, number, wrote⟩ := holds.credited.wrote (List.getElem?_eq_getElem first)
  have writes : ∀ place < (shared.broker.messages .metaStream).length,
      ∃ number, shared.Wrote client number .metaStream place := by
    intro place within
    obtain ⟨other, another, also⟩ := holds.credited.wrote (List.getElem?_eq_getElem within)
    obtain rfl := holds.one_creator (Nat.zero_le place) wrote also
    exact ⟨another, also⟩
  obtain ⟨_, _, -, permitted⟩ := holds.wrote wrote
  cases permitted with
  | @record records _ _ _ creates _ _ =>
      refine .inr ⟨client, records, creates, List.prefix_iff_getElem?.mpr ?_, writes⟩
      intro place within
      obtain ⟨another, also⟩ := writes place within
      obtain ⟨payload, fate, stands, permitted⟩ := holds.wrote also
      rw [List.getElem?_eq_getElem within] at stands
      cases permitted with
      | @record others _ _ _ alsoCreates seed _ =>
          obtain ⟨_, _, _, _, begins, rfl⟩ := creates
          obtain ⟨_, _, _, _, begins', rfl⟩ := alsoCreates
          rw [begins] at begins'
          cases begins'
          exact seed.of_meta.trans stands.symm

/-- The event data holds at most its header, and that only once all records landed. -/
theorem Conditioned.data_prefix (holds : Conditioned shared) :
    shared.broker.messages .dataStream <+: [ContainerHeader.new.toBytes] ∧
      (shared.broker.messages .dataStream ≠ [] →
        3 ≤ (shared.broker.messages .metaStream).length) := by
  have only : ∀ place payload, (shared.broker.messages .dataStream)[place]? = some payload →
      place = 0 ∧ payload = ContainerHeader.new.toBytes ∧
        3 ≤ (shared.broker.messages .metaStream).length := by
    intro place payload found
    obtain ⟨client, number, wrote⟩ := holds.credited.wrote found
    obtain ⟨payload', fate, stands, permitted⟩ := holds.wrote wrote
    rw [found] at stands
    cases stands
    cases permitted with
    | header recorded => exact ⟨rfl, rfl, recorded⟩
  refine ⟨List.prefix_iff_getElem?.mpr fun place within => ?_, fun some_message => ?_⟩
  · obtain ⟨rfl, is, -⟩ := only place _ (List.getElem?_eq_getElem within)
    rw [is]
    rfl
  · exact (only 0 _ (List.getElem?_eq_getElem (List.length_pos_iff.mpr some_message))).2.2

/-- A stream that is created publishes nothing. -/
theorem Conditioned.created (holds : Conditioned shared) (client : Client) (name : StreamName) :
    Conditioned (shared.touched client (shared.broker.created name)) := by
  have extension := Broker.extends_created shared.broker name
  refine holds.grows (SharedBroker.grows_touched extension)
    (holds.credited.touched extension (holds.credited.logged.created name) client)
      (fun _ _ => rfl) ?_
  rintro author number ticket publish ⟨sender, sent⟩
  refine .inl ⟨publish.fate, ?_, sent⟩
  simpa [SharedBroker.touched, Broker.created] using sender

/-- A client that publishes what it may leaves nothing published but what may be. -/
theorem Conditioned.sends (holds : Conditioned shared) {name : StreamName}
    {expectedLast : Option Nat} {payload : Bytes}
    (permitted : Permitted shared client ⟨name, expectedLast, payload, .pending⟩) :
    Conditioned (shared.touched client (shared.broker.sent name expectedLast payload)) := by
  have extension := Broker.extends_sent shared.broker name expectedLast payload
  refine holds.grows (SharedBroker.grows_touched extension)
    (holds.credited.touched extension holds.credited.logged.sent client) (fun _ _ => rfl) ?_
  rintro author number ticket publish ⟨sender, sent⟩
  rw [SharedBroker.senders_sent] at sender
  rcases Broker.publishes_sent sent with earlier | ⟨rfl, rfl⟩
  · refine .inl ⟨publish.fate, ?_, earlier⟩
    have inside := (List.getElem?_eq_some_iff.mp earlier).1
    rw [← holds.credited.senders] at inside
    rwa [List.getElem?_append_left inside] at sender
  · rw [← holds.credited.senders, List.getElem?_concat_length] at sender
    obtain ⟨rfl, -⟩ := Prod.mk.inj (Option.some.inj sender)
    exact .inr permitted

/-- The broker handling a publish publishes nothing. -/
theorem Conditioned.handled (holds : Conditioned before) (moved : before.Handles after) :
    Conditioned after := by
  have grows := moved.grows
  have credited := holds.credited.handled moved
  obtain ⟨broker, handled, rfl⟩ := moved
  refine holds.grows grows credited (fun _ _ => rfl) ?_
  rintro author number ticket publish ⟨sender, sent⟩
  obtain ⟨fate, earlier⟩ := handled.publish sent
  exact .inl ⟨fate, sender, earlier⟩

/-- A client that begins its first call. -/
theorem Conditioned.entered [DecidableEq Client] (holds : Conditioned shared)
    (unbegun : shared.begun client = []) (call : ClientCall τ) :
    Conditioned (shared.entered client call) := by
  refine holds.grows (SharedBroker.grows_entered call) ⟨holds.credited.senders,
    holds.credited.logged⟩ ?_ (fun found => .inl ⟨_, found⟩)
  intro other begins
  refine Function.update_of_ne ?_ ..
  rintro rfl
  exact begins unbegun

end Conditions

section Discipline

variable [Digests] {Client τ : Type}

/-- A client has sent nothing. -/
def Silent (client : Client) (shared : SharedBroker Client τ) : Prop :=
  ∀ ticket number : Nat, shared.senders[ticket]? ≠ some (client, number)

/-- What it takes to be given a session: the header of the event data was written by
this client, unless it opened event data that was there and published nothing. -/
def Entitled (client : Client) (shared : SharedBroker Client τ) : Prop :=
  (∃ number, shared.Wrote client number .dataStream 0) ∨
    (∃ adapter carriedEpoch, shared.begun client = [.opening (.openWrite adapter carriedEpoch)]) ∧
      Silent client shared

namespace Opening

/-- What holds of a client before and after its opening call. -/
def Holds (client : Client) (state : ClientState τ) (shared : SharedBroker Client τ) : Prop :=
  match state with
  | .waiting => shared.begun client = [] ∧ Silent client shared
  | .live _ outcomes | .gone outcomes => outcomes[0]? = some (.ok .opened) → Entitled client shared

/-- What holds of a client at any time of its opening call. -/
def During (client : Client) (call : ClientCall τ) (state : ClientState τ)
    (shared : SharedBroker Client τ) : Prop :=
  state.outcomes = [] ∧ shared.begun client = [call]

/-- What holds of a client at the end of its opening call. -/
def Ends (client : Client) (_ : ClientCall τ) (_ final : ClientState τ)
    (shared : SharedBroker Client τ) : Prop :=
  final ≠ .waiting ∧ (final.outcomes[0]? = some (.ok .opened) → Entitled client shared)

variable (Client τ) in
/-- What clients that open one artefact promise each other. -/
def discipline : Discipline (SharedBroker Client τ) Client (ClientCall τ) (ClientState τ) :=
  brokerDiscipline Conditioned Holds During Ends

end Opening

section Kept

variable {client : Client} {before after : SharedBroker Client τ}
  (rely : SharedBroker.Rely client before after)

include rely

omit [Digests] in
/-- A client that has sent nothing has sent nothing when the others have acted. -/
theorem Silent.kept (silent : Silent client before) : Silent client after :=
  fun ticket number found => silent ticket number (rely.sent found)

omit [Digests] in
/-- The title to a session is not lost while the others act. -/
theorem Entitled.kept (entitled : Entitled client before) : Entitled client after := by
  rcases entitled with ⟨number, wrote⟩ | ⟨⟨adapter, carriedEpoch, begins⟩, silent⟩
  · exact .inl ⟨number, wrote.grows rely.toGrows⟩
  · exact .inr ⟨⟨adapter, carriedEpoch, rely.own.trans begins⟩, silent.kept rely⟩

omit [Digests] in
/-- What holds of a client between its calls is not disturbed by the others. -/
theorem Opening.Holds.kept {state : ClientState τ} (holds : Opening.Holds client state before) :
    Opening.Holds client state after := by
  cases state with
  | waiting => exact ⟨rely.own.trans holds.1, holds.2.kept rely⟩
  | live store outcomes => exact fun opened => (holds opened).kept rely
  | gone outcomes => exact fun opened => (holds opened).kept rely

end Kept

section Rules

variable [DecidableEq Client] {client : Client} {call : ClientCall τ} {state : ClientState τ}
  {world : SharedBroker Client τ} {σ : Type} {own : σ}

/-- The world as a client finds it during an opening call. -/
abbrev Opening.setting (client : Client) (call : ClientCall τ) (state : ClientState τ) :
    Setting natsOperations (SharedBroker Client τ) :=
  (Opening.discipline Client τ).setting (streamClients Client ClientCall.isOpening)
    client call state

/-- The creation of a stream. -/
theorem Opening.wp_createStream {Kept : SharedBroker Client τ → Prop}
    (lasting : ∀ {before after}, SharedBroker.Grows before after → Kept before → Kept after)
    (start : Kept world) (name : StreamName) (refusal : NatsError → OperationFailure) :
    (askOr (NatsOp.send (.createStream name)) refusal).wp (Opening.setting client call state)
      (fun _ _ after => Kept after) own world := by
  refine wp_askOr.mpr (wp_request ?_)
  rintro moved answer broker sees ⟨fresh, begins⟩ performs
  have grows : SharedBroker.Grows moved (moved.touched client broker) :=
    SharedBroker.grows_touched (Broker.extends_performed performs)
  refine ⟨?_, ⟨fresh, begins⟩, lasting grows (lasting sees.grows start)⟩
  have stays : Conditioned (moved.touched client moved.broker) := by
    rw [SharedBroker.touched_same]
    exact sees.invariant
  rcases performs with ⟨-, rfl⟩ | ⟨-, rfl | rfl⟩
  · exact Conditioned.created sees.invariant client name
  · exact stays
  · exact Conditioned.created sees.invariant client name

omit [Digests] [DecidableEq Client] in
/-- Who is answered that a publish landed has written the message that it expected to
write. -/
theorem SharedBroker.wrote_of_answer {moved later : SharedBroker Client τ} {name : StreamName}
    {place : Nat} {payload : Bytes} {ack : PubAck} (credited : moved.Credited)
    (grows : SharedBroker.Grows
      (moved.touched client (moved.broker.sent name (some place) payload)) later)
    (after : later.Credited)
    (answered : later.broker.Answers moved.broker.publishes.length (.ok ack)) :
    later.Wrote client ((moved.begun client).length - 1) name place ∧ ack.sequence = place + 1 := by
  have sent : (moved.broker.sent name (some place) payload).publishes[
      moved.broker.publishes.length]? = some ⟨name, some place, payload, .pending⟩ :=
    List.getElem?_concat_length
  have sender : (moved.touched client (moved.broker.sent name (some place) payload)).senders[
      moved.broker.publishes.length]? = some (client, (moved.begun client).length - 1) := by
    rw [senders_sent, ← credited.senders]
    exact List.getElem?_concat_length
  obtain ⟨fate, kept, -⟩ := grows.broker.publishes sent
  obtain ⟨records, known⟩ := answered
  unfold Broker.fate at known
  rw [kept] at known
  obtain rfl : fate = .landed ack.sequence records := Option.some.inj known
  obtain ⟨there, same, -, expected⟩ := after.logged.landed kept rfl
  obtain rfl := expected place rfl
  exact ⟨⟨_, _, records, ⟨grows.sender sender, kept⟩, rfl, by rw [same]⟩, same⟩

/-- A seeding publish that is acknowledged was written by its client. -/
theorem Opening.wp_publishSeed {Kept : SharedBroker Client τ → Prop}
    (lasting : ∀ {before after}, SharedBroker.Grows before after → Kept before → Kept after)
    (start : Kept world) (adapter : NatsStorageAdapter) (seed : SeedPublish) {place : Nat}
    {payload : Bytes}
    (permitted : ∀ moved : SharedBroker Client τ, Conditioned moved → moved.begun client = [call] →
      Kept moved → Permitted moved client ⟨seed.stream, some place, payload, .pending⟩) :
    (adapter.publishSeed seed place payload).wp (Opening.setting client call state)
      (fun outcome _ after => Kept after ∧ ∀ ack, outcome = .ok ack →
        ∃ number, after.Wrote client number seed.stream place) own world := by
  simp only [NatsStorageAdapter.publishSeed, Action.wp_bind, Action.wp_refuseIf]
  refine wp_request ?_
  rintro moved answer broker sees ⟨fresh, begins⟩ performs
  have kept := lasting sees.grows start
  rcases performs with ⟨rfl, rfl⟩ | ⟨⟨failure, rfl⟩, rfl⟩
  · have grows : SharedBroker.Grows moved (moved.touched client
        (moved.broker.sent seed.stream (some place) payload)) :=
      SharedBroker.grows_touched (Broker.extends_sent moved.broker seed.stream (some place) payload)
    refine ⟨Conditioned.sends sees.invariant (permitted moved sees.invariant begins kept),
      ⟨fresh, begins⟩, ?_⟩
    refine wp_question trivial ?_
    rintro later answer sees' - ⟨-, answers⟩
    have stillKept := lasting sees'.grows (lasting grows kept)
    rcases answer with failure | ack
    · refine ⟨stillKept, ?_⟩
      rintro ack ⟨⟩
    dsimp only [Except.mapError]
    split_ifs
    · refine ⟨stillKept, ?_⟩
      rintro ack ⟨⟩
    refine ⟨stillKept, ?_⟩
    rintro _ ⟨⟩
    exact ⟨_, (SharedBroker.wrote_of_answer sees.invariant.credited sees'.grows
      sees'.invariant.credited answers).1⟩
  · rw [SharedBroker.touched_same]
    refine ⟨sees.invariant, ⟨fresh, begins⟩, kept, ?_⟩
    rintro ack ⟨⟩

/-- Records that hold a schema descriptor are complete. -/
def Described (records : MetaRecords) (shared : SharedBroker Client τ) : Prop :=
  records.schemaDescriptor.isSome = true → 3 ≤ (shared.broker.messages .metaStream).length

omit [DecidableEq Client] in
/-- One more message of the ownership record: the schema descriptor is the third. -/
theorem Described.absorb {shared : SharedBroker Client τ} {records after : MetaRecords}
    {seq : Nat} {raw : Bytes} (holds : Conditioned shared) (described : Described records shared)
    (positive : 0 < seq) (found : (shared.broker.messages .metaStream)[seq - 1]? = some raw)
    (absorbed : records.absorbMessage seq raw = .ok after) : Described after shared := by
  obtain ⟨client, number, wrote⟩ := holds.credited.wrote found
  obtain ⟨payload, fate, stands, permitted⟩ := holds.wrote wrote
  rw [found] at stands
  cases stands
  unfold MetaRecords.absorbMessage at absorbed
  cases permitted with
  | @record contents _ _ _ creates seed _ =>
      obtain ⟨adapter, claim, descriptor, maxWireLen, -, rfl⟩ := creates
      rcases Nat.lt_or_ge 2 seq with third | early
      · intro _
        have inside := (List.getElem?_eq_some_iff.mp found).1
        omega
      · by_cases first : seq = 1
        · rw [if_pos first] at absorbed
          obtain ⟨-, -, ⟨⟩⟩ := bind_eq_ok.mp absorbed
          exact described
        · obtain rfl : seq = 2 := by omega
          rw [if_neg first] at absorbed
          obtain ⟨content, unframed, taken⟩ := bind_eq_ok.mp absorbed
          cases seed with
          | record is fits =>
              cases is
              rw [MetaRecords.unframe_frameBytes (fits _ (by simp))] at unframed
              cases unframed
              obtain ⟨entry, consumed, decoded, absorbed⟩ := MetaRecords.absorbFrame_ok taken
              have known := OwnershipRecord.decode_encode_ownershipClaim claim []
              rw [List.append_nil] at known
              rw [known] at decoded
              cases decoded
              cases absorbed
              exact described

/-- Whoever reads a schema descriptor reads a complete ownership record. -/
theorem Opening.wp_absorbMessages {count seq : Nat} {records : MetaRecords} (positive : 0 < seq)
    (described : Described records world) :
    (absorbMessages count seq records).wp (Opening.setting client call state)
      (fun outcome _ after => ∀ records, outcome = .ok records → Described records after) own
      world := by
  induction count generalizing seq records world with
  | zero =>
      rintro _ ⟨⟩
      exact described
  | succ count ih =>
      simp only [absorbMessages, Action.wp_bind, Action.wp_ofExcept]
      refine wp_question trivial ?_
      rintro moved answer sees - ⟨-, performs⟩
      have still : Described records moved := fun is =>
        (described is).trans (sees.grows.broker.messages .metaStream).length_le
      rcases performs with ⟨failure, rfl⟩ | ⟨raw, -, found, rfl⟩
      · rintro _ ⟨⟩
      dsimp only [Except.mapError]
      cases absorbed : records.absorbMessage seq raw with
      | error failure => rintro _ ⟨⟩
      | ok after =>
          exact ih (Nat.succ_pos seq) (still.absorb sees.invariant positive found absorbed)

/-- Records that are read with a descriptor among them are complete. -/
theorem Opening.wp_readMetaStream (metaStreamName : String) :
    (readMetaStream metaStreamName).wp (Opening.setting client call state)
      (fun outcome _ after => ∀ records, outcome = .ok records → Described records after) own
      world := by
  have nothing : ∀ shared : SharedBroker Client τ, Described .empty shared := fun _ => nofun
  simp only [readMetaStream, Action.wp_bind, Action.wp_lift]
  refine wp_question trivial ?_
  rintro moved (failure | _) sees - -
  · dsimp only
    split_ifs
    · rintro _ ⟨⟩
      exact nothing moved
    · rintro _ ⟨⟩
  simp only [Action.wp_bind, Action.wp_refuseIf]
  refine wp_question trivial ?_
  rintro later (failure | info) sees' - ⟨-, performs⟩
  · rintro _ ⟨⟩
  dsimp only [Except.mapError]
  split_ifs with empty gap
  · rintro _ ⟨⟩
  · rintro _ ⟨⟩
  rcases performs with ⟨failure, ⟨⟩⟩ | ⟨messages, stands, ⟨⟩⟩
  refine Opening.wp_absorbMessages ?_ (nothing later)
  have some_message : messages.length ≠ 0 := empty
  simp only [Broker.infoOf]
  omega

/-- The first so many records are those of a client. -/
def Seeded (client : Client) (count : Nat) (shared : SharedBroker Client τ) : Prop :=
  ∀ place < count, ∃ number, shared.Wrote client number .metaStream place

omit [Digests] [DecidableEq Client] in
/-- The first records of a client stay its own. -/
theorem Seeded.grows {count : Nat} {before after : SharedBroker Client τ}
    (grows : SharedBroker.Grows before after) (seeded : Seeded client count before) :
    Seeded client count after := by
  intro place less
  obtain ⟨number, wrote⟩ := seeded place less
  exact ⟨number, wrote.grows grows⟩

omit [Digests] [DecidableEq Client] in
/-- With one more record written there is one more that is the client's own. -/
theorem Seeded.succ {count number : Nat} {shared : SharedBroker Client τ}
    (seeded : Seeded client count shared)
    (wrote : shared.Wrote client number .metaStream count) : Seeded client (count + 1) shared := by
  intro place less
  rcases Nat.lt_or_eq_of_le (Nat.le_of_lt_succ less) with earlier | rfl
  · exact seeded place earlier
  · exact ⟨number, wrote⟩

omit [DecidableEq Client] in
/-- A client that wrote three records leaves three in the stream. -/
theorem Seeded.recorded {shared : SharedBroker Client τ} (holds : Conditioned shared)
    (seeded : Seeded client 3 shared) : 3 ≤ (shared.broker.messages .metaStream).length := by
  obtain ⟨number, wrote⟩ := seeded 2 (by omega)
  obtain ⟨payload, fate, stands, -⟩ := holds.wrote wrote
  exact (List.getElem?_eq_some_iff.mp stands).1

/-- The header of the event data, published once the ownership record is complete. -/
theorem Opening.wp_publishHeader {Kept : SharedBroker Client τ → Prop}
    (lasting : ∀ {before after}, SharedBroker.Grows before after → Kept before → Kept after)
    (start : Kept world) (recorded : ∀ moved : SharedBroker Client τ,
      Conditioned moved → Kept moved →
      3 ≤ (moved.broker.messages .metaStream).length) (adapter : NatsStorageAdapter)
    (overtaken : String) :
    (adapter.publishSeed (NatsStorageAdapter.dataSeed overtaken) 0 ContainerHeader.new.toBytes).wp
      (Opening.setting client call state) (fun outcome _ after => ∀ ack, outcome = .ok ack →
        ∃ number, after.Wrote client number .dataStream 0) own world := by
  refine Action.wp_mono (Opening.wp_publishSeed lasting start adapter _ ?_) fun _ _ _ => And.right
  intro moved inv begins kept
  exact .header (recorded moved inv kept)

/-- The end of an opening: the header landed, and recovery only asks. -/
theorem Opening.wp_openWriter {number : Nat} (wrote : world.Wrote client number .dataStream 0)
    (engine : NatsEngine) :
    (Action.within engine Store.openWriter).wp (Opening.setting client call state)
      (fun (_ : Except OperationFailure (Store NatsEngine)) _ after =>
        ∃ number, after.Wrote client number .dataStream 0) own world := by
  rw [Action.wp_within]
  let Written (shared : SharedBroker Client τ) : Prop :=
    ∃ number, shared.Wrote client number .dataStream 0
  have lasting : ∀ {before after : SharedBroker Client τ},
      (Opening.discipline Client τ).Sees client before after → Written before → Written after := by
    rintro before after sees ⟨number, wrote⟩
    exact ⟨number, wrote.grows sees.grows⟩
  have start : Written world := ⟨number, wrote⟩
  exact wp_questions lasting (NatsEngine.openWriter_only (fun _ quiet => quiet) engine) start

/-- A creation that succeeds has written the header of the event data. -/
theorem Opening.wp_createWithLimit (adapter : NatsStorageAdapter) (claim : OwnershipClaimRecord)
    (descriptor : AdmittedDescriptor) (maxWireLen : Nat)
    (creates : call = .opening (.createWithLimit adapter claim descriptor maxWireLen)) :
    (adapter.createWithLimit claim descriptor maxWireLen).wp (Opening.setting client call state)
      (fun outcome _ after => ∀ store, outcome = .ok store →
        ∃ number, after.Wrote client number .dataStream 0) own world := by
  let records := [(OwnershipRecord.ownershipClaim claim).encode, descriptor.encodedRecord]
  have nothing : Seeded client 0 world := fun _ less => (Nat.not_lt_zero _ less).elim
  have lasting : ∀ {count : Nat} {before after : SharedBroker Client τ},
      SharedBroker.Grows before after → Seeded client count before → Seeded client count after :=
    fun grows seeded => seeded.grows grows
  have permitted : ∀ {place : Nat} {payload : Bytes}, IsSeed records .metaStream place payload →
      ∀ moved : SharedBroker Client τ, Conditioned moved → moved.begun client = [call] →
      Seeded client place moved → Permitted moved client
          ⟨.metaStream, some place, payload, .pending⟩ := by
    intro place payload seed moved inv begins seeded
    exact .record ⟨adapter, claim, descriptor, maxWireLen, creates ▸ begins, rfl⟩ seed seeded
  have looking : (adapter.tryPresence : Action natsOperations OperationFailure σ _).Only
      NatsOp.IsQuiet := NatsStorageAdapter.tryPresence_only (fun _ quiet => quiet) adapter
  simp only [NatsStorageAdapter.createWithLimit, Action.wp_bind, Action.wp_ofExcept]
  refine Action.wp_mono (wp_asking (fun sees => lasting sees.grows) looking nothing) ?_
  rintro (failure | presence) own first seeded
  · rintro _ ⟨⟩
  dsimp only
  cases admitCreate presence with
  | error failure => rintro _ ⟨⟩
  | ok =>
  dsimp only
  cases computeClaimWireLenBounded (utf8Bytes claim.operatorLabel.val).length maxWireLen with
  | error failure => rintro _ ⟨⟩
  | ok =>
  dsimp only
  refine Action.wp_mono (Opening.wp_createStream lasting seeded .metaStream _) ?_
  rintro (failure | _) own second seeded
  · rintro _ ⟨⟩
  dsimp only
  refine Action.wp_mono (Opening.wp_publishSeed lasting seeded adapter
    (NatsStorageAdapter.metaSeed _)
    (permitted (.header _))) ?_
  rintro (failure | ack) own third ⟨seeded, wrote⟩
  · rintro _ ⟨⟩
  obtain ⟨number, wrote⟩ := wrote ack rfl
  replace seeded := seeded.succ wrote
  dsimp only
  cases claimFramed : NatsStorageAdapter.seedFrame (OwnershipRecord.ownershipClaim claim).encode
      "claim frame" with
  | error failure => rintro _ ⟨⟩
  | ok claimFrame =>
  obtain ⟨claimFits, rfl⟩ := seedFrame_ok claimFramed
  dsimp only
  refine Action.wp_mono (Opening.wp_publishSeed lasting seeded adapter
    (NatsStorageAdapter.metaSeed _)
    (permitted (.record rfl (by simpa [records] using claimFits)))) ?_
  rintro (failure | ack) own fourth ⟨seeded, wrote⟩
  · rintro _ ⟨⟩
  obtain ⟨number, wrote⟩ := wrote ack rfl
  replace seeded := seeded.succ wrote
  dsimp only
  cases descFramed : NatsStorageAdapter.seedFrame descriptor.encodedRecord
      "schema descriptor frame" with
  | error failure => rintro _ ⟨⟩
  | ok descFrame =>
  obtain ⟨descriptorFits, rfl⟩ := seedFrame_ok descFramed
  dsimp only
  refine Action.wp_mono (Opening.wp_publishSeed lasting seeded adapter
    (NatsStorageAdapter.metaSeed _)
    (permitted (.record rfl (by simpa [records] using ⟨claimFits, descriptorFits⟩)))) ?_
  rintro (failure | ack) own fifth ⟨seeded, wrote⟩
  · rintro _ ⟨⟩
  obtain ⟨number, wrote⟩ := wrote ack rfl
  replace seeded := seeded.succ wrote
  dsimp only
  refine Action.wp_mono (Opening.wp_createStream lasting seeded .dataStream _) ?_
  rintro (failure | _) own sixth seeded
  · rintro _ ⟨⟩
  dsimp only
  refine Action.wp_mono (Opening.wp_publishHeader lasting seeded
    (fun moved inv seeded => seeded.recorded inv) adapter _) ?_
  rintro (failure | ack) own seventh wrote
  · rintro _ ⟨⟩
  obtain ⟨number, wrote⟩ := wrote ack rfl
  refine Action.wp_mono (Opening.wp_openWriter wrote _) ?_
  intro _ _ _ written _ _
  exact written

/-- So has a completion that succeeds. -/
theorem Opening.wp_completeCreation (adapter : NatsStorageAdapter) (claim : OwnershipClaimRecord) :
    (adapter.completeCreation claim).wp (Opening.setting client call state)
      (fun outcome _ after => ∀ store, outcome = .ok store →
        ∃ number, after.Wrote client number .dataStream 0) own world := by
  let Anything (_ : SharedBroker Client τ) : Prop := True
  have anything : ∀ shared, Anything shared := fun _ => trivial
  let Recorded (shared : SharedBroker Client τ) : Prop :=
    3 ≤ (shared.broker.messages .metaStream).length
  have lasting : ∀ {before after : SharedBroker Client τ}, SharedBroker.Grows before after →
      Recorded before → Recorded after := fun grows recorded =>
    recorded.trans (grows.broker.messages .metaStream).length_le
  have looking : (adapter.tryPresence : Action natsOperations OperationFailure σ _).Only
      NatsOp.IsQuiet := NatsStorageAdapter.tryPresence_only (fun _ quiet => quiet) adapter
  have resolving : (adapter.resolveOpenSubjects .ownershipRecordOnly :
      Action natsOperations OperationFailure σ _).Only NatsOp.IsQuiet :=
    NatsStorageAdapter.resolveOpenSubjects_only (fun _ quiet => quiet) adapter _
  unfold NatsStorageAdapter.completeCreation
  rw [Action.wp_bind]
  refine Action.wp_mono (wp_asking (fun _ => id) looking (anything world)) ?_
  rintro (failure | presence) own first -
  · rintro _ ⟨⟩
  cases presence with
  | none => rintro _ ⟨⟩
  | eventDataOnly => rintro _ ⟨⟩
  | both => rintro _ ⟨⟩
  | ownershipRecordOnly =>
  simp only [Action.wp_bind]
  refine Action.wp_mono (wp_asking (fun _ => id) resolving (anything first)) ?_
  rintro (failure | _) own second -
  · rintro _ ⟨⟩
  dsimp only
  refine Action.wp_mono (Opening.wp_readMetaStream adapter.metaStreamName) ?_
  rintro (failure | records) own third described
  · rintro _ ⟨⟩
  replace described := described records rfl
  simp only [NatsStorageAdapter.requireDescriptor, Action.wp_bind, Action.wp_require,
    Action.wp_ofExcept, Action.wp_refuseIf, Action.wp_pure]
  cases schema : records.schemaDescriptor with
  | none => rintro _ ⟨⟩
  | some descriptor =>
  have recorded : Recorded third := described (by rw [schema]; rfl)
  dsimp only
  cases AdmittedDescriptor.tryFromDescriptor descriptor with
  | error failure => rintro _ ⟨⟩
  | ok admitted =>
  dsimp only [Except.mapError]
  cases records.latestClaim with
  | none => rintro _ ⟨⟩
  | some durableClaim =>
  dsimp only
  split_ifs
  · rintro _ ⟨⟩
  refine Action.wp_mono (Opening.wp_createStream lasting recorded .dataStream _) ?_
  rintro (failure | _) own fourth recorded
  · rintro _ ⟨⟩
  dsimp only
  refine Action.wp_mono (Opening.wp_publishHeader lasting recorded (fun _ _ => id) adapter _) ?_
  rintro (failure | ack) own fifth wrote
  · rintro _ ⟨⟩
  obtain ⟨number, wrote⟩ := wrote ack rfl
  refine Action.wp_mono (Opening.wp_openWriter wrote _) ?_
  intro _ _ _ written _ _
  exact written

/-- An opening for writing that succeeds has written the header, unless it published
nothing. -/
theorem Opening.wp_openWrite (adapter : NatsStorageAdapter) (carriedEpoch : UInt64)
    (silent : Silent client world) (begins : world.begun client = [call]) :
    (adapter.openWrite carriedEpoch).wp (Opening.setting client call state)
      (fun outcome _ after => ∀ store, outcome = .ok store →
        (∃ number, after.Wrote client number .dataStream 0) ∨
          after.begun client = [call] ∧ Silent client after) own world := by
  let Unheard (shared : SharedBroker Client τ) : Prop :=
    shared.begun client = [call] ∧ Silent client shared
  have unheard : Unheard world := ⟨begins, silent⟩
  have lasting : ∀ {before after : SharedBroker Client τ},
      (Opening.discipline Client τ).Sees client before after → Unheard before → Unheard after :=
    fun sees unheard => ⟨sees.rely.own.trans unheard.1, unheard.2.kept sees.rely⟩
  have asks : ∀ op : NatsOp, op.IsQuiet → op.IsQuiet := fun _ quiet => quiet
  have looking : (adapter.tryPresence : Action natsOperations OperationFailure σ _).Only
      NatsOp.IsQuiet := NatsStorageAdapter.tryPresence_only asks adapter
  have reading : (readMetaStream adapter.metaStreamName :
      Action natsOperations OperationFailure σ _).Only NatsOp.IsQuiet :=
    readMetaStream_only asks adapter.metaStreamName
  unfold NatsStorageAdapter.openWrite
  rw [Action.wp_bind]
  refine Action.wp_mono (wp_asking lasting looking unheard) ?_
  rintro (failure | presence) own first unheard
  · rintro _ ⟨⟩
  cases presence with
  | none => rintro _ ⟨⟩
  | eventDataOnly => rintro _ ⟨⟩
  | ownershipRecordOnly =>
      simp only [Action.wp_bind, Action.wp_refuseIf, Action.wp_require]
      refine Action.wp_mono (wp_asking lasting reading unheard) ?_
      rintro (failure | records) own second unheard
      · rintro _ ⟨⟩
      dsimp only
      split_ifs
      · rintro _ ⟨⟩
      cases records.latestClaim with
      | none => rintro _ ⟨⟩
      | some claim =>
      dsimp only
      split_ifs
      · rintro _ ⟨⟩
      refine Action.wp_mono (Opening.wp_completeCreation adapter claim) ?_
      intro outcome own later wrote store returned
      exact .inl (wrote store returned)
  | both =>
      have only : (do
          adapter.resolveOpenSubjects .both
          let records ← readMetaStream adapter.metaStreamName
          NatsStorageAdapter.admitRecords records carriedEpoch
          let info ← dataExtent adapter.dataStreamName
          Action.within (adapter.engine carriedEpoch info.lastSequence (info.messages > 1))
            Store.openWriter : Action natsOperations OperationFailure σ (Store NatsEngine)).Only
            NatsOp.IsQuiet := adapter.openBoth_only asks carriedEpoch
      refine Action.wp_mono (wp_asking lasting only unheard) ?_
      intro outcome own later unheard store returned
      exact .inr unheard

/-- What a call leads to. -/
theorem Opening.wp_perform (opening : StreamOpening) (is : call = .opening opening)
    (begins : world.begun client = [call])
    (silent : Silent client world) :
    ((opening.perform ()).bind fun result => .ret (StreamOpening.conclude result.1)).wp
      (Opening.setting client call state) (Opening.Ends client call state) world := by
  have concluded : ∀ (outcome : Except OperationFailure (Store NatsEngine)) after,
      (∀ store, outcome = .ok store → Entitled client after) →
      Opening.Ends client call state (StreamOpening.conclude outcome) after := by
    intro outcome after entitled
    cases outcome with
    | error failure => exact ⟨nofun, nofun⟩
    | ok store => exact ⟨nofun, fun _ => entitled store rfl⟩
  rw [Program.wp_bind]
  show opening.perform.wp (Opening.setting client call state) (fun outcome _ after =>
    Opening.Ends client call state (StreamOpening.conclude outcome) after) () world
  cases opening with
  | createWithLimit adapter claim descriptor maxWireLen =>
      refine Action.wp_mono (Opening.wp_createWithLimit adapter claim descriptor maxWireLen is) ?_
      intro outcome own after wrote
      exact concluded outcome after fun store returned => .inl (wrote store returned)
  | completeCreation adapter claim =>
      refine Action.wp_mono (Opening.wp_completeCreation adapter claim) ?_
      intro outcome own after wrote
      exact concluded outcome after fun store returned => .inl (wrote store returned)
  | openWrite adapter carriedEpoch =>
      refine Action.wp_mono (Opening.wp_openWrite adapter carriedEpoch silent begins) ?_
      intro outcome own after wrote
      refine concluded outcome after fun store returned => ?_
      rcases wrote store returned with written | ⟨begins, silent⟩
      · exact .inl written
      · exact .inr ⟨⟨adapter, carriedEpoch, is ▸ begins⟩, silent⟩

end Rules

section Obeys

variable [DecidableEq Client]

/-- Every step of an opening client keeps to what the clients may publish. -/
theorem opening_obeys :
    (streamClients Client (ClientCall.isOpening : ClientCall τ → Bool)).Obeys
      (Opening.discipline Client τ) where
  rely_refl _ _ := .refl _ _
  rely_trans earlier later := SharedBroker.Rely.trans earlier later
  grows_refl _ := .refl _
  grows_trans earlier later := SharedBroker.Grows.trans earlier later
  holds sees holds := holds.kept sees.rely
  during := by
    rintro client call state before after sees ⟨fresh, begins⟩
    exact ⟨fresh, sees.rely.own.trans begins⟩
  ends := by
    rintro client call state final before after sees ⟨started, entitled⟩
    exact ⟨started, fun opened => (entitled opened).kept sees.rely⟩
  start := by
    rintro client call state program world inv holds possible
    have opens : call.isOpening = true ∧ call.program state = some program := by
      simp only [streamClients] at possible
      split_ifs at possible with opens
      exact ⟨opens, possible⟩
    obtain ⟨isOpening, possible⟩ := opens
    cases call with
    | session | record => cases isOpening
    | opening opening =>
    cases state with
    | live | gone => cases possible
    | waiting =>
    cases possible
    obtain ⟨unbegun, silent⟩ := holds
    have begins : (world.entered client (.opening opening)).begun client = [.opening opening] := by
      simp [SharedBroker.entered, unbegun]
    refine ⟨⟨Conditioned.entered inv unbegun _, SharedBroker.grows_entered _,
      fun other apart => SharedBroker.rely_entered _ apart⟩, ⟨rfl, begins⟩, ?_⟩
    exact Opening.wp_perform opening rfl begins silent
  finish := by
    rintro client call state final world inv during ⟨started, entitled⟩
    refine ⟨⟨inv, .refl _, fun other _ => .refl other _⟩, ?_⟩
    cases final with
    | waiting => exact (started rfl).elim
    | live store outcomes => exact entitled
    | gone outcomes => exact entitled
  die_idle := by
    rintro client state world inv holds
    refine ⟨⟨inv, .refl _, fun other _ => .refl other _⟩, ?_⟩
    cases state with
    | waiting => rintro ⟨⟩
    | live store outcomes => exact holds
    | gone outcomes => exact holds
  die_busy := by
    rintro client call state world inv ⟨fresh, -⟩
    refine ⟨⟨inv, .refl _, fun other _ => .refl other _⟩, ?_⟩
    intro opened
    rw [fresh] at opened
    cases opened
  others := by
    intro before after inv moved
    exact ⟨Conditioned.handled inv moved, moved.grows, moved.rely⟩

variable (Client τ) in
/-- Before there are streams, nothing has been published. -/
theorem noStreams_sound : Sound (streamClients Client (ClientCall.isOpening : ClientCall τ → Bool))
    (Opening.discipline Client τ) (noStreams Client τ) where
  invariant := by
    refine ⟨⟨rfl, ⟨?_, nofun, nofun⟩⟩, ?_⟩
    · intro name place payload found
      cases found
    · rintro client number ticket publish ⟨sender, -⟩
      cases sender
  idle := by
    rintro client state ⟨⟩
    exact ⟨rfl, nofun⟩
  busy := nofun

end Obeys

section Winner

/-- A call that creates or completes the artefact has succeeded. An opening for writing
that goes through the completion publishes the header; one that finds the event data
publishes nothing. -/
def HasCompleted (config : StreamConfiguration Client τ) (client : Client) : Prop :=
  (config.doing client).state.outcomes[0]? = some (.ok .opened) ∧
    ((∀ adapter carriedEpoch,
        config.world.begun client ≠ [.opening (.openWrite adapter carriedEpoch)]) ∨
      ¬Silent client config.world)

/-- What the streams hold was written by one creation, up to the header of the event
data. -/
structure OneCreation (shared : SharedBroker Client τ) : Prop where
  records : shared.broker.messages .metaStream = [] ∨
    ∃ client records, Creates client records shared ∧
      shared.broker.messages .metaStream <+: Broker.framedMessages records ∧
      ∀ place < (shared.broker.messages .metaStream).length,
        ∃ number, shared.Wrote client number .metaStream place
  events : shared.broker.messages .dataStream <+: [ContainerHeader.new.toBytes]
  recorded : shared.broker.messages .dataStream ≠ [] →
    ∃ client records, Creates client records shared ∧
      shared.broker.messages .metaStream = Broker.framedMessages records ∧
      ∀ place < 3, ∃ number, shared.Wrote client number .metaStream place

/-- When nothing is published but what may be, the streams hold what one creation wrote. -/
theorem Conditioned.oneCreation {shared : SharedBroker Client τ} (holds : Conditioned shared) :
    OneCreation shared where
  records := holds.meta_prefix
  events := holds.data_prefix.1
  recorded some_message := by
    have complete := holds.data_prefix.2 some_message
    rcases holds.meta_prefix with nothing | ⟨client, records, creates, begins, wrote⟩
    · rw [nothing] at complete
      cases complete
    refine ⟨client, records, creates, begins.eq_of_length_le ?_, fun place less =>
      wrote place (less.trans_le complete)⟩
    obtain ⟨_, _, _, _, -, rfl⟩ := creates
    exact complete

variable [DecidableEq Client]

/-- In every run of any number of clients that create, complete and open one artefact:
the ownership record is a beginning of the header, claim and descriptor of one creation,
all of it written by that creation; the event data holds at most its header, and that
only once that descriptor has landed; and of all calls that create or complete the
artefact at most one succeeds. -/
theorem creation_has_one_winner {Client τ : Type} [DecidableEq Client]
    {config : StreamConfiguration Client τ}
    (run : (streamClients Client ClientCall.isOpening).Reaches (noStreams Client τ) config) :
    OneCreation config.world ∧ ∀ client other, HasCompleted config client →
      HasCompleted config other → client = other := by
  obtain ⟨sound, -⟩ := (noStreams_sound Client τ).reaches opening_obeys run
  have wrote : ∀ client, HasCompleted config client →
      ∃ number, config.world.Wrote client number .dataStream 0 := by
    rintro client ⟨opened, completes⟩
    have entitled : Entitled client config.world := by
      cases doing : config.doing client with
      | busy call state rest =>
          rw [doing] at opened
          obtain ⟨fresh, -⟩ := (sound.busy doing).1
          have opened : state.outcomes[0]? = some (.ok .opened) := opened
          rw [fresh] at opened
          cases opened
      | idle state =>
          rw [doing] at opened
          have holds := sound.idle doing
          cases state with
          | waiting => cases opened
          | live store outcomes => exact holds opened
          | gone outcomes => exact holds opened
    rcases entitled with written | ⟨⟨adapter, carriedEpoch, begins⟩, silent⟩
    · exact written
    · rcases completes with other | published
      · exact (other adapter carriedEpoch begins).elim
      · exact (published silent).elim
  refine ⟨Conditioned.oneCreation sound.invariant, ?_⟩
  intro client other completed alsoCompleted
  obtain ⟨number, written⟩ := wrote client completed
  obtain ⟨another, alsoWritten⟩ := wrote other alsoCompleted
  exact (written.unique (Conditioned.credited sound.invariant) alsoWritten).1

end Winner

end Discipline

section Calls

variable [Digests] {Client τ : Type} [DecidableEq Client]
  {adapter : NatsStorageAdapter} {before : StreamConfiguration Client τ} {client : Client}
  {later : Broker}

/-- A client has opened the artefact, or was refused, and nobody else has done anything. -/
theorem exists_called_opening (may : ClientCall τ → Bool) {opening : StreamOpening}
    {outcome : Except OperationFailure (Store NatsEngine)}
    (idle : before.doing client = .idle .waiting) (permitted : may (.opening opening) = true)
    (evaluates : (opening.perform ()).evaluate (promptBroker adapter) before.world.broker =
      ((outcome, ()), later)) :
    ∃ after, Called may client (.opening opening)
      (StreamOpening.conclude outcome, later) before after := by
  refine exists_called may (promptBroker_allowed adapter) idle permitted rfl ?_
  rw [Program.evaluate_bind, evaluates]
  rfl

/-- A client has made a call of its session, and nobody else has done anything. -/
theorem exists_called_session (may : ClientCall τ → Bool) {session : SessionCall NatsControl τ}
    {store after : Store NatsEngine}
    {outcomes : List (ClientOutcome τ)} {outcome : Except OperationFailure (SessionReply τ)}
    (idle : before.doing client = .idle (.live store outcomes))
    (permitted : may (.session session) = true)
    (evaluates : (session.perform NatsControl.perform store).evaluate (promptBroker adapter)
      before.world.broker = ((outcome, after), later)) :
    ∃ next, Called may client (.session session)
      (.live after (outcomes ++ [outcome.map .session]), later) before next := by
  refine exists_called may (promptBroker_allowed adapter) idle permitted rfl ?_
  rw [Program.evaluate_bind, evaluates]
  rfl

end Calls

section Example

attribute [local instance] standardDigests

/-- A creation on no streams, with nobody else about. -/
def numberCreation : StreamOpening :=
  .createWithLimit seededStreams (bareClaim 1) numberDescriptor u32Max

/-- A creation on no streams as it ends without failures. -/
def createdNumber : (Except OperationFailure (Store NatsEngine) × Unit) × Broker :=
  (numberCreation.perform ()).evaluate (promptBroker seededStreams) ⟨fun _ => none, []⟩

/-- An owner creates the artefact. -/
theorem exists_created (may : ClientCall Unit → Bool)
    (permitted : may (.opening numberCreation) = true) :
    ∃ (store : Store NatsEngine) (config : StreamConfiguration Nat Unit),
    Called may 0 (.opening numberCreation) (.live store [.ok .opened], createdNumber.2)
      (noStreams Nat Unit) config ∧
    store.engine = seededStreams.engine 1 1 false ∧ store.fiberIndex = .new ∧
    store.uncertain = false := by
  have opens : createdNumber.1.1.map (fun store =>
      (store.engine, store.fiberIndex, store.uncertain)) =
        .ok (seededStreams.engine 1 1 false, .new, false) := by decide +kernel
  cases opened : createdNumber.1.1 with
  | error failure =>
      rw [opened] at opens
      cases opens
  | ok store =>
      rw [opened] at opens
      have idle : (noStreams Nat Unit).doing 0 = .idle .waiting := rfl
      have evaluates : (numberCreation.perform ()).evaluate (promptBroker seededStreams)
          (noStreams Nat Unit).world.broker = ((.ok store, ()), createdNumber.2) := by
        rw [← opened]
        rfl
      obtain ⟨config, called⟩ := exists_called_opening may idle permitted evaluates
      have same : store.engine = seededStreams.engine 1 1 false ∧ store.fiberIndex = .new ∧
          store.uncertain = false := by
        simpa using Except.ok.inj opens
      exact ⟨store, config, called, same⟩

/-- Another owner's creation of the same artefact. -/
def rivalCreation : StreamOpening :=
  .createWithLimit seededStreams (bareClaim 2) numberDescriptor u32Max

/-- Two clients create the same artefact, and one of them wins. -/
theorem creation_has_one_winner_number : ∃ config : StreamConfiguration Nat Unit,
    (streamClients Nat ClientCall.isOpening).Reaches (noStreams Nat Unit) config ∧
      HasCompleted config 0 ∧ config.world.begun 1 = [.opening rivalCreation] ∧
      (∃ detail, (config.doing 1).state.outcomes = [.error ⟨.storeAlreadyExists, detail⟩]) ∧
      OneCreation config.world ∧ ∀ other, HasCompleted config other → 0 = other := by
  obtain ⟨store, created, creates, -⟩ := exists_created ClientCall.isOpening rfl
  have waits : created.doing 1 = .idle .waiting := by simp [creates.doing, noStreams]
  obtain ⟨detail, refused⟩ : ∃ detail, ((rivalCreation.perform ()).evaluate
      (promptBroker seededStreams) createdNumber.2).1.1 = .error ⟨.storeAlreadyExists, detail⟩ :=
    ⟨_, rfl⟩
  rw [← creates.broker] at refused
  obtain ⟨config, loses⟩ := exists_called_opening ClientCall.isOpening waits rfl
    (Prod.ext (Prod.ext refused rfl) rfl)
  have run := creates.reaches.trans loses.reaches
  have completed : HasCompleted config 0 := by
    refine ⟨by simp [loses.doing, creates.doing, Doing.state, ClientState.outcomes], .inl ?_⟩
    intro adapter carriedEpoch opened
    simp [loses.begun, creates.begun, noStreams, numberCreation] at opened
  obtain ⟨creation, unique⟩ := creation_has_one_winner run
  refine ⟨config, run, completed, ?_, ⟨detail, ?_⟩, creation, fun other => unique 0 other completed⟩
  · simp [loses.begun, creates.begun, noStreams]
  · simp [loses.doing, StreamOpening.conclude, Doing.state, ClientState.outcomes]

end Example

end Pardosa
