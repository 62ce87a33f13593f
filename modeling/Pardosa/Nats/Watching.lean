import Pardosa.Nats.Divergence

/-!
# What publishers have looked at

The broker once more, with two things on record: how many messages the ownership record
had when a client last asked for its extent, and how many its sender had so looked at
when each publish was sent. The record changes nothing: whatever clients of one broker do,
they do here.
-/

namespace Pardosa

open Foundation

/-- The broker as clients share it, with what they have looked at. -/
structure WatchedBroker (Client τ : Type) where
  shared : SharedBroker Client τ
  /-- For the record: how long the ownership record was when a client last asked. -/
  looked : Client → Nat
  /-- For the record: how much of it its sender had looked at when a publish was sent. -/
  seen : List Nat

namespace WatchedBroker

variable {Client τ : Type}

/-- The messages of the ownership record. -/
def records (world : WatchedBroker Client τ) : List Bytes :=
  world.shared.broker.messages .metaStream

variable [DecidableEq Client]

/-- The broker after an operation of a client has changed it. -/
def touched (world : WatchedBroker Client τ) (client : Client) (op : NatsOp) (broker : Broker) :
    WatchedBroker Client τ where
  shared := world.shared.touched client broker
  looked := if op = .info .metaStream then Function.update world.looked client world.records.length
    else world.looked
  seen := world.seen ++ List.replicate
    (broker.publishes.length - world.shared.broker.publishes.length) (world.looked client)

/-- What an operation of a client may answer and do. -/
def Performs (client : Client) (op : NatsOp) (before : WatchedBroker Client τ) (answer : op.Res)
    (after : WatchedBroker Client τ) : Prop :=
  ∃ broker, op.Performs before.shared.broker answer broker ∧ after = before.touched client op broker

/-- The broker once a client has begun a call. -/
def entered (client : Client) (call : ClientCall τ) (world : WatchedBroker Client τ) :
    WatchedBroker Client τ :=
  { world with shared := world.shared.entered client call }

/-- The broker handles a publish. -/
def Handles (before after : WatchedBroker Client τ) : Prop :=
  ∃ shared, before.shared.Handles shared ∧ after = { before with shared }

end WatchedBroker

section Pool

variable [Digests] {Client τ : Type} [DecidableEq Client]

variable (Client) in
/-- Clients of one broker, with what they have looked at. -/
def watchedClients :
    Pool natsOperations (WatchedBroker Client τ) Client (ClientCall τ) (ClientState τ) where
  exec client op before answer after := WatchedBroker.Performs client op before answer after
  program call state := call.program state
  entered client call _ := WatchedBroker.entered client call
  left _ _ := id
  dead := ClientState.died
  others := WatchedBroker.Handles

/-- Clients that are on record, and what each of them is doing. -/
abbrev WatchedConfiguration (Client τ : Type) :=
  Configuration natsOperations (WatchedBroker Client τ) Client (ClientCall τ) (ClientState τ)

omit [Digests] [DecidableEq Client] in
variable (Client τ) in
/-- No streams, and nobody has done or looked at anything yet. -/
def nothingSeen : WatchedConfiguration Client τ where
  world := ⟨(noStreams Client τ).world, fun _ => 0, []⟩
  doing := (noStreams Client τ).doing

/-- Whatever the clients of one broker do, they do on record. -/
theorem exists_watched {config : StreamConfiguration Client τ}
    (run : (streamClients Client fun _ => true).Reaches (noStreams Client τ) config) :
    ∃ world : WatchedBroker Client τ, (watchedClients Client).Reaches (nothingSeen Client τ)
      ⟨world, config.doing⟩ ∧ world.shared = config.world := by
  refine Pool.exists_reaches_of_view WatchedBroker.shared ?_ rfl ?_ (fun _ _ _ _ => rfl)
    (fun _ _ _ => rfl) ?_ run rfl
  · funext call state
    simp only [watchedClients, streamClients, if_true]
  · rintro client op world answer _ ⟨broker, performs, rfl⟩
    exact ⟨_, ⟨broker, performs, rfl⟩, rfl⟩
  · rintro world after moved
    exact ⟨_, ⟨after, moved, rfl⟩, rfl⟩

end Pool

section Growth

variable {Client τ : Type}

namespace WatchedBroker

/-- How the broker may change at all. -/
structure Grows (before after : WatchedBroker Client τ) : Prop where
  shared : SharedBroker.Grows before.shared after.shared
  seen : before.seen <+: after.seen

/-- What a client relies on when others act: they do not look in its name. -/
structure Rely (client : Client) (before after : WatchedBroker Client τ) : Prop
    extends Grows before after where
  own : SharedBroker.Rely client before.shared after.shared
  looked : after.looked client = before.looked client

variable {world before after first second third : WatchedBroker Client τ} {client other : Client}

/-- The watched broker may stay as it is. -/
theorem Grows.refl (world : WatchedBroker Client τ) : Grows world world :=
  ⟨.refl _, List.prefix_rfl⟩

/-- The growth of the watched broker adds up. -/
theorem Grows.trans (earlier : Grows first second) (later : Grows second third) :
    Grows first third :=
  ⟨earlier.shared.trans later.shared, earlier.seen.trans later.seen⟩

/-- The ownership record is only ever continued. -/
theorem Grows.records (grows : Grows before after) : before.records <+: after.records :=
  grows.shared.broker.messages .metaStream

/-- A client may rely on nothing having happened. -/
theorem Rely.refl (client : Client) (world : WatchedBroker Client τ) : Rely client world world :=
  ⟨.refl _, .refl _ _, rfl⟩

/-- What a client relies on holds over several steps when it holds over each. -/
theorem Rely.trans (earlier : Rely client first second) (later : Rely client second third) :
    Rely client first third :=
  ⟨earlier.toGrows.trans later.toGrows, earlier.own.trans later.own,
    later.looked.trans earlier.looked⟩

/-- The watched broker grows when it handles a publish. -/
theorem grows_handles (moved : before.Handles after) : Grows before after := by
  obtain ⟨shared, handled, rfl⟩ := moved
  exact ⟨handled.grows, List.prefix_rfl⟩

/-- Every client can rely on what the broker does by itself. -/
theorem rely_handles (moved : before.Handles after) (client : Client) :
    Rely client before after := by
  have grows := grows_handles moved
  obtain ⟨shared, handled, rfl⟩ := moved
  exact ⟨grows, handled.rely client, rfl⟩

variable [DecidableEq Client] {broker : Broker} {op : NatsOp}

/-- An operation of a client lets the watched broker grow. -/
theorem grows_touched (extension : world.shared.broker.Extends broker) :
    Grows world (world.touched client op broker) :=
  ⟨SharedBroker.grows_touched extension, List.prefix_append _ _⟩

/-- The other clients can rely on what a client's operation does. -/
theorem rely_touched (extension : world.shared.broker.Extends broker) (apart : other ≠ client) :
    Rely other world (world.touched client op broker) := by
  refine ⟨grows_touched extension, SharedBroker.rely_touched extension apart, ?_⟩
  unfold touched
  dsimp only
  split_ifs
  · exact Function.update_of_ne apart ..
  · rfl

/-- The watched broker grows when a call is begun. -/
theorem grows_entered (call : ClientCall τ) : Grows world (world.entered client call) :=
  ⟨SharedBroker.grows_entered call, List.prefix_rfl⟩

/-- The other clients can rely on a call that a client begins. -/
theorem rely_entered (call : ClientCall τ) (apart : other ≠ client) :
    Rely other world (world.entered client call) :=
  ⟨grows_entered call, SharedBroker.rely_entered call apart, rfl⟩

/-- A client that looks at the ownership record has looked at all of it. -/
theorem looked_touched (world : WatchedBroker Client τ) (client : Client) (broker : Broker) :
    (world.touched client (.info .metaStream) broker).looked client = world.records.length := by
  simp [touched]

/-- Any other operation leaves on record what was looked at. -/
theorem looked_touched_of_ne (other : op ≠ .info .metaStream) :
    (world.touched client op broker).looked = world.looked := if_neg other

end WatchedBroker

end Growth

end Pardosa
