import Pardosa.Nats.OneHistory
import Pardosa.Store.AdapterAgreement

/-!
# Appends and reads in real time

Calls of several clients overlap, and each of them takes many operations. Still every
append happens at one moment of its call, and so does every read of the event data: it
shows a history that holds all there was when the read began, and nothing that is not
there when it returns.
-/

namespace Pardosa

open Foundation

section Clients

variable [Digests] {Client τ : Type}

/-- The reads of the event data. -/
def ReadCall.ReadsEvents (read : ReadCall τ) : Prop := read ≠ .isRetiredSource

/-- What a read of the event data shows of a history. -/
def ReadCall.Shows (frames : List Bytes) : ReadCall τ → ReadReply τ → Prop
  | .readBlock index, .block payload => frames[index]? = some payload
  | .readAllFrames, .frames shown => shown = frames
  | .readAllEnvelopes, .envelopes shown => Store.decodeFrames frames = .ok shown
  | .readAllEnvelopesForMigration, .envelopes shown => Store.decodeFrames frames = .ok shown
  | .forEachEnvelope visit caller, .visited after => ∃ envelopes,
      Store.decodeFrames frames = .ok envelopes ∧ visitAll visit envelopes caller = (.ok (), after)
  | _, _ => False

/-- A history of some moment of a call: there was no more when it began than the history
holds, and the history is there when it returns. -/
def SharedBroker.Between (bound : Nat) (frames : List Bytes)
    (shared : SharedBroker Client τ) : Prop :=
  shared.broker.Begins frames ∧ bound ≤ frames.length + 1

section Iterations

omit [Digests] in
/-- No iteration succeeds whose recovery has failed. -/
theorem concludeIteration_ne_ok (failure : OperationFailure) (captured : Store.ForEachCapture τ)
    (store : Store NatsEngine) :
    (Store.concludeIteration (.error failure) captured store).1 ≠ .ok () := by
  obtain ⟨index, rolling, broken, stopped, caller⟩ := captured
  cases stopped with
  | some refusal => rintro ⟨⟩
  | none =>
      cases broken with
      | some refusal => rintro ⟨⟩
      | none => rintro ⟨⟩

/-- A delivery that succeeds has visited every event, and was stopped by none. -/
theorem visits_of_delivered {visit : EventEnvelopeRef → τ → Except OperationFailure Unit × τ}
    {caller : τ} {frames : List Bytes} {count : Nat} {captured : Store.ForEachCapture τ}
    (delivered : deliverFrames (Store.forEachFrame visit) 0 frames
      ⟨.new, .new, none, none, caller⟩ =
      (.ok count, captured)) :
    ∃ envelopes, Store.decodeFrames frames = .ok envelopes ∧
      visitAll visit envelopes caller = (.ok (), captured.caller) := by
  obtain ⟨accepted, rest, envelopes, index, rfl, accepts, stops, outcome, state, delivery, visited,
    ending⟩ := Store.deliverFrames_forEachFrame visit caller frames
  rw [delivered] at delivery
  cases delivery
  cases verdict : (visitAll visit envelopes caller).1 with
  | error failure =>
      rw [verdict] at ending
      cases ending.1
  | ok =>
      rw [verdict] at ending
      obtain ⟨-, ⟨rfl, -⟩ | ⟨-, failure, ⟨⟩, -⟩⟩ := ending
      rw [List.append_nil]
      exact ⟨envelopes, accepts.decodeFrames, Prod.ext verdict visited.symm⟩

end Iterations

namespace Continuing

variable [DecidableEq Client] {client : Client} {call : ClientCall τ} {state : ClientState τ}
  {world : SharedBroker Client τ} {σ : Type} {own : σ} {store : Store NatsEngine} {bound : Nat}

/-- A chunk of one item is an event of the history, or nothing. -/
theorem wp_readDataChunk (known : bound ≤ (world.broker.messages .dataStream).length)
    (dataStreamName : String) (index : Nat) :
    (readDataChunk dataStreamName index 1).wp (setting client call state)
      (fun outcome _ later => ∀ payloads payload, outcome = .ok payloads →
        payloads.getLast? = some payload →
        ∃ frames, later.Between bound frames ∧ frames[index]? = some payload) own world := by
  simp only [readDataChunk, if_neg Nat.one_ne_zero, Action.wp_bind]
  refine Action.wp_mono (wp_dataExtent (fun inv => inv.historic) known dataStreamName) ?_
  rintro (failure | info) after later ⟨rfl, extent⟩
  · rintro payloads payload ⟨⟩
  obtain ⟨frames, history, valid, begins, longer, rfl⟩ := extent info rfl
  dsimp only
  split
  · rintro payloads payload ⟨⟩ ⟨⟩
  rename_i startSeq starts
  obtain ⟨rfl, fits⟩ : startSeq = index + 2 ∧ index + 2 ≤ u64Max := by
    simp only [checkedAdd] at starts
    split_ifs at starts
    all_goals simp at starts
    omega
  rw [checkedAdd_eq (by omega : index + 2 + (1 - 1) ≤ u64Max)]
  dsimp only
  split_ifs with beyond
  · rintro payloads payload ⟨⟩ ⟨⟩
  have inside : index < frames.length := by omega
  have single : min (index + 2) (frames.length + 1) - (index + 2) + 1 = 1 := by omega
  rw [single]
  refine Action.wp_mono (wp_readFrames begins valid.fits inside) ?_
  rintro outcome after last ⟨rfl, still, read⟩ payloads payload rfl found
  obtain rfl := read payloads rfl
  refine ⟨frames, ⟨still, longer⟩, ?_⟩
  rw [List.drop_eq_getElem_cons inside] at found
  exact (List.getElem?_eq_getElem inside).trans found

/-- All frames that a session reads are those of such a history. -/
theorem wp_readAllFrames_between (known : bound ≤ (world.broker.messages .dataStream).length) :
    Store.readAllFrames.wp (setting client call state) (fun outcome _ later =>
      ∀ frames, outcome = .ok frames → later.Between bound frames) store world := by
  simp only [Store.readAllFrames, Action.wp_bind, Action.wp_attempt, Store.wp_onEngine]
  have read : NatsEngine.readAll.wp (setting client call state) _ store.engine world :=
    NatsEngine.wp_readAll (fun inv => inv.historic) known
  refine Action.wp_mono read ?_
  rintro (failure | frames) after later ⟨rfl, read⟩
  · rintro frames ⟨⟩
  · obtain ⟨index, valid, begins, longer⟩ := read frames rfl
    simp only [Action.wp_bind, Action.wp_ofExcept, Store.rollingOf_fits .new valid.fits]
    rintro _ ⟨⟩
    exact ⟨begins, longer⟩

/-- A read shows a history between what was there when it began and what is there now. -/
theorem wp_readAllEnvelopes_between (forMigration : Bool)
    (known : bound ≤ (world.broker.messages .dataStream).length) :
    (Store.readAllEnvelopesInner forMigration).wp (setting client call state)
      (fun outcome _ later =>
      ∀ envelopes, outcome = .ok envelopes → ∃ frames, later.Between bound frames ∧
        Store.decodeFrames frames = .ok envelopes) store world := by
  have read : (Store.readAllEnvelopesBody forMigration).wp (setting client call state)
      (fun outcome _ later => ∀ envelopes, outcome = .ok envelopes → ∃ frames,
        later.Between bound frames ∧ Store.decodeFrames frames = .ok envelopes) store world := by
    simp only [Store.readAllEnvelopesBody, Action.wp_bind, Action.wp_ofExcept]
    refine Action.wp_mono (wp_readAllFrames_between known) ?_
    rintro (failure | frames) after later between
    · rintro envelopes ⟨⟩
    dsimp only
    cases Store.refuseShortFrames frames with
    | error failure => rintro envelopes ⟨⟩
    | ok =>
        dsimp only
        cases SessionIndex.buildFromFrames frames with
        | error failure => rintro envelopes ⟨⟩
        | ok index =>
            dsimp only
            split_ifs
            · rintro envelopes ⟨⟩
            · simp only [Action.wp_bind, Action.wp_ofExcept]
              cases decoded : Store.decodeFrames frames with
              | error failure => rintro envelopes ⟨⟩
              | ok envelopes =>
                  rintro _ ⟨⟩
                  exact ⟨frames, between frames rfl, decoded⟩
  simp only [Store.readAllEnvelopesInner, Action.wp_bind, Action.wp_get]
  split
  · rintro envelopes ⟨⟩
  · simp only [Action.wp_bind, Action.wp_attempt]
    refine Action.wp_mono read ?_
    rintro (failure | envelopes) after later shown
    · rintro envelopes ⟨⟩
    · exact shown

/-- An iteration that runs to its end has visited the events of such a history. -/
theorem wp_forEachEnvelope_between (visit : EventEnvelopeRef → τ → Except OperationFailure Unit × τ)
    (caller : τ) (known : bound ≤ (world.broker.messages .dataStream).length) :
    (Store.forEachEnvelope visit caller).wp (setting client call state) (fun outcome _ later =>
      ∀ visited, outcome = .ok visited → ∃ frames, later.Between bound frames ∧ ∃ envelopes,
        Store.decodeFrames frames = .ok envelopes ∧
          visitAll visit envelopes caller = (.ok (), visited)) store world := by
  let captured : Store.ForEachCapture τ := ⟨.new, .new, none, none, caller⟩
  have iterated : (Store.iterateEnvelopes visit caller).wp (setting client call state)
      (fun outcome _ later => ∀ visited, outcome = .ok (.ok (), visited) → ∃ frames,
        later.Between bound frames ∧ ∃ envelopes, Store.decodeFrames frames = .ok envelopes ∧
          visitAll visit envelopes caller = (.ok (), visited)) store world := by
    simp only [Store.iterateEnvelopes, Action.wp_bind, Action.wp_get, Action.wp_ofExcept]
    cases store.checkIteration with
    | error failure => rintro visited ⟨⟩
    | ok =>
        have recovers : (NatsEngine.recoverFrames 64 (Store.forEachFrame visit)).wp
            (setting client call state) _ (store.engine, captured) world :=
          wp_recoverFrames (fun inv => inv.historic) known 64 (Store.forEachFrame visit)
        refine Store.wp_recoverOn (Program.wp_mono recovers ?_)
        rintro ⟨failure | count, engine, after⟩ later recovered
        · simp only [Action.wp_attempt, Action.wp_mutate, Action.wp_pure]
          intro visited is
          exact (concludeIteration_ne_ok failure after { store with engine }
            (congrArg Prod.fst (Except.ok.inj is))).elim
        · obtain ⟨frames, index, valid, begins, longer, -, delivered⟩ := recovered
          simp only [Action.wp_attempt, Action.wp_mutate, Action.wp_pure]
          intro visited is
          obtain ⟨envelopes, decoded, visits⟩ := visits_of_delivered delivered
          refine ⟨frames, ⟨begins, longer⟩, envelopes, decoded, ?_⟩
          rw [visits]
          exact congrArg (Except.ok (), ·) (congrArg Prod.snd (Except.ok.inj is))
  simp only [Store.forEachEnvelope, Action.wp_bind, Action.wp_ofExcept]
  refine Action.wp_mono iterated ?_
  rintro (failure | ⟨failure | _, visited⟩) after later shown
  · rintro visited ⟨⟩
  · rintro visited ⟨⟩
  · rintro _ ⟨⟩
    exact shown visited rfl

/-- Whatever event data a session reads, it reads a history of some moment of the call. -/
theorem wp_shows {read : ReadCall τ} (events : read.ReadsEvents)
    (known : bound ≤ (world.broker.messages .dataStream).length) :
    read.perform.wp (setting client call state) (fun outcome _ later => ∀ reply,
      outcome = .ok reply → ∃ frames, later.Between bound frames ∧ read.Shows frames reply)
      store world := by
  cases read with
  | isRetiredSource => exact (events rfl).elim
  | readBlock index =>
      refine (Action.wp_map _).mpr ?_
      simp only [Store.readBlock, StorageEngine.readBlock, Store.wp_onEngine, Action.wp_bind,
        Action.wp_require]
      have reads : (readDataChunk store.engine.dataStreamName index 1).wp
        (setting client call state)
          _ store.engine world := wp_readDataChunk known store.engine.dataStreamName index
      refine Program.wp_mono reads ?_
      rintro ⟨failure | payloads, after⟩ later shown
      · rintro reply ⟨⟩
      · dsimp only
        cases found : payloads.getLast? with
        | none => rintro reply ⟨⟩
        | some payload =>
            rintro _ ⟨⟩
            exact shown payloads payload rfl found
  | readAllFrames =>
      refine (Action.wp_map _).mpr (Action.wp_mono (wp_readAllFrames_between known) ?_)
      rintro (failure | frames) after later between
      · rintro reply ⟨⟩
      · rintro _ ⟨⟩
        exact ⟨frames, between frames rfl, rfl⟩
  | readAllEnvelopes =>
      refine (Action.wp_map _).mpr (Action.wp_mono (wp_readAllEnvelopes_between false known) ?_)
      rintro (failure | envelopes) after later shown
      · rintro reply ⟨⟩
      · rintro _ ⟨⟩
        exact shown envelopes rfl
  | readAllEnvelopesForMigration =>
      refine (Action.wp_map _).mpr (Action.wp_mono (wp_readAllEnvelopes_between true known) ?_)
      rintro (failure | envelopes) after later shown
      · rintro reply ⟨⟩
      · rintro _ ⟨⟩
        exact shown envelopes rfl
  | forEachEnvelope visit caller =>
      refine (Action.wp_map _).mpr
        (Action.wp_mono (wp_forEachEnvelope_between visit caller known) ?_)
      rintro (failure | visited) after later shown
      · rintro reply ⟨⟩
      · rintro _ ⟨⟩
        exact shown visited rfl

omit [DecidableEq Client] in
/-- Only reads return what reads return. -/
theorem yields_read (session : SessionCall NatsControl τ) (store : Store NatsEngine) :
    (session.perform NatsControl.perform store).Yields fun result => ∀ reply,
      result.1 = .ok (.read reply) → ∃ read, session = .read read := by
  cases session with
  | read read => exact Program.yields_of_forall (fun _ _ _ => ⟨read, rfl⟩) _
  | write write =>
      refine Program.yields_bind (Program.yields_of_forall (fun _ => trivial) _) ?_
      rintro ⟨failure | verdict, after⟩ - reply ⟨⟩
  | sync =>
      refine Program.yields_bind (Program.yields_of_forall (fun _ => trivial) _) ?_
      rintro ⟨failure | _, after⟩ - reply ⟨⟩
  | control command =>
      refine Program.yields_bind (Program.yields_of_forall (fun _ => trivial) _) ?_
      rintro ⟨failure | _, after⟩ - reply ⟨⟩
  | fiber fiberId =>
      refine Program.yields_bind (Program.yields_of_forall (fun _ => trivial) _) ?_
      rintro ⟨failure | current, _⟩ -
      · rintro reply ⟨⟩
      refine Program.yields_bind (Program.yields_of_forall (fun _ => trivial) _) ?_
      rintro ⟨failure | handle, after⟩ - reply ⟨⟩
  | getLatest fiberId =>
      refine Program.yields_bind (Program.yields_of_forall (fun _ => trivial) _) ?_
      rintro ⟨failure | current, _⟩ -
      · rintro reply ⟨⟩
      refine Program.yields_bind (Program.yields_of_forall (fun _ => trivial) _) ?_
      rintro ⟨failure | latest, after⟩ - reply ⟨⟩

/-- A session call that returns a read was one, and what it returns shows a history. -/
theorem wp_session_shows (session : SessionCall NatsControl τ)
    (unsent : Unsent client state.outcomes.length world) (current : Current store world.broker)
    (known : bound ≤ (world.broker.messages .dataStream).length) :
    (session.perform NatsControl.perform).wp (setting client call state)
      (fun outcome _ later => ∀ reply, outcome = .ok (.read reply) → ∃ read, session = .read read ∧
        (read.ReadsEvents → ∃ frames, later.Between bound frames ∧ read.Shows frames reply))
      store world := by
  by_cases reads : ∃ read, session = .read read ∧ read.ReadsEvents
  · obtain ⟨read, rfl, events⟩ := reads
    refine (Action.wp_map _).mpr (Action.wp_mono (wp_shows events known) ?_)
    rintro (failure | reply) after later shown
    · rintro reply ⟨⟩
    · rintro _ ⟨⟩
      exact ⟨read, rfl, fun _ => shown reply rfl⟩
  · refine Program.wp_mono (Program.wp_and_yields (yields_read session store)
      (wp_session session unsent current)) ?_
    rintro ⟨outcome, after⟩ later ⟨-, isRead⟩ reply is
    obtain ⟨read, rfl⟩ := isRead reply is
    exact ⟨read, rfl, fun events => (reads ⟨read, rfl, events⟩).elim⟩

end Continuing

section Marked

variable {before after mark : SharedBroker Client τ} {client : Client}

/-- The reads that a client has begun since the mark and that have returned. -/
def ReadsSince (mark : SharedBroker Client τ) (client : Client) (outcomes : List (ClientOutcome τ))
    (shared : SharedBroker Client τ) : Prop :=
  ∀ number reply, (mark.begun client).length ≤ number →
    outcomes[number]? = some (.ok (.session (.read reply))) → ∃ read,
      (shared.begun client)[number]? = some (.session (.read read)) ∧ (read.ReadsEvents →
        ∃ frames, shared.Between (mark.broker.messages .dataStream).length frames ∧
          read.Shows frames reply)

/-- What a client keeps track of: the broker has grown since the mark, and so has what it has
read. -/
def Tracks (mark : SharedBroker Client τ) (client : Client) (state : ClientState τ)
    (shared : SharedBroker Client τ) : Prop :=
  SharedBroker.Grows mark shared ∧ ReadsSince mark client state.outcomes shared

/-- What a client keeps track of is not lost while the others act. -/
theorem Tracks.lasting {state : ClientState τ} (grows : SharedBroker.Grows before after)
    (tracks : Tracks mark client state before) : Tracks mark client state after := by
  refine ⟨tracks.1.trans grows, ?_⟩
  intro number reply since returned
  obtain ⟨read, called, shown⟩ := tracks.2 number reply since returned
  obtain ⟨more, split⟩ := grows.begun client
  refine ⟨read, ?_, ?_⟩
  · rw [← split, List.getElem?_append_left (List.getElem?_eq_some_iff.mp called).1]
    exact called
  · intro events
    obtain ⟨frames, ⟨begins, longer⟩, shows⟩ := shown events
    exact ⟨frames, ⟨begins.extends grows.broker, longer⟩, shows⟩

/-- Nor is it when the client dies. -/
theorem Tracks.died {state : ClientState τ} (tracks : Tracks mark client state before) :
    Tracks mark client state.died before := tracks

/-- A call that has returned no read adds nothing to what its client has read. -/
theorem Tracks.concat {state final : ClientState τ} (outcome : ClientOutcome τ)
    (tracks : Tracks mark client state after) (grown : final.outcomes = state.outcomes ++ [outcome])
    (adds : ∀ reply, (mark.begun client).length ≤ state.outcomes.length →
      outcome = .ok (.session (.read reply)) → ∃ read,
        (after.begun client)[state.outcomes.length]? = some (.session (.read read)) ∧
          (read.ReadsEvents → ∃ frames,
            after.Between (mark.broker.messages .dataStream).length frames ∧
              read.Shows frames reply)) :
    Tracks mark client final after := by
  refine ⟨tracks.1, ?_⟩
  intro number reply since returned
  rw [grown, List.getElem?_append] at returned
  split_ifs at returned with earlier
  · exact tracks.2 number reply since returned
  · obtain ⟨one, is⟩ := List.getElem?_eq_some_iff.mp returned
    have here : number - state.outcomes.length = 0 := by simpa using one
    obtain rfl : number = state.outcomes.length := by omega
    exact adds reply since (by simpa using is)

variable [DecidableEq Client]

/-- Clients keep track of what they read. -/
theorem Continuing.obeys_tracking (mark : SharedBroker Client τ) :
    (streamClients Client fun _ : ClientCall τ => true).Obeys
      ((Continuing.discipline Client τ).also (Tracks mark)) := by
  refine Continuing.obeys.also Tracks.lasting Tracks.died ?_
  intro client call state program world inv holds tracks possible
  replace possible : call.program state = some program := possible
  cases state with
  | gone outcomes => cases call <;> cases possible
  | waiting =>
      cases call with
      | session session => cases possible
      | opening opening =>
          cases possible
          rw [Program.wp_bind]
          refine Program.wp_mono (Continuing.wp_opening opening) ?_
          rintro ⟨failure | store, _⟩ after - - tracks
          · refine tracks.concat (.error failure) rfl ?_
            rintro reply - ⟨⟩
          · refine tracks.concat (.ok .opened) rfl ?_
            rintro reply - ⟨⟩
      | record adapter entry =>
          cases possible
          rw [Program.wp_bind]
          refine Program.wp_mono
            (Continuing.wp_opens (Continuing.recordOwnershipRecord_opens adapter entry ())) ?_
          rintro ⟨failure | _, _⟩ after - - tracks
          · refine tracks.concat (.error failure) rfl ?_
            rintro reply - ⟨⟩
          · refine tracks.concat (.ok .recorded) rfl ?_
            rintro reply - ⟨⟩
  | live store outcomes =>
      obtain ⟨counted, accounted, current⟩ := holds
      cases call with
      | opening opening => cases possible
      | record adapter entry => cases possible
      | session session =>
          cases possible
          have unsent : Continuing.Unsent client outcomes.length
              (world.entered client (.session session)) := by
            intro ticket sent
            have numbered := Followed.numbered inv sent
            omega
          have known : (mark.broker.messages .dataStream).length ≤
              ((world.entered client (.session session)).broker.messages .dataStream).length :=
            (tracks.1.broker.messages .dataStream).length_le
          rw [Program.wp_bind]
          refine Program.wp_mono (Continuing.wp_session_shows session unsent current known) ?_
          rintro ⟨outcome, after⟩ later shown ⟨-, last, -⟩ tracks
          refine tracks.concat (outcome.map .session) rfl ?_
          intro reply since is
          cases outcome with
          | error failure => cases is
          | ok answer =>
              cases is
              obtain ⟨read, rfl, shows⟩ := shown reply rfl
              exact ⟨read, last, shows⟩

/-- From any moment on, everything that clients have kept track of is true. -/
theorem tracks_of_reaches {before after : StreamConfiguration Client τ}
    (started : (streamClients Client fun _ => true).Reaches (noStreams Client τ) before)
    (run : (streamClients Client fun _ => true).Reaches before after) (client : Client) :
    Tracks before.world client (after.doing client).state after.world := by
  obtain ⟨sound, -⟩ := (Continuing.noStreams_sound Client τ).reaches Continuing.obeys started
  have nothing : ∀ {client : Client} {outcomes : List (ClientOutcome τ)},
      outcomes.length ≤ (before.world.begun client).length →
      ReadsSince before.world client outcomes before.world := by
    intro client outcomes returned number reply since known
    have inside := (List.getElem?_eq_some_iff.mp known).1
    omega
  have begins : Sound (streamClients Client fun _ : ClientCall τ => true)
      ((Continuing.discipline Client τ).also (Tracks before.world)) before := by
    refine sound.also Tracks.lasting ?_ ?_
    · intro client
      refine ⟨.refl _, nothing ?_⟩
      cases doing : before.doing client with
      | busy call state rest =>
          have counted := (sound.busy doing).1.1
          exact (Nat.le_succ _).trans counted.ge
      | idle state =>
          have holds : Continuing.Holds client state before.world := sound.idle doing
          cases state with
          | waiting => exact Nat.zero_le _
          | live store outcomes => exact holds.1.ge
          | gone outcomes => exact holds.1
    · intro client call state rest final later doing ends tracks
      obtain ⟨outcome, grown, -⟩ := ends.accounts
      refine tracks.concat outcome grown ?_
      intro reply since
      have counted := (sound.busy doing).1.1
      omega
  obtain ⟨sound, -⟩ := begins.reaches (Continuing.obeys_tracking before.world) run
  cases doing : after.doing client with
  | busy call state rest => exact (sound.busy doing).1.2
  | idle state => exact (sound.idle doing).2

end Marked

section RealTime

/-- Between these two moments every append and every read of the event data takes place: an
event that landed was not there before, and what a read has shown is a history that extends
the earlier one and that the later one extends. -/
structure RealTime (before after : StreamConfiguration Client τ) : Prop where
  appends : ∀ client number write receipt, (before.world.begun client).length ≤ number →
    (after.world.begun client)[number]? = some (.session (.write write)) →
    (after.doing client).state.outcomes[number]? =
      some (.ok (.session (.verdict (.landed receipt)))) →
    ∃ place payload envelope count, (before.world.broker.messages .dataStream).length ≤ place ∧
      (after.world.broker.messages .dataStream)[place]? = some (ContainerFrame.frameBytes payload) ∧
      SessionIndex.decodeAndValidateFrame payload = .ok envelope ∧
      write.Passes envelope payload ∧ receipt = write.receipt envelope count
  reads : ∀ client number read reply, (before.world.begun client).length ≤ number →
    (after.world.begun client)[number]? = some (.session (.read read)) → read.ReadsEvents →
    (after.doing client).state.outcomes[number]? = some (.ok (.session (.read reply))) →
    ∃ frames, before.world.broker.messages .dataStream <+: Broker.framedMessages frames ∧
      Broker.framedMessages frames <+: after.world.broker.messages .dataStream ∧
      read.Shows frames reply

/-- What a call begun after some moment wrote was not there at that moment. -/
theorem SharedBroker.Wrote.since {before after : SharedBroker Client τ} {client : Client}
    {number place : Nat} (wrote : after.Wrote client number .dataStream place)
    (followed : Followed before) (later : Followed after) (grows : SharedBroker.Grows before after)
    (since : (before.begun client).length ≤ number) :
    (before.broker.messages .dataStream).length ≤ place := by
  obtain ⟨ticket, publish, records, ⟨sender, sent⟩, is, fate⟩ := wrote
  have new : before.broker.publishes.length ≤ ticket := by
    by_contra early
    rw [← followed.credited.senders] at early
    have found := List.getElem?_eq_getElem (Nat.lt_of_not_le early)
    have same := (grows.sender found).symm.trans sender
    rw [Option.some.inj same] at found
    have numbered := followed.numbered found
    omega
  have behind := grows.broker.lands_behind followed.credited.logged later.credited.logged new sent
    fate
  rw [is] at behind
  exact Nat.le_of_lt_succ behind

variable [DecidableEq Client]

/-- In every run of any number of clients, between any two moments of it: the calls that
were begun after the first and have returned before the second are appends to and reads of
one history, each done at one moment in between. -/
theorem appends_and_reads_in_real_time {before after : StreamConfiguration Client τ}
    (started : (streamClients Client fun _ => true).Reaches (noStreams Client τ) before)
    (run : (streamClients Client fun _ => true).Reaches before after) : RealTime before after := by
  obtain ⟨sound, -⟩ := (Continuing.noStreams_sound Client τ).reaches Continuing.obeys started
  obtain ⟨soundAfter, grows⟩ := sound.reaches Continuing.obeys run
  refine ⟨?_, ?_⟩
  · intro client number write receipt since called returned
    obtain ⟨-, place, payload, envelope, count, wrote, stands, rest⟩ :=
      Continuing.accounted_of_sound soundAfter client number write _ called returned
    exact ⟨place, payload, envelope, count,
      wrote.since sound.invariant soundAfter.invariant grows since, stands, rest⟩
  · intro client number read reply since called events returned
    obtain ⟨_, same, shown⟩ :=
      (tracks_of_reaches started run client).2 number reply since returned
    rw [called] at same
    cases same
    obtain ⟨frames, ⟨begins, longer⟩, shows⟩ := shown events
    refine ⟨frames, ?_, begins, shows⟩
    refine List.prefix_of_prefix_length_le (grows.broker.messages .dataStream) begins ?_
    rw [Broker.length_framedMessages]
    exact longer

end RealTime

end Clients

section Undisturbed

variable [Digests] {adapter : NatsStorageAdapter} {frames : List Bytes} {store : Store NatsEngine}
  {broker : Broker}

/-- An owner that nobody disturbs appends an event. -/
theorem NatsEngine.Serves.evaluate_append {payload : Bytes} {envelope : EventEnvelope}
    (serves : Serves adapter frames store.engine broker) (unread : store.uncertain = false)
    (admitted : AdmittedFrame store.fiberIndex payload envelope)
    (room : frames.length + 1 < u64Max) :
    ∃ count after,
      (WriteCall.perform (.appendFrame payload) store).evaluate (promptBroker adapter) broker =
        ((.ok (.landed (.frameCount count)), after), broker.taken .dataStream
          (some (frames.length + 1)) (ContainerFrame.frameBytes payload)) := by
  have certain : store.isUncertain = false := by
    unfold Store.isUncertain
    rw [unread]
    exact congrArg Option.isSome serves.untold
  have authorized : (StorageEngine.checkAuthority store.engine).evaluate (promptBroker adapter)
      broker = (.ok (), broker) := by
    refine (Program.evaluate_bind _ _ _ _).trans ?_
    rw [serves.evaluate_checkAuthority]
    rfl
  have appended : (StorageEngine.appendBlock (ContainerFrame.frameBytes payload)
      store.engine).evaluate (promptBroker adapter) broker =
        ((.ok (.landed (frames.length + 2)), _),
        broker.taken .dataStream (some (frames.length + 1)) (ContainerFrame.frameBytes payload)) :=
    (serves.evaluate_appendBlock admitted.fits room).1
  have landed : (Store.landFrame envelope (ContainerFrame.frameBytes payload) store).evaluate
      (promptBroker adapter) broker = ((.ok (.landed _), _), broker.taken .dataStream
        (some (frames.length + 1)) (ContainerFrame.frameBytes payload)) :=
    Action.evaluate_bind (Store.evaluate_onEngine appended)
  exact ⟨_, _, Action.evaluate_bind
    ((Store.evaluate_appendFrameVerdict certain authorized admitted).trans landed)⟩

/-- A session that nobody disturbs reads all frames. -/
theorem NatsEngine.Serves.evaluate_readAllFrames
    (serves : Serves adapter frames store.engine broker) :
    ∃ after, (ReadCall.perform (.readAllFrames : ReadCall Unit) store).evaluate
      (promptBroker adapter) broker = ((.ok (.frames frames), after), broker) := by
  have read := NatsEngine.evaluate_readAll adapter serves.fits serves.stands store.engine
  let later : Store NatsEngine := { store with
    engine := { store.engine with readAllCount := store.engine.readAllCount + 1 }
    rollingCommitment := RollingCommitment.new.absorb frames }
  have whole : (Store.readAllFrames store).evaluate (promptBroker adapter) broker =
      ((.ok frames, later), broker) := by
    refine (Action.evaluate_bind (Action.evaluate_attempt (Store.evaluate_onEngine read))).trans ?_
    dsimp only
    rw [Store.rollingOf_fits .new serves.fits]
    rfl
  exact ⟨later, (Action.evaluate_bind whole).trans rfl⟩

end Undisturbed

section Example

attribute [local instance] standardDigests

/-- The owner of a created artefact appends an event; then somebody else opens it and
reads that event. -/
theorem appends_and_reads_in_real_time_number : ∃ before after : StreamConfiguration Nat Unit,
    ∃ receipt, (streamClients Nat fun _ => true).Reaches (noStreams Nat Unit) before ∧
      (streamClients Nat fun _ => true).Reaches before after ∧ RealTime before after ∧
      before.world.begun 0 = [.opening numberCreation] ∧ before.world.begun 1 = [] ∧
      after.world.begun 0 =
        [.opening numberCreation, .session (.write (.appendFrame genesisPayload))] ∧
      (after.doing 0).state.outcomes =
        [.ok .opened, .ok (.session (.verdict (.landed receipt)))] ∧
      after.world.begun 1 =
        [.opening (.openWrite seededStreams 1), .session (.read .readAllFrames)] ∧
      (after.doing 1).state.outcomes =
        [.ok .opened, .ok (.session (.read (.frames [genesisPayload])))] := by
  obtain ⟨store, created, creates, isEngine, isIndex, certain⟩ := exists_created (fun _ => true) rfl
  obtain ⟨recorded, recordsFit⟩ := createdNumber_records
  have serves : NatsEngine.Serves seededStreams [] store.engine created.world.broker := by
    rw [isEngine, creates.broker]
    exact ⟨rfl, rfl, rfl, rfl, rfl, rfl, ⟨numberRecords, _, _, recordsFit, recorded,
      numberRecords_read, rfl, rfl, rfl⟩, List.forall_mem_nil _, createdNumber_events⟩
  have admitted : AdmittedFrame store.fiberIndex genesisPayload genesisEvent := by
    rw [isIndex]
    exact genesisPayload_admitted
  -- the owner appends
  have owns : created.doing 0 = .idle (.live store [.ok .opened]) := by simp [creates.doing]
  obtain ⟨count, owner, appends⟩ := serves.evaluate_append certain admitted (by decide)
  have answered : (SessionCall.perform NatsControl.perform
      (.write (.appendFrame genesisPayload) : SessionCall NatsControl Unit) store).evaluate
        (promptBroker seededStreams) created.world.broker = _ := Action.evaluate_bind appends
  obtain ⟨appended, wrote⟩ := exists_called_session (fun _ => true) owns rfl answered
  -- somebody else opens the artefact
  have streams : appended.world.broker.streams = Function.update created.world.broker.streams
      .dataStream (some (Broker.framedMessages [genesisPayload])) := by
    rw [wrote.broker]
    exact Broker.streams_taken serves.stands (ContainerFrame.frameBytes genesisPayload)
  have stored : appended.world.broker.streams .dataStream =
      some (Broker.framedMessages [genesisPayload]) := by
    rw [streams, Function.update_self]
  have kept : appended.world.broker.streams .metaStream =
      some (Broker.framedMessages numberRecords) := by
    rw [streams, Function.update_of_ne (by decide), creates.broker]
    exact recorded
  have waits : appended.doing 1 = .idle .waiting := by simp [wrote.doing, creates.doing, noStreams]
  have eventsFit : ∀ event ∈ [genesisPayload], event.length ≤ u32Max :=
    List.forall_mem_singleton.mpr admitted.fits
  obtain ⟨index, built⟩ : ∃ index, SessionIndex.buildFromFrames [genesisPayload] = .ok index :=
    ⟨_, rfl⟩
  have admits : MetaRecords.admitsWriter ⟨some (bareClaim 1), some ⟨1, .u64⟩, none,
    none, none, none, none⟩ 1 = .ok () := rfl
  obtain ⟨engine, opens, servesToo, -⟩ := NatsStorageAdapter.evaluate_openWrite_serves recordsFit
    eventsFit numberRecords_read admits built kept stored
  have performs : (StreamOpening.perform (.openWrite seededStreams 1) ()).evaluate
      (promptBroker seededStreams) appended.world.broker = _ := opens
  obtain ⟨opened, joins⟩ := exists_called_opening (fun _ => true) waits rfl performs
  -- and reads
  let session : Store NatsEngine :=
    ⟨engine, RollingCommitment.new.absorb [genesisPayload], index, none, false, none⟩
  have idle : opened.doing 1 = .idle (.live session [.ok .opened]) := by
    rw [joins.doing, Function.update_self]
    rfl
  replace servesToo : NatsEngine.Serves seededStreams [genesisPayload] session.engine
      opened.world.broker := by
    rw [joins.broker]
    exact servesToo
  obtain ⟨reader, reads⟩ := servesToo.evaluate_readAllFrames
  have shown : (SessionCall.perform NatsControl.perform
      (.read .readAllFrames : SessionCall NatsControl Unit) session).evaluate
        (promptBroker seededStreams) opened.world.broker = _ := Action.evaluate_bind reads
  obtain ⟨config, shows⟩ := exists_called_session (fun _ => true) idle rfl shown
  have run := (wrote.reaches.trans joins.reaches).trans shows.reaches
  refine ⟨created, config, .frameCount count, creates.reaches, run,
    appends_and_reads_in_real_time creates.reaches run, ?_, ?_, ?_, ?_, ?_, ?_⟩
  · simp [creates.begun, noStreams]
  · simp [creates.begun, noStreams]
  · simp [shows.begun, joins.begun, wrote.begun, creates.begun, noStreams]
  · simp [shows.doing, joins.doing, wrote.doing]
    rfl
  · simp [shows.begun, joins.begun, wrote.begun, creates.begun, noStreams]
  · simp [shows.doing]
    rfl

end Example

end Pardosa
