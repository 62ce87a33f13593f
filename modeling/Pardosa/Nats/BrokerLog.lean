import Pardosa.Nats.Quiet

/-!
# What the broker keeps

Every message of a stream was a publish, which landed at the place that its sequence
says and at no other; no two publishes landed at one place. Streams and publishes are
never taken back.
-/

namespace Pardosa

open Foundation

namespace Broker

/-- The messages of the streams and the fates of the publishes agree. -/
structure Logged (broker : Broker) : Prop where
  written : ∀ {name : StreamName} {place : Nat} {payload : Bytes},
    (broker.messages name)[place]? = some payload →
    ∃ (ticket : Nat) (publish : Publish) (records : Nat),
      broker.publishes[ticket]? = some publish ∧ publish.stream = name ∧
        publish.payload = payload ∧ publish.fate = .landed (place + 1) records
  landed : ∀ {ticket sequence records : Nat} {publish : Publish},
    broker.publishes[ticket]? = some publish → publish.fate = .landed sequence records →
    ∃ place, sequence = place + 1 ∧
      (broker.messages publish.stream)[place]? = some publish.payload ∧
      ∀ last, publish.expectedLast = some last → last = place
  once : ∀ {ticket other sequence records more : Nat} {publish another : Publish},
    broker.publishes[ticket]? = some publish → broker.publishes[other]? = some another →
    publish.stream = another.stream → publish.fate = .landed sequence records →
    another.fate = .landed sequence more → ticket = other

/-- The broker took nothing back. -/
structure Extends (before after : Broker) : Prop where
  messages : ∀ name, before.messages name <+: after.messages name
  present : ∀ name, (before.streams name).isSome = true → (after.streams name).isSome = true
  publishes : ∀ {ticket : Nat} {publish : Publish}, before.publishes[ticket]? = some publish →
    ∃ fate, after.publishes[ticket]? = some { publish with fate } ∧
      (publish.fate ≠ .pending → fate = publish.fate)

variable {broker before after first second third : Broker}

/-- A broker has taken nothing back from itself. -/
theorem Extends.refl (broker : Broker) : Extends broker broker :=
  ⟨fun _ => List.prefix_rfl, fun _ => id, fun {_ publish} sent =>
    ⟨publish.fate, sent, fun _ => rfl⟩⟩

/-- What was not taken back step by step was not taken back at all. -/
theorem Extends.trans (earlier : Extends first second) (later : Extends second third) :
    Extends first third where
  messages name := (earlier.messages name).trans (later.messages name)
  present name present := later.present name (earlier.present name present)
  publishes sent := by
    obtain ⟨between, kept, settled⟩ := earlier.publishes sent
    obtain ⟨fate, keptLater, settledLater⟩ := later.publishes kept
    refine ⟨fate, keptLater, fun done => ?_⟩
    have same := settled done
    rw [settledLater (by rw [same]; exact done)]
    exact same

/-- A publish that landed stays where it landed. -/
theorem Extends.landed (extension : Extends before after) {ticket sequence records : Nat}
    {publish : Publish} (sent : before.publishes[ticket]? = some publish)
    (landed : publish.fate = .landed sequence records) :
    after.publishes[ticket]? = some publish := by
  obtain ⟨fate, kept, settled⟩ := extension.publishes sent
  rw [settled (by rw [landed]; simp)] at kept
  exact kept

/-- A message stays at its place. -/
theorem Extends.message (extension : Extends before after) {name : StreamName} {place : Nat}
    {payload : Bytes} (found : (before.messages name)[place]? = some payload) :
    (after.messages name)[place]? = some payload := by
  obtain ⟨more, split⟩ := extension.messages name
  rw [← split, List.getElem?_append_left (List.getElem?_eq_some_iff.mp found).1]
  exact found

section Created

/-- A new stream brings no messages. -/
theorem messages_created (broker : Broker) (name other : StreamName) :
    (broker.created name).messages other = broker.messages other := by
  by_cases same : other = name
  · subst same
    simp [created, messages]
  · simp [created, messages, Function.update_of_ne same]

/-- A new stream takes nothing back. -/
theorem extends_created (broker : Broker) (name : StreamName) :
    Extends broker (broker.created name) where
  messages other := by
    rw [messages_created]
  present other present := by
    by_cases same : other = name
    · subst same
      simp [created]
    · simpa [created, Function.update_of_ne same] using present
  publishes {_ publish} sent := ⟨publish.fate, sent, fun _ => rfl⟩

/-- A new stream keeps the log in order. -/
theorem Logged.created (logged : broker.Logged) (name : StreamName) :
    (broker.created name).Logged where
  written found := by
    rw [messages_created] at found
    exact logged.written found
  landed sent fate := by
    rw [messages_created]
    exact logged.landed sent fate
  once := logged.once

end Created

section Sent

variable {name : StreamName} {expectedLast : Option Nat} {payload : Bytes}

/-- A publish is among the old ones, or it is the one that was just sent. -/
theorem publishes_sent {ticket : Nat} {publish : Publish}
    (found : (broker.sent name expectedLast payload).publishes[ticket]? = some publish) :
    broker.publishes[ticket]? = some publish ∨
      ticket = broker.publishes.length ∧ publish = ⟨name, expectedLast, payload, .pending⟩ := by
  simp only [sent] at found
  rcases Nat.lt_trichotomy ticket broker.publishes.length with earlier | rfl | beyond
  · rw [List.getElem?_append_left earlier] at found
    exact .inl found
  · rw [List.getElem?_concat_length] at found
    exact .inr ⟨rfl, (Option.some.inj found).symm⟩
  · rw [List.getElem?_eq_none (by simp; omega)] at found
    cases found

/-- A publish that is sent takes nothing back. -/
theorem extends_sent (broker : Broker) (name : StreamName) (expectedLast : Option Nat)
    (payload : Bytes) : Extends broker (broker.sent name expectedLast payload) where
  messages _ := List.prefix_rfl
  present _ := id
  publishes {_ publish} sent := by
    refine ⟨publish.fate, ?_, fun _ => rfl⟩
    exact (List.getElem?_append_left (List.getElem?_eq_some_iff.mp sent).1).trans sent

/-- A publish that is sent keeps the log in order: its fate is open. -/
theorem Logged.sent (logged : broker.Logged) :
    (broker.sent name expectedLast payload).Logged where
  written found := by
    obtain ⟨ticket, publish, records, sent, rest⟩ := logged.written found
    obtain ⟨fate, kept, settled⟩ := (extends_sent broker name expectedLast payload).publishes sent
    rw [settled (by rw [rest.2.2]; simp)] at kept
    exact ⟨ticket, publish, records, kept, rest⟩
  landed found fate := by
    rcases publishes_sent found with earlier | ⟨-, rfl⟩
    · exact logged.landed earlier fate
    · cases fate
  once found another same fate landing := by
    rcases publishes_sent found with earlier | ⟨-, rfl⟩
    · rcases publishes_sent another with alsoEarlier | ⟨-, rfl⟩
      · exact logged.once earlier alsoEarlier same fate landing
      · cases landing
    · cases fate

end Sent

section Handled

/-- A settled publish, and the others as they were. -/
theorem publishes_settled {ticket other : Nat} {publish found : Publish} {fate : PublishFate}
    (sent : broker.publishes[ticket]? = some publish)
    (stands : (broker.publishes.set ticket { publish with fate })[other]? = some found) :
    other = ticket ∧ found = { publish with fate } ∨
      other ≠ ticket ∧ broker.publishes[other]? = some found := by
  by_cases same : other = ticket
  · subst same
    rw [List.getElem?_set_self (List.getElem?_eq_some_iff.mp sent).1] at stands
    exact .inl ⟨rfl, (Option.some.inj stands).symm⟩
  · rw [List.getElem?_set_ne (Ne.symm same)] at stands
    exact .inr ⟨same, stands⟩

/-- Settling a pending publish leaves the others as they were, and itself but for its fate.
-/
theorem extends_settled {ticket : Nat} {publish : Publish} {fate : PublishFate}
    (sent : broker.publishes[ticket]? = some publish) (pending : publish.fate = .pending)
    {other : Nat} {found : Publish} (stood : broker.publishes[other]? = some found) :
    ∃ fate', (broker.publishes.set ticket { publish with fate })[other]? =
      some { found with fate := fate' } ∧ (found.fate ≠ .pending → fate' = found.fate) := by
  by_cases same : other = ticket
  · subst same
    rw [sent] at stood
    obtain rfl := Option.some.inj stood
    refine ⟨fate, List.getElem?_set_self (List.getElem?_eq_some_iff.mp sent).1, ?_⟩
    exact fun done => (done pending).elim
  · exact ⟨found.fate, (List.getElem?_set_ne (Ne.symm same)).trans stood, fun _ => rfl⟩

/-- An accepted publish adds its payload to its own stream and nothing to the others. -/
theorem messages_accepted {ticket : Nat} {publish : Publish} {messages : List Bytes}
    (stands : broker.streams publish.stream = some messages) (name : StreamName) :
    (broker.accepted ticket publish messages).messages name =
      broker.messages name ++ (if name = publish.stream then [publish.payload] else []) := by
  by_cases same : name = publish.stream
  · subst same
    simp [accepted, Broker.messages, stands]
  · simp [accepted, Broker.messages, same]

/-- Handling a publish takes nothing back. -/
theorem Handles.extension (moved : before.Handles after) : Extends before after := by
  cases moved with
  | @accept ticket publish messages sent pending stands expected =>
      refine ⟨?_, ?_, fun stood => extends_settled sent pending stood⟩
      · intro name
        rw [messages_accepted stands]
        exact List.prefix_append _ _
      · intro name present
        by_cases same : name = publish.stream
        · subst same
          simp [accepted]
        · simpa [accepted, Function.update_of_ne same] using present
  | refuse sent pending =>
      exact ⟨fun _ => List.prefix_rfl, fun _ => id, fun stood => extends_settled sent pending stood⟩

/-- No publish comes from nowhere. -/
theorem Handles.publish (moved : before.Handles after) {ticket : Nat} {publish : Publish}
    (found : after.publishes[ticket]? = some publish) :
    ∃ fate, before.publishes[ticket]? = some { publish with fate } := by
  cases moved with
  | accept sent pending =>
      rcases publishes_settled sent found with ⟨rfl, rfl⟩ | ⟨-, earlier⟩
      · exact ⟨_, sent⟩
      · exact ⟨publish.fate, earlier⟩
  | refuse sent pending =>
      rcases publishes_settled sent found with ⟨rfl, rfl⟩ | ⟨-, earlier⟩
      · exact ⟨_, sent⟩
      · exact ⟨publish.fate, earlier⟩

/-- Handling a publish keeps the log in order. -/
theorem Logged.handled (logged : before.Logged) (moved : before.Handles after) : after.Logged := by
  have extended := moved.extension
  cases moved with
  | @accept ticket publish messages sent pending stands expected =>
      have known : before.messages publish.stream = messages := by
        rw [Broker.messages, stands]
        rfl
      have own : (before.accepted ticket publish messages).publishes[ticket]? = some { publish with
          fate := .landed (messages.length + 1) (before.messages .metaStream).length } :=
        List.getElem?_set_self (List.getElem?_eq_some_iff.mp sent).1
      refine ⟨?_, ?_, ?_⟩
      · intro name place payload found
        rw [messages_accepted stands] at found
        by_cases earlier : place < (before.messages name).length
        · rw [List.getElem?_append_left earlier] at found
          obtain ⟨other, stood, records, otherSent, is, holds, fate⟩ := logged.written found
          exact ⟨other, stood, records, extended.landed otherSent fate, is, holds, fate⟩
        · have last := (List.getElem?_eq_some_iff.mp found).1
          split_ifs at found last with same
          · subst same
            rw [known] at earlier last found
            rw [List.length_append, List.length_singleton] at last
            obtain rfl : place = messages.length := by omega
            rw [List.getElem?_concat_length] at found
            exact ⟨ticket, _, _, own, rfl, Option.some.inj found, rfl⟩
          · rw [List.append_nil] at last
            exact (earlier last).elim
      · intro other sequence records stood found fate
        rcases publishes_settled sent found with ⟨rfl, rfl⟩ | ⟨-, earlier⟩
        · cases fate
          refine ⟨messages.length, rfl, ?_, expected⟩
          rw [messages_accepted stands, if_pos rfl, known]
          exact List.getElem?_concat_length
        · obtain ⟨place, is, holds, bound⟩ := logged.landed earlier fate
          exact ⟨place, is, extended.message holds, bound⟩
      · intro other another sequence records more stood standing found alsoFound same fate landing
        have fresh : ∀ {old : Nat} {publish' : Publish} {count : Nat},
            before.publishes[old]? = some publish' → publish'.stream = publish.stream →
            publish'.fate = .landed (messages.length + 1) count → False := by
          intro old publish' count oldSent sameStream oldFate
          obtain ⟨place, is, holds, -⟩ := logged.landed oldSent oldFate
          rw [sameStream, known] at holds
          have inside := (List.getElem?_eq_some_iff.mp holds).1
          omega
        rcases publishes_settled sent found with ⟨rfl, rfl⟩ | ⟨-, earlier⟩
        · rcases publishes_settled sent alsoFound with ⟨rfl, rfl⟩ | ⟨-, alsoEarlier⟩
          · rfl
          · cases fate
            exact (fresh alsoEarlier same.symm landing).elim
        · rcases publishes_settled sent alsoFound with ⟨rfl, rfl⟩ | ⟨-, alsoEarlier⟩
          · cases landing
            exact (fresh earlier same fate).elim
          · exact logged.once earlier alsoEarlier same fate landing
  | @refuse ticket publish messages last sent pending stands expected wrong =>
      refine ⟨?_, ?_, ?_⟩
      · intro name place payload found
        obtain ⟨other, stood, records, otherSent, is, holds, fate⟩ := logged.written found
        exact ⟨other, stood, records, extended.landed otherSent fate, is, holds, fate⟩
      · intro other sequence records stood found fate
        rcases publishes_settled sent found with ⟨rfl, rfl⟩ | ⟨-, earlier⟩
        · cases fate
        · exact logged.landed earlier fate
      · intro other another sequence records more stood standing found alsoFound same fate landing
        rcases publishes_settled sent found with ⟨rfl, rfl⟩ | ⟨-, earlier⟩
        · cases fate
        · rcases publishes_settled sent alsoFound with ⟨rfl, rfl⟩ | ⟨-, alsoEarlier⟩
          · cases landing
          · exact logged.once earlier alsoEarlier same fate landing

end Handled

section Performed

variable {op : NatsOp} {answer : op.Res}

/-- No operation of a client takes anything back. -/
theorem extends_performed (performed : op.Performs before answer after) : Extends before after := by
  by_cases quiet : op.IsQuiet
  · rw [NatsOp.same_of_quiet quiet performed]
    exact .refl before
  cases op with
  | createStream name =>
      rcases performed with ⟨-, rfl⟩ | ⟨-, rfl | rfl⟩
      · exact extends_created before name
      · exact .refl _
      · exact extends_created before name
  | publish name expectedLast payload =>
      rcases performed with ⟨-, rfl⟩ | ⟨-, rfl⟩
      · exact extends_sent before name expectedLast payload
      · exact .refl _
  | _ => exact (quiet trivial).elim

/-- Every operation of a client keeps the log in order. -/
theorem Logged.performed (logged : before.Logged) (performed : op.Performs before answer after) :
    after.Logged := by
  by_cases quiet : op.IsQuiet
  · rw [NatsOp.same_of_quiet quiet performed]
    exact logged
  cases op with
  | createStream name =>
      rcases performed with ⟨-, rfl⟩ | ⟨-, rfl | rfl⟩
      · exact logged.created name
      · exact logged
      · exact logged.created name
  | publish name expectedLast payload =>
      rcases performed with ⟨-, rfl⟩ | ⟨-, rfl⟩
      · exact logged.sent
      · exact logged
  | _ => exact (quiet trivial).elim

/-- An operation sends no publish but the one it is. -/
theorem publishes_performed (performed : op.Performs before answer after) {ticket : Nat}
    {publish : Publish} (found : after.publishes[ticket]? = some publish) :
    before.publishes[ticket]? = some publish ∨ ∃ name expectedLast payload,
      op = .publish name expectedLast payload ∧ ticket = before.publishes.length ∧
        publish = ⟨name, expectedLast, payload, .pending⟩ := by
  by_cases quiet : op.IsQuiet
  · rw [NatsOp.same_of_quiet quiet performed] at found
    exact .inl found
  cases op with
  | createStream name =>
      rcases performed with ⟨-, rfl⟩ | ⟨-, rfl | rfl⟩
      · exact .inl found
      · exact .inl found
      · exact .inl found
  | publish name expectedLast payload =>
      rcases performed with ⟨-, rfl⟩ | ⟨-, rfl⟩
      · rcases publishes_sent found with earlier | ⟨last, is⟩
        · exact .inl earlier
        · exact .inr ⟨name, expectedLast, payload, rfl, last, is⟩
      · exact .inl found
  | _ => exact (quiet trivial).elim

end Performed

end Broker

end Pardosa
