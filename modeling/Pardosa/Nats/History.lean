import Pardosa.Nats.Clients
import Pardosa.Nats.Prompt
import Pardosa.Store.Acceptance

/-!
# The history on the stream

A session publishes an event that its index admits, on the condition that the stream
still ends where the session last knew it to end. Its index may be ahead of that, but
never behind. So an event that the broker takes continues the very history that it was
admitted to, however late the broker takes it.
-/

namespace Pardosa

open Foundation

variable [Digests]

/-- The frames are those of an unbroken history that fits on a stream, with this index. -/
structure ValidFrames (frames : List Bytes) (index : SessionIndex) : Prop
    extends UnbrokenHistory frames index where
  fits : ∀ frame ∈ frames, frame.length ≤ u32Max
  inRange : frames.length < u64Max

/-- An admitted frame continues such a history. -/
theorem ValidFrames.concat {frames : List Bytes} {index : SessionIndex} {payload : Bytes}
    {envelope : EventEnvelope} (valid : ValidFrames frames index)
    (admitted : AdmittedFrame index payload envelope) (inRange : frames.length + 1 < u64Max) :
    ValidFrames (frames ++ [payload]) (index.commitEnvelopeUnchecked envelope) where
  toUnbrokenHistory := valid.toUnbrokenHistory.concat admitted
  fits frame member := by
    rcases List.mem_append.mp member with earlier | last
    · exact valid.fits frame earlier
    · cases List.mem_singleton.mp last
      exact admitted.fits
  inRange := by
    rw [List.length_append, List.length_singleton]
    exact inRange

/-- No frames are a history, that of a new index. -/
theorem ValidFrames.nil : ValidFrames [] .new :=
  ⟨.nil, List.forall_mem_nil _, by decide⟩

namespace Broker

/-- The header stands before the framed payloads. -/
theorem length_framedMessages (frames : List Bytes) :
    (framedMessages frames).length = frames.length + 1 := by
  simp [framedMessages]

/-- The event data begins with these frames. -/
def Begins (broker : Broker) (frames : List Bytes) : Prop :=
  framedMessages frames <+: broker.messages .dataStream

/-- What clients publish: any records, the header of the event data, and events that the
history admits that its publisher has seen, no further than it has seen it. -/
inductive Orderly (broker : Broker) : Publish → Prop where
  | record {expectedLast : Option Nat} {payload : Bytes} {fate : PublishFate} :
      Orderly broker ⟨.metaStream, expectedLast, payload, fate⟩
  | header {fate : PublishFate} :
      Orderly broker ⟨.dataStream, some 0, ContainerHeader.new.toBytes, fate⟩
  | event {frames : List Bytes} {index : SessionIndex} {payload : Bytes} {envelope : EventEnvelope}
      {last : Nat} {fate : PublishFate} (begins : broker.Begins frames)
      (valid : ValidFrames frames index) (admitted : AdmittedFrame index payload envelope)
      (positive : 0 < last) (known : last ≤ frames.length + 1) (inRange : last < u64Max) :
      Orderly broker ⟨.dataStream, some last, ContainerFrame.frameBytes payload, fate⟩

/-- The event data is one unbroken history, and everything that was published keeps it so. -/
structure Historic (broker : Broker) : Prop where
  logged : broker.Logged
  orderly : ∀ {ticket : Nat} {publish : Publish}, broker.publishes[ticket]? = some publish →
    Orderly broker publish
  history : broker.messages .dataStream = [] ∨ ∃ frames index, ValidFrames frames index ∧
    broker.messages .dataStream = framedMessages frames

variable {broker before after : Broker}

/-- What the event data begins with stays at its beginning. -/
theorem Begins.extends (extension : Extends before after) {frames : List Bytes}
    (begins : before.Begins frames) : after.Begins frames :=
  begins.trans (extension.messages .dataStream)

/-- The event data is not shorter than what it begins with. -/
theorem Begins.length {frames : List Bytes} (begins : broker.Begins frames) :
    frames.length + 1 ≤ (broker.messages .dataStream).length := by
  rw [← length_framedMessages]
  exact begins.length_le

/-- A publish that was orderly stays so, whatever becomes of it. -/
theorem Orderly.extends (extension : Extends before after) {publish : Publish} {fate : PublishFate}
    (orderly : Orderly before { publish with fate }) : Orderly after publish := by
  obtain ⟨stream, expectedLast, payload, fate'⟩ := publish
  cases orderly with
  | record => exact .record
  | header => exact .header
  | event begins valid admitted positive known inRange =>
      exact .event (begins.extends extension) valid admitted positive known inRange

/-- An event that is taken continues the history that it was admitted to. -/
theorem Historic.accepted (historic : Historic broker) {ticket : Nat} {publish : Publish}
    {messages : List Bytes} (sent : broker.publishes[ticket]? = some publish)
    (stands : broker.streams publish.stream = some messages)
    (expected : ∀ last, publish.expectedLast = some last → last = messages.length) :
    (broker.accepted ticket publish messages).messages .dataStream = [] ∨
      ∃ frames index, ValidFrames frames index ∧
        (broker.accepted ticket publish messages).messages .dataStream = framedMessages frames := by
  have orderly := historic.orderly sent
  rw [messages_accepted stands]
  obtain ⟨stream, expectedLast, payload, fate⟩ := publish
  cases orderly with
  | record =>
      rw [if_neg (by simp), List.append_nil]
      exact historic.history
  | header =>
      have empty := expected 0 rfl
      have whole : broker.messages .dataStream = messages := by
        rw [Broker.messages, stands]
        rfl
      rw [whole, List.length_eq_zero_iff.mp empty.symm, if_pos rfl]
      exact .inr ⟨[], .new, .nil, rfl⟩
  | @event frames index payload envelope last _ begins valid admitted positive known inRange =>
      have same := expected last rfl
      have whole : broker.messages .dataStream = messages := by
        rw [Broker.messages, stands]
        rfl
      have bounded := begins.length
      rw [whole] at bounded
      have seen : framedMessages frames = broker.messages .dataStream := by
        refine begins.eq_of_length ?_
        rw [length_framedMessages, whole]
        omega
      rw [if_pos rfl, ← seen]
      refine .inr ⟨frames ++ [payload], _, valid.concat admitted (by omega), ?_⟩
      simp [framedMessages]

/-- The event data stays one unbroken history when the broker handles a publish. -/
theorem Historic.handled (historic : Historic before) (moved : before.Handles after) :
    Historic after where
  logged := historic.logged.handled moved
  orderly found := by
    obtain ⟨fate, earlier⟩ := moved.publish found
    exact (historic.orderly earlier).extends moved.extension
  history := by
    cases moved with
    | accept sent pending stands expected => exact historic.accepted sent stands expected
    | refuse sent pending stands expected wrong => exact historic.history

/-- Whatever a client does, as long as it publishes orderly. -/
theorem Historic.performed (historic : Historic before) {op : NatsOp} {answer : op.Res}
    (performs : op.Performs before answer after)
    (orderly : ∀ name expectedLast payload, op = .publish name expectedLast payload →
      Orderly before ⟨name, expectedLast, payload, .pending⟩) : Historic after where
  logged := historic.logged.performed performs
  orderly found := by
    have extension := extends_performed performs
    rcases publishes_performed performs found with
      earlier | ⟨name, expectedLast, payload, is, -, rfl⟩
    · exact (historic.orderly earlier).extends extension
    · exact (orderly name expectedLast payload is).extends extension
  history := by
    have same : after.messages .dataStream = before.messages .dataStream := by
      by_cases quiet : op.IsQuiet
      · rw [NatsOp.same_of_quiet quiet performs]
      cases op with
      | createStream name =>
          rcases performs with ⟨-, rfl⟩ | ⟨-, rfl | rfl⟩
          · exact messages_created before name .dataStream
          · rfl
          · exact messages_created before name .dataStream
      | publish name expectedLast payload =>
          rcases performs with ⟨-, rfl⟩ | ⟨-, rfl⟩
          · rfl
          · rfl
      | _ => exact (quiet trivial).elim
    rw [same]
    exact historic.history

omit [Digests] in
/-- A publish lands behind everything that was there when it was sent. -/
theorem Extends.lands_behind (extension : Extends before after) (logged : before.Logged)
    (later : after.Logged) {ticket sequence records : Nat} {publish : Publish}
    (new : before.publishes.length ≤ ticket) (sent : after.publishes[ticket]? = some publish)
    (landed : publish.fate = .landed sequence records) :
    (before.messages publish.stream).length < sequence := by
  obtain ⟨place, rfl, -, -⟩ := later.landed sent landed
  by_contra early
  have inside : place < (before.messages publish.stream).length := by omega
  obtain ⟨other, earlier, count, stood, is, -, fate⟩ :=
    logged.written (List.getElem?_eq_getElem inside)
  obtain rfl := later.once sent (extension.landed stood fate) is.symm landed fate
  have bounded := (List.getElem?_eq_some_iff.mp stood).1
  omega

end Broker

end Pardosa
