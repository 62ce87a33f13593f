import Mathlib.Logic.Function.Basic
import Mathlib.Logic.Relation
import Pardosa.Foundation.Bytes
import Pardosa.Foundation.Program

/-!
# The broker

An artefact on JetStream is a pair of streams, the ownership record and the event
data. A stream is a list of messages, numbered from one, that only grows. A
publish is sent first and handled later, at most once and at any time, or never:
the broker accepts it if the stream still ends where the publisher expects it to
end, and refuses it otherwise. Any question to the broker may go unanswered; an
answer tells the truth about a publish.
-/

namespace Pardosa

open Foundation

/-- The two streams of an artefact. -/
inductive StreamName where
  | metaStream
  | dataStream
deriving DecidableEq, Repr

/-- An error of the client or the broker: whether it carries the code that the
caller looks for (stream not found, no such message, stream name in use, wrong
last sequence), and its text. -/
structure NatsError where
  coded : Bool
  message : String
deriving DecidableEq, Repr

/-- The state of a stream. -/
structure StreamInfo where
  messages : Nat
  firstSequence : Nat
  lastSequence : Nat
deriving DecidableEq, Repr

/-- The acknowledgement of a publish. -/
structure PubAck where
  stream : String
  sequence : Nat
deriving DecidableEq, Repr

/-- What the code asks of the broker. A publish that was initiated is known by
its ticket. -/
inductive NatsOp where
  | getStream (name : StreamName)
  | info (name : StreamName)
  | streamSubjects (name : StreamName)
  | getRawMessage (name : StreamName) (sequence : Nat)
  | createStream (name : StreamName)
  | publish (name : StreamName) (expectedLast : Option Nat) (payload : Bytes)
  | awaitAck (ticket : Nat)
  | awaitAckWithinTimeout (ticket : Nat)
  | flush
deriving DecidableEq, Repr

/-- What an operation answers. An acknowledgement awaited with a timeout may not
be answered at all. -/
def NatsOp.Res : NatsOp → Type
  | .getStream _ | .createStream _ | .flush => Except NatsError Unit
  | .info _ => Except NatsError StreamInfo
  | .streamSubjects _ => Except NatsError (List String)
  | .getRawMessage .. => Except NatsError Bytes
  | .publish .. => Except NatsError Nat
  | .awaitAck _ => Except NatsError PubAck
  | .awaitAckWithinTimeout _ => Option (Except NatsError PubAck)

/-- The signature of broker operations. -/
def natsOperations : Signature := ⟨NatsOp, NatsOp.Res⟩

/-- Ask the broker. -/
def NatsOp.send (op : NatsOp) : Program natsOperations op.Res := .call (S := natsOperations) op .ret

/-- What became of a publish. A landed one keeps its sequence and the number of
messages that the ownership record had at that moment. -/
inductive PublishFate where
  | pending
  | landed (sequence records : Nat)
  | refused
deriving DecidableEq, Repr

/-- A publish that was sent. -/
structure Publish where
  stream : StreamName
  expectedLast : Option Nat
  payload : Bytes
  fate : PublishFate
deriving DecidableEq, Repr

/-- The broker: its streams and every publish ever sent, in the order of their
tickets. -/
structure Broker where
  streams : StreamName → Option (List Bytes)
  publishes : List Publish

namespace Broker

/-- The messages of a stream; none, if there is no such stream. -/
def messages (broker : Broker) (name : StreamName) : List Bytes := (broker.streams name).getD []

/-- The fate of a publish. -/
def fate (broker : Broker) (ticket : Nat) : Option PublishFate :=
  broker.publishes[ticket]?.map Publish.fate

/-- The state of a stream with given messages. -/
def infoOf (messages : List Bytes) : StreamInfo :=
  ⟨messages.length, min 1 messages.length, messages.length⟩

/-- The broker after a stream was created, which may exist already. -/
def created (broker : Broker) (name : StreamName) : Broker :=
  { broker with streams := Function.update broker.streams name (some (broker.messages name)) }

/-- The broker after a publish was sent. -/
def sent (broker : Broker) (name : StreamName) (expectedLast : Option Nat) (payload : Bytes) :
    Broker :=
  { broker with publishes := broker.publishes ++ [⟨name, expectedLast, payload, .pending⟩] }

/-- The broker after it took a publish. -/
def accepted (broker : Broker) (ticket : Nat) (publish : Publish) (messages : List Bytes) :
    Broker where
  streams := Function.update broker.streams publish.stream (some (messages ++ [publish.payload]))
  publishes := broker.publishes.set ticket { publish with
    fate := .landed (messages.length + 1) (broker.messages .metaStream).length }

/-- The broker after it refused a publish. -/
def refused (broker : Broker) (ticket : Nat) (publish : Publish) : Broker :=
  { broker with publishes := broker.publishes.set ticket { publish with fate := .refused } }

/-- The broker handles a publish that was sent. -/
inductive Handles : Broker → Broker → Prop where
  | accept {broker : Broker} {ticket : Nat} {publish : Publish} {messages : List Bytes}
      (sent : broker.publishes[ticket]? = some publish) (pending : publish.fate = .pending)
      (stands : broker.streams publish.stream = some messages)
      (expected : ∀ last, publish.expectedLast = some last → last = messages.length) :
      Handles broker (broker.accepted ticket publish messages)
  | refuse {broker : Broker} {ticket : Nat} {publish : Publish} {messages : List Bytes} {last : Nat}
      (sent : broker.publishes[ticket]? = some publish) (pending : publish.fate = .pending)
      (stands : broker.streams publish.stream = some messages)
      (expected : publish.expectedLast = some last) (wrong : last ≠ messages.length) :
      Handles broker (broker.refused ticket publish)

/-- What the broker may answer about a publish. -/
def Answers (broker : Broker) (ticket : Nat) : Except NatsError PubAck → Prop
  | .ok ack => ∃ records, broker.fate ticket = some (.landed ack.sequence records)
  | .error failure => failure.coded = true → broker.fate ticket = some .refused

end Broker

/-- What an operation may answer and do. -/
def NatsOp.Performs : (op : NatsOp) → Broker → op.Res → Broker → Prop
  | .getStream name, before, answer, after => after = before ∧
      ((∃ failure, answer = .error failure) ∨ (before.streams name).isSome = true ∧ answer = .ok ())
  | .info name, before, answer, after => after = before ∧
      ((∃ failure, answer = .error failure) ∨ ∃ messages, before.streams name = some messages ∧
        answer = .ok (Broker.infoOf messages))
  | .streamSubjects _, before, _, after | .flush, before, _, after => after = before
  | .getRawMessage name sequence, before, answer, after => after = before ∧
      ((∃ failure, answer = .error failure) ∨ ∃ payload, 0 < sequence ∧
        (before.messages name)[sequence - 1]? = some payload ∧ answer = .ok payload)
  | .createStream name, before, answer, after =>
      answer = .ok () ∧ after = before.created name ∨
        (∃ failure, answer = .error failure) ∧ (after = before ∨ after = before.created name)
  | .publish name expectedLast payload, before, answer, after =>
      answer = .ok before.publishes.length ∧ after = before.sent name expectedLast payload ∨
        (∃ failure, answer = .error failure) ∧ after = before
  | .awaitAck ticket, before, answer, after => after = before ∧ before.Answers ticket answer
  | .awaitAckWithinTimeout ticket, before, answer, after => after = before ∧
      ∀ outcome, answer = some outcome → before.Answers ticket outcome

/-- The broker with its other clients idle: between two operations of a program
it may handle any publishes. -/
def brokerSetting : Setting natsOperations Broker where
  exec op before answer after := NatsOp.Performs op before answer after
  rely := Relation.ReflTransGen Broker.Handles
  guar _ _ := True

end Pardosa
