import Pardosa.Foundation.Outcome
import Pardosa.Encoding.Error
import Pardosa.Encoding.Digest

/-!
# Event envelopes

The fixed 81-byte header, the length-prefixed payload and the commitment over
both. Encoding is available only through `WireEnvelope`, which carries the
proof that the complete wire size fits a `u32` frame.
-/

namespace Pardosa

open Foundation

/-- A 16-byte identifier. -/
abbrev Id := FixedBytes 16

/-- A 32-byte digest. -/
abbrev Hash := FixedBytes 32

/-- The identifier that marks absence: sixteen zero bytes. -/
def zeroId : Id := FixedBytes.zero 16

/-- The digest that marks absence: thirty-two zero bytes. -/
def zeroHash : Hash := FixedBytes.zero 32

/-- Fixed 81-byte header of an event envelope. -/
structure EnvelopeHeader where
  eventId : Id
  fiberId : Id
  detached : Bool
  precursor : Id
  precursorHash : Hash
deriving DecidableEq, Repr

/-- An event envelope: header and serialized payload. -/
structure EventEnvelope where
  header : EnvelopeHeader
  payload : Bytes
deriving DecidableEq, Repr

/-- A borrowed view of an envelope inside a wire buffer. -/
structure EventEnvelopeRef where
  header : EnvelopeHeader
  payload : Bytes
deriving DecidableEq, Repr

namespace EnvelopeHeader

/-- The byte of the detached flag. -/
def detachedByte (detached : Bool) : UInt8 := if detached then 0x01 else 0x00

/-- The 81 bytes of a header. -/
def encode (header : EnvelopeHeader) : Bytes :=
  header.eventId.val ++ (header.fiberId.val ++ ([detachedByte header.detached] ++
    (header.precursor.val ++ header.precursorHash.val)))

/-- Decodes an 81-byte envelope header. -/
def decode (buf : Bytes) : Except DecodeError (EnvelopeHeader × Nat) :=
  if short : buf.length < 81 then
    .error (.truncatedHeader 81 buf.length)
  else
    let eventId := slice buf 0 16 (by omega)
    let fiberId := slice buf 16 16 (by omega)
    let precursor := slice buf 33 16 (by omega)
    let precursorHash := slice buf 49 32 (by omega)
    match buf[32] with
    | 0x00 => .ok (⟨eventId, fiberId, false, precursor, precursorHash⟩, 81)
    | 0x01 => .ok (⟨eventId, fiberId, true, precursor, precursorHash⟩, 81)
    | value => .error (.invalidBooleanDiscriminant value)

/-- A header takes 81 bytes. -/
@[simp] theorem length_encode (header : EnvelopeHeader) : header.encode.length = 81 := by
  simp [encode, header.eventId.property, header.fiberId.property, header.precursor.property,
    header.precursorHash.property]

/-- An encoded header is read back, whatever follows it. -/
theorem decode_encode (header : EnvelopeHeader) (rest : Bytes) :
    decode (header.encode ++ rest) = .ok (header, 81) := by
  generalize layout : header.encode ++ rest = buf
  obtain ⟨eventId, fiberId, detached, precursor, precursorHash⟩ := header
  have enough : ¬ buf.length < 81 := by simp [← layout]
  have flag : buf[32] = detachedByte detached := by
    subst layout
    simp [encode, eventId.property, fiberId.property]
  have eventAt (fits) : slice buf 0 16 fits = eventId :=
    slice_eq [] _ eventId (by simp [← layout, encode]; rfl) rfl
  have fiberAt (fits) : slice buf 16 16 fits = fiberId :=
    slice_eq eventId.val _ fiberId (by simp [← layout, encode]; rfl) eventId.property
  have precursorAt (fits) : slice buf 33 16 fits = precursor :=
    slice_eq (eventId.val ++ (fiberId.val ++ [detachedByte detached])) _ precursor
      (by simp [← layout, encode]; rfl) (by simp [eventId.property, fiberId.property])
  have hashAt (fits) : slice buf 49 32 fits = precursorHash :=
    slice_eq (eventId.val ++ (fiberId.val ++ ([detachedByte detached] ++ precursor.val))) rest
      precursorHash (by simp [← layout, encode])
      (by simp [eventId.property, fiberId.property, precursor.property])
  unfold decode
  rw [dif_neg enough]
  simp only [flag, eventAt, fiberAt, precursorAt, hashAt]
  cases detached <;> rfl

/-- A header that is read covers its 81 bytes. -/
theorem decode_ok {buf : Bytes} {header : EnvelopeHeader} {consumed : Nat}
    (accepted : decode buf = .ok (header, consumed)) : consumed = 81 ∧ 81 ≤ buf.length := by
  unfold decode at accepted
  split at accepted
  · cases accepted
  · rename_i enough
    refine ⟨?_, by omega⟩
    simp only at accepted
    split at accepted <;> cases accepted <;> rfl

end EnvelopeHeader

namespace EventEnvelopeRef

/-- Decodes a borrowed event envelope from wire bytes. -/
def decode (buf : Bytes) : Except DecodeError (EventEnvelopeRef × Nat) := do
  let (header, headerConsumed) ← EnvelopeHeader.decode buf
  if buf.length < headerConsumed + 4 then
    throw (.truncatedHeader (headerConsumed + 4) buf.length)
  let payloadLen := leValue ((buf.drop headerConsumed).take 4)
  match (checkedAdd headerConsumed 4).bind (checkedAdd · payloadLen) with
  | none => throw (.valueConstraintViolated .tooLong)
  | some totalConsumed =>
      if buf.length < totalConsumed then
        throw (.truncatedPayload totalConsumed buf.length)
      let payload := (buf.take totalConsumed).drop (headerConsumed + 4)
      return (⟨header, payload⟩, totalConsumed)

/-- A view that is read covers the fixed part and its payload, within the
buffer. -/
theorem decode_ok {buf : Bytes} {view : EventEnvelopeRef} {consumed : Nat}
    (accepted : decode buf = .ok (view, consumed)) :
    consumed = view.payload.length + 85 ∧ consumed ≤ buf.length := by
  unfold decode at accepted
  obtain ⟨⟨header, headerConsumed⟩, headerAt, accepted⟩ := bind_eq_ok.mp accepted
  obtain ⟨rfl, -⟩ := EnvelopeHeader.decode_ok headerAt
  simp only at accepted
  split at accepted
  · cases accepted
  rename_i enough
  split at accepted
  · cases accepted
  rename_i total totalAt
  split at accepted
  · cases accepted
  rename_i within
  cases accepted
  obtain ⟨fixed, fixedAt, lengthAt⟩ := Option.bind_eq_some_iff.mp totalAt
  have fixedLen := checkedAdd_eq_some fixedAt
  have totalLen := checkedAdd_eq_some lengthAt
  simp only [List.length_drop, List.length_take]
  omega

/-- The owned envelope of a view. -/
def toOwned (view : EventEnvelopeRef) : EventEnvelope := ⟨view.header, view.payload⟩

end EventEnvelopeRef

/-- The complete wire size of an envelope, when it stays within a limit and a
`u32`. -/
def envelopeWireLen (payloadLen limit : Nat) : Except DecodeError Nat :=
  match (checkedAdd payloadLen 85).filter (fun len => len ≤ limit && len ≤ u32Max) with
  | some len => .ok len
  | none => .error (.valueConstraintViolated .tooLong)

/-- An envelope whose complete wire size fits a `u32` frame. -/
structure WireEnvelope where
  envelope : EventEnvelope
  wireLen : Nat
  wireLen_eq : wireLen = envelope.payload.length + 85
  fits : wireLen ≤ u32Max

/-- What an accepted wire size says. -/
theorem envelopeWireLen_ok {payloadLen limit len : Nat}
    (accepted : envelopeWireLen payloadLen limit = .ok len) :
    len = payloadLen + 85 ∧ len ≤ limit ∧ len ≤ u32Max := by
  unfold envelopeWireLen checkedAdd at accepted
  split at accepted
  · rename_i found filtered
    obtain ⟨chosen, within⟩ := Option.filter_eq_some_iff.mp filtered
    cases accepted
    split at chosen
    · cases chosen
      simpa using within
    · cases chosen
  · cases accepted

/-- Sizes that fit the limit and a `u32` are accepted. -/
theorem envelopeWireLen_of_le {payloadLen limit : Nat} (within : payloadLen + 85 ≤ limit)
    (fits : payloadLen + 85 ≤ u32Max) :
    envelopeWireLen payloadLen limit = .ok (payloadLen + 85) := by
  have range : payloadLen + 85 ≤ u64Max := by unfold u32Max at fits; unfold u64Max; omega
  simp [envelopeWireLen, checkedAdd, range, Option.filter_some, within, fits]

namespace WireEnvelope

/-- Validates an envelope against a wire-size limit. -/
def bounded (envelope : EventEnvelope) (limit : Nat) : Except DecodeError WireEnvelope :=
  match accepted : envelopeWireLen envelope.payload.length limit with
  | .error failure => .error failure
  | .ok wireLen =>
      .ok ⟨envelope, wireLen, (envelopeWireLen_ok accepted).1, (envelopeWireLen_ok accepted).2.2⟩

/-- Validates an envelope against the frame limit. -/
def tryFrom (envelope : EventEnvelope) : Except DecodeError WireEnvelope :=
  bounded envelope u32Max

/-- The bytes a validated envelope appends to a buffer. -/
def encode (wire : WireEnvelope) : Bytes :=
  wire.envelope.header.encode ++ (leBytes 4 (wire.wireLen - 85) ++ wire.envelope.payload)

/-- Validation keeps the envelope. -/
theorem bounded_envelope {envelope : EventEnvelope} {limit : Nat} {wire : WireEnvelope}
    (accepted : bounded envelope limit = .ok wire) : wire.envelope = envelope := by
  unfold bounded at accepted
  split at accepted
  · cases accepted
  · cases accepted
    rfl

/-- An envelope takes as many bytes as it announces. -/
@[simp] theorem length_encode (wire : WireEnvelope) : wire.encode.length = wire.wireLen := by
  simp [encode, wire.wireLen_eq]
  omega

end WireEnvelope

namespace EventEnvelope

/-- Encodes into a buffer after validating the complete wire size; the buffer is
unchanged when validation fails. -/
def encodeBounded (envelope : EventEnvelope) (buf : Bytes) (limit : Nat) :
    Except DecodeError Unit × Bytes :=
  match WireEnvelope.bounded envelope limit with
  | .error failure => (.error failure, buf)
  | .ok wire => (.ok (), buf ++ wire.encode)

/-- Encodes into a buffer under the frame limit. -/
def encode (envelope : EventEnvelope) (buf : Bytes) : Except DecodeError Unit × Bytes :=
  envelope.encodeBounded buf u32Max

/-- A validated envelope encodes to its wire form. -/
theorem encode_of_tryFrom {envelope : EventEnvelope} {wire : WireEnvelope}
    (accepted : WireEnvelope.tryFrom envelope = .ok wire) :
    envelope.encode [] = (.ok (), wire.encode) := by
  unfold WireEnvelope.tryFrom at accepted
  simp only [encode, encodeBounded, accepted, List.nil_append]

/-- Decodes an event envelope from wire bytes. -/
def decode (buf : Bytes) : Except DecodeError (EventEnvelope × Nat) := do
  let (view, consumed) ← EventEnvelopeRef.decode buf
  return (view.toOwned, consumed)

/-- An encoded envelope is read back, whatever follows it. -/
theorem decode_encode (wire : WireEnvelope) (rest : Bytes) :
    decode (wire.encode ++ rest) = .ok (wire.envelope, wire.wireLen) := by
  obtain ⟨⟨header, payload⟩, wireLen, wireLen_eq, fits⟩ := wire
  simp only at wireLen_eq
  subst wireLen_eq
  have small : payload.length ≤ u32Max := by omega
  have field : leValue (leBytes 4 payload.length) = payload.length :=
    leValue_leBytes_of_lt (by unfold u32Max at small; omega)
  have range : checkedAdd 85 payload.length = some (85 + payload.length) :=
    checkedAdd_eq (by have := le_u64Max_of_le_u32Max small; omega)
  generalize layout : WireEnvelope.encode ⟨⟨header, payload⟩, payload.length + 85, rfl, fits⟩ ++
    rest = buf
  replace layout : header.encode ++ (leBytes 4 payload.length ++ (payload ++ rest)) = buf := by
    simp [← layout, WireEnvelope.encode]
  have headerAt : EnvelopeHeader.decode buf = .ok (header, 81) := by
    rw [← layout, EnvelopeHeader.decode_encode]
  have lengthAt : (buf.drop 81).take 4 = leBytes 4 payload.length := by
    rw [← layout, List.drop_left' (by simp), List.take_left' (by simp)]
  have payloadAt : (buf.take (85 + payload.length)).drop 85 = payload := by
    rw [List.drop_take, ← layout, ← List.append_assoc, List.drop_left' (by simp)]
    simp
  have total : 85 + payload.length ≤ buf.length := by
    simp only [← layout, List.length_append, EnvelopeHeader.length_encode, length_leBytes]
    omega
  have first : checkedAdd 81 4 = some 85 := rfl
  simp only [decode, EventEnvelopeRef.decode, headerAt, bind, Except.bind, lengthAt, field, first,
    Option.bind, range, payloadAt, if_neg (Nat.not_lt.mpr total),
    if_neg (Nat.not_lt.mpr (Nat.le_trans (Nat.le_add_right 85 _) total))]
  rw [Nat.add_comm 85]
  rfl

/-- An envelope that is read covers the fixed part and its payload, within the
buffer. -/
theorem decode_ok {buf : Bytes} {envelope : EventEnvelope} {consumed : Nat}
    (accepted : decode buf = .ok (envelope, consumed)) :
    consumed = envelope.payload.length + 85 ∧ consumed ≤ buf.length := by
  obtain ⟨⟨view, covered⟩, viewAt, accepted⟩ := bind_eq_ok.mp accepted
  cases accepted
  exact EventEnvelopeRef.decode_ok viewAt

variable [Digests]

/-- Commitment of a header and a payload: the hash of the canonical header bytes
followed by the payload. -/
def computeEnvelopeCommitment (header : EnvelopeHeader) (payload : Bytes) : Hash :=
  blake3 (header.encode ++ payload)

/-- The commitment of an envelope. -/
def commitment (envelope : EventEnvelope) : Hash :=
  computeEnvelopeCommitment envelope.header envelope.payload

/-- Constructs a genesis envelope with a zeroed precursor link. -/
def genesis (eventId fiberId : Id) (payload : Bytes) : Except DecodeError EventEnvelope := do
  if eventId = zeroId then
    throw (.valueConstraintViolated .empty)
  let _ ← envelopeWireLen payload.length u32Max
  return ⟨⟨eventId, fiberId, false, zeroId, zeroHash⟩, payload⟩

/-- Chains a child envelope to an existing predecessor in the same fiber. -/
def chainWith (detached : Bool) (predecessor : EventEnvelope) (eventId : Id) (payload : Bytes) :
    Except DecodeError EventEnvelope := do
  if eventId = zeroId ∨ predecessor.header.eventId = zeroId then
    throw (.valueConstraintViolated .empty)
  let _ ← envelopeWireLen payload.length u32Max
  return ⟨⟨eventId, predecessor.header.fiberId, detached, predecessor.header.eventId,
    predecessor.commitment⟩, payload⟩

/-- Chains an attached child envelope. -/
def chain := chainWith false

/-- Chains a detached child envelope. -/
def chainDetached := chainWith true

end EventEnvelope

end Pardosa
