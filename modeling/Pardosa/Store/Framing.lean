import Pardosa.Foundation.Layout
import Pardosa.Store.Write

/-!
# Envelope framing

The frames that the session index accepts are those that the encoder writes: the owned
decoder, the borrowed one and the one that asks for complete consumption read one layout,
and both encoders write it.
-/

namespace Pardosa

open Foundation

/-- A header that is read is written as the bytes it was read from. -/
theorem EnvelopeHeader.stands_of_decode {buf : Bytes} {header : EnvelopeHeader} {consumed : Nat}
    (decoded : decode buf = .ok (header, consumed)) : Stands buf 0 header.encode consumed := by
  unfold decode at decoded
  split at decoded
  · cases decoded
  have flagAt : Stands buf 32 [buf[32]] 33 := .byte (by omega)
  simp only at decoded
  split at decoded
  · rename_i flag
    cases decoded
    rw [flag] at flagAt
    exact (Stands.field (by omega)).append ((Stands.field (by omega)).append
      (flagAt.append ((Stands.field (by omega)).append (.field (by omega)))))
  · rename_i flag
    cases decoded
    rw [flag] at flagAt
    exact (Stands.field (by omega)).append ((Stands.field (by omega)).append
      (flagAt.append ((Stands.field (by omega)).append (.field (by omega)))))
  · cases decoded

/-- The layout of an envelope: header, payload length, payload. -/
def EventEnvelope.layout (envelope : EventEnvelope) : Bytes :=
  envelope.header.encode ++ (leBytes 4 envelope.payload.length ++ envelope.payload)

/-- An envelope takes 85 bytes and its payload. -/
theorem EventEnvelope.length_layout (envelope : EventEnvelope) :
    envelope.layout.length = envelope.payload.length + 85 := by
  simp only [layout, List.length_append, EnvelopeHeader.length_encode, length_leBytes]
  omega

/-- A wire envelope is written in that layout. -/
theorem WireEnvelope.encode_eq_layout (wire : WireEnvelope) :
    wire.encode = wire.envelope.layout := by
  rw [encode, EventEnvelope.layout, wire.wireLen_eq, Nat.add_sub_cancel]

/-- A view that is read is laid out as the bytes it was read from. -/
theorem EventEnvelopeRef.stands_of_decode {buf : Bytes} {view : EventEnvelopeRef} {consumed : Nat}
    (decoded : decode buf = .ok (view, consumed)) :
    Stands buf 0 view.toOwned.layout consumed := by
  simp only [decode, bind_eq_ok, throwIf_eq_ok] at decoded
  obtain ⟨⟨header, headerConsumed⟩, headerAt, enough, decoded⟩ := decoded
  have headerStands := EnvelopeHeader.stands_of_decode headerAt
  obtain ⟨rfl, -⟩ := EnvelopeHeader.decode_ok headerAt
  dsimp only at enough decoded
  split at decoded
  · cases decoded
  rename_i total totalAt
  simp only [throwIf_eq_ok, pure_eq_ok] at decoded
  obtain ⟨within, decoded⟩ := decoded
  obtain ⟨fixed, fixedAt, lengthAt⟩ := Option.bind_eq_some_iff.mp totalAt
  have fixedLen := checkedAdd_eq_some fixedAt
  have totalLen := checkedAdd_eq_some lengthAt
  obtain rfl : total = 85 + leValue ((buf.drop 81).take 4) := by omega
  cases decoded
  have lenAt : Stands buf 81 ((buf.drop 81).take 4) 85 := .field (by omega)
  have payloadAt : Stands buf 85 ((buf.take (85 + leValue ((buf.drop 81).take 4))).drop 85)
      (85 + leValue ((buf.drop 81).take 4)) := by
    rw [List.drop_take, Nat.add_sub_cancel_left]
    exact .field (by omega)
  have sized := Nat.add_left_cancel payloadAt.length
  have field : ((buf.drop 81).take 4).length = 4 := Nat.add_left_cancel lenAt.length.symm
  rw [← leBytes_leValue_of_length field, sized] at lenAt
  exact headerStands.append (lenAt.append payloadAt)

namespace SessionIndex

/-- The frames that are accepted as an envelope are its layout. -/
theorem decodeAndValidateFrame_ok_iff_layout {frame : Bytes} {envelope : EventEnvelope}
    (fits : frame.length ≤ u32Max) :
    decodeAndValidateFrame frame = .ok envelope ↔ frame = envelope.layout := by
  constructor
  · intro decoded
    have decoded := decodeAndValidateFrame_ok_iff.mp decoded
    simp only [EventEnvelope.decode, bind_eq_ok, pure_eq_ok] at decoded
    obtain ⟨⟨view, consumed⟩, viewAt, decoded⟩ := decoded
    cases decoded
    have stands := EventEnvelopeRef.stands_of_decode viewAt
    rw [← stands.take_eq, List.take_length]
  · rintro rfl
    have length := envelope.length_layout
    have written := WireEnvelope.encode_eq_layout ⟨envelope, envelope.payload.length + 85, rfl,
      length ▸ fits⟩
    rw [← written]
    exact decodeAndValidateFrame_encode _

end SessionIndex

/-- Validation refuses for one reason. -/
theorem WireEnvelope.bounded_error {envelope : EventEnvelope} {limit : Nat} {failure : DecodeError}
    (refused : bounded envelope limit = .error failure) :
    failure = .valueConstraintViolated .tooLong ∧
      ¬(envelope.payload.length + 85 ≤ limit ∧ envelope.payload.length + 85 ≤ u32Max) := by
  unfold bounded at refused
  split at refused
  · rename_i inner rejected
    cases refused
    refine ⟨?_, fun within => ?_⟩
    · unfold envelopeWireLen at rejected
      split at rejected <;> cases rejected
      rfl
    · rw [envelopeWireLen_of_le within.1 within.2] at rejected
      cases rejected
  · cases refused

/-- Encoding succeeds on the envelopes whose wire size fits a frame, and appends their
layout; otherwise the buffer is left as it was. -/
theorem EventEnvelope.encode_eq (envelope : EventEnvelope) (buf : Bytes) :
    envelope.encode buf = if envelope.payload.length + 85 ≤ u32Max
      then (.ok (), buf ++ envelope.layout)
      else (.error (.valueConstraintViolated .tooLong), buf) := by
  unfold encode encodeBounded
  split
  · rename_i failure refused
    obtain ⟨rfl, exceeds⟩ := WireEnvelope.bounded_error refused
    rw [if_neg fun within => exceeds ⟨within, within⟩]
  · rename_i wire accepted
    obtain rfl := WireEnvelope.bounded_envelope accepted
    rw [WireEnvelope.encode_eq_layout, if_pos (wire.wireLen_eq ▸ wire.fits)]

/-- An envelope encodes exactly when it fits a frame. -/
theorem EventEnvelope.encode_ok_iff (envelope : EventEnvelope) :
    (envelope.encode []).1 = .ok () ↔ envelope.payload.length + 85 ≤ u32Max := by
  rw [encode_eq]
  split <;> rename_i fits
  · exact ⟨fun _ => fits, fun _ => rfl⟩
  · exact ⟨nofun, fun within => absurd within fits⟩

/-- Envelope framing is exact. -/
theorem envelope_framing_exact :
    (∀ (frame : Bytes) (envelope : EventEnvelope), frame.length ≤ u32Max →
      (SessionIndex.decodeAndValidateFrame frame = .ok envelope ↔
        ∀ buf, envelope.encode buf = (.ok (), buf ++ frame))) ∧
    (∀ buf : Bytes, EventEnvelope.decode buf =
      (EventEnvelopeRef.decode buf).map fun read => (⟨read.1.header, read.1.payload⟩, read.2)) ∧
    ∀ (envelope : EventEnvelope) (buf : Bytes),
      ((∃ failure, (envelope.encode buf).1 = .error failure) ↔
        u32Max < 85 + envelope.payload.length) ∧
      (u32Max < 85 + envelope.payload.length → (envelope.encode buf).2 = buf) := by
  refine ⟨?_, fun buf => ?_, fun envelope buf => ?_⟩
  · intro frame envelope fits
    rw [SessionIndex.decodeAndValidateFrame_ok_iff_layout fits]
    constructor
    · rintro rfl buf
      rw [EventEnvelope.length_layout] at fits
      rw [EventEnvelope.encode_eq, if_pos fits]
    · intro written
      have written := written []
      rw [EventEnvelope.encode_eq] at written
      split at written
      · exact (congrArg Prod.snd written).symm
      · cases congrArg Prod.fst written
  · unfold EventEnvelope.decode
    cases EventEnvelopeRef.decode buf <;> rfl
  · rw [EventEnvelope.encode_eq, Nat.add_comm 85]
    split
    · rename_i within
      refine ⟨⟨nofun, fun above => ?_⟩, fun above => ?_⟩
      · omega
      · omega
    · rename_i exceeds
      exact ⟨⟨fun _ => Nat.lt_of_not_le exceeds, fun _ => ⟨_, rfl⟩⟩, fun _ => rfl⟩

/-- An envelope that detaches its fiber, with a payload of three bytes. -/
def detachingEnvelope : EventEnvelope :=
  ⟨⟨⟨List.replicate 16 5, List.length_replicate ..⟩,
    ⟨List.replicate 16 2, List.length_replicate ..⟩,
    true, ⟨List.replicate 16 3, List.length_replicate ..⟩,
    ⟨List.replicate 32 4, List.length_replicate ..⟩⟩, [7, 8, 9]⟩

/-- The bytes of that envelope. -/
def detachingFrame : Bytes :=
  List.replicate 16 5 ++ List.replicate 16 2 ++ [1] ++ List.replicate 16 3 ++ List.replicate 32 4 ++
    [3, 0, 0, 0] ++ [7, 8, 9]

/-- Framing of an envelope with its flag set and a payload. -/
theorem envelope_framing_exact_detaching :
    SessionIndex.decodeAndValidateFrame detachingFrame = .ok detachingEnvelope ∧
      ∀ buf, detachingEnvelope.encode buf = (.ok (), buf ++ detachingFrame) := by
  have decoded : SessionIndex.decodeAndValidateFrame detachingFrame = .ok detachingEnvelope := rfl
  exact ⟨decoded, (envelope_framing_exact.1 _ _ (by decide)).mp decoded⟩

end Pardosa
