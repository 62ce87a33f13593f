import Pardosa.Foundation.Outcome
import Pardosa.Encoding.Envelope
import Pardosa.Encoding.OwnershipRecord
import Pardosa.Store.Failure

/-!
# Containers

A container is a 12-byte header followed by frames: length, payload, checksum.
`scanContainer` is the pure part of reading one: it decodes frames in order,
stops at a frame the buffer does not hold completely and calls that a torn
tail, and fails on any other decoding error.
-/

namespace Pardosa

open Foundation

/-- The container magic, `PARDOSA` and 0x01. -/
def containerMagic : Bytes := [0x50, 0x41, 0x52, 0x44, 0x4F, 0x53, 0x41, 0x01]

/-- The container format version. -/
def containerFormatVersion : UInt32 := 1

/-- Container header. -/
structure ContainerHeader where
  formatVersion : UInt32
deriving DecidableEq, Repr

namespace ContainerHeader

/-- The header every container is created with. -/
def new : ContainerHeader := ⟨containerFormatVersion⟩

/-- The 12 bytes of a header. -/
def toBytes (header : ContainerHeader) : Bytes := containerMagic ++ writeU32 header.formatVersion

/-- Decodes a container header from the start of a buffer. -/
def decode (buf : Bytes) : Except DecodeError (ContainerHeader × Nat) :=
  if buf.length < 8 then .error (.truncatedHeader 12 buf.length)
  else if buf.take 8 ≠ containerMagic then .error .invalidMagic
  else if buf.length < 12 then .error (.truncatedHeader 12 buf.length)
  else if readU32 buf 8 ≠ containerFormatVersion then
    .error (.unsupportedFormatVersion (readU32 buf 8).toNat)
  else .ok (⟨readU32 buf 8⟩, 12)

/-- A container header takes 12 bytes. -/
@[simp] theorem length_toBytes (header : ContainerHeader) : header.toBytes.length = 12 := by
  simp [toBytes, containerMagic]

/-- The header is accepted exactly where its twelve bytes stand. -/
theorem decode_ok_iff {buf : Bytes} {header : ContainerHeader} {consumed : Nat} :
    decode buf = .ok (header, consumed) ↔
      header = new ∧ consumed = 12 ∧ ∃ rest, buf = new.toBytes ++ rest := by
  constructor
  · intro accepted
    unfold decode at accepted
    split_ifs at accepted with short magic truncated version
    cases accepted
    push Not at magic version
    refine ⟨by rw [version]; rfl, rfl, buf.drop 12, ?_⟩
    have field : (buf.drop 8).take 4 = writeU32 containerFormatVersion := by
      rw [← version, writeU32_readU32 (by omega)]
    calc buf = buf.take 8 ++ (buf.drop 8) := (List.take_append_drop 8 buf).symm
      _ = buf.take 8 ++ ((buf.drop 8).take 4 ++ (buf.drop 8).drop 4) := by
          rw [List.take_append_drop 4]
      _ = new.toBytes ++ buf.drop 12 := by
          rw [magic, field, List.drop_drop, toBytes, List.append_assoc]
          rfl
  · rintro ⟨rfl, rfl, rest, rfl⟩
    have version : readU32 (new.toBytes ++ rest) 8 = containerFormatVersion :=
      readU32_eq containerMagic rest _ (by simp [toBytes, new]) rfl
    have magic : (new.toBytes ++ rest).take 8 = containerMagic := by
      rw [toBytes, List.append_assoc]
      exact List.take_left' rfl
    unfold decode
    rw [if_neg (by simp; omega), if_neg (by simp [magic]), if_neg (by simp),
      if_neg (by simp [version]), version]
    rfl

end ContainerHeader

/-- Running commitment over the frames of a container. The hasher is kept as
the bytes it has absorbed. -/
structure RollingCommitment where
  absorbed : Bytes
  frameCount : Nat
deriving DecidableEq, Repr

namespace RollingCommitment

/-- An empty rolling commitment. -/
def new : RollingCommitment := ⟨[], 0⟩

/-- Incorporates the bytes of one frame. -/
def updateFrame (rolling : RollingCommitment) (frameBytes : Bytes) : RollingCommitment :=
  ⟨rolling.absorbed ++ frameBytes, saturatingAdd rolling.frameCount 1⟩

/-- The current commitment digest. -/
def currentCommitment [Digests] (rolling : RollingCommitment) : Hash := blake3 rolling.absorbed

end RollingCommitment

/-- A payload with the checksum recorded beside it. -/
structure ContainerFrame where
  payload : Bytes
  checksum : UInt32
deriving DecidableEq, Repr

variable [Digests]

namespace ContainerFrame

/-- The wire form of a payload: length, payload, checksum. -/
def frameBytes (payload : Bytes) : Bytes :=
  leBytes 4 payload.length ++ (payload ++ writeU32 (crc32c payload))

/-- Tries to encode a payload into container framing. -/
def tryEncodePayload (payload : Bytes) : Except EncodeError Bytes :=
  if payload.length ≤ u32Max then .ok (frameBytes payload)
  else .error (.lengthExceeded payload.length u32Max)

/-- Encodes a payload into container framing. -/
def encodePayload (payload : Bytes) : Except EncodeError Bytes := tryEncodePayload payload

/-- Decodes one frame from the start of a buffer. -/
def decode (buf : Bytes) : Except DecodeError (Bytes × Nat) :=
  if buf.length < 4 then .error (.truncatedPayload 4 buf.length)
  else
    let payloadLen := leValue (buf.take 4)
    match (checkedAdd 4 payloadLen).bind (checkedAdd · 4) with
    | none => .error (.valueConstraintViolated .tooLong)
    | some totalFrameLen =>
        if buf.length < 4 + payloadLen then .error (.truncatedPayload totalFrameLen buf.length)
        else if buf.length < totalFrameLen then .error (.truncatedPayload totalFrameLen buf.length)
        else
          let payload := (buf.drop 4).take payloadLen
          let recordedChecksum := readU32 buf (4 + payloadLen)
          let computedChecksum := crc32c payload
          if recordedChecksum ≠ computedChecksum then
            .error (.checksumMismatch computedChecksum recordedChecksum)
          else .ok (payload, totalFrameLen)

/-- A frame takes eight bytes and its payload. -/
@[simp] theorem length_frameBytes (payload : Bytes) :
    (frameBytes payload).length = payload.length + 8 := by
  simp [frameBytes]
  omega

/-- No frame is empty. -/
theorem frameBytes_ne_nil (payload : Bytes) : frameBytes payload ≠ [] := by
  intro empty
  have length := congrArg List.length empty
  rw [length_frameBytes, List.length_nil] at length
  omega

/-- The length prefix of a buffer does not fit what the buffer holds. -/
def Overruns (buf : Bytes) : Prop :=
  buf.length < 4 ∨ buf.length < leValue (buf.take 4) + 8

omit [Digests] in
/-- The total length of a frame with a four-byte length prefix never overflows. -/
theorem totalFrameLen_eq (buf : Bytes) :
    (checkedAdd 4 (leValue (buf.take 4))).bind (checkedAdd · 4) =
      some (leValue (buf.take 4) + 8) := by
  have bounded := leValue_lt (buf.take 4)
  have within : 256 ^ (buf.take 4).length ≤ 256 ^ 4 :=
    Nat.pow_le_pow_right (by decide) (List.length_take_le _ _)
  rw [checkedAdd_eq (by unfold u64Max; omega), Option.bind_some,
    checkedAdd_eq (by unfold u64Max; omega)]
  congr 1
  omega

/-- Frames are refused as truncated exactly when their length prefix overruns
the buffer. -/
theorem decode_truncated_iff {buf : Bytes} :
    (∃ expected available, decode buf = .error (.truncatedPayload expected available)) ↔
      Overruns buf := by
  unfold decode Overruns
  by_cases short : buf.length < 4
  · simp [short]
  · rw [if_neg short]
    simp only [totalFrameLen_eq]
    by_cases overrun : buf.length < leValue (buf.take 4) + 8
    · simp only [short, overrun, false_or, iff_true]
      split_ifs with payload
      · exact ⟨_, _, rfl⟩
      · exact ⟨_, _, rfl⟩
    · rw [if_neg (by omega), if_neg overrun]
      split_ifs <;> simp [short, overrun]

/-- A frame is accepted exactly where the wire form of its payload stands. -/
theorem decode_ok_iff {buf payload : Bytes} {consumed : Nat} :
    decode buf = .ok (payload, consumed) ↔
      payload.length ≤ u32Max ∧ consumed = payload.length + 8 ∧
        ∃ rest, buf = frameBytes payload ++ rest := by
  constructor
  · intro accepted
    unfold decode at accepted
    split_ifs at accepted with short
    simp only [totalFrameLen_eq] at accepted
    split_ifs at accepted with payloadShort frameShort checksum
    push Not at checksum
    cases accepted
    have width : (buf.take 4).length = 4 := by
      rw [List.length_take]
      omega
    have payloadLen : ((buf.drop 4).take (leValue (buf.take 4))).length = leValue (buf.take 4) := by
      rw [List.length_take, List.length_drop]
      omega
    have prefixLen := leValue_lt (buf.take 4)
    rw [width] at prefixLen
    rw [payloadLen]
    refine ⟨by unfold u32Max; omega, rfl, buf.drop (leValue (buf.take 4) + 8), ?_⟩
    have checksumField : writeU32 (crc32c ((buf.drop 4).take (leValue (buf.take 4)))) =
        (buf.drop (4 + leValue (buf.take 4))).take 4 := by
      rw [← checksum, writeU32_readU32 (by omega)]
    have lengthField : leBytes 4 (leValue (buf.take 4)) = buf.take 4 :=
      leBytes_leValue_of_length width
    rw [frameBytes, payloadLen, checksumField, lengthField]
    generalize leValue (buf.take 4) = len
    have regroup : len + 8 = 4 + len + 4 := by omega
    calc buf = buf.take 4 ++ buf.drop 4 := (List.take_append_drop 4 buf).symm
      _ = buf.take 4 ++ ((buf.drop 4).take len ++ buf.drop (4 + len)) :=
          congrArg (buf.take 4 ++ ·) (drop_eq_field_append buf 4 len)
      _ = buf.take 4 ++ ((buf.drop 4).take len ++
            ((buf.drop (4 + len)).take 4 ++ buf.drop (4 + len + 4))) :=
          congrArg (fun tail => buf.take 4 ++ ((buf.drop 4).take len ++ tail))
            (drop_eq_field_append buf (4 + len) 4)
      _ = _ := by rw [regroup]; simp only [List.append_assoc]
  · rintro ⟨fits, rfl, rest, rfl⟩
    have lengthField : (frameBytes payload ++ rest).take 4 = leBytes 4 payload.length := by
      rw [frameBytes, List.append_assoc]
      exact List.take_left' (length_leBytes 4 _)
    have lengthValue : leValue ((frameBytes payload ++ rest).take 4) = payload.length := by
      rw [lengthField]
      exact leValue_leBytes_of_lt (by unfold u32Max at fits; omega)
    have payloadField : ((frameBytes payload ++ rest).drop 4).take payload.length = payload := by
      rw [frameBytes, List.append_assoc, List.drop_left' (length_leBytes 4 _), List.append_assoc]
      exact List.take_left' rfl
    have checksumField : readU32 (frameBytes payload ++ rest) (4 + payload.length) =
        crc32c payload :=
      readU32_eq (leBytes 4 payload.length ++ payload) rest _ (by simp [frameBytes]) (by simp)
    have total := totalFrameLen_eq (frameBytes payload ++ rest)
    rw [lengthValue] at total
    unfold decode
    simp only [lengthValue, total, payloadField, checksumField, ne_eq, not_true_eq_false, if_false]
    rw [if_neg (by simp; omega), if_neg (by simp; omega), if_neg (by simp)]

/-- A frame by itself is accepted with nothing left over. -/
theorem decode_frameBytes {payload : Bytes} (fits : payload.length ≤ u32Max) :
    decode (frameBytes payload) = .ok (payload, (frameBytes payload).length) := by
  refine decode_ok_iff.mpr ⟨fits, length_frameBytes payload, [], ?_⟩
  rw [List.append_nil]

end ContainerFrame

end Pardosa
