import Pardosa.Encoding.RecordGrammar
import Pardosa.Store.Failure

/-!
# Schema descriptors

The descriptor syntax tree, its binary form, and admission: structural
completeness, the depth limit and the size limit of the encoded record.
Encoding and validation count their depth up to the limit as the source does;
decoding counts the remaining depth down, so it is structural.
-/

namespace Pardosa

open Foundation

/-- Deepest admitted nesting; the root is at depth zero. -/
def maxDescriptorDepth : Nat := 16

/-- Size limit of an encoded descriptor record. -/
def maxDescriptorRecordBytes : Nat := 65536

mutual

/-- The admitted constructor vocabulary. -/
inductive DescriptorNode where
  | u8 | u16 | u32 | u64
  | i8 | i16 | i32 | i64
  | bool
  | eventString (maxBytes : UInt32)
  | nonEmptyEventString (maxBytes : UInt32)
  | eventBytes (maxBytes : UInt32)
  | eventVec (inner : DescriptorNode) (maxItems : UInt32)
  | option (inner : DescriptorNode)
  | struct (name : String) (fields : FieldDescriptors)
  | enum (name : String) (discriminantWidth : UInt8) (variants : VariantDescriptors)
  | timestamp
  | uuid
  | orderedF32
  | orderedF64

/-- The ordered fields of a struct. -/
inductive FieldDescriptors where
  | nil
  | cons (name : String) (node : DescriptorNode) (rest : FieldDescriptors)

/-- The variants of an enum, with explicit discriminants. -/
inductive VariantDescriptors where
  | nil
  | cons (discriminant : UInt32) (name : String) (payload : VariantPayload)
      (rest : VariantDescriptors)

/-- The payload of a variant; a unit variant has none. -/
inductive VariantPayload where
  | none
  | some (node : DescriptorNode)

end

deriving instance DecidableEq for DescriptorNode, FieldDescriptors, VariantDescriptors,
  VariantPayload

/-- Number of fields. -/
def FieldDescriptors.length : FieldDescriptors → Nat
  | .nil => 0
  | .cons _ _ rest => rest.length + 1

/-- Number of variants. -/
def VariantDescriptors.length : VariantDescriptors → Nat
  | .nil => 0
  | .cons _ _ _ rest => rest.length + 1

/-- The length of a name, when it fits its wire field. -/
def nameLen (name : String) : Except EncodeError Nat :=
  if (utf8Bytes name).length ≤ u32Max then .ok (utf8Bytes name).length
  else .error (.custom "length exceeds u32::MAX")

/-- A count, when it fits its wire field. -/
def countLen (count : Nat) : Except EncodeError Nat :=
  if count ≤ u32Max then .ok count else .error (.custom "length exceeds u32::MAX")

/-- A name on the wire: length and bytes. -/
def encodeName (name : String) : Except EncodeError Bytes := do
  let len ← nameLen name
  return leBytes 4 len ++ utf8Bytes name

/-- A sum of wire lengths within the range of a `usize`. -/
def addLens (total : Nat) : List Nat → Except EncodeError Nat
  | [] => .ok total
  | len :: rest =>
      match checkedAdd total len with
      | none => .error (.custom "length overflow")
      | some sum => addLens sum rest

/-- The wire bytes of a discriminant under a width. -/
def encodeDiscriminant (width : UInt8) (discriminant : UInt32) : Except EncodeError Bytes :=
  if width = 1 then
    if discriminant > 255 then .error (.custom "discriminant exceeds 1-byte width")
    else .ok (leBytes 1 discriminant.toNat)
  else if discriminant > 65535 then .error (.custom "discriminant exceeds 2-byte width")
  else .ok (leBytes 2 discriminant.toNat)

namespace DescriptorNode

/-- The wire tag of a constructor. -/
def constructorTag : DescriptorNode → UInt8
  | .u8 => 0x01
  | .u16 => 0x02
  | .u32 => 0x03
  | .u64 => 0x04
  | .i8 => 0x05
  | .i16 => 0x06
  | .i32 => 0x07
  | .i64 => 0x08
  | .bool => 0x09
  | .eventString _ => 0x0A
  | .nonEmptyEventString _ => 0x0B
  | .eventBytes _ => 0x0C
  | .eventVec _ _ => 0x0D
  | .option _ => 0x0E
  | .struct _ _ => 0x0F
  | .enum _ _ _ => 0x10
  | .timestamp => 0x11
  | .uuid => 0x12
  | .orderedF32 => 0x13
  | .orderedF64 => 0x14

mutual

/-- Exact encoded length of a node at a depth. -/
def encodedLenRecursive (depth : Nat) (node : DescriptorNode) : Except EncodeError Nat :=
  if depth > maxDescriptorDepth then .error (.depthExceeded depth maxDescriptorDepth)
  else match node with
    | .u8 | .u16 | .u32 | .u64 | .i8 | .i16 | .i32 | .i64 | .bool | .timestamp | .uuid
    | .orderedF32 | .orderedF64 => .ok 1
    | .eventString _ | .nonEmptyEventString _ | .eventBytes _ => addLens 1 [4]
    | .eventVec inner _ => do
        let innerLen ← encodedLenRecursive (depth + 1) inner
        addLens 1 [innerLen, 4]
    | .option inner => do
        let innerLen ← encodedLenRecursive (depth + 1) inner
        addLens 1 [innerLen]
    | .struct name fields => do
        let len ← nameLen name
        let total ← addLens 1 [4, len, 4]
        let _ ← countLen fields.length
        encodedLenFields (depth + 1) total fields
    | .enum name discriminantWidth variants => do
        let len ← nameLen name
        let total ← addLens 1 [4, len, 1, 4]
        let _ ← countLen variants.length
        encodedLenVariants (depth + 1) discriminantWidth total variants

/-- Encoded length of fields, added to a running total. -/
def encodedLenFields (depth total : Nat) : FieldDescriptors → Except EncodeError Nat
  | .nil => .ok total
  | .cons name node rest => do
      let len ← nameLen name
      let nodeLen ← encodedLenRecursive depth node
      let total ← addLens total [4, len, nodeLen]
      encodedLenFields depth total rest

/-- Encoded length of variants, added to a running total. -/
def encodedLenVariants (depth : Nat) (width : UInt8) (total : Nat) :
    VariantDescriptors → Except EncodeError Nat
  | .nil => .ok total
  | .cons discriminant name payload rest => do
      let discriminantBytes ← encodeDiscriminant width discriminant
      let len ← nameLen name
      let payloadLen ← encodedLenPayload depth payload
      let total ← addLens total [discriminantBytes.length, 4, len, payloadLen]
      encodedLenVariants depth width total rest

/-- Encoded length of a variant's payload. -/
def encodedLenPayload (depth : Nat) : VariantPayload → Except EncodeError Nat
  | .none => .ok 1
  | .some node => encodedLenRecursive depth node

end

/-- Exact encoded wire length. -/
def encodedLen (node : DescriptorNode) : Except EncodeError Nat := encodedLenRecursive 0 node

mutual

/-- The bytes of a node at a depth. -/
def encodeRecursive (depth : Nat) (node : DescriptorNode) : Except EncodeError Bytes :=
  if depth > maxDescriptorDepth then .error (.depthExceeded depth maxDescriptorDepth)
  else match node with
    | .u8 | .u16 | .u32 | .u64 | .i8 | .i16 | .i32 | .i64 | .bool | .timestamp | .uuid
    | .orderedF32 | .orderedF64 => .ok [node.constructorTag]
    | .eventString maxBytes | .nonEmptyEventString maxBytes | .eventBytes maxBytes =>
        .ok (node.constructorTag :: writeU32 maxBytes)
    | .eventVec inner maxItems => do
        let bytes ← encodeRecursive (depth + 1) inner
        return node.constructorTag :: (bytes ++ writeU32 maxItems)
    | .option inner => do
        let bytes ← encodeRecursive (depth + 1) inner
        return node.constructorTag :: bytes
    | .struct name fields => do
        let nameBytes ← encodeName name
        let count ← countLen fields.length
        let body ← encodeFields (depth + 1) fields
        return node.constructorTag :: (nameBytes ++ (leBytes 4 count ++ body))
    | .enum name discriminantWidth variants => do
        let nameBytes ← encodeName name
        let count ← countLen variants.length
        let body ← encodeVariants (depth + 1) discriminantWidth variants
        return node.constructorTag :: (nameBytes ++ ([discriminantWidth] ++
          (leBytes 4 count ++ body)))

/-- The bytes of fields. -/
def encodeFields (depth : Nat) : FieldDescriptors → Except EncodeError Bytes
  | .nil => .ok []
  | .cons name node rest => do
      let nameBytes ← encodeName name
      let bytes ← encodeRecursive depth node
      let others ← encodeFields depth rest
      return nameBytes ++ (bytes ++ others)

/-- The bytes of variants. -/
def encodeVariants (depth : Nat) (width : UInt8) : VariantDescriptors → Except EncodeError Bytes
  | .nil => .ok []
  | .cons discriminant name payload rest => do
      let discriminantBytes ← encodeDiscriminant width discriminant
      let nameBytes ← encodeName name
      let bytes ← encodePayload depth payload
      let others ← encodeVariants depth width rest
      return discriminantBytes ++ (nameBytes ++ (bytes ++ others))

/-- The bytes of a variant's payload; a zero byte marks a unit variant. -/
def encodePayload (depth : Nat) : VariantPayload → Except EncodeError Bytes
  | .none => .ok [0x00]
  | .some node => encodeRecursive depth node

end

/-- The binary form of a descriptor. -/
def encode (node : DescriptorNode) : Except EncodeError Bytes := encodeRecursive 0 node

/-- Reads a length-prefixed name at a cursor; answers the cursor behind it. -/
def decodeName (buf : Bytes) (cursor : Nat) : Except DecodeError (String × Nat) := do
  if buf.length < cursor + 4 then
    throw (.truncatedPayload (cursor + 4) buf.length)
  let len := (readU32 buf cursor).toNat
  let cursor := cursor + 4
  if buf.length < cursor + len then
    throw (.truncatedPayload (cursor + len) buf.length)
  match decodeUtf8 ((buf.drop cursor).take len) with
  | none => throw .invalidUtf8
  | some name => return (name, cursor + len)

/-- Reads an item count at a cursor and checks that the rest of the buffer can
hold that many items. -/
def decodeCount (buf : Bytes) (cursor minBytesPerItem : Nat) : Except DecodeError (Nat × Nat) := do
  if buf.length < cursor + 4 then
    throw (.truncatedPayload (cursor + 4) buf.length)
  let count := (readU32 buf cursor).toNat
  let cursor := cursor + 4
  if (buf.length - cursor) / minBytesPerItem < count then
    throw (.truncatedPayload
      (saturatingAdd cursor (min (count * minBytesPerItem) u64Max)) buf.length)
  return (count, cursor)

/-- Reads fields one after another, with a reader for their nodes. -/
def decodeFields (decodeNode : Bytes → Except DecodeError (DescriptorNode × Nat)) (buf : Bytes) :
    (count cursor : Nat) → Except DecodeError (FieldDescriptors × Nat)
  | 0, cursor => .ok (.nil, cursor)
  | count + 1, cursor => do
      let (name, cursor) ← decodeName buf cursor
      let (node, consumed) ← decodeNode (buf.drop cursor)
      let (rest, cursor) ← decodeFields decodeNode buf count (cursor + consumed)
      return (.cons name node rest, cursor)

/-- Reads a discriminant of one or two bytes. -/
def decodeDiscriminant (buf : Bytes) (width : UInt8) (cursor : Nat) :
    Except DecodeError (UInt32 × Nat) := do
  if buf.length < cursor + width.toNat then
    throw (.truncatedPayload (cursor + width.toNat) buf.length)
  if width = 1 then
    return (UInt32.ofNat (leValue ((buf.drop cursor).take 1)), cursor + 1)
  else
    return (UInt32.ofNat (leValue ((buf.drop cursor).take 2)), cursor + 2)

/-- Reads variants one after another, with a reader for their payload nodes. -/
def decodeVariants (decodeNode : Bytes → Except DecodeError (DescriptorNode × Nat)) (buf : Bytes)
    (width : UInt8) : (count cursor : Nat) → Except DecodeError (VariantDescriptors × Nat)
  | 0, cursor => .ok (.nil, cursor)
  | count + 1, cursor => do
      let (discriminant, cursor) ← decodeDiscriminant buf width cursor
      let (name, cursor) ← decodeName buf cursor
      match (buf.drop cursor).head? with
      | none => throw (.truncatedPayload (cursor + 1) buf.length)
      | some 0x00 =>
          let (rest, cursor) ← decodeVariants decodeNode buf width count (cursor + 1)
          return (.cons discriminant name .none rest, cursor)
      | some _ =>
          let (node, consumed) ← decodeNode (buf.drop cursor)
          let (rest, cursor) ← decodeVariants decodeNode buf width count (cursor + consumed)
          return (.cons discriminant name (.some node) rest, cursor)

/-- A bounded type with its four-byte bound. -/
def decodeBound (buf : Bytes) (node : UInt32 → DescriptorNode) :
    Except DecodeError (DescriptorNode × Nat) :=
  if buf.length < 5 then .error (.truncatedPayload 5 buf.length)
  else .ok (node (readU32 buf 1), 5)

/-- Reads a node with a remaining depth; none is left beyond the depth limit. -/
def decodeRecursive : (remaining : Nat) → Bytes → Except DecodeError (DescriptorNode × Nat)
  | 0, _ => .error (.cycleDetected "maximum recursion depth exceeded")
  | remaining + 1, buf =>
      match buf with
      | [] => .error (.truncatedPayload 1 0)
      | 0x01 :: _ => .ok (.u8, 1)
      | 0x02 :: _ => .ok (.u16, 1)
      | 0x03 :: _ => .ok (.u32, 1)
      | 0x04 :: _ => .ok (.u64, 1)
      | 0x05 :: _ => .ok (.i8, 1)
      | 0x06 :: _ => .ok (.i16, 1)
      | 0x07 :: _ => .ok (.i32, 1)
      | 0x08 :: _ => .ok (.i64, 1)
      | 0x09 :: _ => .ok (.bool, 1)
      | 0x0A :: _ => decodeBound buf .eventString
      | 0x0B :: _ => decodeBound buf .nonEmptyEventString
      | 0x0C :: _ => decodeBound buf .eventBytes
      | 0x0D :: inside => do
          let (inner, consumed) ← decodeRecursive remaining inside
          if buf.length < 1 + consumed + 4 then
            throw (.truncatedPayload (1 + consumed + 4) buf.length)
          return (.eventVec inner (readU32 buf (1 + consumed)), 1 + consumed + 4)
      | 0x0E :: inside => do
          let (inner, consumed) ← decodeRecursive remaining inside
          return (.option inner, 1 + consumed)
      | 0x0F :: _ => do
          let (name, cursor) ← decodeName buf 1
          let (count, cursor) ← decodeCount buf cursor 5
          let (fields, cursor) ← decodeFields (decodeRecursive remaining) buf count cursor
          return (.struct name fields, cursor)
      | 0x10 :: _ => do
          let (name, cursor) ← decodeName buf 1
          match (buf.drop cursor).head? with
          | none => throw (.truncatedPayload (cursor + 1) buf.length)
          | some width =>
              if width ≠ 1 ∧ width ≠ 2 then
                throw (.invalidDiscriminantWidth width)
              let (count, cursor) ← decodeCount buf (cursor + 1) (width.toNat + 5)
              let (variants, cursor) ←
                decodeVariants (decodeRecursive remaining) buf width count cursor
              return (.enum name width variants, cursor)
      | 0x11 :: _ => .ok (.timestamp, 1)
      | 0x12 :: _ => .ok (.uuid, 1)
      | 0x13 :: _ => .ok (.orderedF32, 1)
      | 0x14 :: _ => .ok (.orderedF64, 1)
      | other :: _ => .error (.unknownConstructorTag other)

/-- Decodes a descriptor; depths zero to the limit are open. -/
def decode (buf : Bytes) : Except DecodeError (DescriptorNode × Nat) :=
  decodeRecursive (maxDescriptorDepth + 1) buf

/-- A completeness refusal with a value constraint. -/
def incomplete (constraint : ValueConstraint) (detail : String) : Except OperationFailure Unit :=
  .error ⟨.valueConstraintViolated constraint, detail⟩

mutual

/-- Structural completeness of a node at a depth. -/
def validateRecursive (depth : Nat) (node : DescriptorNode) : Except OperationFailure Unit :=
  if depth > maxDescriptorDepth then
    incomplete .tooLong "descriptor nesting depth exceeds implementation depth limit of 16 (structural completeness per C8.2)"
  else match node with
    | .u8 | .u16 | .u32 | .u64 | .i8 | .i16 | .i32 | .i64 | .bool | .timestamp | .uuid
    | .orderedF32 | .orderedF64 => .ok ()
    | .eventString maxBytes | .nonEmptyEventString maxBytes | .eventBytes maxBytes =>
        if maxBytes = 0 then incomplete .empty "bounded type must carry non-zero bound per C8.2"
        else .ok ()
    | .eventVec inner maxItems =>
        if maxItems = 0 then incomplete .empty "collection must carry non-zero max_items per C8.2"
        else validateRecursive (depth + 1) inner
    | .option inner => validateRecursive (depth + 1) inner
    | .struct _ fields => validateFields (depth + 1) fields
    | .enum _ discriminantWidth variants =>
        if variants = .nil then
          incomplete .empty "enumeration must carry at least one variant per C8.2"
        else if discriminantWidth ≠ 1 ∧ discriminantWidth ≠ 2 then
          incomplete .notReal "enumeration discriminant width must be 1 or 2 bytes per C8.2"
        else validateVariants (depth + 1) discriminantWidth [] variants

/-- Structural completeness of fields. -/
def validateFields (depth : Nat) : FieldDescriptors → Except OperationFailure Unit
  | .nil => .ok ()
  | .cons name node rest => do
      if name = "" then
        incomplete .empty "struct field name must be non-empty per C8.2"
      validateRecursive depth node
      validateFields depth rest

/-- Structural completeness of variants, given the discriminants before them. -/
def validateVariants (depth : Nat) (width : UInt8) (seen : List UInt32) :
    VariantDescriptors → Except OperationFailure Unit
  | .nil => .ok ()
  | .cons discriminant name payload rest => do
      if name = "" then
        incomplete .empty "enum variant name must be non-empty per C8.2"
      if width = 1 ∧ discriminant > 255 then
        incomplete .tooLong "variant discriminant exceeds 1-byte discriminant width per M4"
      if width = 2 ∧ discriminant > 65535 then
        incomplete .tooLong "variant discriminant exceeds 2-byte discriminant width per M4"
      if discriminant ∈ seen then
        incomplete .notReal "enumeration contains duplicate variant discriminant per M4"
      validatePayload depth payload
      validateVariants depth width (discriminant :: seen) rest

/-- Structural completeness of a variant's payload. -/
def validatePayload (depth : Nat) : VariantPayload → Except OperationFailure Unit
  | .none => .ok ()
  | .some node => validateRecursive depth node

end

/-- Asserts that a descriptor tree is structurally complete. -/
def validateStructuralCompleteness (node : DescriptorNode) : Except OperationFailure Unit :=
  validateRecursive 0 node

end DescriptorNode

/-- A schema version with its descriptor tree. -/
structure SchemaDescriptor where
  version : UInt32
  root : DescriptorNode
deriving DecidableEq

namespace SchemaDescriptor

/-- Exact length of the ownership record that carries the descriptor. -/
def encodedRecordLen (descriptor : SchemaDescriptor) : Except EncodeError Nat := do
  let rootLen ← descriptor.root.encodedLen
  addLens 1 [4, rootLen]

/-- Asserts that a descriptor is structurally complete. -/
def validateStructuralCompleteness (descriptor : SchemaDescriptor) :
    Except OperationFailure Unit :=
  if descriptor.version = 0 then
    .error ⟨.missingSchemaDescriptor,
      "schema descriptor declared version must be non-zero per C8.2"⟩
  else descriptor.root.validateStructuralCompleteness

end SchemaDescriptor

/-- A descriptor that passed admission, with its canonical record bytes and its
identity. -/
structure AdmittedDescriptor where
  descriptor : SchemaDescriptor
  encodedRecord : Bytes
  identity : Hash
deriving DecidableEq

/-- Validates and admits a schema descriptor. -/
def AdmittedDescriptor.tryFromDescriptor [Digests] (descriptor : SchemaDescriptor) :
    Except OperationFailure AdmittedDescriptor := do
  descriptor.validateStructuralCompleteness
  let recordLen ← descriptor.encodedRecordLen.mapError fun failure =>
    ⟨.valueConstraintViolated .tooLong,
      "schema descriptor encoded length calculation failed: " ++ failure.display⟩
  if recordLen > maxDescriptorRecordBytes then
    throw ⟨.valueConstraintViolated .tooLong,
      "encoded descriptor record exceeds 64 KiB: " ++ toString recordLen⟩
  let descriptorBytes ← descriptor.root.encode.mapError fun failure =>
    ⟨.valueConstraintViolated .tooLong, "schema descriptor encoding failed: " ++ failure.display⟩
  let encodedRecord := (OwnershipRecord.schemaDescriptor descriptor.version descriptorBytes).encode
  return ⟨descriptor, encodedRecord, blake3 (encodedRecord.drop 1)⟩

end Pardosa
