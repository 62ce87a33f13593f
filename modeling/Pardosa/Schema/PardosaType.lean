import Pardosa.Foundation.Codec
import Pardosa.Foundation.FloatFormat
import Pardosa.Schema.Descriptor

/-!
# Payload types

The shipped vocabulary of payload types with their wire codecs. A `PardosaType` is a type of
values with what the trait of that name implements for it; the bounds of a bounded type are
part of its values. An encoder answers the bytes it appends to its buffer.
-/

namespace Pardosa

open Foundation

/-- A type that composes event payloads, with its implementation of the trait, and what its
constructors promise of a value. -/
structure PardosaType where
  Value : Type
  typeDepth : Nat
  descriptorNode : DescriptorNode
  encodeType : Value → Except EncodeError Bytes
  decodeType : Bytes → Except DecodeError (Value × Nat)
  InBounds : Value → Prop

/-- The codec of a payload type. -/
def PardosaType.codec (type : PardosaType) : Codec EncodeError DecodeError type.Value :=
  ⟨type.encodeType, type.decodeType⟩

/-- Advances a cursor within a buffer. A sum that overflows lies beyond every buffer, and the
largest number stands for it in the error. -/
def checkedAdvance (cursor consumed totalLen : Nat) : Except DecodeError Nat :=
  if cursor + consumed > totalLen then
    .error (.truncatedPayload (saturatingAdd cursor consumed) totalLen)
  else .ok (cursor + consumed)

/-- UTF-8 text bounded by `max` bytes. -/
structure EventString (max : Nat) where
  text : String
  bounded : (utf8Bytes text).length ≤ max
deriving DecidableEq

/-- Text that is not empty, bounded by `max` bytes. -/
structure NonEmptyEventString (max : Nat) where
  text : String
  nonEmpty : utf8Bytes text ≠ []
  bounded : (utf8Bytes text).length ≤ max
deriving DecidableEq

/-- Opaque bytes bounded by `max`. -/
structure EventBytes (max : Nat) where
  bytes : Bytes
  bounded : bytes.length ≤ max
deriving DecidableEq

/-- A collection of at most `max` items. -/
structure EventVec (α : Type) (max : Nat) where
  items : List α
  bounded : items.length ≤ max
deriving DecidableEq

/-- Nanoseconds since the epoch; zero is reserved. -/
structure Timestamp where
  nanos : UInt64
  nonZero : nanos ≠ 0
deriving DecidableEq

/-- A floating-point value that is finite and not subnormal, with one pattern for zero. -/
structure OrderedFloat (format : FloatFormat) where
  inner : format.Pattern
  real : format.IsReal inner
  normalized : format.IsZero inner → inner = 0

/-- A classified floating-point value. -/
inductive EventFloat (Finite : Type) where
  | nan
  | negInf
  | finite (value : Finite)
  | posInf

/-- Refuses a bound that does not fit its wire field. -/
def checkBound (max : Nat) : Except DecodeError Unit :=
  if max > u32Max then .error (.valueConstraintViolated .tooLong) else .ok ()

/-- Creates a text within its bound. -/
def EventString.new {max : Nat} (text : String) : Except DecodeError (EventString max) := do
  checkBound max
  if bounded : (utf8Bytes text).length ≤ max then
    return ⟨text, bounded⟩
  throw (.lengthExceeded (utf8Bytes text).length max)

/-- Creates a text that is not empty, within its bound. -/
def NonEmptyEventString.new {max : Nat} (text : String) :
    Except DecodeError (NonEmptyEventString max) := do
  checkBound max
  if nonEmpty : utf8Bytes text ≠ [] then
    if bounded : (utf8Bytes text).length ≤ max then
      return ⟨text, nonEmpty, bounded⟩
    throw (.lengthExceeded (utf8Bytes text).length max)
  throw .emptyNonEmptyString

/-- Creates bytes within their bound. -/
def EventBytes.new {max : Nat} (bytes : Bytes) : Except DecodeError (EventBytes max) := do
  checkBound max
  if bounded : bytes.length ≤ max then
    return ⟨bytes, bounded⟩
  throw (.lengthExceeded bytes.length max)

/-- Creates a collection within its bound. -/
def EventVec.new {α : Type} {max : Nat} (items : List α) : Except DecodeError (EventVec α max) := do
  checkBound max
  if bounded : items.length ≤ max then
    return ⟨items, bounded⟩
  throw (.itemCountExceeded items.length max)

/-- Creates a timestamp that is not zero. -/
def Timestamp.new (nanos : UInt64) : Except DecodeError Timestamp :=
  if nonZero : nanos ≠ 0 then .ok ⟨nanos, nonZero⟩ else .error .invalidTimestampSentinel

/-- Takes a pattern that is finite and not subnormal; a zero loses its sign. -/
def OrderedFloat.tryFrom {format : FloatFormat} (pattern : format.Pattern) :
    Except DecodeError (OrderedFloat format) :=
  if real : format.IsReal pattern then
    if zero : format.IsZero pattern then .ok ⟨0, format.isReal_zero, fun _ => rfl⟩
    else .ok ⟨pattern, real, fun impossible => absurd impossible zero⟩
  else .error (.valueConstraintViolated .notReal)

/-- The bytes of a bounded type that a buffer begins with, behind their length. -/
def decodeBounded (max : Nat) (nonEmpty : Bool) (buf : Bytes) :
    Except DecodeError { bytes : Bytes // bytes.length ≤ max ∧
      (nonEmpty = true → bytes ≠ []) } := do
  checkBound max
  if buf.length < 4 then
    throw (.truncatedPayload 4 buf.length)
  let len := (readU32 buf 0).toNat
  if empty : nonEmpty = true ∧ len = 0 then
    throw .emptyNonEmptyString
  else if exceeds : len > max then
    throw (.lengthExceeded len max)
  else if short : buf.length < 4 + len then
    throw (.truncatedPayload (4 + len) buf.length)
  else
    have within : ((buf.drop 4).take len).length = len := by
      rw [List.length_take, List.length_drop,
        Nat.min_eq_left (Nat.le_sub_of_add_le' (Nat.not_lt.mp short))]
    return ⟨(buf.drop 4).take len, le_of_eq_of_le within (Nat.not_lt.mp exceeds),
      fun required taken => empty ⟨required, within.symm.trans (congrArg List.length taken)⟩⟩

/-- The bytes of a bounded type: their length, and they themselves. -/
def encodeBounded (bytes : Bytes) : Bytes := leBytes 4 bytes.length ++ bytes

/-- The text of a bounded type that a buffer begins with, and how many bytes it takes. -/
def decodeText (max : Nat) (nonEmpty : Bool) (buf : Bytes) :
    Except DecodeError ({ text : String // (utf8Bytes text).length ≤ max ∧
      (nonEmpty = true → utf8Bytes text ≠ []) } × Nat) := do
  let field ← decodeBounded max nonEmpty buf
  match decoded : decodeUtf8 field.val with
  | none => throw .invalidUtf8
  | some text =>
      return (⟨text, utf8Bytes_of_decodeUtf8 decoded ▸ field.property⟩, 4 + field.val.length)

namespace EventString

def encode {max : Nat} (value : EventString max) : Bytes := encodeBounded (utf8Bytes value.text)

def decode (max : Nat) (buf : Bytes) : Except DecodeError (EventString max × Nat) := do
  let (text, consumed) ← decodeText max false buf
  return (⟨text.val, text.property.1⟩, consumed)

end EventString

namespace NonEmptyEventString

def encode {max : Nat} (value : NonEmptyEventString max) : Bytes :=
  encodeBounded (utf8Bytes value.text)

def decode (max : Nat) (buf : Bytes) : Except DecodeError (NonEmptyEventString max × Nat) := do
  let (text, consumed) ← decodeText max true buf
  return (⟨text.val, text.property.2 rfl, text.property.1⟩, consumed)

end NonEmptyEventString

namespace EventBytes

def encode {max : Nat} (value : EventBytes max) : Bytes := encodeBounded value.bytes

def decode (max : Nat) (buf : Bytes) : Except DecodeError (EventBytes max × Nat) := do
  let field ← decodeBounded max false buf
  return (⟨field.val, field.property.1⟩, 4 + field.val.length)

end EventBytes

namespace Timestamp

def encode (value : Timestamp) : Bytes := writeU64 value.nanos

def decode (buf : Bytes) : Except DecodeError (Timestamp × Nat) := do
  if buf.length < 8 then
    throw (.truncatedPayload 8 buf.length)
  let value ← new (readU64 buf 0)
  return (value, 8)

end Timestamp

/-- The bytes of items, one behind the other. -/
def encodeItems {α : Type} (encode : α → Except EncodeError Bytes) :
    List α → Except EncodeError Bytes
  | [] => .ok []
  | item :: items => do
      let bytes ← encode item
      let others ← encodeItems encode items
      return bytes ++ others

/-- Reads items one after another. -/
def decodeItems {α : Type} (decode : Bytes → Except DecodeError (α × Nat)) (buf : Bytes) :
    (count cursor : Nat) → Except DecodeError (List α × Nat)
  | 0, cursor => .ok ([], cursor)
  | count + 1, cursor => do
      let (item, consumed) ← decode (buf.drop cursor)
      let cursor ← checkedAdvance cursor consumed buf.length
      let (items, cursor) ← decodeItems decode buf count cursor
      return (item :: items, cursor)

/-- The wire field of a bound; the bounds of the language fit it. -/
def boundField (max : Nat) : UInt32 := UInt32.ofNat max

/-- Reads a number of a fixed width. -/
def decodeNumber {α : Type} (width : Nat) (ofNat : Nat → α) (buf : Bytes) :
    Except DecodeError (α × Nat) :=
  if buf.length < width then .error (.truncatedPayload width buf.length)
  else .ok (ofNat (leValue (buf.take width)), width)

def decodeBool : Bytes → Except DecodeError (Bool × Nat)
  | [] => .error (.truncatedPayload 1 0)
  | 0x00 :: _ => .ok (false, 1)
  | 0x01 :: _ => .ok (true, 1)
  | other :: _ => .error (.invalidBoolean other)

/-- A universally unique identifier, as its raw bytes. -/
abbrev Uuid := FixedBytes 16

def Uuid.decode (buf : Bytes) : Except DecodeError (Uuid × Nat) :=
  if short : buf.length < 16 then .error (.truncatedPayload 16 buf.length)
  else .ok (slice buf 0 16 (by omega), 16)

/-- Reads the pattern of a floating-point value and takes it if it is real. -/
def OrderedFloat.decode (format : FloatFormat) (buf : Bytes) :
    Except DecodeError (OrderedFloat format × Nat) := do
  if buf.length < format.bytes then
    throw (.truncatedPayload format.bytes buf.length)
  let ordered ← tryFrom (.ofNat _ (leValue (buf.take format.bytes)))
  return (ordered, format.bytes)

namespace PardosaType

/-- A type whose values are numbers of a fixed width. -/
def fixedWidth {α : Type} (width : Nat) (node : DescriptorNode) (toNat : α → Nat)
    (ofNat : Nat → α) : PardosaType where
  Value := α
  typeDepth := 0
  descriptorNode := node
  encodeType value := .ok (leBytes width (toNat value))
  decodeType := decodeNumber width ofNat
  InBounds value := toNat value < 256 ^ width

def u8 : PardosaType := fixedWidth 1 .u8 UInt8.toNat UInt8.ofNat

def u16 : PardosaType := fixedWidth 2 .u16 UInt16.toNat UInt16.ofNat

def u32 : PardosaType := fixedWidth 4 .u32 UInt32.toNat UInt32.ofNat

def u64 : PardosaType := fixedWidth 8 .u64 UInt64.toNat UInt64.ofNat

def i8 : PardosaType :=
  fixedWidth 1 .i8 (fun value => value.toUInt8.toNat) fun number => (UInt8.ofNat number).toInt8

def i16 : PardosaType :=
  fixedWidth 2 .i16 (fun value => value.toUInt16.toNat) fun number => (UInt16.ofNat number).toInt16

def i32 : PardosaType :=
  fixedWidth 4 .i32 (fun value => value.toUInt32.toNat) fun number => (UInt32.ofNat number).toInt32

def i64 : PardosaType :=
  fixedWidth 8 .i64 (fun value => value.toUInt64.toNat) fun number => (UInt64.ofNat number).toInt64

def bool : PardosaType where
  Value := Bool
  typeDepth := 0
  descriptorNode := .bool
  encodeType value := .ok [value.toUInt8]
  decodeType := decodeBool
  InBounds _ := True

def timestamp : PardosaType where
  Value := Timestamp
  typeDepth := 0
  descriptorNode := .timestamp
  encodeType value := .ok value.encode
  decodeType := Timestamp.decode
  InBounds value := value.nanos ≠ 0

def uuid : PardosaType where
  Value := Uuid
  typeDepth := 0
  descriptorNode := .uuid
  encodeType value := .ok value.val
  decodeType := Uuid.decode
  InBounds value := value.val.length = 16

def eventString (max : Nat) : PardosaType where
  Value := EventString max
  typeDepth := 0
  descriptorNode := .eventString (boundField max)
  encodeType value := .ok value.encode
  decodeType := EventString.decode max
  InBounds value := (utf8Bytes value.text).length ≤ max

def nonEmptyEventString (max : Nat) : PardosaType where
  Value := NonEmptyEventString max
  typeDepth := 0
  descriptorNode := .nonEmptyEventString (boundField max)
  encodeType value := .ok value.encode
  decodeType := NonEmptyEventString.decode max
  InBounds value := utf8Bytes value.text ≠ [] ∧ (utf8Bytes value.text).length ≤ max

def eventBytes (max : Nat) : PardosaType where
  Value := EventBytes max
  typeDepth := 0
  descriptorNode := .eventBytes (boundField max)
  encodeType value := .ok value.encode
  decodeType := EventBytes.decode max
  InBounds value := value.bytes.length ≤ max

/-- The ordered floating-point type of a format. -/
def orderedFloat (format : FloatFormat) (node : DescriptorNode) : PardosaType where
  Value := OrderedFloat format
  typeDepth := 0
  descriptorNode := node
  encodeType value := .ok (leBytes format.bytes value.inner.toNat)
  decodeType := OrderedFloat.decode format
  InBounds value := format.IsReal value.inner ∧ (format.IsZero value.inner → value.inner = 0)

def orderedF32 : PardosaType := orderedFloat .binary32 .orderedF32

def orderedF64 : PardosaType := orderedFloat .binary64 .orderedF64

section Compound

variable (inner : PardosaType)

def encodeOption : Option inner.Value → Except EncodeError Bytes
  | none => .ok [0x00]
  | some value => do
      let bytes ← inner.encodeType value
      return 0x01 :: bytes

def decodeOption : Bytes → Except DecodeError (Option inner.Value × Nat)
  | [] => .error (.truncatedPayload 1 0)
  | 0x00 :: _ => .ok (none, 1)
  | 0x01 :: inside => do
      let (value, consumed) ← inner.decodeType inside
      let total ← checkedAdvance 1 consumed (inside.length + 1)
      return (some value, total)
  | other :: _ => .error (.invalidOptionTag other)

def option : PardosaType where
  Value := Option inner.Value
  typeDepth := inner.typeDepth + 1
  descriptorNode := .option inner.descriptorNode
  encodeType := inner.encodeOption
  decodeType := inner.decodeOption
  InBounds value := ∀ inside ∈ value, inner.InBounds inside

variable (max : Nat)

def encodeEventVec (value : EventVec inner.Value max) : Except EncodeError Bytes := do
  let count := value.items.length
  if count > max ∨ count > u32Max then
    throw (.itemCountExceeded count max)
  let bytes ← encodeItems inner.encodeType value.items
  return leBytes 4 count ++ bytes

def decodeEventVec (buf : Bytes) : Except DecodeError (EventVec inner.Value max × Nat) := do
  checkBound max
  if buf.length < 4 then
    throw (.truncatedPayload 4 buf.length)
  let count := (readU32 buf 0).toNat
  if count > max then
    throw (.itemCountExceeded count max)
  let (items, cursor) ← decodeItems inner.decodeType buf count 4
  let value ← EventVec.new items
  return (value, cursor)

def eventVec : PardosaType where
  Value := EventVec inner.Value max
  typeDepth := inner.typeDepth + 1
  descriptorNode := .eventVec inner.descriptorNode (boundField max)
  encodeType := inner.encodeEventVec max
  decodeType := inner.decodeEventVec max
  InBounds value := value.items.length ≤ max ∧ ∀ item ∈ value.items, inner.InBounds item

def encodeEventFloat : EventFloat inner.Value → Except EncodeError Bytes
  | .nan => .ok [0x00]
  | .negInf => .ok [0x01]
  | .finite value => do
      let bytes ← inner.encodeType value
      return 0x02 :: bytes
  | .posInf => .ok [0x03]

def decodeEventFloat : Bytes → Except DecodeError (EventFloat inner.Value × Nat)
  | [] => .error (.truncatedPayload 1 0)
  | 0x00 :: _ => .ok (.nan, 1)
  | 0x01 :: _ => .ok (.negInf, 1)
  | 0x02 :: inside => do
      let (value, consumed) ← inner.decodeType inside
      return (.finite value, 1 + consumed)
  | 0x03 :: _ => .ok (.posInf, 1)
  | other :: _ => .error (.unknownVariantDiscriminant other.toNat)

/-- The classified floating-point type over an ordered one. -/
def eventFloat (name : String) : PardosaType where
  Value := EventFloat inner.Value
  typeDepth := 1
  descriptorNode := .enum name 1 <|
    .cons 0 "NaN" .none <| .cons 1 "NegInf" .none <|
    .cons 2 "Finite" (.some inner.descriptorNode) <| .cons 3 "PosInf" .none .nil
  encodeType := inner.encodeEventFloat
  decodeType := inner.decodeEventFloat
  InBounds
    | .finite value => inner.InBounds value
    | _ => True

end Compound

def eventF32 : PardosaType := eventFloat orderedF32 "EventF32"

def eventF64 : PardosaType := eventFloat orderedF64 "EventF64"

end PardosaType

end Pardosa
