import Mathlib.Algebra.Ring.Nat
import Mathlib.Data.Nat.Init
import Mathlib.Tactic.Common

/-!
# Byte strings, fixed-width fields and little-endian numbers

Generic vocabulary for length-checked binary layouts. A field of a known width
is a `FixedBytes`, so a value of the wrong length cannot be built, and a
number on the wire is its base-256 digits, least significant first. Nothing
here knows a particular format.
-/

namespace Foundation

/-- A byte string. -/
abbrev Bytes := List UInt8

/-- A byte string whose length is part of its type. -/
abbrev FixedBytes (width : Nat) := { bytes : Bytes // bytes.length = width }

/-- The all-zeroes field of a given width. -/
def FixedBytes.zero (width : Nat) : FixedBytes width := ⟨List.replicate width 0, by simp⟩

/-- The field of `width` bytes at `offset`, for a buffer known to hold it. -/
def slice (buf : Bytes) (offset width : Nat) (fits : offset + width ≤ buf.length) :
    FixedBytes width :=
  ⟨(buf.drop offset).take width, by simp only [List.length_take, List.length_drop]; omega⟩

/-- A slice holds the bytes of its buffer from the offset on, as many as it is wide. -/
@[simp] theorem slice_val (buf : Bytes) (offset width : Nat) (fits : offset + width ≤ buf.length) :
    (slice buf offset width fits).val = (buf.drop offset).take width := rfl

/-- A field written at its offset is the field read there. -/
theorem slice_eq {buf : Bytes} {offset width : Nat} {fits : offset + width ≤ buf.length}
    (before after : Bytes) (field : FixedBytes width)
    (layout : buf = before ++ (field.val ++ after)) (at_offset : before.length = offset) :
    slice buf offset width fits = field := by
  apply Subtype.ext
  subst at_offset layout
  rw [slice_val, List.drop_left]
  exact List.take_left' field.property

/-- The bytes from an offset on are a field there and what follows it. -/
theorem drop_eq_field_append (buf : Bytes) (offset width : Nat) :
    buf.drop offset = (buf.drop offset).take width ++ buf.drop (offset + width) := by
  rw [← List.drop_drop]
  exact (List.take_append_drop width _).symm

/-- The `width` low-order base-256 digits of a number, least significant first. -/
def leBytes : (width : Nat) → Nat → Bytes
  | 0, _ => []
  | width + 1, value => UInt8.ofNat value :: leBytes width (value / 256)

/-- The number a little-endian byte string denotes. -/
def leValue : Bytes → Nat
  | [] => 0
  | byte :: rest => byte.toNat + 256 * leValue rest

/-- A number takes up the width it is given. -/
@[simp] theorem length_leBytes (width value : Nat) : (leBytes width value).length = width := by
  induction width generalizing value with
  | zero => rfl
  | succ width ih => simp [leBytes, ih]

/-- Writing a number keeps exactly its residue modulo the field's range. -/
theorem leValue_leBytes (width value : Nat) :
    leValue (leBytes width value) = value % 256 ^ width := by
  induction width generalizing value with
  | zero => simp [leBytes, leValue, Nat.mod_one]
  | succ width ih =>
      have digit : (UInt8.ofNat value).toNat = value % 256 := UInt8.toNat_ofNat'
      rw [leBytes, leValue, ih, digit, Nat.pow_succ', Nat.mod_mul]

/-- A number within the field's range is read back unchanged. -/
theorem leValue_leBytes_of_lt {width value : Nat} (bounded : value < 256 ^ width) :
    leValue (leBytes width value) = value := by
  rw [leValue_leBytes, Nat.mod_eq_of_lt bounded]

/-- Bytes of some width stay below the power of 256 for that width. -/
theorem leValue_lt (bytes : Bytes) : leValue bytes < 256 ^ bytes.length := by
  induction bytes with
  | nil => simp [leValue]
  | cons byte rest ih =>
      have digit := byte.toNat_lt
      simp only [leValue, List.length_cons, Nat.pow_succ']
      omega

/-- Reading a field and writing it again restores its bytes. -/
theorem leBytes_leValue (bytes : Bytes) : leBytes bytes.length (leValue bytes) = bytes := by
  induction bytes with
  | nil => rfl
  | cons byte rest ih =>
      have digit : byte.toNat < 256 := byte.toNat_lt
      have high : (byte.toNat + 256 * leValue rest) / 256 = leValue rest := by omega
      have low : UInt8.ofNat (byte.toNat + 256 * leValue rest) = byte := by
        apply UInt8.toNat_inj.mp
        rw [UInt8.toNat_ofNat']
        omega
      simp only [List.length_cons, leValue, leBytes, high, low, ih]

/-- Writing back what bytes of that width say gives the bytes. -/
theorem leBytes_leValue_of_length {bytes : Bytes} {width : Nat} (sized : bytes.length = width) :
    leBytes width (leValue bytes) = bytes := by
  rw [← sized, leBytes_leValue]

/-- A 32-bit word on the wire. -/
def writeU32 (value : UInt32) : Bytes := leBytes 4 value.toNat

/-- A 64-bit word on the wire. -/
def writeU64 (value : UInt64) : Bytes := leBytes 8 value.toNat

/-- The 32-bit word at an offset. -/
def readU32 (buf : Bytes) (offset : Nat) : UInt32 :=
  UInt32.ofNat (leValue ((buf.drop offset).take 4))

/-- The 64-bit word at an offset. -/
def readU64 (buf : Bytes) (offset : Nat) : UInt64 :=
  UInt64.ofNat (leValue ((buf.drop offset).take 8))

/-- A 32-bit word takes four bytes. -/
@[simp] theorem length_writeU32 (value : UInt32) : (writeU32 value).length = 4 := length_leBytes 4 _

/-- A 64-bit word takes eight bytes. -/
@[simp] theorem length_writeU64 (value : UInt64) : (writeU64 value).length = 8 := length_leBytes 8 _

/-- A word written at its offset is the word read there. -/
theorem readU32_eq {buf : Bytes} {offset : Nat} (before after : Bytes) (value : UInt32)
    (layout : buf = before ++ (writeU32 value ++ after)) (at_offset : before.length = offset) :
    readU32 buf offset = value := by
  subst at_offset layout
  have small : value.toNat < 256 ^ 4 := value.toNat_lt
  rw [readU32, List.drop_left, List.take_left' (length_writeU32 value), writeU32,
    leValue_leBytes_of_lt small, UInt32.ofNat_toNat]

/-- A 64-bit word is read where it was written, whatever surrounds it. -/
theorem readU64_eq {buf : Bytes} {offset : Nat} (before after : Bytes) (value : UInt64)
    (layout : buf = before ++ (writeU64 value ++ after)) (at_offset : before.length = offset) :
    readU64 buf offset = value := by
  subst at_offset layout
  have small : value.toNat < 256 ^ 8 := value.toNat_lt
  rw [readU64, List.drop_left, List.take_left' (length_writeU64 value), writeU64,
    leValue_leBytes_of_lt small, UInt64.ofNat_toNat]

/-- The number of a 32-bit word field. -/
theorem readU32_toNat {buf : Bytes} {offset : Nat} :
    (readU32 buf offset).toNat = leValue ((buf.drop offset).take 4) := by
  have bounded := leValue_lt ((buf.drop offset).take 4)
  have within : 256 ^ ((buf.drop offset).take 4).length ≤ 256 ^ 4 :=
    Nat.pow_le_pow_right (by decide) (List.length_take_le _ _)
  rw [readU32, UInt32.toNat_ofNat']
  exact Nat.mod_eq_of_lt (by omega)

/-- A number written into four bytes at its offset is the number read there. -/
theorem readU32_toNat_eq {buf : Bytes} {offset value : Nat} (before after : Bytes)
    (small : value < 256 ^ 4) (layout : buf = before ++ (leBytes 4 value ++ after))
    (at_offset : before.length = offset) : (readU32 buf offset).toNat = value := by
  subst at_offset layout
  rw [readU32_toNat, List.drop_left, List.take_left' (length_leBytes 4 _),
    leValue_leBytes_of_lt small]

/-- A word read inside a buffer is the four bytes that stand there. -/
theorem writeU32_readU32 {buf : Bytes} {offset : Nat} (fits : offset + 4 ≤ buf.length) :
    writeU32 (readU32 buf offset) = (buf.drop offset).take 4 := by
  rw [writeU32, readU32_toNat]
  apply leBytes_leValue_of_length
  rw [List.length_take, List.length_drop]
  omega

/-- The number of a 64-bit word field. -/
theorem readU64_toNat {buf : Bytes} {offset : Nat} :
    (readU64 buf offset).toNat = leValue ((buf.drop offset).take 8) := by
  have bounded := leValue_lt ((buf.drop offset).take 8)
  have within : 256 ^ ((buf.drop offset).take 8).length ≤ 256 ^ 8 :=
    Nat.pow_le_pow_right (by decide) (List.length_take_le _ _)
  rw [readU64, UInt64.toNat_ofNat']
  exact Nat.mod_eq_of_lt (by omega)

/-- A long word read inside a buffer is the eight bytes that stand there. -/
theorem writeU64_readU64 {buf : Bytes} {offset : Nat} (fits : offset + 8 ≤ buf.length) :
    writeU64 (readU64 buf offset) = (buf.drop offset).take 8 := by
  rw [writeU64, readU64_toNat]
  apply leBytes_leValue_of_length
  rw [List.length_take, List.length_drop]
  omega

/-- A word begins a buffer that holds it exactly when it is read there. -/
theorem leBytes_prefix_iff {width number : Nat} {buf : Bytes} (small : number < 256 ^ width) :
    leBytes width number <+: buf ↔ width ≤ buf.length ∧ leValue (buf.take width) = number := by
  constructor
  · intro begins
    have length := begins.length_le
    rw [length_leBytes] at length
    have taken := List.prefix_iff_eq_take.mp begins
    rw [length_leBytes] at taken
    exact ⟨length, by rw [← taken, leValue_leBytes_of_lt small]⟩
  · rintro ⟨enough, rfl⟩
    have sized : (buf.take width).length = width := by
      rw [List.length_take, Nat.min_eq_left enough]
    rw [leBytes_leValue_of_length sized]
    exact List.take_prefix _ _

/-- The bytes of a text in UTF-8. -/
def utf8Bytes (text : String) : Bytes := text.toByteArray.data.toList

/-- A text is encoded character by character. -/
theorem utf8Bytes_eq_flatMap (text : String) :
    utf8Bytes text = text.toList.flatMap String.utf8EncodeChar := by
  unfold utf8Bytes
  rw [← String.utf8Encode_toList, List.utf8Encode, List.toList_data_toByteArray]

/-- An ASCII character is encoded as its code. -/
theorem utf8EncodeChar_ofNat {byte : UInt8} (ascii : byte.toNat < 128) :
    String.utf8EncodeChar (Char.ofNat byte.toNat) = [byte] := by
  have single : ∀ code < 128, String.utf8EncodeChar (Char.ofNat code) = [UInt8.ofNat code] := by
    decide
  rw [single byte.toNat ascii, UInt8.ofNat_toNat]

/-- A text of ASCII bytes has these bytes. -/
theorem utf8Bytes_ofList_ascii {bytes : Bytes} (ascii : ∀ byte ∈ bytes, byte.toNat < 128) :
    utf8Bytes (String.ofList (bytes.map fun byte => Char.ofNat byte.toNat)) = bytes := by
  rw [utf8Bytes_eq_flatMap, String.toList_ofList]
  induction bytes with
  | nil => rfl
  | cons byte rest inductionHypothesis =>
      have restAscii := inductionHypothesis fun other member =>
        ascii other (List.mem_cons_of_mem byte member)
      rw [List.map_cons, List.flatMap_cons, utf8EncodeChar_ofNat (ascii byte List.mem_cons_self),
        restAscii, List.singleton_append]

/-- The text of a byte string that is well-formed UTF-8. -/
def decodeUtf8 (bytes : Bytes) : Option String := String.fromUTF8? bytes.toByteArray

/-- Text survives being written as UTF-8. -/
theorem decodeUtf8_utf8Bytes (text : String) : decodeUtf8 (utf8Bytes text) = some text := by
  have restored : (utf8Bytes text).toByteArray = text.toByteArray := by
    apply ByteArray.ext
    apply Array.ext'
    exact List.toList_data_toByteArray
  rw [decodeUtf8, restored, String.fromUTF8?, dif_pos text.isValidUTF8]
  rfl

/-- Bytes that are read as text are the UTF-8 of that text. -/
theorem utf8Bytes_of_decodeUtf8 {bytes : Bytes} {text : String}
    (decoded : decodeUtf8 bytes = some text) : utf8Bytes text = bytes := by
  unfold decodeUtf8 String.fromUTF8? at decoded
  split at decoded
  · cases decoded
    exact List.toList_data_toByteArray
  · cases decoded

end Foundation
