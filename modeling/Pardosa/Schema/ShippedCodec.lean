import Pardosa.Schema.PardosaType

/-!
# Laws of the shipped codecs

Each codec of the shipped vocabulary is lawful, and all but those of floating-point types read
only what they would write. A leaf is read exactly where its bytes begin the buffer, which
gives both laws at once; options and collections hand the laws of their inside on.
-/

namespace Pardosa

open Foundation Codec

/-- A bound is accepted exactly when it fits 32 bits. -/
theorem checkBound_eq_ok {max : Nat} {passed : Unit} :
    checkBound max = .ok passed ↔ max ≤ u32Max := by
  unfold checkBound
  split
  · rename_i exceeds
    exact ⟨nofun, fun fits => absurd exceeds (Nat.not_lt.mpr fits)⟩
  · rename_i fits
    exact ⟨fun _ => Nat.not_lt.mp fits, fun _ => rfl⟩

/-- A cursor advances exactly within the buffer. -/
theorem checkedAdvance_eq_ok {cursor consumed totalLen next : Nat} :
    checkedAdvance cursor consumed totalLen = .ok next ↔
      next = cursor + consumed ∧ cursor + consumed ≤ totalLen := by
  unfold checkedAdvance
  split
  · rename_i exceeds
    exact ⟨nofun, fun within => absurd exceeds (Nat.not_lt.mpr within.2)⟩
  · rename_i within
    constructor
    · rintro ⟨⟩
      exact ⟨rfl, Nat.not_lt.mp within⟩
    · rintro ⟨rfl, -⟩
      rfl

/-- A field of a bounded type is read exactly where its length and its bytes begin the buffer. -/
theorem decodeBounded_eq_ok {max : Nat} {nonEmpty : Bool} {buf : Bytes}
    {field : { bytes : Bytes // bytes.length ≤ max ∧ (nonEmpty = true → bytes ≠ []) }} :
    decodeBounded max nonEmpty buf = .ok field ↔
      max ≤ u32Max ∧ encodeBounded field.val <+: buf := by
  unfold decodeBounded
  simp only [bind_eq_ok, checkBound_eq_ok, throwIf_eq_ok, exists_const]
  refine and_congr_right fun fits => ?_
  constructor
  · rintro ⟨long, decoded⟩
    split at decoded
    · cases decoded
    split at decoded
    · cases decoded
    split at decoded
    · cases decoded
    rename_i enough
    cases decoded
    have lengthAt : Stands buf 0 (writeU32 (readU32 buf 0)) 4 := Stands.word (by omega) rfl
    have bytesAt : Stands buf 4 ((buf.drop 4).take (readU32 buf 0).toNat)
        (4 + (readU32 buf 0).toNat) := Stands.field (by omega)
    have len : (readU32 buf 0).toNat = ((buf.drop 4).take (readU32 buf 0).toNat).length :=
      Nat.add_left_cancel bytesAt.length
    have whole := (lengthAt.append bytesAt).begins.2
    rw [writeU32] at whole
    rwa [encodeBounded, ← len]
  · rintro ⟨suffix, rfl⟩
    have stands := Stands.start (leBytes 4 field.val.length ++ field.val) suffix
    obtain ⟨lengthAt, bytesAt⟩ := stands.split 4 (by simp)
    have small : field.val.length < 256 ^ 4 :=
      Nat.lt_of_le_of_lt (Nat.le_trans field.property.1 fits) (by decide)
    have len : (readU32 (encodeBounded field.val ++ suffix) 0).toNat = field.val.length :=
      lengthAt.readU32_toNat_eq small
    have total : (encodeBounded field.val ++ suffix).length =
        4 + field.val.length + suffix.length := by
      simp [encodeBounded, Nat.add_assoc]
    refine ⟨by omega, ?_⟩
    have notEmpty : ¬(nonEmpty = true ∧
        (readU32 (encodeBounded field.val ++ suffix) 0).toNat = 0) := by
      rintro ⟨required, zero⟩
      exact field.property.2 required (List.eq_nil_of_length_eq_zero (len.symm.trans zero))
    have within := field.property.1
    rw [dif_neg notEmpty, dif_neg (by omega), dif_neg (by omega), pure_eq_ok]
    apply Subtype.ext
    simp only [len]
    rw [stands.length, List.length_append, length_leBytes, Nat.zero_add] at bytesAt
    exact bytesAt.take_drop_eq

/-- Bounded bytes take four bytes for their length. -/
theorem length_encodeBounded (bytes : Bytes) : (encodeBounded bytes).length = 4 + bytes.length := by
  simp [encodeBounded]

/-- A text of a bounded type is read exactly where its bytes begin the buffer. -/
theorem decodeText_eq_ok {max consumed : Nat} {nonEmpty : Bool} {buf : Bytes}
    {text : { text : String // (utf8Bytes text).length ≤ max ∧
      (nonEmpty = true → utf8Bytes text ≠ []) }} :
    decodeText max nonEmpty buf = .ok (text, consumed) ↔ max ≤ u32Max ∧
      encodeBounded (utf8Bytes text.val) <+: buf ∧
      consumed = (encodeBounded (utf8Bytes text.val)).length := by
  unfold decodeText
  rw [bind_eq_ok]
  constructor
  · rintro ⟨field, read, decoded⟩
    obtain ⟨fits, begins⟩ := decodeBounded_eq_ok.mp read
    split at decoded
    · cases decoded
    · rename_i text decodedText
      cases decoded
      rw [utf8Bytes_of_decodeUtf8 decodedText, length_encodeBounded]
      exact ⟨fits, begins, rfl⟩
  · rintro ⟨fits, begins, rfl⟩
    refine ⟨⟨utf8Bytes text.val, text.property⟩, decodeBounded_eq_ok.mpr ⟨fits, begins⟩, ?_⟩
    split
    · rename_i undecoded
      rw [decodeUtf8_utf8Bytes] at undecoded
      cases undecoded
    · rename_i text decodedText
      rw [decodeUtf8_utf8Bytes] at decodedText
      cases decodedText
      rw [length_encodeBounded]
      rfl

/-- A string is read exactly where its encoding stands. -/
theorem EventString.decode_eq_ok {max consumed : Nat} (fits : max ≤ u32Max) {buf : Bytes}
    {value : EventString max} :
    decode max buf = .ok (value, consumed) ↔
      value.encode <+: buf ∧ consumed = value.encode.length := by
  simp only [decode, bind_eq_ok, pure_eq_ok]
  constructor
  · rintro ⟨⟨text, consumed⟩, read, same⟩
    cases same
    exact (decodeText_eq_ok.mp read).2
  · intro reads
    have emptiable : false = true → utf8Bytes value.text ≠ [] := by rintro ⟨⟩
    exact ⟨(⟨value.text, value.bounded, emptiable⟩, consumed), decodeText_eq_ok.mpr ⟨fits, reads⟩,
      rfl⟩

/-- A string that must not be empty is read exactly where its encoding stands. -/
theorem NonEmptyEventString.decode_eq_ok {max consumed : Nat} (fits : max ≤ u32Max) {buf : Bytes}
    {value : NonEmptyEventString max} :
    decode max buf = .ok (value, consumed) ↔
      value.encode <+: buf ∧ consumed = value.encode.length := by
  simp only [decode, bind_eq_ok, pure_eq_ok]
  constructor
  · rintro ⟨⟨text, consumed⟩, read, same⟩
    cases same
    exact (decodeText_eq_ok.mp read).2
  · intro reads
    exact ⟨(⟨value.text, value.bounded, fun _ => value.nonEmpty⟩, consumed),
      decodeText_eq_ok.mpr ⟨fits, reads⟩, rfl⟩

/-- Bytes are read exactly where their encoding stands. -/
theorem EventBytes.decode_eq_ok {max consumed : Nat} (fits : max ≤ u32Max) {buf : Bytes}
    {value : EventBytes max} :
    decode max buf = .ok (value, consumed) ↔
      value.encode <+: buf ∧ consumed = value.encode.length := by
  unfold decode
  rw [bind_eq_ok]
  constructor
  · rintro ⟨field, read, decoded⟩
    obtain ⟨-, begins⟩ := decodeBounded_eq_ok.mp read
    cases decoded
    rw [encode, length_encodeBounded]
    exact ⟨begins, rfl⟩
  · rintro ⟨begins, rfl⟩
    refine ⟨⟨value.bytes, value.bounded, nofun⟩, decodeBounded_eq_ok.mpr ⟨fits, begins⟩, ?_⟩
    rw [encode, length_encodeBounded]
    rfl

/-- A timestamp keeps the nanoseconds it is made of. -/
theorem Timestamp.new_eq_ok {nanos : UInt64} {value : Timestamp} :
    new nanos = .ok value ↔ value.nanos = nanos := by
  unfold new
  split
  · rename_i nonZero
    rw [Except.ok.injEq]
    constructor
    · rintro rfl
      rfl
    · rintro rfl
      rfl
  · rename_i zero
    refine ⟨nofun, fun same => ?_⟩
    exact absurd value.nonZero (same ▸ zero)

/-- A timestamp is read exactly where its encoding stands. -/
theorem Timestamp.decode_eq_ok {consumed : Nat} {buf : Bytes} {value : Timestamp} :
    decode buf = .ok (value, consumed) ↔
      value.encode <+: buf ∧ consumed = value.encode.length := by
  have small : value.nanos.toNat < 256 ^ 8 := value.nanos.toNat_lt
  simp only [decode, throwIf_eq_ok, bind_eq_ok, new_eq_ok, pure_eq_ok, encode, writeU64,
    length_leBytes, leBytes_prefix_iff small, Prod.mk.injEq]
  constructor
  · rintro ⟨enough, value, read, rfl, rfl⟩
    refine ⟨⟨Nat.not_lt.mp enough, ?_⟩, rfl⟩
    rw [read, readU64_toNat, List.drop_zero]
  · rintro ⟨⟨enough, read⟩, rfl⟩
    refine ⟨Nat.not_lt.mpr enough, value, ?_, rfl, rfl⟩
    rw [readU64, List.drop_zero, read, UInt64.ofNat_toNat]

/-- A number of a fixed width is read exactly where its digits begin the buffer. -/
theorem decodeNumber_eq_ok {α : Type} {width consumed : Nat} {toNat : α → Nat} {ofNat : Nat → α}
    (bounded : ∀ value, toNat value < 256 ^ width)
    (restored : ∀ value, ofNat (toNat value) = value)
    (kept : ∀ number < 256 ^ width, toNat (ofNat number) = number) {buf : Bytes} {value : α} :
    decodeNumber width ofNat buf = .ok (value, consumed) ↔
      leBytes width (toNat value) <+: buf ∧ consumed = (leBytes width (toNat value)).length := by
  rw [leBytes_prefix_iff (bounded value), length_leBytes]
  unfold decodeNumber
  split
  · rename_i short
    exact ⟨nofun, fun reads => absurd short (Nat.not_lt.mpr reads.1.1)⟩
  · rename_i enough
    have enough := Nat.not_lt.mp enough
    have small : leValue (buf.take width) < 256 ^ width := by
      have bound := leValue_lt (buf.take width)
      rwa [List.length_take, Nat.min_eq_left enough] at bound
    rw [Except.ok.injEq, Prod.mk.injEq]
    constructor
    · rintro ⟨rfl, rfl⟩
      exact ⟨⟨enough, (kept _ small).symm⟩, rfl⟩
    · rintro ⟨⟨-, read⟩, rfl⟩
      exact ⟨by rw [read, restored], rfl⟩

/-- A boolean is read exactly where its byte stands. -/
theorem decodeBool_eq_ok {consumed : Nat} {buf : Bytes} {value : Bool} :
    decodeBool buf = .ok (value, consumed) ↔
      [value.toUInt8] <+: buf ∧ consumed = [value.toUInt8].length := by
  unfold decodeBool
  split
  · simp
  · cases value <;> simp [Bool.toUInt8, eq_comm]
  · cases value <;> simp [Bool.toUInt8, eq_comm]
  · rename_i other rest notFalse notTrue
    refine ⟨nofun, fun reads => ?_⟩
    have first := (List.cons_prefix_cons.mp reads.1).1
    cases value with
    | false => exact (notFalse first.symm).elim
    | true => exact (notTrue first.symm).elim

/-- An identifier is read exactly where its bytes stand. -/
theorem Uuid.decode_eq_ok {consumed : Nat} {buf : Bytes} {value : Uuid} :
    decode buf = .ok (value, consumed) ↔ value.val <+: buf ∧ consumed = value.val.length := by
  unfold decode
  split
  · rename_i short
    refine ⟨by rintro ⟨⟩, fun reads => ?_⟩
    have length := reads.1.length_le
    rw [value.property] at length
    omega
  · rename_i enough
    rw [Except.ok.injEq, Prod.mk.injEq, value.property, List.prefix_iff_eq_take, value.property,
      Subtype.ext_iff, slice_val, List.drop_zero]
    exact and_congr eq_comm eq_comm

namespace PardosaType

/-- A number of fixed width round-trips and has one encoding. -/
theorem fixedWidth_laws {α : Type} {width : Nat} {node : DescriptorNode} {toNat : α → Nat}
    {ofNat : Nat → α} (bounded : ∀ value, toNat value < 256 ^ width)
    (restored : ∀ value, ofNat (toNat value) = value)
    (kept : ∀ number < 256 ^ width, toNat (ofNat number) = number) :
    (fixedWidth width node toNat ofNat).codec.Lawful ∧
      (fixedWidth width node toNat ofNat).codec.Canonical :=
  lawful_and_canonical_of_prefix (fun _ => rfl) (decodeNumber_eq_ok bounded restored kept)

/-- The codec of `u8` is lawful and canonical. -/
theorem u8_laws : u8.codec.Lawful ∧ u8.codec.Canonical :=
  fixedWidth_laws UInt8.toNat_lt (fun _ => UInt8.ofNat_toNat) fun _ => UInt8.toNat_ofNat_of_lt

/-- The codec of `u16` is lawful and canonical. -/
theorem u16_laws : u16.codec.Lawful ∧ u16.codec.Canonical :=
  fixedWidth_laws UInt16.toNat_lt (fun _ => UInt16.ofNat_toNat) fun _ => UInt16.toNat_ofNat_of_lt

/-- The codec of `u32` is lawful and canonical. -/
theorem u32_laws : u32.codec.Lawful ∧ u32.codec.Canonical :=
  fixedWidth_laws UInt32.toNat_lt (fun _ => UInt32.ofNat_toNat) fun _ => UInt32.toNat_ofNat_of_lt

/-- The codec of `u64` is lawful and canonical. -/
theorem u64_laws : u64.codec.Lawful ∧ u64.codec.Canonical :=
  fixedWidth_laws UInt64.toNat_lt (fun _ => UInt64.ofNat_toNat) fun _ => UInt64.toNat_ofNat_of_lt

/-- The codec of `i8` is lawful and canonical. -/
theorem i8_laws : i8.codec.Lawful ∧ i8.codec.Canonical :=
  fixedWidth_laws (fun value => value.toUInt8.toNat_lt)
    (fun value => by rw [UInt8.ofNat_toNat, Int8.toInt8_toUInt8])
    fun number small => (congrArg UInt8.toNat (UInt8.toUInt8_toInt8 _)).trans
      (UInt8.toNat_ofNat_of_lt small)

/-- The codec of `i16` is lawful and canonical. -/
theorem i16_laws : i16.codec.Lawful ∧ i16.codec.Canonical :=
  fixedWidth_laws (fun value => value.toUInt16.toNat_lt)
    (fun value => by rw [UInt16.ofNat_toNat, Int16.toInt16_toUInt16])
    fun number small => (congrArg UInt16.toNat (UInt16.toUInt16_toInt16 _)).trans
      (UInt16.toNat_ofNat_of_lt small)

/-- The codec of `i32` is lawful and canonical. -/
theorem i32_laws : i32.codec.Lawful ∧ i32.codec.Canonical :=
  fixedWidth_laws (fun value => value.toUInt32.toNat_lt)
    (fun value => by rw [UInt32.ofNat_toNat, Int32.toInt32_toUInt32])
    fun number small => (congrArg UInt32.toNat (UInt32.toUInt32_toInt32 _)).trans
      (UInt32.toNat_ofNat_of_lt small)

/-- The codec of `i64` is lawful and canonical. -/
theorem i64_laws : i64.codec.Lawful ∧ i64.codec.Canonical :=
  fixedWidth_laws (fun value => value.toUInt64.toNat_lt)
    (fun value => by rw [UInt64.ofNat_toNat, Int64.toInt64_toUInt64])
    fun number small => (congrArg UInt64.toNat (UInt64.toUInt64_toInt64 _)).trans
      (UInt64.toNat_ofNat_of_lt small)

/-- The codec of booleans is lawful and canonical. -/
theorem bool_laws : bool.codec.Lawful ∧ bool.codec.Canonical :=
  lawful_and_canonical_of_prefix (fun _ => rfl) decodeBool_eq_ok

/-- The codec of timestamps is lawful and canonical. -/
theorem timestamp_laws : timestamp.codec.Lawful ∧ timestamp.codec.Canonical :=
  lawful_and_canonical_of_prefix (fun _ => rfl) Timestamp.decode_eq_ok

/-- The codec of identifiers is lawful and canonical. -/
theorem uuid_laws : uuid.codec.Lawful ∧ uuid.codec.Canonical :=
  lawful_and_canonical_of_prefix (fun _ => rfl) Uuid.decode_eq_ok

/-- The codec of strings is lawful and canonical when their bound fits. -/
theorem eventString_laws {max : Nat} (fits : max ≤ u32Max) :
    (eventString max).codec.Lawful ∧ (eventString max).codec.Canonical :=
  lawful_and_canonical_of_prefix (fun _ => rfl) (EventString.decode_eq_ok fits)

/-- The codec of strings that must not be empty is lawful and canonical when their bound
fits. -/
theorem nonEmptyEventString_laws {max : Nat} (fits : max ≤ u32Max) :
    (nonEmptyEventString max).codec.Lawful ∧ (nonEmptyEventString max).codec.Canonical :=
  lawful_and_canonical_of_prefix (fun _ => rfl) (NonEmptyEventString.decode_eq_ok fits)

/-- The codec of bytes is lawful and canonical when their bound fits. -/
theorem eventBytes_laws {max : Nat} (fits : max ≤ u32Max) :
    (eventBytes max).codec.Lawful ∧ (eventBytes max).codec.Canonical :=
  lawful_and_canonical_of_prefix (fun _ => rfl) (EventBytes.decode_eq_ok fits)

end PardosaType

section Floats

variable {format : FloatFormat}

namespace OrderedFloat

/-- A pattern that a value keeps is taken as that value. -/
theorem tryFrom_inner (value : OrderedFloat format) : tryFrom value.inner = .ok value := by
  unfold tryFrom
  rw [dif_pos value.real]
  split
  · rename_i zero
    have inner := value.normalized zero
    cases value
    cases inner
    rfl
  · rfl

/-- An ordered float is read from as many bytes as its format has, when they are admitted.
-/
theorem decode_eq_ok {buf : Bytes} {value : OrderedFloat format} {consumed : Nat} :
    decode format buf = .ok (value, consumed) ↔ format.bytes ≤ buf.length ∧
      tryFrom (.ofNat _ (leValue (buf.take format.bytes))) = .ok value ∧
      consumed = format.bytes := by
  simp only [decode, throwIf_eq_ok, bind_eq_ok, pure_eq_ok, Prod.mk.injEq, Nat.not_lt]
  constructor
  · rintro ⟨enough, ordered, taken, rfl, rfl⟩
    exact ⟨enough, taken, rfl⟩
  · rintro ⟨enough, taken, rfl⟩
    exact ⟨enough, value, taken, rfl, rfl⟩

end OrderedFloat

/-- An ordered float round-trips. -/
theorem PardosaType.orderedFloat_lawful (node : DescriptorNode) :
    (orderedFloat format node).codec.Lawful where
  written value := ⟨_, rfl⟩
  readBack := by
    intro (value : OrderedFloat format) bytes encoded suffix
    cases encoded
    have small : value.inner.toNat < 256 ^ format.bytes := by
      have bound := value.inner.isLt
      rwa [Nat.pow_mul] at bound
    refine OrderedFloat.decode_eq_ok.mpr ⟨?_, ?_, length_leBytes _ _⟩
    · rw [List.length_append, length_leBytes]
      exact Nat.le_add_right _ _
    · rw [List.take_left' (length_leBytes _ _), leValue_leBytes_of_lt small, BitVec.ofNat_toNat,
        BitVec.setWidth_eq]
      exact value.tryFrom_inner
  within := by
    intro buf value consumed decoded
    obtain ⟨enough, -, rfl⟩ := OrderedFloat.decode_eq_ok.mp decoded
    exact enough

end Floats

namespace PardosaType

variable {inner : PardosaType}

section Option

/-- A value that is there is written behind its tag. -/
theorem encodeOption_some {value : inner.Value} {bytes : Bytes} :
    inner.encodeOption (some value) = .ok bytes ↔
      ∃ inside, inner.encodeType value = .ok inside ∧ bytes = 0x01 :: inside := by
  simp only [encodeOption, bind_eq_ok, pure_eq_ok]
  exact exists_congr fun inside => and_congr_right fun _ => eq_comm

/-- A tag is read, and behind it the value that it announces. -/
theorem decodeOption_eq_ok {buf : Bytes} {value : Option inner.Value} {consumed : Nat} :
    inner.decodeOption buf = .ok (value, consumed) ↔
      (∃ rest, buf = 0x00 :: rest ∧ value = none ∧ consumed = 1) ∨
      ∃ rest inside taken, buf = 0x01 :: rest ∧ inner.decodeType rest = .ok (inside, taken) ∧
        taken ≤ rest.length ∧ value = some inside ∧ consumed = 1 + taken := by
  unfold decodeOption
  split
  · simp
  · simp [eq_comm]
  · rename_i rest
    simp only [bind_eq_ok, pure_eq_ok, checkedAdvance_eq_ok]
    constructor
    · rintro ⟨⟨inside, taken⟩, read, total, ⟨rfl, within⟩, same⟩
      cases same
      dsimp only at within
      exact .inr ⟨rest, inside, taken, rfl, read, by omega, rfl, rfl⟩
    · rintro (⟨_, same, -⟩ | ⟨_, inside, taken, same, read, within, rfl, rfl⟩)
      · cases same
      · cases same
        exact ⟨(inside, taken), read, _, ⟨rfl, by dsimp only; omega⟩, rfl⟩
  · rename_i other rest notNone notSome
    refine ⟨by rintro ⟨⟩, ?_⟩
    rintro (⟨_, same, -⟩ | ⟨_, _, _, same, -⟩)
    · exact (notNone (List.cons.inj same).1).elim
    · exact (notSome (List.cons.inj same).1).elim

/-- An option round-trips when its value does. -/
theorem option_lawful (lawful : inner.codec.Lawful) : (option inner).codec.Lawful where
  written := by
    intro (value : Option inner.Value)
    cases value with
    | none => exact ⟨_, rfl⟩
    | some value =>
        obtain ⟨inside, encoded⟩ := lawful.written value
        exact ⟨_, encodeOption_some.mpr ⟨inside, encoded, rfl⟩⟩
  readBack := by
    intro (value : Option inner.Value) bytes encoded suffix
    cases value with
    | none =>
        cases encoded
        rfl
    | some value =>
        obtain ⟨inside, written, rfl⟩ := encodeOption_some.mp encoded
        refine decodeOption_eq_ok.mpr (.inr ⟨inside ++ suffix, value, inside.length, rfl,
          lawful.readBack written suffix, by simp, rfl, ?_⟩)
        rw [List.length_cons, Nat.add_comm]
  within := by
    intro buf value consumed decoded
    obtain ⟨rest, rfl, -, rfl⟩ | ⟨rest, inside, taken, rfl, -, within, -, rfl⟩ :=
      decodeOption_eq_ok.mp decoded
    · simp
    · rw [List.length_cons]
      omega

/-- An option has one encoding when its value does. -/
theorem option_canonical (canonical : inner.codec.Canonical) :
    (option inner).codec.Canonical := by
  intro buf value consumed decoded
  obtain ⟨rest, rfl, rfl, rfl⟩ | ⟨rest, inside, taken, rfl, read, -, rfl, rfl⟩ :=
    decodeOption_eq_ok.mp decoded
  · rfl
  · refine encodeOption_some.mpr ⟨_, canonical read, ?_⟩
    rw [Nat.add_comm, List.take_succ_cons]

end Option

section EventFloat

/-- A finite value is written behind its tag. -/
theorem encodeEventFloat_finite {value : inner.Value} {bytes : Bytes} :
    inner.encodeEventFloat (.finite value) = .ok bytes ↔
      ∃ inside, inner.encodeType value = .ok inside ∧ bytes = 0x02 :: inside := by
  simp only [encodeEventFloat, bind_eq_ok, pure_eq_ok]
  exact exists_congr fun inside => and_congr_right fun _ => eq_comm

/-- An event float round-trips when its finite values do. -/
theorem eventFloat_lawful (lawful : inner.codec.Lawful) (name : String) :
    (eventFloat inner name).codec.Lawful where
  written := by
    intro (value : EventFloat inner.Value)
    cases value with
    | finite value =>
        obtain ⟨inside, encoded⟩ := lawful.written value
        exact ⟨_, encodeEventFloat_finite.mpr ⟨inside, encoded, rfl⟩⟩
    | nan | negInf | posInf => exact ⟨_, rfl⟩
  readBack := by
    intro (value : EventFloat inner.Value) bytes encoded suffix
    cases value with
    | finite value =>
        obtain ⟨inside, written, rfl⟩ := encodeEventFloat_finite.mp encoded
        change inner.decodeEventFloat (0x02 :: (inside ++ suffix)) = _
        have read : inner.decodeType (inside ++ suffix) = _ := lawful.readBack written suffix
        simp only [decodeEventFloat, read]
        rw [List.length_cons, Nat.add_comm]
        rfl
    | nan | negInf | posInf =>
        cases encoded
        rfl
  within := by
    intro buf (value : EventFloat inner.Value) consumed decoded
    change inner.decodeEventFloat buf = .ok (value, consumed) at decoded
    unfold decodeEventFloat at decoded
    split at decoded
    · cases decoded
    · cases decoded
      simp
    · cases decoded
      simp
    · rename_i rest
      simp only [bind_eq_ok, pure_eq_ok] at decoded
      obtain ⟨⟨inside, taken⟩, read, same⟩ := decoded
      cases same
      have within := lawful.within read
      rw [List.length_cons]
      omega
    · cases decoded
      simp
    · cases decoded

end EventFloat

section EventVec

/-- Items that are written are read where their bytes stand. -/
theorem decodeItems_of_stands (lawful : inner.codec.Lawful) {items : List inner.Value}
    {buf bytes : Bytes} {cursor after : Nat} (within : cursor ≤ buf.length)
    (encoded : encodeItems inner.encodeType items = .ok bytes)
    (stands : Stands buf cursor bytes after) :
    decodeItems inner.decodeType buf items.length cursor = .ok (items, after) := by
  induction items generalizing bytes cursor with
  | nil =>
      cases encoded
      obtain rfl := stands.length
      rfl
  | cons item items ih =>
      simp only [encodeItems, bind_eq_ok, pure_eq_ok] at encoded
      obtain ⟨first, firstEncoded, others, othersEncoded, rfl⟩ := encoded
      obtain ⟨firstAt, othersAt⟩ := stands.split _ rfl
      have read : inner.decodeType (buf.drop cursor) = .ok (item, first.length) :=
        lawful.decode_of_stands firstEncoded firstAt
      have next := firstAt.le_length within
      simp only [List.length_cons, decodeItems, read, ok_bind,
        checkedAdvance_eq_ok.mpr ⟨rfl, next⟩, ih next othersEncoded othersAt]
      rfl

/-- Items that are read are as many as asked for and end within the buffer. -/
theorem within_of_decodeItems {buf : Bytes} {count cursor after : Nat} {items : List inner.Value}
    (within : cursor ≤ buf.length)
    (decoded : decodeItems inner.decodeType buf count cursor = .ok (items, after)) :
    items.length = count ∧ after ≤ buf.length := by
  induction count generalizing cursor items with
  | zero =>
      cases decoded
      exact ⟨rfl, within⟩
  | succ count ih =>
      simp only [decodeItems, bind_eq_ok, pure_eq_ok, checkedAdvance_eq_ok] at decoded
      obtain ⟨⟨item, consumed⟩, -, next, ⟨rfl, nextWithin⟩, ⟨others, final⟩, othersRead, same⟩ :=
        decoded
      cases same
      obtain ⟨length, finalWithin⟩ := ih nextWithin othersRead
      exact ⟨congrArg Nat.succ length, finalWithin⟩

/-- The bytes of items that are read are those that stand where they are read. -/
theorem stands_of_decodeItems (lawful : inner.codec.Lawful) (canonical : inner.codec.Canonical)
    {buf : Bytes} {count cursor after : Nat} {items : List inner.Value}
    (decoded : decodeItems inner.decodeType buf count cursor = .ok (items, after)) :
    ∃ bytes, encodeItems inner.encodeType items = .ok bytes ∧ Stands buf cursor bytes after := by
  induction count generalizing cursor items with
  | zero =>
      cases decoded
      exact ⟨[], rfl, .nil buf _⟩
  | succ count ih =>
      simp only [decodeItems, bind_eq_ok, pure_eq_ok, checkedAdvance_eq_ok] at decoded
      obtain ⟨⟨item, consumed⟩, read, next, ⟨rfl, -⟩, ⟨others, final⟩, othersRead, same⟩ := decoded
      cases same
      obtain ⟨first, firstEncoded, firstAt⟩ := canonical.stands_of_decode lawful read
      obtain ⟨bytes, encoded, othersAt⟩ := ih othersRead
      refine ⟨first ++ bytes, ?_, firstAt.append othersAt⟩
      simp only [encodeItems, bind_eq_ok, pure_eq_ok]
      exact ⟨first, firstEncoded, bytes, encoded, rfl⟩

/-- Items of a lawful type can always be written. -/
theorem exists_encodeItems (lawful : inner.codec.Lawful) (items : List inner.Value) :
    ∃ bytes, encodeItems inner.encodeType items = .ok bytes := by
  induction items with
  | nil => exact ⟨[], rfl⟩
  | cons item items ih =>
      obtain ⟨first, firstEncoded⟩ := lawful.written item
      obtain ⟨others, encoded⟩ := ih
      refine ⟨first ++ others, ?_⟩
      simp only [encodeItems, bind_eq_ok, pure_eq_ok]
      exact ⟨first, firstEncoded, others, encoded, rfl⟩

/-- A vector is made of any items that its type admits, when its bound fits 32 bits. -/
theorem eventVec_new_eq_ok {α : Type} {max : Nat} {items : List α}
    {value : EventVec α max} :
    EventVec.new items = .ok value ↔ max ≤ u32Max ∧ value.items = items := by
  unfold EventVec.new
  simp only [bind_eq_ok, checkBound_eq_ok, exists_const]
  refine and_congr_right fun _ => ?_
  split
  · rename_i bounded
    rw [pure_eq_ok]
    constructor
    · rintro rfl
      rfl
    · rintro rfl
      rfl
  · rename_i exceeds
    refine ⟨by rintro ⟨⟩, ?_⟩
    rintro rfl
    exact absurd value.bounded exceeds

variable {max : Nat}

/-- A collection is written as its count and its items. -/
theorem encodeEventVec_eq_ok (fits : max ≤ u32Max) {value : EventVec inner.Value max}
    {bytes : Bytes} :
    inner.encodeEventVec max value = .ok bytes ↔
      ∃ items, encodeItems inner.encodeType value.items = .ok items ∧
        bytes = leBytes 4 value.items.length ++ items := by
  have bounded := value.bounded
  have passes : ¬(value.items.length > max ∨ value.items.length > u32Max) := by omega
  simp only [encodeEventVec, throwIf_eq_ok, bind_eq_ok, pure_eq_ok]
  constructor
  · rintro ⟨-, items, encoded, rfl⟩
    exact ⟨items, encoded, rfl⟩
  · rintro ⟨items, encoded, rfl⟩
    exact ⟨passes, items, encoded, rfl⟩

/-- A collection is read as a count within its bound, and so many items behind it. -/
theorem decodeEventVec_eq_ok (fits : max ≤ u32Max) {buf : Bytes}
    {value : EventVec inner.Value max} {after : Nat} :
    inner.decodeEventVec max buf = .ok (value, after) ↔
      4 ≤ buf.length ∧ (readU32 buf 0).toNat ≤ max ∧
        decodeItems inner.decodeType buf (readU32 buf 0).toNat 4 = .ok (value.items, after) := by
  simp only [decodeEventVec, checkBound_eq_ok, throwIf_eq_ok, bind_eq_ok, pure_eq_ok,
    eventVec_new_eq_ok, exists_const, Nat.not_lt, Prod.mk.injEq]
  constructor
  · rintro ⟨-, enough, within, ⟨items, cursor⟩, read, value, ⟨-, rfl⟩, rfl, rfl⟩
    exact ⟨enough, within, read⟩
  · rintro ⟨enough, within, read⟩
    exact ⟨fits, enough, within, (value.items, after), read, value, ⟨fits, rfl⟩, rfl, rfl⟩

/-- A vector round-trips when its items do. -/
theorem eventVec_lawful (fits : max ≤ u32Max) (lawful : inner.codec.Lawful) :
    (eventVec inner max).codec.Lawful where
  written := by
    intro (value : EventVec inner.Value max)
    obtain ⟨items, encoded⟩ := exists_encodeItems lawful value.items
    exact ⟨_, (encodeEventVec_eq_ok fits).mpr ⟨items, encoded, rfl⟩⟩
  readBack := by
    intro (value : EventVec inner.Value max) bytes encoded suffix
    obtain ⟨items, itemsEncoded, rfl⟩ := (encodeEventVec_eq_ok fits).mp encoded
    have stands := Stands.start (leBytes 4 value.items.length ++ items) suffix
    obtain ⟨countAt, itemsAt⟩ := stands.split 4 (by simp)
    have count : (readU32 (leBytes 4 value.items.length ++ items ++ suffix) 0).toNat =
        value.items.length :=
      countAt.readU32_toNat_eq
        (Nat.lt_of_le_of_lt (Nat.le_trans value.bounded fits) (by decide))
    have enough := countAt.le_length (Nat.zero_le _)
    refine (decodeEventVec_eq_ok fits).mpr ⟨enough, ?_, ?_⟩
    · rw [count]
      exact value.bounded
    · rw [count]
      exact decodeItems_of_stands lawful enough itemsEncoded itemsAt
  within := by
    intro buf value consumed decoded
    obtain ⟨enough, -, read⟩ := (decodeEventVec_eq_ok fits).mp decoded
    exact (within_of_decodeItems enough read).2

/-- A vector has one encoding when its items do. -/
theorem eventVec_canonical (fits : max ≤ u32Max) (lawful : inner.codec.Lawful)
    (canonical : inner.codec.Canonical) : (eventVec inner max).codec.Canonical := by
  intro buf value consumed decoded
  obtain ⟨enough, -, read⟩ := (decodeEventVec_eq_ok fits).mp decoded
  obtain ⟨items, encoded, itemsAt⟩ := stands_of_decodeItems lawful canonical read
  have countAt : Stands buf 0 (writeU32 (readU32 buf 0)) 4 := Stands.word enough rfl
  have length := (within_of_decodeItems enough read).1
  refine (encodeEventVec_eq_ok fits).mpr ⟨items, encoded, ?_⟩
  rw [length]
  exact (countAt.append itemsAt).take_eq

end EventVec

end PardosaType

end Pardosa
