import Pardosa.Schema.Admission
import Pardosa.Schema.PayloadCodec

/-!
# The descriptor determines the wire format

A descriptor denotes a wire format: what stands at the front of a buffer, as the bytes that
are written for it and the number of bytes it takes. The codec of every type in the language
reads and writes the format that its descriptor denotes, so types and roots with one
descriptor accept, measure and produce the same bytes.
-/

namespace Pardosa

open Foundation Codec

/-- A bound of the language is kept by its wire field. -/
theorem toNat_boundField {max : Nat} (fits : max ≤ u32Max) : (boundField max).toNat = max :=
  UInt32.toNat_ofNat_of_lt (Nat.lt_of_le_of_lt fits (by decide))

/-- A reading behind a prefix. -/
def prefixed (before : Bytes) (reading : Bytes × Nat) : Bytes × Nat :=
  (before ++ reading.1, before.length + reading.2)

/-- The format of an option: a tag, and what stands behind it. -/
def optionReading (inside : Bytes → Option (Bytes × Nat)) : Bytes → Option (Bytes × Nat)
  | 0x00 :: _ => some ([0x00], 1)
  | 0x01 :: rest => (inside rest).map (prefixed [0x01])
  | _ => none

/-- The format of so many items, one behind the other. -/
def itemsReading (item : Bytes → Option (Bytes × Nat)) : Nat → Bytes → Option (Bytes × Nat)
  | 0, _ => some ([], 0)
  | count + 1, buf => do
      let first ← item buf
      let others ← itemsReading item count (buf.drop first.2)
      return (first.1 ++ others.1, first.2 + others.2)

/-- The format of a collection: a count within its bound, and so many items. -/
def vecReading (item : Bytes → Option (Bytes × Nat)) (max : Nat) (buf : Bytes) :
    Option (Bytes × Nat) :=
  if buf.length < 4 ∨ max < (readU32 buf 0).toNat then none
  else (itemsReading item (readU32 buf 0).toNat (buf.drop 4)).map (prefixed (buf.take 4))

mutual

/-- The wire format that a descriptor denotes; a leaf denotes that of the shipped type it
names. -/
def DescriptorNode.reading : DescriptorNode → Bytes → Option (Bytes × Nat)
  | .u8, buf => PardosaType.u8.codec.reading buf
  | .u16, buf => PardosaType.u16.codec.reading buf
  | .u32, buf => PardosaType.u32.codec.reading buf
  | .u64, buf => PardosaType.u64.codec.reading buf
  | .i8, buf => PardosaType.i8.codec.reading buf
  | .i16, buf => PardosaType.i16.codec.reading buf
  | .i32, buf => PardosaType.i32.codec.reading buf
  | .i64, buf => PardosaType.i64.codec.reading buf
  | .bool, buf => PardosaType.bool.codec.reading buf
  | .timestamp, buf => PardosaType.timestamp.codec.reading buf
  | .uuid, buf => PardosaType.uuid.codec.reading buf
  | .orderedF32, buf => PardosaType.orderedF32.codec.reading buf
  | .orderedF64, buf => PardosaType.orderedF64.codec.reading buf
  | .eventString maxBytes, buf => (PardosaType.eventString maxBytes.toNat).codec.reading buf
  | .nonEmptyEventString maxBytes, buf =>
      (PardosaType.nonEmptyEventString maxBytes.toNat).codec.reading buf
  | .eventBytes maxBytes, buf => (PardosaType.eventBytes maxBytes.toNat).codec.reading buf
  | .option inner, buf => optionReading inner.reading buf
  | .eventVec inner maxItems, buf => vecReading inner.reading maxItems.toNat buf
  | .struct _ fields, buf => fields.reading buf
  | .enum _ width variants, buf =>
      if buf.length < width.toNat then none
      else (variants.reading (leValue (buf.take width.toNat)) (buf.drop width.toNat)).map
        (prefixed (buf.take width.toNat))

/-- Fields stand one behind the other. -/
def FieldDescriptors.reading : FieldDescriptors → Bytes → Option (Bytes × Nat)
  | .nil, _ => some ([], 0)
  | .cons _ node rest, buf => do
      let first ← node.reading buf
      let others ← rest.reading (buf.drop first.2)
      return (first.1 ++ others.1, first.2 + others.2)

/-- Behind a discriminant stands the payload of the first variant that has it. -/
def VariantDescriptors.reading : VariantDescriptors → Nat → Bytes → Option (Bytes × Nat)
  | .nil, _, _ => none
  | .cons discriminant _ payload rest, disc, buf =>
      if disc = discriminant.toNat then payload.reading buf else rest.reading disc buf

def VariantPayload.reading : VariantPayload → Bytes → Option (Bytes × Nat)
  | .none, _ => some ([], 0)
  | .some node, buf => node.reading buf

end

/-- A single field reads what its type reads. -/
theorem FieldDescriptors.reading_singleton (name : String) (node : DescriptorNode) (buf : Bytes) :
    (FieldDescriptors.cons name node .nil).reading buf = node.reading buf := by
  cases read : node.reading buf <;> simp [reading, read]

namespace PardosaType

/-- The codec of a type reads and writes the format that its descriptor denotes. -/
def Described (type : PardosaType) : Prop :=
  ∀ buf, type.codec.reading buf = type.descriptorNode.reading buf

/-- What the codec reads is what the type reads and writes again. -/
theorem codec_reading_eq_some_iff {type : PardosaType} {buf bytes : Bytes} {consumed : Nat} :
    type.codec.reading buf = some (bytes, consumed) ↔
      ∃ value, type.decodeType buf = .ok (value, consumed) ∧ type.encodeType value = .ok bytes :=
  Codec.reading_eq_some_iff

/-- A type is described by its descriptor when both read the same bytes. -/
theorem described_iff {type : PardosaType} :
    type.Described ↔ ∀ {buf bytes consumed},
      (∃ value, type.decodeType buf = .ok (value, consumed) ∧ type.encodeType value = .ok bytes) ↔
        type.descriptorNode.reading buf = some (bytes, consumed) := by
  constructor
  · intro described buf bytes consumed
    rw [← described buf, codec_reading_eq_some_iff]
  · intro same buf
    ext ⟨bytes, consumed⟩
    exact codec_reading_eq_some_iff.trans same

/-- What a described type reads and writes, as its descriptor has it. -/
theorem Described.iff {type : PardosaType} (described : type.Described) {buf bytes : Bytes}
    {consumed : Nat} :
    (∃ value, type.decodeType buf = .ok (value, consumed) ∧ type.encodeType value = .ok bytes) ↔
      type.descriptorNode.reading buf = some (bytes, consumed) :=
  described_iff.mp described

variable {inner : PardosaType}

/-- An option is described when its value is. -/
theorem option_described (lawful : inner.codec.Lawful) (described : inner.Described) :
    (option inner).Described := by
  refine described_iff.mpr fun {buf bytes consumed} => ?_
  change (∃ value, inner.decodeOption buf = .ok (value, consumed) ∧
    inner.encodeOption value = .ok bytes) ↔
      optionReading inner.descriptorNode.reading buf = some (bytes, consumed)
  constructor
  · rintro ⟨value, decoded, encoded⟩
    obtain ⟨rest, rfl, rfl, rfl⟩ | ⟨rest, inside, taken, rfl, read, -, rfl, rfl⟩ :=
      decodeOption_eq_ok.mp decoded
    · cases encoded
      rfl
    · obtain ⟨insideBytes, written, rfl⟩ := encodeOption_some.mp encoded
      rw [optionReading, described.iff.mp ⟨inside, read, written⟩]
      rfl
  · unfold optionReading
    split
    · rintro ⟨⟩
      exact ⟨none, rfl, rfl⟩
    · rename_i rest
      rw [Option.map_eq_some_iff]
      rintro ⟨⟨insideBytes, taken⟩, read, same⟩
      cases same
      obtain ⟨inside, decoded, written⟩ := described.iff.mpr read
      exact ⟨some inside, decodeOption_eq_ok.mpr (.inr ⟨rest, inside, taken, rfl, decoded,
        lawful.within decoded, rfl, rfl⟩), encodeOption_some.mpr ⟨insideBytes, written, rfl⟩⟩
    · nofun

/-- The loop over items reads the format of so many items. -/
theorem itemsReading_iff (lawful : inner.codec.Lawful) (described : inner.Described) {buf : Bytes}
    {count cursor after : Nat} {bytes : Bytes} (within : cursor ≤ buf.length) :
    (∃ items, decodeItems inner.decodeType buf count cursor = .ok (items, after) ∧
      encodeItems inner.encodeType items = .ok bytes) ↔
    ∃ taken, itemsReading inner.descriptorNode.reading count (buf.drop cursor) =
      some (bytes, taken) ∧ after = cursor + taken := by
  induction count generalizing cursor bytes with
  | zero =>
      constructor
      · rintro ⟨items, decoded, encoded⟩
        cases decoded
        cases encoded
        exact ⟨0, rfl, rfl⟩
      · rintro ⟨taken, read, rfl⟩
        cases read
        exact ⟨[], rfl, rfl⟩
  | succ count ih =>
      simp only [decodeItems, itemsReading, bind_eq_ok, pure_eq_ok, checkedAdvance_eq_ok,
        Option.bind_eq_bind, Option.bind_eq_some_iff, Option.pure_def, Option.some.injEq]
      constructor
      · rintro ⟨items, ⟨⟨item, consumed⟩, read, next, ⟨rfl, nextWithin⟩, ⟨others, final⟩,
          othersRead, same⟩, encoded⟩
        cases same
        simp only [encodeItems, bind_eq_ok, pure_eq_ok] at encoded
        obtain ⟨first, firstEncoded, rest, restEncoded, rfl⟩ := encoded
        obtain ⟨taken, restRead, rfl⟩ := (ih nextWithin).mp ⟨others, othersRead, restEncoded⟩
        rw [← List.drop_drop] at restRead
        exact ⟨consumed + taken, ⟨(first, consumed), described.iff.mp ⟨item, read, firstEncoded⟩,
          (rest, taken), restRead, rfl⟩, Nat.add_assoc _ _ _⟩
      · rintro ⟨taken, ⟨⟨first, consumed⟩, firstRead, ⟨rest, more⟩, restRead, same⟩, rfl⟩
        cases same
        obtain ⟨item, read, firstEncoded⟩ := described.iff.mpr firstRead
        have fits := lawful.within read
        rw [List.length_drop] at fits
        have nextWithin : cursor + consumed ≤ buf.length := by omega
        rw [List.drop_drop] at restRead
        obtain ⟨others, othersRead, restEncoded⟩ :=
          (ih nextWithin).mpr ⟨more, restRead, (Nat.add_assoc _ _ _).symm⟩
        refine ⟨item :: others, ⟨(item, consumed), read, _, ⟨rfl, nextWithin⟩, (others, _),
          othersRead, rfl⟩, ?_⟩
        simp only [encodeItems, bind_eq_ok, pure_eq_ok]
        exact ⟨first, firstEncoded, rest, restEncoded, rfl⟩

/-- A vector is described when its items are. -/
theorem eventVec_described {max : Nat} (fits : max ≤ u32Max) (lawful : inner.codec.Lawful)
    (described : inner.Described) : (eventVec inner max).Described := by
  refine described_iff.mpr fun {buf bytes after} => ?_
  change (∃ value, inner.decodeEventVec max buf = .ok (value, after) ∧
    inner.encodeEventVec max value = .ok bytes) ↔
      vecReading inner.descriptorNode.reading (boundField max).toNat buf = some (bytes, after)
  rw [toNat_boundField fits, vecReading]
  constructor
  · rintro ⟨value, decoded, encoded⟩
    obtain ⟨enough, within, read⟩ := (decodeEventVec_eq_ok fits).mp decoded
    obtain ⟨items, written, rfl⟩ := (encodeEventVec_eq_ok fits).mp encoded
    obtain ⟨taken, itemsRead, rfl⟩ :=
      (itemsReading_iff lawful described enough).mp ⟨value.items, read, written⟩
    have passes : ¬(buf.length < 4 ∨ max < (readU32 buf 0).toNat) := by omega
    have count : leBytes 4 value.items.length = buf.take 4 := by
      rw [(within_of_decodeItems enough read).1]
      exact writeU32_readU32 (by omega)
    rw [if_neg passes, itemsRead, count]
    simp [prefixed, enough]
  · intro read
    split at read
    · cases read
    rename_i passes
    obtain ⟨⟨items, taken⟩, itemsRead, same⟩ := Option.map_eq_some_iff.mp read
    cases same
    have enough : 4 ≤ buf.length := by omega
    have within : (readU32 buf 0).toNat ≤ max := by omega
    obtain ⟨values, decoded, written⟩ :=
      (itemsReading_iff lawful described enough).mpr ⟨taken, itemsRead, rfl⟩
    have length := (within_of_decodeItems enough decoded).1
    refine ⟨⟨values, length ▸ within⟩, (decodeEventVec_eq_ok fits).mpr ⟨enough, within, ?_⟩,
      (encodeEventVec_eq_ok fits).mpr ⟨items, written, ?_⟩⟩
    · simpa [enough] using decoded
    · have count : leBytes 4 (readU32 buf 0).toNat = buf.take 4 := writeU32_readU32 (by omega)
      rw [length, count]

/-- The classified floating-point type has the format of the enum that describes it. -/
theorem eventFloat_described (described : inner.Described) (name : String) :
    (eventFloat inner name).Described := by
  refine described_iff.mpr fun {buf bytes after} => ?_
  change (∃ value, inner.decodeEventFloat buf = .ok (value, after) ∧
    inner.encodeEventFloat value = .ok bytes) ↔ _
  cases buf with
  | nil =>
      constructor
      · rintro ⟨value, decoded, -⟩
        cases decoded
      · rintro ⟨⟩
  | cons tag rest =>
      have format : (eventFloat inner name).descriptorNode.reading (tag :: rest) =
          (if tag.toNat = 0 then some ([], 0) else if tag.toNat = 1 then some ([], 0)
            else if tag.toNat = 2 then inner.descriptorNode.reading rest
            else if tag.toNat = 3 then some ([], 0) else none).map (prefixed [tag]) := by
        simp [eventFloat, DescriptorNode.reading, VariantDescriptors.reading,
          VariantPayload.reading, leValue]
      rw [format]
      by_cases nan : tag = 0
      · subst nan
        constructor
        · rintro ⟨value, decoded, encoded⟩
          cases decoded
          cases encoded
          rfl
        · rintro ⟨⟩
          exact ⟨.nan, rfl, rfl⟩
      by_cases negInf : tag = 1
      · subst negInf
        constructor
        · rintro ⟨value, decoded, encoded⟩
          cases decoded
          cases encoded
          rfl
        · rintro ⟨⟩
          exact ⟨.negInf, rfl, rfl⟩
      by_cases finite : tag = 2
      · subst finite
        change _ ↔ (inner.descriptorNode.reading rest).map (prefixed [2]) = _
        rw [Option.map_eq_some_iff]
        simp only [decodeEventFloat, bind_eq_ok, pure_eq_ok]
        constructor
        · rintro ⟨value, ⟨⟨inside, taken⟩, read, same⟩, encoded⟩
          cases same
          obtain ⟨insideBytes, written, rfl⟩ := encodeEventFloat_finite.mp encoded
          exact ⟨(insideBytes, taken), described.iff.mp ⟨inside, read, written⟩, rfl⟩
        · rintro ⟨⟨insideBytes, taken⟩, read, same⟩
          cases same
          obtain ⟨inside, decoded, written⟩ := described.iff.mpr read
          exact ⟨.finite inside, ⟨(inside, taken), decoded, rfl⟩,
            encodeEventFloat_finite.mpr ⟨insideBytes, written, rfl⟩⟩
      by_cases posInf : tag = 3
      · subst posInf
        constructor
        · rintro ⟨value, decoded, encoded⟩
          cases decoded
          cases encoded
          rfl
        · rintro ⟨⟩
          exact ⟨.posInf, rfl, rfl⟩
      · have unknown : inner.decodeEventFloat (tag :: rest) =
            .error (.unknownVariantDiscriminant tag.toNat) := by
          simp [decodeEventFloat]
        have others : ∀ known : UInt8, tag ≠ known → tag.toNat ≠ known.toNat :=
          fun known other same => other (UInt8.toNat_inj.mp same)
        have notNan : tag.toNat ≠ 0 := others 0 nan
        have notNegInf : tag.toNat ≠ 1 := others 1 negInf
        have notFinite : tag.toNat ≠ 2 := others 2 finite
        have notPosInf : tag.toNat ≠ 3 := others 3 posInf
        rw [if_neg notNan, if_neg notNegInf, if_neg notFinite, if_neg notPosInf]
        constructor
        · rintro ⟨value, decoded, -⟩
          rw [unknown] at decoded
          cases decoded
        · rintro ⟨⟩

end PardosaType

/-- The loop over fields reads the format of their descriptors. -/
theorem fieldsReading_iff {members : List (String × PardosaType)}
    (lawful : ∀ type ∈ members.map Prod.snd, type.codec.Lawful)
    (described : ∀ type ∈ members.map Prod.snd, type.Described) {buf bytes : Bytes}
    {cursor after : Nat} (within : cursor ≤ buf.length) :
    (∃ values, decodeFields buf (members.map Prod.snd) cursor = .ok (values, after) ∧
      encodeFields (members.map Prod.snd) values = .ok bytes) ↔
    ∃ taken, (fieldDescriptors members).reading (buf.drop cursor) = some (bytes, taken) ∧
      after = cursor + taken := by
  induction members generalizing cursor bytes with
  | nil =>
      constructor
      · rintro ⟨values, decoded, encoded⟩
        cases decoded
        cases encoded
        exact ⟨0, rfl, rfl⟩
      · rintro ⟨taken, read, rfl⟩
        cases read
        exact ⟨(), rfl, rfl⟩
  | cons member members ih =>
      obtain ⟨name, type⟩ := member
      obtain ⟨typeLawful, lawful⟩ := List.forall_mem_cons.mp lawful
      obtain ⟨typeDescribed, described⟩ := List.forall_mem_cons.mp described
      change (∃ values : Tuple (type :: members.map Prod.snd),
        decodeFields buf (type :: members.map Prod.snd) cursor = .ok (values, after) ∧
        encodeFields (type :: members.map Prod.snd) values = .ok bytes) ↔ _
      simp only [decodeFields, fieldDescriptors, FieldDescriptors.reading, bind_eq_ok, pure_eq_ok,
        checkedAdvance_eq_ok, Option.bind_eq_bind, Option.bind_eq_some_iff, Option.pure_def,
        Option.some.injEq]
      constructor
      · rintro ⟨values, ⟨⟨value, consumed⟩, read, next, ⟨rfl, nextWithin⟩, ⟨others, final⟩,
          othersRead, same⟩, encoded⟩
        cases same
        simp only [encodeFields, bind_eq_ok, pure_eq_ok] at encoded
        obtain ⟨first, firstEncoded, rest, restEncoded, rfl⟩ := encoded
        obtain ⟨taken, restRead, rfl⟩ :=
          (ih lawful described nextWithin).mp ⟨others, othersRead, restEncoded⟩
        rw [← List.drop_drop] at restRead
        exact ⟨consumed + taken, ⟨(first, consumed),
          typeDescribed.iff.mp ⟨value, read, firstEncoded⟩, (rest, taken), restRead, rfl⟩,
          Nat.add_assoc _ _ _⟩
      · rintro ⟨taken, ⟨⟨first, consumed⟩, firstRead, ⟨rest, more⟩, restRead, same⟩, rfl⟩
        cases same
        obtain ⟨value, read, firstEncoded⟩ := typeDescribed.iff.mpr firstRead
        have fits := typeLawful.within read
        rw [List.length_drop] at fits
        have nextWithin : cursor + consumed ≤ buf.length := by omega
        rw [List.drop_drop] at restRead
        obtain ⟨others, othersRead, restEncoded⟩ :=
          (ih lawful described nextWithin).mpr ⟨more, restRead, (Nat.add_assoc _ _ _).symm⟩
        refine ⟨(value, others), ⟨(value, consumed), read, _, ⟨rfl, nextWithin⟩, (others, _),
          othersRead, rfl⟩, ?_⟩
        simp only [encodeFields, bind_eq_ok, pure_eq_ok]
        exact ⟨first, firstEncoded, rest, restEncoded, rfl⟩

/-- A struct is described when its fields are. -/
theorem struct_described {ident : String} {fields : Fields PardosaType}
    (lawful : ∀ type ∈ fields.types, type.codec.Lawful)
    (described : ∀ type ∈ fields.types, type.Described) :
    (expandPardosaTypeStruct ident fields).Described := by
  refine PardosaType.described_iff.mpr fun {buf bytes after} => ?_
  have reads : (∃ values, decodeFields buf fields.types 0 = .ok (values, after) ∧
      encodeFields fields.types values = .ok bytes) ↔
      ∃ taken, (fieldDescriptors fields.members).reading (buf.drop 0) = some (bytes, taken) ∧
        after = 0 + taken :=
    fieldsReading_iff lawful described (Nat.zero_le _)
  refine reads.trans ?_
  simp only [List.drop_zero, Nat.zero_add]
  constructor
  · rintro ⟨taken, read, rfl⟩
    exact read
  · intro read
    exact ⟨after, read, rfl⟩

/-- The payload of a variant has the format of its fields. -/
theorem payload_reading_iff {ident : String} {variant : Variant PardosaType}
    (lawful : ∀ type ∈ variant.fields.types, type.codec.Lawful)
    (described : ∀ type ∈ variant.fields.types, type.Described) {buf bytes : Bytes}
    {cursor after : Nat} (within : cursor ≤ buf.length) :
    (∃ values, decodeFields buf variant.fields.types cursor = .ok (values, after) ∧
      encodeFields variant.fields.types values = .ok bytes) ↔
    ∃ taken, (variant.payload ident).reading (buf.drop cursor) = some (bytes, taken) ∧
      after = cursor + taken := by
  refine (fieldsReading_iff lawful described within).trans ?_
  obtain ⟨name, discriminant, tombstone, fields⟩ := variant
  cases fields with
  | unit => rfl
  | named members => rfl
  | unnamed types =>
      match types with
      | [] => rfl
      | [type] =>
          refine exists_congr fun taken => and_congr_left fun _ => ?_
          change (FieldDescriptors.cons "_0" type.descriptorNode .nil).reading _ = _ ↔ _
          rw [FieldDescriptors.reading_singleton]
          rfl
      | _ :: _ :: _ => rfl

/-- The arms read the format of the variants behind their discriminant. -/
theorem armsReading_iff (ident : String) {variants : List (Variant PardosaType)}
    (lawful : ∀ variant ∈ variants, ∀ type ∈ variant.fields.types, type.codec.Lawful)
    (described : ∀ variant ∈ variants, ∀ type ∈ variant.fields.types, type.Described)
    {buf bytes : Bytes} {width disc after : Nat} (within : width ≤ buf.length) :
    (∃ choice, decodeArms buf width disc variants = .ok (choice, after) ∧
      encodeArms width variants choice = .ok bytes) ↔
    ∃ inside taken, (variantDescriptors ident variants).reading disc (buf.drop width) =
      some (inside, taken) ∧ after = width + taken ∧ bytes = leBytes width disc ++ inside := by
  induction variants with
  | nil =>
      constructor
      · rintro ⟨choice, -⟩
        cases choice
      · rintro ⟨inside, taken, read, -⟩
        cases read
  | cons variant variants ih =>
      obtain ⟨variantLawful, lawful⟩ := List.forall_mem_cons.mp lawful
      obtain ⟨variantDescribed, described⟩ := List.forall_mem_cons.mp described
      rw [decodeArms, variantDescriptors, VariantDescriptors.reading]
      split
      · rename_i matched
        have payload {inside : Bytes} : (∃ values,
            decodeFields buf variant.fields.types width = .ok (values, after) ∧
            encodeFields variant.fields.types values = .ok inside) ↔
            ∃ taken, (variant.payload ident).reading (buf.drop width) = some (inside, taken) ∧
              after = width + taken :=
          payload_reading_iff variantLawful variantDescribed within
        constructor
        · rintro ⟨choice, decoded, encoded⟩
          simp only [bind_eq_ok, pure_eq_ok] at decoded
          obtain ⟨⟨values, cursor⟩, read, same⟩ := decoded
          cases same
          rw [variant.decodeFields_eq within] at read
          simp only [encodeArms, bind_eq_ok, pure_eq_ok] at encoded
          obtain ⟨inside, written, rfl⟩ := encoded
          obtain ⟨taken, payloadRead, rfl⟩ := payload.mp ⟨values, read, written⟩
          exact ⟨inside, taken, payloadRead, rfl, by rw [matched]⟩
        · rintro ⟨inside, taken, read, rfl, rfl⟩
          obtain ⟨values, decoded, written⟩ := payload.mpr ⟨taken, read, rfl⟩
          refine ⟨.inl values, ?_, ?_⟩
          · rw [variant.decodeFields_eq within, decoded]
            rfl
          · simp only [encodeArms, bind_eq_ok, pure_eq_ok]
            exact ⟨inside, written, by rw [matched]⟩
      · rename_i other
        refine Iff.trans ?_ (ih lawful described)
        constructor
        · rintro ⟨choice, decoded, encoded⟩
          simp only [bind_eq_ok, pure_eq_ok] at decoded
          obtain ⟨⟨behind, cursor⟩, read, same⟩ := decoded
          cases same
          exact ⟨behind, read, encoded⟩
        · rintro ⟨behind, read, encoded⟩
          refine ⟨.inr behind, ?_, encoded⟩
          rw [read]
          rfl

/-- An enum reads the format of its descriptor. -/
theorem enumReading_iff {ident : String} {variants : List (Variant PardosaType)}
    (lawful : ∀ variant ∈ variants, ∀ type ∈ variant.fields.types, type.codec.Lawful)
    (described : ∀ variant ∈ variants, ∀ type ∈ variant.fields.types, type.Described)
    {buf bytes : Bytes} {after : Nat} :
    (∃ choice, decodeEnum buf (discriminantWidth variants).toNat variants = .ok (choice, after) ∧
      encodeArms (discriminantWidth variants).toNat variants choice = .ok bytes) ↔
    (DescriptorNode.enum ident (discriminantWidth variants)
      (variantDescriptors ident variants)).reading buf = some (bytes, after) := by
  rw [DescriptorNode.reading]
  split
  · rename_i short
    refine ⟨?_, nofun⟩
    rintro ⟨choice, decoded, -⟩
    exact absurd short (Nat.not_lt.mpr (decodeEnum_eq_ok.mp decoded).1)
  · rename_i enough
    have within := Nat.not_lt.mp enough
    have sized : (buf.take (discriminantWidth variants).toNat).length =
        (discriminantWidth variants).toNat := by
      rw [List.length_take, Nat.min_eq_left within]
    simp only [decodeEnum_eq_ok, and_iff_right within]
    refine (armsReading_iff ident lawful described within).trans ?_
    rw [Option.map_eq_some_iff, leBytes_leValue_of_length sized]
    constructor
    · rintro ⟨inside, taken, read, rfl, rfl⟩
      exact ⟨(inside, taken), read, by rw [prefixed, sized]⟩
    · rintro ⟨⟨inside, taken⟩, read, same⟩
      cases same
      exact ⟨inside, taken, read, by rw [sized], rfl⟩

/-- An enumeration is described when its payloads are. -/
theorem enum_described {ident : String} {variants : List (Variant PardosaType)}
    (lawful : ∀ variant ∈ variants, ∀ type ∈ variant.fields.types, type.codec.Lawful)
    (described : ∀ variant ∈ variants, ∀ type ∈ variant.fields.types, type.Described) :
    (expandPardosaTypeEnum ident variants).Described :=
  PardosaType.described_iff.mpr (enumReading_iff lawful described)

/-- The codec of every type in the language has the format that its descriptor denotes. -/
theorem TypeLanguage.described {floats : Prop} {type : PardosaType}
    (inLanguage : TypeLanguage floats type) : type.Described := by
  induction inLanguage with
  | u8 | u16 | u32 | u64 | i8 | i16 | i32 | i64 | bool | timestamp | uuid => exact fun _ => rfl
  | orderedF32 _ | orderedF64 _ => exact fun _ => rfl
  | eventString fits | nonEmptyEventString fits | eventBytes fits =>
      intro buf
      refine Eq.trans ?_ (DescriptorNode.reading.eq_def _ _).symm
      change _ = Codec.reading _ buf
      rw [toNat_boundField fits]
  | eventF32 _ | eventF64 _ => exact PardosaType.eventFloat_described (fun _ => rfl) _
  | option within ih => exact PardosaType.option_described within.lawful ih
  | eventVec within fits ih => exact PardosaType.eventVec_described fits within.lawful ih
  | struct within ih => exact struct_described (fun type mem => (within type mem).lawful) ih
  | enum _ within ih =>
      exact enum_described (fun variant mem type typeMem =>
        (within variant mem type typeMem).lawful)
        ih

/-- Types with one descriptor read and write the same bytes. -/
theorem PardosaType.same_wire_of_same_descriptor {first second : PardosaType}
    (firstLawful : first.codec.Lawful) (secondLawful : second.codec.Lawful)
    (firstDescribed : first.Described) (secondDescribed : second.Described)
    (same : first.descriptorNode = second.descriptorNode) :
    (∀ buf consumed, (∃ value, first.decodeType buf = .ok (value, consumed)) ↔
      ∃ value, second.decodeType buf = .ok (value, consumed)) ∧
    ∀ bytes, (∃ value, first.encodeType value = .ok bytes) ↔
      ∃ value, second.encodeType value = .ok bytes := by
  have reading (buf : Bytes) : first.codec.reading buf = second.codec.reading buf := by
    rw [firstDescribed buf, secondDescribed buf, same]
  constructor
  · intro buf consumed
    refine firstLawful.reads_iff.trans ?_
    rw [reading]
    exact secondLawful.reads_iff.symm
  · intro bytes
    refine firstLawful.writes_iff.trans ?_
    rw [reading]
    exact secondLawful.writes_iff.symm

namespace SchemaExpr

/-- A root accepts what its descriptor reads off as a whole. -/
theorem accepts_iff {root : SchemaExpr} (accepted : root.Accepted) {buf : Bytes} :
    (∃ value, root.expand.decodePayload buf = .ok value) ↔
      ∃ bytes, root.expand.schemaDescriptor.reading buf = some (bytes, buf.length) := by
  have lawful := lawful accepted
  have described : ∀ variant ∈ TypeExpr.expandVariants root.variants,
      ∀ type ∈ variant.fields.types, type.Described := by
    intro variant mem type typeMem
    have inLanguage : TypeLanguage True type :=
      TypeExpr.typeLanguage_expandVariants root.variants accepted.2 (.inl trivial) variant mem type
        typeMem
    exact inLanguage.described
  constructor
  · rintro ⟨value, decoded⟩
    obtain ⟨bytes, encoded⟩ := exists_encodeArms lawful value
    exact ⟨bytes, (enumReading_iff lawful described).mp
      ⟨value, decodePayload_eq_ok.mp decoded, encoded⟩⟩
  · rintro ⟨bytes, read⟩
    obtain ⟨value, decoded, -⟩ := (enumReading_iff lawful described).mpr read
    exact ⟨value, decodePayload_eq_ok.mpr decoded⟩

end SchemaExpr

section Identity

variable [Digests]

/-- The canonical descriptors of two roots do not collide under the hash. -/
def CollisionFree (first second : PardosaSchema) : Prop :=
  ∀ bytes others, first.schemaDescriptor.encode = .ok bytes →
    second.schemaDescriptor.encode = .ok others →
    blake3 (writeU32 first.schemaVersion ++ bytes) =
      blake3 (writeU32 second.schemaVersion ++ others) →
    writeU32 first.schemaVersion ++ bytes = writeU32 second.schemaVersion ++ others

/-- Roots with one identity have one version and one descriptor. -/
theorem descriptor_eq_of_schemaIdentity {first second : PardosaSchema} {identity : Hash}
    (collisionFree : CollisionFree first second)
    (firstIdentity : first.schemaIdentity = .ok identity)
    (secondIdentity : second.schemaIdentity = .ok identity) :
    first.schemaVersion = second.schemaVersion ∧
      first.schemaDescriptor = second.schemaDescriptor := by
  simp only [PardosaSchema.schemaIdentity, bind_eq_ok, pure_eq_ok] at firstIdentity secondIdentity
  obtain ⟨admitted, admits, rfl⟩ := firstIdentity
  obtain ⟨other, otherAdmits, same⟩ := secondIdentity
  have preimages : admitted.identityPreimage = other.identityPreimage := by
    obtain ⟨bytes, encoded, -, rfl⟩ := AdmittedDescriptor.eq_of_admits admits
    obtain ⟨others, otherEncoded, -, rfl⟩ := AdmittedDescriptor.eq_of_admits otherAdmits
    exact collisionFree bytes others encoded otherEncoded same.symm
  have descriptors := (AdmittedDescriptor.identityPreimage_inj admits otherAdmits).mp preimages
  exact ⟨congrArg SchemaDescriptor.version descriptors, congrArg SchemaDescriptor.root descriptors⟩

/-- The descriptor determines the wire format. Two types with one descriptor read every buffer
alike, with the same length, and write the same byte strings; two roots with one identity,
whose canonical descriptors do not collide, accept the same payloads. -/
theorem descriptor_determines_wire_format :
    (∀ first second : TypeExpr, first.Accepted → second.Accepted →
      first.expand.descriptorNode = second.expand.descriptorNode →
      (∀ buf consumed, (∃ value, first.expand.decodeType buf = .ok (value, consumed)) ↔
        ∃ value, second.expand.decodeType buf = .ok (value, consumed)) ∧
      ∀ bytes, (∃ value, first.expand.encodeType value = .ok bytes) ↔
        ∃ value, second.expand.encodeType value = .ok bytes) ∧
    ∀ first second : SchemaExpr, first.Accepted → second.Accepted →
      CollisionFree first.expand second.expand →
      ∀ identity, first.expand.schemaIdentity = .ok identity →
        second.expand.schemaIdentity = .ok identity →
      ∀ buf, (∃ value, first.expand.decodePayload buf = .ok value) ↔
        ∃ value, second.expand.decodePayload buf = .ok value := by
  constructor
  · intro first second firstAccepted secondAccepted same
    have firstIn : TypeLanguage True first.expand :=
      first.typeLanguage_expand firstAccepted (.inl trivial)
    have secondIn : TypeLanguage True second.expand :=
      second.typeLanguage_expand secondAccepted (.inl trivial)
    exact PardosaType.same_wire_of_same_descriptor firstIn.lawful secondIn.lawful
      firstIn.described secondIn.described same
  · intro first second firstAccepted secondAccepted collisionFree identity firstIdentity
      secondIdentity buf
    obtain ⟨-, same⟩ :=
      descriptor_eq_of_schemaIdentity collisionFree firstIdentity secondIdentity
    rw [SchemaExpr.accepts_iff firstAccepted, SchemaExpr.accepts_iff secondAccepted, same]

end Identity

section Example

attribute [local instance] standardDigests

/-- An event whose payload is written in the variant. -/
def inlineEvent : SchemaExpr :=
  ⟨"E", 1, [⟨"T", 0, true, .unit⟩, ⟨"V", 1, false, .named [("by", .u8)]⟩]⟩

/-- The same event over a struct that is named like the variant. -/
def wrappedEvent : SchemaExpr :=
  ⟨"E", 1, [⟨"T", 0, true, .unit⟩,
    ⟨"V", 1, false, .unnamed [.struct "E_V" (.named [("by", .u8)])]⟩]⟩

/-- A payload that is written inline and one that is wrapped share a descriptor, and read
the same bytes. -/
theorem descriptor_determines_wire_format_wrapped :
    ((∃ value, (TypeExpr.enum "E" inlineEvent.variants).expand.encodeType value = .ok [1, 7]) ↔
      ∃ value, (TypeExpr.enum "E" wrappedEvent.variants).expand.encodeType value = .ok [1, 7]) ∧
    ((∃ value, inlineEvent.expand.decodePayload [1, 7] = .ok value) ↔
      ∃ value, wrappedEvent.expand.decodePayload [1, 7] = .ok value) := by
  have inlineAccepted : TypeExpr.VariantsAccepted inlineEvent.variants :=
    ⟨trivial, ⟨trivial, trivial⟩, trivial⟩
  have wrappedAccepted : TypeExpr.VariantsAccepted wrappedEvent.variants :=
    ⟨trivial, ⟨⟨trivial, trivial⟩, trivial⟩, trivial⟩
  have collisionFree : CollisionFree inlineEvent.expand wrappedEvent.expand := by
    intro bytes others encoded otherEncoded _
    have same : inlineEvent.expand.schemaDescriptor = wrappedEvent.expand.schemaDescriptor := rfl
    rw [same, otherEncoded] at encoded
    cases encoded
    rfl
  obtain ⟨identity, computed⟩ : ∃ identity, inlineEvent.expand.schemaIdentity = .ok identity :=
    ⟨_, rfl⟩
  constructor
  · exact (descriptor_determines_wire_format.1 (.enum "E" inlineEvent.variants)
      (.enum "E" wrappedEvent.variants) ⟨rfl, inlineAccepted⟩ ⟨rfl, wrappedAccepted⟩ rfl).2 [1, 7]
  · exact descriptor_determines_wire_format.2 inlineEvent wrappedEvent ⟨rfl, inlineAccepted⟩
      ⟨rfl, wrappedAccepted⟩ collisionFree identity computed computed [1, 7]

end Example

end Pardosa
