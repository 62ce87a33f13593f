import Pardosa.Schema.Derive
import Pardosa.Schema.ShippedCodec

/-!
# Laws of the derived codecs

What the derive macros generate is lawful, and reads only what it would write, when the types
of all fields do. Fields are read one behind the other, and a choice by the discriminant in
front of it, which the checks of the macros make unambiguous.
-/

namespace Pardosa

open Foundation Codec

universe u

/-- The fields of a list of types, encoded, are read where their bytes stand. -/
theorem decodeFields_of_stands {types : List PardosaType}
    (lawful : ∀ type ∈ types, type.codec.Lawful) {values : Tuple types} {buf bytes : Bytes}
    {cursor after : Nat} (within : cursor ≤ buf.length)
    (encoded : encodeFields types values = .ok bytes) (stands : Stands buf cursor bytes after) :
    decodeFields buf types cursor = .ok (values, after) := by
  induction types generalizing bytes cursor with
  | nil =>
      cases encoded
      obtain rfl := stands.length
      rfl
  | cons type types ih =>
      obtain ⟨typeLawful, lawful⟩ := List.forall_mem_cons.mp lawful
      obtain ⟨value, values⟩ := values
      simp only [encodeFields, bind_eq_ok, pure_eq_ok] at encoded
      obtain ⟨first, firstEncoded, others, othersEncoded, rfl⟩ := encoded
      obtain ⟨firstAt, othersAt⟩ := stands.split _ rfl
      have read : type.decodeType (buf.drop cursor) = .ok (value, first.length) :=
        typeLawful.decode_of_stands firstEncoded firstAt
      have next := firstAt.le_length within
      simp only [decodeFields, read, ok_bind, checkedAdvance_eq_ok.mpr ⟨rfl, next⟩,
        ih lawful next othersEncoded othersAt]
      rfl

/-- The cursor stays within the buffer as fields are read. -/
theorem within_of_decodeFields {types : List PardosaType} {values : Tuple types} {buf : Bytes}
    {cursor after : Nat} (within : cursor ≤ buf.length)
    (decoded : decodeFields buf types cursor = .ok (values, after)) : after ≤ buf.length := by
  induction types generalizing cursor with
  | nil =>
      cases decoded
      exact within
  | cons type types ih =>
      simp only [decodeFields, bind_eq_ok, pure_eq_ok, checkedAdvance_eq_ok] at decoded
      obtain ⟨⟨value, consumed⟩, -, next, ⟨rfl, nextWithin⟩, ⟨others, final⟩, othersRead, same⟩ :=
        decoded
      cases same
      exact ih nextWithin othersRead

/-- The bytes of fields that are read are those that stand where they are read. -/
theorem stands_of_decodeFields {types : List PardosaType}
    (lawful : ∀ type ∈ types, type.codec.Lawful) (canonical : ∀ type ∈ types, type.codec.Canonical)
    {values : Tuple types} {buf : Bytes} {cursor after : Nat}
    (decoded : decodeFields buf types cursor = .ok (values, after)) :
    ∃ bytes, encodeFields types values = .ok bytes ∧ Stands buf cursor bytes after := by
  induction types generalizing cursor with
  | nil =>
      cases decoded
      exact ⟨[], rfl, .nil buf _⟩
  | cons type types ih =>
      obtain ⟨typeLawful, lawful⟩ := List.forall_mem_cons.mp lawful
      obtain ⟨typeCanonical, canonical⟩ := List.forall_mem_cons.mp canonical
      simp only [decodeFields, bind_eq_ok, pure_eq_ok, checkedAdvance_eq_ok] at decoded
      obtain ⟨⟨value, consumed⟩, read, next, ⟨rfl, -⟩, ⟨others, final⟩, othersRead, same⟩ := decoded
      cases same
      obtain ⟨first, firstEncoded, firstAt⟩ := typeCanonical.stands_of_decode typeLawful read
      obtain ⟨bytes, encoded, othersAt⟩ := ih lawful canonical othersRead
      refine ⟨first ++ bytes, ?_, firstAt.append othersAt⟩
      simp only [encodeFields, bind_eq_ok, pure_eq_ok]
      exact ⟨first, firstEncoded, bytes, encoded, rfl⟩

/-- Fields of lawful types can always be written. -/
theorem exists_encodeFields {types : List PardosaType}
    (lawful : ∀ type ∈ types, type.codec.Lawful) (values : Tuple types) :
    ∃ bytes, encodeFields types values = .ok bytes := by
  induction types with
  | nil => exact ⟨[], rfl⟩
  | cons type types ih =>
      obtain ⟨typeLawful, lawful⟩ := List.forall_mem_cons.mp lawful
      obtain ⟨value, values⟩ := values
      obtain ⟨first, firstEncoded⟩ := typeLawful.written value
      obtain ⟨others, encoded⟩ := ih lawful values
      refine ⟨first ++ others, ?_⟩
      simp only [encodeFields, bind_eq_ok, pure_eq_ok]
      exact ⟨first, firstEncoded, others, encoded, rfl⟩

/-- Fields are within their bounds where each of their types sees to it. -/
theorem fieldsInBounds {types : List PardosaType}
    (inBounds : ∀ type ∈ types, ∀ value, type.InBounds value) (values : Tuple types) :
    FieldsInBounds types values := by
  induction types with
  | nil => trivial
  | cons type types ih =>
      obtain ⟨typeInBounds, inBounds⟩ := List.forall_mem_cons.mp inBounds
      exact ⟨typeInBounds values.1, ih inBounds values.2⟩

section Struct

variable {ident : String} {fields : Fields PardosaType}

/-- A struct round-trips when its fields do. -/
theorem struct_lawful (lawful : ∀ type ∈ fields.types, type.codec.Lawful) :
    (expandPardosaTypeStruct ident fields).codec.Lawful where
  written values := exists_encodeFields lawful values
  readBack encoded suffix :=
    decodeFields_of_stands lawful (Nat.zero_le _) encoded (.start _ suffix)
  within decoded := within_of_decodeFields (Nat.zero_le _) decoded

/-- A struct has one encoding for each value when its fields do. -/
theorem struct_canonical (lawful : ∀ type ∈ fields.types, type.codec.Lawful)
    (canonical : ∀ type ∈ fields.types, type.codec.Canonical) :
    (expandPardosaTypeStruct ident fields).codec.Canonical := by
  intro buf values consumed decoded
  obtain ⟨bytes, encoded, stands⟩ := stands_of_decodeFields lawful canonical decoded
  rw [stands.take_eq]
  exact encoded

end Struct

/-- Behind a discriminant, the fields of a variant are read like those of a struct. -/
theorem Variant.decodeFields_eq {buf : Bytes} {width : Nat} (variant : Variant PardosaType)
    (within : width ≤ buf.length) :
    variant.decodeFields buf width = Pardosa.decodeFields buf variant.fields.types width := by
  obtain ⟨ident, discriminant, tombstone, fields⟩ := variant
  cases fields with
  | unit => rfl
  | named members => exact if_neg (Nat.not_lt.mpr within)
  | unnamed types => exact if_neg (Nat.not_lt.mpr within)

section Arms

variable {width : Nat} {variants : List (Variant PardosaType)}

/-- A choice is written as the discriminant of its variant and its fields, and the arm of that
variant reads it. -/
theorem decodeArms_of_encodeArms
    (lawful : ∀ variant ∈ variants, ∀ type ∈ variant.fields.types, type.codec.Lawful)
    (distinct : (variants.map Variant.discriminant).Nodup) {choice : Choice variants}
    {bytes : Bytes} (encoded : encodeArms width variants choice = .ok bytes) :
    ∃ discriminant fields, discriminant ∈ variants.map Variant.discriminant ∧
      bytes = leBytes width discriminant.toNat ++ fields ∧
      ∀ {buf after}, width ≤ buf.length → Stands buf width fields after →
        decodeArms buf width discriminant.toNat variants = .ok (choice, after) := by
  induction variants generalizing bytes with
  | nil => cases choice
  | cons variant variants ih =>
      obtain ⟨variantLawful, lawful⟩ := List.forall_mem_cons.mp lawful
      obtain ⟨fresh, distinct⟩ := List.nodup_cons.mp distinct
      cases choice with
      | inl values =>
          simp only [encodeArms, bind_eq_ok, pure_eq_ok] at encoded
          obtain ⟨fields, fieldsEncoded, rfl⟩ := encoded
          refine ⟨variant.discriminant, fields, by simp, rfl, fun within stands => ?_⟩
          rw [decodeArms, if_pos rfl, variant.decodeFields_eq within,
            decodeFields_of_stands variantLawful within fieldsEncoded stands]
          rfl
      | inr choice =>
          obtain ⟨discriminant, fields, mem, rfl, reads⟩ := ih lawful distinct encoded
          refine ⟨discriminant, fields, by simp [mem], rfl, fun within stands => ?_⟩
          have other : discriminant.toNat ≠ variant.discriminant.toNat :=
            fun same => fresh (UInt32.toNat_inj.mp same ▸ mem)
          rw [decodeArms, if_neg other, reads within stands]
          rfl

/-- The chosen variant of lawful payloads can always be written. -/
theorem exists_encodeArms
    (lawful : ∀ variant ∈ variants, ∀ type ∈ variant.fields.types, type.codec.Lawful)
    (choice : Choice variants) : ∃ bytes, encodeArms width variants choice = .ok bytes := by
  induction variants with
  | nil => cases choice
  | cons variant variants ih =>
      obtain ⟨variantLawful, lawful⟩ := List.forall_mem_cons.mp lawful
      cases choice with
      | inl values =>
          obtain ⟨fields, encoded⟩ := exists_encodeFields variantLawful values
          refine ⟨leBytes width variant.discriminant.toNat ++ fields, ?_⟩
          simp only [encodeArms, bind_eq_ok, pure_eq_ok]
          exact ⟨fields, encoded, rfl⟩
      | inr choice => exact ih lawful choice

/-- The cursor stays within the buffer as a variant is read. -/
theorem within_of_decodeArms {buf : Bytes} {disc after : Nat} {choice : Choice variants}
    (within : width ≤ buf.length)
    (decoded : decodeArms buf width disc variants = .ok (choice, after)) :
    after ≤ buf.length := by
  induction variants with
  | nil => cases decoded
  | cons variant variants ih =>
      rw [decodeArms] at decoded
      split at decoded
      · simp only [bind_eq_ok, pure_eq_ok] at decoded
        obtain ⟨⟨values, cursor⟩, read, same⟩ := decoded
        cases same
        rw [variant.decodeFields_eq within] at read
        exact within_of_decodeFields within read
      · simp only [bind_eq_ok, pure_eq_ok] at decoded
        obtain ⟨⟨choice, cursor⟩, read, same⟩ := decoded
        cases same
        exact ih read

/-- The bytes of a choice that is read are its discriminant and what stands behind it. -/
theorem stands_of_decodeArms
    (lawful : ∀ variant ∈ variants, ∀ type ∈ variant.fields.types, type.codec.Lawful)
    (canonical : ∀ variant ∈ variants, ∀ type ∈ variant.fields.types, type.codec.Canonical)
    {buf : Bytes} {disc after : Nat} {choice : Choice variants} (within : width ≤ buf.length)
    (decoded : decodeArms buf width disc variants = .ok (choice, after)) :
    ∃ fields, encodeArms width variants choice = .ok (leBytes width disc ++ fields) ∧
      Stands buf width fields after := by
  induction variants with
  | nil => cases decoded
  | cons variant variants ih =>
      obtain ⟨variantLawful, lawful⟩ := List.forall_mem_cons.mp lawful
      obtain ⟨variantCanonical, canonical⟩ := List.forall_mem_cons.mp canonical
      rw [decodeArms] at decoded
      split at decoded
      · rename_i matched
        simp only [bind_eq_ok, pure_eq_ok] at decoded
        obtain ⟨⟨values, cursor⟩, read, same⟩ := decoded
        cases same
        rw [variant.decodeFields_eq within] at read
        obtain ⟨fields, encoded, stands⟩ :=
          stands_of_decodeFields variantLawful variantCanonical read
        refine ⟨fields, ?_, stands⟩
        simp only [encodeArms, bind_eq_ok, pure_eq_ok]
        exact ⟨fields, encoded, by rw [matched]⟩
      · simp only [bind_eq_ok, pure_eq_ok] at decoded
        obtain ⟨⟨choice, cursor⟩, read, same⟩ := decoded
        cases same
        exact ih lawful canonical read

end Arms

/-- What the checks on discriminants establish. -/
theorem nodup_of_checkVariants {α : Type u} {seen : List UInt32} {variants : List (Variant α)}
    (checked : checkVariants seen variants = .ok ()) :
    (variants.map Variant.discriminant).Nodup ∧
      ∀ variant ∈ variants, variant.discriminant ∉ seen ∧ variant.discriminant ≤ 65535 := by
  induction variants generalizing seen with
  | nil => simp
  | cons variant variants ih =>
      simp only [checkVariants, throwIf_eq_ok, UInt32.not_lt] at checked
      obtain ⟨bounded, fresh, checked⟩ := checked
      obtain ⟨nodup, others⟩ := ih checked
      refine ⟨List.nodup_cons.mpr ⟨?_, nodup⟩, List.forall_mem_cons.mpr ⟨⟨fresh, bounded⟩, ?_⟩⟩
      · intro again
        obtain ⟨other, mem, same⟩ := List.mem_map.mp again
        exact (others other mem).1 (List.mem_cons.mpr (.inl same))
      · intro other mem
        exact ⟨fun seenBefore => (others other mem).1 (List.mem_cons_of_mem _ seenBefore),
          (others other mem).2⟩

/-- A discriminant fits the width of its enum. -/
theorem discriminant_fits {α : Type u} {variants : List (Variant α)}
    (checked : checkVariants [] variants = .ok ()) {discriminant : UInt32}
    (mem : discriminant ∈ variants.map Variant.discriminant) :
    discriminant.toNat < 256 ^ (discriminantWidth variants).toNat := by
  obtain ⟨variant, within, rfl⟩ := List.mem_map.mp mem
  have bounded : variant.discriminant.toNat ≤ 65535 :=
    UInt32.le_iff_toNat_le.mp ((nodup_of_checkVariants checked).2 variant within).2
  unfold discriminantWidth
  split
  · rename_i narrow
    exact Nat.lt_succ_of_le (maxDepth_le_iff.mp narrow _ (List.mem_map.mpr ⟨variant, within, rfl⟩))
  · exact Nat.lt_succ_of_le bounded

section Enum

variable {variants : List (Variant PardosaType)}

/-- A choice that is written is read back in front of any suffix. -/
theorem decodeEnum_of_encodeArms
    (lawful : ∀ variant ∈ variants, ∀ type ∈ variant.fields.types, type.codec.Lawful)
    (checked : checkVariants [] variants = .ok ()) {choice : Choice variants} {bytes : Bytes}
    (encoded : encodeArms (discriminantWidth variants).toNat variants choice = .ok bytes)
    (suffix : Bytes) :
    decodeEnum (bytes ++ suffix) (discriminantWidth variants).toNat variants =
      .ok (choice, bytes.length) := by
  obtain ⟨discriminant, fields, mem, rfl, reads⟩ :=
    decodeArms_of_encodeArms lawful (nodup_of_checkVariants checked).1 encoded
  generalize wide : (discriminantWidth variants).toNat = width at *
  have fits := discriminant_fits checked mem
  rw [wide] at fits
  have stands := Stands.start (leBytes width discriminant.toNat ++ fields) suffix
  obtain ⟨discAt, fieldsAt⟩ := stands.split width (by simp)
  have within := discAt.le_length (Nat.zero_le _)
  have read := discAt.take_eq
  unfold decodeEnum
  rw [throwIf_eq_ok]
  refine ⟨Nat.not_lt.mpr within, ?_⟩
  rw [read, leValue_leBytes_of_lt fits]
  exact reads within fieldsAt

/-- An enumeration is read by its discriminant and then by the variant that this names. -/
theorem decodeEnum_eq_ok {buf : Bytes} {width after : Nat} {choice : Choice variants} :
    decodeEnum buf width variants = .ok (choice, after) ↔
      width ≤ buf.length ∧
        decodeArms buf width (leValue (buf.take width)) variants = .ok (choice, after) := by
  rw [decodeEnum, throwIf_eq_ok, Nat.not_lt]

/-- The bytes of a choice that is read are those that begin the buffer. -/
theorem encodeArms_of_decodeEnum
    (lawful : ∀ variant ∈ variants, ∀ type ∈ variant.fields.types, type.codec.Lawful)
    (canonical : ∀ variant ∈ variants, ∀ type ∈ variant.fields.types, type.codec.Canonical)
    {buf : Bytes} {width after : Nat} {choice : Choice variants}
    (decoded : decodeEnum buf width variants = .ok (choice, after)) :
    encodeArms width variants choice = .ok (buf.take after) := by
  obtain ⟨within, decoded⟩ := decodeEnum_eq_ok.mp decoded
  obtain ⟨fields, encoded, fieldsAt⟩ := stands_of_decodeArms lawful canonical within decoded
  have sized : (buf.take width).length = width := by
    rw [List.length_take, Nat.min_eq_left within]
  rw [encoded, leBytes_leValue_of_length sized]
  have discAt : Stands buf 0 (buf.take width) width :=
    ⟨by rw [sized, Nat.zero_add], List.take_prefix _ _⟩
  rw [(discAt.append fieldsAt).take_eq]

/-- An enumeration round-trips when its payloads do and its discriminants are told apart. -/
theorem enum_lawful {ident : String}
    (lawful : ∀ variant ∈ variants, ∀ type ∈ variant.fields.types, type.codec.Lawful)
    (checked : checkVariants [] variants = .ok ()) :
    (expandPardosaTypeEnum ident variants).codec.Lawful where
  written choice := exists_encodeArms lawful choice
  readBack encoded suffix := decodeEnum_of_encodeArms lawful checked encoded suffix
  within decoded := by
    obtain ⟨within, decoded⟩ := decodeEnum_eq_ok.mp decoded
    exact within_of_decodeArms within decoded

/-- An enumeration has one encoding for each value when its payloads do. -/
theorem enum_canonical {ident : String}
    (lawful : ∀ variant ∈ variants, ∀ type ∈ variant.fields.types, type.codec.Lawful)
    (canonical : ∀ variant ∈ variants, ∀ type ∈ variant.fields.types, type.codec.Canonical) :
    (expandPardosaTypeEnum ident variants).codec.Canonical := by
  intro buf choice consumed decoded
  exact encodeArms_of_decodeEnum lawful canonical decoded

/-- The chosen variant is within bounds where its types see to it. -/
theorem choiceInBounds
    (inBounds : ∀ variant ∈ variants, ∀ type ∈ variant.fields.types, ∀ value, type.InBounds value)
    (choice : Choice variants) : ChoiceInBounds variants choice := by
  induction variants with
  | nil => cases choice
  | cons variant variants ih =>
      obtain ⟨variantInBounds, inBounds⟩ := List.forall_mem_cons.mp inBounds
      cases choice with
      | inl values => exact fieldsInBounds variantInBounds values
      | inr choice => exact ih inBounds choice

end Enum

end Pardosa
