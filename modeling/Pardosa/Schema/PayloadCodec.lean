import Pardosa.Schema.DerivedCodec
import Pardosa.Schema.TypeLanguage

/-!
# Payload codecs round-trip

The laws of the codecs at every type of the type language, by induction over the language, and
at every root of it.
-/

namespace Pardosa

open Foundation

universe u

namespace TypeLanguage

variable {floats : Prop} {type : PardosaType}

/-- Every type of the language round-trips. -/
theorem lawful (inLanguage : TypeLanguage floats type) : type.codec.Lawful := by
  induction inLanguage with
  | u8 => exact PardosaType.u8_laws.1
  | u16 => exact PardosaType.u16_laws.1
  | u32 => exact PardosaType.u32_laws.1
  | u64 => exact PardosaType.u64_laws.1
  | i8 => exact PardosaType.i8_laws.1
  | i16 => exact PardosaType.i16_laws.1
  | i32 => exact PardosaType.i32_laws.1
  | i64 => exact PardosaType.i64_laws.1
  | bool => exact PardosaType.bool_laws.1
  | timestamp => exact PardosaType.timestamp_laws.1
  | uuid => exact PardosaType.uuid_laws.1
  | eventString fits => exact (PardosaType.eventString_laws fits).1
  | nonEmptyEventString fits => exact (PardosaType.nonEmptyEventString_laws fits).1
  | eventBytes fits => exact (PardosaType.eventBytes_laws fits).1
  | orderedF32 _ => exact PardosaType.orderedFloat_lawful _
  | orderedF64 _ => exact PardosaType.orderedFloat_lawful _
  | eventF32 _ => exact PardosaType.eventFloat_lawful (PardosaType.orderedFloat_lawful _) _
  | eventF64 _ => exact PardosaType.eventFloat_lawful (PardosaType.orderedFloat_lawful _) _
  | option _ ih => exact PardosaType.option_lawful ih
  | eventVec _ fits ih => exact PardosaType.eventVec_lawful fits ih
  | struct _ ih => exact struct_lawful ih
  | enum checked _ ih => exact enum_lawful ih checked

/-- Every value of the language is within its bounds. -/
theorem inBounds (inLanguage : TypeLanguage floats type) (value : type.Value) :
    type.InBounds value := by
  induction inLanguage with
  | u8 => exact UInt8.toNat_lt value
  | u16 => exact UInt16.toNat_lt value
  | u32 => exact UInt32.toNat_lt value
  | u64 => exact UInt64.toNat_lt value
  | i8 => exact UInt8.toNat_lt _
  | i16 => exact UInt16.toNat_lt _
  | i32 => exact UInt32.toNat_lt _
  | i64 => exact UInt64.toNat_lt _
  | bool => trivial
  | timestamp => exact Timestamp.nonZero value
  | uuid => exact Subtype.property value
  | eventString _ => exact EventString.bounded value
  | nonEmptyEventString _ => exact ⟨NonEmptyEventString.nonEmpty value, value.bounded⟩
  | eventBytes _ => exact EventBytes.bounded value
  | orderedF32 _ | orderedF64 _ => exact ⟨OrderedFloat.real value, value.normalized⟩
  | eventF32 _ | eventF64 _ =>
      cases value with
      | finite value => exact ⟨OrderedFloat.real value, value.normalized⟩
      | nan | negInf | posInf => trivial
  | option _ ih => exact fun inside _ => ih inside
  | eventVec _ _ ih => exact ⟨EventVec.bounded value, fun item _ => ih item⟩
  | struct _ ih => exact fieldsInBounds ih value
  | enum _ _ ih => exact choiceInBounds ih value

/-- Without event floats, every type of the language has one encoding for each value. -/
theorem canonical (inLanguage : TypeLanguage False type) : type.codec.Canonical := by
  induction inLanguage with
  | u8 => exact PardosaType.u8_laws.2
  | u16 => exact PardosaType.u16_laws.2
  | u32 => exact PardosaType.u32_laws.2
  | u64 => exact PardosaType.u64_laws.2
  | i8 => exact PardosaType.i8_laws.2
  | i16 => exact PardosaType.i16_laws.2
  | i32 => exact PardosaType.i32_laws.2
  | i64 => exact PardosaType.i64_laws.2
  | bool => exact PardosaType.bool_laws.2
  | timestamp => exact PardosaType.timestamp_laws.2
  | uuid => exact PardosaType.uuid_laws.2
  | eventString fits => exact (PardosaType.eventString_laws fits).2
  | nonEmptyEventString fits => exact (PardosaType.nonEmptyEventString_laws fits).2
  | eventBytes fits => exact (PardosaType.eventBytes_laws fits).2
  | option _ ih => exact PardosaType.option_canonical ih
  | eventVec within fits ih => exact PardosaType.eventVec_canonical fits within.lawful ih
  | struct within ih => exact struct_canonical (fun type mem => (within type mem).lawful) ih
  | enum _ within ih =>
      exact enum_canonical (fun variant mem type typeMem =>
        (within variant mem type typeMem).lawful)
        ih
  | orderedF32 impossible | orderedF64 impossible | eventF32 impossible | eventF64 impossible =>
      exact impossible.elim

end TypeLanguage

/-- A root reads a payload when its enum covers the whole buffer. -/
theorem decodePayload_eq_ok {ident : String} {schemaVersion : UInt32}
    {variants : List (Variant PardosaType)} {buf : Bytes} {choice : Choice variants} :
    (expandPardosaSchema ident schemaVersion variants).decodePayload buf = .ok choice ↔
      decodeEnum buf (discriminantWidth variants).toNat variants = .ok (choice, buf.length) := by
  simp only [expandPardosaSchema, bind_eq_ok, throwIf_eq_ok, pure_eq_ok]
  constructor
  · rintro ⟨⟨choice, cursor⟩, decoded, covers, rfl⟩
    have whole : cursor = buf.length := not_not.mp covers
    rw [decoded, whole]
  · intro decoded
    exact ⟨(choice, buf.length), decoded, not_not.mpr rfl, rfl⟩

namespace SchemaExpr

variable {root : SchemaExpr}

/-- The payloads of an accepted root round-trip. -/
theorem lawful (accepted : root.Accepted) :
    ∀ variant ∈ TypeExpr.expandVariants root.variants, ∀ type ∈ variant.fields.types,
      type.codec.Lawful := by
  intro variant mem type typeMem
  have inLanguage : TypeLanguage True type :=
    TypeExpr.typeLanguage_expandVariants root.variants accepted.2 (.inl trivial) variant mem type
      typeMem
  exact inLanguage.lawful

/-- The payloads of an accepted root without event floats have one encoding for each value.
-/
theorem canonical (accepted : root.Accepted) (free : root.FloatFree) :
    ∀ variant ∈ TypeExpr.expandVariants root.variants, ∀ type ∈ variant.fields.types,
      type.codec.Canonical := by
  intro variant mem type typeMem
  have inLanguage : TypeLanguage False type :=
    TypeExpr.typeLanguage_expandVariants root.variants accepted.2 (.inr free) variant mem type
      typeMem
  exact @inLanguage.canonical

end SchemaExpr

/-- Payload value codecs round-trip and stay in bounds. At every accepted type a value is
within its bounds, and is written and read back in front of any suffix; whatever is read ends
within its buffer and reads back, and without floats it was read from the bytes that are
written for it. A root writes and reads whole payloads in the same way. -/
theorem payload_codecs_round_trip :
    (∀ written : TypeExpr, written.Accepted →
      (∀ value, written.expand.InBounds value ∧
        ∃ bytes, written.expand.encodeType value = .ok bytes ∧ ∀ suffix,
          written.expand.decodeType (bytes ++ suffix) = .ok (value, bytes.length)) ∧
      ∀ buf value consumed, written.expand.decodeType buf = .ok (value, consumed) →
        consumed ≤ buf.length ∧ written.expand.InBounds value ∧
        (written.FloatFree → written.expand.encodeType value = .ok (buf.take consumed)) ∧
        ∃ bytes, written.expand.encodeType value = .ok bytes ∧
          written.expand.decodeType bytes = .ok (value, bytes.length)) ∧
    ∀ root : SchemaExpr, root.Accepted →
      (∀ value, ∃ bytes, root.expand.encodePayload value = .ok bytes ∧
        root.expand.decodePayload bytes = .ok value) ∧
      (root.FloatFree → ∀ buf value, root.expand.decodePayload buf = .ok value →
        root.expand.encodePayload value = .ok buf) := by
  refine ⟨fun written accepted => ?_, fun root accepted => ⟨fun value => ?_, ?_⟩⟩
  · have inLanguage : TypeLanguage True written.expand :=
      written.typeLanguage_expand accepted (.inl trivial)
    have readBack (value : written.expand.Value) : ∃ bytes,
        written.expand.encodeType value = .ok bytes ∧ ∀ suffix,
          written.expand.decodeType (bytes ++ suffix) = .ok (value, bytes.length) := by
      obtain ⟨bytes, encoded⟩ := inLanguage.lawful.written value
      exact ⟨bytes, encoded, inLanguage.lawful.readBack encoded⟩
    refine ⟨fun value => ⟨inLanguage.inBounds value, readBack value⟩, ?_⟩
    intro buf value consumed decoded
    refine ⟨inLanguage.lawful.within decoded, inLanguage.inBounds value, fun free => ?_, ?_⟩
    · exact (written.typeLanguage_expand accepted (.inr free)).canonical decoded
    · obtain ⟨bytes, encoded, decodes⟩ := readBack value
      exact ⟨bytes, encoded, by simpa using decodes []⟩
  · obtain ⟨bytes, encoded⟩ := exists_encodeArms (SchemaExpr.lawful accepted) value
    have decoded := decodeEnum_of_encodeArms (SchemaExpr.lawful accepted)
      (SchemaExpr.checkVariants_of_accepted accepted) encoded []
    rw [List.append_nil] at decoded
    exact ⟨bytes, encoded, decodePayload_eq_ok.mpr decoded⟩
  · intro free buf value decoded
    have encoded := encodeArms_of_decodeEnum (SchemaExpr.lawful accepted)
      (SchemaExpr.canonical accepted free) (decodePayload_eq_ok.mp decoded)
    rwa [List.take_length] at encoded

/-- An event with a tombstone and a wide discriminant. -/
def wideEvent : SchemaExpr :=
  ⟨"Event", 1, [⟨"Tombstone", 0, true, .unit⟩, ⟨"Made", 300, false, .named [("by", .option .u8)]⟩]⟩

/-- The event that was made by number seven. -/
def madeBySeven : wideEvent.expand.Value :=
  .inr (.inl (show Option UInt8 × Unit from (some 7, ())))

/-- An enumeration with a wide discriminant round-trips, as a type and as a root. -/
theorem payload_codecs_round_trip_wide :
    (∃ bytes, (TypeExpr.enum "Event" wideEvent.variants).expand.encodeType madeBySeven =
        .ok bytes ∧ ∀ suffix,
      (TypeExpr.enum "Event" wideEvent.variants).expand.decodeType (bytes ++ suffix) =
        .ok (madeBySeven, bytes.length)) ∧
    ∃ bytes, wideEvent.expand.encodePayload madeBySeven = .ok bytes ∧
      wideEvent.expand.decodePayload bytes = .ok madeBySeven := by
  have accepted : TypeExpr.VariantsAccepted wideEvent.variants :=
    ⟨trivial, ⟨trivial, trivial⟩, trivial⟩
  constructor
  · exact ((payload_codecs_round_trip.1 (.enum "Event" wideEvent.variants) ⟨rfl, accepted⟩).1
      madeBySeven).2
  · exact (payload_codecs_round_trip.2 wideEvent ⟨rfl, accepted⟩).1 madeBySeven

end Pardosa
