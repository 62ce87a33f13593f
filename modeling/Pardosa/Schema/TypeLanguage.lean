import Pardosa.Schema.Derive

/-!
# The type language

The payload types that can be written: the shipped vocabulary, closed under options, bounded
collections and the structs and enums that the derive macros accept. A type is written as an
expression, which expands to its implementation; the implementations are closed in the same
way, which is the induction principle of everything that is proved about all types.
-/

namespace Pardosa

open Foundation

universe u

/-- A payload type as it is written. -/
inductive TypeExpr where
  | u8 | u16 | u32 | u64
  | i8 | i16 | i32 | i64
  | bool
  | timestamp
  | uuid
  | eventString (max : UInt32)
  | nonEmptyEventString (max : UInt32)
  | eventBytes (max : UInt32)
  | orderedF32
  | orderedF64
  | eventF32
  | eventF64
  | option (inner : TypeExpr)
  | eventVec (inner : TypeExpr) (max : UInt32)
  | struct (ident : String) (fields : Fields TypeExpr)
  | enum (ident : String) (variants : List (Variant TypeExpr))

namespace TypeExpr

mutual

/-- The implementation of a type. -/
def expand : TypeExpr → PardosaType
  | .u8 => .u8
  | .u16 => .u16
  | .u32 => .u32
  | .u64 => .u64
  | .i8 => .i8
  | .i16 => .i16
  | .i32 => .i32
  | .i64 => .i64
  | .bool => .bool
  | .timestamp => .timestamp
  | .uuid => .uuid
  | .eventString max => .eventString max.toNat
  | .nonEmptyEventString max => .nonEmptyEventString max.toNat
  | .eventBytes max => .eventBytes max.toNat
  | .orderedF32 => .orderedF32
  | .orderedF64 => .orderedF64
  | .eventF32 => .eventF32
  | .eventF64 => .eventF64
  | .option inner => .option inner.expand
  | .eventVec inner max => .eventVec inner.expand max.toNat
  | .struct ident fields => expandPardosaTypeStruct ident (expandFields fields)
  | .enum ident variants => expandPardosaTypeEnum ident (expandVariants variants)

def expandFields : Fields TypeExpr → Fields PardosaType
  | .unit => .unit
  | .named members => .named (expandMembers members)
  | .unnamed types => .unnamed (expandTypes types)

def expandMembers : List (String × TypeExpr) → List (String × PardosaType)
  | [] => []
  | (name, type) :: members => (name, type.expand) :: expandMembers members

def expandTypes : List TypeExpr → List PardosaType
  | [] => []
  | type :: types => type.expand :: expandTypes types

def expandVariants : List (Variant TypeExpr) → List (Variant PardosaType)
  | [] => []
  | ⟨ident, discriminant, tombstone, fields⟩ :: variants =>
      ⟨ident, discriminant, tombstone, expandFields fields⟩ :: expandVariants variants

end

mutual

/-- Whether the derive macros accept every enum that a type is made of. -/
def Accepted : TypeExpr → Prop
  | .option inner | .eventVec inner _ => inner.Accepted
  | .struct _ fields => FieldsAccepted fields
  | .enum _ variants => checkEnum variants = .ok () ∧ VariantsAccepted variants
  | _ => True

def FieldsAccepted : Fields TypeExpr → Prop
  | .unit => True
  | .named members => MembersAccepted members
  | .unnamed types => TypesAccepted types

def MembersAccepted : List (String × TypeExpr) → Prop
  | [] => True
  | (_, type) :: members => type.Accepted ∧ MembersAccepted members

def TypesAccepted : List TypeExpr → Prop
  | [] => True
  | type :: types => type.Accepted ∧ TypesAccepted types

def VariantsAccepted : List (Variant TypeExpr) → Prop
  | [] => True
  | ⟨_, _, _, fields⟩ :: variants => FieldsAccepted fields ∧ VariantsAccepted variants

end

mutual

/-- Whether a type contains no floating-point type. -/
def FloatFree : TypeExpr → Prop
  | .orderedF32 | .orderedF64 | .eventF32 | .eventF64 => False
  | .option inner | .eventVec inner _ => inner.FloatFree
  | .struct _ fields => FieldsFloatFree fields
  | .enum _ variants => VariantsFloatFree variants
  | _ => True

def FieldsFloatFree : Fields TypeExpr → Prop
  | .unit => True
  | .named members => MembersFloatFree members
  | .unnamed types => TypesFloatFree types

def MembersFloatFree : List (String × TypeExpr) → Prop
  | [] => True
  | (_, type) :: members => type.FloatFree ∧ MembersFloatFree members

def TypesFloatFree : List TypeExpr → Prop
  | [] => True
  | type :: types => type.FloatFree ∧ TypesFloatFree types

def VariantsFloatFree : List (Variant TypeExpr) → Prop
  | [] => True
  | ⟨_, _, _, fields⟩ :: variants => FieldsFloatFree fields ∧ VariantsFloatFree variants

end

end TypeExpr

/-- The implementations of the type language, with or without its floating-point types. -/
inductive TypeLanguage (floats : Prop) : PardosaType → Prop where
  | u8 : TypeLanguage floats .u8
  | u16 : TypeLanguage floats .u16
  | u32 : TypeLanguage floats .u32
  | u64 : TypeLanguage floats .u64
  | i8 : TypeLanguage floats .i8
  | i16 : TypeLanguage floats .i16
  | i32 : TypeLanguage floats .i32
  | i64 : TypeLanguage floats .i64
  | bool : TypeLanguage floats .bool
  | timestamp : TypeLanguage floats .timestamp
  | uuid : TypeLanguage floats .uuid
  | eventString {max : Nat} (fits : max ≤ u32Max) : TypeLanguage floats (.eventString max)
  | nonEmptyEventString {max : Nat} (fits : max ≤ u32Max) :
      TypeLanguage floats (.nonEmptyEventString max)
  | eventBytes {max : Nat} (fits : max ≤ u32Max) : TypeLanguage floats (.eventBytes max)
  | orderedF32 (permitted : floats) : TypeLanguage floats .orderedF32
  | orderedF64 (permitted : floats) : TypeLanguage floats .orderedF64
  | eventF32 (permitted : floats) : TypeLanguage floats .eventF32
  | eventF64 (permitted : floats) : TypeLanguage floats .eventF64
  | option {inner : PardosaType} (within : TypeLanguage floats inner) :
      TypeLanguage floats (.option inner)
  | eventVec {inner : PardosaType} {max : Nat} (within : TypeLanguage floats inner)
      (fits : max ≤ u32Max) : TypeLanguage floats (.eventVec inner max)
  | struct {ident : String} {fields : Fields PardosaType}
      (within : ∀ type ∈ fields.types, TypeLanguage floats type) :
      TypeLanguage floats (expandPardosaTypeStruct ident fields)
  | enum {ident : String} {variants : List (Variant PardosaType)}
      (checked : checkVariants [] variants = .ok ())
      (within : ∀ variant ∈ variants, ∀ type ∈ variant.fields.types, TypeLanguage floats type) :
      TypeLanguage floats (expandPardosaTypeEnum ident variants)

namespace TypeExpr

/-- The checks on an enum look at no field. -/
theorem checkVariants_expandVariants (seen : List UInt32) (variants : List (Variant TypeExpr)) :
    checkVariants seen (expandVariants variants) = checkVariants seen variants := by
  induction variants generalizing seen with
  | nil => rfl
  | cons variant variants ih =>
      obtain ⟨ident, discriminant, tombstone, fields⟩ := variant
      simp only [expandVariants, checkVariants, ih]

/-- An enumeration that passes the checks of the derive has told its discriminants apart. -/
theorem checkVariants_of_checkEnum {α : Type u} {variants : List (Variant α)}
    (checked : checkEnum variants = .ok ()) : checkVariants [] variants = .ok () := by
  cases variants with
  | nil => cases checked
  | cons variant variants => exact checked

mutual

/-- The implementation of an accepted type is in the language; one that contains no
floating-point type is in the language without them. -/
theorem typeLanguage_expand {floats : Prop} : (type : TypeExpr) → type.Accepted →
    floats ∨ type.FloatFree → TypeLanguage floats type.expand
  | .u8, _, _ => .u8
  | .u16, _, _ => .u16
  | .u32, _, _ => .u32
  | .u64, _, _ => .u64
  | .i8, _, _ => .i8
  | .i16, _, _ => .i16
  | .i32, _, _ => .i32
  | .i64, _, _ => .i64
  | .bool, _, _ => .bool
  | .timestamp, _, _ => .timestamp
  | .uuid, _, _ => .uuid
  | .eventString max, _, _ => .eventString (toNat_le_u32Max max)
  | .nonEmptyEventString max, _, _ => .nonEmptyEventString (toNat_le_u32Max max)
  | .eventBytes max, _, _ => .eventBytes (toNat_le_u32Max max)
  | .orderedF32, _, free => .orderedF32 (free.elim id False.elim)
  | .orderedF64, _, free => .orderedF64 (free.elim id False.elim)
  | .eventF32, _, free => .eventF32 (free.elim id False.elim)
  | .eventF64, _, free => .eventF64 (free.elim id False.elim)
  | .option inner, accepted, free => .option (typeLanguage_expand inner accepted free)
  | .eventVec inner max, accepted, free =>
      .eventVec (typeLanguage_expand inner accepted free) (toNat_le_u32Max max)
  | .struct _ fields, accepted, free => .struct (typeLanguage_expandFields fields accepted free)
  | .enum _ variants, accepted, free =>
      .enum ((checkVariants_expandVariants [] variants).trans
          (checkVariants_of_checkEnum accepted.1))
        (typeLanguage_expandVariants variants accepted.2 free)

/-- Accepted fields expand to types of the language. -/
theorem typeLanguage_expandFields {floats : Prop} : (fields : Fields TypeExpr) →
    FieldsAccepted fields → floats ∨ FieldsFloatFree fields →
    ∀ type ∈ (expandFields fields).types, TypeLanguage floats type
  | .unit, _, _ => nofun
  | .named members, accepted, free => typeLanguage_expandMembers members accepted free
  | .unnamed types, accepted, free => by
      rw [expandFields, Fields.types_unnamed]
      exact typeLanguage_expandTypes types accepted free

/-- Accepted named members expand to types of the language. -/
theorem typeLanguage_expandMembers {floats : Prop} : (members : List (String × TypeExpr)) →
    MembersAccepted members → floats ∨ MembersFloatFree members →
    ∀ type ∈ (expandMembers members).map Prod.snd, TypeLanguage floats type
  | [], _, _ => nofun
  | (_, type) :: members, accepted, free =>
      List.forall_mem_cons.mpr ⟨typeLanguage_expand type accepted.1 (free.imp_right And.left),
        typeLanguage_expandMembers members accepted.2 (free.imp_right And.right)⟩

/-- Accepted unnamed members expand to types of the language. -/
theorem typeLanguage_expandTypes {floats : Prop} : (types : List TypeExpr) →
    TypesAccepted types → floats ∨ TypesFloatFree types →
    ∀ type ∈ expandTypes types, TypeLanguage floats type
  | [], _, _ => nofun
  | type :: types, accepted, free =>
      List.forall_mem_cons.mpr ⟨typeLanguage_expand type accepted.1 (free.imp_right And.left),
        typeLanguage_expandTypes types accepted.2 (free.imp_right And.right)⟩

/-- Accepted variants expand to payloads of the language. -/
theorem typeLanguage_expandVariants {floats : Prop} : (variants : List (Variant TypeExpr)) →
    VariantsAccepted variants → floats ∨ VariantsFloatFree variants →
    ∀ variant ∈ expandVariants variants, ∀ type ∈ variant.fields.types, TypeLanguage floats type
  | [], _, _ => nofun
  | ⟨_, _, _, fields⟩ :: variants, accepted, free =>
      List.forall_mem_cons.mpr
        ⟨typeLanguage_expandFields fields accepted.1 (free.imp_right And.left),
          typeLanguage_expandVariants variants accepted.2 (free.imp_right And.right)⟩

end

end TypeExpr

/-- A root of event payloads as it is written. -/
structure SchemaExpr where
  ident : String
  schemaVersion : UInt32
  variants : List (Variant TypeExpr)

namespace SchemaExpr

/-- The implementation of a root. -/
def expand (root : SchemaExpr) : PardosaSchema :=
  expandPardosaSchema root.ident root.schemaVersion (TypeExpr.expandVariants root.variants)

/-- Whether the derive macros accept a root and the types it is made of. -/
def Accepted (root : SchemaExpr) : Prop :=
  checkSchema root.schemaVersion root.variants = .ok () ∧ TypeExpr.VariantsAccepted root.variants

/-- Whether a root contains no floating-point type. -/
def FloatFree (root : SchemaExpr) : Prop := TypeExpr.VariantsFloatFree root.variants

/-- An accepted root has told its discriminants apart. -/
theorem checkVariants_of_accepted {root : SchemaExpr} (accepted : root.Accepted) :
    checkVariants [] (TypeExpr.expandVariants root.variants) = .ok () := by
  have checked := accepted.1
  simp only [checkSchema, throwIf_eq_ok, bind_eq_ok] at checked
  obtain ⟨-, passed, checked, -⟩ := checked
  exact (TypeExpr.checkVariants_expandVariants [] root.variants).trans checked

end SchemaExpr

end Pardosa
