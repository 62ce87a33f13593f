import Pardosa.Schema.PardosaType

/-!
# Derived payload types

What `derive(PardosaType)` and `derive(PardosaSchema)` generate from the shape of a struct or
an enum: the descriptor, the depth constant, the encoder and the decoder. A field list is a
tuple of values, an enum one tuple for each of its variants.
-/

namespace Pardosa

open Foundation

universe u

/-- The fields of a struct or a variant, as they are written. -/
inductive Fields (α : Type u) where
  | unit
  | named (members : List (String × α))
  | unnamed (types : List α)

/-- A variant with its literal discriminant, and whether it is marked as the tombstone. -/
structure Variant (α : Type u) where
  ident : String
  discriminant : UInt32
  tombstone : Bool
  fields : Fields α

/-- The names that fields without one are described under. -/
def unnamedMembers {α : Type u} : (idx : Nat) → List α → List (String × α)
  | _, [] => []
  | idx, type :: types => ("_" ++ toString idx, type) :: unnamedMembers (idx + 1) types

/-- The fields with the names they are described under. -/
def Fields.members {α : Type u} : Fields α → List (String × α)
  | .unit => []
  | .named members => members
  | .unnamed types => unnamedMembers 0 types

/-- The types of the fields. -/
def Fields.types {α : Type u} (fields : Fields α) : List α := fields.members.map Prod.snd

/-- Unnamed fields are just their types. -/
@[simp] theorem Fields.types_unnamed {α : Type u} (types : List α) :
    (Fields.unnamed types).types = types := by
  suffices indexed : ∀ idx, (unnamedMembers idx types).map Prod.snd = types from indexed 0
  induction types with
  | nil => exact fun _ => rfl
  | cons type types ih => exact fun idx => congrArg (type :: ·) (ih (idx + 1))

/-- The values of a field list. -/
def Tuple : List PardosaType → Type
  | [] => Unit
  | type :: types => type.Value × Tuple types

/-- The values of an enum: a choice among its variants. -/
def Choice : List (Variant PardosaType) → Type
  | [] => Empty
  | variant :: variants => Tuple variant.fields.types ⊕ Choice variants

/-- The descriptors of fields. -/
def fieldDescriptors : List (String × PardosaType) → FieldDescriptors
  | [] => .nil
  | (name, type) :: members => .cons name type.descriptorNode (fieldDescriptors members)

/-- Encodes fields in their order. -/
def encodeFields : (types : List PardosaType) → Tuple types → Except EncodeError Bytes
  | [], _ => .ok []
  | type :: types, (value, values) => do
      let bytes ← type.encodeType value
      let others ← encodeFields types values
      return bytes ++ others

/-- Decodes fields in their order, from a cursor on. -/
def decodeFields (buf : Bytes) :
    (types : List PardosaType) → (cursor : Nat) → Except DecodeError (Tuple types × Nat)
  | [], cursor => .ok ((), cursor)
  | type :: types, cursor => do
      let (value, consumed) ← type.decodeType (buf.drop cursor)
      let cursor ← checkedAdvance cursor consumed buf.length
      let (values, cursor) ← decodeFields buf types cursor
      return ((value, values), cursor)

/-- What the constructors of the fields promise. -/
def FieldsInBounds : (types : List PardosaType) → Tuple types → Prop
  | [], _ => True
  | type :: types, (value, values) => type.InBounds value ∧ FieldsInBounds types values

/-- The maximum that the generated depth constants compute. -/
def maxDepth (depths : List Nat) : Nat := depths.foldl max 0

/-- A bound on the deepest is a bound on each. -/
theorem maxDepth_le_iff {depths : List Nat} {bound : Nat} :
    maxDepth depths ≤ bound ↔ ∀ depth ∈ depths, depth ≤ bound := by
  suffices running : ∀ start, depths.foldl max start ≤ bound ↔
      start ≤ bound ∧ ∀ depth ∈ depths, depth ≤ bound from
    (running 0).trans (and_iff_right (Nat.zero_le _))
  induction depths with
  | nil => simp
  | cons depth depths ih =>
      intro start
      rw [List.foldl_cons, ih, List.forall_mem_cons, Nat.max_le, and_assoc]

/-- The implementation generated for a struct. -/
def expandPardosaTypeStruct (ident : String) (fields : Fields PardosaType) : PardosaType where
  Value := Tuple fields.types
  typeDepth := maxDepth (fields.types.map fun type => type.typeDepth + 1)
  descriptorNode := .struct ident (fieldDescriptors fields.members)
  encodeType := encodeFields fields.types
  decodeType buf := decodeFields buf fields.types 0
  InBounds := FieldsInBounds fields.types

namespace Variant

/-- The payload descriptor of a variant: none, the type of its only unnamed field, or a struct
of its fields. -/
def payload (enumIdent : String) (variant : Variant PardosaType) : VariantPayload :=
  match variant.fields with
  | .unit => .none
  | .unnamed [type] => .some type.descriptorNode
  | fields => .some (.struct (enumIdent ++ "_" ++ variant.ident) (fieldDescriptors fields.members))

/-- What a variant contributes to the depth constant of its enum. -/
def depths (variant : Variant PardosaType) : List Nat :=
  match variant.fields with
  | .unit => []
  | .unnamed [type] => [type.typeDepth + 1]
  | fields => fields.types.map fun type => type.typeDepth + 2

/-- The levels that a root variant adds above the types of its fields. -/
def overhead (variant : Variant PardosaType) : Nat :=
  match variant.fields with
  | .unnamed [_] => 1
  | _ => 2

/-- Decodes the fields of a variant behind a discriminant of a width. -/
def decodeFields (buf : Bytes) (width : Nat) (variant : Variant PardosaType) :
    Except DecodeError (Tuple variant.fields.types × Nat) :=
  match variant.fields with
  | .unit => .ok ((), width)
  | fields =>
      if buf.length < width then .error (.truncatedPayload width buf.length)
      else Pardosa.decodeFields buf fields.types width

end Variant

/-- One byte holds the discriminants, or two do. -/
def discriminantWidth {α : Type u} (variants : List (Variant α)) : UInt8 :=
  if maxDepth (variants.map fun variant => variant.discriminant.toNat) ≤ 255 then 1 else 2

/-- The descriptors of variants. -/
def variantDescriptors (enumIdent : String) : List (Variant PardosaType) → VariantDescriptors
  | [] => .nil
  | variant :: variants =>
      .cons variant.discriminant variant.ident (variant.payload enumIdent)
        (variantDescriptors enumIdent variants)

/-- Encodes a discriminant and the fields behind it. -/
def encodeArms (width : Nat) :
    (variants : List (Variant PardosaType)) → Choice variants → Except EncodeError Bytes
  | variant :: _, .inl values => do
      let bytes ← encodeFields variant.fields.types values
      return leBytes width variant.discriminant.toNat ++ bytes
  | _ :: variants, .inr choice => encodeArms width variants choice

/-- Decodes by the first arm whose discriminant matches. -/
def decodeArms (buf : Bytes) (width disc : Nat) :
    (variants : List (Variant PardosaType)) → Except DecodeError (Choice variants × Nat)
  | [] => .error (.unknownVariantDiscriminant disc)
  | variant :: variants =>
      if disc = variant.discriminant.toNat then do
        let (values, cursor) ← variant.decodeFields buf width
        return (.inl values, cursor)
      else do
        let (choice, cursor) ← decodeArms buf width disc variants
        return (.inr choice, cursor)

/-- Decodes a discriminant and what stands behind it. -/
def decodeEnum (buf : Bytes) (width : Nat) (variants : List (Variant PardosaType)) :
    Except DecodeError (Choice variants × Nat) := do
  if buf.length < width then
    throw (.truncatedPayload width buf.length)
  decodeArms buf width (leValue (buf.take width)) variants

/-- What the constructors of the variants promise. -/
def ChoiceInBounds : (variants : List (Variant PardosaType)) → Choice variants → Prop
  | variant :: _, .inl values => FieldsInBounds variant.fields.types values
  | _ :: variants, .inr choice => ChoiceInBounds variants choice

/-- The checks on the discriminants of an enum, given those before them. -/
def checkVariants {α : Type u} : (seen : List UInt32) → List (Variant α) → Except String Unit
  | _, [] => .ok ()
  | seen, variant :: variants => do
      if variant.discriminant > 65535 then
        throw ("variant `" ++ variant.ident ++ "` discriminant " ++
          toString variant.discriminant.toNat ++ " exceeds maximum allowed value 65535 (per M4)")
      if variant.discriminant ∈ seen then
        throw ("duplicate discriminant " ++ toString variant.discriminant.toNat ++
          " found on variant `" ++ variant.ident ++ "` (per M4)")
      checkVariants (variant.discriminant :: seen) variants

/-- The checks on an enum that derives `PardosaType`. -/
def checkEnum {α : Type u} (variants : List (Variant α)) : Except String Unit :=
  match variants with
  | [] => .error "enum must have at least one variant"
  | variants => checkVariants [] variants

/-- The implementation generated for an enum. -/
def expandPardosaTypeEnum (ident : String) (variants : List (Variant PardosaType)) :
    PardosaType where
  Value := Choice variants
  typeDepth := maxDepth (variants.flatMap Variant.depths)
  descriptorNode := .enum ident (discriminantWidth variants) (variantDescriptors ident variants)
  encodeType := encodeArms (discriminantWidth variants).toNat variants
  decodeType buf := decodeEnum buf (discriminantWidth variants).toNat variants
  InBounds := ChoiceInBounds variants

/-- A root of event payloads, with its implementation of the trait. -/
structure PardosaSchema where
  Value : Type
  schemaVersion : UInt32
  schemaDescriptor : DescriptorNode
  encodePayload : Value → Except EncodeError Bytes
  decodePayload : Bytes → Except DecodeError Value

/-- The identity of a root; a root whose descriptor is refused panics here. -/
def PardosaSchema.schemaIdentity [Digests] (schema : PardosaSchema) :
    Except OperationFailure Hash := do
  let admitted ← AdmittedDescriptor.tryFromDescriptor
    ⟨schema.schemaVersion, schema.schemaDescriptor⟩
  return admitted.identity

/-- The checks on an enum that derives `PardosaSchema`. -/
def checkSchema {α : Type u} (schemaVersion : UInt32) (variants : List (Variant α)) :
    Except String Unit := do
  if schemaVersion = 0 then
    throw "schema version must be non-zero (version = 0 is reserved per C8.2)"
  checkVariants [] variants
  if variants.all fun variant => !variant.tombstone then
    throw "missing required event kind: tombstone; add a variant with recognition attribute `#[pardosa(tombstone)]`, e.g.:\n    #[pardosa(tombstone)]\n    Tombstone = 0,"

/-- The depth assertions that are generated beside a root. -/
def depthAssertions (variants : List (Variant PardosaType)) : Bool :=
  variants.all fun variant => variant.fields.types.all fun type =>
    type.typeDepth ≤ maxDescriptorDepth - variant.overhead

/-- The implementation generated for a root: the codec of an enum that must cover its buffer. -/
def expandPardosaSchema (ident : String) (schemaVersion : UInt32)
    (variants : List (Variant PardosaType)) : PardosaSchema where
  Value := Choice variants
  schemaVersion := schemaVersion
  schemaDescriptor := .enum ident (discriminantWidth variants) (variantDescriptors ident variants)
  encodePayload := encodeArms (discriminantWidth variants).toNat variants
  decodePayload buf := do
    let (choice, cursor) ← decodeEnum buf (discriminantWidth variants).toNat variants
    if cursor ≠ buf.length then
      throw (.truncatedPayload cursor buf.length)
    return choice

end Pardosa
