import Pardosa.Schema.DepthChecks
import Pardosa.Schema.TypeLanguage

/-!
# Nesting depth

The depth constant of a type is computed from its fields, the nesting of its descriptor from
its nodes. The two count the same levels but for one kind of node: the payload of a braced or
tuple variant that has no fields, which the descriptor describes and the constant leaves out.
-/

namespace Pardosa

open Foundation

universe u

/-- A level at which a node stands, and whether the node is the payload of a braced or tuple
variant without fields. -/
structure NodeLevel where
  level : Nat
  emptyPayload : Bool

/-- The levels of nodes, one deeper. -/
def deeper (levels : List NodeLevel) : List NodeLevel :=
  levels.map fun node => { node with level := node.level + 1 }

/-- The levels one deeper are the levels, each moved by one. -/
@[simp] theorem forall_mem_deeper {levels : List NodeLevel} {holds : NodeLevel → Prop} :
    (∀ node ∈ deeper levels, holds node) ↔
      ∀ node ∈ levels, holds { node with level := node.level + 1 } :=
  List.forall_mem_map

/-- The levels of the payload of a variant, given those of its fields. -/
def payloadLevels {α : Type u} : Fields α → List (List NodeLevel) → List NodeLevel
  | .unit, _ => []
  | .unnamed [_], levels => levels.flatten
  | _, levels => ⟨0, levels.isEmpty⟩ :: deeper levels.flatten

namespace TypeExpr

mutual

/-- The levels at which the nodes of a type stand; its root stands at zero. -/
def levels : TypeExpr → List NodeLevel
  | .option inner | .eventVec inner _ => ⟨0, false⟩ :: deeper inner.levels
  | .struct _ fields => ⟨0, false⟩ :: deeper (fieldLevels fields).flatten
  | .enum _ variants => ⟨0, false⟩ :: deeper (variantLevels variants).flatten
  | .eventF32 | .eventF64 => [⟨0, false⟩, ⟨1, false⟩]
  | _ => [⟨0, false⟩]

def fieldLevels : Fields TypeExpr → List (List NodeLevel)
  | .unit => []
  | .named members => memberLevels members
  | .unnamed types => typeLevels types

def memberLevels : List (String × TypeExpr) → List (List NodeLevel)
  | [] => []
  | (_, type) :: members => type.levels :: memberLevels members

def typeLevels : List TypeExpr → List (List NodeLevel)
  | [] => []
  | type :: types => type.levels :: typeLevels types

def variantLevels : List (Variant TypeExpr) → List (List NodeLevel)
  | [] => []
  | ⟨_, _, _, fields⟩ :: variants =>
      payloadLevels fields (fieldLevels fields) :: variantLevels variants

end

end TypeExpr

/-- The depth constant of a type counts its levels without those of empty payloads, and the
nesting of its descriptor counts them all. -/
structure Measured (type : PardosaType) (levels : List NodeLevel) : Prop where
  root : ⟨0, false⟩ ∈ levels
  typeDepth_le : ∀ bound, type.typeDepth ≤ bound ↔
    ∀ node ∈ levels, node.emptyPayload = false → node.level ≤ bound
  nesting_le : ∀ bound, type.descriptorNode.nesting ≤ bound ↔
    ∀ node ∈ levels, node.level ≤ bound

namespace Measured

variable {type : PardosaType} {levels : List NodeLevel}

/-- A type that is so many levels further down. -/
theorem typeDepth_add_le (measured : Measured type levels) (further bound : Nat) :
    type.typeDepth + further ≤ bound ↔
      ∀ node ∈ levels, node.emptyPayload = false → node.level + further ≤ bound := by
  constructor
  · intro within node mem counted
    have below := (measured.typeDepth_le (bound - further)).mp (by omega) node mem counted
    omega
  · intro within
    have enough := within _ measured.root rfl
    have below := (measured.typeDepth_le (bound - further)).mpr fun node mem counted => by
      have below := within node mem counted
      omega
    omega

/-- The descriptor of a measured type nests within a bound exactly when each of its levels
does. -/
theorem nesting_add_le (measured : Measured type levels) (further bound : Nat) :
    type.descriptorNode.nesting + further ≤ bound ↔
      ∀ node ∈ levels, node.level + further ≤ bound := by
  constructor
  · intro within node mem
    have below := (measured.nesting_le (bound - further)).mp (by omega) node mem
    omega
  · intro within
    have enough := within _ measured.root
    have below := (measured.nesting_le (bound - further)).mpr fun node mem => by
      have below := within node mem
      omega
    omega

/-- A type that stands alone. -/
theorem leaf (flat : type.typeDepth = 0) (leaf : type.descriptorNode.nesting = 0) :
    Measured type [⟨0, false⟩] where
  root := List.mem_singleton_self _
  typeDepth_le bound := by simp [flat]
  nesting_le bound := by simp [leaf]

/-- A type over another that stands one level further down. -/
theorem above {inner : PardosaType} (measured : Measured inner levels)
    (deep : type.typeDepth = inner.typeDepth + 1)
    (nested : type.descriptorNode.nesting = inner.descriptorNode.nesting + 1) :
    Measured type (⟨0, false⟩ :: deeper levels) where
  root := List.mem_cons_self
  typeDepth_le bound := by
    rw [deep, measured.typeDepth_add_le]
    simp
  nesting_le bound := by
    rw [nested, measured.nesting_add_le]
    simp

/-- The constant is never more than the nesting. -/
theorem typeDepth_le_nesting (measured : Measured type levels) :
    type.typeDepth ≤ type.descriptorNode.nesting :=
  (measured.typeDepth_le _).mpr fun node mem _ =>
    (measured.nesting_le _).mp (Nat.le_refl _) node mem

/-- The two agree exactly when no empty payload stands deeper than everything else. -/
theorem typeDepth_eq_nesting_iff (measured : Measured type levels) :
    type.typeDepth = type.descriptorNode.nesting ↔ ∀ node ∈ levels, node.emptyPayload = true →
      ∃ other ∈ levels, other.emptyPayload = false ∧ node.level ≤ other.level := by
  constructor
  · intro same node mem _
    have below : node.level ≤ type.typeDepth :=
      same ▸ (measured.nesting_le _).mp (Nat.le_refl _) node mem
    by_contra uncovered
    push Not at uncovered
    -- everything that the constant counts stands above the node, and so does their deepest
    have opened := uncovered _ measured.root rfl
    have above := (measured.typeDepth_le (node.level - 1)).mpr fun other otherMem counted => by
      have higher := uncovered other otherMem counted
      omega
    dsimp only at opened
    omega
  · intro covered
    refine Nat.le_antisymm measured.typeDepth_le_nesting ?_
    refine (measured.nesting_le _).mpr fun node mem => ?_
    have counts := (measured.typeDepth_le _).mp (Nat.le_refl _)
    cases counted : node.emptyPayload with
    | false => exact counts node mem counted
    | true =>
        obtain ⟨other, otherMem, otherCounted, below⟩ := covered node mem counted
        exact Nat.le_trans below (counts other otherMem otherCounted)

section Fields

variable {members : List (String × PardosaType)} {lists : List (List NodeLevel)}

/-- The depths that the types claim are within a bound exactly when every level but that of
an empty payload is. -/
theorem typeDepths_le {types : List PardosaType} (measured : List.Forall₂ Measured types lists)
    (further bound : Nat) : (∀ type ∈ types, type.typeDepth + further ≤ bound) ↔
      ∀ node ∈ lists.flatten, node.emptyPayload = false → node.level + further ≤ bound := by
  induction measured with
  | nil => simp
  | cons first _ ih =>
      rw [List.forall_mem_cons, List.flatten_cons, List.forall_mem_append, ih,
        first.typeDepth_add_le]

/-- The descriptors of fields nest within a bound exactly when each of their levels does. -/
theorem fieldDescriptors_nesting_le
    (measured : List.Forall₂ Measured (members.map Prod.snd) lists) (bound : Nat) :
    (fieldDescriptors members).nesting ≤ bound ↔
      ∀ node ∈ lists.flatten, node.level + 1 ≤ bound := by
  induction members generalizing lists with
  | nil =>
      cases measured
      simp [fieldDescriptors, FieldDescriptors.nesting]
  | cons member members ih =>
      obtain ⟨name, type⟩ := member
      cases measured with
      | cons first others =>
          rw [fieldDescriptors, FieldDescriptors.nesting, Nat.max_le, ih others,
            first.nesting_add_le, List.flatten_cons, List.forall_mem_append]

/-- A struct puts its fields one level deeper. -/
theorem struct {fields : Fields PardosaType} (ident : String)
    (measured : List.Forall₂ Measured fields.types lists) :
    Measured (expandPardosaTypeStruct ident fields) (⟨0, false⟩ :: deeper lists.flatten) where
  root := List.mem_cons_self
  typeDepth_le bound := by
    have depths := typeDepths_le measured 1 bound
    simp only [expandPardosaTypeStruct, maxDepth_le_iff, List.forall_mem_map, depths]
    simp
  nesting_le bound := by
    have nested := fieldDescriptors_nesting_le measured bound
    simp only [expandPardosaTypeStruct, DescriptorNode.nesting, nested]
    simp

end Fields

end Measured

/-- What a variant contributes to the depth constant of its enum, and its payload to the nesting,
in terms of the levels of the payload. -/
structure MeasuredVariant (variant : Variant PardosaType) (levels : List NodeLevel) : Prop where
  depths_le : ∀ bound, (∀ depth ∈ variant.depths, depth ≤ bound) ↔
    ∀ node ∈ levels, node.emptyPayload = false → node.level + 1 ≤ bound
  nesting_le : ∀ enumIdent bound, (variant.payload enumIdent).nesting ≤ bound ↔
    ∀ node ∈ levels, node.level + 1 ≤ bound

namespace MeasuredVariant

variable {variant : Variant PardosaType} {lists : List (List NodeLevel)}

/-- A payload that is described as a struct. -/
theorem ofStruct (measured : List.Forall₂ Measured variant.fields.types lists)
    (depths : variant.depths = variant.fields.types.map fun type => type.typeDepth + 2)
    (payload : ∀ enumIdent, variant.payload enumIdent =
      .some (.struct (enumIdent ++ "_" ++ variant.ident)
        (fieldDescriptors variant.fields.members))) :
    MeasuredVariant variant (⟨0, lists.isEmpty⟩ :: deeper lists.flatten) where
  depths_le bound := by
    rw [depths, List.forall_mem_map, Measured.typeDepths_le measured, List.forall_mem_cons,
      forall_mem_deeper]
    refine (and_iff_right_of_imp fun within filled => ?_).symm
    -- a field stands below the struct, so the struct is within the bound of its fields
    generalize variant.fields.types = types at measured
    cases measured with
    | nil => cases filled
    | cons first _ =>
        have below := within ⟨0, false⟩ (List.mem_append_left _ first.root) rfl
        exact Nat.le_of_succ_le below
  nesting_le enumIdent bound := by
    rw [payload, VariantPayload.nesting, DescriptorNode.nesting, List.forall_mem_cons,
      forall_mem_deeper]
    constructor
    · intro within
      have nested := (Measured.fieldDescriptors_nesting_le measured (bound - 1)).mp (by omega)
      refine ⟨by dsimp only; omega, fun node mem => ?_⟩
      have below := nested node mem
      dsimp only
      omega
    · rintro ⟨opened, within⟩
      have nested := (Measured.fieldDescriptors_nesting_le measured (bound - 1)).mpr
          fun node mem => by
        have below := within node mem
        dsimp only at below
        omega
      dsimp only at opened
      omega

/-- A variant measures what its fields do. -/
theorem ofFields (measured : List.Forall₂ Measured variant.fields.types lists) :
    MeasuredVariant variant (payloadLevels variant.fields lists) := by
  obtain ⟨ident, discriminant, tombstone, fields⟩ := variant
  match fields with
  | .unit =>
      refine ⟨fun bound => ?_, fun enumIdent bound => ?_⟩
      · simp [Variant.depths, payloadLevels]
      · simp [Variant.payload, VariantPayload.nesting, payloadLevels]
  | .unnamed [type] =>
      cases measured with
      | cons only others =>
          cases others
          refine ⟨fun bound => ?_, fun enumIdent bound => ?_⟩
          · simpa [Variant.depths, payloadLevels] using only.typeDepth_add_le 1 bound
          · simpa [Variant.payload, VariantPayload.nesting, payloadLevels] using
              only.nesting_add_le 1 bound
  | .unnamed [] | .unnamed (_ :: _ :: _) | .named _ =>
      exact ofStruct measured rfl fun _ => rfl

end MeasuredVariant

/-- The levels of an enum, given those of its payloads. -/
theorem Measured.enum {variants : List (Variant PardosaType)} {lists : List (List NodeLevel)}
    (ident : String) (measured : List.Forall₂ MeasuredVariant variants lists) :
    Measured (expandPardosaTypeEnum ident variants) (⟨0, false⟩ :: deeper lists.flatten) where
  root := List.mem_cons_self
  typeDepth_le bound := by
    change maxDepth (variants.flatMap Variant.depths) ≤ bound ↔ _
    rw [maxDepth_le_iff, List.forall_mem_cons, forall_mem_deeper,
      and_iff_right fun _ => Nat.zero_le bound]
    induction measured with
    | nil => simp
    | cons first _ ih =>
        rw [List.flatMap_cons, List.forall_mem_append, ih, first.depths_le, List.flatten_cons,
          List.forall_mem_append]
  nesting_le bound := by
    change (variantDescriptors ident variants).nesting ≤ bound ↔ _
    rw [List.forall_mem_cons, forall_mem_deeper, and_iff_right (Nat.zero_le bound)]
    induction measured with
    | nil => simp [variantDescriptors, VariantDescriptors.nesting]
    | cons first _ ih =>
        rw [variantDescriptors, VariantDescriptors.nesting, Nat.max_le, ih, first.nesting_le,
          List.flatten_cons, List.forall_mem_append]

namespace TypeExpr

/-- The shape of a payload does not depend on what its fields expand to. -/
theorem payloadLevels_expandFields (fields : Fields TypeExpr) (lists : List (List NodeLevel)) :
    payloadLevels (expandFields fields) lists = payloadLevels fields lists := by
  match fields with
  | .unit | .named _ | .unnamed [] | .unnamed [_] | .unnamed (_ :: _ :: _) => rfl

mutual

/-- Every type is measured by its levels. -/
theorem measured_expand : (type : TypeExpr) → Measured type.expand type.levels
  | .u8 | .u16 | .u32 | .u64 | .i8 | .i16 | .i32 | .i64 | .bool | .timestamp | .uuid
  | .eventString _ | .nonEmptyEventString _ | .eventBytes _ | .orderedF32 | .orderedF64 =>
      .leaf rfl rfl
  | .eventF32 | .eventF64 =>
      have finite : Measured .orderedF32 [⟨0, false⟩] := .leaf rfl rfl
      .above finite rfl rfl
  | .option inner | .eventVec inner _ => .above (measured_expand inner) rfl rfl
  | .struct ident fields => .struct ident (measured_expandFields fields)
  | .enum ident variants => .enum ident (measured_expandVariants variants)

/-- The fields of an expanded expression are measured by its levels. -/
theorem measured_expandFields : (fields : Fields TypeExpr) →
    List.Forall₂ Measured (expandFields fields).types (fieldLevels fields)
  | .unit => .nil
  | .named members => measured_expandMembers members
  | .unnamed types => by
      rw [expandFields, Fields.types_unnamed]
      exact measured_expandTypes types

/-- Expanded named members are measured by their levels. -/
theorem measured_expandMembers : (members : List (String × TypeExpr)) →
    List.Forall₂ Measured ((expandMembers members).map Prod.snd) (memberLevels members)
  | [] => .nil
  | (_, type) :: members => .cons (measured_expand type) (measured_expandMembers members)

/-- Expanded unnamed members are measured by their levels. -/
theorem measured_expandTypes : (types : List TypeExpr) →
    List.Forall₂ Measured (expandTypes types) (typeLevels types)
  | [] => .nil
  | type :: types => .cons (measured_expand type) (measured_expandTypes types)

/-- Expanded variants are measured by their levels. -/
theorem measured_expandVariants : (variants : List (Variant TypeExpr)) →
    List.Forall₂ MeasuredVariant (expandVariants variants) (variantLevels variants)
  | [] => .nil
  | ⟨ident, discriminant, tombstone, fields⟩ :: variants => by
      have payload : MeasuredVariant ⟨ident, discriminant, tombstone, expandFields fields⟩ _ :=
        .ofFields (measured_expandFields fields)
      rw [payloadLevels_expandFields] at payload
      exact .cons payload (measured_expandVariants variants)

end

/-- No payload of a braced or tuple variant without fields stands deeper than everything else
in the type. -/
def PayloadsCovered (type : TypeExpr) : Prop :=
  ∀ node ∈ type.levels, node.emptyPayload = true →
    ∃ other ∈ type.levels, other.emptyPayload = false ∧ node.level ≤ other.level

instance (type : TypeExpr) : Decidable type.PayloadsCovered :=
  inferInstanceAs (Decidable (∀ node ∈ type.levels, node.emptyPayload = true →
    ∃ other ∈ type.levels, other.emptyPayload = false ∧ node.level ≤ other.level))

end TypeExpr

section Widths

open DescriptorNode

/-- Members whose types have known widths have known widths. -/
theorem fieldWidthsKnown {members : List (String × PardosaType)}
    (known : ∀ type ∈ members.map Prod.snd, type.descriptorNode.WidthsKnown) :
    FieldWidthsKnown (fieldDescriptors members) := by
  induction members with
  | nil => trivial
  | cons member members ih =>
      rw [List.map_cons, List.forall_mem_cons] at known
      exact ⟨known.1, ih known.2⟩

/-- A payload of known widths has known widths. -/
theorem payloadWidthsKnown {enumIdent : String} {variant : Variant PardosaType}
    (known : ∀ type ∈ variant.fields.types, type.descriptorNode.WidthsKnown) :
    PayloadWidthsKnown (variant.payload enumIdent) := by
  obtain ⟨ident, discriminant, tombstone, fields⟩ := variant
  match fields with
  | .unit => trivial
  | .unnamed [type] => exact known type (List.mem_singleton_self type)
  | .unnamed [] | .unnamed (_ :: _ :: _) | .named _ => exact fieldWidthsKnown known

/-- An enumeration takes one byte or two for its discriminant. -/
theorem discriminantWidth_known {α : Type u} (variants : List (Variant α)) :
    discriminantWidth variants = 1 ∨ discriminantWidth variants = 2 := by
  unfold discriminantWidth
  exact (ite_eq_or_eq _ _ _)

/-- A derived enum is described with a known width. -/
theorem enumWidthsKnown {ident : String} {variants : List (Variant PardosaType)}
    (known : ∀ variant ∈ variants, ∀ type ∈ variant.fields.types,
      type.descriptorNode.WidthsKnown) :
    (expandPardosaTypeEnum ident variants).descriptorNode.WidthsKnown := by
  refine ⟨discriminantWidth_known variants, ?_⟩
  induction variants with
  | nil => trivial
  | cons variant variants ih =>
      rw [List.forall_mem_cons] at known
      exact ⟨payloadWidthsKnown known.1, ih known.2⟩

/-- The descriptors of the language have known widths. -/
theorem TypeLanguage.widthsKnown {floats : Prop} {type : PardosaType}
    (within : TypeLanguage floats type) : type.descriptorNode.WidthsKnown := by
  induction within with
  | option _ ih => exact ih
  | eventVec _ _ ih => exact ih
  | struct _ ih => exact fieldWidthsKnown ih
  | enum _ _ ih => exact enumWidthsKnown ih
  | eventF32 => exact ⟨.inl rfl, trivial, trivial, trivial, trivial, trivial⟩
  | eventF64 => exact ⟨.inl rfl, trivial, trivial, trivial, trivial, trivial⟩
  | _ => trivial

end Widths

namespace SchemaExpr

/-- The type that a root describes itself as. -/
def type (root : SchemaExpr) : TypeExpr := .enum root.ident root.variants

/-- Whether the depth assertions beside a root hold. -/
def DepthAsserted (root : SchemaExpr) : Prop :=
  depthAssertions (TypeExpr.expandVariants root.variants) = true

/-- No payload of a braced or tuple variant without fields stands beyond the depth limit. -/
def PayloadsWithinLimit (root : SchemaExpr) : Prop :=
  ∀ node ∈ root.type.levels, node.emptyPayload = true → node.level ≤ maxDescriptorDepth

instance (root : SchemaExpr) : Decidable root.PayloadsWithinLimit :=
  inferInstanceAs (Decidable (∀ node ∈ root.type.levels,
    node.emptyPayload = true → node.level ≤ maxDescriptorDepth))

/-- An accepted root has a descriptor of known widths. -/
theorem widthsKnown {root : SchemaExpr} (accepted : root.Accepted) :
    root.expand.schemaDescriptor.WidthsKnown := by
  suffices known : ∀ variant ∈ TypeExpr.expandVariants root.variants,
      ∀ type ∈ variant.fields.types, type.descriptorNode.WidthsKnown from enumWidthsKnown known
  intro variant mem type typeMem
  have within : TypeLanguage True type :=
    TypeExpr.typeLanguage_expandVariants root.variants accepted.2 (.inl trivial) variant mem type
      typeMem
  exact within.widthsKnown

end SchemaExpr

/-- What a variant contributes is the depth of its fields below what it adds to them. -/
theorem Variant.depths_le_iff {variant : Variant PardosaType} {bound : Nat} :
    (∀ depth ∈ variant.depths, depth ≤ bound) ↔
      ∀ type ∈ variant.fields.types, type.typeDepth + variant.overhead ≤ bound := by
  obtain ⟨ident, discriminant, tombstone, fields⟩ := variant
  match fields with
  | .unit => simp [depths, Fields.types, Fields.members]
  | .unnamed [type] => simp [depths, overhead]
  | .unnamed [] | .unnamed (_ :: _ :: _) | .named _ => simp [depths, overhead]

/-- A variant adds two levels at most. -/
theorem Variant.overhead_le (variant : Variant PardosaType) : variant.overhead ≤ 2 := by
  unfold overhead
  split <;> decide

/-- The assertions bound the depth constant of the root's own type. -/
theorem depthAssertions_iff {variants : List (Variant PardosaType)} :
    depthAssertions variants = true ↔
      maxDepth (variants.flatMap Variant.depths) ≤ maxDescriptorDepth := by
  rw [maxDepth_le_iff, List.forall_mem_flatMap, depthAssertions, List.all_eq_true]
  refine forall₂_congr fun variant _ => ?_
  rw [Variant.depths_le_iff, List.all_eq_true]
  refine forall₂_congr fun type _ => ?_
  have small := variant.overhead_le
  rw [decide_eq_true_iff, maxDescriptorDepth]
  omega

section Root

variable [Digests]

/-- How the identity of a root is refused, if not for its depth: it is incomplete otherwise, its
record is too large, or it cannot be measured or written for another reason. -/
def OtherRefusal (schema : PardosaSchema) (failure : OperationFailure) : Prop :=
  (SchemaDescriptor.validateStructuralCompleteness ⟨schema.schemaVersion, schema.schemaDescriptor⟩ =
    .error failure ∧ failure ≠ DescriptorNode.tooDeep) ∨
  (∃ recordLen : Nat, failure.diagnosticDetail =
    "encoded descriptor record exceeds 64 KiB: " ++ toString recordLen) ∨
  ∃ stage ∈ ["schema descriptor encoded length calculation failed: ",
      "schema descriptor encoding failed: "], ∃ cause : EncodeError,
    failure.diagnosticDetail = stage ++ cause.display ∧
      ∀ depth max, cause ≠ .depthExceeded depth max

/-- A root never fails for its depth: not where it is validated, measured or written, not where
what is written is read back, and not where its identity is computed. -/
structure PardosaSchema.DepthSafe (schema : PardosaSchema) : Prop where
  validated : FailsOnly (· ≠ DescriptorNode.tooDeep)
    schema.schemaDescriptor.validateStructuralCompleteness
  measured : FailsOnly (fun failure => ∀ depth max, failure ≠ .depthExceeded depth max)
    schema.schemaDescriptor.encodedLen
  written : FailsOnly (fun failure => ∀ depth max, failure ≠ .depthExceeded depth max)
    schema.schemaDescriptor.encode
  readBack : ∀ bytes suffix, schema.schemaDescriptor.encode = .ok bytes →
    DescriptorNode.decode (bytes ++ suffix) = .ok (schema.schemaDescriptor, bytes.length)
  identified : FailsOnly (OtherRefusal schema) schema.schemaIdentity

omit [Digests] in
/-- A refusal for a size is none for a depth. -/
theorem not_depthExceeded {failure : EncodeError}
    (refusal : DescriptorNode.Refusal False True failure) (depth max : Nat) :
    failure ≠ .depthExceeded depth max := by
  rintro rfl
  exact refusal

variable {schema : PardosaSchema}

/-- The identity fails for depth only where validation, measuring or writing does. -/
theorem identity_failsOnly
    (validated : FailsOnly (· ≠ DescriptorNode.tooDeep)
      schema.schemaDescriptor.validateStructuralCompleteness)
    (measured : FailsOnly (DescriptorNode.Refusal False True) schema.schemaDescriptor.encodedLen)
    (written : FailsOnly (DescriptorNode.Refusal False True) schema.schemaDescriptor.encode) :
    FailsOnly (OtherRefusal schema) schema.schemaIdentity := by
  refine failsOnly_bind (failsOnly_bind ?_ fun _ => failsOnly_bind ?_ fun recordLen =>
    failsOnly_refuseIf ?_ (failsOnly_bind ?_ fun _ => failsOnly_ok _)) fun _ => failsOnly_ok _
  · intro failure refused
    refine .inl ⟨refused, ?_⟩
    unfold SchemaDescriptor.validateStructuralCompleteness at refused
    split_ifs at refused
    · cases refused
      decide
    · exact validated failure refused
  · refine FailsOnly.mapError
      (failsOnly_bind measured fun _ => DescriptorNode.addLens_failsOnly) ?_
    intro cause refusal
    exact .inr (.inr ⟨_, .head _, cause, rfl, not_depthExceeded refusal⟩)
  · exact failsOnly_error (.inr (.inl ⟨recordLen, rfl⟩))
  · refine written.mapError fun cause refusal => ?_
    exact .inr (.inr ⟨_, .tail _ (.head _), cause, rfl, not_depthExceeded refusal⟩)

/-- A root whose nesting is within the limit. -/
theorem PardosaSchema.depthSafe (known : schema.schemaDescriptor.WidthsKnown)
    (shallow : schema.schemaDescriptor.nesting ≤ maxDescriptorDepth) : schema.DepthSafe := by
  have within : 0 + schema.schemaDescriptor.nesting ≤ maxDescriptorDepth := by
    rwa [Nat.zero_add]
  have validated := DescriptorNode.validateRecursive_failsOnly _ within
  have measured := DescriptorNode.encodedLenRecursive_failsOnly _ within
  have written : FailsOnly (DescriptorNode.Refusal False True) schema.schemaDescriptor.encode :=
    DescriptorNode.encodeRecursive_failsOnly _ (.inl within) (.inr trivial)
  exact {
    validated
    measured := fun failure refused => not_depthExceeded (measured failure refused)
    written := fun failure refused => not_depthExceeded (written failure refused)
    readBack := fun bytes suffix encoded => DescriptorNode.decode_encode encoded known suffix
    identified := identity_failsOnly validated measured written }

omit [Digests] in
/-- A descriptor that is written is within the limit. -/
theorem DescriptorNode.nesting_le_of_encode {node : DescriptorNode} {bytes : Bytes}
    (encoded : node.encode = .ok bytes) : node.nesting ≤ maxDescriptorDepth := by
  have within := encodeRecursive_nesting node encoded
  rwa [Nat.zero_add] at within

/-- A root that never fails for its depth is within the limit, when it can be written
otherwise. -/
theorem PardosaSchema.DepthSafe.nesting_le (safe : schema.DepthSafe)
    (fits : schema.schemaDescriptor.FieldsFit) :
    schema.schemaDescriptor.nesting ≤ maxDescriptorDepth := by
  have written : FailsOnly (DescriptorNode.Refusal True False) schema.schemaDescriptor.encode :=
    DescriptorNode.encodeRecursive_failsOnly _ (.inr trivial) (.inl fits)
  cases outcome : schema.schemaDescriptor.encode with
  | ok bytes => exact DescriptorNode.nesting_le_of_encode outcome
  | error failure =>
      have refusal := written failure outcome
      cases failure with
      | depthExceeded depth max => exact (safe.written _ outcome depth max rfl).elim
      | _ => exact refusal.elim

/-- A root that is nested beyond the limit is refused everywhere. -/
theorem PardosaSchema.refused_of_nesting
    (exceeds : maxDescriptorDepth < schema.schemaDescriptor.nesting) :
    (∃ failure, schema.schemaDescriptor.validateStructuralCompleteness = .error failure) ∧
    (∃ failure, schema.schemaDescriptor.encodedLen = .error failure) ∧
    (∃ failure, schema.schemaDescriptor.encode = .error failure) ∧
    ∃ failure, schema.schemaIdentity = .error failure := by
  have unwritten : ∀ bytes, schema.schemaDescriptor.encode ≠ .ok bytes := fun bytes encoded =>
    Nat.not_le.mpr exceeds (DescriptorNode.nesting_le_of_encode encoded)
  refine ⟨exists_error_of_ne_ok ?_, exists_error_of_ne_ok ?_, exists_error_of_ne_ok unwritten,
    exists_error_of_ne_ok ?_⟩
  · intro _ valid
    have within := DescriptorNode.validateRecursive_ok _ valid
    omega
  · intro len predicted
    obtain ⟨bytes, encoded, -⟩ :=
      (DescriptorNode.encodedLenRecursive_predicts 0 schema.schemaDescriptor len).mp predicted
    exact unwritten bytes encoded
  · intro identity computed
    simp only [schemaIdentity, bind_eq_ok] at computed
    obtain ⟨admitted, admits, -⟩ := computed
    obtain ⟨bytes, encoded, -⟩ := AdmittedDescriptor.tryFromDescriptor_ok admits
    exact unwritten bytes encoded

omit [Digests] in
/-- Behind its assertions a root is within the limit exactly when its empty payloads are. -/
theorem SchemaExpr.nesting_le_iff {root : SchemaExpr} (asserted : root.DepthAsserted) :
    root.expand.schemaDescriptor.nesting ≤ maxDescriptorDepth ↔ root.PayloadsWithinLimit := by
  have measured := TypeExpr.measured_expand root.type
  have counted := (measured.typeDepth_le maxDescriptorDepth).mp (depthAssertions_iff.mp asserted)
  refine (measured.nesting_le maxDescriptorDepth).trans ?_
  refine forall₂_congr fun node mem => ⟨fun within _ => within, fun within => ?_⟩
  cases kind : node.emptyPayload with
  | false => exact counted node mem kind
  | true => exact within kind

/-- The depth constant of a type is the nesting of its descriptor exactly when no payload of a
fieldless braced or tuple variant stands deeper than everything else. A root behind its depth
assertions never fails for its depth when no such payload stands beyond the limit, and only
then, unless a name or a number does not fit either; otherwise it is refused everywhere. -/
theorem nesting_depth_agrees_iff :
    (∀ type : TypeExpr,
      type.expand.typeDepth = type.expand.descriptorNode.nesting ↔ type.PayloadsCovered) ∧
    ∀ root : SchemaExpr, root.Accepted → root.DepthAsserted →
      (root.PayloadsWithinLimit → root.expand.DepthSafe) ∧
      (root.expand.schemaDescriptor.FieldsFit → root.expand.DepthSafe →
        root.PayloadsWithinLimit) ∧
      (¬root.PayloadsWithinLimit →
        (∃ failure, root.expand.schemaDescriptor.validateStructuralCompleteness =
          .error failure) ∧
        (∃ failure, root.expand.schemaDescriptor.encodedLen = .error failure) ∧
        (∃ failure, root.expand.schemaDescriptor.encode = .error failure) ∧
        ∃ failure, root.expand.schemaIdentity = .error failure) := by
  refine ⟨fun type => type.measured_expand.typeDepth_eq_nesting_iff, ?_⟩
  intro root accepted asserted
  have limit := SchemaExpr.nesting_le_iff asserted
  refine ⟨fun within => ?_, fun fits safe => ?_, fun exceeds => ?_⟩
  · exact PardosaSchema.depthSafe (SchemaExpr.widthsKnown accepted) (limit.mpr within)
  · exact limit.mp (safe.nesting_le fits)
  · exact PardosaSchema.refused_of_nesting (Nat.lt_of_not_le fun within =>
      exceeds (limit.mp within))

end Root

section Example

attribute [local instance] standardDigests

/-- An enum with a braced variant that has no fields. -/
def emptyPayload : TypeExpr := .enum "Marker" [⟨"Set", 0, false, .named []⟩]

/-- A root over options of the enum, as many as its assertions let through. -/
def deepRoot : SchemaExpr :=
  ⟨"Event", 1, [⟨"Tombstone", 0, true, .unit⟩,
    ⟨"Marked", 1, false, .unnamed [Nat.repeat TypeExpr.option 15 emptyPayload]⟩]⟩

/-- A fieldless payload nests a level that its type does not count, and lets a root through
that is then refused. -/
theorem empty_payload_is_not_counted :
    (emptyPayload.Accepted ∧
      emptyPayload.expand.typeDepth = 0 ∧ emptyPayload.expand.descriptorNode.nesting = 1) ∧
    (deepRoot.Accepted ∧ deepRoot.DepthAsserted ∧
      deepRoot.expand.schemaDescriptor.encode = .error (.depthExceeded 17 16) ∧
      deepRoot.expand.schemaIdentity = .error DescriptorNode.tooDeep) := by
  have accepted : emptyPayload.Accepted := ⟨rfl, trivial, trivial⟩
  exact ⟨⟨accepted, rfl, rfl⟩, ⟨rfl, trivial, ⟨accepted, trivial⟩, trivial⟩, rfl, rfl, rfl⟩

/-- A root whose empty payload stands within the limit. -/
def shallowRoot : SchemaExpr :=
  ⟨"Event", 1, [⟨"Tombstone", 0, true, .unit⟩, ⟨"Marked", 1, false, .unnamed [emptyPayload]⟩]⟩

/-- A fieldless payload nests deeper than its type says: within the limit this does no harm,
beyond it the root is refused. -/
theorem nesting_depth_agrees_iff_shallow :
    emptyPayload.expand.typeDepth ≠ emptyPayload.expand.descriptorNode.nesting ∧
    shallowRoot.expand.DepthSafe ∧
    ∃ failure, deepRoot.expand.schemaDescriptor.encode = .error failure := by
  have uncovered : ¬emptyPayload.PayloadsCovered := by decide
  have accepted : emptyPayload.Accepted := ⟨rfl, trivial, trivial⟩
  have shallow : shallowRoot.Accepted := ⟨rfl, trivial, ⟨accepted, trivial⟩, trivial⟩
  have deep : deepRoot.Accepted := ⟨rfl, trivial, ⟨accepted, trivial⟩, trivial⟩
  refine ⟨fun same => uncovered ((nesting_depth_agrees_iff.1 emptyPayload).mp same), ?_, ?_⟩
  · exact (nesting_depth_agrees_iff.2 shallowRoot shallow rfl).1 (by decide)
  · exact ((nesting_depth_agrees_iff.2 deepRoot deep rfl).2.2 (by decide)).2.2.1

end Example

end Pardosa
