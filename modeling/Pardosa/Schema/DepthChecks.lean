import Pardosa.Schema.Length

/-!
# Depth checks

Validation, measuring and writing each count the depth of a descriptor on their way down.
They agree on what they refuse: a tree is refused for its depth only when its nesting is
beyond the limit, and one that is nested deeper passes none of them.
-/

namespace Pardosa

open Foundation

mutual

/-- The deepest level of a tree; its root stands at zero and each child one deeper. -/
def DescriptorNode.nesting : DescriptorNode → Nat
  | .u8 | .u16 | .u32 | .u64 | .i8 | .i16 | .i32 | .i64 | .bool | .timestamp | .uuid
  | .orderedF32 | .orderedF64 | .eventString _ | .nonEmptyEventString _ | .eventBytes _ => 0
  | .eventVec inner _ | .option inner => inner.nesting + 1
  | .struct _ fields => fields.nesting
  | .enum _ _ variants => variants.nesting

/-- The deepest level of fields, counted from the struct that has them. -/
def FieldDescriptors.nesting : FieldDescriptors → Nat
  | .nil => 0
  | .cons _ node rest => max (node.nesting + 1) rest.nesting

/-- The deepest level of payloads, counted from the enum that has the variants. -/
def VariantDescriptors.nesting : VariantDescriptors → Nat
  | .nil => 0
  | .cons _ _ payload rest => max payload.nesting rest.nesting

def VariantPayload.nesting : VariantPayload → Nat
  | .none => 0
  | .some node => node.nesting + 1

end

mutual

/-- Every name, every number of items and every discriminant of a tree fits its wire field. -/
def DescriptorNode.FieldsFit : DescriptorNode → Prop
  | .u8 | .u16 | .u32 | .u64 | .i8 | .i16 | .i32 | .i64 | .bool | .timestamp | .uuid
  | .orderedF32 | .orderedF64 | .eventString _ | .nonEmptyEventString _ | .eventBytes _ => True
  | .eventVec inner _ | .option inner => inner.FieldsFit
  | .struct name fields =>
      (utf8Bytes name).length ≤ u32Max ∧ fields.length ≤ u32Max ∧ fields.FieldsFit
  | .enum name width variants =>
      (utf8Bytes name).length ≤ u32Max ∧ variants.length ≤ u32Max ∧ variants.FieldsFit width

def FieldDescriptors.FieldsFit : FieldDescriptors → Prop
  | .nil => True
  | .cons name node rest => (utf8Bytes name).length ≤ u32Max ∧ node.FieldsFit ∧ rest.FieldsFit

def VariantDescriptors.FieldsFit (width : UInt8) : VariantDescriptors → Prop
  | .nil => True
  | .cons discriminant name payload rest =>
      discriminant ≤ (if width = 1 then 255 else 65535) ∧ (utf8Bytes name).length ≤ u32Max ∧
        payload.FieldsFit ∧ rest.FieldsFit width

def VariantPayload.FieldsFit : VariantPayload → Prop
  | .none => True
  | .some node => node.FieldsFit

end

namespace DescriptorNode

/-- The refusal of a node beyond the depth limit. -/
def tooDeep : OperationFailure :=
  ⟨.valueConstraintViolated .tooLong,
    "descriptor nesting depth exceeds implementation depth limit of 16 (structural completeness per C8.2)"⟩

/-- A refusal for want of structure is no refusal for depth. -/
theorem incomplete_failsOnly {constraint : ValueConstraint} {detail : String}
    (other : detail ≠ tooDeep.diagnosticDetail) :
    FailsOnly (· ≠ tooDeep) (incomplete constraint detail) :=
  failsOnly_error fun same => other (congrArg OperationFailure.diagnosticDetail same)

mutual

/-- A tree within the limit is not found incomplete for its depth. -/
theorem validateRecursive_failsOnly {depth : Nat} : (node : DescriptorNode) →
    depth + node.nesting ≤ maxDescriptorDepth →
    FailsOnly (· ≠ tooDeep) (validateRecursive depth node)
  | node, shallow => by
      unfold validateRecursive
      rw [if_neg (by omega)]
      match node with
      | .u8 | .u16 | .u32 | .u64 | .i8 | .i16 | .i32 | .i64 | .bool | .timestamp | .uuid
      | .orderedF32 | .orderedF64 => exact failsOnly_ok ()
      | .eventString maxBytes | .nonEmptyEventString maxBytes | .eventBytes maxBytes =>
          dsimp only
          split_ifs
          · exact incomplete_failsOnly (by decide)
          · exact failsOnly_ok ()
      | .eventVec inner maxItems =>
          dsimp only
          split_ifs
          · exact incomplete_failsOnly (by decide)
          · exact validateRecursive_failsOnly inner (by rw [nesting] at shallow; omega)
      | .option inner => exact validateRecursive_failsOnly inner (by rw [nesting] at shallow; omega)
      | .struct name fields => exact validateFields_failsOnly fields shallow
      | .enum name width variants =>
          dsimp only
          split_ifs
          · exact incomplete_failsOnly (by decide)
          · exact incomplete_failsOnly (by decide)
          · exact validateVariants_failsOnly variants [] shallow

/-- Fields that stay within the depth are not refused for it. -/
theorem validateFields_failsOnly {depth : Nat} : (fields : FieldDescriptors) →
    depth + fields.nesting ≤ maxDescriptorDepth →
    FailsOnly (· ≠ tooDeep) (validateFields (depth + 1) fields)
  | .nil, _ => failsOnly_ok ()
  | .cons name node rest, shallow => by
      rw [FieldDescriptors.nesting] at shallow
      exact failsOnly_refuseIf (incomplete_failsOnly (by decide))
        (failsOnly_bind (validateRecursive_failsOnly node (by omega)) fun _ =>
          validateFields_failsOnly rest (by omega))

/-- Variants that stay within the depth are not refused for it. -/
theorem validateVariants_failsOnly {depth : Nat} {width : UInt8} :
    (variants : VariantDescriptors) → (seen : List UInt32) →
    depth + variants.nesting ≤ maxDescriptorDepth →
    FailsOnly (· ≠ tooDeep) (validateVariants (depth + 1) width seen variants)
  | .nil, _, _ => failsOnly_ok ()
  | .cons discriminant name payload rest, seen, shallow => by
      rw [VariantDescriptors.nesting] at shallow
      refine failsOnly_refuseIf (incomplete_failsOnly (by decide)) ?_
      refine failsOnly_refuseIf (incomplete_failsOnly (by decide)) ?_
      refine failsOnly_refuseIf (incomplete_failsOnly (by decide)) ?_
      refine failsOnly_refuseIf (incomplete_failsOnly (by decide)) ?_
      exact failsOnly_bind (validatePayload_failsOnly payload (by omega)) fun _ =>
        validateVariants_failsOnly rest (discriminant :: seen) (by omega)

/-- Nor is the payload of a variant. -/
theorem validatePayload_failsOnly {depth : Nat} : (payload : VariantPayload) →
    depth + payload.nesting ≤ maxDescriptorDepth →
    FailsOnly (· ≠ tooDeep) (validatePayload (depth + 1) payload)
  | .none, _ => failsOnly_ok ()
  | .some node, shallow =>
      validateRecursive_failsOnly node (by rw [VariantPayload.nesting] at shallow; omega)

end

mutual

/-- A complete tree is within the limit. -/
theorem validateRecursive_ok {depth : Nat} : (node : DescriptorNode) →
    validateRecursive depth node = .ok () → depth + node.nesting ≤ maxDescriptorDepth
  | node, valid => by
      unfold validateRecursive at valid
      split_ifs at valid with deep
      · cases valid
      match node with
      | .u8 | .u16 | .u32 | .u64 | .i8 | .i16 | .i32 | .i64 | .bool | .timestamp | .uuid
      | .orderedF32 | .orderedF64 | .eventString _ | .nonEmptyEventString _ | .eventBytes _ =>
          exact Nat.le_of_not_lt deep
      | .eventVec inner maxItems =>
          dsimp only at valid
          split_ifs at valid
          · cases valid
          · have inside := validateRecursive_ok inner valid
            rw [nesting]
            omega
      | .option inner =>
          have inside := validateRecursive_ok inner valid
          rw [nesting]
          omega
      | .struct name fields => exact validateFields_ok (Nat.le_of_not_lt deep) fields valid
      | .enum name width variants =>
          dsimp only at valid
          split_ifs at valid
          · cases valid
          · cases valid
          · exact validateVariants_ok (Nat.le_of_not_lt deep) variants valid

/-- Fields that pass validation stay within the depth. -/
theorem validateFields_ok {depth : Nat} (opened : depth ≤ maxDescriptorDepth) :
    (fields : FieldDescriptors) → validateFields (depth + 1) fields = .ok () →
    depth + fields.nesting ≤ maxDescriptorDepth
  | .nil, _ => opened
  | .cons name node rest, valid => by
      rw [validateFields, refuseIf_eq_ok nofun] at valid
      simp only [bind_eq_ok] at valid
      obtain ⟨-, _, inside, others⟩ := valid
      have first := validateRecursive_ok node inside
      have later := validateFields_ok opened rest others
      rw [FieldDescriptors.nesting]
      omega

/-- Variants that pass validation stay within the depth. -/
theorem validateVariants_ok {depth : Nat} {width : UInt8} {seen : List UInt32}
    (opened : depth ≤ maxDescriptorDepth) : (variants : VariantDescriptors) →
    validateVariants (depth + 1) width seen variants = .ok () →
    depth + variants.nesting ≤ maxDescriptorDepth
  | .nil, _ => opened
  | .cons discriminant name payload rest, valid => by
      rw [validateVariants, refuseIf_eq_ok nofun, refuseIf_eq_ok nofun, refuseIf_eq_ok nofun,
        refuseIf_eq_ok nofun] at valid
      simp only [bind_eq_ok] at valid
      obtain ⟨-, -, -, -, _, inside, others⟩ := valid
      have first := validatePayload_ok opened payload inside
      have later := validateVariants_ok opened rest others
      rw [VariantDescriptors.nesting]
      omega

/-- So does the payload of a variant that passes. -/
theorem validatePayload_ok {depth : Nat} (opened : depth ≤ maxDescriptorDepth) :
    (payload : VariantPayload) → validatePayload (depth + 1) payload = .ok () →
    depth + payload.nesting ≤ maxDescriptorDepth
  | .none, _ => opened
  | .some node, valid => by
      have inside := validateRecursive_ok node valid
      rw [VariantPayload.nesting]
      omega

end

mutual

/-- A tree that is written is within the limit. -/
theorem encodeRecursive_nesting {depth : Nat} {bytes : Bytes} : (node : DescriptorNode) →
    encodeRecursive depth node = .ok bytes → depth + node.nesting ≤ maxDescriptorDepth
  | node, encoded => by
      have opened := (encodeRecursive_ok encoded).1
      unfold encodeRecursive at encoded
      rw [if_neg (Nat.not_lt.mpr opened)] at encoded
      match node with
      | .u8 | .u16 | .u32 | .u64 | .i8 | .i16 | .i32 | .i64 | .bool | .timestamp | .uuid
      | .orderedF32 | .orderedF64 | .eventString _ | .nonEmptyEventString _ | .eventBytes _ =>
          exact opened
      | .eventVec inner maxItems | .option inner =>
          simp only [bind_eq_ok] at encoded
          obtain ⟨inside, nested, -⟩ := encoded
          have inside := encodeRecursive_nesting inner nested
          rw [nesting]
          omega
      | .struct name fields =>
          simp only [bind_eq_ok] at encoded
          obtain ⟨-, -, -, -, body, nested, -⟩ := encoded
          exact encodeFields_nesting opened fields nested
      | .enum name width variants =>
          simp only [bind_eq_ok] at encoded
          obtain ⟨-, -, -, -, body, nested, -⟩ := encoded
          exact encodeVariants_nesting opened variants nested

/-- Fields that are written stay within the depth. -/
theorem encodeFields_nesting {depth : Nat} {bytes : Bytes} (opened : depth ≤ maxDescriptorDepth) :
    (fields : FieldDescriptors) → encodeFields (depth + 1) fields = .ok bytes →
    depth + fields.nesting ≤ maxDescriptorDepth
  | .nil, _ => opened
  | .cons name node rest, encoded => by
      simp only [encodeFields, bind_eq_ok] at encoded
      obtain ⟨-, -, inside, nested, others, later, -⟩ := encoded
      have first := encodeRecursive_nesting node nested
      have later := encodeFields_nesting opened rest later
      rw [FieldDescriptors.nesting]
      omega

/-- Variants that are written stay within the depth. -/
theorem encodeVariants_nesting {depth : Nat} {width : UInt8} {bytes : Bytes}
    (opened : depth ≤ maxDescriptorDepth) : (variants : VariantDescriptors) →
    encodeVariants (depth + 1) width variants = .ok bytes →
    depth + variants.nesting ≤ maxDescriptorDepth
  | .nil, _ => opened
  | .cons discriminant name payload rest, encoded => by
      simp only [encodeVariants, bind_eq_ok] at encoded
      obtain ⟨-, -, -, -, inside, nested, others, later, -⟩ := encoded
      have first := encodePayload_nesting opened payload nested
      have later := encodeVariants_nesting opened rest later
      rw [VariantDescriptors.nesting]
      omega

/-- So does the payload of a variant that is written. -/
theorem encodePayload_nesting {depth : Nat} {bytes : Bytes} (opened : depth ≤ maxDescriptorDepth) :
    (payload : VariantPayload) → encodePayload (depth + 1) payload = .ok bytes →
    depth + payload.nesting ≤ maxDescriptorDepth
  | .none, _ => opened
  | .some node, encoded => by
      have inside := encodeRecursive_nesting node encoded
      rw [VariantPayload.nesting]
      omega

end

/-- How measuring and writing fail: for a depth, where a tree is too deep, and for a size, where
a field does not fit. -/
def Refusal (deep unfit : Prop) : EncodeError → Prop
  | .depthExceeded _ _ => deep
  | .custom _ => unfit
  | _ => False

section Written

variable {deep unfit : Prop}

/-- A count is refused only where it does not fit its width. -/
theorem countLen_failsOnly {count : Nat} (fits : count ≤ u32Max ∨ unfit) :
    FailsOnly (Refusal deep unfit) (countLen count) := by
  unfold countLen
  split_ifs with within
  · exact failsOnly_ok count
  · exact failsOnly_error (fits.resolve_left within)

/-- The length of a name is refused only where it does not fit its width. -/
theorem nameLen_failsOnly {name : String} (fits : (utf8Bytes name).length ≤ u32Max ∨ unfit) :
    FailsOnly (Refusal deep unfit) (nameLen name) :=
  countLen_failsOnly fits

/-- A name is refused only where its length does not fit. -/
theorem encodeName_failsOnly {name : String} (fits : (utf8Bytes name).length ≤ u32Max ∨ unfit) :
    FailsOnly (Refusal deep unfit) (encodeName name) :=
  failsOnly_bind (nameLen_failsOnly fits) fun _ => failsOnly_ok _

/-- A discriminant is refused only where it does not fit the width of its enumeration. -/
theorem encodeDiscriminant_failsOnly {width : UInt8} {discriminant : UInt32}
    (fits : discriminant ≤ (if width = 1 then 255 else 65535) ∨ unfit) :
    FailsOnly (Refusal deep unfit) (encodeDiscriminant width discriminant) := by
  unfold encodeDiscriminant
  split_ifs at fits ⊢ with narrow exceeds exceeds
  · exact failsOnly_error (fits.resolve_left (UInt32.not_le.mpr exceeds))
  · exact failsOnly_ok _
  · exact failsOnly_error (fits.resolve_left (UInt32.not_le.mpr exceeds))
  · exact failsOnly_ok _

mutual

/-- A tree within the limit is not refused for its depth, and one whose fields fit for nothing
else. -/
theorem encodeRecursive_failsOnly {depth : Nat} : (node : DescriptorNode) →
    depth + node.nesting ≤ maxDescriptorDepth ∨ deep → node.FieldsFit ∨ unfit →
    FailsOnly (Refusal deep unfit) (encodeRecursive depth node)
  | node, shallow, fits => by
      unfold encodeRecursive
      split_ifs with exceeds
      · exact failsOnly_error (shallow.resolve_left (by omega))
      match node with
      | .u8 | .u16 | .u32 | .u64 | .i8 | .i16 | .i32 | .i64 | .bool | .timestamp | .uuid
      | .orderedF32 | .orderedF64 | .eventString _ | .nonEmptyEventString _ | .eventBytes _ =>
          exact failsOnly_ok _
      | .eventVec inner maxItems | .option inner =>
          refine failsOnly_bind (encodeRecursive_failsOnly inner ?_ fits) fun _ => failsOnly_ok _
          exact shallow.imp_left fun within => by
            rw [nesting] at within
            omega
      | .struct name fields =>
          exact failsOnly_bind (encodeName_failsOnly (fits.imp_left And.left)) fun _ =>
            failsOnly_bind (countLen_failsOnly (fits.imp_left fun fits => fits.2.1)) fun _ =>
            failsOnly_bind (encodeFields_failsOnly fields shallow
              (fits.imp_left fun fits => fits.2.2)) fun _ => failsOnly_ok _
      | .enum name width variants =>
          exact failsOnly_bind (encodeName_failsOnly (fits.imp_left And.left)) fun _ =>
            failsOnly_bind (countLen_failsOnly (fits.imp_left fun fits => fits.2.1)) fun _ =>
            failsOnly_bind (encodeVariants_failsOnly variants shallow
              (fits.imp_left fun fits => fits.2.2)) fun _ => failsOnly_ok _

/-- Writing fields fails for depth only where they go too deep, and otherwise only where
something does not fit. -/
theorem encodeFields_failsOnly {depth : Nat} : (fields : FieldDescriptors) →
    depth + fields.nesting ≤ maxDescriptorDepth ∨ deep → fields.FieldsFit ∨ unfit →
    FailsOnly (Refusal deep unfit) (encodeFields (depth + 1) fields)
  | .nil, _, _ => failsOnly_ok _
  | .cons name node rest, shallow, fits => by
      rw [FieldDescriptors.nesting] at shallow
      exact failsOnly_bind (encodeName_failsOnly (fits.imp_left And.left)) fun _ =>
        failsOnly_bind (encodeRecursive_failsOnly node (shallow.imp_left (by omega))
          (fits.imp_left fun fits => fits.2.1)) fun _ =>
        failsOnly_bind (encodeFields_failsOnly rest (shallow.imp_left (by omega))
          (fits.imp_left fun fits => fits.2.2)) fun _ => failsOnly_ok _

/-- Writing variants fails for depth only where they go too deep, and otherwise only where
something does not fit. -/
theorem encodeVariants_failsOnly {depth : Nat} {width : UInt8} : (variants : VariantDescriptors) →
    depth + variants.nesting ≤ maxDescriptorDepth ∨ deep → variants.FieldsFit width ∨ unfit →
    FailsOnly (Refusal deep unfit) (encodeVariants (depth + 1) width variants)
  | .nil, _, _ => failsOnly_ok _
  | .cons discriminant name payload rest, shallow, fits => by
      rw [VariantDescriptors.nesting] at shallow
      exact failsOnly_bind (encodeDiscriminant_failsOnly (fits.imp_left And.left)) fun _ =>
        failsOnly_bind (encodeName_failsOnly (fits.imp_left fun fits => fits.2.1)) fun _ =>
        failsOnly_bind (encodePayload_failsOnly payload (shallow.imp_left (by omega))
          (fits.imp_left fun fits => fits.2.2.1)) fun _ =>
        failsOnly_bind (encodeVariants_failsOnly rest (shallow.imp_left (by omega))
          (fits.imp_left fun fits => fits.2.2.2)) fun _ => failsOnly_ok _

/-- The same holds of writing the payload of a variant. -/
theorem encodePayload_failsOnly {depth : Nat} : (payload : VariantPayload) →
    depth + payload.nesting ≤ maxDescriptorDepth ∨ deep → payload.FieldsFit ∨ unfit →
    FailsOnly (Refusal deep unfit) (encodePayload (depth + 1) payload)
  | .none, _, _ => failsOnly_ok _
  | .some node, shallow, fits => by
      refine encodeRecursive_failsOnly node (shallow.imp_left fun within => ?_) fits
      rw [VariantPayload.nesting] at within
      omega

end

end Written

/-- Adding lengths fails by overflow alone, never for depth. -/
theorem addLens_failsOnly {deep : Prop} {total : Nat} {lens : List Nat} :
    FailsOnly (Refusal deep True) (addLens total lens) := by
  induction lens generalizing total with
  | nil => exact failsOnly_ok total
  | cons len lens ih =>
      unfold addLens
      split
      · exact failsOnly_error trivial
      · exact ih

mutual

/-- A tree within the limit is not refused for its depth where its length is computed. -/
theorem encodedLenRecursive_failsOnly {depth : Nat} : (node : DescriptorNode) →
    depth + node.nesting ≤ maxDescriptorDepth →
    FailsOnly (Refusal False True) (encodedLenRecursive depth node)
  | node, shallow => by
      unfold encodedLenRecursive
      rw [if_neg (by omega)]
      match node with
      | .u8 | .u16 | .u32 | .u64 | .i8 | .i16 | .i32 | .i64 | .bool | .timestamp | .uuid
      | .orderedF32 | .orderedF64 => exact failsOnly_ok 1
      | .eventString _ | .nonEmptyEventString _ | .eventBytes _ => exact addLens_failsOnly
      | .eventVec inner maxItems | .option inner =>
          refine failsOnly_bind (encodedLenRecursive_failsOnly inner ?_) fun _ => addLens_failsOnly
          rw [nesting] at shallow
          omega
      | .struct name fields =>
          exact failsOnly_bind (nameLen_failsOnly (.inr trivial)) fun _ =>
            failsOnly_bind addLens_failsOnly fun total =>
            failsOnly_bind (countLen_failsOnly (.inr trivial)) fun _ =>
            encodedLenFields_failsOnly total fields shallow
      | .enum name width variants =>
          exact failsOnly_bind (nameLen_failsOnly (.inr trivial)) fun _ =>
            failsOnly_bind addLens_failsOnly fun total =>
            failsOnly_bind (countLen_failsOnly (.inr trivial)) fun _ =>
            encodedLenVariants_failsOnly total variants shallow

/-- Measuring fields within the depth does not fail for it. -/
theorem encodedLenFields_failsOnly {depth : Nat} (total : Nat) : (fields : FieldDescriptors) →
    depth + fields.nesting ≤ maxDescriptorDepth →
    FailsOnly (Refusal False True) (encodedLenFields (depth + 1) total fields)
  | .nil, _ => failsOnly_ok total
  | .cons name node rest, shallow => by
      rw [FieldDescriptors.nesting] at shallow
      exact failsOnly_bind (nameLen_failsOnly (.inr trivial)) fun _ =>
        failsOnly_bind (encodedLenRecursive_failsOnly node (by omega)) fun _ =>
        failsOnly_bind addLens_failsOnly fun total =>
        encodedLenFields_failsOnly total rest (by omega)

/-- Measuring variants within the depth does not fail for it. -/
theorem encodedLenVariants_failsOnly {depth : Nat} {width : UInt8} (total : Nat) :
    (variants : VariantDescriptors) → depth + variants.nesting ≤ maxDescriptorDepth →
    FailsOnly (Refusal False True) (encodedLenVariants (depth + 1) width total variants)
  | .nil, _ => failsOnly_ok total
  | .cons discriminant name payload rest, shallow => by
      rw [VariantDescriptors.nesting] at shallow
      exact failsOnly_bind (encodeDiscriminant_failsOnly (.inr trivial)) fun _ =>
        failsOnly_bind (nameLen_failsOnly (.inr trivial)) fun _ =>
        failsOnly_bind (encodedLenPayload_failsOnly payload (by omega)) fun _ =>
        failsOnly_bind addLens_failsOnly fun total =>
        encodedLenVariants_failsOnly total rest (by omega)

/-- Nor does measuring the payload of a variant. -/
theorem encodedLenPayload_failsOnly {depth : Nat} : (payload : VariantPayload) →
    depth + payload.nesting ≤ maxDescriptorDepth →
    FailsOnly (Refusal False True) (encodedLenPayload (depth + 1) payload)
  | .none, _ => failsOnly_ok 1
  | .some node, shallow => by
      rw [VariantPayload.nesting] at shallow
      exact encodedLenRecursive_failsOnly node (by omega)

end

end DescriptorNode

end Pardosa
