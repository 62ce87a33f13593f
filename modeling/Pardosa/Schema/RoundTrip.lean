import Pardosa.Schema.Descriptor

/-!
# Descriptors on the wire and back

What the encoder writes, the decoder reads back as the same tree, whatever
follows it. The decoder works with cursors into one buffer, so every lemma
names the bytes before the cursor and those behind the encoding. The minimum
item sizes of the decoder's count checks never refuse an encoding.
-/

namespace Pardosa

open Foundation

/-- The length of a name is that of its UTF-8, and fits its width. -/
theorem nameLen_ok {name : String} {len : Nat} (encoded : nameLen name = .ok len) :
    len = (utf8Bytes name).length ∧ len ≤ u32Max := by
  unfold nameLen at encoded
  split_ifs at encoded with fits
  cases encoded
  exact ⟨rfl, fits⟩

/-- A count is itself, and fits its width. -/
theorem countLen_ok {count len : Nat} (encoded : countLen count = .ok len) :
    len = count ∧ len ≤ u32Max := by
  unfold countLen at encoded
  split_ifs at encoded with fits
  cases encoded
  exact ⟨rfl, fits⟩

/-- A name is written behind its length. -/
theorem encodeName_ok {name : String} {bytes : Bytes} (encoded : encodeName name = .ok bytes) :
    (utf8Bytes name).length ≤ u32Max ∧
      bytes = leBytes 4 (utf8Bytes name).length ++ utf8Bytes name := by
  simp only [encodeName, bind_eq_ok, pure_eq_ok] at encoded
  obtain ⟨len, named, rfl⟩ := encoded
  obtain ⟨rfl, fits⟩ := nameLen_ok named
  exact ⟨fits, rfl⟩

/-- A discriminant takes as many bytes as its width says, once the width is one
the decoder knows. -/
theorem encodeDiscriminant_ok {width : UInt8} {discriminant : UInt32} {bytes : Bytes}
    (known : width = 1 ∨ width = 2) (encoded : encodeDiscriminant width discriminant = .ok bytes) :
    bytes = leBytes width.toNat discriminant.toNat ∧
      discriminant.toNat < 256 ^ width.toNat := by
  unfold encodeDiscriminant at encoded
  rcases known with rfl | rfl
  · rw [if_pos rfl] at encoded
    split_ifs at encoded with exceeds
    cases encoded
    refine ⟨rfl, ?_⟩
    have below : ¬255 < discriminant.toNat := fun above =>
      exceeds (UInt32.lt_iff_toNat_lt.mpr above)
    change discriminant.toNat < 256
    omega
  · rw [if_neg (by decide)] at encoded
    split_ifs at encoded with exceeds
    cases encoded
    refine ⟨rfl, ?_⟩
    have below : ¬65535 < discriminant.toNat :=
      fun above => exceeds (UInt32.lt_iff_toNat_lt.mpr above)
    change discriminant.toNat < 65536
    omega

namespace DescriptorNode

mutual

/-- Every discriminant width in a tree is one the decoder knows. -/
def WidthsKnown : DescriptorNode → Prop
  | .u8 | .u16 | .u32 | .u64 | .i8 | .i16 | .i32 | .i64 | .bool | .timestamp | .uuid
  | .orderedF32 | .orderedF64 | .eventString _ | .nonEmptyEventString _ | .eventBytes _ => True
  | .eventVec inner _ | .option inner => inner.WidthsKnown
  | .struct _ fields => FieldWidthsKnown fields
  | .enum _ width variants => (width = 1 ∨ width = 2) ∧ VariantWidthsKnown variants

def FieldWidthsKnown : FieldDescriptors → Prop
  | .nil => True
  | .cons _ node rest => node.WidthsKnown ∧ FieldWidthsKnown rest

def VariantWidthsKnown : VariantDescriptors → Prop
  | .nil => True
  | .cons _ _ payload rest => PayloadWidthsKnown payload ∧ VariantWidthsKnown rest

def PayloadWidthsKnown : VariantPayload → Prop
  | .none => True
  | .some node => node.WidthsKnown

end

/-- No constructor has the tag that marks a unit variant. -/
theorem constructorTag_ne_zero (node : DescriptorNode) : node.constructorTag ≠ 0x00 := by
  cases node <;> simp only [constructorTag] <;> decide

/-- Whatever a node encodes to starts with its tag, and its depth is open. -/
theorem encodeRecursive_ok {depth : Nat} {node : DescriptorNode} {bytes : Bytes}
    (encoded : encodeRecursive depth node = .ok bytes) :
    depth ≤ maxDescriptorDepth ∧ ∃ tail, bytes = node.constructorTag :: tail := by
  unfold encodeRecursive at encoded
  split_ifs at encoded with deep
  refine ⟨Nat.le_of_not_gt deep, ?_⟩
  cases node <;> simp only [Except.ok.injEq, bind_eq_ok, pure_eq_ok] at encoded
  case eventVec inner maxItems =>
    obtain ⟨inside, -, rfl⟩ := encoded
    exact ⟨_, rfl⟩
  case option inner =>
    obtain ⟨inside, -, rfl⟩ := encoded
    exact ⟨_, rfl⟩
  case struct name fields =>
    obtain ⟨nameBytes, -, count, -, body, -, rfl⟩ := encoded
    exact ⟨_, rfl⟩
  case enum name width variants =>
    obtain ⟨nameBytes, -, count, -, body, -, rfl⟩ := encoded
    exact ⟨_, rfl⟩
  all_goals exact ⟨_, encoded.symm⟩

/-- Every field takes at least the five bytes the decoder's count check asks
for. -/
theorem encodeFields_length {depth : Nat} {fields : FieldDescriptors} {body : Bytes}
    (encoded : encodeFields depth fields = .ok body) : 5 * fields.length ≤ body.length := by
  match fields with
  | .nil =>
      exact Nat.zero_le _
  | .cons name node rest =>
      simp only [encodeFields, bind_eq_ok, pure_eq_ok] at encoded
      obtain ⟨nameBytes, named, bytes, inner, others, later, rfl⟩ := encoded
      obtain ⟨-, rfl⟩ := encodeName_ok named
      obtain ⟨-, tail, rfl⟩ := encodeRecursive_ok inner
      have rest := encodeFields_length later
      simp only [FieldDescriptors.length, List.length_append, List.length_cons, length_leBytes]
      omega

/-- The payload of a variant takes at least a byte. -/
theorem encodePayload_length {depth : Nat} {payload : VariantPayload} {bytes : Bytes}
    (encoded : encodePayload depth payload = .ok bytes) : 1 ≤ bytes.length := by
  cases payload with
  | none =>
      cases encoded
      exact Nat.le_refl 1
  | some node =>
      obtain ⟨-, tail, rfl⟩ := encodeRecursive_ok encoded
      exact Nat.le_add_left 1 _

/-- Every variant takes at least its discriminant, a name length and a payload. -/
theorem encodeVariants_length {depth : Nat} {width : UInt8} {variants : VariantDescriptors}
    {body : Bytes} (known : width = 1 ∨ width = 2)
    (encoded : encodeVariants depth width variants = .ok body) :
    (width.toNat + 5) * variants.length ≤ body.length := by
  match variants with
  | .nil =>
      exact Nat.zero_le _
  | .cons discriminant name payload rest =>
      simp only [encodeVariants, bind_eq_ok, pure_eq_ok] at encoded
      obtain ⟨tagged, discriminated, nameBytes, named, bytes, inner, others, later, rfl⟩ := encoded
      obtain ⟨rfl, -⟩ := encodeDiscriminant_ok known discriminated
      obtain ⟨-, rfl⟩ := encodeName_ok named
      have some := encodePayload_length inner
      have rest := encodeVariants_length known later
      simp only [VariantDescriptors.length, List.length_append, length_leBytes,
        Nat.mul_add, Nat.mul_one]
      omega

section Cursor

variable {buf : Bytes} {cursor : Nat}

/-- A name at the cursor is read back. -/
theorem decodeName_encode {name : String} {bytes : Bytes} (before after : Bytes)
    (encoded : encodeName name = .ok bytes) (layout : buf = before ++ (bytes ++ after))
    (at_cursor : before.length = cursor) :
    decodeName buf cursor = .ok (name, cursor + bytes.length) := by
  obtain ⟨fits, rfl⟩ := encodeName_ok encoded
  subst at_cursor layout
  have len : (readU32 (before ++ (leBytes 4 (utf8Bytes name).length ++ (utf8Bytes name ++ after)))
      before.length).toNat = (utf8Bytes name).length :=
    readU32_toNat_eq before _ (by unfold u32Max at fits; omega) rfl rfl
  have text : ((before ++ (leBytes 4 (utf8Bytes name).length ++ (utf8Bytes name ++ after))).drop
      (before.length + 4)).take (utf8Bytes name).length = utf8Bytes name := by
    rw [← List.append_assoc, List.drop_left' (by simp)]
    exact List.take_left' rfl
  unfold decodeName
  rw [List.append_assoc, if_neg (by simp)]
  simp only [len, text, decodeUtf8_utf8Bytes]
  rw [if_neg (by simp; omega)]
  simp only [List.length_append, length_leBytes]
  congr 2
  omega

/-- A count at the cursor is read back when the rest can hold as many items. -/
theorem decodeCount_encode {count minBytesPerItem : Nat} (before after : Bytes)
    (fits : count ≤ u32Max) (positive : 0 < minBytesPerItem)
    (holds : minBytesPerItem * count ≤ after.length)
    (layout : buf = before ++ (leBytes 4 count ++ after)) (at_cursor : before.length = cursor) :
    decodeCount buf cursor minBytesPerItem = .ok (count, cursor + 4) := by
  subst at_cursor layout
  have room : ((before ++ (leBytes 4 count ++ after)).length - (before.length + 4)) /
      minBytesPerItem ≥ count := by
    refine (Nat.le_div_iff_mul_le positive).mpr ?_
    rw [Nat.mul_comm]
    simp only [List.length_append, length_leBytes]
    omega
  have len : (readU32 (before ++ (leBytes 4 count ++ after)) before.length).toNat = count :=
    readU32_toNat_eq before after (by unfold u32Max at fits; omega) rfl rfl
  unfold decodeCount
  rw [if_neg (by simp)]
  simp only [len]
  rw [if_neg (Nat.not_lt.mpr room)]
  rfl

/-- A discriminant at the cursor is read back. -/
theorem decodeDiscriminant_encode {width : UInt8} {discriminant : UInt32} {bytes : Bytes}
    (before after : Bytes) (known : width = 1 ∨ width = 2)
    (encoded : encodeDiscriminant width discriminant = .ok bytes)
    (layout : buf = before ++ (bytes ++ after)) (at_cursor : before.length = cursor) :
    decodeDiscriminant buf width cursor = .ok (discriminant, cursor + bytes.length) := by
  obtain ⟨rfl, bounded⟩ := encodeDiscriminant_ok known encoded
  subst at_cursor layout
  have field : ((before ++ (leBytes width.toNat discriminant.toNat ++ after)).drop
      before.length).take width.toNat = leBytes width.toNat discriminant.toNat := by
    rw [List.drop_left]
    exact List.take_left' (length_leBytes _ _)
  have value : UInt32.ofNat (leValue (((before ++ (leBytes width.toNat discriminant.toNat ++
      after)).drop before.length).take width.toNat)) = discriminant := by
    rw [field, leValue_leBytes_of_lt bounded, UInt32.ofNat_toNat]
  unfold decodeDiscriminant
  rw [if_neg (by simp), length_leBytes]
  rcases known with rfl | rfl
  · rw [if_pos rfl]
    exact congrArg (fun found => Except.ok (found, before.length + 1)) value
  · rw [if_neg (by decide)]
    exact congrArg (fun found => Except.ok (found, before.length + 2)) value

end Cursor

/-- A bound behind a tag is read back. -/
theorem decodeBound_encode (tag : UInt8) (bound : UInt32) (after : Bytes)
    (node : UInt32 → DescriptorNode) :
    decodeBound (tag :: (writeU32 bound ++ after)) node = .ok (node bound, 5) := by
  have field : readU32 (tag :: (writeU32 bound ++ after)) 1 = bound :=
    readU32_eq [tag] after bound rfl rfl
  unfold decodeBound
  rw [if_neg (by simp), field]

mutual

/-- What a node encodes to is read back as that node, whatever follows it. -/
theorem decodeRecursive_encode {depth remaining : Nat} {bytes : Bytes} (after : Bytes) :
    (node : DescriptorNode) → encodeRecursive depth node = .ok bytes → node.WidthsKnown →
    depth + remaining = maxDescriptorDepth + 1 →
    decodeRecursive remaining (bytes ++ after) = .ok (node, bytes.length)
  | node, encoded, known, level => by
      obtain ⟨opened, -⟩ := encodeRecursive_ok encoded
      obtain ⟨remaining, rfl⟩ : ∃ fewer, remaining = fewer + 1 :=
        Nat.exists_eq_add_of_le' (by omega)
      have deeper : depth + 1 + remaining = maxDescriptorDepth + 1 := by omega
      unfold encodeRecursive at encoded
      rw [if_neg (Nat.not_lt.mpr opened)] at encoded
      match node with
      | .eventVec inner maxItems =>
          simp only [bind_eq_ok, pure_eq_ok] at encoded
          obtain ⟨inside, nested, rfl⟩ := encoded
          have read := decodeRecursive_encode (writeU32 maxItems ++ after) inner nested known deeper
          have bound : readU32 (0x0D :: (inside ++ (writeU32 maxItems ++ after)))
              (1 + inside.length) = maxItems :=
            readU32_eq (0x0D :: inside) after maxItems (by simp) (by simp; omega)
          simp only [constructorTag, List.cons_append, List.append_assoc, decodeRecursive, read,
            ok_bind, bound]
          rw [if_neg (by simp; omega)]
          simp only [List.length_cons, List.length_append, length_writeU32]
          congr 2
          omega
      | .option inner =>
          simp only [bind_eq_ok, pure_eq_ok] at encoded
          obtain ⟨inside, nested, rfl⟩ := encoded
          have read := decodeRecursive_encode after inner nested known deeper
          simp only [constructorTag, List.cons_append, decodeRecursive, read, ok_bind]
          simp only [List.length_cons, Nat.add_comm 1]
          rfl
      | .struct name fields =>
          simp only [bind_eq_ok, pure_eq_ok] at encoded
          obtain ⟨nameBytes, named, count, counted, body, nested, rfl⟩ := encoded
          obtain ⟨rfl, fits⟩ := countLen_ok counted
          have room : 5 * fields.length ≤ (body ++ after).length := by
            have enough := encodeFields_length nested
            rw [List.length_append]
            omega
          have text : decodeName (0x0F :: (nameBytes ++ (leBytes 4 fields.length ++
              (body ++ after)))) 1 = .ok (name, 1 + nameBytes.length) :=
            decodeName_encode [0x0F] _ named rfl rfl
          have items : decodeCount (0x0F :: (nameBytes ++ (leBytes 4 fields.length ++
              (body ++ after)))) (1 + nameBytes.length) 5 =
              .ok (fields.length, 1 + nameBytes.length + 4) :=
            decodeCount_encode (0x0F :: nameBytes) _ fits (by decide) room rfl
              (by simp only [List.length_cons]; omega)
          have read : decodeFields (decodeRecursive remaining) (0x0F :: (nameBytes ++
              (leBytes 4 fields.length ++ (body ++ after)))) fields.length
              (1 + nameBytes.length + 4) = .ok (fields, 1 + nameBytes.length + 4 + body.length) :=
            decodeFields_encode (0x0F :: (nameBytes ++ leBytes 4 fields.length)) after
              fields nested known deeper (by simp) (by simp; omega)
          simp only [constructorTag, List.cons_append, List.append_assoc, decodeRecursive, text,
            ok_bind, items, read]
          simp only [List.length_cons, List.length_append, length_leBytes]
          congr 2
          omega
      | .enum name width variants =>
          simp only [bind_eq_ok, pure_eq_ok] at encoded
          obtain ⟨nameBytes, named, count, counted, body, nested, rfl⟩ := encoded
          obtain ⟨rfl, fits⟩ := countLen_ok counted
          obtain ⟨knownWidth, knownVariants⟩ := known
          have room : (width.toNat + 5) * variants.length ≤ (body ++ after).length := by
            have enough := encodeVariants_length knownWidth nested
            rw [List.length_append]
            omega
          have text : decodeName (0x10 :: (nameBytes ++ (width :: (leBytes 4 variants.length ++
              (body ++ after))))) 1 = .ok (name, 1 + nameBytes.length) :=
            decodeName_encode [0x10] _ named rfl rfl
          have shown : ((0x10 :: (nameBytes ++ (width :: (leBytes 4 variants.length ++
              (body ++ after)))) : Bytes).drop (1 + nameBytes.length)).head? = some width := by
            rw [Nat.add_comm, List.drop_succ_cons, List.drop_left]
            rfl
          have items : decodeCount (0x10 :: (nameBytes ++ (width :: (leBytes 4 variants.length ++
              (body ++ after))))) (1 + nameBytes.length + 1) (width.toNat + 5) =
              .ok (variants.length, 1 + nameBytes.length + 1 + 4) :=
            decodeCount_encode (0x10 :: (nameBytes ++ [width])) _ fits (by omega) room (by simp)
              (by simp; omega)
          have read : decodeVariants (decodeRecursive remaining) (0x10 :: (nameBytes ++ (width ::
              (leBytes 4 variants.length ++ (body ++ after))))) width variants.length
              (1 + nameBytes.length + 1 + 4) =
              .ok (variants, 1 + nameBytes.length + 1 + 4 + body.length) :=
            decodeVariants_encode (0x10 :: (nameBytes ++ (width :: leBytes 4 variants.length)))
              after variants nested knownWidth knownVariants deeper (by simp) (by simp; omega)
          have admitted : ¬(width ≠ 1 ∧ width ≠ 2) := by
            rintro ⟨notOne, notTwo⟩
            exact knownWidth.elim notOne notTwo
          simp only [constructorTag, List.cons_append, List.nil_append, List.append_assoc,
            decodeRecursive, text, ok_bind, shown]
          rw [if_neg admitted]
          simp only [items, ok_bind, read]
          simp only [List.length_cons, List.length_append, length_leBytes]
          congr 2
          omega
      | .eventString maxBytes =>
          cases encoded
          exact decodeBound_encode 0x0A maxBytes after .eventString
      | .nonEmptyEventString maxBytes =>
          cases encoded
          exact decodeBound_encode 0x0B maxBytes after .nonEmptyEventString
      | .eventBytes maxBytes =>
          cases encoded
          exact decodeBound_encode 0x0C maxBytes after .eventBytes
      | .u8 | .u16 | .u32 | .u64 | .i8 | .i16 | .i32 | .i64 | .bool | .timestamp | .uuid
      | .orderedF32 | .orderedF64 =>
          cases encoded
          rfl

/-- Fields are read back one after another. -/
theorem decodeFields_encode {depth remaining : Nat} {body buf : Bytes} {cursor : Nat}
    (before after : Bytes) :
    (fields : FieldDescriptors) → encodeFields depth fields = .ok body → FieldWidthsKnown fields →
    depth + remaining = maxDescriptorDepth + 1 → buf = before ++ (body ++ after) →
    before.length = cursor →
    decodeFields (decodeRecursive remaining) buf fields.length cursor =
      .ok (fields, cursor + body.length)
  | .nil, encoded, _, _, _, _ => by
      cases encoded
      rfl
  | .cons name node rest, encoded, known, level, layout, at_cursor => by
      simp only [encodeFields, bind_eq_ok, pure_eq_ok] at encoded
      obtain ⟨nameBytes, named, bytes, inner, others, later, rfl⟩ := encoded
      subst at_cursor
      have text : decodeName buf before.length = .ok (name, before.length + nameBytes.length) :=
        decodeName_encode before (bytes ++ (others ++ after)) named
          (by rw [layout]; simp only [List.append_assoc]) rfl
      have rest_eq : buf.drop (before.length + nameBytes.length) = bytes ++ (others ++ after) := by
        simp only [layout, List.append_assoc]
        rw [← List.append_assoc before, List.drop_left' List.length_append]
      have read := decodeRecursive_encode (others ++ after) node inner known.1 level
      have later_read : decodeFields (decodeRecursive remaining) buf rest.length
          (before.length + nameBytes.length + bytes.length) =
          .ok (rest, before.length + nameBytes.length + bytes.length + others.length) :=
        decodeFields_encode (before ++ (nameBytes ++ bytes)) after rest later known.2 level
          (by rw [layout]; simp only [List.append_assoc]) (by simp; omega)
      simp only [FieldDescriptors.length, decodeFields, text, ok_bind, rest_eq, read, later_read]
      simp only [List.length_append]
      congr 2
      omega

/-- Variants are read back one after another. -/
theorem decodeVariants_encode {depth remaining : Nat} {width : UInt8} {body buf : Bytes}
    {cursor : Nat} (before after : Bytes) :
    (variants : VariantDescriptors) → encodeVariants depth width variants = .ok body →
    width = 1 ∨ width = 2 → VariantWidthsKnown variants →
    depth + remaining = maxDescriptorDepth + 1 → buf = before ++ (body ++ after) →
    before.length = cursor →
    decodeVariants (decodeRecursive remaining) buf width variants.length cursor =
      .ok (variants, cursor + body.length)
  | .nil, encoded, _, _, _, _, _ => by
      cases encoded
      rfl
  | .cons discriminant name payload rest, encoded, knownWidth, known, level, layout, at_cursor => by
      simp only [encodeVariants, bind_eq_ok, pure_eq_ok] at encoded
      obtain ⟨tagged, discriminated, nameBytes, named, bytes, inner, others, later, rfl⟩ := encoded
      subst at_cursor
      have tag : decodeDiscriminant buf width before.length =
          .ok (discriminant, before.length + tagged.length) :=
        decodeDiscriminant_encode before (nameBytes ++ (bytes ++ (others ++ after))) knownWidth
          discriminated (by rw [layout]; simp only [List.append_assoc]) rfl
      have text : decodeName buf (before.length + tagged.length) =
          .ok (name, before.length + tagged.length + nameBytes.length) :=
        decodeName_encode (before ++ tagged) (bytes ++ (others ++ after)) named
          (by rw [layout]; simp only [List.append_assoc]) (by simp)
      have rest_eq : buf.drop (before.length + tagged.length + nameBytes.length) =
          bytes ++ (others ++ after) := by
        simp only [layout, List.append_assoc]
        rw [← List.append_assoc tagged, ← List.append_assoc before,
          List.drop_left' (by simp; omega)]
      have later_read : decodeVariants (decodeRecursive remaining) buf width rest.length
          (before.length + tagged.length + nameBytes.length + bytes.length) = .ok (rest,
            before.length + tagged.length + nameBytes.length + bytes.length + others.length) :=
        decodeVariants_encode (before ++ (tagged ++ (nameBytes ++ bytes))) after rest later
          knownWidth known.2 level (by rw [layout]; simp only [List.append_assoc]) (by simp; omega)
      simp only [VariantDescriptors.length, decodeVariants, tag, text, ok_bind, rest_eq]
      match payload with
      | .none =>
          cases inner
          have later_read' : decodeVariants (decodeRecursive remaining) buf width rest.length
              (before.length + tagged.length + nameBytes.length + 1) = _ := later_read
          simp only [List.cons_append, List.head?_cons, later_read', ok_bind]
          simp only [List.length_append, List.length_cons, List.length_nil]
          congr 2
          omega
      | .some node =>
          have read := decodeRecursive_encode (others ++ after) node inner known.1 level
          obtain ⟨-, tail, rfl⟩ := encodeRecursive_ok inner
          -- The tag is not the mark of a unit variant, so the decoder reads a node here.
          have marked := constructorTag_ne_zero node
          simp only [List.cons_append, List.head?_cons] at read ⊢
          simp only [read, ok_bind, later_read]
          simp only [List.length_append, List.length_cons]
          congr 2
          omega

end

/-- What a descriptor encodes to decodes to it and is consumed as a whole. -/
theorem decode_encode {node : DescriptorNode} {bytes : Bytes} (encoded : node.encode = .ok bytes)
    (known : node.WidthsKnown) (after : Bytes) :
    decode (bytes ++ after) = .ok (node, bytes.length) :=
  decodeRecursive_encode after node encoded known (Nat.zero_add _)

/-- A refusal for want of structure is a refusal. -/
theorem incomplete_ne_ok {constraint : ValueConstraint} {detail : String} {done : Unit} :
    incomplete constraint detail ≠ .ok done := by
  rintro ⟨⟩

/-- A check of the validator passes exactly where its condition fails. -/
theorem incompleteIf_eq_ok {condition : Prop} [Decidable condition] {constraint : ValueConstraint}
    {detail : String} {next : Except OperationFailure Unit} {done : Unit} :
    (if condition then (do incomplete constraint detail; next) else next) = .ok done ↔
      ¬condition ∧ next = .ok done :=
  refuseIf_eq_ok fun _ => incomplete_ne_ok

mutual

/-- A complete tree has only widths the decoder knows. -/
theorem widthsKnown_of_validateRecursive {depth : Nat} :
    (node : DescriptorNode) → validateRecursive depth node = .ok () → node.WidthsKnown
  | node, complete => by
      unfold validateRecursive at complete
      split_ifs at complete with deep
      · exact (incomplete_ne_ok complete).elim
      match node with
      | .eventVec inner maxItems =>
          dsimp only at complete
          split_ifs at complete with unbounded
          · exact (incomplete_ne_ok complete).elim
          exact widthsKnown_of_validateRecursive inner complete
      | .option inner => exact widthsKnown_of_validateRecursive inner complete
      | .struct name fields => exact fieldWidthsKnown_of_validateFields fields complete
      | .enum name width variants =>
          dsimp only at complete
          split_ifs at complete with empty unknown
          · exact (incomplete_ne_ok complete).elim
          · exact (incomplete_ne_ok complete).elim
          refine ⟨?_, variantWidthsKnown_of_validateVariants variants complete⟩
          by_contra neither
          exact unknown (not_or.mp neither)
      | .u8 | .u16 | .u32 | .u64 | .i8 | .i16 | .i32 | .i64 | .bool | .timestamp | .uuid
      | .orderedF32 | .orderedF64 | .eventString _ | .nonEmptyEventString _ | .eventBytes _ =>
          trivial

/-- Fields that pass validation have known widths. -/
theorem fieldWidthsKnown_of_validateFields {depth : Nat} :
    (fields : FieldDescriptors) → validateFields depth fields = .ok () → FieldWidthsKnown fields
  | .nil, _ => trivial
  | .cons name node rest, complete => by
      simp only [validateFields, incompleteIf_eq_ok, bind_eq_ok] at complete
      obtain ⟨-, _, inner, later⟩ := complete
      exact ⟨widthsKnown_of_validateRecursive node inner,
        fieldWidthsKnown_of_validateFields rest later⟩

/-- So have variants that pass. -/
theorem variantWidthsKnown_of_validateVariants {depth : Nat} {width : UInt8} {seen : List UInt32} :
    (variants : VariantDescriptors) → validateVariants depth width seen variants = .ok () →
    VariantWidthsKnown variants
  | .nil, _ => trivial
  | .cons discriminant name payload rest, complete => by
      simp only [validateVariants, incompleteIf_eq_ok, bind_eq_ok] at complete
      obtain ⟨-, -, -, -, _, inner, later⟩ := complete
      refine ⟨?_, variantWidthsKnown_of_validateVariants rest later⟩
      match payload with
      | .none => trivial
      | .some node => exact widthsKnown_of_validateRecursive node inner

end

end DescriptorNode

/-- What admission says of a descriptor: its tree is complete, and the record is
the encoding of its version and tree. -/
theorem AdmittedDescriptor.tryFromDescriptor_ok [Digests] {descriptor : SchemaDescriptor}
    {admitted : AdmittedDescriptor} (admits : tryFromDescriptor descriptor = .ok admitted) :
    ∃ bytes, descriptor.root.encode = .ok bytes ∧ descriptor.root.WidthsKnown ∧
      admitted.descriptor = descriptor ∧
      admitted.encodedRecord =
        (OwnershipRecord.schemaDescriptor descriptor.version bytes).encode := by
  simp only [tryFromDescriptor, throwIf_eq_ok, bind_eq_ok, mapError_eq_ok, pure_eq_ok] at admits
  obtain ⟨_, complete, recordLen, -, -, bytes, encoded, rfl⟩ := admits
  unfold SchemaDescriptor.validateStructuralCompleteness at complete
  split_ifs at complete
  exact ⟨bytes, encoded, DescriptorNode.widthsKnown_of_validateRecursive _ complete, rfl, rfl⟩

end Pardosa
