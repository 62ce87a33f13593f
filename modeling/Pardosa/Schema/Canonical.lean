import Pardosa.Foundation.Layout
import Pardosa.Schema.RoundTrip

/-!
# Descriptors are canonical

Whatever the decoder reads is what the encoder writes for the tree it answers: no
two byte strings stand for one tree. The decoder works with cursors, so each lemma
says which bytes stand between the cursor it starts from and the one it answers.
-/

namespace Pardosa

open Foundation

namespace DescriptorNode

section Cursor

variable {buf : Bytes} {cursor after : Nat}

/-- A name that is read stands there as it is written. -/
theorem decodeName_ok {name : String} (decoded : decodeName buf cursor = .ok (name, after)) :
    ∃ bytes, encodeName name = .ok bytes ∧ Stands buf cursor bytes after := by
  simp only [decodeName, throwIf_eq_ok] at decoded
  obtain ⟨enough, within, decoded⟩ := decoded
  have prefixed : Stands buf cursor (writeU32 (readU32 buf cursor)) (cursor + 4) :=
    .word (by omega) rfl
  have text : Stands buf (cursor + 4) _ (cursor + 4 + (readU32 buf cursor).toNat) :=
    .field (by omega)
  split at decoded
  · cases decoded
  · rename_i found utf8
    cases decoded
    have bytes := utf8Bytes_of_decodeUtf8 utf8
    rw [← bytes] at text
    have length : (utf8Bytes name).length = (readU32 buf cursor).toNat := by
      have total := text.length
      omega
    refine ⟨writeU32 (readU32 buf cursor) ++ utf8Bytes name, ?_, prefixed.append text⟩
    unfold encodeName nameLen
    rw [length, if_pos (toNat_le_u32Max _)]
    rfl

/-- A count that is read stands there as it is written. -/
theorem decodeCount_ok {minBytesPerItem count : Nat}
    (decoded : decodeCount buf cursor minBytesPerItem = .ok (count, after)) :
    countLen count = .ok count ∧ Stands buf cursor (leBytes 4 count) after := by
  simp only [decodeCount, throwIf_eq_ok, pure_eq_ok] at decoded
  obtain ⟨enough, -, decoded⟩ := decoded
  cases decoded
  exact ⟨if_pos (toNat_le_u32Max _), .word (by omega) rfl⟩

/-- A discriminant that is read stands there as it is written. -/
theorem decodeDiscriminant_ok {width : UInt8} {discriminant : UInt32}
    (known : width = 1 ∨ width = 2)
    (decoded : decodeDiscriminant buf width cursor = .ok (discriminant, after)) :
    ∃ bytes, encodeDiscriminant width discriminant = .ok bytes ∧
      Stands buf cursor bytes after := by
  simp only [decodeDiscriminant, throwIf_eq_ok] at decoded
  obtain ⟨enough, decoded⟩ := decoded
  have small : ∀ {count : Nat}, cursor + count ≤ buf.length → 256 ^ count ≤ 256 ^ 2 →
      (UInt32.ofNat (leValue ((buf.drop cursor).take count))).toNat =
        leValue ((buf.drop cursor).take count) ∧
      leValue ((buf.drop cursor).take count) < 256 ^ count ∧
      leBytes count (leValue ((buf.drop cursor).take count)) = (buf.drop cursor).take count := by
    intro count fits narrow
    have sized : ((buf.drop cursor).take count).length = count := by
      rw [List.length_take, List.length_drop]
      omega
    have bounded := leValue_lt ((buf.drop cursor).take count)
    rw [sized] at bounded
    refine ⟨?_, bounded, leBytes_leValue_of_length sized⟩
    rw [UInt32.toNat_ofNat']
    exact Nat.mod_eq_of_lt (by omega)
  rcases known with rfl | rfl
  · have fits : cursor + 1 ≤ buf.length := Nat.le_of_not_lt enough
    rw [if_pos rfl] at decoded
    cases decoded
    obtain ⟨value, bounded, written⟩ := small fits (by decide)
    refine ⟨_, ?_, .field fits⟩
    unfold encodeDiscriminant
    rw [if_pos rfl, if_neg ?_, value, written]
    intro exceeds
    have above := UInt32.lt_iff_toNat_lt.mp exceeds
    rw [value] at above
    have limit : (255 : UInt32).toNat = 255 := rfl
    omega
  · have fits : cursor + 2 ≤ buf.length := Nat.le_of_not_lt enough
    rw [if_neg (by decide)] at decoded
    cases decoded
    obtain ⟨value, bounded, written⟩ := small fits (by decide)
    refine ⟨_, ?_, .field fits⟩
    unfold encodeDiscriminant
    rw [if_neg (by decide), if_neg ?_, value, written]
    intro exceeds
    have above := UInt32.lt_iff_toNat_lt.mp exceeds
    rw [value] at above
    have limit : (65535 : UInt32).toNat = 65535 := rfl
    omega

end Cursor

/-- A reader of nodes answers only what the encoder writes at a depth. -/
def ReadsCanonically (decodeNode : Bytes → Except DecodeError (DescriptorNode × Nat))
    (depth : Nat) : Prop :=
  ∀ {buf node consumed}, decodeNode buf = .ok (node, consumed) →
    ∃ bytes, encodeRecursive depth node = .ok bytes ∧ bytes.length = consumed ∧ bytes <+: buf

section Items

variable {decodeNode : Bytes → Except DecodeError (DescriptorNode × Nat)} {depth : Nat}
  {buf : Bytes}
  {after : Nat}

/-- Fields that are read stand there as they are written. -/
theorem decodeFields_ok (reads : ReadsCanonically decodeNode depth) {count cursor : Nat}
    {fields : FieldDescriptors}
    (decoded : decodeFields decodeNode buf count cursor = .ok (fields, after)) :
    fields.length = count ∧ ∃ body, encodeFields depth fields = .ok body ∧
      Stands buf cursor body after := by
  induction count generalizing cursor fields with
  | zero =>
      cases decoded
      exact ⟨rfl, [], rfl, .nil _ _⟩
  | succ count ih =>
      simp only [decodeFields, bind_eq_ok, pure_eq_ok] at decoded
      obtain ⟨⟨name, named⟩, text, ⟨node, consumed⟩, inner, ⟨rest, finish⟩, later, decoded⟩ :=
        decoded
      cases decoded
      obtain ⟨nameBytes, nameEncoded, nameStands⟩ := decodeName_ok text
      obtain ⟨bytes, encoded, length, begins⟩ := reads inner
      obtain ⟨counted, others, othersEncoded, othersStand⟩ := ih later
      refine ⟨by rw [FieldDescriptors.length, counted], nameBytes ++ (bytes ++ others), ?_,
        nameStands.append ((Stands.shift length begins).append othersStand)⟩
      simp only [encodeFields, nameEncoded, encoded, othersEncoded, ok_bind]
      rfl

/-- Variants that are read stand there as they are written. -/
theorem decodeVariants_ok (reads : ReadsCanonically decodeNode depth) {width : UInt8}
    (known : width = 1 ∨ width = 2) {count cursor : Nat} {variants : VariantDescriptors}
    (decoded : decodeVariants decodeNode buf width count cursor = .ok (variants, after)) :
    variants.length = count ∧ ∃ body, encodeVariants depth width variants = .ok body ∧
      Stands buf cursor body after := by
  induction count generalizing cursor variants with
  | zero =>
      cases decoded
      exact ⟨rfl, [], rfl, .nil _ _⟩
  | succ count ih =>
      simp only [decodeVariants, bind_eq_ok] at decoded
      obtain ⟨⟨discriminant, tagged⟩, tag, ⟨name, named⟩, text, decoded⟩ := decoded
      obtain ⟨tagBytes, tagEncoded, tagStands⟩ := decodeDiscriminant_ok known tag
      obtain ⟨nameBytes, nameEncoded, nameStands⟩ := decodeName_ok text
      -- A zero byte marks a unit variant; anything else starts a node.
      split at decoded
      · cases decoded
      · rename_i marked
        simp only [bind_eq_ok, pure_eq_ok] at decoded
        obtain ⟨⟨rest, finish⟩, later, decoded⟩ := decoded
        cases decoded
        obtain ⟨counted, others, othersEncoded, othersStand⟩ := ih later
        have unit : Stands buf named [0x00] (named + 1) := by
          refine .shift rfl ?_
          obtain ⟨tail, shown⟩ := List.head?_eq_some_iff.mp marked
          exact ⟨tail, by rw [shown]; rfl⟩
        refine ⟨by rw [VariantDescriptors.length, counted],
          tagBytes ++ (nameBytes ++ ([0x00] ++ others)), ?_,
          tagStands.append (nameStands.append (unit.append othersStand))⟩
        simp only [encodeVariants, tagEncoded, nameEncoded, encodePayload, othersEncoded, ok_bind]
        rfl
      · simp only [bind_eq_ok, pure_eq_ok] at decoded
        obtain ⟨⟨node, consumed⟩, inner, ⟨rest, finish⟩, later, decoded⟩ := decoded
        cases decoded
        obtain ⟨bytes, encoded, length, begins⟩ := reads inner
        obtain ⟨counted, others, othersEncoded, othersStand⟩ := ih later
        refine ⟨by rw [VariantDescriptors.length, counted],
          tagBytes ++ (nameBytes ++ (bytes ++ others)), ?_, tagStands.append (nameStands.append
            ((Stands.shift length begins).append othersStand))⟩
        simp only [encodeVariants, tagEncoded, nameEncoded, encodePayload, encoded, othersEncoded,
          ok_bind]
        rfl

end Items

/-- A bound that is read stands behind its tag, four bytes wide. -/
theorem decodeBound_ok {buf : Bytes} {make : UInt32 → DescriptorNode} {node : DescriptorNode}
    {consumed : Nat} (decoded : decodeBound buf make = .ok (node, consumed)) :
    ∃ bound, node = make bound ∧ consumed = 5 ∧ Stands buf 1 (writeU32 bound) 5 := by
  unfold decodeBound at decoded
  split_ifs at decoded with short
  cases decoded
  exact ⟨_, rfl, rfl, .word (by omega) rfl⟩

/-- A tag and what stands behind it begin a buffer. -/
theorem tagged {tag : UInt8} {inside bytes : Bytes} {after : Nat}
    (stands : Stands (tag :: inside) 1 bytes after) :
    (tag :: bytes).length = after ∧ tag :: bytes <+: tag :: inside := by
  have begins : bytes <+: inside := stands.layout
  refine ⟨?_, List.cons_prefix_cons.mpr ⟨rfl, begins⟩⟩
  rw [stands.length, List.length_cons, Nat.add_comm]

/-- Every node that is read is written as the bytes it was read from. -/
theorem decodeRecursive_ok {depth remaining : Nat}
    (level : depth + remaining = maxDescriptorDepth + 1) :
    ReadsCanonically (decodeRecursive remaining) depth := by
  induction remaining generalizing depth with
  | zero =>
      intro buf node consumed decoded
      cases decoded
  | succ remaining ih =>
      have opened : ¬depth > maxDescriptorDepth := by omega
      have reads : ReadsCanonically (decodeRecursive remaining) (depth + 1) := ih (by omega)
      intro buf node consumed decoded
      have bound : ∀ (make : UInt32 → DescriptorNode) {tag : UInt8} {inside : Bytes},
          buf = tag :: inside → (∀ value, encodeRecursive depth (make value) =
            .ok (tag :: writeU32 value)) → decodeBound buf make = .ok (node, consumed) →
          ∃ bytes, encodeRecursive depth node = .ok bytes ∧ bytes.length = consumed ∧
            bytes <+: buf := by
        rintro make tag inside rfl writes decoded
        obtain ⟨value, rfl, rfl, stands⟩ := decodeBound_ok decoded
        exact ⟨_, writes value, tagged stands⟩
      unfold decodeRecursive at decoded
      split at decoded
      case h_11 inside =>
        refine bound .eventString rfl (fun value => ?_) decoded
        unfold encodeRecursive
        exact if_neg opened
      case h_12 inside =>
        refine bound .nonEmptyEventString rfl (fun value => ?_) decoded
        unfold encodeRecursive
        exact if_neg opened
      case h_13 inside =>
        refine bound .eventBytes rfl (fun value => ?_) decoded
        unfold encodeRecursive
        exact if_neg opened
      case h_14 inside =>
        simp only [bind_eq_ok, throwIf_eq_ok, pure_eq_ok] at decoded
        obtain ⟨⟨inner, within⟩, nested, enough, decoded⟩ := decoded
        cases decoded
        obtain ⟨bytes, encoded, length, begins⟩ := reads nested
        have body : Stands (0x0D :: inside) 1 bytes (1 + within) := .shift length begins
        have limit : Stands (0x0D :: inside) (1 + within) _ (1 + within + 4) :=
          .word (by omega) rfl
        refine ⟨_, ?_, tagged (body.append limit)⟩
        unfold encodeRecursive
        rw [if_neg opened]
        simp only [encoded, ok_bind]
        rfl
      case h_15 inside =>
        simp only [bind_eq_ok, pure_eq_ok] at decoded
        obtain ⟨⟨inner, within⟩, nested, decoded⟩ := decoded
        cases decoded
        obtain ⟨bytes, encoded, length, begins⟩ := reads nested
        have body : Stands (0x0E :: inside) 1 bytes (1 + within) := .shift length begins
        refine ⟨_, ?_, tagged body⟩
        unfold encodeRecursive
        rw [if_neg opened]
        simp only [encoded, ok_bind]
        rfl
      case h_16 inside =>
        simp only [bind_eq_ok, pure_eq_ok] at decoded
        obtain ⟨⟨name, named⟩, text, ⟨count, counted⟩, items, ⟨fields, finish⟩, later, decoded⟩ :=
          decoded
        cases decoded
        obtain ⟨nameBytes, nameEncoded, nameStands⟩ := decodeName_ok text
        obtain ⟨countEncoded, countStands⟩ := decodeCount_ok items
        obtain ⟨rfl, body, encoded, stands⟩ := decodeFields_ok reads later
        refine ⟨_, ?_, tagged (nameStands.append (countStands.append stands))⟩
        unfold encodeRecursive
        rw [if_neg opened]
        simp only [nameEncoded, countEncoded, encoded, ok_bind]
        rfl
      case h_17 inside =>
        simp only [bind_eq_ok] at decoded
        obtain ⟨⟨name, named⟩, text, decoded⟩ := decoded
        split at decoded
        · cases decoded
        rename_i width shown
        simp only [throwIf_eq_ok, bind_eq_ok, pure_eq_ok] at decoded
        obtain ⟨known, ⟨count, counted⟩, items, ⟨variants, finish⟩, later, decoded⟩ := decoded
        cases decoded
        have known : width = 1 ∨ width = 2 := by
          by_contra neither
          exact known (not_or.mp neither)
        obtain ⟨nameBytes, nameEncoded, nameStands⟩ := decodeName_ok text
        obtain ⟨countEncoded, countStands⟩ := decodeCount_ok items
        obtain ⟨rfl, body, encoded, stands⟩ := decodeVariants_ok reads known later
        have widthStands : Stands (0x10 :: inside) named [width] (named + 1) := by
          refine .shift rfl ?_
          obtain ⟨tail, split⟩ := List.head?_eq_some_iff.mp shown
          exact ⟨tail, by rw [split]; rfl⟩
        refine ⟨_, ?_, tagged (nameStands.append (widthStands.append
          (countStands.append stands)))⟩
        unfold encodeRecursive
        rw [if_neg opened]
        simp only [nameEncoded, countEncoded, encoded, ok_bind]
        rfl
      all_goals
        cases decoded
        try
          refine ⟨_, if_neg opened, rfl, ?_⟩
          exact List.cons_prefix_cons.mpr ⟨rfl, List.nil_prefix⟩

/-- The codec of descriptors is a bijection: what is written is read back, whatever
follows it, and what is read is what would be written. -/
theorem codec_bijective :
    (∀ (node : DescriptorNode) (bytes suffix : Bytes), node.encode = .ok bytes →
      node.WidthsKnown → decode (bytes ++ suffix) = .ok (node, bytes.length)) ∧
    ∀ (buf : Bytes) (node : DescriptorNode) (consumed : Nat),
      decode buf = .ok (node, consumed) →
      consumed ≤ buf.length ∧ node.encode = .ok (buf.take consumed) := by
  refine ⟨fun node bytes suffix encoded known => decode_encode encoded known suffix, ?_⟩
  intro buf node consumed decoded
  obtain ⟨bytes, encoded, rfl, begins⟩ := decodeRecursive_ok (Nat.zero_add _) decoded
  refine ⟨begins.length_le, ?_⟩
  rw [← List.prefix_iff_eq_take.mp begins]
  exact encoded

/-- A record with a vector and an enumeration in it. -/
def orderDescriptor : DescriptorNode :=
  .struct "Order" (.cons "id" .uuid (.cons "lines" (.eventVec .u32 8)
    (.cons "state" (.enum "State" 2 (.cons 1 "Open" .none (.cons 2 "Paid" (.some .u64) .nil)))
      .nil)))

/-- Its encoding, read back with bytes behind it. -/
theorem codec_bijective_order :
    ∃ bytes, orderDescriptor.encode = .ok bytes ∧ bytes.length = 82 ∧
      decode (bytes ++ [7, 7]) = .ok (orderDescriptor, 82) ∧
      orderDescriptor.encode = .ok ((bytes ++ [7, 7]).take 82) := by
  have encodes : ∃ bytes, orderDescriptor.encode = .ok bytes ∧ bytes.length = 82 :=
    ⟨_, rfl, by decide +kernel⟩
  obtain ⟨bytes, encoded, length⟩ := encodes
  have known : orderDescriptor.WidthsKnown := ⟨trivial, trivial, ⟨Or.inr rfl, trivial, trivial,
    trivial⟩, trivial⟩
  have decoded := codec_bijective.1 orderDescriptor bytes [7, 7] encoded known
  rw [length] at decoded
  exact ⟨bytes, encoded, length, decoded, (codec_bijective.2 _ _ _ decoded).2⟩

end DescriptorNode

end Pardosa
