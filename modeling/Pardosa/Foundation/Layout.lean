import Pardosa.Foundation.Bytes

/-!
# Where the fields of a layout stand

A layout is a sequence of fields, each of which stands in a buffer between two cursors.
Fields that stand one behind the other stand as their concatenation, and a concatenation
that stands splits into its fields. A reader that works with fixed offsets is thereby
proved against a writer that only appends.
-/

namespace Foundation

/-- Bytes that stand in a buffer between two cursors. -/
structure Stands (buf : Bytes) (cursor : Nat) (bytes : Bytes) (after : Nat) : Prop where
  length : after = cursor + bytes.length
  layout : bytes <+: buf.drop cursor

namespace Stands

variable {buf first second bytes : Bytes} {cursor middle after : Nat}

/-- Nothing stands anywhere. -/
theorem nil (buf : Bytes) (cursor : Nat) : Stands buf cursor [] cursor :=
  ⟨rfl, List.nil_prefix⟩

/-- What stands behind something else stands there together with it. -/
theorem append (before : Stands buf cursor first middle) (behind : Stands buf middle second after) :
    Stands buf cursor (first ++ second) after where
  length := by
    rw [behind.length, before.length, List.length_append, Nat.add_assoc]
  layout := by
    obtain ⟨rest, split⟩ := before.layout
    have moved : buf.drop middle = rest := by
      rw [before.length, ← List.drop_drop, ← split, List.drop_left]
    obtain ⟨others, later⟩ := behind.layout
    exact ⟨others, by rw [List.append_assoc, later, moved, split]⟩

/-- A concatenation that stands is its parts, one behind the other. -/
theorem split (stands : Stands buf cursor (first ++ second) after) (middle : Nat)
    (within : cursor + first.length = middle) :
    Stands buf cursor first middle ∧ Stands buf middle second after := by
  subst within
  obtain ⟨rest, layout⟩ := stands.layout
  rw [List.append_assoc] at layout
  refine ⟨⟨rfl, _, layout⟩, ?_, rest, ?_⟩
  · rw [stands.length, List.length_append, Nat.add_assoc]
  · rw [← List.drop_drop, ← layout, List.drop_left]

/-- What a buffer begins with stands at its start. -/
theorem start (bytes rest : Bytes) : Stands (bytes ++ rest) 0 bytes bytes.length :=
  ⟨(Nat.zero_add _).symm, rest, rfl⟩

/-- What stands at the start of a buffer begins it. -/
theorem begins (stands : Stands buf 0 bytes after) : bytes.length = after ∧ bytes <+: buf :=
  ⟨by rw [stands.length, Nat.zero_add], stands.layout⟩

/-- What stands at the start of a buffer is all there is up to its end. -/
theorem take_eq (stands : Stands buf 0 bytes after) : buf.take after = bytes := by
  obtain ⟨rfl, begins⟩ := stands.begins
  exact (List.prefix_iff_eq_take.mp begins).symm

/-- Bytes that stand in a buffer do not reach beyond it. -/
theorem le_length (stands : Stands buf cursor bytes after) (within : cursor ≤ buf.length) :
    after ≤ buf.length := by
  have fits := stands.layout.length_le
  rw [List.length_drop] at fits
  have total := stands.length
  omega

/-- A field of a buffer stands where it is taken from. -/
theorem field {width : Nat} (fits : cursor + width ≤ buf.length) :
    Stands buf cursor ((buf.drop cursor).take width) (cursor + width) where
  length := by
    rw [List.length_take, List.length_drop]
    omega
  layout := List.take_prefix _ _

/-- A field is found by its place and its width. -/
theorem take_drop_eq {width : Nat} (stands : Stands buf cursor bytes (cursor + width)) :
    (buf.drop cursor).take width = bytes := by
  have length : bytes.length = width := Nat.add_left_cancel stands.length.symm
  rw [← length]
  exact (List.prefix_iff_eq_take.mp stands.layout).symm

/-- Whatever follows behind them, bytes are found between their two ends. -/
theorem drop_take_eq (stands : Stands buf cursor bytes after) :
    (buf.take after).drop cursor = bytes := by
  obtain rfl := stands.length
  rw [List.drop_take, Nat.add_sub_cancel_left]
  exact stands.take_drop_eq

/-- What stands behind a cursor stands in the buffer. -/
theorem shift {consumed : Nat} (length : bytes.length = consumed)
    (begins : bytes <+: buf.drop cursor) : Stands buf cursor bytes (cursor + consumed) :=
  ⟨by rw [length], begins⟩

/-- A 32-bit word stands where it is read. -/
theorem word {value : UInt32} (fits : cursor + 4 ≤ buf.length) (read : readU32 buf cursor = value) :
    Stands buf cursor (writeU32 value) (cursor + 4) := by
  rw [← read, writeU32_readU32 fits]
  exact field fits

/-- A 64-bit word stands where it is read. -/
theorem longWord (fits : cursor + 8 ≤ buf.length) :
    Stands buf cursor (writeU64 (readU64 buf cursor)) (cursor + 8) := by
  rw [writeU64_readU64 fits]
  exact field fits

/-- A byte stands at its index. -/
theorem byte (within : cursor < buf.length) : Stands buf cursor [buf[cursor]] (cursor + 1) := by
  refine ⟨rfl, buf.drop (cursor + 1), ?_⟩
  exact (List.drop_eq_getElem_cons within).symm

/-- A 32-bit word is read where it stands. -/
theorem readU32_eq {value : UInt32} (stands : Stands buf cursor (writeU32 value) after) :
    readU32 buf cursor = value := by
  obtain ⟨rest, layout⟩ := stands.layout
  have small : value.toNat < 256 ^ 4 := value.toNat_lt
  rw [readU32, ← layout, List.take_left' (length_writeU32 value), writeU32,
    leValue_leBytes_of_lt small, UInt32.ofNat_toNat]

/-- A 64-bit word is read where it stands. -/
theorem readU64_eq {value : UInt64} (stands : Stands buf cursor (writeU64 value) after) :
    readU64 buf cursor = value := by
  obtain ⟨rest, layout⟩ := stands.layout
  have small : value.toNat < 256 ^ 8 := value.toNat_lt
  rw [readU64, ← layout, List.take_left' (length_writeU64 value), writeU64,
    leValue_leBytes_of_lt small, UInt64.ofNat_toNat]

/-- A number that fits four bytes is read as itself where it stands. -/
theorem readU32_toNat_eq {value : Nat} (small : value < 256 ^ 4)
    (stands : Stands buf cursor (leBytes 4 value) after) : (readU32 buf cursor).toNat = value := by
  obtain ⟨rest, layout⟩ := stands.layout
  rw [readU32_toNat, ← layout, List.take_left' (length_leBytes 4 _), leValue_leBytes_of_lt small]

/-- A field of fixed width is sliced out where it stands. -/
theorem slice_eq {width : Nat} {fits : cursor + width ≤ buf.length} {field : FixedBytes width}
    (stands : Stands buf cursor field.val after) : slice buf cursor width fits = field := by
  apply Subtype.ext
  obtain ⟨rest, layout⟩ := stands.layout
  rw [slice_val, ← layout]
  exact List.take_left' field.property

/-- A single byte is found at the index where it stands. -/
theorem getElem_eq {value : UInt8} {within : cursor < buf.length}
    (stands : Stands buf cursor [value] after) : buf[cursor] = value := by
  obtain ⟨rest, layout⟩ := stands.layout
  rw [List.drop_eq_getElem_cons within] at layout
  exact (List.cons.inj layout).1.symm

/-- So it is when the index is not known to be in range. -/
theorem getElem?_eq {value : UInt8} (stands : Stands buf cursor [value] after) :
    buf[cursor]? = some value := by
  obtain ⟨rest, layout⟩ := stands.layout
  rw [← List.head?_drop, ← layout]
  rfl

end Stands

end Foundation
