import Pardosa.Foundation.Layout
import Pardosa.Foundation.Outcome

/-!
# Codecs that read off the front of a buffer

A codec writes a value as bytes and reads a value off the front of a buffer, answering how
many bytes it took. What a codec makes of a buffer, apart from the values themselves, is its
reading: the bytes it would write for the value it reads, and the number of bytes it takes.
Two codecs with one reading accept, measure and produce the same bytes.
-/

namespace Foundation

/-- A writer of values and a reader that takes a value off the front of a buffer. -/
structure Codec (ε δ α : Type) where
  encode : α → Except ε Bytes
  decode : Bytes → Except δ (α × Nat)

namespace Codec

variable {ε δ α : Type} {codec : Codec ε δ α} {value : α} {buf bytes : Bytes}
  {cursor consumed after : Nat}

/-- Every value is written and read back in front of any suffix, and nothing that is read
reaches beyond its buffer. -/
structure Lawful (codec : Codec ε δ α) : Prop where
  written : ∀ value, ∃ bytes, codec.encode value = .ok bytes
  readBack : ∀ {value bytes}, codec.encode value = .ok bytes → ∀ suffix,
    codec.decode (bytes ++ suffix) = .ok (value, bytes.length)
  within : ∀ {buf value consumed}, codec.decode buf = .ok (value, consumed) →
    consumed ≤ buf.length

/-- The bytes that are read are those that are written for the value. -/
def Canonical (codec : Codec ε δ α) : Prop :=
  ∀ {buf value consumed}, codec.decode buf = .ok (value, consumed) →
    codec.encode value = .ok (buf.take consumed)

/-- A codec that reads a value exactly where its bytes begin the buffer is lawful, and what it
reads is what it writes. -/
theorem lawful_and_canonical_of_prefix {write : α → Bytes}
    (encodes : ∀ value, codec.encode value = .ok (write value))
    (decodes : ∀ {buf value consumed}, codec.decode buf = .ok (value, consumed) ↔
      write value <+: buf ∧ consumed = (write value).length) :
    codec.Lawful ∧ codec.Canonical := by
  refine ⟨⟨fun value => ⟨_, encodes value⟩, ?_, ?_⟩, ?_⟩
  · intro value bytes encoded suffix
    rw [encodes] at encoded
    cases encoded
    exact decodes.mpr ⟨List.prefix_append _ _, rfl⟩
  · intro buf value consumed decoded
    obtain ⟨begins, rfl⟩ := decodes.mp decoded
    exact begins.length_le
  · intro buf value consumed decoded
    obtain ⟨begins, rfl⟩ := decodes.mp decoded
    rw [encodes, ← List.prefix_iff_eq_take.mp begins]

/-- Values with the same bytes are the same. -/
theorem Lawful.encode_inj (lawful : codec.Lawful) {other : α} :
    codec.encode value = codec.encode other ↔ value = other := by
  constructor
  · intro same
    obtain ⟨bytes, encoded⟩ := lawful.written value
    have first := lawful.readBack encoded []
    rw [same] at encoded
    rw [lawful.readBack encoded []] at first
    cases first
    rfl
  · rintro rfl
    rfl

/-- A value is read where its bytes stand. -/
theorem Lawful.decode_of_stands (lawful : codec.Lawful) (encoded : codec.encode value = .ok bytes)
    (stands : Stands buf cursor bytes after) :
    codec.decode (buf.drop cursor) = .ok (value, bytes.length) := by
  obtain ⟨rest, layout⟩ := stands.layout
  rw [← layout]
  exact lawful.readBack encoded rest

/-- The bytes of a value that is read stand where it is read. -/
theorem Canonical.stands_of_decode (canonical : codec.Canonical) (lawful : codec.Lawful)
    (decoded : codec.decode (buf.drop cursor) = .ok (value, consumed)) :
    ∃ bytes, codec.encode value = .ok bytes ∧ Stands buf cursor bytes (cursor + consumed) := by
  refine ⟨_, canonical decoded, ?_, List.take_prefix _ _⟩
  rw [List.length_take, Nat.min_eq_left (lawful.within decoded)]

/-- What a codec makes of the front of a buffer: the bytes it would write for the value it
reads there, and the number of bytes it takes. -/
def reading (codec : Codec ε δ α) (buf : Bytes) : Option (Bytes × Nat) :=
  match codec.decode buf with
  | .error _ => none
  | .ok (value, consumed) =>
      match codec.encode value with
      | .error _ => none
      | .ok bytes => some (bytes, consumed)

/-- What a reading finds is the encoding of what the decoder returns. -/
theorem reading_eq_some_iff :
    codec.reading buf = some (bytes, consumed) ↔
      ∃ value, codec.decode buf = .ok (value, consumed) ∧ codec.encode value = .ok bytes := by
  unfold reading
  split
  · rename_i failure refused
    simp [refused]
  · rename_i value taken decoded
    split
    · rename_i failure refused
      simp [decoded, refused]
    · rename_i written encoded
      constructor
      · rintro ⟨⟩
        exact ⟨value, decoded, encoded⟩
      · rintro ⟨again, decodedAgain, encodedAgain⟩
        rw [decoded] at decodedAgain
        cases decodedAgain
        rw [encoded] at encodedAgain
        cases encodedAgain
        rfl

/-- A lawful codec reads a buffer exactly when it has a reading of it. -/
theorem Lawful.reads_iff (lawful : codec.Lawful) :
    (∃ value, codec.decode buf = .ok (value, consumed)) ↔
      ∃ bytes, codec.reading buf = some (bytes, consumed) := by
  constructor
  · rintro ⟨value, decoded⟩
    obtain ⟨bytes, encoded⟩ := lawful.written value
    exact ⟨bytes, reading_eq_some_iff.mpr ⟨value, decoded, encoded⟩⟩
  · rintro ⟨bytes, read⟩
    obtain ⟨value, decoded, -⟩ := reading_eq_some_iff.mp read
    exact ⟨value, decoded⟩

/-- The bytes that a lawful codec writes are those that read as themselves. -/
theorem Lawful.writes_iff (lawful : codec.Lawful) :
    (∃ value, codec.encode value = .ok bytes) ↔
      codec.reading bytes = some (bytes, bytes.length) := by
  constructor
  · rintro ⟨value, encoded⟩
    have decoded := lawful.readBack encoded []
    rw [List.append_nil] at decoded
    exact reading_eq_some_iff.mpr ⟨value, decoded, encoded⟩
  · intro read
    obtain ⟨value, -, encoded⟩ := reading_eq_some_iff.mp read
    exact ⟨value, encoded⟩

end Codec

end Foundation
