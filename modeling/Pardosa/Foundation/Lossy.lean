import Pardosa.Foundation.Bytes

/-!
# Lossy reading of UTF-8

Bytes are read as text one after the other. A character that breaks off is
replaced as a whole, by the replacement character, and the byte that broke it off
begins the next one.
-/

namespace Foundation

/-- The replacement character. -/
def replacementCharacter : Bytes := [0xEF, 0xBF, 0xBD]

/-- What the byte after the ones read so far may be; never an ASCII byte. -/
structure Continuation where
  low : UInt8
  high : UInt8
  continues : 128 ≤ low.toNat

/-- A byte that continues any character. -/
def Continuation.tail : Continuation := ⟨0x80, 0xBF, by decide⟩

/-- Where the reading stands: between characters, or within one of which some
bytes are read and some are owed after the next. -/
inductive Reading where
  | between
  | within (read : Bytes) (next : Continuation) (owed : Nat)

/-- What is left of a character that breaks off. -/
def Reading.broken : Reading → Bytes
  | .between => []
  | .within _ _ _ => replacementCharacter

/-- The text after a byte between characters, and where the reading stands then. -/
def Reading.begin (byte : UInt8) : Bytes × Reading :=
  if byte < 0x80 then ([byte], .between)
  else if 0xC2 ≤ byte ∧ byte ≤ 0xDF then ([], .within [byte] .tail 0)
  else if byte = 0xE0 then ([], .within [byte] ⟨0xA0, 0xBF, by decide⟩ 1)
  else if byte = 0xED then ([], .within [byte] ⟨0x80, 0x9F, by decide⟩ 1)
  else if 0xE1 ≤ byte ∧ byte ≤ 0xEF then ([], .within [byte] .tail 1)
  else if byte = 0xF0 then ([], .within [byte] ⟨0x90, 0xBF, by decide⟩ 2)
  else if 0xF1 ≤ byte ∧ byte ≤ 0xF3 then ([], .within [byte] .tail 2)
  else if byte = 0xF4 then ([], .within [byte] ⟨0x80, 0x8F, by decide⟩ 2)
  else (replacementCharacter, .between)

def Reading.step : Reading → UInt8 → Bytes × Reading
  | .between, byte => Reading.begin byte
  | .within read next owed, byte =>
      if next.low ≤ byte ∧ byte ≤ next.high then
        match owed with
        | 0 => (read ++ [byte], .between)
        | owed + 1 => ([], .within (read ++ [byte]) .tail owed)
      else (replacementCharacter ++ (Reading.begin byte).1, (Reading.begin byte).2)

def Reading.text : Reading → Bytes → Bytes
  | reading, [] => reading.broken
  | reading, byte :: rest => (reading.step byte).1 ++ (reading.step byte).2.text rest

/-- The bytes as text. -/
def toStringLossy (bytes : Bytes) : Bytes := Reading.between.text bytes

example : toStringLossy [0x61, 0xE2, 0x82, 0xAC, 0xE2, 0x82, 0x62] =
    [0x61, 0xE2, 0x82, 0xAC] ++ replacementCharacter ++ [0x62] := rfl

/-- An ASCII byte is text of its own, and nothing is left open behind it. -/
theorem begin_ascii {byte : UInt8} (ascii : byte.toNat < 128) :
    Reading.begin byte = ([byte], .between) :=
  if_pos (UInt8.lt_iff_toNat_lt.mpr ascii)

/-- An ASCII byte ends whatever stands before it and is read as itself. -/
theorem Reading.step_ascii (reading : Reading) {byte : UInt8} (ascii : byte.toNat < 128) :
    reading.step byte = (reading.broken ++ [byte], .between) := by
  cases reading with
  | between => exact begin_ascii ascii
  | within read next owed =>
      have outside : ¬(next.low ≤ byte ∧ byte ≤ next.high) := by
        rintro ⟨above, -⟩
        have := UInt8.le_iff_toNat_le.mp above
        have := next.continues
        omega
      simp only [step, if_neg outside, begin_ascii ascii, broken]

/-- An ASCII byte cuts the text where it cuts the bytes. -/
theorem Reading.text_append_ascii (reading : Reading) (front rest : Bytes) {byte : UInt8}
    (ascii : byte.toNat < 128) :
    reading.text (front ++ byte :: rest) = reading.text front ++ byte :: toStringLossy rest := by
  induction front generalizing reading with
  | nil =>
      rw [List.nil_append, text, text, step_ascii reading ascii, List.append_assoc]
      rfl
  | cons head front inductionHypothesis =>
      rw [List.cons_append, text, inductionHypothesis, text, List.append_assoc]

/-- An ASCII byte cuts a text in two: what comes before it and what comes after it are read
independently. -/
theorem toStringLossy_append_ascii (front rest : Bytes) {byte : UInt8} (ascii : byte.toNat < 128) :
    toStringLossy (front ++ byte :: rest) =
      toStringLossy front ++ byte :: toStringLossy rest :=
  Reading.between.text_append_ascii front rest ascii

/-- The bytes that are read and not yet text. -/
def Reading.kept : Reading → Bytes
  | .between => []
  | .within read _ _ => read

/-- A first byte gives itself, or the bytes of the replacement character. -/
theorem begin_subset {byte other : UInt8}
    (member : other ∈ (Reading.begin byte).1 ∨ other ∈ (Reading.begin byte).2.kept) :
    other = byte ∨ other ∈ replacementCharacter := by
  unfold Reading.begin at member
  split_ifs at member <;> simp_all [Reading.kept]

/-- The text holds what was read and the replacement character, and nothing else. -/
theorem Reading.step_subset {reading : Reading} {byte other : UInt8}
    (member : other ∈ (reading.step byte).1 ∨ other ∈ (reading.step byte).2.kept) :
    other = byte ∨ other ∈ reading.kept ∨ other ∈ replacementCharacter := by
  cases reading with
  | between => exact (begin_subset member).imp_right .inr
  | within read next owed =>
      simp only [step] at member
      split_ifs at member with fits
      · have among : other ∈ read ++ [byte] := by
          cases owed with
          | zero => exact member.resolve_right List.not_mem_nil
          | succ owed => exact member.resolve_left List.not_mem_nil
        rw [List.mem_append, List.mem_singleton] at among
        exact among.elim (fun before => .inr (.inl before)) .inl
      · rw [List.mem_append, or_assoc] at member
        rcases member with replaced | begun
        · exact .inr (.inr replaced)
        · exact (begin_subset begun).imp_right .inr

/-- A reading shows only bytes it was given, bytes it had kept, and the bytes of the
replacement character. -/
theorem Reading.text_subset {reading : Reading} {bytes : Bytes} {other : UInt8}
    (member : other ∈ reading.text bytes) :
    other ∈ bytes ∨ other ∈ reading.kept ∨ other ∈ replacementCharacter := by
  induction bytes generalizing reading with
  | nil =>
      cases reading with
      | between => exact (List.not_mem_nil member).elim
      | within read next owed => exact .inr (.inr member)
  | cons byte rest inductionHypothesis =>
      rw [text, List.mem_append] at member
      rcases member with now | later
      · exact (step_subset (.inl now)).imp_left (by rintro rfl; exact List.mem_cons_self)
      · rcases inductionHypothesis later with among | kept | replaced
        · exact .inl (List.mem_cons_of_mem byte among)
        · exact (step_subset (.inr kept)).imp_left (by rintro rfl; exact List.mem_cons_self)
        · exact .inr (.inr replaced)

/-- An ASCII byte of the text was one of the bytes. -/
theorem mem_of_mem_toStringLossy {bytes : Bytes} {byte : UInt8} (ascii : byte.toNat < 128)
    (member : byte ∈ toStringLossy bytes) : byte ∈ bytes := by
  rcases Reading.text_subset member with among | kept | replaced
  · exact among
  · exact (List.not_mem_nil kept).elim
  · simp only [replacementCharacter, List.mem_cons, List.not_mem_nil, or_false] at replaced
    rcases replaced with rfl | rfl | rfl <;> exact absurd ascii (by decide)

end Foundation
