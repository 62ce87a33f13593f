import Pardosa.Foundation.Bytes

/-!
# Digest functions

The code takes its frame checksum and its commitment hash from third-party
packages. Both are parameters of the development: no result below depends on
more than what its own statement assumes of them. `standardDigests` holds the
two functions the format fixes, CRC32C and BLAKE3, for the closed statements
about concrete bytes.
-/

namespace Pardosa

open Foundation

/-- The digest functions of the wire formats. -/
class Digests where
  /-- Frame checksum. -/
  crc32c : Bytes → UInt32
  /-- Commitment hash; feeding several pieces hashes their concatenation. -/
  blake3 : Bytes → FixedBytes 32

export Digests (crc32c blake3)

/-- One bit of the reflected Castagnoli division. -/
def castagnoliBit (register : UInt32) : UInt32 :=
  if register &&& 1 = 1 then (register >>> 1) ^^^ 0x82F63B78 else register >>> 1

/-- Absorb one byte into the division register, bit by bit. -/
def castagnoliByte (register : UInt32) (byte : UInt8) : UInt32 :=
  Nat.rec (register ^^^ byte.toUInt32) (fun _ absorbed => castagnoliBit absorbed) 8

/-- CRC32C of a byte string. -/
def castagnoli (bytes : Bytes) : UInt32 := bytes.foldl castagnoliByte 0xFFFFFFFF ^^^ 0xFFFFFFFF

-- The check value of the algorithm: the digits one to nine.
example : castagnoli [0x31, 0x32, 0x33, 0x34, 0x35, 0x36, 0x37, 0x38, 0x39] = 0xE3069283 := by
  decide +kernel

namespace Blake3

/-- Initial chaining value. -/
def initial : List UInt32 :=
  [0x6A09E667, 0xBB67AE85, 0x3C6EF372, 0xA54FF53A, 0x510E527F, 0x9B05688C, 0x1F83D9AB, 0x5BE0CD19]

/-- Order in which the message words enter the next round. -/
def permutation : List Nat := [2, 6, 3, 10, 7, 0, 4, 13, 1, 11, 12, 5, 9, 14, 15, 8]

/-- Domain flags of a compression. -/
def chunkStart : UInt32 := 1
def chunkEnd : UInt32 := 2
def parent : UInt32 := 4
def root : UInt32 := 8

/-- Rotate a word to the right. -/
def rotate (word : UInt32) (count : UInt32) : UInt32 := (word >>> count) ||| (word <<< (32 - count))

/-- One mixing step on four words of the state with two message words. -/
def mix (state : List UInt32) (a b c d : Nat) (first second : UInt32) : List UInt32 :=
  let a₁ := state.getD a 0 + state.getD b 0 + first
  let d₁ := rotate (state.getD d 0 ^^^ a₁) 16
  let c₁ := state.getD c 0 + d₁
  let b₁ := rotate (state.getD b 0 ^^^ c₁) 12
  let a₂ := a₁ + b₁ + second
  let d₂ := rotate (d₁ ^^^ a₂) 8
  let c₂ := c₁ + d₂
  let b₂ := rotate (b₁ ^^^ c₂) 7
  (((state.set a a₂).set b b₂).set c c₂).set d d₂

/-- The positions each mixing step of a round works on: columns, then diagonals. -/
def positions : List (Nat × Nat × Nat × Nat) :=
  [(0, 4, 8, 12), (1, 5, 9, 13), (2, 6, 10, 14), (3, 7, 11, 15),
    (0, 5, 10, 15), (1, 6, 11, 12), (2, 7, 8, 13), (3, 4, 9, 14)]

/-- One round. -/
def round (message state : List UInt32) : List UInt32 :=
  positions.zipIdx.foldl (fun state step =>
    mix state step.1.1 step.1.2.1 step.1.2.2.1 step.1.2.2.2
      (message.getD (2 * step.2) 0) (message.getD (2 * step.2 + 1) 0)) state

/-- Rounds with a permuted message between them. -/
def rounds : Nat → List UInt32 → List UInt32 → List UInt32
  | 0, _, state => state
  | count + 1, message, state =>
      rounds count (permutation.map fun index => message.getD index 0) (round message state)

/-- The compression function, cut to the chaining value. -/
def compress (chaining message : List UInt32) (counter : Nat) (blockLen flags : UInt32) :
    List UInt32 :=
  let state := rounds 7 message (chaining ++ (initial.take 4 ++
    [UInt32.ofNat counter, UInt32.ofNat (counter / 2 ^ 32), blockLen, flags]))
  (List.range 8).map fun index => state.getD index 0 ^^^ state.getD (index + 8) 0

/-- The sixteen words of a block, zero-padded. -/
def blockWords (block : Bytes) : List UInt32 :=
  (List.range 16).map fun index => readU32 (block ++ List.replicate 64 0) (4 * index)

/-- Compress the blocks of a chunk; `flags` are added at its last block. -/
def chunkValue (counter : Nat) (flags : UInt32) : (fuel : Nat) → (first : Bool) →
    List UInt32 → Bytes → List UInt32
  | 0, _, chaining, _ => chaining
  | fuel + 1, first, chaining, bytes =>
      let start := if first then chunkStart else 0
      if bytes.length ≤ 64 then
        compress chaining (blockWords bytes) counter (UInt32.ofNat bytes.length)
          (start ||| chunkEnd ||| flags)
      else
        chunkValue counter flags fuel false
          (compress chaining (blockWords (bytes.take 64)) counter 64 start) (bytes.drop 64)

/-- The chaining value of a subtree of `chunks` chunks. -/
def subtreeValue (flags : UInt32) : (fuel : Nat) → (counter chunks : Nat) → Bytes → List UInt32
  | 0, _, _, _ => initial
  | fuel + 1, counter, chunks, bytes =>
      if chunks ≤ 1 then chunkValue counter flags 16 true initial bytes
      else
        let leftChunks := 2 ^ Nat.log2 (chunks - 1)
        let left := subtreeValue 0 fuel counter leftChunks (bytes.take (1024 * leftChunks))
        let right := subtreeValue 0 fuel (counter + leftChunks) (chunks - leftChunks)
          (bytes.drop (1024 * leftChunks))
        compress initial (left ++ right) 0 64 (parent ||| flags)

/-- The 32 bytes of a chaining value. -/
def digestBytes (words : List UInt32) : FixedBytes 32 :=
  ⟨(List.range 8).flatMap fun index => writeU32 (words.getD index 0), by simp [List.range_succ]⟩

/-- BLAKE3 of a byte string. -/
def hash (bytes : Bytes) : FixedBytes 32 :=
  digestBytes (subtreeValue root 64 0 ((bytes.length + 1023) / 1024) bytes)

end Blake3

/-- The digests the wire formats fix. -/
@[reducible] def standardDigests : Digests := ⟨castagnoli, Blake3.hash⟩

-- The published digest of the empty input begins with these bytes.
example : (Blake3.hash []).val.take 4 = [0xAF, 0x13, 0x49, 0xB9] := by
  decide +kernel

end Pardosa
