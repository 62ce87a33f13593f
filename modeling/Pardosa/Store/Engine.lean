import Pardosa.Foundation.Program
import Pardosa.Store.Failure
import Pardosa.File.Scan

/-!
# Storage engines

The I/O contract between the store and a storage driver: what the store may ask
of an engine, and the two log contracts the store's results are stated over.
An engine's methods are programs over the operations of its own outside world.
-/

namespace Pardosa

open Foundation

/-- A recovery callback with its captured state: position, frame, state. -/
abbrev FrameRecoveryCallback (σ : Type) := Nat → Bytes → σ → Except OperationFailure Unit × σ

/-- Hand frames to a callback in order from a position on; stop at its first
error. -/
def deliverFrames {σ : Type} (onFrame : FrameRecoveryCallback σ) (position : Nat) :
    List Bytes → σ → Except OperationFailure Nat × σ
  | [], captured => (.ok position, captured)
  | frame :: frames, captured =>
      match onFrame position frame captured with
      | (.error failure, after) => (.error failure, after)
      | (.ok (), after) => deliverFrames onFrame (position + 1) frames after

/-- Minimal I/O contract for storage drivers, as far as the store uses it. -/
class StorageEngine (S : outParam Signature) (Engine : Type) where
  /-- The carried epoch of the engine's session. -/
  carriedEpoch : Engine → UInt64
  /-- Verifies authority to append. -/
  checkAuthority : Engine → Program S (Except OperationFailure Unit)
  /-- Appends a raw frame block. -/
  appendBlock : Bytes → Action S OperationFailure Engine (WriteLandingVerdict Nat)
  /-- Reads all raw blocks' payloads in container order. -/
  readAll : Action S OperationFailure Engine (List Bytes)
  /-- Reads a chunk of payloads from an index on. -/
  readChunk : (startIndex maxItems : Nat) → Action S OperationFailure Engine (List Bytes)
  /-- Recovers frames in chunks, invoking a callback for each. -/
  recoverFrames : {σ : Type} → Nat → FrameRecoveryCallback σ →
    Action S OperationFailure (Engine × σ) Nat
  /-- Whether the artefact is retired as a migration source. -/
  isRetired : Engine → Program S (Except OperationFailure Bool)
  /-- Synchronizes storage buffers to the durable medium. -/
  sync : Action S OperationFailure Engine Unit
  /-- Diagnostic detail of an uncertain write state. -/
  uncertainDiagnostic : Engine → Option String

/-- Reads a single payload. -/
def StorageEngine.readBlock {S : Signature} {Engine : Type} [StorageEngine S Engine] (index : Nat) :
    Action S OperationFailure Engine Bytes := do
  let chunk ← StorageEngine.readChunk index 1
  Action.require chunk.getLast? ⟨.valueConstraintViolated .tooLong, "block index out of bounds"⟩

/-- One chunk of a fully read container, as an engine without chunked reads
answers it. The end of a chunk is an index into a list in memory, so it does
not leave the range of a `usize`. -/
def chunkOf (all : List Bytes) (startIndex maxItems : Nat) : List Bytes :=
  if maxItems = 0 then []
  else if startIndex ≥ all.length then []
  else (all.take (min (startIndex + maxItems) all.length)).drop startIndex

/-- How an engine without chunked reads reads a chunk. -/
def chunkOfAll {S : Signature} {Engine : Type}
    (readAll : Action S OperationFailure Engine (List Bytes)) (startIndex maxItems : Nat) :
    Action S OperationFailure Engine (List Bytes) :=
  if maxItems = 0 then pure []
  else do
    let all ← readAll
    return chunkOf all startIndex maxItems

/-- The chunk loop of an engine without a recovery of its own. The fuel bounds
the number of chunks. -/
def recoverChunks {S : Signature} {Engine σ : Type}
    (readChunk : Nat → Nat → Action S OperationFailure Engine (List Bytes)) (chunkSize : Nat)
    (onFrame : FrameRecoveryCallback σ) :
    (fuel startIndex totalFrames : Nat) → Action S OperationFailure (Engine × σ) Nat
  | 0, _, totalFrames => pure totalFrames
  | fuel + 1, startIndex, totalFrames => do
      let chunk ← Action.on Prod.fst (fun engine state => (engine, state.2))
        (readChunk startIndex chunkSize)
      if chunk = [] then
        pure totalFrames
      else
        let totalFrames ← Action.mutate fun state =>
          let (outcome, captured) := deliverFrames onFrame totalFrames chunk state.2
          (outcome, (state.1, captured))
        if chunk.length < chunkSize then pure totalFrames
        else recoverChunks readChunk chunkSize onFrame fuel (startIndex + chunk.length) totalFrames

/-- A chunk that asks for something is a piece of the list. -/
theorem chunkOf_eq (all : List Bytes) (startIndex : Nat) {maxItems : Nat} (some : 0 < maxItems) :
    chunkOf all startIndex maxItems = (all.drop startIndex).take maxItems := by
  unfold chunkOf
  rw [if_neg (by omega)]
  split_ifs with beyond
  · rw [List.drop_eq_nil_of_le beyond, List.take_nil]
  · rw [List.drop_take]
    by_cases within : startIndex + maxItems ≤ all.length
    · rw [Nat.min_eq_left within, Nat.add_sub_cancel_left]
    · rw [Nat.min_eq_right (by omega), List.take_of_length_le (by simp),
        List.take_of_length_le (by simp; omega)]

/-- Frames are delivered in two parts as they are in one. -/
theorem deliverFrames_append {σ : Type} (onFrame : FrameRecoveryCallback σ) (position : Nat)
    (first second : List Bytes) (captured : σ) :
    deliverFrames onFrame position (first ++ second) captured =
      match deliverFrames onFrame position first captured with
      | (.error failure, after) => (.error failure, after)
      | (.ok next, after) => deliverFrames onFrame next second after := by
  induction first generalizing position captured with
  | nil => rfl
  | cons frame frames ih =>
      simp only [List.cons_append, deliverFrames]
      cases onFrame position frame captured with
      | mk outcome after =>
          cases outcome with
          | error failure => rfl
          | ok => exact ih (position + 1) after

/-- The chunk loop over an engine that always reads the same frames hands every
frame to the callback once, in order. -/
theorem wp_recoverChunks {S : Signature} {Engine World σ : Type} {setting : Setting S World}
    {readChunk : Nat → Nat → Action S OperationFailure Engine (List Bytes)} {chunkSize : Nat}
    {onFrame : FrameRecoveryCallback σ} {all : List Bytes} {Inv : Engine → World → Prop}
    (some : 0 < chunkSize)
    (reads : ∀ startIndex engine world, Inv engine world →
      (readChunk startIndex chunkSize).wp setting
        (fun outcome after later => outcome = .ok (chunkOf all startIndex chunkSize) ∧
          Inv after later) engine world)
    {fuel startIndex totalFrames : Nat} (enough : all.length < startIndex + fuel)
    {engine : Engine} {captured : σ} {world : World} (holds : Inv engine world) :
    (recoverChunks readChunk chunkSize onFrame fuel startIndex totalFrames).wp setting
      (fun outcome after later =>
        (outcome, after.2) = deliverFrames onFrame totalFrames (all.drop startIndex) captured ∧
          Inv after.1 later) (engine, captured) world := by
  induction fuel generalizing startIndex totalFrames engine captured world with
  | zero =>
      rw [List.drop_eq_nil_of_le (by omega)]
      exact ⟨rfl, holds⟩
  | succ fuel ih =>
      simp only [recoverChunks, Action.wp_bind, Action.wp_on]
      refine Action.wp_mono (reads startIndex engine world holds) ?_
      rintro outcome after later ⟨rfl, kept⟩
      rw [chunkOf_eq all startIndex some]
      dsimp only
      by_cases done : (all.drop startIndex).take chunkSize = []
      · rw [if_pos done]
        have none : all.drop startIndex = [] := by
          cases rest : all.drop startIndex with
          | nil => rfl
          | cons frame frames =>
              rw [rest, List.take_eq_nil_iff] at done
              rcases done with empty | empty
              · omega
              · cases empty
        rw [none]
        exact ⟨rfl, kept⟩
      · rw [if_neg done]
        have split := deliverFrames_append onFrame totalFrames
          ((all.drop startIndex).take chunkSize)
          ((all.drop startIndex).drop chunkSize) captured
        rw [List.take_append_drop] at split
        rw [split]
        simp only [Action.wp_bind, Action.wp_mutate]
        cases delivered : deliverFrames onFrame totalFrames ((all.drop startIndex).take chunkSize)
            captured with
        | mk verdict passed =>
            cases verdict with
            | error failure => exact ⟨rfl, kept⟩
            | ok next =>
                dsimp only
                by_cases last : ((all.drop startIndex).take chunkSize).length < chunkSize
                · rw [if_pos last]
                  rw [List.length_take] at last
                  rw [List.drop_eq_nil_of_le (by omega)]
                  exact ⟨rfl, kept⟩
                · rw [if_neg last]
                  rw [List.length_take, List.length_drop] at last
                  have full : ((all.drop startIndex).take chunkSize).length = chunkSize := by
                    rw [List.length_take, List.length_drop]
                    omega
                  rw [full, List.drop_drop]
                  exact ih (by omega) kept

/-- The chunk loop keeps what its reads keep. -/
theorem wp_recoverChunks_keeps {S : Signature} {Engine World σ : Type} {setting : Setting S World}
    {readChunk : Nat → Nat → Action S OperationFailure Engine (List Bytes)} {chunkSize : Nat}
    {onFrame : FrameRecoveryCallback σ} {Inv : Engine → World → Prop}
    (reads : ∀ startIndex engine world, Inv engine world →
      (readChunk startIndex chunkSize).wp setting
        (fun _ after later => Inv after later) engine world)
    {fuel startIndex totalFrames : Nat} {engine : Engine} {captured : σ} {world : World}
    (holds : Inv engine world) :
    (recoverChunks readChunk chunkSize onFrame fuel startIndex totalFrames).wp setting
      (fun _ after later => Inv after.1 later) (engine, captured) world := by
  induction fuel generalizing startIndex totalFrames engine captured world with
  | zero => exact holds
  | succ fuel ih =>
      simp only [recoverChunks, Action.wp_bind, Action.wp_on]
      refine Action.wp_mono (reads startIndex engine world holds) ?_
      rintro (failure | chunk) after later kept
      · exact kept
      dsimp only
      by_cases empty : chunk = []
      · rw [if_pos empty]
        exact kept
      · rw [if_neg empty]
        simp only [Action.wp_bind, Action.wp_mutate]
        cases deliverFrames onFrame totalFrames chunk captured with
        | mk outcome passed =>
            cases outcome with
            | error failure => exact kept
            | ok next =>
                dsimp only
                split_ifs
                · exact kept
                · exact ih kept

section Contracts

variable {S : Signature} {Engine World : Type} [StorageEngine S Engine]

/-- An engine over a log of blocks: an error leaves the log as it was, and a
landed append adds exactly the given block. -/
structure LogContract (Engine : Type) [StorageEngine S Engine] (setting : Setting S World) where
  /-- The blocks of the engine's log. -/
  log : Engine → World → List Bytes
  checkAuthority : ∀ engine world,
    (StorageEngine.checkAuthority engine).wp setting
      (fun _ after => log engine after = log engine world) world
  appendBlock : ∀ block engine world,
    (StorageEngine.appendBlock block).wp setting
      (fun outcome after later => match outcome with
        | .error _ => log after later = log engine world
        | .ok (.landed _) => log after later = log engine world ++ [block]
        | .ok (.undetermined _) => True) engine world

/-- A log that can be read back: an undetermined append has not landed, and
recovery hands the payloads of the log to its callback, in order. -/
structure RecoverableLog [Digests] (Engine : Type) [StorageEngine S Engine]
    (setting : Setting S World) extends LogContract Engine setting where
  undetermined : ∀ block engine world,
    (StorageEngine.appendBlock block).wp setting
      (fun outcome after later => ∀ epoch, outcome = .ok (.undetermined epoch) →
        log after later = log engine world) engine world
  recoverFrames : ∀ {σ : Type} chunkSize (onFrame : FrameRecoveryCallback σ) engine captured world
      payloads, (∀ payload ∈ payloads, payload.length ≤ u32Max) →
    log engine world = payloads.map ContainerFrame.frameBytes →
    (StorageEngine.recoverFrames chunkSize onFrame).wp setting
      (fun outcome after later => (outcome, after.2) = deliverFrames onFrame 0 payloads captured ∧
        log after.1 later = log engine world) (engine, captured) world
  live : setting.Live

end Contracts

end Pardosa
