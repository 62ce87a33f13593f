import Pardosa.Foundation.Loop
import Pardosa.Store.Engine

/-!
# Chunked recovery

The chunk loop that a storage engine recovers by, with the machine numbers of the source: its
indices saturate, its counts are checked, and a loop that would not end or a count that would
overflow is told from a result. Over an engine that always reads the same frames it leaves
with what handing over the frames of one full read would leave with.
-/

namespace Pardosa

open Foundation

variable {σ : Type}

/-- Hands the frames of a chunk to a callback, and counts them; nothing is answered for a count
that overflows. -/
def deliverCounting (advance : Nat → Option Nat) (onFrame : FrameRecoveryCallback σ) :
    (total : Nat) → List Bytes → σ → Except OperationFailure (Option Nat) × σ
  | total, [], captured => (.ok (some total), captured)
  | total, frame :: frames, captured =>
      match onFrame total frame captured with
      | (.error failure, after) => (.error failure, after)
      | (.ok (), after) =>
          match advance total with
          | none => (.ok none, after)
          | some total => deliverCounting advance onFrame total frames after

/-- A count that stays in range is the position of the next frame. -/
theorem deliverCounting_eq {advance : Nat → Option Nat} {limit : Nat}
    (counts : ∀ total < limit, advance total = some (total + 1))
    (onFrame : FrameRecoveryCallback σ) {total : Nat} {frames : List Bytes}
    (inRange : total + frames.length ≤ limit) (captured : σ) :
    deliverCounting advance onFrame total frames captured =
      ((deliverFrames onFrame total frames captured).1.map some,
        (deliverFrames onFrame total frames captured).2) := by
  induction frames generalizing total captured with
  | nil => rfl
  | cons frame frames ih =>
      rw [List.length_cons] at inRange
      unfold deliverCounting deliverFrames
      cases called : onFrame total frame captured with
      | mk outcome after =>
          cases outcome with
          | error failure => rfl
          | ok =>
              dsimp only
              rw [counts total (by omega)]
              exact ih (by omega) after

/-- Below the bound, the saturating sum is the sum. -/
theorem saturatingAdd_one (total : Nat) (below : total < u64Max) :
    some (saturatingAdd total 1) = some (total + 1) :=
  congrArg some (Nat.min_eq_left below)

/-- Below the bound, so is the checked sum. -/
theorem checkedAdd_one (total : Nat) (below : total < u64Max) :
    checkedAdd total 1 = some (total + 1) := checkedAdd_eq below

/-- A callback that records its calls and how they ended. -/
def recordCalls (onFrame : FrameRecoveryCallback σ) :
    FrameRecoveryCallback (σ × List (Nat × Bytes × Except OperationFailure Unit)) :=
  fun position frame state =>
    let (outcome, captured) := onFrame position frame state.1
    (outcome, captured, state.2 ++ [(position, frame, outcome)])

/-- The calls for frames from a position on, all of which go well. -/
def callsFrom (position : Nat) (frames : List Bytes) :
    List (Nat × Bytes × Except OperationFailure Unit) :=
  (frames.zipIdx position).map fun numbered => (numbered.2, numbered.1, .ok ())

/-- The calls that handing over frames makes: each frame at its position, in order and once, up
to the first call that fails. -/
def MadeCalls (position : Nat) (frames : List Bytes) :
    Except OperationFailure Nat → List (Nat × Bytes × Except OperationFailure Unit) → Prop
  | .ok total, calls => total = position + frames.length ∧ calls = callsFrom position frames
  | .error failure, calls => ∃ before frame after, frames = before ++ frame :: after ∧
      calls = callsFrom position before ++ [(position + before.length, frame, .error failure)]

/-- Handing over frames makes these calls, and recording them changes nothing. -/
theorem deliverFrames_recordCalls (onFrame : FrameRecoveryCallback σ) (position : Nat)
    (frames : List Bytes) (captured : σ)
    (earlier : List (Nat × Bytes × Except OperationFailure Unit)) :
    ∃ calls, MadeCalls position frames (deliverFrames onFrame position frames captured).1 calls ∧
      deliverFrames (recordCalls onFrame) position frames (captured, earlier) =
        ((deliverFrames onFrame position frames captured).1,
          (deliverFrames onFrame position frames captured).2, earlier ++ calls) := by
  induction frames generalizing position captured earlier with
  | nil => exact ⟨[], ⟨rfl, rfl⟩, by simp [deliverFrames]⟩
  | cons frame frames ih =>
      unfold deliverFrames recordCalls
      cases called : onFrame position frame captured with
      | mk outcome after =>
          cases outcome with
          | error failure =>
              exact ⟨[(position, frame, .error failure)], ⟨[], frame, frames, rfl, rfl⟩, rfl⟩
          | ok =>
              obtain ⟨calls, made, delivered⟩ :=
                ih (position + 1) after (earlier ++ [(position, frame, .ok ())])
              refine ⟨(position, frame, .ok ()) :: calls, ?_, ?_⟩
              · dsimp only
                cases ended : (deliverFrames onFrame (position + 1) frames after).1 with
                | ok total =>
                    rw [ended] at made
                    obtain ⟨rfl, rfl⟩ := made
                    exact ⟨by rw [List.length_cons]; omega, rfl⟩
                | error failure =>
                    rw [ended] at made
                    obtain ⟨before, last, behind, rfl, rfl⟩ := made
                    refine ⟨frame :: before, last, behind, rfl, ?_⟩
                    rw [List.length_cons, Nat.add_comm before.length, ← Nat.add_assoc]
                    rfl
              · dsimp only
                rw [List.append_assoc] at delivered
                exact delivered

/-- What reading the block at an index answers. -/
def blockOf (frames : List Bytes) (index : Nat) : Except OperationFailure Bytes :=
  match frames[index]? with
  | some frame => .ok frame
  | none => .error ⟨.valueConstraintViolated .tooLong, "block index out of bounds"⟩

/-- The last frame of a chunk of at most one is the frame at its index. -/
theorem getLast?_chunk (frames : List Bytes) (index : Nat) :
    ((frames.drop index).take 1).getLast? = frames[index]? := by
  rw [← List.head?_drop]
  cases frames.drop index with
  | nil => rfl
  | cons frame frames => rfl

section HandedOver

variable (onFrame : FrameRecoveryCallback σ) (frames : List Bytes) (captured : σ)

/-- So many frames are handed over, and the rest leads where all of them lead. -/
structure HandedOver (reached : Nat) (passed : σ) : Prop where
  within : reached ≤ frames.length
  leads : deliverFrames onFrame reached (frames.drop reached) passed =
    deliverFrames onFrame 0 frames captured

variable {onFrame frames captured}

/-- At the start nothing is handed over. -/
theorem HandedOver.start : HandedOver onFrame frames captured 0 captured :=
  ⟨Nat.zero_le _, rfl⟩

/-- When all of them are handed over, that is where they lead. -/
theorem HandedOver.all {reached : Nat} {passed : σ}
    (handed : HandedOver onFrame frames captured reached passed)
    (all : frames.length ≤ reached) :
    deliverFrames onFrame 0 frames captured = (.ok reached, passed) := by
  rw [← handed.leads, List.drop_eq_nil_of_le all]
  rfl

/-- Frames that are all taken are counted. -/
theorem deliverFrames_ok {position total : Nat} {after : σ}
    (delivered : deliverFrames onFrame position frames captured = (.ok total, after)) :
    total = position + frames.length := by
  obtain ⟨calls, made, -⟩ := deliverFrames_recordCalls onFrame position frames captured []
  rw [delivered] at made
  exact made.1

/-- A chunk of what is left is taken, or fails as all frames do. -/
theorem HandedOver.chunk {reached : Nat} {passed : σ}
    (handed : HandedOver onFrame frames captured reached passed) (count : Nat) :
    match deliverFrames onFrame reached ((frames.drop reached).take count) passed with
    | (.error failure, after) =>
        deliverFrames onFrame 0 frames captured = (.error failure, after)
    | (.ok next, after) => next = reached + ((frames.drop reached).take count).length ∧
        HandedOver onFrame frames captured next after := by
  have split := deliverFrames_append onFrame reached ((frames.drop reached).take count)
    ((frames.drop reached).drop count) passed
  rw [List.take_append_drop, handed.leads] at split
  cases delivered : deliverFrames onFrame reached ((frames.drop reached).take count) passed with
  | mk outcome after =>
      rw [delivered] at split
      cases outcome with
      | error failure => exact split
      | ok next =>
          have counted := deliverFrames_ok delivered
          have within := handed.within
          have left : frames.drop next = (frames.drop reached).drop count := by
            rw [counted, ← List.drop_drop, List.length_take]
            by_cases enough : count ≤ (frames.drop reached).length
            · rw [Nat.min_eq_left enough]
            · rw [Nat.min_eq_right (by omega), List.drop_length,
                List.drop_eq_nil_of_le (by omega)]
          refine ⟨counted, ?_, ?_⟩
          · rw [counted, List.length_take, List.length_drop]
            omega
          · rw [left, split]

end HandedOver

/-- What a recovery answers that has left with what was handed over. -/
def Recovered (delivered : Except OperationFailure Nat × σ) {Place : Type} :
    Except OperationFailure (Place ⊕ Option Nat) × σ :=
  (delivered.1.map fun total => .inr (some total), delivered.2)

/-- A loop owes what was handed over, counted in range, and keeps an invariant of its engine. -/
def Owed {Engine World : Type} (delivered : Except OperationFailure Nat × σ)
    (Inv : Engine → World → Prop) (outcome : Except OperationFailure (Option Nat))
    (after : Engine × σ) (later : World) : Prop :=
  outcome = delivered.1.map some ∧ after.2 = delivered.2 ∧ Inv after.1 later

/-- A loop that has left with what it owes has recovered. -/
theorem recovered_of_leaving {Engine World Place : Type}
    {delivered : Except OperationFailure Nat × σ} {Inv : Engine → World → Prop}
    {outcome : Except OperationFailure (Place ⊕ Option Nat)} {after : Engine × σ} {later : World}
    (left : Action.Leaving (fun _ _ _ => False) (Owed delivered Inv) outcome after later) :
    (outcome, after.2) = Recovered delivered ∧ Inv after.1 later := by
  obtain ⟨ended, passed⟩ := delivered
  rcases outcome with failure | place | counted
  · obtain ⟨same, rfl, kept⟩ := left
    cases ended with
    | error => cases same; exact ⟨rfl, kept⟩
    | ok total => cases same
  · exact left.elim
  · obtain ⟨same, rfl, kept⟩ := left
    cases ended with
    | error => cases same
    | ok total => cases same; exact ⟨rfl, kept⟩

section Default

variable {S : Signature} {Engine World : Type}

/-- One round of the chunk loop of an engine without a recovery of its own: a place is a start
index and the number of frames handed over so far. -/
def recoverRound (readChunk : Nat → Nat → Action S OperationFailure Engine (List Bytes))
    (chunkSize : Nat) (onFrame : FrameRecoveryCallback σ) :
    Nat × Nat → Action S OperationFailure (Engine × σ) (Nat × Nat ⊕ Option Nat)
  | (startIndex, totalFrames) => do
      let chunk ← Action.on Prod.fst (fun engine state => (engine, state.2))
        (readChunk startIndex chunkSize)
      if chunk = [] then
        return .inr (some totalFrames)
      else
        let counted ← Action.mutate fun state =>
          let (outcome, captured) := deliverCounting (fun total => some (saturatingAdd total 1))
            onFrame totalFrames chunk state.2
          (outcome, (state.1, captured))
        match counted with
        | none => return .inr none
        | some totalFrames =>
            if chunk.length < chunkSize then return .inr (some totalFrames)
            else return .inl (saturatingAdd startIndex chunk.length, totalFrames)

variable [StorageEngine S Engine]

/-- Recovery of an engine without one of its own, in at most so many rounds. -/
def StorageEngine.recoverFramesWithin (rounds chunkSize : Nat) (onFrame : FrameRecoveryCallback σ) :
    Action S OperationFailure (Engine × σ) (Nat × Nat ⊕ Option Nat) :=
  Action.loop (recoverRound StorageEngine.readChunk (max chunkSize 1) onFrame) rounds (0, 0)

/-- An engine that reads its chunks from a full read, and whose full read answers fixed
frames. -/
structure FixedFrames (setting : Setting S World) (Inv : Engine → World → Prop)
    (frames : List Bytes) : Prop where
  chunked : ∀ startIndex maxItems, (StorageEngine.readChunk startIndex maxItems :
    Action S OperationFailure Engine (List Bytes)) =
      chunkOfAll StorageEngine.readAll startIndex maxItems
  readAll : ∀ engine world, Inv engine world → (StorageEngine.readAll).wp setting
    (fun outcome after later => outcome = .ok frames ∧ Inv after later) engine world

namespace FixedFrames

variable {setting : Setting S World} {Inv : Engine → World → Prop} {frames : List Bytes}

/-- A chunk is the frames from its index on, as many as were asked for. -/
theorem wp_readChunk (fixed : FixedFrames setting Inv frames) (startIndex maxItems : Nat)
    {engine : Engine} {world : World} (holds : Inv engine world) :
    (StorageEngine.readChunk startIndex maxItems).wp setting
      (fun outcome after later => outcome = .ok ((frames.drop startIndex).take maxItems) ∧
        Inv after later) engine world := by
  rw [fixed.chunked, chunkOfAll]
  split_ifs with none
  · rw [none]
    exact ⟨rfl, holds⟩
  · rw [Action.wp_bind]
    refine Action.wp_mono (fixed.readAll engine world holds) ?_
    rintro outcome after later ⟨rfl, kept⟩
    exact ⟨congrArg Except.ok (chunkOf_eq frames startIndex (Nat.pos_of_ne_zero none)), kept⟩

/-- A block is the frame at its index, and there is none behind the last. -/
theorem wp_readBlock (fixed : FixedFrames setting Inv frames) (index : Nat) {engine : Engine}
    {world : World} (holds : Inv engine world) :
    (StorageEngine.readBlock index).wp setting
      (fun outcome after later => outcome = blockOf frames index ∧ Inv after later)
      engine world := by
  simp only [StorageEngine.readBlock, Action.wp_bind, Action.wp_require]
  refine Action.wp_mono (fixed.wp_readChunk index 1 holds) ?_
  rintro outcome after later ⟨rfl, kept⟩
  dsimp only
  rw [getLast?_chunk, blockOf]
  cases frames[index]? with
  | none => exact ⟨rfl, kept⟩
  | some frame => exact ⟨rfl, kept⟩

variable {onFrame : FrameRecoveryCallback σ} {captured : σ}

/-- A round of the chunk loop hands over the next chunk. -/
theorem wp_recoverRound (fixed : FixedFrames setting Inv frames) (inRange : frames.length ≤ u64Max)
    {size : Nat} (positive : 0 < size) {reached : Nat} {engine : Engine} {passed : σ}
    {world : World} (handed : HandedOver onFrame frames captured reached passed)
    (holds : Inv engine world) :
    (recoverRound StorageEngine.readChunk size onFrame (reached, reached)).wp setting
      (Action.Leaving (fun next after later => frames.length - next.1 < frames.length - reached ∧
          next.1 = next.2 ∧ HandedOver onFrame frames captured next.1 after.2 ∧ Inv after.1 later)
        (Owed (deliverFrames onFrame 0 frames captured) Inv)) (engine, passed) world := by
  have within := handed.within
  simp only [recoverRound, Action.wp_bind, Action.wp_on]
  refine Action.wp_mono (fixed.wp_readChunk reached size holds) ?_
  rintro outcome after later ⟨rfl, kept⟩
  dsimp only
  by_cases done : (frames.drop reached).take size = []
  · rw [if_pos done]
    have all : frames.length ≤ reached := by
      have none := congrArg List.length done
      rw [List.length_take, List.length_drop, List.length_nil] at none
      omega
    rw [handed.all all]
    exact ⟨rfl, rfl, kept⟩
  · rw [if_neg done]
    have some : 0 < ((frames.drop reached).take size).length := List.length_pos_iff.mpr done
    have inChunk : reached + ((frames.drop reached).take size).length ≤ u64Max := by
      rw [List.length_take, List.length_drop]
      omega
    have next := handed.chunk size
    simp only [Action.wp_bind, Action.wp_mutate]
    rw [deliverCounting_eq saturatingAdd_one onFrame inChunk passed]
    cases delivered : deliverFrames onFrame reached ((frames.drop reached).take size) passed with
    | mk verdict handedOn =>
        rw [delivered] at next
        cases verdict with
        | error failure =>
            dsimp only at next
            rw [next]
            exact ⟨rfl, rfl, kept⟩
        | ok total =>
            obtain ⟨counted, handed⟩ := next
            rw [List.length_take, List.length_drop] at counted some
            dsimp only [Except.map]
            by_cases last : ((frames.drop reached).take size).length < size
            · rw [if_pos last]
              rw [List.length_take, List.length_drop] at last
              rw [handed.all (by omega)]
              exact ⟨rfl, rfl, kept⟩
            · rw [if_neg last]
              have index :
                  saturatingAdd reached ((frames.drop reached).take size).length = total := by
                rw [saturatingAdd, Nat.min_eq_left inChunk, List.length_take, List.length_drop]
                omega
              rw [index]
              exact ⟨by dsimp only; omega, rfl, handed, kept⟩

/-- The chunk loop leaves with what handing over all frames leaves with. -/
theorem wp_recoverFramesWithin (fixed : FixedFrames setting Inv frames)
    (inRange : frames.length ≤ u64Max) (chunkSize : Nat) {rounds : Nat}
    (enough : frames.length < rounds) {engine : Engine} {world : World} (holds : Inv engine world) :
    (StorageEngine.recoverFramesWithin rounds chunkSize onFrame).wp setting
      (fun outcome after later =>
        (outcome, after.2) = Recovered (deliverFrames onFrame 0 frames captured) ∧
          Inv after.1 later) (engine, captured) world := by
  have left : (StorageEngine.recoverFramesWithin rounds chunkSize onFrame).wp setting
      (Action.Leaving (fun _ _ _ => False) (Owed (deliverFrames onFrame 0 frames captured) Inv))
      (engine, captured) world := by
    -- between two rounds as many frames are handed over as both numbers of the place say
    refine Action.wp_loop (fun place state world => place.1 = place.2 ∧
      HandedOver onFrame frames captured place.1 state.2 ∧ Inv state.1 world)
      (fun place => frames.length - place.1) ?_ enough ⟨rfl, .start, holds⟩
    rintro ⟨reached, total⟩ ⟨engine, passed⟩ world ⟨same, handed, holds⟩
    change reached = total at same
    subst same
    exact fixed.wp_recoverRound inRange (by omega) handed holds
  exact Action.wp_mono left fun _ _ _ => recovered_of_leaving

end FixedFrames

end Default

end Pardosa
