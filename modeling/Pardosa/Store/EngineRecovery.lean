import Pardosa.File.Opening
import Pardosa.Nats.Prompt
import Pardosa.Store.ChunkedRecovery

/-!
# Recovery of the storage engines

The file engine recovers in one scan, the JetStream engine in ranges of sequences behind the
header. Each leaves with what handing over the frames of one full read leaves with, whatever
the chunk size and however close the sequences come to the largest number.
-/

namespace Pardosa

open Foundation

variable [Digests] {σ : Type}

namespace FileEngine

variable {frames : List Bytes} {engine : FileEngine} {world : FileWorld}

/-- An engine whose container holds the frames; without a file there are none. -/
def Holds (frames : List Bytes) (engine : FileEngine) (world : FileWorld) : Prop :=
  if engine.file then (world .pgnoFile).content = some (containerBytes frames) else frames = []

/-- An open file holds the frames it is written as. -/
theorem holds_of_opened (opened : engine.file = true) :
    Holds frames engine world ↔ (world .pgnoFile).content = some (containerBytes frames) := by
  rw [Holds, if_pos opened]

/-- A file that is not open holds none. -/
theorem holds_of_closed (closed : engine.file = false) :
    Holds frames engine world ↔ frames = [] := by
  rw [Holds, if_neg (by simp [closed])]

/-- A full read answers the frames and leaves the container as it is. -/
theorem evaluate_readAll (fits : ∀ frame ∈ frames, frame.length ≤ u32Max)
    (holds : Holds frames engine world) :
    ∃ after later, (readAll engine).evaluate fileHandler world = ((.ok frames, after), later) ∧
      Holds frames after later := by
  unfold readAll
  rw [Action.evaluate_bind rfl, Action.evaluate_bind rfl]
  cases opened : engine.file with
  | false =>
      rw [holds_of_closed opened] at holds
      subst holds
      rw [if_pos (by simp)]
      exact ⟨_, _, rfl, (holds_of_closed opened).mpr rfl⟩
  | true =>
      rw [holds_of_opened opened] at holds
      rw [if_neg (by simp), Action.evaluate_bind (evaluate_scanClean _ fits holds)]
      exact ⟨_, _, rfl, (holds_of_opened opened).mpr (by rw [Function.update_self])⟩

/-- The file engine reads its chunks from a full read, which answers the frames it holds. -/
theorem fixedFrames (fits : ∀ frame ∈ frames, frame.length ≤ u32Max) :
    FixedFrames fileHandler.setting (Holds frames) frames where
  chunked _ _ := rfl
  readAll engine world holds := by
    obtain ⟨after, later, evaluates, kept⟩ := evaluate_readAll fits holds
    exact (Action.wp_of_evaluate evaluates).mpr ⟨rfl, kept⟩

/-- Recovery hands over the frames of one scan. -/
theorem evaluate_recoverFrames_of_holds (onFrame : FrameRecoveryCallback σ) (captured : σ)
    (fits : ∀ frame ∈ frames, frame.length ≤ u32Max) (holds : Holds frames engine world) :
    ∃ after later, (recoverFrames onFrame (engine, captured)).evaluate fileHandler world =
      (((deliverFrames onFrame 0 frames captured).1, after,
        (deliverFrames onFrame 0 frames captured).2), later) ∧ Holds frames after later := by
  cases opened : engine.file with
  | false =>
      rw [holds_of_closed opened] at holds
      subst holds
      unfold recoverFrames
      rw [Action.evaluate_bind rfl]
      dsimp only
      rw [if_pos (by simp [opened])]
      exact ⟨_, _, rfl, (holds_of_closed opened).mpr rfl⟩
  | true =>
      rw [holds_of_opened opened] at holds
      refine ⟨_, _, evaluate_recoverFrames onFrame captured opened fits holds, ?_⟩
      exact (holds_of_opened opened).mpr (by rw [Function.update_self])

end FileEngine

/-- Reads a chunk of payloads of the event data, with the capacity that is set aside for them;
nothing is answered for a capacity that overflows. -/
def readDataChunkChecked {σ : Type} (dataStreamName : String) (startIndex maxItems : Nat) :
    Action natsOperations OperationFailure σ (Option (List Bytes)) := do
  if maxItems = 0 then return some []
  else
    let info ← dataExtent dataStreamName
    match (checkedAdd info.firstSequence 1).bind (checkedAdd · startIndex) with
    | none => return some []
    | some startSeq =>
        let endSeq := NatsEngine.chunkEndFrom startSeq maxItems info.lastSequence
        if startSeq > info.lastSequence ∨ startSeq > endSeq then return some []
        else match checkedAdd (endSeq - startSeq) 1 with
          | none => return none
          | some count =>
              let frames ← readFrames count startSeq
              return some frames

namespace NatsEngine

/-- One round of the range loop of recovery: a place is the sequence to read from and the number
of frames handed over so far. Nothing is answered for a sum that overflows. -/
def recoverRound (onFrame : FrameRecoveryCallback σ) (dataStreamName : String)
    (chunkStep last : Nat) :
    Nat × Nat → Action natsOperations OperationFailure (NatsEngine × σ) (Nat × Nat ⊕ Option Nat)
  | (currentSeq, totalRecovered) =>
      if currentSeq > last then return .inr (some totalRecovered)
      else do
        let chunkEnd := chunkEndFrom currentSeq chunkStep last
        let frames ← readRange dataStreamName currentSeq chunkEnd
        Action.refuseIf (frames.length ≠ saturatingAdd (chunkEnd - currentSeq) 1) (chainBroken
          ("unexpected missing messages between " ++ toString currentSeq ++ " and " ++
            toString chunkEnd ++ " in data stream"))
        let counted ← Action.mutate fun state =>
          let (outcome, captured) := deliverCounting (checkedAdd · 1) onFrame totalRecovered frames
            state.2
          (outcome, (state.1, captured))
        match counted with
        | none => return .inr none
        | some totalRecovered =>
            if chunkEnd = u64Max ∨ chunkEnd ≥ last then return .inr (some totalRecovered)
            else match checkedAdd chunkEnd 1 with
              | none => return .inr none
              | some currentSeq => return .inl (currentSeq, totalRecovered)

section Rounds

variable {adapter : NatsStorageAdapter} {broker : Broker} {events : List Bytes}
  {onFrame : FrameRecoveryCallback σ} {captured : σ} {engine : NatsEngine}

/-- A round of the range loop hands over the messages of the next range. -/
theorem wp_recoverRound (dataStreamName : String) (inRange : events.length + 1 ≤ u64Max)
    (fits : ∀ event ∈ events, event.length ≤ u32Max)
    (stands : broker.streams .dataStream = some (Broker.framedMessages events))
    {chunkStep : Nat} (positive : 0 < chunkStep) {reached : Nat} {passed : σ}
    (handed : HandedOver onFrame events captured reached passed) :
    (recoverRound onFrame dataStreamName chunkStep (events.length + 1) (reached + 2, reached)).wp
      (promptBroker adapter).setting
      (Action.Leaving (fun next after later => events.length - next.2 < events.length - reached ∧
          next.1 = next.2 + 2 ∧ HandedOver onFrame events captured next.2 after.2 ∧
          after.1 = engine ∧ later = broker)
        (Owed (deliverFrames onFrame 0 events captured)
          fun after later => after = engine ∧ later = broker)) (engine, passed) broker := by
  have within := handed.within
  simp only [recoverRound]
  by_cases beyond : reached + 2 > events.length + 1
  · rw [if_pos beyond, handed.all (by omega)]
    exact ⟨rfl, rfl, rfl, rfl⟩
  rw [if_neg beyond]
  obtain ⟨starts, inside, full⟩ := chunkEndFrom_bounds positive (Nat.le_of_not_lt beyond)
  generalize chunkEndFrom (reached + 2) chunkStep (events.length + 1) = chunkEnd at *
  have read := evaluate_readRange adapter (engine, passed) dataStreamName fits stands starts inside
  generalize ranged : chunkEnd - (reached + 2) + 1 = count at read
  have whole : ((events.drop reached).take count).length = count := by
    rw [List.length_take, List.length_drop]
    omega
  have expected : saturatingAdd (chunkEnd - (reached + 2)) 1 = count := by
    rw [saturatingAdd]
    omega
  have next := handed.chunk count
  simp only [Action.wp_bind, Action.wp_refuseIf, Action.wp_mutate]
  rw [Action.wp_of_evaluate read]
  dsimp only
  rw [if_neg (by rw [whole, expected]; exact not_not_intro rfl)]
  rw [deliverCounting_eq checkedAdd_one onFrame (by rw [whole]; omega) passed]
  cases delivered : deliverFrames onFrame reached ((events.drop reached).take count) passed with
  | mk verdict handedOn =>
      rw [delivered] at next
      cases verdict with
      | error failure =>
          dsimp only at next
          rw [next]
          exact ⟨rfl, rfl, rfl, rfl⟩
      | ok total =>
          obtain ⟨counted, handed⟩ := next
          rw [whole] at counted
          dsimp only [Except.map]
          by_cases last : chunkEnd ≥ events.length + 1
          · rw [if_pos (Or.inr last), handed.all (by omega)]
            exact ⟨rfl, rfl, rfl, rfl⟩
          · have step := full (by omega)
            rw [if_neg (by omega), checkedAdd_eq (by omega)]
            exact ⟨by dsimp only; omega, by dsimp only; omega, handed, rfl, rfl⟩

end Rounds

/-- Recovery of the event data, in at most so many rounds. -/
def recoverFramesWithin (rounds chunkSize : Nat) (onFrame : FrameRecoveryCallback σ) :
    Action natsOperations OperationFailure (NatsEngine × σ) (Nat × Nat ⊕ Option Nat) := do
  let (engine, _) ← get
  let info ← dataExtent engine.dataStreamName
  let last := info.lastSequence
  match checkedAdd info.firstSequence 1 with
  | none =>
      modify fun state => ({ state.1 with lastDataSeq := last }, state.2)
      return .inr (some 0)
  | some dataStartSeq =>
      if dataStartSeq > last then
        modify fun state => ({ state.1 with lastDataSeq := last }, state.2)
        return .inr (some 0)
      else
        match ← Action.loop (recoverRound onFrame engine.dataStreamName (max chunkSize 1) last)
            rounds (dataStartSeq, 0) with
        | .inl place => return .inl place
        | .inr none => return .inr none
        | .inr (some totalRecovered) =>
            modify fun state => ({ state.1 with lastDataSeq := last }, state.2)
            return .inr (some totalRecovered)

omit [Digests] in
/-- The sequence that a chunk begins with, when it is in range. -/
theorem chunkStart (startIndex : Nat) :
    (checkedAdd 1 1).bind (checkedAdd · startIndex) =
      if startIndex + 2 ≤ u64Max then some (startIndex + 2) else none := by
  have first : checkedAdd 1 1 = some 2 := rfl
  rw [first, Option.bind_some, checkedAdd, Nat.add_comm]

section Stream

variable (adapter : NatsStorageAdapter) {broker : Broker} {events : List Bytes}
  (fits : ∀ event ∈ events, event.length ≤ u32Max)
  (stands : broker.streams .dataStream = some (Broker.framedMessages events))
  (inRange : events.length + 1 ≤ u64Max)

include fits stands inRange

/-- The range loop leaves with what handing over all payloads leaves with. -/
theorem evaluate_loop (onFrame : FrameRecoveryCallback σ) (captured : σ) (dataStreamName : String)
    {chunkStep : Nat} (positive : 0 < chunkStep) {rounds : Nat} (enough : events.length < rounds)
    (engine : NatsEngine) :
    (Action.loop (recoverRound onFrame dataStreamName chunkStep (events.length + 1)) rounds (2, 0)
      (engine, captured)).evaluate (promptBroker adapter) broker =
        (((Recovered (deliverFrames onFrame 0 events captured)).1, engine,
          (deliverFrames onFrame 0 events captured).2), broker) := by
  have left : (Action.loop (recoverRound onFrame dataStreamName chunkStep (events.length + 1))
      rounds (2, 0)).wp (promptBroker adapter).setting
      (Action.Leaving (fun _ _ _ => False) (Owed (deliverFrames onFrame 0 events captured)
        fun after later => after = engine ∧ later = broker)) (engine, captured) broker := by
    -- the next sequence is two beyond the number of payloads that are handed over
    refine Action.wp_loop (fun place state world => place.1 = place.2 + 2 ∧
      HandedOver onFrame events captured place.2 state.2 ∧ state.1 = engine ∧ world = broker)
      (fun place => events.length - place.2) ?_ enough ⟨rfl, .start, rfl, rfl⟩
    rintro ⟨currentSeq, reached⟩ ⟨_, passed⟩ _ ⟨same, handed, rfl, rfl⟩
    change currentSeq = reached + 2 at same
    subst same
    exact wp_recoverRound dataStreamName inRange fits stands positive handed
  have ended := Action.wp_handler_iff.mp left
  generalize Program.evaluate (promptBroker adapter) _ broker = result at ended ⊢
  obtain ⟨⟨outcome, after, passed⟩, later⟩ := result
  obtain ⟨same, rfl, rfl⟩ := recovered_of_leaving ended
  cases same
  rfl

/-- Recovery leaves with what handing over all payloads leaves with, within more rounds than
there are payloads. -/
theorem evaluate_recoverFramesWithin (onFrame : FrameRecoveryCallback σ) (captured : σ)
    (chunkSize : Nat) {rounds : Nat} (enough : events.length < rounds) (engine : NatsEngine) :
    (recoverFramesWithin rounds chunkSize onFrame (engine, captured)).evaluate
        (promptBroker adapter) broker =
      (((Recovered (deliverFrames onFrame 0 events captured)).1,
        engine.behindRecovery (events.length + 1) (deliverFrames onFrame 0 events captured).1,
        (deliverFrames onFrame 0 events captured).2), broker) := by
  have next : checkedAdd 1 1 = some 2 := rfl
  unfold recoverFramesWithin
  rw [Action.evaluate_bind rfl]
  dsimp only
  rw [Action.evaluate_bind (evaluate_dataExtent adapter _ _ stands)]
  dsimp only
  rw [next]
  dsimp only
  by_cases bare : 2 > events.length + 1
  · have none : events = [] := List.eq_nil_of_length_eq_zero (by omega)
    subst none
    rw [if_pos bare]
    rfl
  · rw [if_neg bare]
    have loop := evaluate_loop adapter fits stands inRange onFrame captured engine.dataStreamName
      (Nat.lt_of_lt_of_le Nat.one_pos (Nat.le_max_right chunkSize 1)) enough engine
    cases delivered : deliverFrames onFrame 0 events captured with
    | mk outcome passed =>
        rw [delivered] at loop
        cases outcome with
        | error failure => exact Action.evaluate_bind_error loop
        | ok total =>
            rw [Action.evaluate_bind loop]
            rfl

/-- The messages of a chunk that begins within the stream are its payloads. -/
theorem evaluate_chunkFrames {τ : Type} (state : τ) {startIndex maxItems : Nat}
    (positive : 0 < maxItems) (within : startIndex + 2 ≤ events.length + 1) :
    (readFrames (chunkEndFrom (startIndex + 2) maxItems (events.length + 1) - (startIndex + 2) + 1)
      (startIndex + 2) state).evaluate (promptBroker adapter) broker =
        ((.ok ((events.drop startIndex).take maxItems), state), broker) := by
  have ends : chunkEndFrom (startIndex + 2) maxItems (events.length + 1) =
      min (startIndex + 2 + (maxItems - 1)) (events.length + 1) := by
    unfold chunkEndFrom checkedAdd
    split_ifs with fits
    · rfl
    · dsimp only
      omega
  have count : min (startIndex + 2 + (maxItems - 1)) (events.length + 1) - (startIndex + 2) + 1 =
      min maxItems (events.drop startIndex).length := by
    rw [List.length_drop]
    omega
  have inside : startIndex + min maxItems (events.drop startIndex).length ≤ events.length := by
    rw [List.length_drop]
    omega
  rw [ends, count, evaluate_readFrames adapter state fits stands inside, ← List.take_eq_take_min]

/-- A chunk is the payloads from its index on, as many as were asked for, and its capacity does
not overflow. -/
theorem evaluate_readDataChunkChecked {τ : Type} (state : τ) (dataStreamName : String)
    (startIndex maxItems : Nat) :
    (readDataChunkChecked dataStreamName startIndex maxItems state).evaluate (promptBroker adapter)
      broker = ((.ok (some ((events.drop startIndex).take maxItems)), state), broker) := by
  unfold readDataChunkChecked
  by_cases none : maxItems = 0
  · rw [if_pos none, none]
    rfl
  rw [if_neg none, Action.evaluate_bind (evaluate_dataExtent adapter _ _ stands)]
  dsimp only
  rw [chunkStart]
  by_cases beyond : startIndex + 2 > events.length + 1
  · rw [List.drop_eq_nil_of_le (by omega), List.take_nil]
    split_ifs
    · dsimp only
      rw [if_pos (Or.inl beyond)]
      rfl
    · rfl
  have within := Nat.le_of_not_lt beyond
  obtain ⟨starts, inside, -⟩ := chunkEndFrom_bounds (Nat.pos_of_ne_zero none) within
  rw [if_pos (by omega)]
  dsimp only
  rw [if_neg (by omega), checkedAdd_eq (by omega)]
  exact Action.evaluate_bind (evaluate_chunkFrames adapter fits stands inRange state
    (Nat.pos_of_ne_zero none) within)

/-- A chunk read by the engine is the payloads from its index on, as many as were asked for. -/
theorem evaluate_readChunk (engine : NatsEngine) (startIndex maxItems : Nat) :
    (readChunk startIndex maxItems engine).evaluate (promptBroker adapter) broker =
      ((.ok ((events.drop startIndex).take maxItems), engine), broker) := by
  unfold readChunk
  rw [Action.evaluate_bind rfl]
  unfold readDataChunk
  by_cases none : maxItems = 0
  · rw [if_pos none, none]
    rfl
  rw [if_neg none, Action.evaluate_bind (evaluate_dataExtent adapter _ _ stands)]
  dsimp only
  rw [chunkStart]
  by_cases beyond : startIndex + 2 > events.length + 1
  · rw [List.drop_eq_nil_of_le (by omega), List.take_nil]
    split_ifs
    · dsimp only
      rw [if_pos (Or.inl beyond)]
      rfl
    · rfl
  have within := Nat.le_of_not_lt beyond
  obtain ⟨starts, inside, -⟩ := chunkEndFrom_bounds (Nat.pos_of_ne_zero none) within
  rw [if_pos (by omega)]
  change Program.evaluate _ ((if startIndex + 2 > events.length + 1 ∨
    startIndex + 2 > chunkEndFrom (startIndex + 2) maxItems (events.length + 1) then _ else
    readFrames (chunkEndFrom (startIndex + 2) maxItems (events.length + 1) - (startIndex + 2) + 1)
      (startIndex + 2) : Action _ _ _ _) engine) broker = _
  rw [if_neg (by omega)]
  exact evaluate_chunkFrames adapter fits stands inRange engine (Nat.pos_of_ne_zero none) within

omit inRange in
/-- A full read answers all payloads. -/
theorem evaluate_readAll (engine : NatsEngine) :
    (readAll engine).evaluate (promptBroker adapter) broker =
      ((.ok events, { engine with readAllCount := engine.readAllCount + 1 }), broker) := by
  unfold readAll
  rw [Action.evaluate_bind rfl, Action.evaluate_bind rfl]
  unfold readDataFrames
  rw [Action.evaluate_bind (evaluate_dataExtent adapter _ _ stands)]
  dsimp only
  by_cases some : 1 < events.length + 1
  · have read := evaluate_readFrames adapter
      { engine with readAllCount := engine.readAllCount + 1 } fits stands
      (Nat.le_of_eq (Nat.zero_add events.length))
    rw [List.drop_zero, List.take_length] at read
    rw [if_pos some, Nat.add_sub_cancel]
    exact read
  · rw [if_neg some, List.eq_nil_of_length_eq_zero (by omega : events.length = 0)]
    rfl

/-- A block is the payload at its index, and there is none behind the last. -/
theorem evaluate_readBlock (engine : NatsEngine) (index : Nat) :
    (StorageEngine.readBlock index engine).evaluate (promptBroker adapter) broker =
      ((blockOf events index, engine), broker) := by
  have chunk : ((StorageEngine.readChunk index 1 : Action natsOperations _ _ _) engine).evaluate
      (promptBroker adapter) broker = ((.ok ((events.drop index).take 1), engine), broker) :=
    evaluate_readChunk adapter fits stands inRange engine index 1
  unfold StorageEngine.readBlock
  rw [Action.evaluate_bind chunk, getLast?_chunk, blockOf]
  cases events[index]? with
  | none => rfl
  | some event => rfl

end Stream

end NatsEngine

/-- Chunked recovery is one full read, for every chunk size. Handing over frames calls the
callback with each frame at its position, in order and once, and stops at the first error. An
engine that leaves recovery and chunks at their defaults leaves the chunk loop with what
handing over the frames of its full read leaves with. So does the file engine over the container
it holds, and the JetStream engine over a stream of a header and the framed payloads, which
overflows no sequence and then knows where the stream ends, unless the callback has failed. A
block is the frame at its index. -/
theorem chunked_recovery_is_one_read :
    (∀ {σ : Type} (onFrame : FrameRecoveryCallback σ) (frames : List Bytes) (captured : σ),
      ∃ calls, MadeCalls 0 frames (deliverFrames onFrame 0 frames captured).1 calls ∧
        deliverFrames (recordCalls onFrame) 0 frames (captured, []) =
          ((deliverFrames onFrame 0 frames captured).1,
            (deliverFrames onFrame 0 frames captured).2, calls)) ∧
    (∀ {S : Signature} {Engine World : Type} [StorageEngine S Engine] (setting : Setting S World)
      (Inv : Engine → World → Prop) (frames : List Bytes), FixedFrames setting Inv frames →
      frames.length ≤ u64Max → ∀ engine world, Inv engine world →
      (∀ {σ : Type} (chunkSize : Nat) (onFrame : FrameRecoveryCallback σ) (captured : σ)
        (rounds : Nat), frames.length < rounds →
        (StorageEngine.recoverFramesWithin rounds chunkSize onFrame).wp setting
          (fun outcome after later =>
            (outcome, after.2) = Recovered (deliverFrames onFrame 0 frames captured) ∧
              Inv after.1 later) (engine, captured) world) ∧
      ∀ index, (StorageEngine.readBlock index).wp setting
        (fun outcome after later => outcome = blockOf frames index ∧ Inv after later)
        engine world) ∧
    (∀ frames : List Bytes, (∀ frame ∈ frames, frame.length ≤ u32Max) →
      FixedFrames fileHandler.setting (FileEngine.Holds frames) frames ∧
      ∀ {σ : Type} (chunkSize : Nat) (onFrame : FrameRecoveryCallback σ) (captured : σ)
        (engine : FileEngine) (world : FileWorld), FileEngine.Holds frames engine world →
        ∃ after later, (StorageEngine.recoverFrames chunkSize onFrame (engine, captured)).evaluate
            fileHandler world =
          (((deliverFrames onFrame 0 frames captured).1, after,
            (deliverFrames onFrame 0 frames captured).2), later)) ∧
    ∀ (adapter : NatsStorageAdapter) (broker : Broker) (frames : List Bytes),
      (∀ frame ∈ frames, frame.length ≤ u32Max) →
      broker.streams .dataStream = some (Broker.framedMessages frames) →
      frames.length + 1 ≤ u64Max → ∀ engine : NatsEngine,
      (StorageEngine.readAll engine).evaluate (promptBroker adapter) broker =
        ((.ok frames, { engine with readAllCount := engine.readAllCount + 1 }), broker) ∧
      (∀ {σ : Type} (chunkSize : Nat) (onFrame : FrameRecoveryCallback σ) (captured : σ),
        (∀ rounds, frames.length < rounds →
          (NatsEngine.recoverFramesWithin rounds chunkSize onFrame (engine, captured)).evaluate
              (promptBroker adapter) broker =
            (((Recovered (deliverFrames onFrame 0 frames captured)).1,
              engine.behindRecovery (frames.length + 1) (deliverFrames onFrame 0 frames captured).1,
              (deliverFrames onFrame 0 frames captured).2), broker)) ∧
        (StorageEngine.recoverFrames chunkSize onFrame (engine, captured)).evaluate
            (promptBroker adapter) broker =
          (((deliverFrames onFrame 0 frames captured).1,
            engine.behindRecovery (frames.length + 1) (deliverFrames onFrame 0 frames captured).1,
            (deliverFrames onFrame 0 frames captured).2), broker)) ∧
      (∀ startIndex maxItems,
        (readDataChunkChecked engine.dataStreamName startIndex maxItems engine).evaluate
            (promptBroker adapter) broker =
          ((.ok (some ((frames.drop startIndex).take maxItems)), engine), broker) ∧
        (StorageEngine.readChunk startIndex maxItems engine).evaluate (promptBroker adapter)
            broker = ((.ok ((frames.drop startIndex).take maxItems), engine), broker)) ∧
      ∀ index, (StorageEngine.readBlock index engine).evaluate (promptBroker adapter) broker =
        ((blockOf frames index, engine), broker) := by
  refine ⟨?_, ?_, ?_, ?_⟩
  · intro σ onFrame frames captured
    exact deliverFrames_recordCalls onFrame 0 frames captured []
  · intro S Engine World _ setting Inv frames fixed inRange engine world holds
    refine ⟨fun chunkSize onFrame captured rounds enough => ?_, fun index => ?_⟩
    · exact fixed.wp_recoverFramesWithin inRange chunkSize enough holds
    · exact fixed.wp_readBlock index holds
  · intro frames fits
    refine ⟨FileEngine.fixedFrames fits, fun chunkSize onFrame captured engine world holds => ?_⟩
    obtain ⟨after, later, evaluates, -⟩ :=
      FileEngine.evaluate_recoverFrames_of_holds onFrame captured fits holds
    exact ⟨after, later, evaluates⟩
  · intro adapter broker frames fits stands inRange engine
    refine ⟨?_, fun chunkSize onFrame captured => ⟨fun rounds enough => ?_, ?_⟩,
      fun startIndex maxItems => ⟨?_, ?_⟩, fun index => ?_⟩
    · exact NatsEngine.evaluate_readAll adapter fits stands engine
    · exact NatsEngine.evaluate_recoverFramesWithin adapter fits stands inRange onFrame captured
        chunkSize enough engine
    · exact NatsEngine.evaluate_recoverFrames_within adapter engine chunkSize onFrame captured fits
        stands (.inl inRange)
    · exact NatsEngine.evaluate_readDataChunkChecked adapter fits stands inRange engine
        engine.dataStreamName startIndex maxItems
    · exact NatsEngine.evaluate_readChunk adapter fits stands inRange engine startIndex maxItems
    · exact NatsEngine.evaluate_readBlock adapter fits stands inRange engine index

section Example

attribute [local instance] standardDigests

def twoFrames : List Bytes := [[1], [2, 3]]

/-- A callback that refuses the second frame. -/
def refuseSecond : FrameRecoveryCallback Unit := fun position _ _ =>
  if position = 1 then (.error (chainBroken "refused"), ()) else (.ok (), ())

/-- A container with the frames. -/
def twoFramesFiles : FileWorld := fun _ => ⟨some (containerBytes twoFrames), 0⟩

/-- A stream with the frames. -/
def twoFramesBroker : Broker := ⟨fun _ => some (Broker.framedMessages twoFrames), []⟩

def twoFramesStreams : NatsStorageAdapter :=
  ⟨"two", "two_meta", "two_data", "pardosa.two.meta", "pardosa.two.data", false⟩

/-- A callback that refuses the second of two frames ends the recovery of every engine. -/
theorem chunked_recovery_is_one_read_two :
    (∃ engine : FileEngine, (StorageEngine.recoverFramesWithin 3 0 refuseSecond).wp
      fileHandler.setting (fun outcome after _ =>
        (outcome, after.2) = (.error (chainBroken "refused"), ())) (engine, ()) twoFramesFiles) ∧
    ∃ engine : NatsEngine, engine.lastDataSeq = 0 ∧
      ((StorageEngine.recoverFrames 0 refuseSecond (engine, ())).evaluate
        (promptBroker twoFramesStreams) twoFramesBroker).1.2.1.lastDataSeq = 0 ∧
      ((StorageEngine.recoverFrames 0 (fun _ _ captured => (.ok (), captured))
        (engine, ())).evaluate (promptBroker twoFramesStreams) twoFramesBroker).1.2.1.lastDataSeq =
          3 := by
  have fits : ∀ frame ∈ twoFrames, frame.length ≤ u32Max := by decide
  obtain ⟨-, byDefault, inFiles, inStreams⟩ := chunked_recovery_is_one_read
  let files : FileStorageAdapter := ⟨"two.meta", "two.pgno", .standard⟩
  refine ⟨⟨files.engine 1 0 none, ?_⟩, twoFramesStreams.engine 1 0 false, rfl, ?_, ?_⟩
  · have recovered := (byDefault fileHandler.setting (FileEngine.Holds twoFrames) twoFrames
      (inFiles twoFrames fits).1 (by decide) (files.engine 1 0 none) twoFramesFiles rfl).1 0
      refuseSecond () 3 (by decide)
    exact Action.wp_mono recovered fun _ _ _ owed => owed.1
  · have recovered := ((inStreams twoFramesStreams twoFramesBroker twoFrames fits rfl (by decide)
      (twoFramesStreams.engine 1 0 false)).2.1 0 refuseSecond ()).2
    rw [recovered]
    rfl
  · have recovered := ((inStreams twoFramesStreams twoFramesBroker twoFrames fits rfl (by decide)
      (twoFramesStreams.engine 1 0 false)).2.1 0 (fun _ _ captured => (.ok (), captured)) ()).2
    rw [recovered]
    rfl

end Example

end Pardosa
