import Pardosa.Store.Write

/-!
# The in-memory engine

The engine the store's own tests run on: its log is a list of blocks it owns,
and it can be told to fail or to answer an undetermined landing from some block
on. It performs no outside operation at all. It satisfies both log contracts,
so what is proved over those contracts speaks of at least one real engine.
-/

namespace Pardosa

open Foundation

/-- No outside operation. -/
def noOperations : Signature := ⟨Empty, Empty.elim⟩

/-- The world of programs without outside operations. -/
def stillWorld : Setting noOperations Unit := .solo fun op => op.elim

/-- A world without operations never gets stuck. -/
theorem stillWorld_live : stillWorld.Live where
  answers op := op.elim
  idle _ := rfl

/-- The value of a program without outside operations. -/
def stillValue {α : Type} : Program noOperations α → α
  | .ret value => value
  | .call op _ => op.elim

/-- Without operations, a program runs to its value. -/
theorem runs_stillValue {α : Type} (program : Program noOperations α) :
    program.Runs stillWorld () (stillValue program) () := by
  cases program with
  | ret value => exact .ret
  | call op rest => exact op.elim

/-- The engine of the store's tests. -/
structure InMemoryEngine where
  epoch : UInt64
  blocks : List Bytes
  retired : Bool
  uncertain : Bool
  uncertainDiagnostic : Option String
  failAfterNBlocks : Option Nat
  undeterminedAfterNBlocks : Option Nat
deriving DecidableEq, Repr

namespace InMemoryEngine

/-- An empty engine that carries an epoch. -/
def new (epoch : UInt64) : InMemoryEngine := ⟨epoch, [], false, false, none, none, none⟩

/-- Verifies authority to append. -/
def checkAuthority (engine : InMemoryEngine) : Except OperationFailure Unit :=
  if engine.uncertain then
    .error ⟨.ownershipRecordUnreadable,
      "writer session in uncertain state; reconciliation required"⟩
  else if engine.retired then
    .error ⟨.retiredMigrationSource,
      "artefact append authority permanently retired via outbound pointer per C5.63"⟩
  else .ok ()

/-- Whether a configured limit of blocks is reached. -/
def reached (engine : InMemoryEngine) (limit : Option Nat) : Bool :=
  limit.any fun bound => engine.blocks.length ≥ bound

/-- Appends a raw frame block. -/
def appendBlock (block : Bytes) (engine : InMemoryEngine) :
    Except OperationFailure (WriteLandingVerdict Nat) × InMemoryEngine :=
  match engine.checkAuthority with
  | .error failure => (.error failure, engine)
  | .ok () =>
      if engine.reached engine.undeterminedAfterNBlocks then
        (.ok (.undetermined engine.epoch), engine)
      else if engine.reached engine.failAfterNBlocks then
        (.error ⟨.precursorChainBroken none, "simulated append failure"⟩, engine)
      else
        (.ok (.landed (engine.blocks.length + 1)),
          { engine with blocks := engine.blocks ++ [block] })

variable [Digests]

/-- The payloads of blocks. -/
def payloadsOf : List Bytes → Except OperationFailure (List Bytes)
  | [] => .ok []
  | block :: blocks => do
      let (payload, _) ← (ContainerFrame.decode block).mapError fun failure =>
        ⟨.precursorChainBroken none, "frame decode error: " ++ failure.display⟩
      let payloads ← payloadsOf blocks
      return payload :: payloads

/-- Reads all raw blocks' payloads. -/
def readAll : Action noOperations OperationFailure InMemoryEngine (List Bytes) := do
  let engine ← get
  Action.ofExcept (payloadsOf engine.blocks)

/-- Reads one chunk of payloads. -/
def readChunk (startIndex maxItems : Nat) :
    Action noOperations OperationFailure InMemoryEngine (List Bytes) :=
  chunkOfAll readAll startIndex maxItems

instance : StorageEngine noOperations InMemoryEngine where
  carriedEpoch := epoch
  checkAuthority engine := .ret engine.checkAuthority
  appendBlock block := Action.mutate (appendBlock block)
  readAll := readAll
  readChunk := readChunk
  recoverFrames chunkSize onFrame := fun state =>
    -- every chunk but the last one holds a block, so this many are enough
    recoverChunks readChunk (max chunkSize 1) onFrame (state.1.blocks.length + 1) 0 0 state
  isRetired engine := .ret (.ok engine.retired)
  sync := pure ()
  uncertainDiagnostic := uncertainDiagnostic

/-- The payloads of framed payloads are the payloads. -/
theorem payloadsOf_frames {payloads : List Bytes}
    (fits : ∀ payload ∈ payloads, payload.length ≤ u32Max) :
    payloadsOf (payloads.map ContainerFrame.frameBytes) = .ok payloads := by
  induction payloads with
  | nil => rfl
  | cons payload payloads ih =>
      have decoded : ContainerFrame.decode (ContainerFrame.frameBytes payload) =
          .ok (payload, payload.length + 8) :=
        ContainerFrame.decode_ok_iff.mpr
          ⟨fits payload (List.mem_cons_self ..), rfl, [], (List.append_nil _).symm⟩
      have others := ih fun other member => fits other (List.mem_cons_of_mem _ member)
      rw [List.map_cons, payloadsOf, decoded, others]
      rfl

/-- Every block holds one payload. -/
theorem length_payloadsOf {blocks payloads : List Bytes} (read : payloadsOf blocks = .ok payloads) :
    payloads.length = blocks.length := by
  induction blocks generalizing payloads with
  | nil =>
      cases read
      rfl
  | cons block blocks ih =>
      obtain ⟨⟨payload, consumed⟩, -, rest⟩ := bind_eq_ok.mp read
      obtain ⟨others, tail, done⟩ := bind_eq_ok.mp rest
      cases done
      rw [List.length_cons, List.length_cons, ih tail]

/-- While the log holds the given payloads, every chunk is read from them. -/
theorem readChunk_payloads {payloads : List Bytes} {blocks : List Bytes} {maxItems : Nat}
    (read : payloadsOf blocks = .ok payloads) :
    ∀ startIndex (engine : InMemoryEngine) (world : Unit), engine.blocks = blocks →
      (readChunk startIndex maxItems).wp stillWorld
        (fun outcome after _ => outcome = .ok (chunkOf payloads startIndex maxItems) ∧
          after.blocks = blocks) engine world := by
  rintro startIndex engine world rfl
  unfold readChunk chunkOfAll
  split_ifs with none
  · refine ⟨?_, rfl⟩
    simp [chunkOf, none]
  · simp only [readAll, Action.wp_bind, Action.wp_get, Action.wp_ofExcept]
    rw [read]
    exact ⟨rfl, rfl⟩

omit [Digests] in
/-- The engine appends a block exactly when it reports it as landed. -/
theorem appendBlock_blocks (block : Bytes) (engine : InMemoryEngine) :
    (appendBlock block engine).2.blocks = match (appendBlock block engine).1 with
      | .ok (.landed _) => engine.blocks ++ [block]
      | _ => engine.blocks := by
  unfold appendBlock
  cases engine.checkAuthority with
  | error failure => rfl
  | ok => split_ifs <;> rfl

omit [Digests] in
/-- A refused block is not appended, and a landed one is appended last. -/
theorem appendBlock_logs (block : Bytes) (engine : InMemoryEngine) (world : Unit) :
    (Action.mutate (appendBlock block)).wp stillWorld
      (fun outcome after _ => match outcome with
        | .error _ => after.blocks = engine.blocks
        | .ok (.landed _) => after.blocks = engine.blocks ++ [block]
        | .ok (.undetermined _) => True) engine world := by
  have blocks := appendBlock_blocks block engine
  rw [Action.wp_mutate]
  cases outcome : (appendBlock block engine).1 with
  | error failure =>
      rw [outcome] at blocks
      exact blocks
  | ok verdict =>
      rw [outcome] at blocks
      cases verdict with
      | landed count => exact blocks
      | undetermined carriedEpoch => trivial

omit [Digests] in
/-- A block in doubt is not appended. -/
theorem appendBlock_undetermined (block : Bytes) (engine : InMemoryEngine) (world : Unit) :
    (Action.mutate (appendBlock block)).wp stillWorld
      (fun outcome after _ => ∀ carriedEpoch, outcome = .ok (.undetermined carriedEpoch) →
        after.blocks = engine.blocks) engine world := by
  have blocks := appendBlock_blocks block engine
  rw [Action.wp_mutate]
  intro carriedEpoch outcome
  rw [outcome] at blocks
  exact blocks

/-- Recovery hands the payloads of the log to its callback. -/
theorem recoverFrames_delivers {σ : Type} (chunkSize : Nat) (onFrame : FrameRecoveryCallback σ)
    (engine : InMemoryEngine) (captured : σ) (world : Unit) (payloads : List Bytes)
    (fits : ∀ payload ∈ payloads, payload.length ≤ u32Max)
    (logged : engine.blocks = payloads.map ContainerFrame.frameBytes) :
    (StorageEngine.recoverFrames chunkSize onFrame).wp stillWorld
      (fun outcome after _ => (outcome, after.2) = deliverFrames onFrame 0 payloads captured ∧
        after.1.blocks = engine.blocks) (engine, captured) world := by
  have count : engine.blocks.length = payloads.length := by rw [logged, List.length_map]
  have read : payloadsOf engine.blocks = .ok payloads := by rw [logged, payloadsOf_frames fits]
  refine Program.wp_mono (wp_recoverChunks (by omega) (readChunk_payloads read)
    (by dsimp only; omega) rfl) ?_
  rintro ⟨outcome, after, passed⟩ _ ⟨delivered, kept⟩
  exact ⟨delivered, kept⟩

/-- The in-memory engine keeps a log of blocks that can be read back. -/
def recoverableLog : RecoverableLog InMemoryEngine stillWorld where
  log engine _ := engine.blocks
  checkAuthority _ _ := rfl
  appendBlock := appendBlock_logs
  undetermined := appendBlock_undetermined
  recoverFrames := recoverFrames_delivers
  live := stillWorld_live

end InMemoryEngine

end Pardosa
