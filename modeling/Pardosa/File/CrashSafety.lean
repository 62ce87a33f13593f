import Pardosa.Foundation.Trace
import Pardosa.File.Opening
import Pardosa.Store.Ownership

/-!
# Appends are atomic across crashes

A run of appends on one engine, cut at any point between two file operations,
leaves the frames that were reported as landed and at most a beginning of one
more. Opening the artefact again recovers the former, with the one more frame
when all of it arrived, and cuts off nothing else.
-/

namespace Pardosa

open Foundation

section CrashSafety

variable [Digests]

/-- A call of `appendBlock` with the frame of a payload, and its outcome. -/
abbrev AppendEvent := Bytes × Except OperationFailure (WriteLandingVerdict Nat)

/-- One append of the frame of a payload. -/
def AppendStep (before : FileEngine × FileWorld) (event : AppendEvent)
    (after : FileEngine × FileWorld) : Prop :=
  ∃ block, ContainerFrame.encodePayload event.1 = .ok block ∧
    (FileEngine.appendBlock block).Runs fileSetting before.1 before.2 event.2 after.1 after.2

omit [Digests] in
/-- The payloads whose append was reported as landed, in order. -/
def landedPayloads : List AppendEvent → List Bytes :=
  List.filterMap fun
    | (payload, .ok (.landed _)) => some payload
    | _ => none

/-- The payload of an append that was reported as undetermined. -/
def Undetermined (events : List AppendEvent) (payload : Bytes) : Prop :=
  ∃ carriedEpoch, (payload, .ok (.undetermined carriedEpoch)) ∈ events

/-- The event data of a session after some appends: the committed frames, and
behind them nothing, or a beginning of an undetermined frame in a session that
is fenced. -/
def AppendInvariant (initial : List Bytes) (events : List AppendEvent)
    (state : FileEngine × FileWorld) : Prop :=
  (∀ payload ∈ landedPayloads events, payload.length ≤ u32Max) ∧
  ∃ tail, (state.2 .pgnoFile).content =
      some (containerBytes (initial ++ landedPayloads events) ++ tail) ∧
    (tail = [] ∨ state.1.uncertain = true ∧ ∃ torn, Undetermined events torn ∧
      torn.length ≤ u32Max ∧ tail <+: ContainerFrame.frameBytes torn)

/-- A payload is framed exactly when it fits. -/
theorem encodePayload_ok_iff {payload block : Bytes} :
    ContainerFrame.encodePayload payload = .ok block ↔
      payload.length ≤ u32Max ∧ block = ContainerFrame.frameBytes payload := by
  unfold ContainerFrame.encodePayload ContainerFrame.tryEncodePayload
  split_ifs with fits
  · simp [fits, eq_comm]
  · simp [fits]

omit [Digests] in
/-- A landed append adds its payload. -/
@[simp] theorem landedPayloads_landed (past : List AppendEvent) (payload : Bytes) (count : Nat) :
    landedPayloads (past ++ [(payload, .ok (.landed count))]) =
      landedPayloads past ++ [payload] := by
  simp [landedPayloads, List.filterMap_append]

omit [Digests] in
/-- A refused append adds nothing. -/
@[simp] theorem landedPayloads_error (past : List AppendEvent) (payload : Bytes)
    (failure : OperationFailure) :
    landedPayloads (past ++ [(payload, .error failure)]) = landedPayloads past := by
  simp [landedPayloads, List.filterMap_append]

omit [Digests] in
/-- Nor does an append whose landing is undetermined. -/
@[simp] theorem landedPayloads_undetermined (past : List AppendEvent) (payload : Bytes)
    (carriedEpoch : UInt64) :
    landedPayloads (past ++ [(payload, .ok (.undetermined carriedEpoch))]) =
      landedPayloads past := by
  simp [landedPayloads, List.filterMap_append]

omit [Digests] in
/-- What was undetermined stays so as more is appended. -/
theorem Undetermined.later {past : List AppendEvent} {torn : Bytes}
    (undetermined : Undetermined past torn) (event : AppendEvent) :
    Undetermined (past ++ [event]) torn := by
  obtain ⟨carriedEpoch, member⟩ := undetermined
  exact ⟨carriedEpoch, List.mem_append_left _ member⟩

/-- Behind the committed frames of a session that is not fenced is nothing. -/
theorem AppendInvariant.certain {initial : List Bytes} {past : List AppendEvent}
    {engine : FileEngine} {world : FileWorld} (holds : AppendInvariant initial past (engine, world))
    (uncertain : engine.uncertain = false) :
    (world .pgnoFile).content = some (containerBytes (initial ++ landedPayloads past)) := by
  obtain ⟨-, tail, stands, rfl | ⟨fenced, -⟩⟩ := holds
  · rw [stands, List.append_nil]
  · rw [uncertain] at fenced
    cases fenced

/-- A refused append keeps the shape of the event data. -/
theorem AppendInvariant.refused {initial : List Bytes} {past : List AppendEvent}
    {engine : FileEngine} {world after : FileWorld} {payload : Bytes} {failure : OperationFailure}
    (holds : AppendInvariant initial past (engine, world))
    (kept : (after .pgnoFile).content = (world .pgnoFile).content) :
    AppendInvariant initial (past ++ [(payload, .error failure)]) (engine, after) := by
  obtain ⟨fits, tail, stands, shape⟩ := holds
  rw [AppendInvariant, landedPayloads_error]
  refine ⟨fits, tail, kept.trans stands, ?_⟩
  rcases shape with none | ⟨fenced, torn, undetermined, rest⟩
  · exact Or.inl none
  · exact Or.inr ⟨fenced, torn, undetermined.later _, rest⟩

/-- Every append keeps the shape of the event data. -/
theorem AppendInvariant.step {initial : List Bytes} {past : List AppendEvent}
    {before after : FileEngine × FileWorld} {event : AppendEvent}
    (holds : AppendInvariant initial past before) (step : AppendStep before event after) :
    AppendInvariant initial (past ++ [event]) after := by
  obtain ⟨engine, world⟩ := before
  obtain ⟨payload, outcome⟩ := event
  obtain ⟨block, encoded, runs⟩ := step
  obtain ⟨fits, rfl⟩ := encodePayload_ok_iff.mp encoded
  obtain ⟨landedFits, tail, stands, -⟩ := id holds
  have owed : (FileEngine.appendBlock (ContainerFrame.frameBytes payload)).wp
    (keeping fun _ => True)
      (fun outcome engine later => AppendInvariant initial (past ++ [(payload, outcome)])
        (engine, later)) engine world := by
    refine FileEngine.wp_appendBlock stands ?_ ?_
    · intro failure later kept
      exact holds.refused (kept.trans stands.symm)
    · intro uncertain
      have clean : tail = [] := by
        have whole := holds.certain uncertain
        rw [stands] at whole
        simpa using whole
      subst clean
      rw [List.append_nil] at stands ⊢
      refine ⟨.of_safe fun _ _ => trivial, ?_, ?_, ?_⟩
      · intro failure later kept
        exact holds.refused (kept.trans stands.symm)
      · intro later grown
        rw [AppendInvariant, landedPayloads_landed]
        refine ⟨?_, [], ?_, Or.inl rfl⟩
        · intro other member
          rcases List.mem_append.mp member with earlier | last
          · exact landedFits other earlier
          · rw [List.mem_singleton.mp last]
            exact fits
        · rw [← List.append_assoc, containerBytes_append, framesBytes_singleton, List.append_nil]
          exact grown
      · intro part diagnostic later begins arrived
        rw [AppendInvariant, landedPayloads_undetermined]
        refine ⟨landedFits, part, arrived, Or.inr ⟨rfl, payload, ?_, fits, begins⟩⟩
        exact ⟨engine.carriedEpoch, by simp⟩
  exact Action.wp_of_runs (Program.runs_promising _ runs) owed

/-- The event data while an append is under way: the committed frames and a
beginning of the frame in flight, or what a fenced session left. -/
theorem AppendInvariant.frontier {initial : List Bytes} {past : List AppendEvent}
    {engine : FileEngine} {world crashed : FileWorld} {payload block : Bytes}
    {rest : Program fileOperations (Except OperationFailure (WriteLandingVerdict Nat) × FileEngine)}
    (holds : AppendInvariant initial past (engine, world))
    (encoded : ContainerFrame.encodePayload payload = .ok block)
    (reaches : (FileEngine.appendBlock block engine).Reaches fileSetting world rest crashed) :
    ∃ torn tail, torn.length ≤ u32Max ∧ tail <+: ContainerFrame.frameBytes torn ∧
      (torn = payload ∨ Undetermined past torn) ∧
      (crashed .pgnoFile).content =
        some (containerBytes (initial ++ landedPayloads past) ++ tail) := by
  obtain ⟨fits, rfl⟩ := encodePayload_ok_iff.mp encoded
  obtain ⟨landedFits, tail, stands, shape⟩ := id holds
  rcases shape with rfl | ⟨fenced, torn, undetermined, tornFits, begins⟩
  · rw [List.append_nil] at stands
    let safe : Option Bytes → Prop := fun content => ∃ part,
      part <+: ContainerFrame.frameBytes payload ∧
        content = some (containerBytes (initial ++ landedPayloads past) ++ part)
    have owed : (FileEngine.appendBlock (ContainerFrame.frameBytes payload)).wp (keeping safe)
        (fun _ _ _ => True) engine world := by
      refine FileEngine.wp_appendBlock stands (fun _ _ _ => trivial) ?_
      intro _
      exact ⟨.of_safe fun part begins => ⟨part, begins, rfl⟩, fun _ _ _ => trivial,
        fun _ _ => trivial, fun _ _ _ _ _ => trivial⟩
    have start : safe (world .pgnoFile).content :=
      ⟨[], List.nil_prefix, by rw [stands, List.append_nil]⟩
    obtain ⟨part, begins, arrived⟩ := keeping_of_reaches reaches owed start
    exact ⟨payload, part, fits, begins, Or.inl rfl, arrived⟩
  · let safe : Option Bytes → Prop := fun content =>
      content = some (containerBytes (initial ++ landedPayloads past) ++ tail)
    have owed : (FileEngine.appendBlock (ContainerFrame.frameBytes payload)).wp (keeping safe)
        (fun _ _ _ => True) engine world := by
      refine FileEngine.wp_appendBlock stands (fun _ _ _ => trivial) ?_
      intro certain
      rw [certain] at fenced
      cases fenced
    exact ⟨torn, tail, tornFits, begins, Or.inr undetermined,
      keeping_of_reaches reaches owed stands⟩

/-- What a scan finds behind committed frames and a beginning of one more. -/
theorem scanContainer_committed {committed : List Bytes} {torn tail : Bytes}
    (fits : ∀ payload ∈ committed, payload.length ≤ u32Max) (tornFits : torn.length ≤ u32Max)
    (begins : tail <+: ContainerFrame.frameBytes torn) :
    ∃ scan recovered, scanContainer (containerBytes committed ++ tail) = .ok scan ∧
      scan.frames = recovered ∧
      (containerBytes committed ++ tail).take scan.validLen = containerBytes recovered ∧
      (∀ payload ∈ recovered, payload.length ≤ u32Max) ∧
      (recovered = committed ∨
        recovered = committed ++ [torn] ∧ tail = ContainerFrame.frameBytes torn) := by
  obtain ⟨rest, split⟩ := begins
  by_cases none : tail = []
  · subst none
    rw [List.append_nil]
    exact ⟨_, committed, scanContainer_clean fits, rfl, List.take_length, fits, Or.inl rfl⟩
  by_cases whole : rest = []
  · subst whole
    rw [List.append_nil] at split
    have bigger : ∀ payload ∈ committed ++ [torn], payload.length ≤ u32Max := by
      intro payload member
      rcases List.mem_append.mp member with earlier | last
      · exact fits payload earlier
      · rw [List.mem_singleton.mp last]
        exact tornFits
    have layout : containerBytes committed ++ tail = containerBytes (committed ++ [torn]) := by
      rw [containerBytes_append, framesBytes_singleton, split]
    rw [layout]
    exact ⟨_, committed ++ [torn], scanContainer_clean bigger, rfl, List.take_length, bigger,
      Or.inr ⟨rfl, split⟩⟩
  · have overruns := overruns_of_partial_frame tornFits split.symm whole
    exact ⟨_, committed, scanContainer_torn fits none overruns, rfl, List.take_left, fits,
      Or.inl rfl⟩

/-- Appends are atomic across crashes. Wherever a run of appends is cut, the
event data is the initial and the landed frames and a beginning of the frame
that is in flight or was undetermined. Opening the artefact then leaves and
recovers the landed frames, or those and that one frame when all of it is there;
and it does succeed when nothing fails, the ownership record admits the writer
and the index accepts the frames. -/
theorem append_atomic_across_crashes {initial : List Bytes} {engine reached : FileEngine}
    {start world crashed : FileWorld} {events : List AppendEvent} {payload block : Bytes}
    {rest : Program fileOperations (Except OperationFailure (WriteLandingVerdict Nat) × FileEngine)}
    (fits : ∀ payload ∈ initial, payload.length ≤ u32Max)
    (initially : (start .pgnoFile).content = some (containerBytes initial))
    (run : Trace AppendStep (engine, start) events (reached, world))
    (encoded : ContainerFrame.encodePayload payload = .ok block)
    (reaches : (FileEngine.appendBlock block reached).Reaches fileSetting world rest crashed) :
    ∃ torn tail recovered,
      (torn = payload ∨ Undetermined events torn) ∧ tail <+: ContainerFrame.frameBytes torn ∧
      (crashed .pgnoFile).content =
        some (containerBytes (initial ++ landedPayloads events) ++ tail) ∧
      (recovered = initial ++ landedPayloads events ∨
        recovered = initial ++ landedPayloads events ++ [torn] ∧
          tail = ContainerFrame.frameBytes torn) ∧
      ∀ (adapter : FileStorageAdapter) (carriedEpoch : UInt64),
        (∀ rest reopened, (adapter.openWrite carriedEpoch ()).Reaches fileSetting crashed rest
            reopened →
          (reopened .pgnoFile).content = (crashed .pgnoFile).content ∨
            (reopened .pgnoFile).content = some (containerBytes recovered)) ∧
        (∀ store reopened, (adapter.openWrite carriedEpoch).Runs fileSetting () crashed (.ok store)
            () reopened →
          (reopened .pgnoFile).content = some (containerBytes recovered) ∧
            SessionIndex.buildFromFrames recovered = .ok store.fiberIndex ∧
            store.rollingCommitment = RollingCommitment.new.absorb recovered ∧
            store.engine.frameCount = recovered.length) ∧
        (∀ index, adapter.exclusionPolicy = .standard → AdmitsWriter crashed carriedEpoch →
          SessionIndex.buildFromFrames recovered = .ok index →
          ∃ store reopened, (adapter.openWrite carriedEpoch).Runs fileSetting () crashed (.ok store)
            () reopened) := by
  have startShape : AppendInvariant initial [] (engine, start) := by
    refine ⟨by simp [landedPayloads], [], ?_, Or.inl rfl⟩
    rw [initially]
    simp [landedPayloads]
  have shape : AppendInvariant initial events (reached, world) :=
    run.invariant startShape fun holds step => holds.step step
  obtain ⟨torn, tail, tornFits, begins, origin, stands⟩ := shape.frontier encoded reaches
  have committedFits : ∀ payload ∈ initial ++ landedPayloads events, payload.length ≤ u32Max := by
    intro payload member
    rcases List.mem_append.mp member with earlier | landed
    · exact fits payload earlier
    · exact shape.1 payload landed
  obtain ⟨scan, recovered, scanned, frames, valid, recoveredFits, which⟩ :=
    scanContainer_committed committedFits tornFits begins
  refine ⟨torn, tail, recovered, origin, begins, stands, which, ?_⟩
  intro adapter carriedEpoch
  refine ⟨?_, ?_, ?_⟩
  · intro rest reopened reopening
    rw [stands]
    let safe : Option Bytes → Prop := fun content =>
      content = some (containerBytes (initial ++ landedPayloads events) ++ tail) ∨
        content = some (containerBytes recovered)
    have owed : (adapter.openWrite carriedEpoch).wp (keeping safe) (fun _ _ _ => True) ()
        crashed :=
      FileStorageAdapter.wp_openWrite recoveredFits stands scanned frames valid
        (fun _ => Or.inr rfl) (fun _ _ _ => trivial) (fun _ _ _ _ _ _ => trivial)
    exact keeping_of_reaches reopening owed (Or.inl stands)
  · intro store reopened runs
    have owed : (adapter.openWrite carriedEpoch).wp (keeping fun _ => True)
        (fun outcome _ reopened => ∀ store, outcome = .ok store →
          (reopened .pgnoFile).content = some (containerBytes recovered) ∧
            SessionIndex.buildFromFrames recovered = .ok store.fiberIndex ∧
            store.rollingCommitment = RollingCommitment.new.absorb recovered ∧
            store.engine.frameCount = recovered.length) () crashed := by
      refine FileStorageAdapter.wp_openWrite recoveredFits stands scanned frames valid id ?_ ?_
      · rintro failure after _ _ ⟨⟩
      · rintro opened index after counted built left _ ⟨⟩
        exact ⟨left, built, rfl, counted⟩
    exact Action.wp_of_runs (Program.runs_promising _ runs) owed store rfl
  · intro index standard admits built
    obtain ⟨store, reopened, evaluated⟩ := FileStorageAdapter.evaluate_openWrite () standard admits
      recoveredFits stands scanned valid built
    have runs := runs_fileHandler (adapter.openWrite carriedEpoch ()) crashed
    rw [evaluated] at runs
    exact ⟨store, reopened, runs⟩

end CrashSafety

section Genesis

attribute [local instance] standardDigests

/-- The frames of a minimal ownership record: a claim for epoch one and a
descriptor. -/
def seedFrames : List Bytes :=
  [(OwnershipRecord.ownershipClaim (bareClaim 1)).encode,
    (OwnershipRecord.schemaDescriptor 1 [0x01]).encode]

/-- A freshly created artefact. -/
def seededFiles : FileWorld
  | .metaFile => ⟨some (containerBytes seedFrames), 0⟩
  | .pgnoFile => ⟨some (containerBytes []), 0⟩

/-- The adapter of that artefact. -/
def seededAdapter : FileStorageAdapter := ⟨"artefact.meta", "artefact.pgno", .standard⟩

/-- The first event of a fiber as a payload. -/
def genesisPayload : Bytes := (genesisEvent.encode []).2

/-- The first event is admitted by a new index. -/
theorem genesisPayload_admitted : AdmittedFrame .new genesisPayload genesisEvent where
  decoded := by decide +kernel
  long := by decide +kernel
  fits := by decide +kernel
  admits := SessionIndex.validateAppend_ok_iff.mp rfl

/-- The seeded record admits a writer of epoch one. -/
theorem seededFiles_admitsWriter : AdmitsWriter seededFiles 1 := by
  have admissible : ∃ admitted, AdmittedDescriptor.tryFromDescriptor ⟨1, .u8⟩ = .ok admitted :=
    ⟨_, rfl⟩
  obtain ⟨admitted, admittedAs⟩ := admissible
  refine ⟨seedFrames, ⟨some (bareClaim 1), some ⟨1, .u8⟩, none, none, none, none, none⟩,
    bareClaim 1, ⟨1, .u8⟩, admitted, ?_, rfl, ?_, rfl, rfl, admittedAs, rfl, rfl⟩
  · decide +kernel
  · decide +kernel

/-- A landed event survives a crash right after it, and opening recovers it. -/
theorem append_atomic_across_crashes_genesis :
    ∃ crashed store reopened, (seededAdapter.openWrite 1).Runs fileSetting () crashed (.ok store) ()
        reopened ∧
      (crashed .pgnoFile).content = some (containerBytes [genesisPayload]) ∧
      (reopened .pgnoFile).content = some (containerBytes [genesisPayload]) ∧
      store.engine.frameCount = 1 := by
  have ready : (seededAdapter.engine 1 0 none).Ready := ⟨rfl, rfl, rfl, rfl, rfl, rfl⟩
  have encoded : ContainerFrame.encodePayload genesisPayload =
      .ok (ContainerFrame.frameBytes genesisPayload) :=
    encodePayload_ok_iff.mpr ⟨by decide +kernel, rfl⟩
  obtain ⟨crashed, landed, arrived, admits⟩ := FileEngine.evaluate_appendBlock
    (ContainerFrame.frameBytes genesisPayload) ready seededFiles_admitsWriter rfl
  have appended : (FileEngine.appendBlock (ContainerFrame.frameBytes genesisPayload)).Runs
      fileSetting (seededAdapter.engine 1 0 none) seededFiles (.ok (.landed 1))
      (seededAdapter.engine 1 1 none) crashed := by
    have runs := runs_fileHandler (FileEngine.appendBlock
      (ContainerFrame.frameBytes genesisPayload) (seededAdapter.engine 1 0 none)) seededFiles
    rw [landed] at runs
    exact runs
  have run : Trace AppendStep (seededAdapter.engine 1 0 none, seededFiles)
      [(genesisPayload, .ok (.landed 1))] (seededAdapter.engine 1 1 none, crashed) :=
    .cons ⟨_, encoded, appended⟩ .nil
  obtain ⟨torn, tail, recovered, -, -, stands, which, reopens⟩ := append_atomic_across_crashes
    (List.forall_mem_nil _) rfl run encoded .refl
  have committed : containerBytes [] ++ ContainerFrame.frameBytes genesisPayload =
      containerBytes [genesisPayload] := by
    rw [← List.nil_append [genesisPayload], containerBytes_append, framesBytes_singleton]
  rw [committed] at arrived
  have whole : tail = [] := by
    have same := stands.symm.trans arrived
    simpa [landedPayloads] using same
  have frames : recovered = [genesisPayload] := by
    rcases which with same | ⟨-, partly⟩
    · exact same
    · rw [whole] at partly
      have positive := congrArg List.length partly
      rw [ContainerFrame.length_frameBytes, List.length_nil] at positive
      omega
  have accepted : ∃ index, SessionIndex.buildFromFrames [genesisPayload] = .ok index := ⟨_, rfl⟩
  obtain ⟨index, built⟩ := accepted
  obtain ⟨-, opened, succeeds⟩ := reopens seededAdapter 1
  rw [frames] at opened succeeds
  obtain ⟨store, reopened, runs⟩ := succeeds index rfl admits built
  obtain ⟨left, -, -, counted⟩ := opened store reopened runs
  exact ⟨crashed, store, reopened, runs, arrived, left, counted⟩

end Genesis

end Pardosa
