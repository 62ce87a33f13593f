import Pardosa.Store.Pipeline

/-!
# What a write can do

The five write operations of the store share one core. This file states that
core once, as a proof rule: `WriteCall.wp_perform` reduces a write to the
engine's authority check and the engine's append of a block that decodes to an
envelope the session index admits.
-/

namespace Pardosa

open Foundation

/-- Refusals that say another owner has taken over. -/
def FailureCondition.isDivergence : FailureCondition → Bool
  | .staleEpoch | .retiredMigrationSource | .concurrencyConflict => true
  | _ => false

/-- A write operation with its arguments. -/
inductive WriteCall where
  | appendFrame (payload : Bytes)
  | appendEnvelope (envelope : EventEnvelope)
  | appendToFiber (fiberId eventId : Id) (payload : Bytes)
  | detachFiber (fiberId eventId : Id) (payload : Bytes)
  | rescueFiber (fiberId eventId : Id) (payload : Bytes)
deriving DecidableEq, Repr

/-- What a landed write returns: the frame count, or the minted envelope. -/
inductive WriteReceipt where
  | frameCount (count : Nat)
  | envelope (envelope : EventEnvelope)
deriving DecidableEq, Repr

/-- Keep the verdict, rename the landed value. -/
def WriteLandingVerdict.map {α β : Type} (rename : α → β) :
    WriteLandingVerdict α → WriteLandingVerdict β
  | .landed value => .landed (rename value)
  | .undetermined carriedEpoch => .undetermined carriedEpoch

namespace WriteCall

/-- What a landed write returns for the envelope it wrote. -/
def receipt (call : WriteCall) (envelope : EventEnvelope) (frameCount : Nat) : WriteReceipt :=
  match call with
  | .appendFrame _ | .appendEnvelope _ => .frameCount frameCount
  | .appendToFiber .. | .detachFiber .. | .rescueFiber .. => .envelope envelope

/-- How often the store checks the session's authority before it turns to the
engine. -/
def sessionChecks : WriteCall → Nat
  | .appendFrame _ | .appendEnvelope _ => 1
  | .appendToFiber .. | .detachFiber .. | .rescueFiber .. => 2

/-- The written envelope and payload are those the caller passed, for the calls
that pass one. -/
def Passes (call : WriteCall) (envelope : EventEnvelope) (payload : Bytes) : Prop :=
  match call with
  | .appendFrame passed => passed = payload
  | .appendEnvelope passed => passed = envelope
  | .appendToFiber .. | .detachFiber .. | .rescueFiber .. => True

end WriteCall

variable [Digests]

/-- A payload that is one envelope which the index admits. -/
structure AdmittedFrame (index : SessionIndex) (payload : Bytes) (envelope : EventEnvelope) :
    Prop where
  decoded : SessionIndex.decodeAndValidateFrame payload = .ok envelope
  long : 85 ≤ payload.length
  fits : payload.length ≤ u32Max
  admits : index.Admits envelope

omit [Digests] in
/-- A payload is exactly one envelope when decoding it consumes everything. -/
theorem SessionIndex.decodeAndValidateFrame_ok_iff {payload : Bytes} {envelope : EventEnvelope} :
    decodeAndValidateFrame payload = .ok envelope ↔
      EventEnvelope.decode payload = .ok (envelope, payload.length) := by
  unfold decodeAndValidateFrame
  split
  · rename_i failure refused
    simp [refused]
  · rename_i found consumed decoded
    rw [decoded]
    split_ifs with rest
    · simp [rest]
    · push Not at rest
      simp [rest]

omit [Digests] in
/-- An encoded envelope is exactly one envelope. -/
theorem SessionIndex.decodeAndValidateFrame_encode (wire : WireEnvelope) :
    decodeAndValidateFrame wire.encode = .ok wire.envelope := by
  have decoded := EventEnvelope.decode_encode wire []
  rw [List.append_nil] at decoded
  rw [decodeAndValidateFrame_ok_iff, decoded, WireEnvelope.length_encode]

omit [Digests] in
/-- A frame that is an envelope is long enough for one. -/
theorem SessionIndex.length_of_decodeAndValidateFrame {payload : Bytes} {envelope : EventEnvelope}
    (decoded : decodeAndValidateFrame payload = .ok envelope) : 85 ≤ payload.length := by
  obtain ⟨covered, -⟩ := EventEnvelope.decode_ok (decodeAndValidateFrame_ok_iff.mp decoded)
  omega

/-- Recovery of a frame whose envelope is admitted commits it. -/
theorem SessionIndex.Admits.processFrame {index : SessionIndex} {payload : Bytes}
    {envelope : EventEnvelope} (admits : index.Admits envelope)
    (decoded : decodeAndValidateFrame payload = .ok envelope) :
    index.processFrame payload = (.ok (), index.commitEnvelopeUnchecked envelope) := by
  have validated := validateAppend_ok_iff.mpr admits
  unfold SessionIndex.processFrame
  rw [if_neg (Nat.not_lt.mpr (length_of_decodeAndValidateFrame decoded)), decoded]
  simp only [validated]
  split
  · rename_i slot
    exact (admits.not_broken slot).elim
  · rfl

/-- Recovery of an admitted frame commits its envelope. -/
theorem AdmittedFrame.processFrame {index : SessionIndex} {payload : Bytes}
    {envelope : EventEnvelope} (admitted : AdmittedFrame index payload envelope) :
    index.processFrame payload = (.ok (), index.commitEnvelopeUnchecked envelope) :=
  admitted.admits.processFrame admitted.decoded

/-- Index refusals never speak of another owner. -/
theorem SessionIndex.validateAppend_error {index : SessionIndex} {envelope : EventEnvelope}
    {failure : OperationFailure} (refused : index.validateAppend envelope = .error failure) :
    failure.condition.isDivergence = false := by
  cases slot : index.fibers.lookup envelope.header.fiberId with
  | none =>
      simp only [validateAppend, slot] at refused
      split_ifs at refused <;> cases refused <;> rfl
  | some found =>
      cases found with
      | broken reason eventCount =>
          simp only [validateAppend, slot] at refused
          split_ifs at refused <;> cases refused <;> rfl
      | active tip =>
          simp only [validateAppend, slot] at refused
          split_ifs at refused <;> cases refused <;> rfl

/-- A handle is refused for no divergence. -/
theorem SessionIndex.fiber_error {index : SessionIndex} {fiberId : Id}
    {failure : OperationFailure} (refused : index.fiber fiberId = .error failure) :
    failure.condition.isDivergence = false := by
  unfold fiber at refused
  split at refused
  · cases refused
    rfl
  · split at refused
    · unfold FiberHandle.withState at refused
      simp only at refused
      split at refused <;> split_ifs at refused <;> cases refused <;> rfl
    · cases refused
      rfl
    · cases refused

omit [Digests] in
/-- A handle refuses to count on for no divergence. -/
theorem FiberHandle.nextCount_error {handle : FiberHandle} {eventId : Id}
    {failure : OperationFailure} (refused : handle.nextCount eventId = .error failure) :
    failure.condition.isDivergence = false := by
  unfold nextCount at refused
  split_ifs at refused <;> cases refused <;> rfl

omit [Digests] in
/-- A first envelope is refused for no divergence. -/
theorem FiberHandle.mintGenesis_error {handle : FiberHandle} {eventId : Id} {payload : Bytes}
    {detail : String} {failure : OperationFailure}
    (refused : handle.mintGenesis eventId payload detail = .error failure) :
    failure.condition.isDivergence = false := by
  unfold mintGenesis at refused
  cases minted : EventEnvelope.genesis eventId handle.fiberId payload with
  | error inner =>
      rw [minted] at refused
      cases refused
      rfl
  | ok envelope =>
      rw [minted] at refused
      cases refused

/-- A handle appends, or refuses for no divergence. -/
theorem FiberHandle.append_error (handle : FiberHandle) {eventId : Id} {payload : Bytes}
    {failure : OperationFailure} (refused : (handle.append eventId payload).1 = .error failure) :
    failure.condition.isDivergence = false := by
  unfold append at refused
  split at refused
  · rename_i checked
    cases refused
    exact nextCount_error checked
  · split at refused
    · split at refused
      · rename_i minted
        cases refused
        exact mintGenesis_error minted
      · cases refused
    · split at refused
      · rename_i minted
        cases refused
        exact mintGenesis_error minted
      · cases refused
    · cases refused
    · cases refused
      rfl
    · cases refused
      rfl

/-- A handle detaches, or refuses for no divergence. -/
theorem FiberHandle.detach_error (handle : FiberHandle) {eventId : Id} {payload : Bytes}
    {failure : OperationFailure} (refused : (handle.detach eventId payload).1 = .error failure) :
    failure.condition.isDivergence = false := by
  unfold detach at refused
  split at refused
  · rename_i checked
    cases refused
    exact nextCount_error checked
  · split at refused <;> cases refused <;> rfl

/-- A handle rescues, or refuses for no divergence. -/
theorem FiberHandle.rescue_error (handle : FiberHandle) {eventId : Id} {payload : Bytes}
    {failure : OperationFailure} (refused : (handle.rescue eventId payload).1 = .error failure) :
    failure.condition.isDivergence = false := by
  unfold rescue at refused
  split at refused
  · rename_i checked
    cases refused
    exact nextCount_error checked
  · split at refused
    · cases refused
    · split at refused
      · rename_i minted
        cases refused
        exact mintGenesis_error minted
      · cases refused
    · cases refused
      rfl
    · cases refused
      rfl
    · cases refused
      rfl

namespace Store

variable {S : Signature} {Engine World : Type} [StorageEngine S Engine]
  {setting : Setting S World} {store : Store Engine} {world : World}

omit [Digests] in
/-- A session has authority when it is certain and its engine has it. -/
theorem wp_checkSessionAuthority
    {post : Except OperationFailure Unit → Store Engine → World → Prop} :
    checkSessionAuthority.wp setting post store world ↔
      if store.isUncertain then post (.error store.uncertainFailure) store world
      else (StorageEngine.checkAuthority store.engine).wp setting
        (fun outcome after => post outcome store after) world := by
  simp only [checkSessionAuthority, Action.wp_bind, Action.wp_get, Action.wp_refuseIf,
    Action.wp_lift, Action.wp_ofExcept]

omit [Digests] [StorageEngine S Engine] in
/-- What is done on the engine is owed for the engine alone. -/
@[simp] theorem wp_onEngine {α : Type} (action : Action S OperationFailure Engine α)
    {post : Except OperationFailure α → Store Engine → World → Prop} :
    (onEngine action).wp setting post store world ↔
      action.wp setting (fun outcome engine after => post outcome { store with engine } after)
        store.engine world :=
  Action.wp_on _ _ _

/-- Admission leaves the store alone; what it admits is a frame of the index. -/
theorem wp_admitFrame {payload : Bytes}
    {post : Except OperationFailure (EventEnvelope × Bytes) → Store Engine → World → Prop}
    (refused : ∀ failure, failure.condition.isDivergence = false →
      post (.error failure) store world)
    (authority : (StorageEngine.checkAuthority store.engine).wp setting
      (fun outcome after => match outcome with
        | .error failure => post (.error failure) store after
        | .ok () =>
            (∀ failure, failure.condition.isDivergence = false →
              post (.error failure) store after) ∧
            (∀ envelope, AdmittedFrame store.fiberIndex payload envelope →
              post (.ok (envelope, ContainerFrame.frameBytes payload)) store after)) world) :
    (admitFrame payload).wp setting post store world := by
  simp only [admitFrame, Action.wp_bind, Action.wp_refuseIf, wp_checkSessionAuthority]
  by_cases long : payload.length > u32Max
  · rw [if_pos long]
    exact refused _ rfl
  rw [if_neg long]
  by_cases uncertain : store.isUncertain = true
  · rw [if_pos uncertain]
    exact refused _ rfl
  rw [if_neg uncertain]
  refine Program.wp_mono authority ?_
  rintro (failure | _) after
  · exact id
  rintro ⟨otherwise, admitted⟩
  dsimp only
  by_cases short : payload.length < 85
  · rw [if_pos short]
    exact otherwise _ rfl
  rw [if_neg short]
  cases decoded : EventEnvelope.decode payload with
  | error failure =>
      simp only [Except.mapError, Action.wp_ofExcept]
      exact otherwise _ rfl
  | ok found =>
      obtain ⟨envelope, consumed⟩ := found
      simp only [Except.mapError, Action.wp_ofExcept, Action.wp_get]
      by_cases rest : consumed ≠ payload.length
      · rw [if_pos rest]
        exact otherwise _ rfl
      rw [if_neg rest]
      push Not at rest
      cases validated : store.fiberIndex.validateAppend envelope with
      | error failure => exact otherwise _ (SessionIndex.validateAppend_error validated)
      | ok =>
          have encoded : ContainerFrame.encodePayload payload =
              .ok (ContainerFrame.frameBytes payload) := if_pos (by omega)
          simp only [encoded, Action.wp_pure]
          refine admitted envelope ⟨?_, by omega, by omega, ?_⟩
          · rw [SessionIndex.decodeAndValidateFrame_ok_iff, decoded, rest]
          · exact SessionIndex.validateAppend_ok_iff.mp validated

/-- What the outcome of the engine's append makes of the store. -/
def landingPost (store : Store Engine) (envelope : EventEnvelope) (block : Bytes)
    (post : Except OperationFailure (WriteLandingVerdict Nat) → Store Engine → World → Prop) :
    Except OperationFailure (WriteLandingVerdict Nat) → Engine → World → Prop :=
  fun outcome engine after => match outcome with
    | .error failure => post (.error failure) { store with engine } after
    | .ok (.landed _) =>
        post (.ok (.landed (({ store with engine }).committed envelope
          block).rollingCommitment.frameCount))
          (({ store with engine } : Store Engine).committed envelope block) after
    | .ok (.undetermined carriedEpoch) =>
        post (.ok (.undetermined carriedEpoch))
          (({ store with engine } : Store Engine).fenced carriedEpoch) after

omit [Digests] in
/-- A frame lands as the engine's append does. -/
theorem wp_landFrame (envelope : EventEnvelope) (block : Bytes)
    {post : Except OperationFailure (WriteLandingVerdict Nat) → Store Engine → World → Prop} :
    (landFrame envelope block).wp setting post store world ↔
      (StorageEngine.appendBlock block).wp setting (store.landingPost envelope block post)
        store.engine world := by
  simp only [landFrame, Action.wp_bind, wp_onEngine]
  constructor
  · intro holds
    refine Action.wp_mono holds ?_
    rintro (failure | verdict) engine after owed
    · exact owed
    · cases verdict <;> exact owed
  · intro holds
    refine Action.wp_mono holds ?_
    rintro (failure | verdict) engine after owed
    · exact owed
    · cases verdict <;> exact owed

/-- An append is an admission followed by a landing; the authority check leads
from `I` to `J`. -/
theorem wp_appendFrameVerdict {payload : Bytes} {I J : World → Prop}
    {post : Except OperationFailure (WriteLandingVerdict Nat) → Store Engine → World → Prop}
    (start : I world)
    (authority : ∀ before, I before → (StorageEngine.checkAuthority store.engine).wp setting
      (fun outcome after => match outcome with
        | .error failure => post (.error failure) store after
        | .ok () => J after) before)
    (refused : ∀ before failure, I before ∨ J before → failure.condition.isDivergence = false →
      post (.error failure) store before)
    (landing : ∀ before envelope, J before → AdmittedFrame store.fiberIndex payload envelope →
      (StorageEngine.appendBlock (ContainerFrame.frameBytes payload)).wp setting
        (store.landingPost envelope (ContainerFrame.frameBytes payload) post)
        store.engine before) :
    (appendFrameVerdict payload).wp setting post store world := by
  unfold appendFrameVerdict
  rw [Action.wp_bind]
  refine wp_admitFrame (fun failure other => refused world failure (.inl start) other) ?_
  refine Program.wp_mono (authority world start) ?_
  rintro (failure | _) after owed
  · exact owed
  · refine ⟨fun failure other => refused after failure (.inr owed) other, ?_⟩
    intro envelope admitted
    exact (wp_landFrame envelope _).mpr (landing after envelope owed admitted)

/-- Admission asks for what the authority check asks for. -/
theorem admitFrame_only {allowed : S.Op → Prop} {payload : Bytes}
    (authority : ∀ engine : Engine, (StorageEngine.checkAuthority engine).Only allowed) :
    (admitFrame payload :
      Action S OperationFailure (Store Engine) (EventEnvelope × Bytes)).Only allowed := by
  have checked : (checkSessionAuthority :
      Action S OperationFailure (Store Engine) Unit).Only allowed := by
    refine Action.only_bind Action.only_get fun store => ?_
    refine Action.only_bind (Action.only_refuseIf _ _) fun _ => ?_
    exact Action.only_bind (Action.only_lift (authority _)) fun _ => Action.only_ofExcept _
  refine Action.only_bind (Action.only_refuseIf _ _) fun _ => ?_
  refine Action.only_bind checked fun _ => ?_
  refine Action.only_bind (Action.only_refuseIf _ _) fun _ => ?_
  refine Action.only_bind (Action.only_ofExcept _) fun _ => ?_
  refine Action.only_bind (Action.only_refuseIf _ _) fun _ => ?_
  refine Action.only_bind Action.only_get fun _ => ?_
  refine Action.only_bind (Action.only_ofExcept _) fun _ => ?_
  exact Action.only_bind (Action.only_ofExcept _) fun _ => Action.only_pure _

omit [Digests] in
/-- A landing asks for what the engine's append asks for. -/
theorem landFrame_only {allowed : S.Op → Prop} {envelope : EventEnvelope} {block : Bytes}
    (landing : (StorageEngine.appendBlock block :
      Action S OperationFailure Engine (WriteLandingVerdict Nat)).Only allowed) :
    (landFrame envelope block :
      Action S OperationFailure (Store Engine) (WriteLandingVerdict Nat)).Only allowed := by
  refine Action.only_bind (Action.only_on landing) ?_
  rintro (position | carriedEpoch)
  · refine Action.only_bind (Action.only_modify _) fun _ => ?_
    exact Action.only_bind Action.only_get fun _ => Action.only_pure _
  · exact Action.only_bind (Action.only_modify _) fun _ => Action.only_pure _

/-- An append asks for what the authority check and the engine's append ask for. -/
theorem appendFrameVerdict_only {allowed : S.Op → Prop} {payload : Bytes}
    (authority : ∀ engine : Engine, (StorageEngine.checkAuthority engine).Only allowed)
    (landing : ∀ block, (StorageEngine.appendBlock block :
      Action S OperationFailure Engine (WriteLandingVerdict Nat)).Only allowed) :
    (appendFrameVerdict payload :
      Action S OperationFailure (Store Engine) (WriteLandingVerdict Nat)).Only allowed :=
  Action.only_bind (admitFrame_only authority) fun (_, block) => landFrame_only (landing block)

/-- A refusal that says nothing of another owner, unless a read has left one
behind as the reason why the session is broken. -/
def Refusal (store : Store Engine) (failure : OperationFailure) : Prop :=
  failure.condition.isDivergence = false ∨ store.brokenReaderCause = some failure.condition

/-- A store that refuses a handle refuses it in one of its own ways. -/
theorem fiber_error {fiberId : Id} {failure : OperationFailure}
    (failed : store.fiber fiberId = .error failure) : store.Refusal failure := by
  unfold fiber checkPointLookup at failed
  by_cases uncertain : store.isUncertain = true
  · rw [if_pos uncertain] at failed
    cases failed
    exact Or.inl rfl
  rw [if_neg uncertain] at failed
  cases broken : store.brokenReaderCause with
  | some cause =>
      rw [broken] at failed
      cases failed
      exact Or.inr broken
  | none =>
      rw [broken] at failed
      exact Or.inl (SessionIndex.fiber_error failed)

/-- An envelope that the handle of a fiber mints. -/
def Mints (store : Store Engine)
    (mint : FiberHandle → Except OperationFailure EventEnvelope × FiberHandle) (fiberId : Id)
    (envelope : EventEnvelope) : Prop :=
  ∃ handle, store.fiber fiberId = .ok handle ∧ (mint handle).1 = .ok envelope

/-- A lifecycle write is two authority checks around the minting of an envelope,
then an append. -/
theorem wp_lifecycleWrite
    {mint : FiberHandle → Except OperationFailure EventEnvelope × FiberHandle} {fiberId : Id}
    {J : Nat → World → Prop}
    {post : Except OperationFailure (WriteLandingVerdict EventEnvelope) → Store Engine → World →
      Prop}
    (minting : ∀ handle failure, (mint handle).1 = .error failure →
      failure.condition.isDivergence = false)
    (start : J 0 world)
    (authority : ∀ checks before, checks < 2 → J checks before →
      (StorageEngine.checkAuthority store.engine).wp setting
        (fun outcome after => match outcome with
          | .error failure => post (.error failure) store after
          | .ok () => J (checks + 1) after) before)
    (refused : ∀ checks before failure, J checks before → store.Refusal failure →
      post (.error failure) store before)
    (landing : ∀ before envelope payload, J 2 before →
      AdmittedFrame store.fiberIndex payload envelope → store.Mints mint fiberId envelope →
      envelope.encode [] = (.ok (), payload) →
      (StorageEngine.appendBlock (ContainerFrame.frameBytes payload)).wp setting
        (store.landingPost envelope (ContainerFrame.frameBytes payload)
          (fun outcome => post (outcome.map (WriteLandingVerdict.map fun _ => envelope))))
        store.engine before) :
    (lifecycleWrite mint fiberId).wp setting post store world := by
  simp only [lifecycleWrite, Action.wp_bind, wp_checkSessionAuthority]
  by_cases uncertain : store.isUncertain = true
  · rw [if_pos uncertain]
    exact refused 0 world _ start (Or.inl rfl)
  rw [if_neg uncertain]
  refine Program.wp_mono (authority 0 world (by omega) start) ?_
  rintro (failure | _) before owed
  · exact owed
  have checked : J 1 before := owed
  simp only [Action.wp_get, Action.wp_ofExcept]
  cases handleAt : store.fiber fiberId with
  | error failure => exact refused 1 before failure checked (fiber_error handleAt)
  | ok handle =>
      cases minted : (mint handle).1 with
      | error failure =>
          simp only [minted]
          exact refused 1 before failure checked (Or.inl (minting handle failure minted))
      | ok envelope =>
          simp only [minted, appendEnvelopeVerdict, Action.wp_bind, Action.wp_ofExcept]
          cases wired : WireEnvelope.tryFrom envelope with
          | error failure => exact refused 1 before _ checked (Or.inl rfl)
          | ok wire =>
              simp only [Except.mapError]
              have same : wire.envelope = envelope := WireEnvelope.bounded_envelope wired
              refine wp_appendFrameVerdict checked ?_ ?_ ?_ (J := J 2)
              · intro earlier holds
                refine Program.wp_mono (authority 1 earlier (by omega) holds) ?_
                rintro (failure | _) after owed
                · exact owed
                · exact owed
              · rintro earlier failure (holds | holds) other
                · exact refused 1 earlier failure holds (Or.inl other)
                · exact refused 2 earlier failure holds (Or.inl other)
              · intro earlier found holds admitted
                have written : found = envelope := by
                  have decoded := SessionIndex.decodeAndValidateFrame_encode wire
                  rw [admitted.decoded, same] at decoded
                  exact Except.ok.inj decoded
                subst written
                have minting : store.Mints mint fiberId found := ⟨handle, handleAt, minted⟩
                refine Action.wp_mono (landing earlier found wire.encode holds admitted minting
                  (EventEnvelope.encode_of_tryFrom wired)) ?_
                rintro (failure | verdict) engine after owed
                · exact owed
                · cases verdict <;> exact owed

omit [Digests] in
/-- Authority is had in just the runs where the session is certain and the engine agrees. -/
theorem checkSessionAuthority_runs_iff {after : Store Engine} {later : World} {done : Unit} :
    checkSessionAuthority.Runs setting store world (.ok done) after later ↔
      store.isUncertain = false ∧ store = after ∧
        (StorageEngine.checkAuthority store.engine).Runs setting world (.ok ()) later := by
  simp only [checkSessionAuthority, Action.runs_bind_ok_iff, Action.runs_get_iff,
    Action.runs_refuseIf_ok_iff, Action.runs_lift_ok_iff, Action.runs_ofExcept_iff]
  constructor
  · rintro ⟨_, _, _, ⟨rfl, rfl, rfl⟩, _, _, _, ⟨certain, rfl, rfl⟩, _, _, _, ⟨authorized, rfl⟩, rfl,
      rfl, rfl⟩
    exact ⟨by simpa using certain, rfl, authorized⟩
  · rintro ⟨certain, rfl, authorized⟩
    exact ⟨_, _, _, ⟨rfl, rfl, rfl⟩, (), _, _, ⟨by simp [certain], rfl, rfl⟩, _, _, _,
      ⟨authorized, rfl⟩, rfl, rfl, rfl⟩

/-- A frame is admitted in just the runs where the session has authority and the index
admits it. -/
theorem admitFrame_runs_iff {payload block : Bytes} {envelope : EventEnvelope}
    {after : Store Engine} {later : World} :
    (admitFrame payload).Runs setting store world (.ok (envelope, block)) after later ↔
      store.isUncertain = false ∧ store = after ∧ AdmittedFrame store.fiberIndex payload envelope ∧
        block = ContainerFrame.frameBytes payload ∧
        (StorageEngine.checkAuthority store.engine).Runs setting world (.ok ()) later := by
  simp only [admitFrame, Action.runs_bind_ok_iff, Action.runs_refuseIf_ok_iff,
    checkSessionAuthority_runs_iff, Action.runs_ofExcept_iff, Action.runs_get_iff]
  constructor
  · rintro ⟨_, _, _, ⟨fits, rfl, rfl⟩, _, _, _, ⟨certain, rfl, authorized⟩, _, _, _,
      ⟨long, rfl, rfl⟩, ⟨found, consumed⟩, _, _, ⟨decoded, rfl, rfl⟩, _, _, _, ⟨all, rfl, rfl⟩,
      _, _, _, ⟨rfl, rfl, rfl⟩, _, _, _, ⟨validated, rfl, rfl⟩, _, _, _, ⟨encoded, rfl, rfl⟩, done⟩
    cases done
    have whole := mapError_eq_ok.mp decoded
    have framed := mapError_eq_ok.mp encoded
    rw [ContainerFrame.encodePayload, ContainerFrame.tryEncodePayload,
      if_pos (Nat.le_of_not_lt fits)] at framed
    cases framed
    refine ⟨certain, rfl, ⟨?_, Nat.le_of_not_lt long, Nat.le_of_not_lt fits, ?_⟩, rfl, authorized⟩
    · have consumedAll : consumed = payload.length := not_ne_iff.mp all
      rw [SessionIndex.decodeAndValidateFrame_ok_iff, whole, consumedAll]
    · exact SessionIndex.validateAppend_ok_iff.mp validated
  · rintro ⟨certain, rfl, admitted, rfl, authorized⟩
    have whole := SessionIndex.decodeAndValidateFrame_ok_iff.mp admitted.decoded
    have framed : ContainerFrame.encodePayload payload = .ok (ContainerFrame.frameBytes payload) :=
      if_pos admitted.fits
    exact ⟨(), _, _, ⟨Nat.not_lt.mpr admitted.fits, rfl, rfl⟩, (), _, _, ⟨certain, rfl, authorized⟩,
      (), _, _, ⟨Nat.not_lt.mpr admitted.long, rfl, rfl⟩, (envelope, payload.length), _, _,
      ⟨mapError_eq_ok.mpr whole, rfl, rfl⟩, (), _, _, ⟨not_ne_iff.mpr rfl, rfl, rfl⟩, _, _, _,
      ⟨rfl, rfl, rfl⟩, (), _, _, ⟨SessionIndex.validateAppend_ok_iff.mpr admitted.admits, rfl, rfl⟩,
      _, _, _, ⟨mapError_eq_ok.mpr framed, rfl, rfl⟩, .ret⟩

section Evaluation

variable {handler : Handler S World} {payload : Bytes} {envelope : EventEnvelope}
  {later final : World}

omit [Digests] in
/-- A certain session has the authority of its engine. -/
theorem evaluate_checkSessionAuthority (certain : store.isUncertain = false)
    (authorized : (StorageEngine.checkAuthority store.engine).evaluate handler world =
      (.ok (), later)) :
    (checkSessionAuthority store).evaluate handler world = ((.ok (), store), later) := by
  unfold checkSessionAuthority
  rw [Action.evaluate_bind rfl,
    Action.evaluate_bind (Action.evaluate_refuseIf (by simp [certain]) _ _),
    Action.evaluate_bind (Action.evaluate_lift authorized _)]
  rfl

/-- With authority, an admitted frame is passed on to the engine. -/
theorem evaluate_admitFrame (certain : store.isUncertain = false)
    (authorized : (StorageEngine.checkAuthority store.engine).evaluate handler world =
      (.ok (), later))
    (admitted : AdmittedFrame store.fiberIndex payload envelope) :
    (admitFrame payload store).evaluate handler world =
      ((.ok (envelope, ContainerFrame.frameBytes payload), store), later) := by
  have decoded := SessionIndex.decodeAndValidateFrame_ok_iff.mp admitted.decoded
  have validated := SessionIndex.validateAppend_ok_iff.mpr admitted.admits
  have encoded : ContainerFrame.encodePayload payload = .ok (ContainerFrame.frameBytes payload) :=
    if_pos admitted.fits
  unfold admitFrame
  rw [Action.evaluate_bind (Action.evaluate_refuseIf (Nat.not_lt.mpr admitted.fits) _ _),
    Action.evaluate_bind (evaluate_checkSessionAuthority certain authorized),
    Action.evaluate_bind (Action.evaluate_refuseIf (Nat.not_lt.mpr admitted.long) _ _), decoded]
  dsimp only [Except.mapError]
  rw [Action.evaluate_bind rfl, Action.evaluate_bind (Action.evaluate_refuseIf (by simp) _ _),
    Action.evaluate_bind rfl, validated, Action.evaluate_bind rfl, encoded]
  rfl

/-- With authority, an append of an admitted frame is what its landing is. -/
theorem evaluate_appendFrameVerdict (certain : store.isUncertain = false)
    (authorized : (StorageEngine.checkAuthority store.engine).evaluate handler world =
      (.ok (), later))
    (admitted : AdmittedFrame store.fiberIndex payload envelope) :
    (appendFrameVerdict payload store).evaluate handler world =
      (landFrame envelope (ContainerFrame.frameBytes payload) store).evaluate handler later := by
  unfold appendFrameVerdict
  rw [Action.evaluate_bind (evaluate_admitFrame certain authorized admitted)]

omit [Digests] [StorageEngine S Engine] in
/-- What is done on the engine is evaluated there. -/
theorem evaluate_onEngine {α : Type} {action : Action S OperationFailure Engine α}
    {outcome : Except OperationFailure α} {engine : Engine}
    (first : (action store.engine).evaluate handler world = ((outcome, engine), later)) :
    (onEngine action store).evaluate handler world = ((outcome, { store with engine }), later) := by
  unfold onEngine Action.on
  rw [Program.evaluate_bind, first]
  rfl

end Evaluation

end Store

namespace WriteCall

variable {S : Signature} {Engine World : Type} [StorageEngine S Engine]
  {setting : Setting S World} {store : Store Engine} {world : World}

/-- Perform a write on a store. -/
def perform : WriteCall →
    Action S OperationFailure (Store Engine) (WriteLandingVerdict WriteReceipt)
  | .appendFrame payload => do
      let verdict ← Store.appendFrameVerdict payload
      pure (verdict.map .frameCount)
  | .appendEnvelope envelope => do
      let verdict ← Store.appendEnvelopeVerdict envelope
      pure (verdict.map .frameCount)
  | .appendToFiber fiberId eventId payload => do
      let verdict ← Store.appendToFiber fiberId eventId payload
      pure (verdict.map .envelope)
  | .detachFiber fiberId eventId payload => do
      let verdict ← Store.detachFiber fiberId eventId payload
      pure (verdict.map .envelope)
  | .rescueFiber fiberId eventId payload => do
      let verdict ← Store.rescueFiber fiberId eventId payload
      pure (verdict.map .envelope)

/-- The frame that a call writes on a store: the one passed, or the encoding of the
envelope that was passed or minted. -/
def Writes (call : WriteCall) (store : Store Engine) (envelope : EventEnvelope)
    (payload : Bytes) : Prop :=
  match call with
  | .appendFrame passed => passed = payload
  | .appendEnvelope passed => passed = envelope ∧ envelope.encode [] = (.ok (), payload)
  | .appendToFiber fiberId eventId body =>
      store.Mints (fun handle => handle.append eventId body) fiberId envelope ∧
        envelope.encode [] = (.ok (), payload)
  | .detachFiber fiberId eventId body =>
      store.Mints (fun handle => handle.detach eventId body) fiberId envelope ∧
        envelope.encode [] = (.ok (), payload)
  | .rescueFiber fiberId eventId body =>
      store.Mints (fun handle => handle.rescue eventId body) fiberId envelope ∧
        envelope.encode [] = (.ok (), payload)

/-- What a call writes is what was passed to it. -/
theorem Writes.passes {call : WriteCall} {envelope : EventEnvelope} {payload : Bytes}
    (writes : call.Writes store envelope payload) : call.Passes envelope payload := by
  cases call with
  | appendFrame passed => exact writes
  | appendEnvelope passed => exact writes.1
  | appendToFiber fiberId eventId body => trivial
  | detachFiber fiberId eventId body => trivial
  | rescueFiber fiberId eventId body => trivial

/-- Every write is: authority checks that leave the store alone, then either a
refusal that leaves it alone or the engine's append of a frame that the call writes
and the index admits. What holds after so many checks is `J`. -/
theorem wp_perform_writes (call : WriteCall) {J : Nat → World → Prop}
    {post : Except OperationFailure (WriteLandingVerdict WriteReceipt) → Store Engine → World →
      Prop}
    (start : J 0 world)
    (authority : ∀ checks before, checks < call.sessionChecks → J checks before →
      (StorageEngine.checkAuthority store.engine).wp setting
        (fun outcome after => match outcome with
          | .error failure => post (.error failure) store after
          | .ok () => J (checks + 1) after) before)
    (refused : ∀ checks before failure, J checks before → store.Refusal failure →
      post (.error failure) store before)
    (landing : ∀ before envelope payload, J call.sessionChecks before →
      AdmittedFrame store.fiberIndex payload envelope → call.Writes store envelope payload →
      (StorageEngine.appendBlock (ContainerFrame.frameBytes payload)).wp setting
        (store.landingPost envelope (ContainerFrame.frameBytes payload)
          (fun outcome => post (outcome.map (WriteLandingVerdict.map (call.receipt envelope)))))
        store.engine before) :
    call.perform.wp setting post store world := by
  have lifecycle : ∀ mint fiberId, call.sessionChecks = 2 →
      (∀ handle failure, (mint handle).1 = .error failure →
        failure.condition.isDivergence = false) →
      (∀ envelope payload, store.Mints mint fiberId envelope →
        envelope.encode [] = (.ok (), payload) → call.Writes store envelope payload) →
      (∀ envelope count, call.receipt envelope count = .envelope envelope) →
      (Store.lifecycleWrite mint fiberId).wp setting
        (fun outcome after later => post (outcome.map (WriteLandingVerdict.map .envelope)) after
          later) store world := by
    intro mint fiberId twice minting writes receipt
    rw [twice] at authority landing
    refine Store.wp_lifecycleWrite minting start ?_ refused ?_
    · intro checks before early holds
      refine Program.wp_mono (authority checks before early holds) ?_
      rintro (failure | _) after owed
      · exact owed
      · exact owed
    intro before envelope payload holds admitted mints encoded
    refine Action.wp_mono
      (landing before envelope payload holds admitted (writes _ _ mints encoded)) ?_
    rintro (failure | verdict) engine after owed
    · exact owed
    · cases verdict with
      | undetermined carriedEpoch => exact owed
      | landed position =>
          simp only [Store.landingPost, Except.map, WriteLandingVerdict.map, receipt] at owed ⊢
          exact owed
  -- a plain append makes one check of its own
  have single : ∀ payload, call.sessionChecks = 1 →
      (∀ before envelope, J 1 before → AdmittedFrame store.fiberIndex payload envelope →
        call.Writes store envelope payload ∧
          ∀ count, call.receipt envelope count = .frameCount count) →
      (Store.appendFrameVerdict payload).wp setting
        (fun outcome after later => post (outcome.map (WriteLandingVerdict.map .frameCount)) after
          later) store world := by
    intro payload once writes
    rw [once] at authority landing
    refine Store.wp_appendFrameVerdict start ?_ ?_ ?_ (J := J 1)
    · intro before holds
      refine Program.wp_mono (authority 0 before (by omega) holds) ?_
      rintro (failure | _) after owed
      · exact owed
      · exact owed
    · rintro before failure (holds | holds) other
      · exact refused 0 before failure holds (Or.inl other)
      · exact refused 1 before failure holds (Or.inl other)
    · intro before envelope holds admitted
      obtain ⟨written, receipt⟩ := writes before envelope holds admitted
      refine Action.wp_mono (landing before envelope payload holds admitted written) ?_
      rintro (failure | verdict) engine after owed
      · exact owed
      · cases verdict with
        | undetermined carriedEpoch => exact owed
        | landed position =>
            simp only [Store.landingPost, Except.map, WriteLandingVerdict.map, receipt] at owed ⊢
            exact owed
  cases call with
  | appendFrame payload =>
      refine (Action.wp_map _).mpr (single payload rfl ?_)
      intro before envelope holds admitted
      exact ⟨rfl, fun _ => rfl⟩
  | appendEnvelope envelope =>
      refine (Action.wp_map _).mpr ?_
      simp only [Store.appendEnvelopeVerdict, Action.wp_bind, Action.wp_ofExcept]
      cases wired : WireEnvelope.tryFrom envelope with
      | error failure => exact refused 0 world _ start (Or.inl rfl)
      | ok wire =>
          simp only [Except.mapError]
          have same : wire.envelope = envelope := WireEnvelope.bounded_envelope wired
          refine single wire.encode rfl ?_
          intro before found holds admitted
          have decoded := SessionIndex.decodeAndValidateFrame_encode wire
          rw [admitted.decoded, same] at decoded
          cases decoded
          exact ⟨⟨rfl, EventEnvelope.encode_of_tryFrom wired⟩, fun _ => rfl⟩
  | appendToFiber fiberId eventId payload =>
      exact (Action.wp_map _).mpr (lifecycle _ fiberId rfl
        (fun handle _ => handle.append_error) (fun _ _ => And.intro) (fun _ _ => rfl))
  | detachFiber fiberId eventId payload =>
      exact (Action.wp_map _).mpr (lifecycle _ fiberId rfl
        (fun handle _ => handle.detach_error) (fun _ _ => And.intro) (fun _ _ => rfl))
  | rescueFiber fiberId eventId payload =>
      exact (Action.wp_map _).mpr (lifecycle _ fiberId rfl
        (fun handle _ => handle.rescue_error) (fun _ _ => And.intro) (fun _ _ => rfl))

/-- The same rule for callers that need no more of the frame than what was passed. -/
theorem wp_perform (call : WriteCall) {J : Nat → World → Prop}
    {post : Except OperationFailure (WriteLandingVerdict WriteReceipt) → Store Engine → World →
      Prop}
    (start : J 0 world)
    (authority : ∀ checks before, checks < call.sessionChecks → J checks before →
      (StorageEngine.checkAuthority store.engine).wp setting
        (fun outcome after => match outcome with
          | .error failure => post (.error failure) store after
          | .ok () => J (checks + 1) after) before)
    (refused : ∀ checks before failure, J checks before → store.Refusal failure →
      post (.error failure) store before)
    (landing : ∀ before envelope payload, J call.sessionChecks before →
      AdmittedFrame store.fiberIndex payload envelope → call.Passes envelope payload →
      (StorageEngine.appendBlock (ContainerFrame.frameBytes payload)).wp setting
        (store.landingPost envelope (ContainerFrame.frameBytes payload)
          (fun outcome => post (outcome.map (WriteLandingVerdict.map (call.receipt envelope)))))
        store.engine before) :
    call.perform.wp setting post store world :=
  call.wp_perform_writes start authority refused
      fun before envelope payload holds admitted writes =>
    landing before envelope payload holds admitted writes.passes

end WriteCall

end Pardosa
