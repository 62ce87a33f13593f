import Pardosa.Foundation.Simulation
import Pardosa.Store.Session

/-!
# Engines that agree

The store uses its engine only through the engine's methods. Where those of one engine
lead to what those of another one lead to, up to the numbers that the engines give to
their blocks, every call of a session over the one leads to what it leads to over the
other: with the same outcome, the same commitment and the same index.
-/

namespace Pardosa

open Foundation

variable [Digests] {S T : Signature} {Engine Twin World Other τ : Type} [StorageEngine S Engine]
  [StorageEngine T Twin]

/-- The same store over another engine. -/
def Store.withEngine (store : Store Engine) (engine : Twin) : Store Twin :=
  ⟨engine, store.rollingCommitment, store.fiberIndex, store.brokenReaderCause, store.uncertain,
    store.uncertainDiagnostic⟩

/-- The methods of an engine lead to what those of its twin lead to, where they are
paired as long as there is room for so many further blocks. -/
structure StorageEngine.Agree (first : Setting S World) (second : Setting T Other)
    (Paired : Nat → Engine → World → Twin → Other → Prop) : Prop where
  fewer : ∀ {room engine world twin other}, Paired (room + 1) engine world twin other →
    Paired room engine world twin other
  uncertainDiagnostic : ∀ {room engine world twin other}, Paired room engine world twin other →
    StorageEngine.uncertainDiagnostic twin = StorageEngine.uncertainDiagnostic engine
  checkAuthority : ∀ {room engine world twin other}, Paired room engine world twin other →
    (StorageEngine.checkAuthority engine).Leads first second (fun outcome later reply final =>
      outcome = reply ∧ Paired room engine later twin final)
      (StorageEngine.checkAuthority twin) world other
  isRetired : ∀ {room engine world twin other}, Paired room engine world twin other →
    (StorageEngine.isRetired engine).Leads first second (fun outcome later reply final =>
      outcome = reply ∧ Paired room engine later twin final)
      (StorageEngine.isRetired twin) world other
  /-- A block that lands is numbered by each engine in its own way. -/
  appendBlock : ∀ {room engine world twin other payload}, payload.length ≤ u32Max →
    Paired (room + 1) engine world twin other →
    (StorageEngine.appendBlock (ContainerFrame.frameBytes payload) engine).Leads first second
      (fun result later reply final => result.1.map (·.map fun _ => ()) =
        reply.1.map (·.map fun _ => ()) ∧ Paired room result.2 later reply.2 final)
      (StorageEngine.appendBlock (ContainerFrame.frameBytes payload) twin) world other
  readAll : ∀ {room engine world twin other}, Paired room engine world twin other →
    StorageEngine.readAll.Leads first second (fun _ => Paired room) StorageEngine.readAll engine
      world twin other
  readChunk : ∀ {room engine world twin other startIndex maxItems},
    Paired room engine world twin other →
    (StorageEngine.readChunk startIndex maxItems).Leads first second (fun _ => Paired room)
      (StorageEngine.readChunk startIndex maxItems) engine world twin other
  recoverFrames : ∀ {room engine world twin other} {σ : Type} {onFrame : FrameRecoveryCallback σ}
      {captured : σ}, Paired room engine world twin other →
    (StorageEngine.recoverFrames 64 onFrame).Leads first second
      (fun _ after later twin' final => after.2 = twin'.2 ∧ Paired room after.1 later twin'.1 final)
      (StorageEngine.recoverFrames 64 onFrame) (engine, captured) world (twin, captured) other
  sync : ∀ {room engine world twin other}, Paired room engine world twin other →
    StorageEngine.sync.Leads first second (fun _ => Paired room) StorageEngine.sync engine world
      twin other

variable {first : Setting S World} {second : Setting T Other}
  {Paired : Nat → Engine → World → Twin → Other → Prop}

omit [Digests] [StorageEngine S Engine] [StorageEngine T Twin] in
/-- Engines that read their chunks from full reads read the same chunks. -/
theorem leads_chunkOfAll {Paired : Engine → World → Twin → Other → Prop}
    {readAll : Action S OperationFailure Engine (List Bytes)}
    {shadow : Action T OperationFailure Twin (List Bytes)} {engine : Engine} {world : World}
    {twin : Twin} {other : Other} (startIndex maxItems : Nat)
    (paired : Paired engine world twin other)
    (reads : readAll.Leads first second (fun _ => Paired) shadow engine world twin other) :
    (chunkOfAll readAll startIndex maxItems).Leads first second (fun _ => Paired)
      (chunkOfAll shadow startIndex maxItems) engine world twin other := by
  unfold chunkOfAll
  split_ifs
  · exact Action.leads_pure paired
  · exact Action.leads_bind reads (fun _ _ _ _ _ holds => holds) fun _ _ _ _ _ holds =>
      Action.leads_pure holds

/-- One store over two engines that are paired. -/
def Store.Alike (Paired : Engine → World → Twin → Other → Prop) (store : Store Engine)
    (world : World) (twin : Store Twin) (other : Other) : Prop :=
  ∃ engine, twin = store.withEngine engine ∧ Paired store.engine world engine other

namespace Store

section Looks

variable {store : Store Engine} {twin : Twin}
  (same : StorageEngine.uncertainDiagnostic twin = StorageEngine.uncertainDiagnostic store.engine)

include same

omit [Digests] in
/-- Whether a store is uncertain is the same over engines with one diagnostic. -/
theorem isUncertain_withEngine : (store.withEngine twin).isUncertain = store.isUncertain := by
  unfold isUncertain withEngine
  rw [same]

omit [Digests] in
/-- So is the failure it answers with. -/
theorem uncertainFailure_withEngine :
    (store.withEngine twin).uncertainFailure = store.uncertainFailure := by
  unfold uncertainFailure sessionDiagnostic withEngine
  rw [same]

omit [Digests] in
/-- Point lookups answer the same over such engines. -/
theorem checkPointLookup_withEngine :
    (store.withEngine twin).checkPointLookup = store.checkPointLookup := by
  unfold checkPointLookup
  rw [isUncertain_withEngine same, uncertainFailure_withEngine same]
  rfl

/-- The same handles are handed out. -/
theorem fiber_withEngine (fiberId : Id) :
    (store.withEngine twin).fiber fiberId = store.fiber fiberId := by
  unfold fiber
  rw [checkPointLookup_withEngine same]
  rfl

omit [Digests] in
/-- The same envelope is the latest of a fiber. -/
theorem getLatest_withEngine (fiberId : Id) :
    (store.withEngine twin).getLatest fiberId = store.getLatest fiberId := by
  unfold getLatest
  rw [checkPointLookup_withEngine same]
  rfl

omit [Digests] in
/-- Fencing a store does not depend on its engine. -/
theorem fenced_withEngine (carriedEpoch : UInt64) :
    (store.withEngine twin).fenced carriedEpoch = (store.fenced carriedEpoch).withEngine twin := by
  unfold fenced withEngine
  rw [same]

end Looks

omit [Digests] [StorageEngine S Engine] [StorageEngine T Twin] in
/-- Nor does retaining a break. -/
theorem retainBreak_withEngine (store : Store Engine) (twin : Twin) (failure : OperationFailure) :
    retainBreak failure (store.withEngine twin) = (retainBreak failure store).withEngine twin := by
  unfold retainBreak
  split_ifs
  · rfl
  · rfl

omit [Digests] [StorageEngine S Engine] in
/-- The end of an iteration leaves the engine alone. -/
theorem concludeIteration_engine (outcome : Except OperationFailure Nat)
    (captured : ForEachCapture τ) (store : Store Engine) :
    (concludeIteration outcome captured store).2.engine = store.engine := by
  unfold concludeIteration
  split
  · rfl
  · rfl
  · rfl
  · dsimp only
    split_ifs
    · rfl
    · rfl

omit [Digests] [StorageEngine S Engine] [StorageEngine T Twin] in
/-- The end of an iteration does not depend on the engine. -/
theorem concludeIteration_withEngine (store : Store Engine) (twin : Twin)
    (outcome : Except OperationFailure Nat) (captured : ForEachCapture τ) :
    concludeIteration outcome captured (store.withEngine twin) =
      ((concludeIteration outcome captured store).1,
        (concludeIteration outcome captured store).2.withEngine twin) := by
  unfold concludeIteration
  split
  · rfl
  · rfl
  · rfl
  · dsimp only
    split_ifs
    · rfl
    · rfl

section Writes

variable (agree : StorageEngine.Agree first second Paired) {room : Nat} {store : Store Engine}
  {world : World} {copy : Store Twin} {other : Other} {payload : Bytes}

include agree

/-- Stores that are alike with room to spare are alike with less. -/
theorem Alike.fewer (alike : store.Alike (Paired (room + 1)) world copy other) :
    store.Alike (Paired room) world copy other := by
  obtain ⟨twin, rfl, paired⟩ := alike
  exact ⟨twin, rfl, agree.fewer paired⟩

/-- Stores that are alike check authority alike. -/
theorem leads_checkSessionAuthority (alike : store.Alike (Paired room) world copy other) :
    checkSessionAuthority.Leads first second
      (fun _ after later copy' final => after = store ∧ after.Alike (Paired room) later copy' final)
      checkSessionAuthority store world copy other := by
  obtain ⟨twin, rfl, paired⟩ := alike
  have same := agree.uncertainDiagnostic paired
  refine Action.leads_get_bind ?_
  rw [isUncertain_withEngine same, uncertainFailure_withEngine same]
  refine Action.leads_refuseIf_bind (fun _ => ⟨rfl, twin, rfl, paired⟩) fun _ => ?_
  exact Action.leads_lift_bind (agree.checkAuthority paired) fun outcome later final kept =>
    Action.leads_ofExcept ⟨rfl, twin, rfl, kept⟩

/-- An admission leads to an admission of the same frame. -/
theorem leads_admitFrame (alike : store.Alike (Paired room) world copy other) :
    (admitFrame payload).Leads first second
      (fun outcome after later copy' final => after.Alike (Paired room) later copy' final ∧
        ∀ envelope block, outcome = .ok (envelope, block) →
          payload.length ≤ u32Max ∧ block = ContainerFrame.frameBytes payload)
      (admitFrame payload) store world copy other := by
  unfold admitFrame
  refine Action.leads_refuseIf_bind (fun _ => ⟨alike, by rintro _ _ ⟨⟩⟩) fun fits => ?_
  refine Action.leads_bind (leads_checkSessionAuthority agree alike) ?_ ?_
  · rintro failure after later copy' final ⟨-, kept⟩
    exact ⟨kept, by rintro _ _ ⟨⟩⟩
  rintro - _ later copy' final ⟨rfl, kept⟩
  refine Action.leads_refuseIf_bind (fun _ => ⟨kept, by rintro _ _ ⟨⟩⟩) fun long => ?_
  refine Action.leads_ofExcept_bind (fun _ _ => ⟨kept, by rintro _ _ ⟨⟩⟩) ?_
  rintro ⟨envelope, consumed⟩ decoded
  refine Action.leads_refuseIf_bind (fun _ => ⟨kept, by rintro _ _ ⟨⟩⟩) fun all => ?_
  refine Action.leads_get_bind ?_
  obtain ⟨twin, rfl, paired⟩ := kept
  refine Action.leads_ofExcept_bind (fun _ _ => ⟨⟨twin, rfl, paired⟩, by rintro _ _ ⟨⟩⟩) ?_
  rintro - -
  refine Action.leads_ofExcept_bind (fun _ _ => ⟨⟨twin, rfl, paired⟩, by rintro _ _ ⟨⟩⟩) ?_
  intro block framed
  refine Action.leads_pure ⟨⟨twin, rfl, paired⟩, ?_⟩
  rintro _ _ ⟨⟩
  have fitting := Nat.le_of_not_lt fits
  have encoded : ContainerFrame.encodePayload payload = .ok (ContainerFrame.frameBytes payload) :=
    if_pos fitting
  rw [encoded] at framed
  cases framed
  exact ⟨fitting, rfl⟩

/-- A landing leads to a landing: what the engines make of the number is not looked at. -/
theorem leads_landFrame {envelope : EventEnvelope} (fits : payload.length ≤ u32Max)
    (alike : store.Alike (Paired (room + 1)) world copy other) :
    (landFrame envelope (ContainerFrame.frameBytes payload)).Leads first second
      (fun _ => Store.Alike (Paired room)) (landFrame envelope (ContainerFrame.frameBytes payload))
      store world copy other := by
  obtain ⟨twin, rfl, paired⟩ := alike
  have appended :
    (onEngine (StorageEngine.appendBlock (ContainerFrame.frameBytes payload)) store).Leads
      first second (fun result later reply final => result.1.map (·.map fun _ => ()) =
        reply.1.map (·.map fun _ => ()) ∧ ∃ engine twin', result.2 = { store with engine } ∧
          reply.2 = ({ store with engine } : Store Engine).withEngine twin' ∧
          Paired room engine later twin' final)
      (onEngine (StorageEngine.appendBlock (ContainerFrame.frameBytes payload))
        (store.withEngine twin)) world other := by
    refine Program.leads_bind (agree.appendBlock fits paired) ?_
    rintro ⟨outcome, engine⟩ later ⟨answer, twin'⟩ final ⟨same, kept⟩
    exact ⟨_, _, .ret, same, engine, twin', rfl, rfl, kept⟩
  refine Program.leads_bind appended ?_
  rintro ⟨outcome, _⟩ later ⟨answer, _⟩ final ⟨same, engine, twin', rfl, rfl, kept⟩
  have fencing := agree.uncertainDiagnostic kept
  cases outcome with
  | error failure =>
      cases answer with
      | error failure' =>
          cases same
          exact ⟨_, _, .ret, rfl, twin', rfl, kept⟩
      | ok verdict => cases same
  | ok verdict =>
      cases answer with
      | error failure => cases same
      | ok verdict' =>
          cases verdict with
          | landed number =>
              cases verdict' with
              | landed number' => exact ⟨_, _, .ret, rfl, twin', rfl, kept⟩
              | undetermined carriedEpoch => cases same
          | undetermined carriedEpoch =>
              cases verdict' with
              | landed number' => cases same
              | undetermined carriedEpoch' =>
                  cases same
                  exact ⟨_, _, .ret, rfl, twin', fenced_withEngine fencing carriedEpoch, kept⟩

/-- They append frames alike, with one less to go. -/
theorem leads_appendFrameVerdict (alike : store.Alike (Paired (room + 1)) world copy other) :
    (appendFrameVerdict payload).Leads first second (fun _ => Store.Alike (Paired room))
      (appendFrameVerdict payload) store world copy other := by
  refine Action.leads_bind (leads_admitFrame agree alike) ?_ ?_
  · rintro failure after later copy' final ⟨kept, -⟩
    exact kept.fewer agree
  · rintro ⟨envelope, block⟩ after later copy' final ⟨kept, admitted⟩
    obtain ⟨fits, rfl⟩ := admitted envelope block rfl
    exact leads_landFrame agree fits kept

/-- They append envelopes alike. -/
theorem leads_appendEnvelopeVerdict (envelope : EventEnvelope)
    (alike : store.Alike (Paired (room + 1)) world copy other) :
    (appendEnvelopeVerdict envelope).Leads first second (fun _ => Store.Alike (Paired room))
      (appendEnvelopeVerdict envelope) store world copy other :=
  Action.leads_ofExcept_bind (fun _ _ => alike.fewer agree) fun _ _ =>
    leads_appendFrameVerdict agree alike

/-- A lifecycle write mints the same envelope, from the same handle. -/
theorem leads_lifecycleWrite
    (mint : FiberHandle → Except OperationFailure EventEnvelope × FiberHandle) (fiberId : Id)
    (alike : store.Alike (Paired (room + 1)) world copy other) :
    (lifecycleWrite mint fiberId).Leads first second (fun _ => Store.Alike (Paired room))
      (lifecycleWrite mint fiberId) store world copy other := by
  refine Action.leads_bind (leads_checkSessionAuthority agree alike) ?_ ?_
  · rintro failure after later copy' final ⟨-, kept⟩
    exact kept.fewer agree
  rintro - _ later _ final ⟨rfl, kept⟩
  refine Action.leads_get_bind ?_
  obtain ⟨twin, rfl, paired⟩ := id kept
  rw [fiber_withEngine (agree.uncertainDiagnostic paired)]
  refine Action.leads_ofExcept_bind (fun _ _ => kept.fewer agree) fun handle _ => ?_
  refine Action.leads_ofExcept_bind (fun _ _ => kept.fewer agree) fun envelope _ => ?_
  refine Action.leads_bind (leads_appendEnvelopeVerdict agree envelope kept)
    (fun _ _ _ _ _ holds => holds) ?_
  rintro (count | carriedEpoch) after later copy' final holds
  · exact Action.leads_pure holds
  · exact Action.leads_pure holds

end Writes

section Reads

variable (agree : StorageEngine.Agree first second Paired) {room : Nat} {store : Store Engine}
  {world : World} {copy : Store Twin} {other : Other}

include agree

/-- They are retired alike. -/
theorem leads_isRetiredSource (alike : store.Alike (Paired room) world copy other) :
    isRetiredSource.Leads first second (fun _ => Store.Alike (Paired room)) isRetiredSource store
      world copy other := by
  obtain ⟨twin, rfl, paired⟩ := alike
  exact Action.leads_get_bind (Action.leads_lift_bind (agree.isRetired paired)
    fun outcome later final kept => Action.leads_ofExcept ⟨twin, rfl, kept⟩)

omit agree [Digests] [StorageEngine S Engine] [StorageEngine T Twin] in
/-- What leads to what it is on the engine's twin leads to it on the store, too. -/
theorem leads_onEngine {α : Type} {action : Action S OperationFailure Engine α}
    {shadow : Action T OperationFailure Twin α}
    (leads : ∀ {engine world twin other}, Paired room engine world twin other →
      action.Leads first second (fun _ => Paired room) shadow engine world twin other)
    (alike : store.Alike (Paired room) world copy other) :
    (onEngine action).Leads first second (fun _ => Store.Alike (Paired room)) (onEngine shadow)
      store world copy other := by
  obtain ⟨twin, rfl, paired⟩ := alike
  refine Action.leads_on (Action.leads_mono (leads paired) ?_)
  intro outcome engine later twin' final kept
  exact ⟨twin', rfl, kept⟩

/-- They read a block alike. -/
theorem leads_readBlock (index : Nat) (alike : store.Alike (Paired room) world copy other) :
    (readBlock index).Leads first second (fun _ => Store.Alike (Paired room)) (readBlock index)
      store world copy other := by
  refine leads_onEngine (fun paired => ?_) alike
  refine Action.leads_bind (agree.readChunk paired) (fun _ _ _ _ _ holds => holds) ?_
  intro chunk engine later twin final kept
  unfold Action.require
  cases chunk.getLast? with
  | none => exact Action.leads_throw kept
  | some payload => exact Action.leads_pure kept

omit agree [Digests] [StorageEngine S Engine] [StorageEngine T Twin] in
/-- They stay alike as both retain a break. -/
theorem Alike.retainBreak (failure : OperationFailure)
    (alike : store.Alike (Paired room) world copy other) :
    (retainBreak failure store).Alike (Paired room) world (retainBreak failure copy) other := by
  obtain ⟨twin, rfl, paired⟩ := alike
  refine ⟨twin, retainBreak_withEngine store twin failure, ?_⟩
  unfold Store.retainBreak
  split_ifs
  · exact paired
  · exact paired

/-- They read all frames alike. -/
theorem leads_readAllFrames (alike : store.Alike (Paired room) world copy other) :
    readAllFrames.Leads first second (fun _ => Store.Alike (Paired room)) readAllFrames store world
      copy other := by
  refine Action.leads_attempt_bind (leads_onEngine agree.readAll alike) ?_
  rintro (failure | frames) after later copy' final kept
  · exact Action.leads_modify_bind (Action.leads_throw (kept.retainBreak failure))
  · refine Action.leads_ofExcept_bind (fun _ _ => kept) fun rolling _ => ?_
    obtain ⟨twin, rfl, paired⟩ := kept
    exact Action.leads_modify_bind (Action.leads_pure ⟨twin, rfl, paired⟩)

/-- They read envelopes alike, before a failure is looked at. -/
theorem leads_readAllEnvelopesBody (forMigration : Bool)
    (alike : store.Alike (Paired room) world copy other) :
    (readAllEnvelopesBody forMigration).Leads first second (fun _ => Store.Alike (Paired room))
      (readAllEnvelopesBody forMigration) store world copy other := by
  refine Action.leads_bind (leads_readAllFrames agree alike) (fun _ _ _ _ _ holds => holds) ?_
  intro frames after later copy' final kept
  refine Action.leads_ofExcept_bind (fun _ _ => kept) fun _ _ => ?_
  refine Action.leads_ofExcept_bind (fun _ _ => kept) fun index _ => ?_
  obtain ⟨twin, rfl, paired⟩ := id kept
  by_cases broken : (!forMigration && index.hasBrokenFibers) = true
  · rw [if_pos broken, if_pos broken]
    exact Action.leads_modify_bind (Action.leads_throw ⟨twin, rfl, paired⟩)
  · rw [if_neg broken, if_neg broken]
    refine Action.leads_ofExcept_bind (fun _ _ => kept) fun envelopes _ => ?_
    exact Action.leads_modify_bind (Action.leads_pure ⟨twin, rfl, paired⟩)

/-- They read envelopes alike, for a migration or not. -/
theorem leads_readAllEnvelopesInner (forMigration : Bool)
    (alike : store.Alike (Paired room) world copy other) :
    (readAllEnvelopesInner forMigration).Leads first second (fun _ => Store.Alike (Paired room))
      (readAllEnvelopesInner forMigration) store world copy other := by
  refine Action.leads_get_bind ?_
  obtain ⟨twin, rfl, paired⟩ := id alike
  have same : (store.withEngine twin).brokenReaderCause = store.brokenReaderCause := rfl
  rw [same]
  split
  · exact Action.leads_throw alike
  · refine Action.leads_attempt_bind (leads_readAllEnvelopesBody agree forMigration alike) ?_
    rintro (failure | envelopes) after later copy' final kept
    · exact Action.leads_modify_bind (Action.leads_throw (kept.retainBreak failure))
    · exact Action.leads_pure kept

/-- An iteration recovers the same frames and makes the same of them. -/
theorem leads_iterateEnvelopes (visit : EventEnvelopeRef → τ → Except OperationFailure Unit × τ)
    (caller : τ) (alike : store.Alike (Paired room) world copy other) :
    (iterateEnvelopes visit caller).Leads first second (fun _ => Store.Alike (Paired room))
      (iterateEnvelopes visit caller) store world copy other := by
  refine Action.leads_get_bind ?_
  obtain ⟨twin, rfl, paired⟩ := id alike
  refine Action.leads_ofExcept_bind (fun _ _ => alike) fun _ _ => ?_
  have recovered : (recoverOn (forEachFrame visit) ⟨.new, .new, none, none, caller⟩).Leads
    first second
      (fun _ => Store.Alike (Paired room))
      (recoverOn (forEachFrame visit) ⟨.new, .new, none, none, caller⟩) store world
      (store.withEngine twin) other := by
    refine Program.leads_bind (agree.recoverFrames paired) ?_
    rintro ⟨outcome, engine, captured⟩ later ⟨_, twin', _⟩ final ⟨rfl, rfl, kept⟩
    exact ⟨_, _, .ret, rfl, twin', rfl, kept⟩
  refine Action.leads_bind recovered (fun _ _ _ _ _ holds => holds) ?_
  rintro ⟨outcome, captured⟩ after later _ final ⟨twin', rfl, kept⟩
  have concluded := concludeIteration_withEngine after twin' outcome captured
  refine Action.leads_attempt_bind (Action.leads_mutate (by rw [concluded]) ?_)
    fun result after later copy' final holds => Action.leads_pure holds
  rw [concluded]
  refine ⟨twin', rfl, ?_⟩
  rw [concludeIteration_engine]
  exact kept

/-- They visit envelopes alike. -/
theorem leads_forEachEnvelope (visit : EventEnvelopeRef → τ → Except OperationFailure Unit × τ)
    (caller : τ) (alike : store.Alike (Paired room) world copy other) :
    (forEachEnvelope visit caller).Leads first second (fun _ => Store.Alike (Paired room))
      (forEachEnvelope visit caller) store world copy other := by
  refine Action.leads_bind (leads_iterateEnvelopes agree visit caller alike)
    (fun _ _ _ _ _ holds => holds) ?_
  rintro ⟨result, caller⟩ after later copy' final kept
  exact Action.leads_ofExcept_bind (fun _ _ => kept) fun _ _ => Action.leads_pure kept

end Reads

end Store

/-- The calls of a session, one after the other, and what each of them returned. -/
def SessionCall.performAll {Control : Type}
    (controls : Control → Action S OperationFailure Engine Unit) :
    List (SessionCall Control τ) → Store Engine →
      Program S (List (Except OperationFailure (SessionReply τ)) × Store Engine)
  | [], store => .ret ([], store)
  | call :: calls, store =>
      (call.perform controls store).bind fun (outcome, after) =>
        (performAll controls calls after).bind fun (outcomes, final) =>
          .ret (outcome :: outcomes, final)

section Sessions

variable (agree : StorageEngine.Agree first second Paired) {room : Nat} {store : Store Engine}
  {world : World} {copy : Store Twin} {other : Other}

include agree

/-- Every write leads to the same write. -/
theorem WriteCall.leads_perform (call : WriteCall)
    (alike : store.Alike (Paired (room + 1)) world copy other) :
    call.perform.Leads first second (fun _ => Store.Alike (Paired room)) call.perform store world
      copy other := by
  cases call with
  | appendFrame payload => exact Action.leads_map (Store.leads_appendFrameVerdict agree alike)
  | appendEnvelope envelope =>
      exact Action.leads_map (Store.leads_appendEnvelopeVerdict agree envelope alike)
  | appendToFiber fiberId eventId payload =>
      exact Action.leads_map (Store.leads_lifecycleWrite agree _ fiberId alike)
  | detachFiber fiberId eventId payload =>
      exact Action.leads_map (Store.leads_lifecycleWrite agree _ fiberId alike)
  | rescueFiber fiberId eventId payload =>
      exact Action.leads_map (Store.leads_lifecycleWrite agree _ fiberId alike)

/-- Every read leads to the same read. -/
theorem ReadCall.leads_perform (call : ReadCall τ)
    (alike : store.Alike (Paired room) world copy other) :
    call.perform.Leads first second (fun _ => Store.Alike (Paired room)) call.perform store world
      copy other := by
  cases call with
  | isRetiredSource => exact Action.leads_map (Store.leads_isRetiredSource agree alike)
  | readBlock index => exact Action.leads_map (Store.leads_readBlock agree index alike)
  | readAllFrames => exact Action.leads_map (Store.leads_readAllFrames agree alike)
  | readAllEnvelopes =>
      exact Action.leads_map (Store.leads_readAllEnvelopesInner agree false alike)
  | readAllEnvelopesForMigration =>
      exact Action.leads_map (Store.leads_readAllEnvelopesInner agree true alike)
  | forEachEnvelope visit caller =>
      exact Action.leads_map (Store.leads_forEachEnvelope agree visit caller alike)

variable {Control : Type} {controls : Control → Action S OperationFailure Engine Unit}
  {shadow : Control → Action T OperationFailure Twin Unit}
  (steers : ∀ {room engine world twin other} command, Paired room engine world twin other →
    (controls command).Leads first second (fun _ => Paired room) (shadow command) engine world twin
      other)

include steers

/-- Every call of a session leads to the same call. -/
theorem SessionCall.leads_perform (call : SessionCall Control τ)
    (alike : store.Alike (Paired (room + 1)) world copy other) :
    (call.perform controls).Leads first second (fun _ => Store.Alike (Paired room))
      (call.perform shadow) store world copy other := by
  have fewer := alike.fewer agree
  cases call with
  | write call => exact Action.leads_map (call.leads_perform agree alike)
  | sync => exact Action.leads_map (Store.leads_onEngine agree.sync fewer)
  | fiber fiberId =>
      refine Action.leads_get_bind ?_
      obtain ⟨twin, rfl, paired⟩ := id fewer
      rw [Store.fiber_withEngine (agree.uncertainDiagnostic paired)]
      exact Action.leads_ofExcept_bind (fun _ _ => fewer) fun _ _ => Action.leads_pure fewer
  | getLatest fiberId =>
      refine Action.leads_get_bind ?_
      obtain ⟨twin, rfl, paired⟩ := id fewer
      rw [Store.getLatest_withEngine (agree.uncertainDiagnostic paired)]
      exact Action.leads_ofExcept_bind (fun _ _ => fewer) fun _ _ => Action.leads_pure fewer
  | read call => exact Action.leads_map (call.leads_perform agree fewer)
  | control command => exact Action.leads_map (Store.leads_onEngine (steers command) fewer)

/-- So does a whole session, as long as there is room for an event of every call. -/
theorem SessionCall.leads_performAll (calls : List (SessionCall Control τ))
    (alike : store.Alike (Paired (room + calls.length)) world copy other) :
    (performAll controls calls store).Leads first second (fun result later reply final =>
      result.1 = reply.1 ∧ result.2.Alike (Paired room) later reply.2 final)
      (performAll shadow calls copy) world other := by
  induction calls generalizing store world copy other with
  | nil => exact ⟨_, _, .ret, rfl, alike⟩
  | cons call calls ih =>
      have begins : store.Alike (Paired (room + calls.length + 1)) world copy other := alike
      refine Program.leads_bind (call.leads_perform agree steers begins) ?_
      rintro ⟨outcome, after⟩ later ⟨_, copy'⟩ final ⟨rfl, kept⟩
      refine Program.leads_bind (ih kept) ?_
      rintro ⟨outcomes, last⟩ ended ⟨_, copied⟩ done ⟨rfl, still⟩
      exact ⟨_, _, .ret, rfl, still⟩

end Sessions

end Pardosa
