import Pardosa.Foundation.Trace
import Pardosa.Store.Reads

/-!
# Writer sessions

A session is a store together with the calls that its owner makes on it, one
after the other. An engine that is fenced, and whose reads and controls leave it
so, fences the session for good: every call that could write, synchronize or
look up is refused before it performs any operation.
-/

namespace Pardosa

open Foundation

/-- What the owner of a session may ask of it. Controls are those of its engine. -/
inductive SessionCall (Control τ : Type) where
  | write (call : WriteCall)
  | sync
  | fiber (fiberId : Id)
  | getLatest (fiberId : Id)
  | read (call : ReadCall τ)
  | control (command : Control)

/-- What a session call returns. -/
inductive SessionReply (τ : Type) where
  | verdict (verdict : WriteLandingVerdict WriteReceipt)
  | done
  | handle (handle : FiberHandle)
  | latest (envelope : Option EventEnvelope)
  | read (reply : ReadReply τ)

/-- The calls that an uncertain session has to refuse. -/
def SessionCall.isGuarded {Control τ : Type} : SessionCall Control τ → Bool
  | .write _ | .sync | .fiber _ | .getLatest _ => true
  | .read _ | .control _ => false

/-- One call of a session with its outcome and the operations it performed. -/
structure SessionEvent (S : Signature) (Control τ : Type) where
  call : SessionCall Control τ
  outcome : Except OperationFailure (SessionReply τ)
  performed : List (Σ op : S.Op, S.Res op)

variable [Digests] {S : Signature} {Engine World Control τ : Type} [StorageEngine S Engine]

/-- Perform a call on a store, given the controls of its engine. -/
def SessionCall.perform (controls : Control → Action S OperationFailure Engine Unit) :
    SessionCall Control τ → Action S OperationFailure (Store Engine) (SessionReply τ)
  | .write call => do
      let verdict ← call.perform
      pure (.verdict verdict)
  | .sync => do
      Store.sync
      pure .done
  | .fiber fiberId => do
      let store ← get
      let handle ← Action.ofExcept (store.fiber fiberId)
      pure (.handle handle)
  | .getLatest fiberId => do
      let store ← get
      let latest ← Action.ofExcept (store.getLatest fiberId)
      pure (.latest latest)
  | .read call => do
      let reply ← call.perform
      pure (.read reply)
  | .control command => do
      Store.onEngine (controls command)
      pure .done

/-- One call of a session in a setting. -/
def SessionStep (setting : Setting S World)
    (controls : Control → Action S OperationFailure Engine Unit)
    (before : Store Engine × World) (event : SessionEvent S Control τ)
    (after : Store Engine × World) : Prop :=
  (event.call.perform controls).Runs setting.recording before.1 (before.2, []) event.outcome
    after.1 (after.2, event.performed)

section Refusal

variable {store : Store Engine}

omit [Digests] in
/-- An uncertain session has no authority. -/
theorem Store.checkSessionAuthority_uncertain (uncertain : store.isUncertain = true) :
    checkSessionAuthority store = .ret (.error store.uncertainFailure, store) :=
  (Action.bind_of_ok rfl).trans (Action.bind_of_error (Action.refuseIf_of_holds _ _ uncertain))

/-- An uncertain session refuses a raw frame before anything is performed. -/
theorem Store.appendFrameVerdict_uncertain (payload : Bytes)
    (uncertain : store.isUncertain = true) :
    ∃ failure, appendFrameVerdict payload store = .ret (.error failure, store) := by
  by_cases long : payload.length > u32Max
  · exact ⟨_, Action.bind_of_error (Action.bind_of_error (Action.refuseIf_of_holds _ _ long))⟩
  · refine ⟨store.uncertainFailure, Action.bind_of_error ?_⟩
    unfold admitFrame
    rw [Action.bind_of_ok (Action.refuseIf_of_not _ _ long)]
    exact Action.bind_of_error (checkSessionAuthority_uncertain uncertain)

/-- An uncertain session refuses an envelope before anything is performed. -/
theorem Store.appendEnvelopeVerdict_uncertain (envelope : EventEnvelope)
    (uncertain : store.isUncertain = true) :
    ∃ failure, appendEnvelopeVerdict envelope store = .ret (.error failure, store) := by
  unfold appendEnvelopeVerdict
  cases WireEnvelope.tryFrom envelope with
  | error refused => exact ⟨_, Action.bind_of_error rfl⟩
  | ok wire =>
      obtain ⟨failure, refused⟩ := appendFrameVerdict_uncertain wire.encode uncertain
      refine ⟨failure, ?_⟩
      rw [Action.bind_of_ok rfl]
      exact refused

/-- An uncertain session refuses every write before it performs anything. -/
theorem WriteCall.perform_uncertain (call : WriteCall) (uncertain : store.isUncertain = true) :
    ∃ failure, call.perform store = .ret (.error failure, store) := by
  have lifecycle : ∀ mint fiberId, Store.lifecycleWrite mint fiberId store =
      .ret (.error store.uncertainFailure, store) := fun _ _ =>
    Action.bind_of_error (Store.checkSessionAuthority_uncertain uncertain)
  cases call with
  | appendFrame payload =>
      obtain ⟨failure, refused⟩ := Store.appendFrameVerdict_uncertain payload uncertain
      exact ⟨failure, Action.bind_of_error refused⟩
  | appendEnvelope envelope =>
      obtain ⟨failure, refused⟩ := Store.appendEnvelopeVerdict_uncertain envelope uncertain
      exact ⟨failure, Action.bind_of_error refused⟩
  | appendToFiber fiberId eventId payload => exact ⟨_, Action.bind_of_error (lifecycle _ fiberId)⟩
  | detachFiber fiberId eventId payload => exact ⟨_, Action.bind_of_error (lifecycle _ fiberId)⟩
  | rescueFiber fiberId eventId payload => exact ⟨_, Action.bind_of_error (lifecycle _ fiberId)⟩

omit [Digests] in
/-- An uncertain session refuses point lookups. -/
theorem Store.checkPointLookup_uncertain (uncertain : store.isUncertain = true) :
    store.checkPointLookup = .error store.uncertainFailure := if_pos uncertain

end Refusal

/-- What a fenced engine owes so that its session stays fenced. -/
structure Fencing (setting : Setting S World)
    (controls : Control → Action S OperationFailure Engine Unit)
    (Inv : Engine → World → Prop) : Prop where
  diagnosed : ∀ {engine world}, Inv engine world →
    (StorageEngine.uncertainDiagnostic engine).isSome = true
  sync : ∀ {engine world}, Inv engine world →
    ∃ failure, StorageEngine.sync engine = .ret (.error failure, engine)
  reads : ReadsKeep setting Inv
  control : ∀ command {engine world}, Inv engine world →
    (controls command).wp setting (fun _ after later => Inv after later) engine world

variable {setting : Setting S World} {guar : World → World → Prop}
  {controls : Control → Action S OperationFailure Engine Unit} {Inv : Engine → World → Prop}
  {store : Store Engine} {world : World}

/-- A fenced session refuses every guarded call before it performs anything. -/
theorem SessionCall.perform_fenced (fencing : Fencing setting controls Inv)
    (holds : Inv store.engine world) {call : SessionCall Control τ}
    (guarded : call.isGuarded = true) :
    ∃ failure, call.perform controls store = .ret (.error failure, store) := by
  have uncertain : store.isUncertain = true := by
    unfold Store.isUncertain
    rw [fencing.diagnosed holds, Bool.or_true]
  have lookup := Store.checkPointLookup_uncertain uncertain
  cases call with
  | write call =>
      obtain ⟨failure, refused⟩ := call.perform_uncertain uncertain
      exact ⟨failure, Action.bind_of_error refused⟩
  | sync =>
      obtain ⟨failure, refused⟩ := fencing.sync holds
      have stopped : Store.sync store = .ret (.error failure, store) := by
        unfold Store.sync Store.onEngine Action.on
        rw [refused]
        rfl
      exact ⟨failure, Action.bind_of_error stopped⟩
  | fiber fiberId =>
      have refused : store.fiber fiberId = .error store.uncertainFailure := by
        unfold Store.fiber
        rw [lookup]
        rfl
      refine ⟨store.uncertainFailure, (Action.bind_of_ok rfl).trans (Action.bind_of_error ?_)⟩
      rw [refused]
      rfl
  | getLatest fiberId =>
      have refused : store.getLatest fiberId = .error store.uncertainFailure := by
        unfold Store.getLatest
        rw [lookup]
        rfl
      refine ⟨store.uncertainFailure, (Action.bind_of_ok rfl).trans (Action.bind_of_error ?_)⟩
      rw [refused]
      rfl
  | read call => cases guarded
  | control command => cases guarded

/-- Every call leaves a fenced session fenced. -/
theorem SessionCall.wp_perform_fenced (fencing : Fencing setting controls Inv)
    (holds : Inv store.engine world) (call : SessionCall Control τ) :
    (call.perform controls).wp setting (fun _ after later => Inv after.engine later)
      store world := by
  by_cases guarded : call.isGuarded = true
  · obtain ⟨failure, refused⟩ := SessionCall.perform_fenced fencing holds guarded
    unfold Action.wp
    rw [refused]
    exact holds
  · cases call with
    | read call =>
        refine (Action.wp_map _).mpr (Action.wp_mono (call.wp_perform_keeps fencing.reads holds) ?_)
        rintro outcome after later ⟨kept, -, -⟩
        exact kept
    | control command =>
        refine (Action.wp_map _).mpr ((Store.wp_onEngine _).mpr ?_)
        exact fencing.control command holds
    | write call => exact (guarded rfl).elim
    | sync => exact (guarded rfl).elim
    | fiber fiberId => exact (guarded rfl).elim
    | getLatest fiberId => exact (guarded rfl).elim

/-- A guarded call that was refused before it performed anything. -/
def SessionEvent.Refused (event : SessionEvent S Control τ) : Prop :=
  (∃ failure, event.outcome = .error failure) ∧ event.performed = []

/-- A session that is fenced after some calls, and has refused every guarded one
among them. -/
def StaysFenced (Inv : Engine → World → Prop) (events : List (SessionEvent S Control τ))
    (state : Store Engine × World) : Prop :=
  Inv state.1.engine state.2 ∧ ∀ event ∈ events, event.call.isGuarded = true → event.Refused

/-- Every call of a fenced session leaves it fenced. -/
theorem StaysFenced.step (fencing : Fencing (setting.promising guar) controls Inv)
    {past : List (SessionEvent S Control τ)} {event : SessionEvent S Control τ}
    {state next : Store Engine × World} (stays : StaysFenced Inv past state)
    (step : SessionStep setting controls state event next) :
    StaysFenced Inv (past ++ [event]) next := by
  obtain ⟨holds, refused⟩ := stays
  obtain ⟨after, later⟩ := next
  have promised : (event.call.perform controls).Runs (setting.promising guar).recording state.1
      (state.2, []) event.outcome after (later, event.performed) :=
    Program.runs_recording_promising guar step
  constructor
  · exact Action.wp_of_runs promised
      (Action.wp_recording (event.call.wp_perform_fenced fencing holds))
  · intro other member guarded
    rcases List.mem_append.mp member with earlier | this
    · exact refused other earlier guarded
    cases List.mem_singleton.mp this
    obtain ⟨failure, stopped⟩ := SessionCall.perform_fenced fencing holds guarded
    unfold Action.Runs at promised
    rw [stopped] at promised
    unfold SessionEvent.Refused
    generalize event.outcome = outcome at promised ⊢
    generalize event.performed = performed at promised ⊢
    cases promised
    exact ⟨⟨failure, rfl⟩, rfl⟩

/-- A fenced session stays fenced through every run. -/
theorem Fencing.forever (fencing : Fencing (setting.promising guar) controls Inv)
    {final : Store Engine × World} {events : List (SessionEvent S Control τ)}
    (start : Inv store.engine world)
    (run : Trace (SessionStep setting controls) (store, world) events final) :
    StaysFenced Inv events final := by
  have fenced : StaysFenced Inv ([] : List (SessionEvent S Control τ)) (store, world) :=
    ⟨start, by simp⟩
  exact run.invariant fenced fun stays step => stays.step fencing step

end Pardosa
