import Pardosa.Store.Session

/-!
# Signs of another owner

A refusal that names another owner comes from the engine alone. The break that a
store retains is one of the recovered data: no call of a session leaves a sign of
another owner behind as the reason of later refusals.
-/

namespace Pardosa

open Foundation

/-- A failure that is no sign of another owner. -/
abbrev OperationFailure.Ordinary (failure : OperationFailure) : Prop :=
  failure.condition.isDivergence = false

/-- The retained break is no sign of another owner, and a store with a diagnostic
of its own knows that it is uncertain. -/
structure Store.Regular {Engine : Type} (store : Store Engine) : Prop where
  breaks : ∀ cause, store.brokenReaderCause = some cause → cause.isDivergence = false
  told : store.uncertainDiagnostic.isSome = true → store.uncertain = true

section Recovery

variable {S : Signature} {World : Type}

/-- A recovery that has gone on so far, or stopped with a failure. -/
def Handed {σ α : Type} (going : σ → Prop) (stopped : OperationFailure → σ → Prop)
    (outcome : Except OperationFailure α) (captured : σ) : Prop :=
  match outcome with
  | .ok _ => going captured
  | .error failure => stopped failure captured

/-- A recovery fails as its callback does, or without a sign of another owner. -/
def RecoversOrdinarily (Engine : Type) [StorageEngine S Engine]
    (setting : Setting S World) : Prop :=
  ∀ {σ : Type} (onFrame : FrameRecoveryCallback σ) {going : σ → Prop}
    {stopped : OperationFailure → σ → Prop},
    (∀ failure captured, failure.Ordinary → going captured → stopped failure captured) →
    (∀ position frame captured, going captured →
      Handed going stopped (onFrame position frame captured).1
        (onFrame position frame captured).2) →
    ∀ (engine : Engine) (captured : σ) (world : World), going captured →
      (StorageEngine.recoverFrames 64 onFrame).wp setting
        (fun outcome after _ => Handed going stopped outcome after.2) (engine, captured) world

end Recovery

namespace Store.ForEachCapture

variable {τ : Type}

/-- Nothing has stopped an iteration so far. -/
def Going (captured : ForEachCapture τ) : Prop :=
  captured.brokenError = none ∧ captured.callbackError = none

/-- An iteration stopped with a failure: the caller's, or an ordinary one. -/
def Stopped (failure : OperationFailure) (captured : ForEachCapture τ) : Prop :=
  captured.callbackError.isSome = true ∨
    failure.Ordinary ∧ ∀ broken, captured.brokenError = some broken → broken.Ordinary

/-- An iteration that was going is stopped by the failure that comes. -/
theorem Going.stopped {failure : OperationFailure} {captured : ForEachCapture τ}
    (ordinary : failure.Ordinary) (going : captured.Going) : captured.Stopped failure := by
  refine Or.inr ⟨ordinary, ?_⟩
  rw [going.1]
  rintro _ ⟨⟩

/-- An iteration that has noted a break is stopped by it. -/
theorem stopped_broken {failure : OperationFailure} (captured : ForEachCapture τ)
    (ordinary : failure.Ordinary) :
    Stopped failure { captured with brokenError := some failure } := by
  refine Or.inr ⟨ordinary, ?_⟩
  rintro _ ⟨⟩
  exact ordinary

end Store.ForEachCapture

variable [Digests] {S : Signature} {Engine World Control τ : Type}

/-- Every frame leaves an iteration going, or stops it with the caller's failure or
an ordinary one. -/
theorem Store.forEachFrame_handed (visit : EventEnvelopeRef → τ → Except OperationFailure Unit × τ)
    (position : Nat) (frame : Bytes) (captured : ForEachCapture τ) (going : captured.Going) :
    Handed ForEachCapture.Going ForEachCapture.Stopped
      (forEachFrame visit position frame captured).1
        (forEachFrame visit position frame captured).2 := by
  unfold forEachFrame
  by_cases short : frame.length < 85
  · rw [if_pos short]
    exact ForEachCapture.stopped_broken captured rfl
  rw [if_neg short]
  cases EventEnvelopeRef.decode frame with
  | error failure => exact ForEachCapture.stopped_broken captured rfl
  | ok found =>
      obtain ⟨view, consumed⟩ := found
      dsimp only
      by_cases rest : consumed ≠ frame.length
      · rw [if_pos rest]
        exact ForEachCapture.stopped_broken captured rfl
      rw [if_neg rest]
      cases validated : captured.validationIndex.validateAppend view.toOwned with
      | error failure =>
          exact ForEachCapture.stopped_broken captured (SessionIndex.validateAppend_error validated)
      | ok =>
          dsimp only
          cases encoded : reencode frame with
          | error failure =>
              have ordinary : failure.Ordinary := by
                unfold reencode at encoded
                cases framed : ContainerFrame.encodePayload frame with
                | error refused =>
                    rw [framed] at encoded
                    cases encoded
                    rfl
                | ok block =>
                    rw [framed] at encoded
                    cases encoded
              exact ForEachCapture.Going.stopped ordinary going
          | ok block =>
              dsimp only
              cases visit view captured.caller with
              | mk result caller =>
                  cases result with
                  | ok => exact going
                  | error failure => exact Or.inl rfl

namespace Store

variable {store : Store Engine}

section Parts

omit [Digests]

/-- Retaining a break keeps a store regular. -/
theorem Regular.retainBreak (regular : store.Regular) (failure : OperationFailure) :
    (store.retainBreak failure).Regular := by
  unfold Store.retainBreak
  split_ifs with breaks
  · refine ⟨?_, regular.told⟩
    rintro cause ⟨⟩
    cases condition : failure.condition <;> rw [condition] at breaks <;> trivial
  · exact regular

/-- So does the end of an iteration, stopped or gone through. -/
theorem Regular.concludeIteration (regular : store.Regular) {captured : ForEachCapture τ}
    {outcome : Except OperationFailure Nat}
    (stopped : ∀ failure, outcome = .error failure → captured.Stopped failure)
    (going : ∀ count, outcome = .ok count → captured.Going) :
    (Store.concludeIteration outcome captured store).2.Regular := by
  unfold Store.concludeIteration
  cases outcome with
  | ok count =>
      obtain ⟨noBreak, noFailure⟩ := going count rfl
      rw [noBreak, noFailure]
      exact ⟨nofun, regular.told⟩
  | error failure =>
      cases caller : captured.callbackError with
      | some refused => exact regular
      | none =>
          rcases stopped failure rfl with theirs | ⟨ordinary, breaks⟩
          · rw [caller] at theirs
            cases theirs
          cases broken : captured.brokenError with
          | some cause =>
              refine ⟨?_, regular.told⟩
              rintro _ ⟨⟩
              exact breaks cause broken
          | none =>
              dsimp only
              split_ifs with transport
              · exact regular
              · refine ⟨?_, regular.told⟩
                rintro _ ⟨⟩
                exact ordinary

variable [StorageEngine S Engine]

/-- A regular store refuses as it does without a sign of another owner. -/
theorem Regular.refusal (regular : store.Regular) {failure : OperationFailure}
    (refusal : store.Refusal failure) : failure.Ordinary := by
  rcases refusal with ordinary | retained
  · exact ordinary
  · exact regular.breaks _ retained

/-- A regular store that is certain has no diagnostic. -/
theorem Regular.sessionDiagnostic (regular : store.Regular) (certain : store.isUncertain = false) :
    store.sessionDiagnostic = none := by
  obtain ⟨own, theirs⟩ := Bool.or_eq_false_iff.mp certain
  have silent : store.uncertainDiagnostic = none := by
    cases told : store.uncertainDiagnostic with
    | none => rfl
    | some diagnostic =>
        have uncertain := regular.told (by rw [told]; rfl)
        rw [own] at uncertain
        cases uncertain
  unfold Store.sessionDiagnostic
  rw [silent]
  exact Option.isNone_iff_eq_none.mp (by simpa using theirs)

end Parts

variable [StorageEngine S Engine] {setting : Setting S World} {world : World}
  (promised : ∀ before after, setting.guar before after)

include promised

/-- Reading all frames keeps a store regular. -/
theorem wp_readAllFrames_regular (regular : store.Regular) :
    readAllFrames.wp setting (fun _ after _ => after.Regular) store world := by
  simp only [readAllFrames, Action.wp_bind, Action.wp_attempt, wp_onEngine]
  refine Action.wp_of_forall promised ?_
  rintro (failure | frames) engine later
  · have kept : ({ store with engine } : Store Engine).Regular := ⟨regular.breaks, regular.told⟩
    exact kept.retainBreak failure
  · simp only [Action.wp_bind, Action.wp_ofExcept]
    cases rollingOf .new frames with
    | error failure => exact ⟨regular.breaks, regular.told⟩
    | ok rolling => exact ⟨regular.breaks, regular.told⟩

/-- So does reading all envelopes, for a migration or not. -/
theorem wp_readAllEnvelopesInner_regular (forMigration : Bool) (regular : store.Regular) :
    (readAllEnvelopesInner forMigration).wp setting
      (fun _ after _ => after.Regular) store world := by
  have body : (readAllEnvelopesBody forMigration).wp setting (fun _ after _ => after.Regular) store
      world := by
    simp only [readAllEnvelopesBody, Action.wp_bind, Action.wp_ofExcept]
    refine Action.wp_mono (wp_readAllFrames_regular promised regular) ?_
    rintro (failure | frames) after later kept
    · exact kept
    dsimp only
    cases refuseShortFrames frames with
    | error failure => exact kept
    | ok =>
        dsimp only
        cases SessionIndex.buildFromFrames frames with
        | error failure => exact kept
        | ok index =>
            dsimp only
            split_ifs with broken
            · exact ⟨kept.breaks, kept.told⟩
            · simp only [Action.wp_bind, Action.wp_ofExcept]
              cases decodeFrames frames with
              | error failure => exact kept
              | ok envelopes => exact ⟨kept.breaks, kept.told⟩
  simp only [readAllEnvelopesInner, Action.wp_bind, Action.wp_get]
  split
  · exact regular
  · simp only [Action.wp_bind, Action.wp_attempt]
    refine Action.wp_mono body ?_
    rintro (failure | envelopes) after later kept
    · exact kept.retainBreak failure
    · exact kept

omit promised in
/-- So does visiting them, over an engine that recovers in the ordinary way. -/
theorem wp_forEachEnvelope_regular (recovers : RecoversOrdinarily Engine setting)
    (visit : EventEnvelopeRef → τ → Except OperationFailure Unit × τ) (caller : τ)
    (regular : store.Regular) :
    (forEachEnvelope visit caller).wp setting (fun _ after _ => after.Regular) store world := by
  have iterates : (iterateEnvelopes visit caller).wp setting (fun _ after _ => after.Regular) store
      world := by
    simp only [iterateEnvelopes, Action.wp_bind, Action.wp_get, Action.wp_ofExcept]
    cases store.checkIteration with
    | error failure => exact regular
    | ok =>
        let fresh : ForEachCapture τ := ⟨.new, .new, none, none, caller⟩
        have going : fresh.Going := ⟨rfl, rfl⟩
        have ordinarily : ∀ failure (captured : ForEachCapture τ), failure.Ordinary →
            captured.Going → captured.Stopped failure :=
              fun _ _ ordinary still => still.stopped ordinary
        have recovery := recovers (forEachFrame visit) ordinarily (forEachFrame_handed visit)
          store.engine fresh world going
        refine wp_recoverOn (Action.wp_mono recovery ?_)
        rintro outcome ⟨engine, captured⟩ later recovered
        have kept : ({ store with engine } : Store Engine).Regular := ⟨regular.breaks, regular.told⟩
        refine kept.concludeIteration ?_ ?_
        · rintro failure rfl
          exact recovered
        · rintro count rfl
          exact recovered
  simp only [forEachEnvelope, Action.wp_bind, Action.wp_ofExcept]
  refine Action.wp_mono iterates ?_
  rintro (failure | ⟨result, caller⟩) after later kept
  · exact kept
  · cases result with
    | error failure => exact kept
    | ok => exact kept

end Store

variable [StorageEngine S Engine] {setting : Setting S World} {store : Store Engine} {world : World}
  (promised : ∀ before after, setting.guar before after)

include promised

/-- Every write leaves a regular store. -/
theorem WriteCall.wp_perform_regular (call : WriteCall) (regular : store.Regular) :
    call.perform.wp setting (fun _ after _ => after.Regular) store world := by
  refine call.wp_perform trivial ?_ ?_ ?_ (J := fun _ _ => True)
  · intro checks before _ _
    refine Program.wp_of_forall promised ?_
    rintro (failure | _) after
    · exact regular
    · trivial
  · intro checks before failure _ _
    exact regular
  · intro before envelope payload _ _ _
    refine Action.wp_of_forall promised ?_
    rintro (failure | verdict) engine later
    · exact ⟨regular.breaks, regular.told⟩
    · cases verdict with
      | landed position => exact ⟨regular.breaks, regular.told⟩
      | undetermined carriedEpoch => exact ⟨regular.breaks, fun _ => rfl⟩

/-- So does every read. -/
theorem ReadCall.wp_perform_regular (recovers : RecoversOrdinarily Engine setting)
    (call : ReadCall τ) (regular : store.Regular) :
    call.perform.wp setting (fun _ after _ => after.Regular) store world := by
  cases call with
  | isRetiredSource =>
      refine (Action.wp_map _).mpr ?_
      simp only [Store.isRetiredSource, Action.wp_bind, Action.wp_get, Action.wp_lift,
        Action.wp_ofExcept]
      exact Program.wp_of_forall promised fun _ _ => regular
  | readBlock index =>
      refine (Action.wp_map _).mpr ((Store.wp_onEngine _).mpr ?_)
      exact Action.wp_of_forall promised fun _ _ _ => ⟨regular.breaks, regular.told⟩
  | readAllFrames =>
      exact (Action.wp_map _).mpr (Store.wp_readAllFrames_regular promised regular)
  | readAllEnvelopes =>
      exact (Action.wp_map _).mpr (Store.wp_readAllEnvelopesInner_regular promised false regular)
  | readAllEnvelopesForMigration =>
      exact (Action.wp_map _).mpr (Store.wp_readAllEnvelopesInner_regular promised true regular)
  | forEachEnvelope visit caller =>
      exact (Action.wp_map _).mpr (Store.wp_forEachEnvelope_regular recovers visit caller regular)

/-- So does every call of a session. -/
theorem SessionCall.wp_perform_regular (recovers : RecoversOrdinarily Engine setting)
    {controls : Control → Action S OperationFailure Engine Unit} (call : SessionCall Control τ)
    (regular : store.Regular) :
    (call.perform controls).wp setting (fun _ after _ => after.Regular) store world := by
  cases call with
  | write call => exact (Action.wp_map _).mpr (call.wp_perform_regular promised regular)
  | sync =>
      refine (Action.wp_map _).mpr ((Store.wp_onEngine _).mpr ?_)
      exact Action.wp_of_forall promised fun _ _ _ => ⟨regular.breaks, regular.told⟩
  | fiber fiberId =>
      simp only [SessionCall.perform, Action.wp_bind, Action.wp_get, Action.wp_ofExcept]
      cases store.fiber fiberId with
      | error failure => exact regular
      | ok handle => exact regular
  | getLatest fiberId =>
      simp only [SessionCall.perform, Action.wp_bind, Action.wp_get, Action.wp_ofExcept]
      cases store.getLatest fiberId with
      | error failure => exact regular
      | ok latest => exact regular
  | read call => exact (Action.wp_map _).mpr (call.wp_perform_regular promised recovers regular)
  | control command =>
      refine (Action.wp_map _).mpr ((Store.wp_onEngine _).mpr ?_)
      exact Action.wp_of_forall promised fun _ _ _ => ⟨regular.breaks, regular.told⟩

end Pardosa
