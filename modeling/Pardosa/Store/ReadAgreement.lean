import Pardosa.Store.WholeHistory

/-!
# The whole-history reads agree

Streaming and collecting succeed on the same histories, with the same list and
the same session afterwards, and a fold is the fold of that list.
-/

namespace Pardosa

open Foundation

section Agreement

variable [Digests] {τ : Type} {S : Signature} {Engine World : Type} [StorageEngine S Engine]
  {setting : Setting S World} {store : Store Engine} {world : World}
  {contents : Except OperationFailure (List Bytes)}
  {visit : EventEnvelopeRef → τ → Except OperationFailure Unit × τ} {caller : τ}

/-- What is seen of a callback from outside: its own state, the envelopes it was
handed and its last refusal. -/
structure Observed (τ : Type) where
  caller : τ
  delivered : List EventEnvelope
  refusal : Option OperationFailure

/-- A callback under observation. -/
def observing (visit : EventEnvelopeRef → τ → Except OperationFailure Unit × τ) :
    EventEnvelopeRef → Observed τ → Except OperationFailure Unit × Observed τ :=
  fun view seen => match visit view seen.caller with
    | (.ok (), caller) => (.ok (), ⟨caller, seen.delivered ++ [view.toOwned], seen.refusal⟩)
    | (.error failure, caller) =>
        (.error failure, ⟨caller, seen.delivered ++ [view.toOwned], some failure⟩)

omit [Digests] in
/-- A callback that never refuses is handed everything. -/
theorem visitAll_observing (visit : EventEnvelopeRef → τ → τ) (envelopes : List EventEnvelope)
    (seen : Observed τ) :
    ∃ final, visitAll (observing fun view state => (.ok (), visit view state)) envelopes seen =
        (.ok (), final) ∧ final.delivered = seen.delivered ++ envelopes := by
  induction envelopes generalizing seen with
  | nil => exact ⟨seen, rfl, (List.append_nil _).symm⟩
  | cons envelope envelopes ih =>
      obtain ⟨final, visited, delivered⟩ :=
        ih ⟨visit envelope.view seen.caller, seen.delivered ++ [envelope], seen.refusal⟩
      refine ⟨final, visited, ?_⟩
      rw [delivered, List.append_assoc]
      rfl

omit [Digests] in
/-- An observed delivery stops exactly at a refusal of the callback. -/
theorem visitAll_observing_refusal (visit : EventEnvelopeRef → τ → Except OperationFailure Unit × τ)
    (envelopes : List EventEnvelope) {seen final : Observed τ}
    {outcome : Except OperationFailure Unit} (quiet : seen.refusal = none)
    (visited : visitAll (observing visit) envelopes seen = (outcome, final)) :
    outcome = match final.refusal with
      | none => .ok ()
      | some failure => .error failure := by
  induction envelopes generalizing seen with
  | nil =>
      cases visited
      rw [quiet]
  | cons envelope envelopes ih =>
      unfold visitAll observing at visited
      cases answered : visit envelope.view seen.caller with
      | mk answer caller =>
          cases answer with
          | error failure =>
              simp only [answered] at visited
              cases visited
              rfl
          | ok =>
              simp only [answered] at visited
              refine ih ?_ visited
              exact quiet

omit [Digests] in
/-- Folding through the accumulator is the fold; the accumulator is always back
before the next step. -/
theorem visitAll_foldVisit {β : Type} (step : β → EventEnvelopeRef → Except OperationFailure β)
    (envelopes : List EventEnvelope) (init : β) :
    visitAll (Store.foldVisit step) envelopes (.present init) =
      match envelopes.foldlM (fun acc envelope => step acc envelope.view) init with
      | .ok value => (.ok (), .present value)
      | .error failure => (.error failure, .taken) := by
  induction envelopes generalizing init with
  | nil => rfl
  | cons envelope envelopes ih =>
      rw [List.foldlM_cons]
      cases stepped : step init envelope.view with
      | error failure => simp only [visitAll, Store.foldVisit, stepped, error_bind]
      | ok next =>
          simp only [visitAll, Store.foldVisit, stepped, ok_bind]
          exact ih next

omit [Digests] in
/-- A fold that goes through is the fold of the list. -/
theorem visitAll_foldVisit_ok {β : Type} {step : β → EventEnvelopeRef → Except OperationFailure β}
    {envelopes : List EventEnvelope} {init : β} {final : Store.Accumulator β}
    (visited : visitAll (Store.foldVisit step) envelopes (.present init) = (.ok (), final)) :
    ∃ value, envelopes.foldlM (fun acc envelope => step acc envelope.view) init = .ok value ∧
      final = .present value := by
  rw [visitAll_foldVisit] at visited
  split at visited
  · cases visited
    exact ⟨_, ‹_›, rfl⟩
  · cases visited

omit [Digests] in
/-- A fold that fails is the failing fold of the list. -/
theorem visitAll_foldVisit_error {β : Type}
    {step : β → EventEnvelopeRef → Except OperationFailure β} {envelopes : List EventEnvelope}
    {init : β} {final : Store.Accumulator β} {failure : OperationFailure}
    (visited : visitAll (Store.foldVisit step) envelopes (.present init) =
      (.error failure, final)) :
    envelopes.foldlM (fun acc envelope => step acc envelope.view) init = .error failure ∧
      final = .taken := by
  rw [visitAll_foldVisit] at visited
  split at visited
  · cases visited
  · cases visited
    exact ⟨‹_›, rfl⟩

/-- The two whole-history reads of a store agree. -/
structure Store.ReadsAgree (setting : Setting S World) (store : Store Engine) (world : World) :
    Prop where
  /-- An iteration whose callback never refuses delivers a list exactly when the
  read returns it, and both leave the same session. -/
  success : ∀ {τ : Type} (visit : EventEnvelopeRef → τ → τ) (caller : τ)
    {streamed : Except OperationFailure (Observed τ)}
    {read : Except OperationFailure (List EventEnvelope)} {iterated collected : Store Engine}
    {later final : World},
    (forEachEnvelope (observing fun view state => (.ok (), visit view state))
      ⟨caller, [], none⟩).Runs setting store world streamed iterated later →
    readAllEnvelopes.Runs setting store world read collected final →
    ∀ envelopes,
      ((∃ seen, streamed = .ok seen ∧ seen.delivered = envelopes) ↔ read = .ok envelopes) ∧
      (read = .ok envelopes →
        iterated.fiberIndex = collected.fiberIndex ∧
        iterated.rollingCommitment = collected.rollingCommitment ∧
        iterated.brokenReaderCause = none ∧ collected.brokenReaderCause = none)
  /-- A fold never panics, and over a history the read returns it is the fold of
  that list, up to the first failing step. -/
  fold : ∀ {β : Type} (init : β) (step : β → EventEnvelopeRef → Except OperationFailure β)
    {folded : Except FoldStop β} {after : Store Engine} {later : World},
    (foldEnvelopes init step).Runs setting store world folded after later →
    (∀ message, folded ≠ .error (.panicked message)) ∧
    ∀ {envelopes : List EventEnvelope} {collected : Store Engine} {final : World},
      readAllEnvelopes.Runs setting store world (.ok envelopes) collected final →
      folded = match envelopes.foldlM (fun acc envelope => step acc envelope.view) init with
        | .ok value => .ok value
        | .error failure => .error (.failed failure)
  /-- A refusal of the callback is what the iteration returns, and it leaves the
  session alone. -/
  refusal : ∀ {τ : Type} (visit : EventEnvelopeRef → τ → Except OperationFailure Unit × τ)
    (caller : τ) {result : Except OperationFailure Unit} {seen : Observed τ}
    {after : Store Engine} {later : World} {failure : OperationFailure},
    (iterateEnvelopes (observing visit) ⟨caller, [], none⟩).Runs setting store world
      (.ok (result, seen)) after later →
    seen.refusal = some failure →
    result = .error failure ∧ after.fiberIndex = store.fiberIndex ∧
      after.rollingCommitment = store.rollingCommitment ∧
      after.brokenReaderCause = store.brokenReaderCause

omit [Digests] [StorageEngine S Engine] in
/-- A store that retains no break and knows of none may iterate. -/
theorem Store.checkIteration_of_whole {store : Store Engine}
    (certain : store.brokenReaderCause = none) (whole : store.fiberIndex.hasBrokenFibers = false) :
    store.checkIteration = .ok () := by
  unfold checkIteration
  rw [certain, whole]
  rfl

/-- What a fold returns, given how its iteration ended. -/
theorem Store.wp_foldEnvelopes {β : Type} {init : β}
    {step : β → EventEnvelopeRef → Except OperationFailure β}
    (delivers : StorageEngine.Delivers setting store.engine world contents)
    (admitted : store.checkIteration = .ok ()) :
    (foldEnvelopes init step).wp setting
      (fun folded _ _ => (∀ message, folded ≠ .error (.panicked message)) ∧
        ∀ frames envelopes index, contents = .ok frames →
          SessionIndex.new.Accepts frames envelopes index →
          folded = match envelopes.foldlM (fun acc envelope => step acc envelope.view) init with
            | .ok value => .ok value
            | .error failure => .error (.failed failure)) store world := by
  simp only [foldEnvelopes, Action.wp_bind, Action.wp_attempt]
  refine Action.wp_mono (wp_iterateEnvelopes delivers admitted) ?_
  rintro _ after later ⟨result, final, engine, rfl, effect⟩
  cases effect with
  | stopped accepts within visited =>
      obtain ⟨folded, rfl⟩ := visitAll_foldVisit_error visited
      refine ⟨by rintro message ⟨⟩, ?_⟩
      intro frames others whole read all
      obtain ⟨rest, rfl, stops⟩ := within frames read
      obtain ⟨-, rfl, -⟩ := accepts.whole stops all
      rw [folded]
  | finished read accepts visited =>
      obtain ⟨value, folded, rfl⟩ := visitAll_foldVisit_ok visited
      refine ⟨by rintro message ⟨⟩, ?_⟩
      intro others all whole same accepted
      cases read.symm.trans same
      obtain ⟨-, rfl, -⟩ := accepts.whole (.inl rfl) (by rwa [List.append_nil])
      rw [folded]
  | faulted read accepts refused visited =>
      obtain ⟨value, folded, rfl⟩ := visitAll_foldVisit_ok visited
      refine ⟨by rintro message ⟨⟩, ?_⟩
      intro others all whole same accepted
      cases read.symm.trans same
      obtain ⟨impossible, -⟩ := accepts.whole (.inr ⟨_, _, rfl, refused⟩) accepted
      cases impossible
  | failed read visited noted =>
      obtain ⟨value, folded, rfl⟩ := visitAll_foldVisit_ok visited
      refine ⟨by rintro message ⟨⟩, ?_⟩
      intro others all whole same
      cases read.symm.trans same

/-- Visiting all envelopes ends in one of the ways an iteration can. -/
theorem Store.wp_forEachEnvelope
    (delivers : StorageEngine.Delivers setting store.engine world contents)
    (admitted : store.checkIteration = .ok ()) :
    (forEachEnvelope visit caller).wp setting
      (fun outcome after _ => ∃ result final engine, outcome = result.map (fun _ => final) ∧
        IterationEffect contents visit caller { store with engine } result final after)
      store world := by
  simp only [forEachEnvelope, Action.wp_bind, Action.wp_ofExcept]
  refine Action.wp_mono (wp_iterateEnvelopes delivers admitted) ?_
  rintro _ after later ⟨result, final, engine, rfl, effect⟩
  cases result with
  | error failure => exact ⟨_, final, engine, rfl, effect⟩
  | ok => exact ⟨_, final, engine, rfl, effect⟩

/-- The two whole-history read paths agree on success. -/
theorem Store.whole_history_reads_agree (store : Store Engine) (world : World)
    (contents : Except OperationFailure (List Bytes))
    (certain : store.brokenReaderCause = none) (whole : store.fiberIndex.hasBrokenFibers = false)
    (delivers : StorageEngine.Delivers setting store.engine world contents) :
    store.ReadsAgree setting world where
  success := by
    intro τ visit caller streamed read iterated collected later final streams reads envelopes
    obtain ⟨result, seen, _, rfl, iteration⟩ := Action.wp_of_runs streams
      (wp_forEachEnvelope delivers (checkIteration_of_whole certain whole))
    obtain ⟨_, reading⟩ := Action.wp_of_runs reads (wp_readAllEnvelopes delivers certain)
    cases iteration with
    | stopped accepts within visited =>
        obtain ⟨_, delivered, -⟩ := visitAll_observing visit _ ⟨caller, [], none⟩
        rw [delivered] at visited
        cases visited
    | finished found accepts visited =>
        obtain ⟨seen, delivered, list⟩ := visitAll_observing visit _ ⟨caller, [], none⟩
        rw [delivered] at visited
        cases visited
        obtain ⟨rfl, rfl⟩ := reading.of_accepts found accepts
        refine ⟨⟨?_, ?_⟩, fun _ => ⟨rfl, rfl, rfl, certain⟩⟩
        · rintro ⟨_, ⟨⟩, rfl⟩
          rw [list]
          rfl
        · rintro ⟨⟩
          exact ⟨_, rfl, list⟩
    | faulted found accepts refused visited =>
        have unread : read ≠ .ok envelopes := by
          rintro rfl
          cases reading with
          | whole same all =>
              cases found.symm.trans same
              obtain ⟨impossible, -⟩ := accepts.whole (.inr ⟨_, _, rfl, refused⟩) all
              cases impossible
        refine ⟨⟨?_, fun returned => (unread returned).elim⟩,
          fun returned => (unread returned).elim⟩
        rintro ⟨_, ⟨⟩, _⟩
    | failed unavailable visited noted =>
        have unread : read ≠ .ok envelopes := by
          rintro rfl
          cases reading with
          | whole same all => cases unavailable.symm.trans same
        refine ⟨⟨?_, fun returned => (unread returned).elim⟩,
          fun returned => (unread returned).elim⟩
        rintro ⟨_, ⟨⟩, _⟩
  fold := by
    intro β init step folded after later folds
    obtain ⟨calm, folded⟩ := Action.wp_of_runs folds
      (wp_foldEnvelopes delivers (checkIteration_of_whole certain whole))
    refine ⟨calm, ?_⟩
    intro envelopes collected final reads
    obtain ⟨_, reading⟩ := Action.wp_of_runs reads (wp_readAllEnvelopes delivers certain)
    cases reading with
    | whole read accepts => exact folded _ _ _ read accepts
  refusal := by
    intro τ visit caller result seen after later failure runs refused
    obtain ⟨_, _, _, answered, effect⟩ := Action.wp_of_runs runs
      (wp_iterateEnvelopes delivers (checkIteration_of_whole certain whole))
    cases answered
    cases effect with
    | stopped accepts within visited =>
        have answer := visitAll_observing_refusal visit _ rfl visited
        rw [refused] at answer
        exact ⟨answer, rfl, rfl, rfl⟩
    | finished read accepts visited =>
        have answer := visitAll_observing_refusal visit _ rfl visited
        rw [refused] at answer
        cases answer
    | faulted read accepts rejected visited =>
        have answer := visitAll_observing_refusal visit _ rfl visited
        rw [refused] at answer
        cases answer
    | failed read visited noted =>
        have answer := visitAll_observing_refusal visit _ rfl visited
        rw [refused] at answer
        cases answer

end Agreement

section Chained

attribute [local instance] standardDigests

/-- A fresh session over a log that holds two events of one fiber. -/
def chainedStore : Store InMemoryEngine :=
  { freshStore with engine := loggedEngine [firstFrame, chainedFrame] }

/-- Two chained events are read alike by every read. -/
theorem Store.whole_history_reads_agree_chained :
    (∃ after, readAllEnvelopes.Runs stillWorld chainedStore () (.ok [genesisEvent, chainedEvent])
      after ()) ∧ chainedStore.ReadsAgree stillWorld () := by
  have fits : ∀ frame ∈ [firstFrame, chainedFrame], frame.length ≤ u32Max := by decide +kernel
  obtain ⟨index, indexed, whole⟩ : ∃ index,
      SessionIndex.new.processFrames [firstFrame, chainedFrame] = .ok index ∧
        index.hasBrokenFibers = false :=
    map_eq_ok.mp (by decide +kernel)
  have unbroken : ¬index.HasBreak := by
    rw [← SessionIndex.hasBrokenFibers_iff, whole]
    exact Bool.false_ne_true
  obtain ⟨envelopes, accepts⟩ := SessionIndex.accepts_of_processFrames fits indexed unbroken
  have decoded : decodeFrames [firstFrame, chainedFrame] = .ok [genesisEvent, chainedEvent] := by
    decide +kernel
  obtain rfl : [genesisEvent, chainedEvent] = envelopes :=
    Except.ok.inj (decoded.symm.trans accepts.decodeFrames)
  have certain : chainedStore.brokenReaderCause = none := rfl
  obtain ⟨outcome, after, reads, effect⟩ := InMemoryEngine.exists_readEffect certain fits rfl
  obtain ⟨rfl, -⟩ := effect.of_accepts rfl accepts
  exact ⟨⟨after, reads⟩, whole_history_reads_agree chainedStore () _ rfl (by decide)
    (InMemoryEngine.delivers_frames fits rfl)⟩

end Chained

end Pardosa
