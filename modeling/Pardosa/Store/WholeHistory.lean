import Pardosa.Store.Acceptance

/-!
# What a whole-history read can do

Two paths read the whole history. One collects all frames, rebuilds the index
with `processFrame`, which marks breaks and goes on, and decodes the frames a
second time; the other streams views through `validateAppend` and stops at the
first fault. `Store.ReadEffect` and `Store.IterationEffect` list everything the
two can do to a store, over an engine whose recovery delivers what it reads.
-/

namespace Pardosa

open Foundation

/-- The borrowed view of an envelope. -/
def EventEnvelope.view (envelope : EventEnvelope) : EventEnvelopeRef :=
  ⟨envelope.header, envelope.payload⟩

variable [Digests] {τ : Type}

/-- Hand envelopes to a callback in order; stop at its first error. -/
def visitAll (visit : EventEnvelopeRef → τ → Except OperationFailure Unit × τ) :
    List EventEnvelope → τ → Except OperationFailure Unit × τ
  | [], caller => (.ok (), caller)
  | envelope :: envelopes, caller => match visit envelope.view caller with
      | (.error failure, after) => (.error failure, after)
      | (.ok (), after) => visitAll visit envelopes after

omit [Digests] in
/-- A callback that never refuses does not stop a delivery. -/
theorem visitAll_ok (visit : EventEnvelopeRef → τ → τ) (envelopes : List EventEnvelope)
    (caller : τ) :
    visitAll (fun view state => (.ok (), visit view state)) envelopes caller =
      (.ok (), envelopes.foldl (fun state envelope => visit envelope.view state) caller) := by
  induction envelopes generalizing caller with
  | nil => rfl
  | cons envelope envelopes ih => exact ih _

namespace Store

/-- A frame beyond the width is not framed again. -/
theorem reencode_of_long {frame : Bytes} (long : u32Max < frame.length) :
    ∃ failure, reencode frame = .error failure ∧
      failure.condition = .precursorChainBroken none := by
  unfold reencode ContainerFrame.encodePayload ContainerFrame.tryEncodePayload
  rw [if_neg (by omega)]
  exact ⟨_, rfl, rfl⟩

/-- An admitted frame is indexed, absorbed and handed to the callback. -/
theorem forEachFrame_admitted (visit : EventEnvelopeRef → τ → Except OperationFailure Unit × τ)
    (position : Nat) {frame : Bytes} {envelope : EventEnvelope} {captured : ForEachCapture τ}
    (admitted : AdmittedFrame captured.validationIndex frame envelope) :
    forEachFrame visit position frame captured =
      let absorbed : ForEachCapture τ := { captured with
        validationIndex := captured.validationIndex.commitEnvelopeUnchecked envelope
        rolling := captured.rolling.updateFrame (ContainerFrame.frameBytes frame) }
      match visit envelope.view captured.caller with
      | (.ok (), caller) => (.ok (), { absorbed with caller })
      | (.error failure, caller) =>
          (.error failure, { absorbed with caller, callbackError := some failure }) := by
  obtain ⟨⟨view, consumed⟩, viewAt, owned⟩ := bind_eq_ok.mp
    (SessionIndex.decodeAndValidateFrame_ok_iff.mp admitted.decoded)
  cases owned
  have validated := SessionIndex.validateAppend_ok_iff.mpr admitted.admits
  unfold forEachFrame
  rw [if_neg (Nat.not_lt.mpr admitted.long), viewAt]
  simp only [ne_eq, not_true_eq_false, if_false, validated, reencode_of_fits admitted.fits]
  rfl

/-- Any other frame stops the iteration before the callback sees it: the fault is
kept, or the frame is too long to be framed again. -/
theorem forEachFrame_refused (visit : EventEnvelopeRef → τ → Except OperationFailure Unit × τ)
    (position : Nat) {frame : Bytes} {captured : ForEachCapture τ}
    (refused : ∀ envelope, ¬AdmittedFrame captured.validationIndex frame envelope) :
    ∃ failure after, forEachFrame visit position frame captured = (.error failure, after) ∧
      after.caller = captured.caller ∧ after.callbackError = captured.callbackError ∧
      (after.brokenError = some failure ∨
        after.brokenError = captured.brokenError ∧
          failure.condition = .precursorChainBroken none) := by
  unfold forEachFrame
  split_ifs with short
  · exact ⟨_, _, rfl, rfl, rfl, .inl rfl⟩
  split
  · exact ⟨_, _, rfl, rfl, rfl, .inl rfl⟩
  rename_i view consumed viewAt
  split_ifs with partly
  · exact ⟨_, _, rfl, rfl, rfl, .inl rfl⟩
  push Not at partly
  split
  · exact ⟨_, _, rfl, rfl, rfl, .inl rfl⟩
  rename_i validated
  have long : u32Max < frame.length := by
    by_contra fits
    refine refused view.toOwned ⟨?_, by omega, by omega,
      SessionIndex.validateAppend_ok_iff.mp validated⟩
    rw [SessionIndex.decodeAndValidateFrame_ok_iff, EventEnvelope.decode, viewAt, ← partly]
    rfl
  obtain ⟨failure, unframed, condition⟩ := reencode_of_long long
  simp only [unframed]
  exact ⟨_, _, rfl, rfl, rfl, .inr ⟨rfl, condition⟩⟩

/-- Delivering accepted frames is handing their envelopes to the callback. -/
theorem deliverFrames_accepted (visit : EventEnvelopeRef → τ → Except OperationFailure Unit × τ)
    (position : Nat) {index after : SessionIndex} {frames : List Bytes}
    {envelopes : List EventEnvelope} (accepts : index.Accepts frames envelopes after)
    {captured : ForEachCapture τ} (starts : captured.validationIndex = index) :
    match visitAll visit envelopes captured.caller with
    | (.ok (), caller) =>
        deliverFrames (forEachFrame visit) position frames captured =
          (.ok (position + frames.length), { captured with
            validationIndex := after
            rolling := captured.rolling.absorb frames
            caller })
    | (.error failure, caller) => ∃ stopped,
        deliverFrames (forEachFrame visit) position frames captured = (.error failure, stopped) ∧
          stopped.caller = caller ∧ stopped.callbackError = some failure := by
  induction accepts generalizing position captured with
  | nil =>
      cases starts
      rfl
  | @cons index after frame frames envelope envelopes admitted rest ih =>
      subst starts
      simp only [visitAll, deliverFrames, forEachFrame_admitted visit position admitted]
      cases seen : visit envelope.view captured.caller with
      | mk outcome caller =>
          cases outcome with
          | error failure => exact ⟨_, rfl, rfl, rfl⟩
          | ok =>
              let absorbed : ForEachCapture τ := { captured with
                validationIndex := captured.validationIndex.commitEnvelopeUnchecked envelope
                rolling := captured.rolling.updateFrame (ContainerFrame.frameBytes frame)
                caller }
              have indexed : absorbed.validationIndex =
                captured.validationIndex.commitEnvelopeUnchecked envelope := rfl
              have later := ih (position + 1) indexed
              dsimp only [absorbed] at later ⊢
              revert later
              cases visitAll visit envelopes caller with
              | mk verdict final =>
                  cases verdict with
                  | error failure => exact id
                  | ok =>
                      intro later
                      dsimp only at later ⊢
                      rw [later, List.length_cons, Nat.add_assoc, Nat.add_comm 1]
                      rfl

end Store

/-- What a recovery has made of its callback's state, where a read of everything
answers `contents`: exactly those frames are delivered; where that read fails,
the recovery fails too, after some frames. -/
def Delivered {σ : Type} (contents : Except OperationFailure (List Bytes))
    (onFrame : FrameRecoveryCallback σ) (captured : σ) (outcome : Except OperationFailure Nat)
    (state : σ) : Prop :=
  match contents with
  | .ok frames => (outcome, state) = deliverFrames onFrame 0 frames captured
  | .error _ => ∃ frames failure, outcome = .error failure ∧
      state = (deliverFrames onFrame 0 frames captured).2 ∧
      ∀ stopped, (deliverFrames onFrame 0 frames captured).1 = .error stopped → failure = stopped

section Effects

variable {S : Signature} {Engine World : Type} [StorageEngine S Engine] {setting : Setting S World}
  {store : Store Engine} {world : World} {contents : Except OperationFailure (List Bytes)}
  {visit : EventEnvelopeRef → τ → Except OperationFailure Unit × τ} {caller : τ}

/-- A read of everything answers `contents`, and a recovery delivers just that. -/
structure StorageEngine.Delivers (setting : Setting S World) (engine : Engine) (world : World)
    (contents : Except OperationFailure (List Bytes)) : Prop where
  readAll : (StorageEngine.readAll).wp setting (fun outcome _ _ => outcome = contents) engine world
  recoverFrames : ∀ {σ : Type} (onFrame : FrameRecoveryCallback σ) (captured : σ),
    (StorageEngine.recoverFrames 64 onFrame).wp setting
      (fun outcome after _ => Delivered contents onFrame captured outcome after.2)
      (engine, captured) world

/-- What opening a writer makes of the frames that recovery delivers. -/
theorem Store.wp_openWriter_delivers {engine : Engine} {frames : List Bytes}
    (delivers : StorageEngine.Delivers setting engine world (.ok frames)) :
    openWriter.wp setting
      (fun outcome after _ => ∀ store, outcome = .ok store ↔
        (∀ frame ∈ frames, frame.length ≤ u32Max) ∧ ∃ index,
          SessionIndex.buildFromFrames frames = .ok index ∧
          store = ⟨after, RollingCommitment.new.absorb frames, index, none, false, none⟩)
      engine world := by
  refine wp_openWriter (Action.wp_mono (delivers.recoverFrames recoverFrame (.new, .new)) ?_)
  rintro outcome ⟨after, rolling, index⟩ later delivered
  have same : (outcome, rolling, index) = deliverFrames recoverFrame 0 frames (.new, .new) :=
    delivered
  cases outcome with
  | error failure =>
      rintro store
      constructor
      · rintro ⟨⟩
      · rintro ⟨fits, recovered, processed, -⟩
        rw [deliverFrames_recoverFrame 0 .new fits processed] at same
        cases same
  | ok count =>
      obtain ⟨fits, processed, rfl, -⟩ := deliverFrames_recoverFrame_ok_iff.mp same.symm
      rintro store
      constructor
      · rintro ⟨⟩
        exact ⟨fits, index, processed, rfl⟩
      · rintro ⟨-, recovered, again, rfl⟩
        cases processed.symm.trans again
        rfl

namespace Store

/-- Everything an iteration can do to a store once it has begun: the callback
stops it, it runs to the end, it meets a frame that is not admitted, or the
engine fails. -/
inductive IterationEffect (contents : Except OperationFailure (List Bytes))
    (visit : EventEnvelopeRef → τ → Except OperationFailure Unit × τ) (caller : τ)
    (store : Store Engine) : Except OperationFailure Unit → τ → Store Engine → Prop where
  | stopped {accepted : List Bytes} {envelopes : List EventEnvelope} {index : SessionIndex}
      {failure : OperationFailure} {final : τ}
        (accepts : SessionIndex.new.Accepts accepted envelopes index)
      (within : ∀ frames, contents = .ok frames → ∃ rest, frames = accepted ++ rest ∧
        index.StopsAt rest)
      (visited : visitAll visit envelopes caller = (.error failure, final)) :
      IterationEffect contents visit caller store (.error failure) final store
  | finished {frames : List Bytes} {envelopes : List EventEnvelope} {index : SessionIndex}
      {final : τ} (read : contents = .ok frames)
      (accepts : SessionIndex.new.Accepts frames envelopes index)
      (visited : visitAll visit envelopes caller = (.ok (), final)) :
      IterationEffect contents visit caller store (.ok ()) final { store with
        fiberIndex := index
        rollingCommitment := RollingCommitment.new.absorb frames
        brokenReaderCause := none }
  | faulted {accepted rest : List Bytes} {frame : Bytes} {envelopes : List EventEnvelope}
      {index : SessionIndex} {failure : OperationFailure} {final : τ}
      (read : contents = .ok (accepted ++ frame :: rest))
      (accepts : SessionIndex.new.Accepts accepted envelopes index)
      (refused : ∀ envelope, ¬AdmittedFrame index frame envelope)
      (visited : visitAll visit envelopes caller = (.ok (), final)) :
      IterationEffect contents visit caller store (.error failure) final
        { store with brokenReaderCause := some failure.condition }
  | failed {envelopes : List EventEnvelope} {refusal failure : OperationFailure} {final : τ}
      {after : Store Engine} (read : contents = .error refusal)
      (visited : visitAll visit envelopes caller = (.ok (), final))
      (noted : after = store ∨
        after = { store with brokenReaderCause := some failure.condition }) :
      IterationEffect contents visit caller store (.error failure) final after

/-- How the delivery of frames to an iteration ends. -/
theorem deliverFrames_forEachFrame
    (visit : EventEnvelopeRef → τ → Except OperationFailure Unit × τ) (caller : τ)
    (frames : List Bytes) :
    ∃ accepted rest envelopes index,
      frames = accepted ++ rest ∧ SessionIndex.new.Accepts accepted envelopes index ∧
      index.StopsAt rest ∧
      ∃ outcome state,
        deliverFrames (forEachFrame visit) 0 frames ⟨.new, .new, none, none, caller⟩ =
          (outcome, state) ∧
        state.caller = (visitAll visit envelopes caller).2 ∧
        match (visitAll visit envelopes caller).1 with
        | .error failure => outcome = .error failure ∧ state.callbackError = some failure
        | .ok () => state.callbackError = none ∧
            ((rest = [] ∧ outcome = .ok frames.length ∧ state.brokenError = none ∧
              state.validationIndex = index ∧
              state.rolling = RollingCommitment.new.absorb frames) ∨
            (rest ≠ [] ∧ ∃ failure, outcome = .error failure ∧
              (state.brokenError = some failure ∨ state.brokenError = none ∧
                failure.condition = .precursorChainBroken none))) := by
  obtain ⟨accepted, rest, envelopes, index, rfl, accepts, stops⟩ :=
    SessionIndex.exists_accepts .new frames
  refine ⟨accepted, rest, envelopes, index, rfl, accepts, stops, ?_⟩
  have delivered := deliverFrames_accepted visit 0 accepts
    (show (⟨.new, .new, none, none, caller⟩ : ForEachCapture τ).validationIndex = .new from rfl)
  rw [deliverFrames_append]
  cases visited : visitAll visit envelopes caller with
  | mk verdict final =>
      simp only [visited] at delivered
      cases verdict with
      | error failure =>
          obtain ⟨state, stopped, reached, noted⟩ := delivered
          rw [stopped]
          exact ⟨_, _, rfl, reached, rfl, noted⟩
      | ok =>
          dsimp only at delivered
          rw [delivered]
          dsimp only
          obtain rfl | ⟨frame, later, rfl, refused⟩ := stops
          · refine ⟨_, _, rfl, rfl, rfl, .inl ⟨rfl, ?_, rfl, rfl, ?_⟩⟩
            · rw [List.append_nil, Nat.zero_add]
            · rw [List.append_nil]
          · let reached : ForEachCapture τ := ⟨index, RollingCommitment.new.absorb accepted, none,
              none, final⟩
            have indexed : ∀ envelope, ¬AdmittedFrame reached.validationIndex frame envelope :=
              refused
            obtain ⟨failure, after, met, kept, quiet, fault⟩ :=
              forEachFrame_refused visit (0 + accepted.length) indexed
            simp only [reached] at met kept quiet fault
            simp only [deliverFrames, met]
            exact ⟨_, _, rfl, kept, quiet, .inr ⟨List.cons_ne_nil _ _, failure, rfl, fault⟩⟩

omit [StorageEngine S Engine] in
/-- What the end of a delivery makes of the store. -/
theorem concludeIteration_effect {outcome : Except OperationFailure Nat} {state : ForEachCapture τ}
    (delivered : Delivered contents (forEachFrame visit) ⟨.new, .new, none, none, caller⟩ outcome
      state) (store : Store Engine) :
    IterationEffect contents visit caller store (concludeIteration outcome state store).1
      state.caller (concludeIteration outcome state store).2 := by
  cases contents with
  | ok frames =>
      obtain ⟨accepted, rest, envelopes, index, rfl, accepts, stops, reported, final, delivery,
        reached, ending⟩ := deliverFrames_forEachFrame visit caller frames
      rw [Delivered, delivery] at delivered
      cases delivered
      cases visited : visitAll visit envelopes caller with
      | mk verdict last =>
          simp only [visited] at reached ending
          subst reached
          cases verdict with
          | error failure =>
              obtain ⟨-, noted⟩ := ending
              unfold concludeIteration
              simp only [noted]
              refine .stopped accepts ?_ visited
              rintro _ ⟨⟩
              exact ⟨rest, rfl, stops⟩
          | ok =>
              obtain ⟨quiet, ⟨rfl, rfl, whole, indexed, absorbed⟩ | ⟨more, failure, rfl, fault⟩⟩ :=
                ending
              · unfold concludeIteration
                simp only [quiet, whole, indexed, absorbed]
                rw [List.append_nil] at absorbed ⊢
                exact .finished rfl accepts visited
              · obtain rfl | ⟨frame, later, rfl, refused⟩ := stops
                · exact (more rfl).elim
                · have noted : concludeIteration (.error failure) state store =
                      (.error failure,
                        { store with brokenReaderCause := some failure.condition }) := by
                    unfold concludeIteration
                    obtain kept | ⟨none, condition⟩ := fault
                    · simp only [quiet, kept]
                    · simp only [quiet, none, condition]
                      rw [if_neg (by simp)]
                  rw [noted]
                  exact .faulted rfl accepts refused visited
  | error refusal =>
      obtain ⟨frames, failure, rfl, rfl, same⟩ := delivered
      obtain ⟨accepted, rest, envelopes, index, rfl, accepts, stops, reported, final, delivery,
        reached, ending⟩ := deliverFrames_forEachFrame visit caller frames
      rw [delivery] at same ⊢
      dsimp only at same ⊢
      cases visited : visitAll visit envelopes caller with
      | mk verdict last =>
          simp only [visited] at reached ending
          subst reached
          cases verdict with
          | error stopped =>
              obtain ⟨rfl, noted⟩ := ending
              unfold concludeIteration
              simp only [noted]
              refine .stopped accepts ?_ visited
              rintro _ ⟨⟩
          | ok =>
              obtain ⟨quiet, ⟨-, -, whole, -, -⟩ | ⟨more, blamed, rfl, fault⟩⟩ := ending
              · unfold concludeIteration
                simp only [quiet, whole]
                refine .failed rfl visited ?_
                split_ifs
                · exact .inl rfl
                · exact .inr rfl
              · cases same blamed rfl
                unfold concludeIteration
                obtain kept | ⟨none, condition⟩ := fault
                · simp only [quiet, kept]
                  exact .failed rfl visited (.inr rfl)
                · simp only [quiet, none, condition]
                  refine .failed rfl visited (.inr ?_)
                  rw [condition]
                  rfl

/-- An iteration ends in one of the ways it can. -/
theorem wp_iterateEnvelopes (delivers : StorageEngine.Delivers setting store.engine world contents)
    (admitted : store.checkIteration = .ok ()) :
    (iterateEnvelopes visit caller).wp setting
      (fun outcome after _ => ∃ result final engine, outcome = .ok (result, final) ∧
        IterationEffect contents visit caller { store with engine } result final after)
      store world := by
  simp only [iterateEnvelopes, Action.wp_bind, Action.wp_get, Action.wp_ofExcept, admitted]
  refine wp_recoverOn (Action.wp_mono (delivers.recoverFrames _ _) ?_)
  rintro outcome ⟨engine, state⟩ later delivered
  exact ⟨_, _, engine, rfl, concludeIteration_effect delivered _⟩

/-- The checks a read of everything makes of its frames before it decodes them. -/
def indexFrames (frames : List Bytes) : Except OperationFailure SessionIndex := do
  refuseShortFrames frames
  SessionIndex.buildFromFrames frames

omit [Digests] in
/-- A frame too short for an envelope is a mismatch. -/
theorem refuseShortFrames_error {frames : List Bytes} {failure : OperationFailure}
    (short : refuseShortFrames frames = .error failure) :
    failure.condition = .envelopeMismatch := by
  induction frames with
  | nil => cases short
  | cons frame frames ih =>
      unfold refuseShortFrames at short
      split_ifs at short
      · cases short
        rfl
      · exact ih short

/-- An index refuses frames for another reason than a broken chain. -/
theorem indexFrames_error {frames : List Bytes} {failure : OperationFailure}
    (refused : indexFrames frames = .error failure) : failure.condition.isChainBreak = false := by
  unfold indexFrames at refused
  cases short : refuseShortFrames frames with
  | error other =>
      rw [short] at refused
      cases refused
      rw [refuseShortFrames_error short]
      rfl
  | ok =>
      rw [short] at refused
      exact SessionIndex.processFrames_error refused

/-- The commitment over frames that fit absorbs them all. -/
theorem rollingOf_fits (rolling : RollingCommitment) {frames : List Bytes}
    (fits : ∀ frame ∈ frames, frame.length ≤ u32Max) :
    rollingOf rolling frames = .ok (rolling.absorb frames) := by
  induction frames generalizing rolling with
  | nil => rfl
  | cons frame frames ih =>
      unfold rollingOf
      rw [reencode_of_fits (fits frame (List.mem_cons_self ..)), ok_bind,
        ih _ fun other member => fits other (List.mem_cons_of_mem _ member)]
      rfl

/-- A frame beyond the width breaks the chain. -/
theorem rollingOf_long (rolling : RollingCommitment) {frames : List Bytes}
    (long : ∃ frame ∈ frames, u32Max < frame.length) :
    ∃ failure, rollingOf rolling frames = .error failure ∧
      failure.condition = .precursorChainBroken none := by
  induction frames generalizing rolling with
  | nil =>
      obtain ⟨_, member, -⟩ := long
      cases member
  | cons frame frames ih =>
      unfold rollingOf
      by_cases fits : frame.length ≤ u32Max
      · rw [reencode_of_fits fits, ok_bind]
        obtain ⟨other, member, beyond⟩ := long
        obtain _ | ⟨_, member⟩ := member
        · omega
        · exact ih _ ⟨other, member, beyond⟩
      · obtain ⟨failure, unframed, condition⟩ := reencode_of_long (Nat.lt_of_not_le fits)
        rw [unframed]
        exact ⟨failure, rfl, condition⟩

/-- Everything a read of all envelopes can do to a store that retains no break:
the engine fails, a frame cannot be framed again, a frame is refused, a chain is
broken, or the history is accepted. -/
inductive ReadEffect (contents : Except OperationFailure (List Bytes)) (store : Store Engine) :
    Except OperationFailure (List EventEnvelope) → Store Engine → Prop where
  | failed {failure : OperationFailure} (read : contents = .error failure) :
      ReadEffect contents store (.error failure) (store.retainBreak failure)
  | unframed {frames : List Bytes} {failure : OperationFailure} (read : contents = .ok frames)
      (long : ∃ frame ∈ frames, u32Max < frame.length)
      (condition : failure.condition = .precursorChainBroken none) :
      ReadEffect contents store (.error failure)
        { store with brokenReaderCause := some failure.condition }
  | refused {frames : List Bytes} {failure : OperationFailure} (read : contents = .ok frames)
      (fits : ∀ frame ∈ frames, frame.length ≤ u32Max)
      (refused : indexFrames frames = .error failure) :
      ReadEffect contents store (.error failure)
        { store with rollingCommitment := RollingCommitment.new.absorb frames }
  | broken {frames : List Bytes} {index : SessionIndex} {failure : OperationFailure}
      (read : contents = .ok frames) (fits : ∀ frame ∈ frames, frame.length ≤ u32Max)
      (indexed : indexFrames frames = .ok index) (breaks : index.HasBreak)
      (condition : failure.condition = .precursorChainBroken none) :
      ReadEffect contents store (.error failure) { store with
        rollingCommitment := RollingCommitment.new.absorb frames
        fiberIndex := index
        brokenReaderCause := some failure.condition }
  | whole {frames : List Bytes} {envelopes : List EventEnvelope} {index : SessionIndex}
      (read : contents = .ok frames) (accepts : SessionIndex.new.Accepts frames envelopes index) :
      ReadEffect contents store (.ok envelopes) { store with
        rollingCommitment := RollingCommitment.new.absorb frames
        fiberIndex := index }

/-- Accepted frames are indexed. -/
theorem indexFrames_of_accepts {frames : List Bytes} {envelopes : List EventEnvelope}
    {index : SessionIndex} (accepts : SessionIndex.new.Accepts frames envelopes index) :
    indexFrames frames = .ok index := by
  rw [indexFrames, accepts.refuseShortFrames, ok_bind]
  exact accepts.processFrames

omit [StorageEngine S Engine] in
/-- A read leaves the engine as the read of the engine did. -/
theorem ReadEffect.engine {outcome : Except OperationFailure (List EventEnvelope)}
    {after : Store Engine} (effect : ReadEffect contents store outcome after) :
    after.engine = store.engine := by
  cases effect with
  | failed read =>
      unfold retainBreak
      split_ifs
      · rfl
      · rfl
  | unframed read long condition => rfl
  | refused read fits refused => rfl
  | broken read fits indexed breaks condition => rfl
  | whole read accepts => rfl

omit [StorageEngine S Engine] in
/-- An accepted history is read. -/
theorem ReadEffect.of_accepts {frames : List Bytes} {envelopes : List EventEnvelope}
    {index : SessionIndex} {outcome : Except OperationFailure (List EventEnvelope)}
    {after : Store Engine} (effect : ReadEffect contents store outcome after)
    (read : contents = .ok frames) (accepts : SessionIndex.new.Accepts frames envelopes index) :
    outcome = .ok envelopes ∧ after = { store with
      rollingCommitment := RollingCommitment.new.absorb frames
      fiberIndex := index } := by
  have indexed := indexFrames_of_accepts accepts
  cases effect with
  | failed failed => cases read.symm.trans failed
  | unframed same long _ =>
      cases read.symm.trans same
      obtain ⟨frame, member, long⟩ := long
      have := accepts.fits frame member
      omega
  | refused same _ refused =>
      cases read.symm.trans same
      cases indexed.symm.trans refused
  | broken same _ again breaks _ =>
      cases read.symm.trans same
      cases indexed.symm.trans again
      exact (SessionIndex.not_hasBreak_new (accepts.hasBreak_iff.mp breaks)).elim
  | whole same again =>
      cases read.symm.trans same
      obtain ⟨-, rfl, rfl⟩ := accepts.whole (.inl rfl) (by rwa [List.append_nil])
      exact ⟨rfl, rfl⟩

omit [Digests] [StorageEngine S Engine] in
/-- A break is retained once. -/
theorem retainBreak_retainBreak (failure : OperationFailure) (store : Store Engine) :
    (store.retainBreak failure).retainBreak failure = store.retainBreak failure := by
  unfold retainBreak
  split_ifs <;> rfl

omit [Digests] [StorageEngine S Engine] in
/-- A broken chain is retained. -/
theorem retainBreak_of_chainBreak {failure : OperationFailure}
    (breaks : failure.condition.isChainBreak = true) (store : Store Engine) :
    store.retainBreak failure = { store with brokenReaderCause := some failure.condition } :=
  if_pos breaks

omit [Digests] [StorageEngine S Engine] in
/-- Another failure is not. -/
theorem retainBreak_of_other {failure : OperationFailure}
    (other : failure.condition.isChainBreak = false) (store : Store Engine) :
    store.retainBreak failure = store := by
  unfold retainBreak
  rw [if_neg (by simp [other])]

/-- A read of all frames answers what the engine delivers, with the commitment over it. -/
theorem wp_readAllFrames (delivers : StorageEngine.Delivers setting store.engine world contents) :
    readAllFrames.wp setting
      (fun outcome after _ => ∃ engine, match contents with
        | .error failure =>
            outcome = .error failure ∧
              after = ({ store with engine } : Store Engine).retainBreak failure
        | .ok frames => match rollingOf .new frames with
            | .error failure => outcome = .error failure ∧ after = { store with engine }
            | .ok rollingCommitment =>
                outcome = .ok frames ∧ after = { store with engine, rollingCommitment })
      store world := by
  simp only [readAllFrames, Action.wp_bind, Action.wp_attempt, wp_onEngine]
  refine Action.wp_mono delivers.readAll ?_
  rintro _ engine later rfl
  rename_i outcome
  cases outcome with
  | error failure => exact ⟨engine, rfl, rfl⟩
  | ok frames =>
      simp only [Action.wp_bind, Action.wp_ofExcept]
      cases rollingOf .new frames with
      | error failure => exact ⟨engine, rfl, rfl⟩
      | ok rolling => exact ⟨engine, rfl, rfl⟩

/-- A session that retains no break reads, and retains the break it finds. -/
theorem wp_readAllEnvelopes_of_body
    {post : Except OperationFailure (List EventEnvelope) → Store Engine → World → Prop}
    (certain : store.brokenReaderCause = none)
    (body : (readAllEnvelopesBody false).wp setting
      (fun outcome after later => match outcome with
        | .error failure => post (.error failure) (after.retainBreak failure) later
        | .ok envelopes => post (.ok envelopes) after later) store world) :
    readAllEnvelopes.wp setting post store world := by
  obtain ⟨engine, rolling, index, cause, uncertain, diagnostic⟩ := store
  cases certain
  simp only [readAllEnvelopes, readAllEnvelopesInner, Action.wp_bind, Action.wp_get,
    Bool.not_false, Action.wp_attempt]
  refine Action.wp_mono body ?_
  rintro (failure | envelopes) after later owed
  · exact owed
  · exact owed

/-- A read of all envelopes has the effect that the delivered frames decide. -/
theorem wp_readAllEnvelopes (delivers : StorageEngine.Delivers setting store.engine world contents)
    (certain : store.brokenReaderCause = none) :
    readAllEnvelopes.wp setting
      (fun outcome after _ => ∃ engine, ReadEffect contents { store with engine } outcome after)
      store world := by
  refine wp_readAllEnvelopes_of_body certain ?_
  unfold readAllEnvelopesBody
  rw [Action.wp_bind]
  refine Action.wp_mono (wp_readAllFrames delivers) ?_
  rintro outcome after later ⟨engine, effect⟩
  cases contents with
  | error failure =>
      obtain ⟨rfl, rfl⟩ := effect
      refine ⟨engine, ?_⟩
      rw [retainBreak_retainBreak]
      exact .failed rfl
  | ok frames =>
      dsimp only at effect
      by_cases fits : ∀ frame ∈ frames, frame.length ≤ u32Max
      · rw [rollingOf_fits .new fits] at effect
        obtain ⟨rfl, rfl⟩ := effect
        dsimp only
        simp only [Action.wp_bind, Action.wp_ofExcept]
        cases short : refuseShortFrames frames with
        | error failure =>
            have refused : indexFrames frames = .error failure := by
              rw [indexFrames, short, error_bind]
            refine ⟨engine, ?_⟩
            rw [retainBreak_of_other (indexFrames_error refused)]
            exact .refused rfl fits refused
        | ok =>
            dsimp only
            cases built : SessionIndex.buildFromFrames frames with
            | error failure =>
                have refused : indexFrames frames = .error failure := by
                  rw [indexFrames, short, ok_bind, built]
                refine ⟨engine, ?_⟩
                rw [retainBreak_of_other (indexFrames_error refused)]
                exact .refused rfl fits refused
            | ok index =>
                have indexed : indexFrames frames = .ok index := by
                  rw [indexFrames, short, ok_bind, built]
                dsimp only
                by_cases broken : index.HasBreak
                · rw [SessionIndex.hasBrokenFibers_iff.mpr broken]
                  exact ⟨engine, .broken rfl fits indexed broken rfl⟩
                · rw [SessionIndex.hasBrokenFibers_eq_false_iff.mpr broken]
                  obtain ⟨envelopes, accepts⟩ :=
                    SessionIndex.accepts_of_processFrames fits built broken
                  simp only [Bool.not_false, Bool.and_false, Bool.false_eq_true, if_false,
                    Action.wp_bind, Action.wp_ofExcept]
                  rw [accepts.decodeFrames]
                  exact ⟨engine, .whole rfl accepts⟩
      · push Not at fits
        obtain ⟨failure, unframed, condition⟩ := rollingOf_long .new fits
        rw [unframed] at effect
        obtain ⟨rfl, rfl⟩ := effect
        refine ⟨engine, ?_⟩
        rw [retainBreak_of_chainBreak (by rw [condition]; rfl)]
        exact .unframed rfl fits condition

end Store

end Effects

/-- The reads of the in-memory engine keep everything of it. -/
theorem InMemoryEngine.readsKeep (Inv : InMemoryEngine → Unit → Prop) :
    ReadsKeep stillWorld Inv := by
  have chunk : ∀ {maxItems} startIndex engine world, Inv engine world →
      (readChunk startIndex maxItems).wp stillWorld (fun _ after later => Inv after later) engine
        world := by
    intro maxItems startIndex engine world holds
    unfold readChunk chunkOfAll
    split_ifs
    · exact holds
    · simp only [readAll, Action.wp_bind, Action.wp_get, Action.wp_ofExcept]
      cases payloadsOf engine.blocks with
      | error failure => exact holds
      | ok payloads => exact holds
  exact {
    isRetired := id
    readAll := id
    readChunk := chunk _ _ _
    recoverFrames := fun onFrame engine captured world holds => wp_recoverChunks_keeps chunk holds }

/-- The in-memory engine delivers what it reads. -/
theorem InMemoryEngine.delivers (engine : InMemoryEngine) :
    StorageEngine.Delivers stillWorld engine () (payloadsOf engine.blocks) where
  readAll := rfl
  recoverFrames := by
    intro σ onFrame captured
    cases read : payloadsOf engine.blocks with
    | ok payloads =>
        have count := length_payloadsOf read
        refine Program.wp_mono (wp_recoverChunks (by omega) (readChunk_payloads read)
          (by dsimp only; omega) rfl) ?_
        rintro ⟨outcome, after, passed⟩ _ ⟨delivered, -⟩
        exact delivered
    | error failure =>
        have refused : (readChunk 0 (max 64 1)).wp stillWorld
            (fun outcome _ _ => outcome = .error failure) engine () := by
          unfold readChunk chunkOfAll
          rw [if_neg (by decide)]
          simp only [readAll, Action.wp_bind, Action.wp_get, Action.wp_ofExcept, read]
        have stopped :
          (recoverChunks readChunk (max 64 1) onFrame (engine.blocks.length + 1) 0 0).wp
            stillWorld (fun outcome after _ =>
              Delivered (.error failure) onFrame captured outcome after.2)
                  (engine, captured) () := by
          simp only [recoverChunks, Action.wp_bind, Action.wp_on]
          refine Action.wp_mono refused ?_
          rintro _ after later rfl
          exact ⟨[], failure, rfl, rfl, by rintro _ ⟨⟩⟩
        exact stopped

/-- It delivers the frames of its log. -/
theorem InMemoryEngine.delivers_frames {engine : InMemoryEngine} {frames : List Bytes}
    (fits : ∀ frame ∈ frames, frame.length ≤ u32Max)
    (logged : engine.blocks = frames.map ContainerFrame.frameBytes) :
    StorageEngine.Delivers stillWorld engine () (.ok frames) := by
  have delivered := delivers engine
  rwa [logged, payloadsOf_frames fits] at delivered

/-- A session over the in-memory engine has a read of the frames in its log. -/
theorem InMemoryEngine.exists_readEffect {store : Store InMemoryEngine} {frames : List Bytes}
    (certain : store.brokenReaderCause = none) (fits : ∀ frame ∈ frames, frame.length ≤ u32Max)
    (logged : store.engine.blocks = frames.map ContainerFrame.frameBytes) :
    ∃ outcome after, Store.readAllEnvelopes.Runs stillWorld store () outcome after () ∧
      Store.ReadEffect (.ok frames) store outcome after := by
  obtain ⟨⟨outcome, after⟩, _, reads⟩ :=
    Program.exists_runs stillWorld_live (Store.readAllEnvelopes store) ()
  have keeps := readsKeep fun after _ => after = store.engine
  obtain ⟨same, -, -⟩ := Action.wp_of_runs reads
    (Store.wp_readAllEnvelopesInner_keeps keeps false rfl)
  obtain ⟨engine, effect⟩ := Action.wp_of_runs reads
    (Store.wp_readAllEnvelopes (delivers_frames fits logged) certain)
  have kept : engine = store.engine := effect.engine.symm.trans same
  subst kept
  exact ⟨outcome, after, reads, effect⟩

/-- Opening a writer over the in-memory engine, on a log that builds an index. -/
theorem InMemoryEngine.opens {engine : InMemoryEngine} {frames : List Bytes}
    {index : SessionIndex} (fits : ∀ frame ∈ frames, frame.length ≤ u32Max)
    (logged : engine.blocks = frames.map ContainerFrame.frameBytes)
    (built : SessionIndex.buildFromFrames frames = .ok index) :
    Store.openWriter.Runs stillWorld engine ()
      (.ok ⟨engine, RollingCommitment.new.absorb frames, index, none, false, none⟩) engine () := by
  have keeps := readsKeep fun after _ => after = engine
  obtain ⟨⟨outcome, final⟩, _, opens⟩ :=
    Program.exists_runs stillWorld_live (Store.openWriter engine) ()
  have opening : Store.openWriter.wp stillWorld (fun _ after _ => after = engine) engine () := by
    refine Store.wp_openWriter (Action.wp_mono (keeps.recoverFrames _ rfl) ?_)
    rintro (failure | _) ⟨after, captured⟩ later same
    · exact same
    · exact same
  have kept : final = engine := Action.wp_of_runs opens opening
  obtain ⟨opened, -⟩ := Action.wp_of_runs opens
    (Store.wp_openWriter_log recoverableLog fits logged built)
  subst kept opened
  exact opens

end Pardosa
