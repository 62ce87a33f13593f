import Pardosa.Nats.History
import Pardosa.Store.WholeHistory

/-!
# Reading while others write

A client asks for the extent of the event data and then for one message after the
other, while the stream grows. What it reads is what the stream held when it asked for
the extent, or its read fails.
-/

namespace Pardosa

open Foundation

section Reads

variable [Digests] {Client τ : Type} [DecidableEq Client] {Inv : SharedBroker Client τ → Prop}
  {Holds : Client → ClientState τ → SharedBroker Client τ → Prop}
  {During : Client → ClientCall τ → ClientState τ → SharedBroker Client τ → Prop}
  {Ends : Client → ClientCall τ → ClientState τ → ClientState τ → SharedBroker Client τ → Prop}
  {may : ClientCall τ → Bool} {client : Client} {call : ClientCall τ} {state : ClientState τ}
  {world : SharedBroker Client τ} {frames : List Bytes} {index : SessionIndex} {σ : Type} {own : σ}

/-- The message of a frame that the event data begins with. -/
theorem Broker.Begins.message {broker : Broker} (begins : broker.Begins frames) {place : Nat}
    {frame : Bytes} (found : frames[place]? = some frame) :
    (broker.messages .dataStream)[place + 1]? = some (ContainerFrame.frameBytes frame) := by
  have framed : (framedMessages frames)[place + 1]? = some (ContainerFrame.frameBytes frame) := by
    simp [framedMessages, found]
  obtain ⟨more, split⟩ := begins
  rw [← split, List.getElem?_append_left (List.getElem?_eq_some_iff.mp framed).1]
  exact framed

/-- The event that landed right behind a history continues it. -/
theorem Broker.Begins.concat {broker : Broker} {payload : Bytes}
    (begins : broker.Begins frames) (found : (broker.messages .dataStream)[frames.length + 1]? =
      some (ContainerFrame.frameBytes payload)) : broker.Begins (frames ++ [payload]) := by
  obtain ⟨more, split⟩ := begins
  have counted := Broker.length_framedMessages frames
  rw [← split, List.getElem?_append_right (by omega), counted, Nat.sub_self] at found
  obtain ⟨rest, rfl⟩ : ∃ rest, more = ContainerFrame.frameBytes payload :: rest := by
    cases more with
    | nil => cases found
    | cons first rest => exact ⟨rest, congrArg (· :: rest) (Option.some.inj found)⟩
  refine ⟨rest, ?_⟩
  rw [← split]
  simp [Broker.framedMessages]

/-- Messages are read one after the other. -/
theorem wp_readFrames {count seq : Nat} (begins : world.broker.Begins frames)
    (fits : ∀ frame ∈ frames, frame.length ≤ u32Max) (within : seq + count ≤ frames.length) :
    (readFrames count (seq + 2)).wp
      ((brokerDiscipline Inv Holds During Ends).setting
        (streamClients Client may) client call state)
      (fun outcome after later => after = own ∧ later.broker.Begins frames ∧
        ∀ payloads, outcome = .ok payloads → payloads = (frames.drop seq).take count)
          own world := by
  induction count generalizing seq world with
  | zero =>
      refine ⟨rfl, begins, ?_⟩
      rintro _ ⟨⟩
      rw [List.take_zero]
  | succ count ih =>
      simp only [readFrames, Action.wp_bind, Action.wp_ofExcept]
      refine wp_question trivial ?_
      rintro moved answer sees - ⟨-, performs⟩
      have still := begins.extends sees.grows.broker
      rcases performs with ⟨failure, rfl⟩ | ⟨raw, -, found, rfl⟩
      · refine ⟨rfl, still, ?_⟩
        rintro _ ⟨⟩
      have inside : seq < frames.length := by omega
      have stands := still.message (List.getElem?_eq_getElem inside)
      obtain rfl := Option.some.inj (stands.symm.trans found)
      dsimp only [Except.mapError]
      rw [unframeData_frameBytes (fits _ (List.getElem_mem inside))]
      refine Action.wp_mono (ih still (by omega)) ?_
      rintro (failure | payloads) after later ⟨rfl, kept, read⟩
      · refine ⟨rfl, kept, ?_⟩
        rintro _ ⟨⟩
      · refine ⟨rfl, kept, ?_⟩
        rintro _ ⟨⟩
        rw [read payloads rfl, List.drop_eq_getElem_cons inside, List.take_succ_cons]

/-- The extent of the event data is that of a history. What was there before is part
of it. -/
theorem wp_dataExtent {bound : Nat}
    (historic : ∀ {shared : SharedBroker Client τ}, Inv shared → shared.broker.Historic)
    (known : bound ≤ (world.broker.messages .dataStream).length) (dataStreamName : String) :
    (dataExtent dataStreamName).wp
      ((brokerDiscipline Inv Holds During Ends).setting
        (streamClients Client may) client call state)
      (fun outcome after later => after = own ∧ ∀ info, outcome = .ok info →
        ∃ frames index, ValidFrames frames index ∧ later.broker.Begins frames ∧
          bound ≤ frames.length + 1 ∧ info = ⟨frames.length + 1, 1, frames.length + 1⟩)
      own world := by
  simp only [dataExtent, Action.wp_bind, Action.wp_refuseIf, Action.wp_ofExcept]
  refine wp_question trivial ?_
  rintro first (failure | _) sees - -
  · refine ⟨rfl, ?_⟩
    rintro _ ⟨⟩
  dsimp only [Except.mapError]
  refine wp_question trivial ?_
  rintro second (failure | info) sees' - ⟨-, performs⟩
  · refine ⟨rfl, ?_⟩
    rintro _ ⟨⟩
  rcases performs with ⟨failure, ⟨⟩⟩ | ⟨messages, stands, ⟨⟩⟩
  dsimp only [Except.mapError]
  split_ifs with empty gap
  · refine ⟨rfl, ?_⟩
    rintro _ ⟨⟩
  · refine ⟨rfl, ?_⟩
    rintro _ ⟨⟩
  have whole : second.broker.messages .dataStream = messages := by
    rw [Broker.messages, stands]
    rfl
  have longer : bound ≤ messages.length := by
    rw [← whole]
    exact (known.trans (sees.grows.broker.messages .dataStream).length_le).trans
      (sees'.grows.broker.messages .dataStream).length_le
  obtain ⟨frames, index, valid, framed⟩ : ∃ frames index, ValidFrames frames index ∧
      messages = Broker.framedMessages frames := by
    rcases (historic sees'.invariant).history with nothing | ⟨frames, index, valid, framed⟩
    · rw [whole] at nothing
      subst nothing
      exact (empty rfl).elim
    · exact ⟨frames, index, valid, whole.symm.trans framed⟩
  subst framed
  have begins : second.broker.Begins frames := by
    rw [Broker.Begins, whole]
  have extent : Broker.infoOf (Broker.framedMessages frames) =
      ⟨frames.length + 1, 1, frames.length + 1⟩ := by
    simp [Broker.infoOf, Broker.length_framedMessages]
  rw [Broker.length_framedMessages] at longer
  rw [extent]
  refine wp_question trivial ?_
  rintro third (failure | raw) sees'' - -
  · refine ⟨rfl, ?_⟩
    rintro _ ⟨⟩
  dsimp only [Except.mapError]
  cases ContainerHeader.decode raw with
  | error failure =>
      refine ⟨rfl, ?_⟩
      rintro _ ⟨⟩
  | ok decoded =>
      dsimp only
      split_ifs
      · refine ⟨rfl, ?_⟩
        rintro _ ⟨⟩
      · refine ⟨rfl, ?_⟩
        rintro _ ⟨⟩
        exact ⟨frames, index, valid, begins.extends sees''.grows.broker, longer, rfl⟩

/-- A chunk of recovery is read whole, or its read fails. -/
theorem wp_readRange {fromSeq toSeq : Nat} (begins : world.broker.Begins frames)
    (fits : ∀ frame ∈ frames, frame.length ≤ u32Max) (some_frame : fromSeq ≤ toSeq)
    (within : toSeq < frames.length) (dataStreamName : String) :
    (readRange dataStreamName (fromSeq + 2) (toSeq + 2)).wp
      ((brokerDiscipline Inv Holds During Ends).setting
        (streamClients Client may) client call state)
      (fun outcome after later => after = own ∧ later.broker.Begins frames ∧
        ∀ payloads, outcome = .ok payloads →
          payloads = (frames.drop fromSeq).take (toSeq + 1 - fromSeq)) own world := by
  unfold readRange
  rw [if_neg (by omega)]
  simp only [Action.wp_bind]
  refine wp_question trivial ?_
  rintro moved (failure | _) sees - -
  · refine ⟨rfl, begins.extends sees.grows.broker, ?_⟩
    rintro _ ⟨⟩
  have count : toSeq + 2 - (fromSeq + 2) + 1 = toSeq + 1 - fromSeq := by omega
  dsimp only [Except.mapError]
  rw [count]
  exact wp_readFrames (begins.extends sees.grows.broker) fits (by omega)

/-- All payloads are read as they were when the client asked for the extent. -/
theorem wp_readDataFrames {bound : Nat}
    (historic : ∀ {shared : SharedBroker Client τ}, Inv shared → shared.broker.Historic)
    (known : bound ≤ (world.broker.messages .dataStream).length) (dataStreamName : String) :
    (readDataFrames dataStreamName).wp
      ((brokerDiscipline Inv Holds During Ends).setting
        (streamClients Client may) client call state)
      (fun outcome after later => after = own ∧ ∀ payloads, outcome = .ok payloads →
        ∃ index, ValidFrames payloads index ∧ later.broker.Begins payloads ∧
          bound ≤ payloads.length + 1) own world := by
  simp only [readDataFrames, Action.wp_bind]
  refine Action.wp_mono (wp_dataExtent historic known dataStreamName) ?_
  rintro (failure | info) after later ⟨rfl, extent⟩
  · refine ⟨rfl, ?_⟩
    rintro _ ⟨⟩
  obtain ⟨frames, index, valid, begins, longer, rfl⟩ := extent info rfl
  dsimp only
  split_ifs with more
  · refine Action.wp_mono (wp_readFrames begins valid.fits (by omega)) ?_
    rintro (failure | payloads) final last ⟨rfl, still, read⟩
    · refine ⟨rfl, ?_⟩
      rintro _ ⟨⟩
    · refine ⟨rfl, ?_⟩
      rintro _ ⟨⟩
      have whole : payloads = frames := by
        rw [read payloads rfl, List.drop_zero, List.take_of_length_le (by omega)]
      subst whole
      exact ⟨index, valid, still, longer⟩
  · have none : frames = [] := List.eq_nil_of_length_eq_zero (by omega)
    subst none
    refine ⟨rfl, ?_⟩
    rintro _ ⟨⟩
    exact ⟨index, valid, begins, longer⟩

end Reads

section Recovery

variable [Digests] {Client τ : Type} [DecidableEq Client] {Inv : SharedBroker Client τ → Prop}
  {Holds : Client → ClientState τ → SharedBroker Client τ → Prop}
  {During : Client → ClientCall τ → ClientState τ → SharedBroker Client τ → Prop}
  {Ends : Client → ClientCall τ → ClientState τ → ClientState τ → SharedBroker Client τ → Prop}
  {may : ClientCall τ → Bool} {client : Client} {call : ClientCall τ} {state : ClientState τ}
  {world : SharedBroker Client τ} {frames : List Bytes} {σ : Type} {engine : NatsEngine}
  {captured : σ}

omit [Digests] in
/-- Where a chunk ends, counted in frames. -/
theorem NatsEngine.chunkEndFrom_eq (chunkStep : Nat) {next : Nat} (more : next < frames.length) :
    ∃ reached, NatsEngine.chunkEndFrom (next + 2) chunkStep (frames.length + 1) = reached + 2 ∧
      next ≤ reached ∧ reached < frames.length := by
  unfold chunkEndFrom checkedAdd
  split_ifs with fits
  · exact ⟨min (next + (chunkStep - 1)) (frames.length - 1), by dsimp only; omega,
      by omega, by omega⟩
  · exact ⟨frames.length - 1, by dsimp only; omega, by omega, by omega⟩

/-- The chunk loop of recovery hands over the frames that were there when it began, or it
fails. -/
theorem wp_recoverLoop (onFrame : FrameRecoveryCallback σ) (dataStreamName : String)
    {chunkStep fuel next total : Nat} (begins : world.broker.Begins frames)
    (fits : ∀ frame ∈ frames, frame.length ≤ u32Max)
    (inRange : frames.length < u64Max) (enough : frames.length ≤ next + fuel)
    (within : next ≤ frames.length) :
    (NatsEngine.recoverLoop onFrame dataStreamName chunkStep (frames.length + 1) fuel (next + 2)
        total).wp
      ((brokerDiscipline Inv Holds During Ends).setting
        (streamClients Client may) client call state)
      (fun outcome after later => after.1 = engine ∧ later.broker.Begins frames ∧
        ∀ count, outcome = .ok count →
          deliverFrames onFrame total (frames.drop next) captured = (.ok count, after.2))
      (engine, captured) world := by
  induction fuel generalizing next total captured world with
  | zero =>
      refine ⟨rfl, begins, ?_⟩
      rintro _ ⟨⟩
      rw [List.drop_eq_nil_of_le (by omega)]
      rfl
  | succ fuel ih =>
      unfold NatsEngine.recoverLoop
      split_ifs with done
      · refine ⟨rfl, begins, ?_⟩
        rintro _ ⟨⟩
        rw [List.drop_eq_nil_of_le (by omega)]
        rfl
      have more : next < frames.length := by omega
      obtain ⟨reached, chunkEnd, forward, inside⟩ := NatsEngine.chunkEndFrom_eq chunkStep more
      rw [chunkEnd]
      simp only [Action.wp_bind, Action.wp_refuseIf, Action.wp_mutate]
      refine Action.wp_mono (wp_readRange begins fits forward inside dataStreamName) ?_
      rintro (failure | payloads) after later ⟨rfl, still, read⟩
      · refine ⟨rfl, still, ?_⟩
        rintro _ ⟨⟩
      obtain rfl := read payloads rfl
      have whole : ((frames.drop next).take (reached + 1 - next)).length =
          reached + 2 - (next + 2) + 1 := by
        rw [List.length_take, List.length_drop]
        omega
      dsimp only
      rw [if_neg (not_not.mpr whole)]
      have split := deliverFrames_append onFrame total
        ((frames.drop next).take (reached + 1 - next))
        ((frames.drop next).drop (reached + 1 - next)) captured
      rw [List.take_append_drop, List.drop_drop] at split
      have onward : next + (reached + 1 - next) = reached + 1 := by omega
      rw [onward] at split
      rw [split]
      cases delivered : deliverFrames onFrame total ((frames.drop next).take (reached + 1 - next))
          captured with
      | mk outcome passed =>
          cases outcome with
          | error failure =>
              refine ⟨rfl, still, ?_⟩
              rintro _ ⟨⟩
          | ok count =>
              dsimp only
              split_ifs with last
              · refine ⟨rfl, still, ?_⟩
                rintro _ ⟨⟩
                rw [List.drop_eq_nil_of_le (by omega)]
                rfl
              · exact ih still (by omega) (by omega)

/-- Recovery takes over the end of the stream exactly when it has handed over every frame
up to there. -/
theorem wp_recoverFrames {bound : Nat}
    (historic : ∀ {shared : SharedBroker Client τ}, Inv shared → shared.broker.Historic)
    (known : bound ≤ (world.broker.messages .dataStream).length) (chunkSize : Nat)
    (onFrame : FrameRecoveryCallback σ) :
    (NatsEngine.recoverFrames chunkSize onFrame).wp
      ((brokerDiscipline Inv Holds During Ends).setting
        (streamClients Client may) client call state)
      (fun outcome after later => match outcome with
        | .error _ => after.1 = engine
        | .ok count => ∃ frames index, ValidFrames frames index ∧ later.broker.Begins frames ∧
            bound ≤ frames.length + 1 ∧
            after.1 = { engine with lastDataSeq := frames.length + 1 } ∧
            deliverFrames onFrame 0 frames captured = (.ok count, after.2))
      (engine, captured) world := by
  simp only [NatsEngine.recoverFrames, Action.wp_bind, Action.wp_get]
  refine Action.wp_mono (wp_dataExtent historic known engine.dataStreamName) ?_
  rintro (failure | info) after later ⟨rfl, extent⟩
  · rfl
  obtain ⟨frames, index, valid, begins, longer, rfl⟩ := extent info rfl
  have second : checkedAdd 1 1 = some 2 := rfl
  dsimp only
  rw [second]
  dsimp only
  split_ifs with empty
  · have none : frames = [] := List.eq_nil_of_length_eq_zero (by omega)
    subst none
    exact ⟨[], index, valid, begins, longer, rfl, rfl⟩
  · simp only [Action.wp_bind, Action.wp_modify, Action.wp_pure]
    refine Action.wp_mono (wp_recoverLoop onFrame engine.dataStreamName begins valid.fits
      valid.inRange (by omega) (Nat.zero_le _)) ?_
    rintro (failure | count) ⟨same, passed⟩ final ⟨rfl, still, delivered⟩
    · rfl
    · exact ⟨frames, index, valid, still, longer, rfl, delivered count rfl⟩

/-- A full read counts itself, and reads what the stream held. -/
theorem NatsEngine.wp_readAll {bound : Nat}
    (historic : ∀ {shared : SharedBroker Client τ}, Inv shared → shared.broker.Historic)
    (known : bound ≤ (world.broker.messages .dataStream).length) :
    NatsEngine.readAll.wp
      ((brokerDiscipline Inv Holds During Ends).setting
        (streamClients Client may) client call state)
      (fun outcome after later => after = { engine with readAllCount := engine.readAllCount + 1 } ∧
        ∀ payloads, outcome = .ok payloads → ∃ index, ValidFrames payloads index ∧
          later.broker.Begins payloads ∧ bound ≤ payloads.length + 1) engine world := by
  simp only [NatsEngine.readAll, Action.wp_bind, Action.wp_modify, Action.wp_get]
  exact wp_readDataFrames historic known engine.dataStreamName

end Recovery

end Pardosa
