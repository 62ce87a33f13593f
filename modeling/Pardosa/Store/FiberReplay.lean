import Pardosa.Store.History

/-!
# Replayed fibers

A handle is minted envelope by envelope, or reconstituted from the envelopes of its
fiber. `FiberHandle.fromEnvelopes` accepts a list exactly when it is a history of
the fiber as the session index keeps it, and answers the tip of that history.
-/

namespace Pardosa

open Foundation

/-- The lifecycle state in which an envelope leaves its fiber. -/
def EventEnvelope.fiberState (envelope : EventEnvelope) : FiberState :=
  if envelope.header.detached then .detached else .defined

namespace FiberHandle

variable [Digests]

/-- What a replay carries from one envelope to the next. -/
structure Replay where
  idx : Nat
  currentState : FiberState
  prevEventId : Id
  prevCommitment : Hash
  seenIds : Finset Id

namespace Replay

/-- Before the first envelope. -/
def start : Replay := ⟨0, .undefined, zeroId, zeroHash, ∅⟩

/-- The check of the precursor link: zeroes at the start, the predecessor after it. -/
def checkLink (replay : Replay) (header : EnvelopeHeader) : Except OperationFailure Unit :=
  match replay.idx with
  | 0 =>
      if header.precursor ≠ zeroId ∨ header.precursorHash ≠ zeroHash then
        .error ⟨.precursorChainBroken none, "initial envelope must carry genesis precursor zeroes"⟩
      else .ok ()
  | _ + 1 =>
      if header.precursor ≠ replay.prevEventId ∨ header.precursorHash ≠ replay.prevCommitment then
        .error ⟨.precursorChainBroken none, "precursor link does not match predecessor commitment"⟩
      else .ok ()

/-- One envelope of a replay. -/
def step (fiberId : Id) (replay : Replay) (envelope : EventEnvelope) :
    Except OperationFailure Replay := do
  if envelope.header.eventId = zeroId then
    throw ⟨.valueConstraintViolated .empty, "envelope event_id cannot be all-zeroes"⟩
  if envelope.header.eventId ∈ replay.seenIds then
    throw ⟨.precursorChainBroken none,
      "duplicate event ID observed in envelope sequence per C5.61"⟩
  if envelope.header.fiberId ≠ fiberId then
    throw ⟨.precursorChainBroken (some .precursorWrongFiber),
      "envelope fiber_id does not match target fiber"⟩
  replay.checkLink envelope.header
  return ⟨replay.idx + 1, envelope.fiberState, envelope.header.eventId, envelope.commitment,
    insert envelope.header.eventId replay.seenIds⟩

end Replay

/-- Reconstitutes a handle from an ordered sequence of recorded envelopes. -/
def fromEnvelopes (fiberId : Id) (envelopes : List EventEnvelope) :
    Except OperationFailure FiberHandle := do
  if envelopes = [] then
    return new fiberId
  if envelopes.length > maxEventsPerFiber then
    throw ⟨.valueConstraintViolated .tooLong,
      "envelope sequence length exceeds MAX_EVENTS_PER_FIBER"⟩
  let replay ← envelopes.foldlM (Replay.step fiberId) Replay.start
  return ⟨fiberId, replay.currentState, replay.prevEventId, replay.prevCommitment,
    envelopes.length⟩

end FiberHandle

/-- The identifiers of a list of envelopes. -/
def eventIds (envelopes : List EventEnvelope) : List Id :=
  envelopes.map fun envelope => envelope.header.eventId

/-- The tip of a history that is not empty. -/
def tipOf (history : List EventEnvelope) : Option FiberTip :=
  history.getLast?.map fun last => ⟨last, history.length⟩

/-- No envelopes have no tip. -/
@[simp] theorem tipOf_nil : tipOf [] = none := rfl

/-- The last envelope is the tip, counted with those before it. -/
@[simp] theorem tipOf_concat (history : List EventEnvelope) (envelope : EventEnvelope) :
    tipOf (history ++ [envelope]) = some ⟨envelope, history.length + 1⟩ := by
  simp [tipOf]

/-- Only the empty history has no tip. -/
theorem tipOf_eq_none_iff {history : List EventEnvelope} : tipOf history = none ↔ history = [] := by
  simp [tipOf]

variable [Digests]

/-- The handle that stands at a tip. -/
def FiberTip.handle (fiberId : Id) (tip : FiberTip) : FiberHandle :=
  ⟨fiberId, tip.envelope.fiberState, tip.envelope.header.eventId, tip.envelope.commitment,
    tip.eventCount⟩

/-- What a history of one fiber is, the empty one included. -/
def IsHistory (history : List EventEnvelope) : Prop :=
  ∀ tip ∈ tipOf history, FiberHistory history tip

/-- The link an envelope needs behind a history: genesis zeroes, or the tip. -/
def Extends (history : List EventEnvelope) (envelope : EventEnvelope) : Prop :=
  match tipOf history with
  | none => envelope.header.precursor = zeroId ∧ envelope.header.precursorHash = zeroHash
  | some tip => Follows tip.envelope envelope

namespace FiberHistory

variable {history : List EventEnvelope} {tip : FiberTip} {envelope : EventEnvelope}

/-- A history of a tip has that tip. -/
theorem tipOf_eq (holds : FiberHistory history tip) : tipOf history = some tip := by
  unfold tipOf
  rw [holds.last, Option.map_some, ← holds.counted]

/-- A history without its last envelope is a history. -/
theorem dropLast (holds : FiberHistory (history ++ [envelope]) tip) : IsHistory history := by
  intro before isTip
  obtain ⟨last, isLast, rfl⟩ := Option.map_eq_some_iff.mp isTip
  have nonempty : history ≠ [] := by
    rintro rfl
    cases isLast
  refine ⟨?_, (List.isChain_append.mp holds.linked).1, isLast, rfl, ?_, ?_, ?_⟩
  · have genesis := holds.genesis
    rwa [List.head?_append_of_ne_nil _ nonempty] at genesis
  · have bounded := holds.bounded
    rw [List.length_append] at bounded
    omega
  · intro each member
    exact holds.named each (List.mem_append_left _ member)
  · have distinct := holds.distinct
    rw [List.map_append] at distinct
    exact (List.nodup_append.mp distinct).1

/-- The last envelope is linked to the ones before it. -/
theorem extends_last (holds : FiberHistory (history ++ [envelope]) tip) :
    Extends history envelope := by
  unfold Extends
  split
  · rename_i noTip
    obtain rfl := tipOf_eq_none_iff.mp noTip
    exact holds.genesis envelope rfl
  · rename_i before isTip
    obtain ⟨last, isLast, rfl⟩ := Option.map_eq_some_iff.mp isTip
    exact (List.isChain_append.mp holds.linked).2.2 last isLast envelope rfl

end FiberHistory

namespace IsHistory

variable {history : List EventEnvelope} {envelope : EventEnvelope}

/-- No envelopes are a history. -/
theorem nil : IsHistory [] := by
  rintro tip ⟨⟩

/-- A history grows by an envelope that extends it under a new identifier. -/
theorem concat_iff : IsHistory (history ++ [envelope]) ↔
    IsHistory history ∧ Extends history envelope ∧ envelope.header.eventId ≠ zeroId ∧
      (∀ earlier ∈ history, earlier.header.eventId ≠ envelope.header.eventId) ∧
      history.length < maxEventsPerFiber := by
  constructor
  · intro holds
    have whole := holds _ (tipOf_concat history envelope)
    refine ⟨whole.dropLast, whole.extends_last, whole.named envelope (by simp), ?_, ?_⟩
    · intro earlier member same
      have distinct := whole.distinct
      rw [List.map_append, List.nodup_append] at distinct
      exact distinct.2.2 _ (List.mem_map.mpr ⟨earlier, member, rfl⟩) _ (by simp) same
    · have bounded := whole.bounded
      rw [List.length_append, List.length_singleton] at bounded
      omega
  · rintro ⟨holds, linked, named, fresh, room⟩ tip isTip
    rw [tipOf_concat, Option.mem_some_iff] at isTip
    subst isTip
    unfold Extends at linked
    cases before : tipOf history with
    | none =>
        rw [before] at linked
        obtain rfl := tipOf_eq_none_iff.mp before
        exact .start named linked
    | some tip =>
        rw [before] at linked
        have kept := holds tip before
        have counted := kept.counted
        rw [← counted]
        exact kept.extend linked (by omega) named fresh

end IsHistory

namespace FiberHandle

namespace Replay

/-- What a replay carries behind a list of envelopes. -/
def behind (envelopes : List EventEnvelope) : Replay :=
  ⟨envelopes.length, (envelopes.getLast?.map EventEnvelope.fiberState).getD .undefined,
    (envelopes.getLast?.map fun last => last.header.eventId).getD zeroId,
    (envelopes.getLast?.map EventEnvelope.commitment).getD zeroHash,
    (envelopes.map fun envelope => envelope.header.eventId).toFinset⟩

/-- Behind some envelopes, the check of the link is whether they are extended. -/
theorem checkLink_ok_iff {envelopes : List EventEnvelope} {envelope : EventEnvelope} :
    (behind envelopes).checkLink envelope.header = .ok () ↔ Extends envelopes envelope := by
  rcases List.eq_nil_or_concat envelopes with rfl | ⟨earlier, last, rfl⟩
  · simp [behind, checkLink, Extends]
  · simp [behind, checkLink, Extends, Follows]

/-- A replay takes an envelope exactly when it is new, named, its fiber's own and extends
those before it. -/
theorem step_ok_iff {fiberId : Id} {envelopes : List EventEnvelope} {envelope : EventEnvelope}
    {next : Replay} :
    step fiberId (behind envelopes) envelope = .ok next ↔
      envelope.header.eventId ≠ zeroId ∧
        (∀ earlier ∈ envelopes, earlier.header.eventId ≠ envelope.header.eventId) ∧
        envelope.header.fiberId = fiberId ∧ Extends envelopes envelope ∧
        next = behind (envelopes ++ [envelope]) := by
  have seen : envelope.header.eventId ∉ (behind envelopes).seenIds ↔
      ∀ earlier ∈ envelopes, earlier.header.eventId ≠ envelope.header.eventId := by
    simp [behind]
  have ids : insert envelope.header.eventId (behind envelopes).seenIds =
      (behind (envelopes ++ [envelope])).seenIds := by
    ext eventId
    simp [behind]
  have after : (⟨(behind envelopes).idx + 1, envelope.fiberState, envelope.header.eventId,
      envelope.commitment, (behind (envelopes ++ [envelope])).seenIds⟩ : Replay) =
        behind (envelopes ++ [envelope]) := by
    simp [behind]
  unfold step
  simp only [throwIf_eq_ok, bind_eq_ok, pure_eq_ok, seen, not_not, ids, after]
  constructor
  · rintro ⟨named, fresh, own, _, linked, rfl⟩
    exact ⟨named, fresh, own, checkLink_ok_iff.mp linked, rfl⟩
  · rintro ⟨named, fresh, own, linked, rfl⟩
    exact ⟨named, fresh, own, (), checkLink_ok_iff.mpr linked, rfl⟩

/-- The loop goes through exactly on histories of the fiber. -/
theorem foldlM_ok_iff {fiberId : Id} {envelopes : List EventEnvelope} {replay : Replay}
    (bounded : envelopes.length ≤ maxEventsPerFiber) :
    envelopes.foldlM (step fiberId) start = .ok replay ↔
      IsHistory envelopes ∧ (∀ envelope ∈ envelopes, envelope.header.fiberId = fiberId) ∧
        replay = behind envelopes := by
  induction envelopes using List.reverseRecOn generalizing replay with
  | nil =>
      simp only [List.foldlM_nil, pure_eq_ok]
      constructor
      · rintro rfl
        exact ⟨.nil, by simp, rfl⟩
      · rintro ⟨-, -, rfl⟩
        rfl
  | append_singleton earlier envelope ih =>
      rw [List.length_append, List.length_singleton] at bounded
      simp only [List.foldlM_append, List.foldlM_cons, List.foldlM_nil, bind_eq_ok, pure_eq_ok,
        exists_eq_right, ih (Nat.le_of_succ_le bounded), IsHistory.concat_iff]
      constructor
      · rintro ⟨_, ⟨kept, own, rfl⟩, advanced⟩
        obtain ⟨named, fresh, ownsToo, linked, rfl⟩ := step_ok_iff.mp advanced
        refine ⟨⟨kept, linked, named, fresh, bounded⟩, ?_, rfl⟩
        intro each member
        rcases List.mem_append.mp member with before | isLast
        · exact own each before
        · rw [List.mem_singleton.mp isLast]
          exact ownsToo
      · rintro ⟨⟨kept, linked, named, fresh, -⟩, own, rfl⟩
        refine ⟨_, ⟨kept, ?_, rfl⟩, step_ok_iff.mpr ⟨named, fresh, own _ (by simp), linked, rfl⟩⟩
        intro each member
        exact own each (List.mem_append_left _ member)

end Replay

/-- A handle is reconstituted exactly from a history of its fiber, as the handle that
stands at its tip. -/
theorem fromEnvelopes_ok_iff {fiberId : Id} {envelopes : List EventEnvelope}
    {handle : FiberHandle} :
    fromEnvelopes fiberId envelopes = .ok handle ↔
      IsHistory envelopes ∧ (∀ envelope ∈ envelopes, envelope.header.fiberId = fiberId) ∧
        handle = ((tipOf envelopes).map (FiberTip.handle fiberId)).getD (new fiberId) := by
  unfold fromEnvelopes
  rcases List.eq_nil_or_concat envelopes with rfl | ⟨earlier, last, rfl⟩
  · simp only [if_pos, pure_eq_ok, tipOf_nil, Option.map_none, Option.getD_none]
    constructor
    · rintro rfl
      exact ⟨.nil, by simp, rfl⟩
    · rintro ⟨-, -, rfl⟩
      rfl
  · rw [List.concat_eq_append]
    have tip := tipOf_concat earlier last
    rw [if_neg (by simp)]
    simp only [throwIf_eq_ok, bind_eq_ok, pure_eq_ok, Nat.not_lt, tip, Option.map_some,
      Option.getD_some]
    constructor
    · rintro ⟨bounded, _, replayed, rfl⟩
      obtain ⟨kept, own, rfl⟩ := (Replay.foldlM_ok_iff bounded).mp replayed
      exact ⟨kept, own, by simp [Replay.behind, FiberTip.handle]⟩
    · rintro ⟨kept, own, rfl⟩
      have bounded := (kept _ tip).bounded
      refine ⟨bounded, _, (Replay.foldlM_ok_iff bounded).mpr ⟨kept, own, rfl⟩, ?_⟩
      simp [Replay.behind, FiberTip.handle]

end FiberHandle

end Pardosa
