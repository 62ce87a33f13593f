import Pardosa.Store.Consistent
import Pardosa.Store.TipBinding

/-!
# Precursor links

The domain checks one link at a time: `admitPrecursorLink` looks at an envelope and at
what a resolver answers for the identifier that the envelope names. The session index
keeps the tips of its fibers instead. The index accepts exactly the histories whose links
are admitted one by one and in which no two envelopes of a fiber name one precursor.
A walk from a tip along admitted links finds the fiber, whatever the resolver answers,
unless it shows two envelopes under one commitment.
-/

namespace Pardosa

open Foundation

/-- Classification of an event envelope's precursor link. -/
structure PrecursorLink where
  envelope : EventEnvelope
  isGenesis : Bool
  classified : if isGenesis then
    envelope.header.precursor = zeroId ∧ envelope.header.precursorHash = zeroHash
    else envelope.header.precursor ≠ zeroId

/-- Classifies an event envelope's precursor link. -/
def PrecursorLink.classify (envelope : EventEnvelope) : Except OperationFailure PrecursorLink :=
  if zeroPrecursor : envelope.header.precursor = zeroId then
    if zeroed : envelope.header.precursorHash = zeroHash then
      .ok ⟨envelope, true, ⟨zeroPrecursor, zeroed⟩⟩
    else .error ⟨.precursorChainBroken none,
      "genesis envelope has non-zero precursor commitment hash per C4.19"⟩
  else .ok ⟨envelope, false, zeroPrecursor⟩

/-- A classified link is about the envelope that was classified. -/
theorem PrecursorLink.classify_ok {envelope : EventEnvelope} {link : PrecursorLink}
    (classifies : classify envelope = .ok link) : link.envelope = envelope := by
  unfold classify at classifies
  split_ifs at classifies
  · cases classifies
    rfl
  · cases classifies
    rfl

section Links

variable [Digests]

/-- Validates precursor linkage along a fiber. -/
def admitPrecursorLink (expectedFiberId : Id) (link : PrecursorLink)
    (resolvePredecessor : Id → Option EventEnvelope) : Except OperationFailure Unit :=
  let header := link.envelope.header
  if header.fiberId ≠ expectedFiberId then
    .error ⟨.precursorChainBroken (some .precursorWrongFiber),
      "event belongs to another fiber per C6.12"⟩
  else if link.isGenesis then .ok ()
  else match resolvePredecessor header.precursor with
    | none => .error ⟨.precursorChainBroken (some .precursorOutOfRange),
        "precursor event ID is outside the artefact per C6.12"⟩
    | some predecessor =>
        if predecessor.header.eventId ≠ header.precursor then
          .error ⟨.precursorChainBroken (some .precursorOutOfRange),
            "resolved predecessor event ID does not match requested precursor ID per C6.12"⟩
        else if predecessor.header.fiberId ≠ expectedFiberId then
          .error ⟨.precursorChainBroken (some .precursorWrongFiber),
            "predecessor event belongs to another fiber per C6.12"⟩
        else if header.precursorHash ≠ predecessor.commitment then
          .error ⟨.precursorChainBroken none,
            "precursor commitment hash does not match predecessor commitment per C5.40"⟩
        else .ok ()

/-- A link is admitted in its own fiber only: at a genesis, or behind an envelope of the
fiber that the resolver answers, under its identifier and commitment. -/
theorem admitPrecursorLink_ok_iff {expectedFiberId : Id} {link : PrecursorLink}
    {resolvePredecessor : Id → Option EventEnvelope} :
    admitPrecursorLink expectedFiberId link resolvePredecessor = .ok () ↔
      link.envelope.header.fiberId = expectedFiberId ∧ (link.isGenesis = true ∨ ∃ predecessor,
        resolvePredecessor link.envelope.header.precursor = some predecessor ∧
        predecessor.header.fiberId = expectedFiberId ∧ Follows predecessor link.envelope) := by
  unfold admitPrecursorLink Follows
  dsimp only
  by_cases own : link.envelope.header.fiberId = expectedFiberId
  · rw [if_neg (not_not_intro own)]
    cases genesis : link.isGenesis with
    | true => simp [own]
    | false =>
        rw [if_neg Bool.false_ne_true]
        cases found : resolvePredecessor link.envelope.header.precursor with
        | none => simp
        | some predecessor =>
            dsimp only
            split_ifs with other elsewhere hash
            · simp [Ne.symm other]
            · simp [elsewhere]
            · simp [hash]
            · push Not at other elsewhere hash
              simp [own, other, elsewhere, hash]
  · rw [if_pos own]
    simp [own]

/-- An envelope whose link the domain admits in its own fiber. -/
def AdmitsLink (resolvePredecessor : Id → Option EventEnvelope) (envelope : EventEnvelope) : Prop :=
  ∃ link, PrecursorLink.classify envelope = .ok link ∧
    admitPrecursorLink envelope.header.fiberId link resolvePredecessor = .ok ()

/-- An admitted link opens a fiber, or follows what the resolver answers within the fiber. -/
theorem admitsLink_iff {resolvePredecessor : Id → Option EventEnvelope} {envelope : EventEnvelope} :
    AdmitsLink resolvePredecessor envelope ↔
      (envelope.header.precursor = zeroId ∧ envelope.header.precursorHash = zeroHash) ∨
      (envelope.header.precursor ≠ zeroId ∧ ∃ predecessor,
        resolvePredecessor envelope.header.precursor = some predecessor ∧
        predecessor.header.fiberId = envelope.header.fiberId ∧ Follows predecessor envelope) := by
  unfold AdmitsLink PrecursorLink.classify
  simp only [admitPrecursorLink_ok_iff]
  split_ifs with zeroPrecursor zeroed
  · simp [zeroPrecursor, zeroed]
  · simp [zeroPrecursor, zeroed]
  · simp [zeroPrecursor]

/-- The resolver that looks an identifier up among envelopes. -/
def resolveAmong (envelopes : List EventEnvelope) (eventId : Id) : Option EventEnvelope :=
  envelopes.find? fun envelope => envelope.header.eventId = eventId

omit [Digests] in
/-- What is looked up among envelopes is one of them, under the identifier asked for. -/
theorem mem_of_resolveAmong {envelopes : List EventEnvelope} {eventId : Id} {found : EventEnvelope}
    (resolves : resolveAmong envelopes eventId = some found) :
    found ∈ envelopes ∧ found.header.eventId = eventId :=
  ⟨List.mem_of_find?_eq_some resolves, by simpa using List.find?_some resolves⟩

omit [Digests] in
/-- Among distinct identifiers, every envelope is found under its own. -/
theorem resolveAmong_self {envelopes : List EventEnvelope} {envelope : EventEnvelope}
    (distinct : (eventIds envelopes).Nodup) (member : envelope ∈ envelopes) :
    resolveAmong envelopes envelope.header.eventId = some envelope := by
  cases resolves : resolveAmong envelopes envelope.header.eventId with
  | none =>
      have absent := List.find?_eq_none.mp resolves envelope member
      simp at absent
  | some found =>
      obtain ⟨among, same⟩ := mem_of_resolveAmong resolves
      rw [List.inj_on_of_nodup_map distinct among member same]

namespace IsHistory

variable {history : List EventEnvelope} {envelope : EventEnvelope}

/-- An envelope is the last of its history, or the next one follows it. -/
theorem last_or_followed (holds : IsHistory history) (member : envelope ∈ history) :
    history.getLast? = some envelope ∨ ∃ later ∈ history, Follows envelope later := by
  induction history using List.reverseRecOn with
  | nil => cases member
  | append_singleton earlier last ih =>
      obtain ⟨before, carried, -⟩ := concat_iff.mp holds
      rcases List.mem_append.mp member with early | isLast
      · right
        rcases ih before early with ends | ⟨later, among, follows⟩
        · refine ⟨last, by simp, ?_⟩
          simpa [Extends, tipOf, ends] using carried
        · exact ⟨later, List.mem_append_left _ among, follows⟩
      · left
        rw [List.mem_singleton.mp isLast]
        simp

/-- An envelope names no other precursor than zeroes and the envelopes before the last. -/
theorem precursor_among (holds : IsHistory (history ++ [envelope])) {each : EventEnvelope}
    (member : each ∈ history ++ [envelope]) : each.header.precursor = zeroId ∨
      ∃ earlier ∈ history, each.header.precursor = earlier.header.eventId := by
  induction history using List.reverseRecOn generalizing envelope with
  | nil =>
      obtain ⟨-, carried, -⟩ := concat_iff.mp holds
      obtain rfl : each = envelope := by simpa using member
      exact .inl carried.1
  | append_singleton earlier last ih =>
      obtain ⟨before, carried, -⟩ := concat_iff.mp holds
      rcases List.mem_append.mp member with early | isLast
      · rcases ih before early with genesis | ⟨other, among, named⟩
        · exact .inl genesis
        · exact .inr ⟨other, List.mem_append_left _ among, named⟩
      · rw [List.mem_singleton.mp isLast]
        unfold Extends at carried
        rw [tipOf_concat] at carried
        exact .inr ⟨last, by simp, carried.1⟩

/-- No envelope of a history names its last one. -/
theorem precursor_ne_last (holds : IsHistory (history ++ [envelope])) {each : EventEnvelope}
    (member : each ∈ history ++ [envelope]) :
    each.header.precursor ≠ envelope.header.eventId := by
  obtain ⟨-, -, named, fresh, -⟩ := concat_iff.mp holds
  rcases holds.precursor_among member with genesis | ⟨earlier, among, names⟩
  · rw [genesis]
    exact named.symm
  · rw [names]
    exact fresh earlier among

end IsHistory

namespace Consistent

variable {envelopes : List EventEnvelope} {envelope : EventEnvelope}

/-- Behind a consistent list, the tip of a fiber is extended by the envelopes whose links
are admitted and that name no precursor a second time. -/
theorem extends_iff (holds : Consistent envelopes) :
    Extends (ofFiber envelopes envelope.header.fiberId) envelope ↔
      AdmitsLink (resolveAmong envelopes) envelope ∧
      ∀ earlier ∈ envelopes, earlier.header.fiberId = envelope.header.fiberId →
        earlier.header.precursor ≠ envelope.header.precursor := by
  have history := holds.histories envelope.header.fiberId
  have member : ∀ {earlier}, earlier ∈ envelopes →
      earlier.header.fiberId = envelope.header.fiberId →
      earlier ∈ ofFiber envelopes envelope.header.fiberId := fun among own =>
    List.mem_filter.mpr ⟨among, by simpa using own⟩
  rw [admitsLink_iff]
  constructor
  · intro carried
    obtain none | ⟨older, last, ends⟩ :=
      List.eq_nil_or_concat (ofFiber envelopes envelope.header.fiberId)
    · rw [none] at carried member
      refine ⟨.inl carried, fun earlier among own => ?_⟩
      cases member among own
    · rw [List.concat_eq_append] at ends
      rw [ends] at carried history member
      have isLast : last ∈ ofFiber envelopes envelope.header.fiberId := by
        rw [ends]
        simp
      obtain ⟨-, -, named, -⟩ := IsHistory.concat_iff.mp history
      have follows : Follows last envelope := by
        unfold Extends at carried
        rwa [tipOf_concat] at carried
      rw [follows.1]
      refine ⟨.inr ⟨named, last, ?_, by simpa using (List.mem_filter.mp isLast).2, follows⟩, ?_⟩
      · exact resolveAmong_self holds.distinct (mem_of_mem_ofFiber isLast)
      · exact fun earlier among own => history.precursor_ne_last (member among own)
  · rintro ⟨genesis | ⟨-, predecessor, resolves, own, follows⟩, unforked⟩
    · -- a fiber that has begun has a first envelope, which names zeroes, too
      cases ends : tipOf (ofFiber envelopes envelope.header.fiberId) with
      | none =>
          unfold Extends
          rw [ends]
          exact genesis
      | some tip =>
          have kept := history tip ends
          cases opens : (ofFiber envelopes envelope.header.fiberId).head? with
          | none =>
              rw [List.head?_eq_none_iff.mp opens] at ends
              cases ends
          | some first =>
              have among := List.mem_of_head? opens
              have zeroed := (kept.genesis first opens).1
              exact (unforked first (mem_of_mem_ofFiber among)
                (by simpa using (List.mem_filter.mp among).2) (zeroed.trans genesis.1.symm)).elim
    · obtain ⟨among, -⟩ := mem_of_resolveAmong resolves
      rcases history.last_or_followed (member among own) with ends | ⟨later, found, names, -⟩
      · unfold Extends tipOf
        rw [ends]
        exact follows
      · exact (unforked later (mem_of_mem_ofFiber found)
          (by simpa using (List.mem_filter.mp found).2) (names.trans follows.1.symm)).elim

end Consistent

/-- Envelopes whose links are admitted one by one, under identifiers of their own and
within the limits of a session, without a fork. -/
structure LinkedHistory (envelopes : List EventEnvelope) : Prop where
  admitted : ∀ earlier envelope later, envelopes = earlier ++ envelope :: later →
    AdmitsLink (resolveAmong earlier) envelope
  unforked : envelopes.Pairwise fun earlier later =>
    earlier.header.fiberId = later.header.fiberId →
      earlier.header.precursor ≠ later.header.precursor
  named : ∀ envelope ∈ envelopes, envelope.header.eventId ≠ zeroId
  distinct : (eventIds envelopes).Nodup
  room : envelopes.length ≤ maxSeenEvents
  capacity : (fiberIds envelopes).card ≤ maxActiveFibers
  bounded : ∀ fiberId, (ofFiber envelopes fiberId).length ≤ maxEventsPerFiber

/-- The beginning of a linked history is linked. -/
theorem LinkedHistory.of_concat {envelopes : List EventEnvelope} {envelope : EventEnvelope}
    (holds : LinkedHistory (envelopes ++ [envelope])) : LinkedHistory envelopes where
  admitted := by
    intro earlier each later split
    refine holds.admitted earlier each (later ++ [envelope]) ?_
    rw [split, List.append_assoc, List.cons_append]
  unforked := (List.pairwise_append.mp holds.unforked).1
  named := fun each member => holds.named each (List.mem_append_left _ member)
  distinct := by
    have distinct := holds.distinct
    unfold eventIds at distinct
    rw [List.map_append] at distinct
    exact distinct.of_append_left
  room := by
    have room := holds.room
    rw [List.length_append] at room
    omega
  capacity := by
    have capacity := holds.capacity
    rw [fiberIds_concat] at capacity
    exact Nat.le_trans (Finset.card_le_card (Finset.subset_insert _ _)) capacity
  bounded := by
    intro fiberId
    have bounded := holds.bounded fiberId
    rw [ofFiber_append, List.length_append] at bounded
    omega

/-- Consistent lists do not fork. -/
theorem Consistent.unforked {envelopes : List EventEnvelope} (holds : Consistent envelopes) :
    envelopes.Pairwise fun earlier later => earlier.header.fiberId = later.header.fiberId →
      earlier.header.precursor ≠ later.header.precursor := by
  induction envelopes using List.reverseRecOn with
  | nil => exact .nil
  | append_singleton earlier envelope ih =>
      obtain ⟨before, -, -, -, carried, -⟩ := concat_iff.mp holds
      refine List.pairwise_append.mpr ⟨ih before, List.pairwise_singleton _ _, ?_⟩
      intro each among _ isLast
      rw [List.mem_singleton.mp isLast]
      exact (before.extends_iff.mp carried).2 each among

/-- The index and the domain accept the same histories: fiber by fiber with the tip that is
kept for it, or link by link with no precursor named twice. -/
theorem consistent_iff_linkedHistory {envelopes : List EventEnvelope} :
    Consistent envelopes ↔ LinkedHistory envelopes := by
  constructor
  · intro holds
    refine ⟨?_, holds.unforked, ?_, holds.distinct, holds.room, holds.capacity, ?_⟩
    · rintro earlier envelope later rfl
      rw [List.append_cons] at holds
      obtain ⟨before, -, -, -, carried, -⟩ := Consistent.concat_iff.mp holds.of_append
      exact (before.extends_iff.mp carried).1
    · intro envelope member
      obtain ⟨earlier, later, rfl⟩ := List.append_of_mem member
      rw [List.append_cons] at holds
      exact (Consistent.concat_iff.mp holds.of_append).2.1
    · intro fiberId
      cases ends : tipOf (ofFiber envelopes fiberId) with
      | none =>
          rw [tipOf_eq_none_iff.mp ends]
          exact Nat.zero_le _
      | some tip => exact (holds.histories fiberId tip ends).bounded
  · intro holds
    induction envelopes using List.reverseRecOn with
    | nil => exact .nil
    | append_singleton earlier envelope ih =>
        have before := ih holds.of_concat
        have room := holds.room
        have bounded := holds.bounded envelope.header.fiberId
        have capacity := holds.capacity
        have distinct := holds.distinct
        rw [List.length_append, List.length_singleton] at room
        rw [ofFiber_append_self, List.length_append, List.length_singleton] at bounded
        rw [fiberIds_concat] at capacity
        unfold eventIds at distinct
        rw [List.map_append, List.nodup_append] at distinct
        refine Consistent.concat_iff.mpr ⟨before, holds.named envelope (by simp), ?_, by omega,
          before.extends_iff.mpr ⟨holds.admitted earlier envelope [] rfl, ?_⟩, by omega, capacity⟩
        · intro seen
          exact distinct.2.2 _ seen _ (by simp) rfl
        · intro each among
          exact (List.pairwise_append.mp holds.unforked).2.2 each among envelope (by simp)

/-- Recovery accepts exactly the frames whose envelopes the domain admits link by link, with
no precursor named twice, and then leaves the one index that holds these envelopes; and so
does every further append. -/
theorem index_admits_linked_histories :
    (∀ (frames : List Bytes) (index : SessionIndex),
      SessionIndex.buildFromFrames frames = .ok index ∧ index.hasBrokenFibers = false ↔
        (∀ frame ∈ frames, ∃ envelope, SessionIndex.decodeAndValidateFrame frame = .ok envelope) ∧
          LinkedHistory (envelopesOf frames) ∧ index.Holds (envelopesOf frames)) ∧
    (∀ envelopes : List EventEnvelope, ∃! index : SessionIndex, index.Holds envelopes) ∧
    ∀ (frames : List Bytes) (index : SessionIndex) (envelope : EventEnvelope),
      SessionIndex.buildFromFrames frames = .ok index → index.hasBrokenFibers = false →
        (index.validateAppend envelope = .ok () ↔
          LinkedHistory (envelopesOf frames ++ [envelope])) := by
  refine ⟨fun frames index => ?_, fun envelopes => ?_, fun frames index envelope built whole => ?_⟩
  · rw [SessionIndex.buildFromFrames_iff, consistent_iff_linkedHistory]
  · obtain ⟨index, holds⟩ := SessionIndex.Holds.exists_holds envelopes
    exact ⟨index, holds, fun other again => again.unique holds⟩
  · obtain ⟨-, consistent, holds⟩ := SessionIndex.buildFromFrames_iff.mp ⟨built, whole⟩
    rw [SessionIndex.validateAppend_ok_iff, holds.admits_iff consistent,
      consistent_iff_linkedHistory]

/-- A walk along admitted links, from an envelope back to the genesis of its fiber; the
envelopes it finds stand oldest first. -/
inductive Walk (resolvePredecessor : Id → Option EventEnvelope) (fiberId : Id) :
    EventEnvelope → List EventEnvelope → Prop where
  | genesis {link : PrecursorLink} {envelope : EventEnvelope}
      (classified : PrecursorLink.classify envelope = .ok link)
      (admitted : admitPrecursorLink fiberId link resolvePredecessor = .ok ())
      (opens : link.isGenesis = true) : Walk resolvePredecessor fiberId envelope [envelope]
  | step {link : PrecursorLink} {envelope predecessor : EventEnvelope}
      {earlier : List EventEnvelope} (classified : PrecursorLink.classify envelope = .ok link)
      (admitted : admitPrecursorLink fiberId link resolvePredecessor = .ok ())
      (chained : link.isGenesis = false)
      (found : resolvePredecessor envelope.header.precursor = some predecessor)
      (before : Walk resolvePredecessor fiberId predecessor earlier) :
      Walk resolvePredecessor fiberId envelope (earlier ++ [envelope])

/-- Two envelopes of two lists that stand under one commitment, though they were written
differently. -/
def Collides (first second : List EventEnvelope) : Prop :=
  ∃ left ∈ first, ∃ right ∈ second, left.commitmentPreimage ≠ right.commitmentPreimage ∧
    blake3 left.commitmentPreimage = blake3 right.commitmentPreimage

namespace Walk

variable {resolvePredecessor : Id → Option EventEnvelope} {fiberId : Id} {envelope : EventEnvelope}
  {chain history : List EventEnvelope}

/-- A walk ends where it began. -/
theorem ends (walk : Walk resolvePredecessor fiberId envelope chain) : envelope ∈ chain := by
  cases walk with
  | genesis => simp
  | step => simp

/-- A walk from the last envelope of a history finds the history, whatever the resolver
answers, or it shows a collision. -/
theorem eq_or_collides (walk : Walk resolvePredecessor fiberId envelope chain)
    (holds : IsHistory (history ++ [envelope])) :
    chain = history ++ [envelope] ∨ Collides chain (history ++ [envelope]) := by
  induction walk generalizing history with
  | @genesis link envelope classified admitted opens =>
      obtain rfl := PrecursorLink.classify_ok classified
      obtain ⟨kept, carried, -⟩ := IsHistory.concat_iff.mp holds
      have zeroed := link.classified
      rw [if_pos opens] at zeroed
      rcases List.eq_nil_or_concat history with rfl | ⟨older, last, rfl⟩
      · exact .inl rfl
      · rw [List.concat_eq_append] at kept carried
        unfold Extends at carried
        rw [tipOf_concat] at carried
        obtain ⟨-, -, named, -⟩ := IsHistory.concat_iff.mp kept
        exact (named (carried.1.symm.trans zeroed.1)).elim
  | @step link envelope predecessor earlier classified admitted chained found before ih =>
      obtain rfl := PrecursorLink.classify_ok classified
      obtain ⟨kept, carried, -⟩ := IsHistory.concat_iff.mp holds
      have names := link.classified
      rw [if_neg (by simp [chained])] at names
      obtain ⟨-, opens | ⟨answered, resolves, -, follows⟩⟩ := admitPrecursorLink_ok_iff.mp admitted
      · rw [chained] at opens
        cases opens
      cases resolves.symm.trans found
      rcases List.eq_nil_or_concat history with rfl | ⟨older, last, rfl⟩
      · exact (names carried.1).elim
      rw [List.concat_eq_append] at kept carried ⊢
      unfold Extends at carried
      rw [tipOf_concat] at carried
      have commits : blake3 predecessor.commitmentPreimage = blake3 last.commitmentPreimage :=
        follows.2.symm.trans carried.2
      by_cases written : predecessor.commitmentPreimage = last.commitmentPreimage
      · obtain rfl := EventEnvelope.eq_of_commitmentPreimage_eq written
        rcases ih kept with rfl | ⟨left, isLeft, right, isRight, collides⟩
        · exact .inl rfl
        · exact .inr ⟨left, List.mem_append_left _ isLeft, right, List.mem_append_left _ isRight,
            collides⟩
      · exact .inr ⟨predecessor, List.mem_append_left _ before.ends, last, by simp, written,
          commits⟩

/-- The resolver that looks among envelopes leads along every history of theirs. -/
theorem of_history {envelopes : List EventEnvelope} (distinct : (eventIds envelopes).Nodup)
    (holds : IsHistory (history ++ [envelope]))
    (among : ∀ each ∈ history ++ [envelope], each ∈ ofFiber envelopes fiberId) :
    Walk (resolveAmong envelopes) fiberId envelope (history ++ [envelope]) := by
  have own : envelope.header.fiberId = fiberId := by
    simpa using (List.mem_filter.mp (among envelope (by simp))).2
  induction history using List.reverseRecOn generalizing envelope with
  | nil =>
      obtain ⟨-, carried, -⟩ := IsHistory.concat_iff.mp holds
      have classified : PrecursorLink.classify envelope = .ok ⟨envelope, true, carried⟩ := by
        unfold PrecursorLink.classify
        rw [dif_pos carried.1, dif_pos carried.2]
      exact .genesis classified (admitPrecursorLink_ok_iff.mpr ⟨own, .inl rfl⟩) rfl
  | append_singleton older last ih =>
      obtain ⟨kept, carried, -⟩ := IsHistory.concat_iff.mp holds
      obtain ⟨-, -, named, -⟩ := IsHistory.concat_iff.mp kept
      have follows : Follows last envelope := by
        unfold Extends at carried
        rwa [tipOf_concat] at carried
      have isLast : last ∈ ofFiber envelopes fiberId := among last (by simp)
      have lastOwn : last.header.fiberId = fiberId := by simpa using (List.mem_filter.mp isLast).2
      have names : envelope.header.precursor ≠ zeroId := by
        rw [follows.1]
        exact named
      have classified : PrecursorLink.classify envelope = .ok ⟨envelope, false, names⟩ := by
        unfold PrecursorLink.classify
        rw [dif_neg names]
      have found : resolveAmong envelopes envelope.header.precursor = some last := by
        rw [follows.1]
        exact resolveAmong_self distinct (mem_of_mem_ofFiber isLast)
      have before := ih kept (fun each member => among each (List.mem_append_left _ member)) lastOwn
      exact .step classified
        (admitPrecursorLink_ok_iff.mpr ⟨own, .inr ⟨last, found, lastOwn, follows⟩⟩) rfl found before

/-- A walk is determined by what its resolver answers. -/
theorem unique {other : List EventEnvelope}
    (walk : Walk resolvePredecessor fiberId envelope chain)
    (again : Walk resolvePredecessor fiberId envelope other) : chain = other := by
  induction walk generalizing other with
  | genesis classified admitted opens =>
      cases again with
      | genesis => rfl
      | step classified' admitted' chained =>
          cases classified.symm.trans classified'
          rw [opens] at chained
          cases chained
  | step classified admitted chained found before ih =>
      cases again with
      | genesis classified' admitted' opens =>
          cases classified.symm.trans classified'
          rw [opens] at chained
          cases chained
      | step classified' admitted' chained' found' before' =>
          cases found.symm.trans found'
          rw [ih before']

end Walk

omit [Digests] in
/-- The latest envelope of a fiber is the last one of its history. -/
theorem SessionIndex.Holds.getLatest {index : SessionIndex} {envelopes : List EventEnvelope}
    {fiberId : Id} {latest : EventEnvelope} (holds : index.Holds envelopes)
    (answers : index.getLatest fiberId = .ok (some latest)) :
    ∃ earlier, ofFiber envelopes fiberId = earlier ++ [latest] := by
  unfold SessionIndex.getLatest at answers
  rw [if_neg (by simp [holds.indexed]), holds.slot] at answers
  cases ends : tipOf (ofFiber envelopes fiberId) with
  | none =>
      rw [ends] at answers
      cases answers
  | some tip =>
      rw [ends] at answers
      cases answers
      obtain ⟨last, isLast, rfl⟩ := Option.map_eq_some_iff.mp ends
      exact List.getLast?_eq_some_iff.mp isLast

/-- A walk from the latest envelope of a fiber along links that the domain admits finds the
fiber's envelopes, all of them in their order and nothing else. With a resolver that looks
identifiers up among the envelopes, that is the one walk there is; and no other resolver,
whatever it answers, leads anywhere else, unless the walk and the fiber show a collision of
the digest. -/
theorem walk_finds_fiber {frames : List Bytes} {index : SessionIndex} {fiberId : Id}
    {latest : EventEnvelope} (built : SessionIndex.buildFromFrames frames = .ok index)
    (whole : index.hasBrokenFibers = false)
    (answers : index.getLatest fiberId = .ok (some latest)) :
    (∀ chain, Walk (resolveAmong (envelopesOf frames)) fiberId latest chain ↔
      chain = ofFiber (envelopesOf frames) fiberId) ∧
    ∀ (resolvePredecessor : Id → Option EventEnvelope) (chain : List EventEnvelope),
      Walk resolvePredecessor fiberId latest chain →
        chain = ofFiber (envelopesOf frames) fiberId ∨
          Collides chain (ofFiber (envelopesOf frames) fiberId) := by
  obtain ⟨-, consistent, holds⟩ := SessionIndex.buildFromFrames_iff.mp ⟨built, whole⟩
  obtain ⟨earlier, ends⟩ := holds.getLatest answers
  have history := consistent.histories fiberId
  rw [ends] at history ⊢
  refine ⟨fun chain => ⟨fun walk => ?_, ?_⟩, fun resolvePredecessor chain walk =>
    walk.eq_or_collides history⟩
  · exact walk.unique (.of_history consistent.distinct history fun each member => ends ▸ member)
  · rintro rfl
    exact .of_history consistent.distinct history fun each member => ends ▸ member

end Links

section Example

attribute [local instance] standardDigests

/-- The frames of a fiber of two events. -/
def shortFrames : List Bytes := shortHistory.map fun envelope => (envelope.encode []).2

/-- The two frames build an index that holds both events. -/
theorem shortFrames_built : ∃ index, SessionIndex.buildFromFrames shortFrames = .ok index ∧
    index.hasBrokenFibers = false ∧ index.Holds shortHistory ∧
    envelopesOf shortFrames = shortHistory := by
  have decodes : ∀ envelope ∈ shortHistory,
      SessionIndex.decodeAndValidateFrame (envelope.encode []).2 = .ok envelope := by
    decide +kernel
  have same : envelopesOf shortFrames = shortHistory := by
    decide +kernel
  have consistent : Consistent shortHistory := by
    have opened : Consistent ([] ++ [shortHistory.head (by decide)]) :=
      Consistent.concat_iff.mpr ⟨.nil, by decide +kernel, by decide +kernel, by decide +kernel,
        ⟨rfl, rfl⟩, by decide +kernel, by decide +kernel⟩
    have both : Consistent
        ([shortHistory.head (by decide)] ++ [shortHistory.getLast (by decide)]) :=
      Consistent.concat_iff.mpr ⟨opened, by decide +kernel, by decide +kernel, by decide +kernel,
        ⟨rfl, rfl⟩, by decide +kernel, by decide +kernel⟩
    exact both
  obtain ⟨index, holds⟩ := SessionIndex.Holds.exists_holds shortHistory
  have built : SessionIndex.buildFromFrames shortFrames = .ok index ∧
      index.hasBrokenFibers = false := by
    rw [SessionIndex.buildFromFrames_iff, same]
    refine ⟨?_, consistent, holds⟩
    intro frame member
    obtain ⟨envelope, among, rfl⟩ := List.mem_map.mp member
    exact ⟨envelope, decodes envelope among⟩
  exact ⟨index, built.1, built.2, holds, same⟩

/-- The index of two linked events admits just what keeps the events linked. -/
theorem index_admits_linked_histories_short : ∃ index,
    SessionIndex.buildFromFrames shortFrames = .ok index ∧ LinkedHistory shortHistory ∧
    ∀ envelope : EventEnvelope, index.validateAppend envelope = .ok () ↔
      LinkedHistory (shortHistory ++ [envelope]) := by
  obtain ⟨index, built, whole, -, same⟩ := shortFrames_built
  have admits := (index_admits_linked_histories.1 shortFrames index).mp ⟨built, whole⟩
  rw [same] at admits
  refine ⟨index, built, admits.2.1, fun envelope => ?_⟩
  have further := index_admits_linked_histories.2.2 shortFrames index envelope built whole
  rwa [same] at further

/-- A walk from the second event finds both. -/
theorem walk_finds_fiber_short : ∃ latest,
    ∀ chain, Walk (resolveAmong shortHistory) ⟨List.replicate 16 2, rfl⟩ latest chain ↔
      chain = shortHistory := by
  obtain ⟨index, built, whole, holds, same⟩ := shortFrames_built
  have answers : index.getLatest ⟨List.replicate 16 2, rfl⟩ =
      .ok (some (shortHistory.getLast (by decide))) := by
    unfold SessionIndex.getLatest
    rw [if_neg (by simp [holds.indexed]), holds.slot]
    rfl
  have walks := (walk_finds_fiber built whole answers).1
  have own : ofFiber shortHistory ⟨List.replicate 16 2, rfl⟩ = shortHistory := by
    decide +kernel
  rw [same, own] at walks
  exact ⟨_, walks⟩

end Example

end Pardosa
