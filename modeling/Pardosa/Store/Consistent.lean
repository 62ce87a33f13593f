import Pardosa.Foundation.Interleaving
import Pardosa.Store.Acceptance
import Pardosa.Store.FiberReplay

/-!
# Consistent histories

Which lists of envelopes a session index accepts without a broken fiber, said without
the index: every fiber's envelopes are a history of it, no identifier occurs twice,
and the counts stay within the limits. The index that a consistent list leaves behind
is determined by it.
-/

namespace Pardosa

open Foundation

/-- The fibers of a list of envelopes. -/
def fiberIds (envelopes : List EventEnvelope) : Finset Id :=
  (envelopes.map fun envelope => envelope.header.fiberId).toFinset

/-- A fiber of a list is one with envelopes in it. -/
theorem mem_fiberIds_iff {envelopes : List EventEnvelope} {fiberId : Id} :
    fiberId ∈ fiberIds envelopes ↔ ofFiber envelopes fiberId ≠ [] := by
  unfold fiberIds ofFiber
  rw [List.mem_toFinset, List.mem_map, ne_eq, List.filter_eq_nil_iff]
  simp

/-- The envelopes that frames hold; other frames are passed over. -/
def envelopesOf (frames : List Bytes) : List EventEnvelope :=
  frames.filterMap fun frame => (SessionIndex.decodeAndValidateFrame frame).toOption

/-- No frames hold no envelopes. -/
@[simp] theorem envelopesOf_nil : envelopesOf [] = [] := rfl

/-- A frame holds one envelope or none. -/
theorem envelopesOf_cons (frame : Bytes) (frames : List Bytes) :
    envelopesOf (frame :: frames) =
      (SessionIndex.decodeAndValidateFrame frame).toOption.toList ++ envelopesOf frames := by
  unfold envelopesOf
  rw [List.filterMap_cons]
  cases (SessionIndex.decodeAndValidateFrame frame).toOption with
  | none => rfl
  | some envelope => rfl

/-- A frame that decodes holds its envelope. -/
theorem envelopesOf_cons_ok {frame : Bytes} {frames : List Bytes} {envelope : EventEnvelope}
    (decoded : SessionIndex.decodeAndValidateFrame frame = .ok envelope) :
    envelopesOf (frame :: frames) = envelope :: envelopesOf frames := by
  rw [envelopesOf_cons, decoded]
  rfl

/-- One more envelope adds its own fiber. -/
@[simp] theorem fiberIds_concat (envelopes : List EventEnvelope) (envelope : EventEnvelope) :
    fiberIds (envelopes ++ [envelope]) = insert envelope.header.fiberId (fiberIds envelopes) := by
  ext fiberId
  simp [fiberIds]

namespace SessionIndex

/-- The index that a list of envelopes leaves behind. -/
structure Holds (index : SessionIndex) (envelopes : List EventEnvelope) : Prop where
  slot : ∀ fiberId, index.fibers.lookup fiberId = (tipOf (ofFiber envelopes fiberId)).map .active
  seen : index.seenEventIds = (eventIds envelopes).toFinset
  revision : index.revision = UInt64.ofNat envelopes.length
  indexed : index.hasRawFrames = false

namespace Holds

variable {index other : SessionIndex} {envelopes others : List EventEnvelope}
  {envelope : EventEnvelope}

/-- A new index holds no envelopes. -/
theorem new : Holds .new [] where
  slot := fun _ => rfl
  seen := rfl
  revision := rfl
  indexed := rfl

/-- The tracked fibers are the fibers of the list. -/
theorem keys (holds : Holds index envelopes) : index.fibers.keys = fiberIds envelopes := by
  ext fiberId
  rw [Finmap.mem_keys, mem_fiberIds_iff, ← Finmap.lookup_isSome, holds.slot, Option.isSome_map,
    Option.isSome_iff_ne_none, ne_eq, tipOf_eq_none_iff]

/-- No fiber is broken. -/
theorem not_hasBreak (holds : Holds index envelopes) : ¬index.HasBreak := by
  rintro ⟨fiberId, reason, eventCount, slot⟩
  rw [holds.slot] at slot
  simp at slot

/-- A commit adds the envelope to the list. -/
theorem commit (holds : Holds index envelopes) (envelope : EventEnvelope) :
    Holds (index.commitEnvelopeUnchecked envelope) (envelopes ++ [envelope]) where
  slot := by
    intro fiberId
    by_cases same : fiberId = envelope.header.fiberId
    · rw [same, ofFiber_append_self, tipOf_concat]
      unfold commitEnvelopeUnchecked
      simp only [Finmap.lookup_insert, holds.slot, Option.map_some]
      cases tip : tipOf (ofFiber envelopes envelope.header.fiberId) with
      | none =>
          rw [tipOf_eq_none_iff.mp tip]
          rfl
      | some found =>
          obtain ⟨last, -, rfl⟩ := Option.map_eq_some_iff.mp tip
          rfl
    · rw [index.commitEnvelopeUnchecked_lookup_of_ne same, ofFiber_append_of_ne same]
      exact holds.slot fiberId
  seen := by
    unfold commitEnvelopeUnchecked
    ext eventId
    simp [holds.seen, eventIds]
  revision := by
    unfold commitEnvelopeUnchecked
    simp [holds.revision]
  indexed := holds.indexed

/-- Every list of envelopes leaves an index behind. -/
theorem exists_holds (envelopes : List EventEnvelope) :
    ∃ index : SessionIndex, index.Holds envelopes := by
  induction envelopes using List.reverseRecOn with
  | nil => exact ⟨.new, new⟩
  | append_singleton earlier envelope ih =>
      obtain ⟨index, holds⟩ := ih
      exact ⟨_, holds.commit envelope⟩

/-- A list leaves one index behind. -/
theorem unique (holds : Holds index envelopes) (holdsOther : Holds other envelopes) :
    index = other := by
  have fibers : index.fibers = other.fibers := by
    apply Finmap.ext_lookup
    intro fiberId
    rw [holds.slot, holdsOther.slot]
  have seen := holds.seen.trans holdsOther.seen.symm
  have revision := holds.revision.trans holdsOther.revision.symm
  have indexed := holds.indexed.trans holdsOther.indexed.symm
  cases index
  cases other
  simp_all

/-- The index a list leaves behind does not depend on how its fibers were merged. -/
theorem of_interleaved (holds : Holds index envelopes)
    (same : Interleaved (fun envelope => envelope.header.fiberId) envelopes others) :
    Holds index others where
  slot := by
    intro fiberId
    rw [holds.slot, ofFiber, same fiberId]
    rfl
  seen := by
    rw [holds.seen]
    exact List.toFinset_eq_of_perm _ _ (same.perm.map _)
  revision := by rw [holds.revision, same.perm.length_eq]
  indexed := holds.indexed

end Holds

end SessionIndex

variable [Digests]

/-- Envelopes that are, fiber by fiber, histories, under identifiers of their own and
within the limits of a session. -/
structure Consistent (envelopes : List EventEnvelope) : Prop where
  histories : ∀ fiberId, IsHistory (ofFiber envelopes fiberId)
  distinct : (eventIds envelopes).Nodup
  room : envelopes.length ≤ maxSeenEvents
  capacity : (fiberIds envelopes).card ≤ maxActiveFibers

namespace Consistent

variable {envelopes : List EventEnvelope} {envelope : EventEnvelope}

/-- No envelopes are consistent. -/
theorem nil : Consistent [] where
  histories := fun _ => .nil
  distinct := List.nodup_nil
  room := Nat.zero_le _
  capacity := Nat.zero_le _

/-- A consistent list grows by an envelope that extends its own fiber. -/
theorem concat_iff : Consistent (envelopes ++ [envelope]) ↔
    Consistent envelopes ∧ envelope.header.eventId ≠ zeroId ∧
      envelope.header.eventId ∉ eventIds envelopes ∧ envelopes.length < maxSeenEvents ∧
      Extends (ofFiber envelopes envelope.header.fiberId) envelope ∧
      (ofFiber envelopes envelope.header.fiberId).length < maxEventsPerFiber ∧
      (insert envelope.header.fiberId (fiberIds envelopes)).card ≤ maxActiveFibers := by
  have fresh_iff : (eventIds (envelopes ++ [envelope])).Nodup ↔
      (eventIds envelopes).Nodup ∧ envelope.header.eventId ∉ eventIds envelopes := by
    unfold eventIds
    rw [List.map_append, List.map_singleton, ← List.concat_eq_append, List.nodup_concat, and_comm]
  constructor
  · intro holds
    have own := holds.histories envelope.header.fiberId
    rw [ofFiber_append_self, IsHistory.concat_iff] at own
    obtain ⟨-, linked, named, -, bounded⟩ := own
    obtain ⟨distinct, fresh⟩ := fresh_iff.mp holds.distinct
    have room := holds.room
    have capacity := holds.capacity
    rw [List.length_append, List.length_singleton] at room
    rw [fiberIds_concat] at capacity
    refine ⟨⟨?_, distinct, by omega, ?_⟩, named, fresh, by omega, linked, bounded, capacity⟩
    · intro fiberId
      have history := holds.histories fiberId
      by_cases same : fiberId = envelope.header.fiberId
      · rw [same, ofFiber_append_self, IsHistory.concat_iff] at history
        rw [same]
        exact history.1
      · rwa [ofFiber_append_of_ne same] at history
    · exact Nat.le_trans (Finset.card_le_card (Finset.subset_insert _ _)) capacity
  · rintro ⟨holds, named, fresh, room, linked, bounded, capacity⟩
    refine ⟨?_, fresh_iff.mpr ⟨holds.distinct, fresh⟩, ?_, ?_⟩
    · intro fiberId
      by_cases same : fiberId = envelope.header.fiberId
      · rw [same, ofFiber_append_self, IsHistory.concat_iff]
        refine ⟨holds.histories _, linked, named, ?_, bounded⟩
        intro earlier member equal
        exact fresh (List.mem_map.mpr ⟨earlier, mem_of_mem_ofFiber member, equal⟩)
      · rw [ofFiber_append_of_ne same]
        exact holds.histories fiberId
    · rw [List.length_append, List.length_singleton]
      omega
    · rw [fiberIds_concat]
      exact capacity

/-- The beginning of a consistent list is consistent. -/
theorem of_append {later : List EventEnvelope} (holds : Consistent (envelopes ++ later)) :
    Consistent envelopes := by
  induction later using List.reverseRecOn with
  | nil => rwa [List.append_nil] at holds
  | append_singleton earlier envelope ih =>
      rw [← List.append_assoc] at holds
      exact ih (concat_iff.mp holds).1

/-- Which order the fibers are merged in does not matter. -/
theorem of_interleaved {others : List EventEnvelope} (holds : Consistent envelopes)
    (same : Interleaved (fun envelope => envelope.header.fiberId) envelopes others) :
    Consistent others where
  histories := by
    intro fiberId
    have history := holds.histories fiberId
    rwa [ofFiber, same fiberId] at history
  distinct := (same.perm.map _).nodup_iff.mp holds.distinct
  room := by
    rw [← same.perm.length_eq]
    exact holds.room
  capacity := by
    have fibers : fiberIds others = fiberIds envelopes :=
      (List.toFinset_eq_of_perm _ _ (same.perm.map _)).symm
    rw [fibers]
    exact holds.capacity

end Consistent

namespace SessionIndex

/-- Commits envelopes in order, stopping at the first refusal. -/
def commitEnvelopes (index : SessionIndex) : List EventEnvelope →
    Except OperationFailure SessionIndex
  | [] => .ok index
  | envelope :: envelopes =>
      match index.commitEnvelope envelope with
      | (.error failure, _) => .error failure
      | (.ok (), after) => after.commitEnvelopes envelopes

namespace Holds

variable {index after : SessionIndex} {envelopes : List EventEnvelope} {envelope : EventEnvelope}

/-- The index admits what keeps the list consistent. -/
theorem admits_iff (holds : Holds index envelopes) (consistent : Consistent envelopes) :
    index.Admits envelope ↔ Consistent (envelopes ++ [envelope]) := by
  have card : index.seenEventIds.card = envelopes.length := by
    rw [holds.seen, List.toFinset_card_of_nodup consistent.distinct, eventIds, List.length_map]
  have seen : envelope.header.eventId ∈ index.seenEventIds ↔
      envelope.header.eventId ∈ eventIds envelopes := by
    rw [holds.seen, List.mem_toFinset]
  have capacity := consistent.capacity
  have continues_iff : index.Continues envelope ↔
      Extends (ofFiber envelopes envelope.header.fiberId) envelope ∧
        (ofFiber envelopes envelope.header.fiberId).length < maxEventsPerFiber ∧
        (insert envelope.header.fiberId (fiberIds envelopes)).card ≤ maxActiveFibers := by
    unfold Continues Extends
    rw [holds.slot]
    cases tip : tipOf (ofFiber envelopes envelope.header.fiberId) with
    | none =>
        have untracked := tipOf_eq_none_iff.mp tip
        have absent : envelope.header.fiberId ∉ fiberIds envelopes := by
          rw [mem_fiberIds_iff, untracked]
          simp
        rw [untracked, Finset.card_insert_of_notMem absent]
        simp only [Option.map_none, holds.keys, List.length_nil]
        constructor
        · rintro ⟨genesis, hash, within⟩
          exact ⟨⟨genesis, hash⟩, by decide, within⟩
        · rintro ⟨⟨genesis, hash⟩, -, within⟩
          exact ⟨genesis, hash, within⟩
    | some found =>
        have history := consistent.histories _ found tip
        have tracked : envelope.header.fiberId ∈ fiberIds envelopes := by
          rw [mem_fiberIds_iff]
          intro empty
          rw [empty] at tip
          cases tip
        have named := history.named found.envelope (List.mem_of_getLast? history.last)
        rw [Finset.insert_eq_of_mem tracked, ← history.counted]
        simp only [Option.map_some]
        constructor
        · rintro ⟨precursor, hash, -, within⟩
          exact ⟨⟨precursor, hash⟩, within, capacity⟩
        · rintro ⟨⟨precursor, hash⟩, within, -⟩
          refine ⟨precursor, hash, ?_, within⟩
          rw [precursor]
          exact named
  rw [Consistent.concat_iff]
  constructor
  · rintro ⟨-, named, fresh, room, continues⟩
    rw [seen] at fresh
    rw [card] at room
    exact ⟨consistent, named, fresh, room, continues_iff.mp continues⟩
  · rintro ⟨-, named, fresh, room, continues⟩
    rw [← seen] at fresh
    rw [← card] at room
    exact ⟨holds.indexed, named, fresh, room, continues_iff.mpr continues⟩

/-- More envelopes are committed, one after the other, exactly when they keep the list
consistent; the index then follows from the list. -/
theorem commitEnvelopes_ok_iff {more : List EventEnvelope} (holds : Holds index envelopes)
    (consistent : Consistent envelopes) :
    index.commitEnvelopes more = .ok after ↔
      Consistent (envelopes ++ more) ∧ after.Holds (envelopes ++ more) := by
  induction more generalizing index envelopes with
  | nil =>
      rw [List.append_nil]
      constructor
      · rintro ⟨⟩
        exact ⟨consistent, holds⟩
      · rintro ⟨-, again⟩
        exact congrArg Except.ok (holds.unique again)
  | cons envelope more ih =>
      rw [List.append_cons]
      unfold commitEnvelopes commitEnvelope
      cases validated : index.validateAppend envelope with
      | error failure =>
          simp only [reduceCtorEq, false_iff]
          rintro ⟨kept, -⟩
          have admits := validateAppend_ok_iff.mpr
            ((holds.admits_iff consistent).mpr kept.of_append)
          rw [validated] at admits
          cases admits
      | ok =>
          have further := (holds.admits_iff consistent).mp (validateAppend_ok_iff.mp validated)
          exact ih (holds.commit envelope) further

/-- Recovery of more frames ends without a broken fiber exactly when the frames are
envelopes that keep the list consistent; the index then follows from the list. -/
theorem processFrames_iff {frames : List Bytes} (holds : Holds index envelopes)
    (consistent : Consistent envelopes) :
    index.processFrames frames = .ok after ∧ ¬after.HasBreak ↔
      (∀ frame ∈ frames, ∃ envelope, decodeAndValidateFrame frame = .ok envelope) ∧
        Consistent (envelopes ++ envelopesOf frames) ∧
        after.Holds (envelopes ++ envelopesOf frames) := by
  induction frames generalizing index envelopes with
  | nil =>
      rw [envelopesOf_nil, List.append_nil]
      constructor
      · rintro ⟨⟨⟩, -⟩
        exact ⟨by simp, consistent, holds⟩
      · rintro ⟨-, -, again⟩
        have same : index = after := holds.unique again
        exact ⟨congrArg Except.ok same, again.not_hasBreak⟩
  | cons frame frames ih =>
      constructor
      · rintro ⟨processed, whole⟩
        simp only [processFrames] at processed
        obtain ⟨failure, refused⟩ | ⟨envelope, decoded,
          ⟨admits, committed⟩ | ⟨next, breaks, marked⟩ |
          ⟨failure, _, -, refused⟩⟩ := index.processFrame_cases frame
        · rw [refused] at processed
          cases processed
        · rw [committed] at processed
          have further := (holds.admits_iff consistent).mp admits
          obtain ⟨all, kept, reached⟩ := (ih (holds.commit envelope) further).mp ⟨processed, whole⟩
          rw [envelopesOf_cons_ok decoded, List.append_cons]
          refine ⟨?_, kept, reached⟩
          rintro other (_ | ⟨_, member⟩)
          · exact ⟨envelope, decoded⟩
          · exact all other member
        · rw [marked] at processed
          obtain ⟨fiberId, reason, eventCount, slot⟩ := breaks.hasBreak
          exact (whole (hasBreak_processFrames processed ⟨fiberId, reason, eventCount, slot⟩)).elim
        · rw [refused] at processed
          cases processed
      · rintro ⟨all, kept, reached⟩
        obtain ⟨envelope, decoded⟩ := all frame List.mem_cons_self
        rw [envelopesOf_cons_ok decoded, List.append_cons] at kept reached
        have further := kept.of_append
        have admits := (holds.admits_iff consistent).mpr further
        simp only [processFrames, admits.processFrame decoded]
        refine (ih (holds.commit envelope) further).mpr ⟨?_, kept, reached⟩
        exact fun other member => all other (List.mem_cons_of_mem _ member)

end Holds

/-- Which frames build an index without a broken fiber, and which index. -/
theorem buildFromFrames_iff {frames : List Bytes} {index : SessionIndex} :
    buildFromFrames frames = .ok index ∧ index.hasBrokenFibers = false ↔
      (∀ frame ∈ frames, ∃ envelope, decodeAndValidateFrame frame = .ok envelope) ∧
        Consistent (envelopesOf frames) ∧ index.Holds (envelopesOf frames) := by
  rw [hasBrokenFibers_eq_false_iff]
  exact Holds.new.processFrames_iff .nil

end SessionIndex

end Pardosa
