import Pardosa.Foundation.Binding
import Pardosa.Store.FiberReplay

/-!
# A fiber's tip binds the fiber

The precursor hash of a reconstituted handle is the commitment of the last envelope,
which covers a header that carries the commitment before it, back to the genesis
zeroes.
-/

namespace Pardosa

open Foundation

/-- The bytes an envelope's commitment is taken over: header and payload, unframed. -/
def EventEnvelope.commitmentPreimage (envelope : EventEnvelope) : Bytes :=
  envelope.header.encode ++ envelope.payload

/-- The header has a fixed width, so that nothing is lost by writing the payload
straight behind it. -/
theorem EventEnvelope.eq_of_commitmentPreimage_eq {left right : EventEnvelope}
    (same : left.commitmentPreimage = right.commitmentPreimage) : left = right := by
  unfold commitmentPreimage at same
  have read := EnvelopeHeader.decode_encode left.header left.payload
  rw [same, EnvelopeHeader.decode_encode] at read
  have headers : right.header = left.header := by
    injection read with pair
    exact congrArg Prod.fst pair
  rw [headers] at same
  have payloads := List.append_cancel_left same
  cases left
  cases right
  simp_all

section Binding

variable [Digests]

/-- The chain of precursor hashes. -/
def precursorChain : ChainDigest EventEnvelope Hash where
  digest := EventEnvelope.commitment
  link := fun envelope => envelope.header.precursorHash
  origin := zeroHash

/-- The precursor hash a history leaves behind is the tip of its chain. -/
theorem FiberHandle.precursorHash_of_fromEnvelopes {fiberId : Id} {envelopes : List EventEnvelope}
    {handle : FiberHandle} (accepted : fromEnvelopes fiberId envelopes = .ok handle) :
    handle.precursorHash = precursorChain.tip envelopes := by
  obtain ⟨-, -, rfl⟩ := fromEnvelopes_ok_iff.mp accepted
  rcases List.eq_nil_or_concat envelopes with rfl | ⟨earlier, last, rfl⟩
  · rfl
  · rw [List.concat_eq_append, ChainDigest.tip_concat, tipOf_concat]
    rfl

/-- A history is linked by its precursor hashes. -/
theorem IsHistory.linked {history : List EventEnvelope} (holds : IsHistory history) :
    precursorChain.Linked history := by
  induction history using List.reverseRecOn with
  | nil => exact .nil
  | append_singleton earlier envelope ih =>
      obtain ⟨before, carried, -⟩ := IsHistory.concat_iff.mp holds
      refine .concat (ih before) ?_
      unfold Extends at carried
      rcases List.eq_nil_or_concat earlier with rfl | ⟨older, last, rfl⟩
      · exact carried.2
      · rw [List.concat_eq_append] at carried ⊢
        rw [tipOf_concat] at carried
        rw [ChainDigest.tip_concat]
        exact carried.2

/-- Handles of one fiber with the same precursor hash were reconstituted from the same
envelopes: the hash tells the preimages that occur apart, and none of them is hashed to
the genesis zeroes. -/
theorem FiberHandle.fromEnvelopes_binds {fiberId : Id} {first second : List EventEnvelope}
    {handle handle' : FiberHandle}
    (injective : ∀ left ∈ first ++ second, ∀ right ∈ first ++ second,
      blake3 left.commitmentPreimage = blake3 right.commitmentPreimage →
        left.commitmentPreimage = right.commitmentPreimage)
    (nonzero : ∀ envelope ∈ first ++ second, blake3 envelope.commitmentPreimage ≠ zeroHash)
    (accepted : fromEnvelopes fiberId first = .ok handle)
    (accepted' : fromEnvelopes fiberId second = .ok handle')
    (same : handle.precursorHash = handle'.precursorHash) : first = second := by
  have firstLinked := (fromEnvelopes_ok_iff.mp accepted).1.linked
  have secondLinked := (fromEnvelopes_ok_iff.mp accepted').1.linked
  rw [precursorHash_of_fromEnvelopes accepted, precursorHash_of_fromEnvelopes accepted'] at same
  refine firstLinked.eq_of_tip_eq secondLinked ?_ ?_ ?_ same
  · intro left isLeft right isRight commits
    exact EventEnvelope.eq_of_commitmentPreimage_eq
      (injective left (List.mem_append_left _ isLeft) right
        (List.mem_append_right _ isRight) commits)
  · exact fun envelope member => nonzero envelope (List.mem_append_left _ member)
  · exact fun envelope member => nonzero envelope (List.mem_append_right _ member)

end Binding

section Genesis

attribute [local instance] standardDigests

/-- The first event of a fiber and a second one behind it. -/
def shortHistory : List EventEnvelope :=
  let opening : EventEnvelope :=
    ⟨⟨⟨List.replicate 16 1, rfl⟩, ⟨List.replicate 16 2, rfl⟩, false, zeroId, zeroHash⟩, [7]⟩
  [opening, ⟨⟨⟨List.replicate 16 3, rfl⟩, ⟨List.replicate 16 2, rfl⟩, true, opening.header.eventId,
    opening.commitment⟩, [8]⟩]

/-- No part of a history of two ends in the precursor hash of the whole. -/
theorem FiberHandle.fromEnvelopes_binds_short :
    ∃ handle, fromEnvelopes ⟨List.replicate 16 2, rfl⟩ shortHistory = .ok handle ∧
      ∀ handle' part, part <+: shortHistory →
        fromEnvelopes ⟨List.replicate 16 2, rfl⟩ part = .ok handle' →
        handle'.precursorHash = handle.precursorHash → part = shortHistory := by
  have apart : ∀ left ∈ shortHistory, ∀ right ∈ shortHistory,
      blake3 left.commitmentPreimage = blake3 right.commitmentPreimage →
        left.commitmentPreimage = right.commitmentPreimage := by
    decide +kernel
  have nonzero : ∀ envelope ∈ shortHistory, blake3 envelope.commitmentPreimage ≠ zeroHash := by
    decide +kernel
  have accepted : (fromEnvelopes ⟨List.replicate 16 2, rfl⟩ shortHistory).toOption.isSome := by
    decide +kernel
  cases whole : fromEnvelopes ⟨List.replicate 16 2, rfl⟩ shortHistory with
  | error failure =>
      rw [whole] at accepted
      cases accepted
  | ok handle =>
      refine ⟨handle, rfl, ?_⟩
      intro handle' part within reconstituted same
      have occurs : ∀ envelope ∈ part ++ shortHistory, envelope ∈ shortHistory := by
        intro envelope member
        rcases List.mem_append.mp member with inPart | inWhole
        · exact within.subset inPart
        · exact inWhole
      exact fromEnvelopes_binds
        (fun left isLeft right isRight => apart left (occurs left isLeft) right
          (occurs right isRight))
        (fun envelope member => nonzero envelope (occurs envelope member)) reconstituted whole same

end Genesis

end Pardosa
