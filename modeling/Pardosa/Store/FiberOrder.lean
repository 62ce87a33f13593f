import Pardosa.Store.Consistent
import Pardosa.Store.WholeHistory

/-!
# The order across fibers

An index keeps what each fiber holds in order, and of the order across fibers nothing.
Merging the same fibers another way is accepted exactly as the first way was, with
the same index and the same answers about every fiber.
-/

namespace Pardosa

open Foundation

/-- The fiber a frame is written to, when it is an envelope. -/
def frameFiber (frame : Bytes) : Option Id :=
  (SessionIndex.decodeAndValidateFrame frame).toOption.map fun envelope => envelope.header.fiberId

/-- Frames merged another way are envelopes merged another way. -/
theorem interleaved_envelopesOf {frames frames' : List Bytes}
    (same : Interleaved frameFiber frames frames') :
    Interleaved (fun envelope => envelope.header.fiberId) (envelopesOf frames)
      (envelopesOf frames') := by
  have keyed : Interleaved (fun envelope : EventEnvelope => some envelope.header.fiberId)
      (envelopesOf frames) (envelopesOf frames') := by
    refine same.filterMap ?_
    intro frame envelope decoded
    simp only [frameFiber, decoded, Option.map_some]
  intro fiberId
  simpa using keyed (some fiberId)

section Orders

variable [Digests]

namespace SessionIndex

/-- Another merge of the fibers builds the same index. -/
theorem buildFromFrames_interleaved {frames frames' : List Bytes} {index : SessionIndex}
    (same : Interleaved frameFiber frames frames') (built : buildFromFrames frames = .ok index)
    (whole : index.hasBrokenFibers = false) : buildFromFrames frames' = .ok index := by
  obtain ⟨envelopes, consistent, holds⟩ := buildFromFrames_iff.mp ⟨built, whole⟩
  have merged := interleaved_envelopesOf same
  refine (buildFromFrames_iff.mpr ⟨?_, consistent.of_interleaved merged,
    holds.of_interleaved merged⟩).1
  intro frame member
  exact envelopes frame (same.mem_iff.mpr member)

end SessionIndex

/-- Whether and how an index comes of frames does not depend on the order across
fibers, and neither does what a writer opened over them answers about a fiber. -/
theorem SessionIndex.cross_fiber_order_irrelevant {frames frames' : List Bytes}
    {index : SessionIndex} (same : Interleaved frameFiber frames frames')
    (built : buildFromFrames frames = .ok index) (whole : index.hasBrokenFibers = false) :
    (∃ index', buildFromFrames frames' = .ok index' ∧ index'.hasBrokenFibers = false ∧
      index'.fibers = index.fibers ∧ index'.seenEventIds = index.seenEventIds ∧
      index'.revision = index.revision) ∧
    ∀ {S : Signature} {Engine World : Type} [StorageEngine S Engine] {setting : Setting S World}
      {engine engine' after after' : Engine} {world world' later later' : World}
      {store : Store Engine} {outcome : Except OperationFailure (Store Engine)},
      StorageEngine.Delivers setting engine world (.ok frames) →
      StorageEngine.Delivers setting engine' world' (.ok frames') →
      Store.openWriter.Runs setting engine world (.ok store) after later →
      Store.openWriter.Runs setting engine' world' outcome after' later' →
      StorageEngine.uncertainDiagnostic after' = StorageEngine.uncertainDiagnostic after →
      ∃ store', outcome = .ok store' ∧ ∀ fiberId,
        store'.fiber fiberId = store.fiber fiberId ∧
        store'.getLatest fiberId = store.getLatest fiberId := by
  have again := buildFromFrames_interleaved same built whole
  refine ⟨⟨index, again, whole, rfl, rfl, rfl⟩, ?_⟩
  intro S Engine World _ setting engine engine' after after' world world' later later' store outcome
    delivers delivers' opens opens' diagnostics
  obtain ⟨fits, index₁, built₁, rfl⟩ :=
    (Action.wp_of_runs opens (Store.wp_openWriter_delivers delivers) store).mp rfl
  cases built.symm.trans built₁
  have opened := (Action.wp_of_runs opens' (Store.wp_openWriter_delivers delivers') _).mpr
    ⟨fun frame member => fits frame (same.mem_iff.mpr member), index, again, rfl⟩
  refine ⟨_, opened, ?_⟩
  intro fiberId
  have uncertain : (⟨after', RollingCommitment.new.absorb frames', index, none, false, none⟩ :
      Store Engine).isUncertain =
      (⟨after, RollingCommitment.new.absorb frames, index, none, false, none⟩ :
        Store Engine).isUncertain := by
    simp only [Store.isUncertain, diagnostics]
  have lookup : (⟨after', RollingCommitment.new.absorb frames', index, none, false, none⟩ :
      Store Engine).checkPointLookup =
      (⟨after, RollingCommitment.new.absorb frames, index, none, false, none⟩ :
        Store Engine).checkPointLookup := by
    simp only [Store.checkPointLookup, uncertain, Store.uncertainFailure, Store.sessionDiagnostic,
      diagnostics]
  constructor
  · simp only [Store.fiber, lookup]
  · simp only [Store.getLatest, lookup]

end Orders

section Pair

attribute [local instance] standardDigests

/-- Two first events, in either order. -/
theorem SessionIndex.cross_fiber_order_irrelevant_pair :
    ∃ index, buildFromFrames [firstFrame, otherFrame] = .ok index ∧
      buildFromFrames [otherFrame, firstFrame] = .ok index ∧
      ∃ store store' : Store InMemoryEngine,
        Store.openWriter.Runs stillWorld (loggedEngine [firstFrame, otherFrame]) () (.ok store)
          (loggedEngine [firstFrame, otherFrame]) () ∧
        Store.openWriter.Runs stillWorld (loggedEngine [otherFrame, firstFrame]) () (.ok store')
          (loggedEngine [otherFrame, firstFrame]) () ∧
        ∀ fiberId, store'.fiber fiberId = store.fiber fiberId ∧
          store'.getLatest fiberId = store.getLatest fiberId := by
  have merged : Interleaved frameFiber [firstFrame, otherFrame] [otherFrame, firstFrame] := by
    have first : frameFiber firstFrame = some (repeatedId 2) := by decide +kernel
    have other : frameFiber otherFrame = some (repeatedId 4) := by decide +kernel
    have apart : (some (repeatedId 2) : Option Id) ≠ some (repeatedId 4) := by decide
    intro shared
    by_cases own : some (repeatedId 2) = shared
    · subst own
      simp [first, other, apart.symm]
    · simp [List.filter_cons, first, own]
  have fits : ∀ frame ∈ [firstFrame, otherFrame], frame.length ≤ u32Max := by decide +kernel
  have fits' : ∀ frame ∈ [otherFrame, firstFrame], frame.length ≤ u32Max := by decide +kernel
  obtain ⟨index, built, whole⟩ : ∃ index, buildFromFrames [firstFrame, otherFrame] = .ok index ∧
      index.hasBrokenFibers = false :=
    ⟨_, rfl, by decide +kernel⟩
  obtain ⟨⟨index', built', -, -⟩, answers⟩ := cross_fiber_order_irrelevant merged built whole
  have opens := InMemoryEngine.opens fits (rfl : (loggedEngine [firstFrame, otherFrame]).blocks = _)
    built
  have opens' := InMemoryEngine.opens fits'
    (rfl : (loggedEngine [otherFrame, firstFrame]).blocks = _)
    built'
  obtain ⟨store', opened, same⟩ := answers (InMemoryEngine.delivers_frames fits rfl)
    (InMemoryEngine.delivers_frames fits' rfl) opens opens' rfl
  exact ⟨index, built, buildFromFrames_interleaved merged built whole, _, store', opens,
    opened ▸ opens', same⟩

end Pair

end Pardosa
