import Mathlib.Data.List.Nodup
import Pardosa.Foundation.Trace
import Pardosa.Encoding.OwnershipRecord
import Pardosa.Store.Failure

/-!
# Ownership: claims, fences and the succession of epochs

`evaluateClaimCas` decides a compare-and-set claim and `fenceWrite` decides a
write, each against the recorded ownership it is given. Claimants read the
record and submit later, so both decide on what is recorded at that moment, not
on what the claimant saw. The second half runs any number of claimants and
writers over one record, in every interleaving.
-/

namespace Pardosa

open Foundation

/-- Status of an artefact's recorded ownership. -/
inductive RecordedOwnership where
  | claimed (claim : OwnershipClaimRecord)
  | unowned
  | unreadable
  | absent
deriving DecidableEq

/-- Which parts of an artefact are there. -/
inductive ArtefactPresence where
  | none
  | ownershipRecordOnly
  | eventDataOnly
  | both
deriving DecidableEq, Repr

/-- Admits a creation where nothing is there yet. -/
def admitCreate : ArtefactPresence → Except OperationFailure Unit
  | .none => .ok ()
  | .both | .ownershipRecordOnly | .eventDataOnly => .error ⟨.storeAlreadyExists,
      "artefact already exists in storage; open instead per C12.3"⟩

/-- How far a creation without event data came. -/
inductive IncompleteCreationState where
  | claimed (claim : OwnershipClaimRecord)
  | unseeded
deriving DecidableEq

/-- Admitted state on opening an artefact. -/
inductive OpenAdmission where
  | ready
  | incompleteCreation (state : IncompleteCreationState)
  | readOnlyOrphan
deriving DecidableEq

/-- Validates the opening of an artefact. -/
def admitOpen (presence : ArtefactPresence) (claim : Option OwnershipClaimRecord)
    (writeIntent : Bool) : Except OperationFailure OpenAdmission :=
  match presence with
  | .none => .error ⟨.noArtefactExists,
      "no artefact exists on open; strict open does not create per C5.62"⟩
  | .eventDataOnly =>
      if writeIntent then .error ⟨.ownershipUnestablished,
        "event data present without ownership record refused on write path per C5.10"⟩
      else .ok .readOnlyOrphan
  | .ownershipRecordOnly => .ok (.incompleteCreation (match claim with
      | some claim => .claimed claim
      | Option.none => .unseeded))
  | .both => .ok .ready

/-- The length of an ownership claim on the wire, by that of its label. -/
def computeClaimWireLenBounded (labelLen maxWireLen : Nat) : Except OperationFailure Nat :=
  match checkedAdd 69 labelLen with
  | Option.none => .error ⟨.valueConstraintViolated .tooLong, "claim wire length overflows usize"⟩
  | some total =>
      if total > maxWireLen ∨ total > u32Max then
        .error ⟨.valueConstraintViolated .tooLong, "claim wire length " ++ toString total ++
          " exceeds maximum frame limit (" ++ toString maxWireLen ++ ")"⟩
      else .ok total

/-- Fences a write by comparing the carried epoch against recorded ownership. -/
def fenceWrite (carriedEpoch : UInt64) : RecordedOwnership → Except OperationFailure Unit
  | .unreadable => .error ⟨.ownershipRecordUnreadable,
      "ownership record could not be read while fencing write per C5.12"⟩
  | .absent => .error ⟨.ownershipUnestablished,
      "ownership record is absent on write path per C5.10"⟩
  | .unowned => .error ⟨.ownershipUnestablished, "artefact is unowned on write path per C5.10"⟩
  | .claimed claim =>
      if carriedEpoch = claim.epoch then .ok ()
      else .error ⟨.staleEpoch, "carried epoch " ++ toString carriedEpoch ++
        " does not match recorded epoch " ++ toString claim.epoch ++ " per C5.5"⟩

/-- The debug form of an optional epoch. -/
def displayExpected : Option UInt64 → String
  | none => "None"
  | some epoch => "Some(" ++ toString epoch ++ ")"

/-- Evaluates a compare-and-set claim on an ownership record. -/
def evaluateClaimCas (currentRecorded : RecordedOwnership) (expectedEpoch : Option UInt64)
    (candidateClaim : OwnershipClaimRecord) : Except OperationFailure UInt64 :=
  match currentRecorded with
  | .unreadable => .error ⟨.ownershipRecordUnreadable,
      "ownership record unreadable while evaluating claim per C5.12"⟩
  | .absent => .error ⟨.ownershipUnestablished,
      "cannot claim absent ownership record without creation per C5.10"⟩
  | .unowned =>
      if expectedEpoch.isNone then .ok candidateClaim.epoch
      else .error ⟨.concurrencyConflict, "expected epoch specified for unowned record per C5.9"⟩
  | .claimed existing =>
      if some existing.epoch = expectedEpoch ∧ candidateClaim.epoch > existing.epoch then
        .ok candidateClaim.epoch
      else .error ⟨.concurrencyConflict, "CAS failed: current epoch " ++ toString existing.epoch ++
        ", expected " ++ displayExpected expectedEpoch ++ ", candidate " ++
        toString candidateClaim.epoch ++ " per C5.7"⟩

/-- The epoch a reader of the record takes away; none when it is unowned. -/
def RecordedOwnership.epoch : RecordedOwnership → Option UInt64
  | .claimed claim => some claim.epoch
  | .unowned | .unreadable | .absent => none

/-- An accepted claim expected exactly the recorded term and exceeds it. -/
theorem evaluateClaimCas_ok {recorded : RecordedOwnership} {expected : Option UInt64}
    {candidate : OwnershipClaimRecord} {epoch : UInt64}
    (accepted : evaluateClaimCas recorded expected candidate = .ok epoch) :
    epoch = candidate.epoch ∧ expected = recorded.epoch ∧
      ∀ current ∈ recorded.epoch, current < candidate.epoch := by
  cases recorded with
  | unreadable => cases accepted
  | absent => cases accepted
  | unowned =>
      simp only [evaluateClaimCas] at accepted
      split_ifs at accepted with unexpected
      cases accepted
      refine ⟨rfl, Option.isNone_iff_eq_none.mp unexpected, ?_⟩
      intro current found
      cases found
  | claimed existing =>
      simp only [evaluateClaimCas] at accepted
      split_ifs at accepted with matching
      cases accepted
      refine ⟨rfl, matching.1.symm, ?_⟩
      rintro current ⟨⟩
      exact matching.2

/-- A write is admitted exactly when it carries the recorded epoch. -/
theorem fenceWrite_ok_iff {carried : UInt64} {recorded : RecordedOwnership} :
    fenceWrite carried recorded = .ok () ↔ recorded.epoch = some carried := by
  cases recorded with
  | unreadable => simp [fenceWrite, RecordedOwnership.epoch]
  | absent => simp [fenceWrite, RecordedOwnership.epoch]
  | unowned => simp [fenceWrite, RecordedOwnership.epoch]
  | claimed claim =>
      simp only [fenceWrite, RecordedOwnership.epoch, Option.some.injEq]
      split_ifs with same
      · simp [same]
      · simp [Ne.symm same]

/-! ## Any number of claimants over one record -/

/-- One atomically updated record, and the epochs claimants have read from it. -/
structure OwnershipWorld (Claimant : Type) where
  recorded : RecordedOwnership
  reads : List (Claimant × Option UInt64)

/-- What a claimant or a writer does, with the answer it gets. -/
inductive OwnershipEvent (Claimant : Type) where
  | read (who : Claimant)
  | submit (who : Claimant) (expected : Option UInt64) (candidate : OwnershipClaimRecord)
      (outcome : Except OperationFailure UInt64)
  | fence (carried : UInt64) (outcome : Except OperationFailure Unit)

section Succession

variable {Claimant : Type}

/-- A record that exists and carries no claim; nobody has read it. -/
def OwnershipWorld.start : OwnershipWorld Claimant := ⟨.unowned, []⟩

/-- One step: a read, a submission with an epoch its claimant once read, or a
fence check. The record becomes the candidate exactly when the submission is
accepted. -/
inductive OwnershipStep :
    OwnershipWorld Claimant → OwnershipEvent Claimant → OwnershipWorld Claimant → Prop where
  | read {world who} :
      OwnershipStep world (.read who)
        { world with reads := (who, world.recorded.epoch) :: world.reads }
  | accepted {world who expected candidate epoch} (saw : (who, expected) ∈ world.reads)
      (decided : evaluateClaimCas world.recorded expected candidate = .ok epoch) :
      OwnershipStep world (.submit who expected candidate (.ok epoch))
        { world with recorded := .claimed candidate }
  | refused {world who expected candidate failure} (saw : (who, expected) ∈ world.reads)
      (decided : evaluateClaimCas world.recorded expected candidate = .error failure) :
      OwnershipStep world (.submit who expected candidate (.error failure)) world
  | fence {world carried} :
      OwnershipStep world (.fence carried (fenceWrite carried world.recorded)) world

namespace OwnershipEvent

/-- The epoch an accepted claim introduces. -/
def acceptedEpoch : OwnershipEvent Claimant → Option UInt64
  | .submit _ _ _ (.ok epoch) => some epoch
  | _ => none

/-- The term an accepted claim expected to find recorded. -/
def acceptedTerm : OwnershipEvent Claimant → Option (Option UInt64)
  | .submit _ expected _ (.ok _) => some expected
  | _ => none

end OwnershipEvent

/-- The accepted epochs of a run, in order. -/
def acceptedEpochs (events : List (OwnershipEvent Claimant)) : List UInt64 :=
  events.filterMap OwnershipEvent.acceptedEpoch

/-- The terms the accepted claims of a run expected, in order. -/
def acceptedTerms (events : List (OwnershipEvent Claimant)) : List (Option UInt64) :=
  events.filterMap OwnershipEvent.acceptedTerm

/-- The record carries the last accepted epoch, and each accepted claim expected
the term before its own. -/
structure Succession (events : List (OwnershipEvent Claimant)) (world : OwnershipWorld Claimant) :
    Prop where
  terms : acceptedTerms events ++ [world.recorded.epoch] = none :: (acceptedEpochs events).map some
  increasing : (acceptedEpochs events).Pairwise (· < ·)

namespace Succession

variable {events : List (OwnershipEvent Claimant)} {world : OwnershipWorld Claimant}

/-- Nothing has happened where nobody owns the artefact. -/
theorem start : Succession [] (OwnershipWorld.start : OwnershipWorld Claimant) where
  terms := rfl
  increasing := List.Pairwise.nil

/-- The recorded epoch is the last accepted one. -/
theorem recorded (holds : Succession events world) :
    world.recorded.epoch = (acceptedEpochs events).getLast? := by
  have last := congrArg List.getLast? holds.terms
  rw [List.getLast?_concat, List.getLast?_cons] at last
  cases found : (acceptedEpochs events).getLast? with
  | none => simpa [found] using last
  | some epoch => simpa [found] using last

/-- An event without an accepted claim changes neither list. -/
theorem skip (holds : Succession events world) {event : OwnershipEvent Claimant}
    {next : OwnershipWorld Claimant} (epoch : event.acceptedEpoch = none)
    (term : event.acceptedTerm = none) (same : next.recorded = world.recorded) :
    Succession (events ++ [event]) next := by
  constructor
  · simpa [acceptedTerms, acceptedEpochs, epoch, term, same] using holds.terms
  · simpa [acceptedEpochs, epoch] using holds.increasing

/-- A claim that is accepted succeeds the one before it. -/
theorem accept (holds : Succession events world) {who : Claimant} {expected : Option UInt64}
    {candidate : OwnershipClaimRecord} {epoch : UInt64}
    (decided : evaluateClaimCas world.recorded expected candidate = .ok epoch) :
    Succession (events ++ [.submit who expected candidate (.ok epoch)])
      { world with recorded := .claimed candidate } := by
  obtain ⟨rfl, rfl, exceeds⟩ := evaluateClaimCas_ok decided
  have epochs : acceptedEpochs (events ++ [.submit who world.recorded.epoch candidate
      (.ok candidate.epoch)]) = acceptedEpochs events ++ [candidate.epoch] := by
    simp [acceptedEpochs, OwnershipEvent.acceptedEpoch]
  have terms : acceptedTerms (events ++ [.submit who world.recorded.epoch candidate
      (.ok candidate.epoch)]) = acceptedTerms events ++ [world.recorded.epoch] := by
    simp [acceptedTerms, OwnershipEvent.acceptedTerm]
  constructor
  · rw [terms, epochs, holds.terms]
    simp [RecordedOwnership.epoch]
  · rw [epochs, List.pairwise_append]
    refine ⟨holds.increasing, List.pairwise_singleton _ _, ?_⟩
    intro earlier member latest isLatest
    rw [List.mem_singleton.mp isLatest]
    -- The recorded epoch is at least every earlier one, and the candidate exceeds it.
    obtain ⟨past, current, split⟩ := List.eq_nil_or_concat' (acceptedEpochs events) |>.resolve_left
      (List.ne_nil_of_mem member)
    have recorded := holds.recorded
    rw [split, List.getLast?_concat] at recorded
    have below := exceeds current recorded
    have increasing := holds.increasing
    rw [split] at increasing member
    rcases List.mem_append.mp member with before | isCurrent
    · exact UInt64.lt_trans
        ((List.pairwise_append.mp increasing).2.2 earlier before current (by simp)) below
    · rw [List.mem_singleton.mp isCurrent]
      exact below

/-- Every event keeps the succession. -/
theorem step (holds : Succession events world) {event : OwnershipEvent Claimant}
    {next : OwnershipWorld Claimant} (transition : OwnershipStep world event next) :
    Succession (events ++ [event]) next := by
  cases transition with
  | read => exact holds.skip rfl rfl rfl
  | accepted _ decided => exact holds.accept decided
  | refused _ _ => exact holds.skip rfl rfl rfl
  | fence => exact holds.skip rfl rfl rfl

/-- Each term has at most one successor. -/
theorem terms_nodup (holds : Succession events world) : (acceptedTerms events).Nodup := by
  have distinct : (none :: (acceptedEpochs events).map some).Nodup := by
    rw [List.nodup_cons]
    refine ⟨by simp, ?_⟩
    refine List.Nodup.map (fun _ _ same => Option.some.inj same) ?_
    exact holds.increasing.imp fun below same => UInt64.ne_of_lt below same
  rw [← holds.terms] at distinct
  exact (List.nodup_append.mp distinct).1

/-- An accepted epoch that is not the last is below the last of every extension. -/
theorem superseded {carried : UInt64} {earlier later : List UInt64}
    (increasing : (earlier ++ later).Pairwise (· < ·)) (accepted : carried ∈ earlier)
    (passed : earlier.getLast? ≠ some carried) : (earlier ++ later).getLast? ≠ some carried := by
  intro last
  rcases List.eq_nil_or_concat' later with rfl | ⟨past, latest, rfl⟩
  · rw [List.append_nil] at last
    exact passed last
  · rw [← List.append_assoc, List.getLast?_concat] at last
    have same : latest = carried := Option.some.inj last
    have below := (List.pairwise_append.mp increasing).2.2 carried accepted latest (by simp)
    rw [same] at below
    exact UInt64.lt_irrefl _ below

end Succession

/-- Every run is a succession. -/
theorem run_succession {events : List (OwnershipEvent Claimant)} {world : OwnershipWorld Claimant}
    (run : Trace OwnershipStep OwnershipWorld.start events world) : Succession events world :=
  run.invariant Succession.start fun holds transition => holds.step transition

/-- A fence check inside a run decides by the last epoch accepted before it. -/
theorem fence_decides {before after : List (OwnershipEvent Claimant)}
    {world : OwnershipWorld Claimant} {carried : UInt64} {outcome : Except OperationFailure Unit}
    (run : Trace OwnershipStep OwnershipWorld.start (before ++ .fence carried outcome :: after)
      world) :
    outcome = .ok () ↔ (acceptedEpochs before).getLast? = some carried := by
  obtain ⟨middle, first, second⟩ := run.split
  cases second with
  | cons transition _ =>
      cases transition with
      | fence => rw [fenceWrite_ok_iff, (run_succession first).recorded]

/-- Over every interleaving of reads, submissions and fence checks: accepted
epochs strictly increase, no term has two successors, a fence admits exactly
the last accepted epoch, and an epoch once accepted and later refused is
refused for ever. -/
theorem ownership_single_succession {events : List (OwnershipEvent Claimant)}
    {world : OwnershipWorld Claimant}
    (run : Trace OwnershipStep OwnershipWorld.start events world) :
    (acceptedEpochs events).Pairwise (· < ·) ∧
    (acceptedTerms events).Nodup ∧
    (∀ before carried outcome after, events = before ++ .fence carried outcome :: after →
      (outcome = .ok () ↔ (acceptedEpochs before).getLast? = some carried)) ∧
    (∀ before carried refusal between outcome after,
      events = before ++ .fence carried (.error refusal) ::
        (between ++ .fence carried outcome :: after) →
      carried ∈ acceptedEpochs before → ∃ failure, outcome = .error failure) := by
  refine ⟨(run_succession run).increasing, (run_succession run).terms_nodup, ?_, ?_⟩
  · rintro before carried outcome after rfl
    exact fence_decides run
  · rintro before carried refusal between outcome after rfl accepted
    have passed : (acceptedEpochs before).getLast? ≠ some carried := by
      intro last
      have admitted := (fence_decides run).mpr last
      cases admitted
    -- Read the same run with the later fence check in the middle.
    have regrouped : before ++ .fence carried (.error refusal) ::
        (between ++ .fence carried outcome :: after) =
        (before ++ .fence carried (.error refusal) :: between) ++
          .fence carried outcome :: after := by
      simp
    rw [regrouped] at run
    obtain ⟨_, first, _⟩ := run.split
    have increasing := (run_succession first).increasing
    have extended : acceptedEpochs (before ++ .fence carried (.error refusal) :: between) =
        acceptedEpochs before ++ acceptedEpochs between := by
      simp [acceptedEpochs, OwnershipEvent.acceptedEpoch, List.filterMap_cons]
    rw [extended] at increasing
    have refused := Succession.superseded increasing accepted passed
    rw [← extended] at refused
    cases outcome with
    | error failure => exact ⟨failure, rfl⟩
    | ok => exact (refused ((fence_decides run).mp rfl)).elim

/-- A claim for an epoch, with all other fields empty. -/
def bareClaim (epoch : UInt64) : OwnershipClaimRecord :=
  ⟨epoch, zeroId, zeroId, 0, 0, 0, ⟨"", by decide⟩⟩

/-- Two claimants read an unowned record; the first wins it, the second is
refused, reads again and succeeds it, and the first writer is fenced off. -/
def contestedSuccession : List (OwnershipEvent Bool) :=
  [.read true, .read false, .submit true none (bareClaim 1) (.ok 1),
    .submit false none (bareClaim 2) (evaluateClaimCas (.claimed (bareClaim 1)) none (bareClaim 2)),
    .fence 1 (.ok ()), .read false, .submit false (some 1) (bareClaim 2) (.ok 2),
    .fence 1 (fenceWrite 1 (.claimed (bareClaim 2))),
    .fence 1 (fenceWrite 1 (.claimed (bareClaim 2)))]

/-- Of two claimants the second succeeds the first, whose writer is fenced off. -/
theorem ownership_single_succession_contested :
    acceptedEpochs contestedSuccession = [1, 2] ∧
      (acceptedTerms contestedSuccession).Nodup ∧
      ∃ failure, fenceWrite 1 (.claimed (bareClaim 2)) = .error failure := by
  have run : ∃ world, Trace OwnershipStep OwnershipWorld.start contestedSuccession world := by
    refine ⟨_, .cons .read (.cons .read (.cons (.accepted (by decide) rfl) (.cons
      (.refused (by decide) rfl) (.cons .fence (.cons .read (.cons (.accepted (by decide) rfl)
        (.cons .fence (.cons .fence .nil))))))))⟩
  obtain ⟨world, run⟩ := run
  obtain ⟨_, terms, _, superseded⟩ := ownership_single_succession run
  exact ⟨rfl, terms, superseded (contestedSuccession.take 7) 1 _ [] _ [] rfl (by decide)⟩

end Succession

end Pardosa
