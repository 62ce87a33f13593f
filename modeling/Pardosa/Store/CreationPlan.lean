import Mathlib.Logic.Relation
import Pardosa.Store.Ownership

/-!
# The plan of a creation

An artefact comes into being in three steps: an ownership record without a claim, the
initial claim in it, and the event data. `CreationPlan` says which step may follow which;
what is found of an artefact that is not there in full is a state of the same plan.
-/

namespace Pardosa

/-- Progression of ordered artefact creation. -/
inductive CreationProgression where
  | unseededOwnershipRecordCreated
  | ownershipClaimSeeded (claim : OwnershipClaimRecord)
  | complete
deriving DecidableEq

namespace CreationProgression

/-- Which components of the artefact are there. -/
def presence : CreationProgression → ArtefactPresence
  | .unseededOwnershipRecordCreated | .ownershipClaimSeeded _ => .ownershipRecordOnly
  | .complete => .both

/-- The progression of an incomplete creation. -/
def ofIncomplete : IncompleteCreationState → CreationProgression
  | .unseeded => .unseededOwnershipRecordCreated
  | .claimed claim => .ownershipClaimSeeded claim

end CreationProgression

namespace CreationPlan

/-- Step 1: an unseeded ownership record, where no component exists. -/
def begin (presence : ArtefactPresence) : Except OperationFailure CreationProgression := do
  admitCreate presence
  return .unseededOwnershipRecordCreated

/-- Step 2: the initial claim in an unseeded record. -/
def seedClaim (progression : CreationProgression) (claim : OwnershipClaimRecord) :
    Except OperationFailure CreationProgression :=
  match progression with
  | .unseededOwnershipRecordCreated => .ok (.ownershipClaimSeeded claim)
  | .ownershipClaimSeeded _ | .complete => .error ⟨.concurrencyConflict,
      "ownership record already seeded; cannot re-seed initial claim per C5.8"⟩

/-- Step 3: the event data, behind a record with a claim. -/
def completeEventData : CreationProgression → Except OperationFailure CreationProgression
  | .ownershipClaimSeeded _ => .ok .complete
  | .unseededOwnershipRecordCreated => .error ⟨.ownershipUnestablished,
      "ownership record must carry an established claim before event data creation per C5.10"⟩
  | .complete => .error ⟨.storeAlreadyExists, "artefact creation already completed per C5.10"⟩

/-- Where an interrupted creation is taken up again. -/
def resumeIncompleteCreation (presence : ArtefactPresence) (claim : Option OwnershipClaimRecord) :
    Except OperationFailure IncompleteCreationState :=
  match presence with
  | .ownershipRecordOnly => match claim with
      | some claim => .ok (.claimed claim)
      | none => .ok .unseeded
  | .none => .error ⟨.noArtefactExists,
      "cannot resume creation without ownership record per C5.10"⟩
  | .both => .error ⟨.storeAlreadyExists, "artefact already complete; open instead per C5.62"⟩
  | .eventDataOnly => .error ⟨.ownershipUnestablished,
      "event data without ownership record cannot complete creation per C5.10"⟩

/-- How far a creation has come, by the components that are there and the claim in the
ownership record; nothing where no creation has begun. -/
def observed (presence : ArtefactPresence) (claim : Option OwnershipClaimRecord) :
    Option CreationProgression :=
  match presence with
  | .both => some .complete
  | presence => match resumeIncompleteCreation presence claim with
      | .ok state => some (.ofIncomplete state)
      | .error _ => none

/-- What is observed accounts for exactly the components that are there. -/
theorem presence_of_observed {presence : ArtefactPresence} {claim : Option OwnershipClaimRecord}
    {progression : CreationProgression} (known : observed presence claim = some progression) :
    progression.presence = presence := by
  cases presence with
  | none => cases known
  | eventDataOnly => cases known
  | both =>
      cases known
      rfl
  | ownershipRecordOnly =>
      cases claim with
      | none =>
          cases known
          rfl
      | some claim =>
          cases known
          rfl

/-- One step of the plan. -/
inductive Step : Option CreationProgression → Option CreationProgression → Prop where
  | begin {after : CreationProgression} (begun : CreationPlan.begin .none = .ok after) :
      Step none (some after)
  | seedClaim {before after : CreationProgression} {claim : OwnershipClaimRecord}
      (seeded : CreationPlan.seedClaim before claim = .ok after) : Step (some before) (some after)
  | completeEventData {before after : CreationProgression}
      (completed : CreationPlan.completeEventData before = .ok after) :
      Step (some before) (some after)

/-- Any number of steps. -/
def Follows : Option CreationProgression → Option CreationProgression → Prop :=
  Relation.ReflTransGen Step

end CreationPlan

end Pardosa
