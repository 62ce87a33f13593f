import Pardosa.File.Reconcile
import Pardosa.Schema.Descriptor

/-!
# The records of an artefact

Both adapters fold the frames of the ownership record into `MetaRecords`: the
last claim and pointers win, the schema descriptor may only be repeated. The
adapters differ in where they find the frames and in how they name the place of
a record they cannot read.
-/

namespace Pardosa

open Foundation

/-- All decoded ownership records of an artefact. -/
structure MetaRecords where
  latestClaim : Option OwnershipClaimRecord
  schemaDescriptor : Option SchemaDescriptor
  outboundPointer : Option OutboundPointerRecord
  inboundPointer : Option InboundPointerRecord
  migrationStart : Option MigrationStartRecord
  migrationEnd : Option MigrationEndRecord
  rescuePolicyChoice : Option RescuePolicyChoiceRecord
deriving DecidableEq

/-- How refusals name the place of a record. -/
structure RecordPlace where
  record : String
  descriptor : String
  conflict : String

namespace MetaRecords

/-- No records at all. -/
def empty : MetaRecords := ⟨none, none, none, none, none, none, none⟩

/-- The refusal of an ownership record that cannot be read. -/
def unreadable (detail : String) : OperationFailure := ⟨.ownershipRecordUnreadable, detail⟩

/-- Takes one decoded record into account. -/
def absorbRecord (place : RecordPlace) (records : MetaRecords) :
    OwnershipRecord → Except OperationFailure MetaRecords
  | .ownershipClaim claim => .ok { records with latestClaim := some claim }
  | .schemaDescriptor schemaVersion descriptorBytes => do
      let (root, consumed) ← (DescriptorNode.decode descriptorBytes).mapError fun failure =>
        unreadable ("failed to decode schema descriptor " ++ place.descriptor ++ ": " ++
          failure.display)
      if consumed ≠ descriptorBytes.length then
        throw (unreadable ("unconsumed trailing bytes in schema descriptor " ++ place.descriptor ++
          ": " ++ toString (descriptorBytes.length - consumed) ++ " bytes remain"))
      match records.schemaDescriptor with
      | some existing =>
          if existing ≠ ⟨schemaVersion, root⟩ then
            throw (unreadable ("conflicting schema descriptor " ++ place.conflict))
          return records
      | none => return { records with schemaDescriptor := some ⟨schemaVersion, root⟩ }
  | .outboundPointer pointer => .ok { records with outboundPointer := some pointer }
  | .inboundPointer pointer => .ok { records with inboundPointer := some pointer }
  | .migrationStart start => .ok { records with migrationStart := some start }
  | .migrationEnd ended => .ok { records with migrationEnd := some ended }
  | .rescuePolicyChoice choice => .ok { records with rescuePolicyChoice := some choice }
  | .cleanRelease _ | .identityStructure _ => .ok records

/-- Decodes the payload of a frame and takes its record into account. -/
def absorbFrame (place : RecordPlace) (records : MetaRecords) (frame : Bytes) :
    Except OperationFailure MetaRecords := do
  let (record, consumed) ← (OwnershipRecord.decode frame).mapError fun failure =>
    unreadable ("failed to decode ownership record " ++ place.record ++ ": " ++ failure.display)
  if consumed ≠ frame.length then
    throw (unreadable ("unconsumed trailing bytes in ownership record " ++ place.record ++ ": " ++
      toString (frame.length - consumed) ++ " bytes remain"))
  absorbRecord place records record

/-- A frame that is taken into account decodes to a record that is. -/
theorem absorbFrame_ok {place : RecordPlace} {records after : MetaRecords} {frame : Bytes}
    (absorbed : absorbFrame place records frame = .ok after) :
    ∃ record consumed, OwnershipRecord.decode frame = .ok (record, consumed) ∧
      absorbRecord place records record = .ok after := by
  simp only [absorbFrame, bind_eq_ok, mapError_eq_ok] at absorbed
  obtain ⟨⟨record, consumed⟩, decoded, rest⟩ := absorbed
  obtain ⟨-, taken⟩ := throwIf_eq_ok.mp rest
  exact ⟨record, consumed, decoded, taken⟩

/-- Records that cannot be read are refused as unreadable. -/
theorem failsOnly_absorbFrame (place : RecordPlace) (records : MetaRecords) (frame : Bytes) :
    FailsOnly (fun failure : OperationFailure => failure.condition = .ownershipRecordUnreadable)
      (absorbFrame place records frame) := by
  unfold absorbFrame
  refine failsOnly_bind (failsOnly_mapError fun _ => rfl) ?_
  rintro ⟨record, consumed⟩
  dsimp only
  split_ifs with trailing
  · exact failsOnly_error rfl
  cases record with
  | schemaDescriptor schemaVersion descriptorBytes =>
      simp only [absorbRecord]
      refine failsOnly_bind (failsOnly_mapError fun _ => rfl) ?_
      rintro ⟨root, consumed⟩
      dsimp only
      split_ifs with left
      · exact failsOnly_error rfl
      cases records.schemaDescriptor with
      | none => exact failsOnly_ok _
      | some existing =>
          dsimp only
          split_ifs with conflict
          · exact failsOnly_error rfl
          · exact failsOnly_ok _
  | _ => exact failsOnly_ok _

/-- The place of every record of a `.meta` file. -/
def inMetaFile : RecordPlace := ⟨"from .meta", "in .meta", "in .meta metadata"⟩

/-- The records of the frames of a `.meta` file. -/
def ofFrames : List Bytes → Except OperationFailure MetaRecords :=
  List.foldlM (absorbFrame inMetaFile) empty

end MetaRecords

/-- Whether a file is there; an error counts as absence. -/
def pathExists (name : FileName) : Program fileOperations Bool :=
  (FileRequest.send .tryExists name).bind fun
  | .ok found => .ret found
  | .error _ => .ret false

/-- Looking for the ownership record leaves the event data alone. -/
theorem wp_pathExists_meta {allows : Option Bytes → Option Bytes → Prop} [Std.Refl allows]
    {world : FileWorld}
    {post : Bool → FileWorld → Prop}
    (holds : ∀ present after, after .pgnoFile = world .pgnoFile → post present after) :
    (pathExists .metaFile).wp (honouring allows) post world := by
  refine (Program.wp_bind _ _ _ _).mpr (wp_send_meta _ ?_)
  rintro (_ | present) after kept
  · exact holds _ _ kept
  · exact holds _ _ kept

variable [Digests]

/-- Reads all ownership records from the `.meta` file. -/
def readMetaRecords {σ : Type} : Action fileOperations OperationFailure σ MetaRecords := do
  let present ← Action.lift (pathExists .metaFile)
  if !present then
    return .empty
  else
    orRefuse (FileRequest.send .openFile .metaFile) .ownershipRecordUnreadable
      "failed to open .meta file: "
    let scanned ← Action.attempt (readContainerFrames .metaFile)
    let scan ← Action.ofExcept (scanned.mapError fun failure : OperationFailure =>
      MetaRecords.unreadable ("failed to read frames from .meta file: " ++ failure.display))
    Action.refuseIf (scan.tailState ≠ .clean)
      (MetaRecords.unreadable "uncommitted torn trailing frame in .meta per C5.12")
    Action.refuseIf (scan.header.formatVersion ≠ containerFormatVersion)
      (MetaRecords.unreadable "container header in .meta has invalid format version")
    Action.ofExcept (MetaRecords.ofFrames scan.frames)

/-- Reading the ownership records leaves the event data alone. -/
theorem wp_readMetaRecords {allows : Option Bytes → Option Bytes → Prop} [Std.Refl allows]
    {world : FileWorld} {σ : Type} {state : σ}
    {post : Except OperationFailure MetaRecords → σ → FileWorld → Prop}
    (holds : ∀ outcome after, after .pgnoFile = world .pgnoFile → post outcome state after) :
    readMetaRecords.wp (honouring allows) post state world := by
  simp only [readMetaRecords, Action.wp_bind, Action.wp_lift]
  refine wp_pathExists_meta ?_
  intro present first kept
  by_cases absent : (!present) = true
  · rw [if_pos absent]
    exact holds _ _ kept
  rw [if_neg absent]
  simp only [Action.wp_bind, Action.wp_attempt, Action.wp_ofExcept,
    Action.wp_refuseIf]
  refine wp_send_meta _ ?_
  rintro (failure | _) second keptSecond
  · exact holds _ _ (keptSecond.trans kept)
  refine wp_readContainerFrames_meta ?_
  rintro (failure | scan) third keptThird
  · exact holds _ _ ((keptThird.trans keptSecond).trans kept)
  dsimp only [Except.mapError]
  split_ifs
  all_goals exact holds _ _ ((keptThird.trans keptSecond).trans kept)

end Pardosa
