import Pardosa.Foundation.Separated
import Pardosa.Nats.Adapter

/-!
# Names of an artefact on JetStream

A locator derives every name of an artefact from a hierarchy of tokens: a dash
joins the tokens of a stream name, a dot joins those of a subject. A token never
holds a dot and may hold a dash, so the subject of an artefact is its own and a
stream name is not.
-/

namespace Pardosa

open Foundation

/-- The names that are derived from a token hierarchy. -/
structure NatsLocator where
  tokens : List String
  streamStem : String
  subjectPrefix : String
  metaStreamName : String
  dataStreamName : String
  metaSubject : String
  dataSubject : String
deriving DecidableEq, Repr

def isAsciiAlphanumeric (byte : UInt8) : Bool :=
  (48 ≤ byte && byte ≤ 57) || (65 ≤ byte && byte ≤ 90) || (97 ≤ byte && byte ≤ 122)

namespace NatsLocator

/-- A byte that a token may contain. -/
def isNatsSafe (byte : UInt8) : Bool :=
  isAsciiAlphanumeric byte || byte == 95 || byte == 45

def verifyToken (token : String) : Except OperationFailure Unit :=
  if token = "" then
    .error ⟨.valueConstraintViolated .empty, "NatsLocator token must not be empty"⟩
  else if !(utf8Bytes token).all isNatsSafe then
    .error ⟨.valueConstraintViolated .invalidChar,
      "NatsLocator token must contain only ASCII alphanumeric, '_', or '-' bytes"⟩
  else .ok ()

def fromTokens (tokens : List String) : Except OperationFailure NatsLocator := do
  if tokens = [] then
    throw ⟨.valueConstraintViolated .empty, "NatsLocator requires a non-empty token hierarchy"⟩
  tokens.forM verifyToken
  let subjectPrefix := String.intercalate "." tokens
  let streamStem := String.intercalate "-" tokens
  if 128 < (utf8Bytes streamStem).length then
    throw ⟨.valueConstraintViolated .tooLong,
      "NatsLocator stream stem exceeds the 128-byte bound"⟩
  return {
    metaStreamName := streamStem ++ "_meta"
    dataStreamName := streamStem ++ "_data"
    metaSubject := subjectPrefix ++ ".meta"
    dataSubject := subjectPrefix ++ ".data"
    tokens := tokens
    streamStem := streamStem
    subjectPrefix := subjectPrefix
  }

def new (tokens : List String) : Except OperationFailure NatsLocator := fromTokens tokens

def fromStem (stem : String) : Except OperationFailure NatsLocator := new [stem]

def child (locator : NatsLocator) (token : String) : Except OperationFailure NatsLocator :=
  fromTokens (locator.tokens ++ [token])

/-- A stem made safe byte by byte, within the bound of a stream stem. -/
def sanitizedBytes (stem : String) : Bytes :=
  let replaced := (utf8Bytes stem).map fun byte => if isNatsSafe byte then byte else 45
  let filled := if replaced = [] then [95] else replaced
  filled.take 128

/-- The token that stands for a stem which may not be one. -/
def sanitized (stem : String) : String :=
  String.ofList ((sanitizedBytes stem).map fun byte => Char.ofNat byte.toNat)

/-- What an accepted hierarchy satisfies, and the names that come from it. -/
structure Named (locator : NatsLocator) : Prop where
  nonempty : locator.tokens ≠ []
  verified : ∀ token ∈ locator.tokens, verifyToken token = .ok ()
  bounded : (utf8Bytes locator.streamStem).length ≤ 128
  subjectPrefix : locator.subjectPrefix = String.intercalate "." locator.tokens
  streamStem : locator.streamStem = String.intercalate "-" locator.tokens
  metaStreamName : locator.metaStreamName = locator.streamStem ++ "_meta"
  dataStreamName : locator.dataStreamName = locator.streamStem ++ "_data"
  metaSubject : locator.metaSubject = locator.subjectPrefix ++ ".meta"
  dataSubject : locator.dataSubject = locator.subjectPrefix ++ ".data"

/-- All tokens are verified when each is. -/
theorem forM_verifyToken_eq_ok_iff {tokens : List String} :
    tokens.forM verifyToken = .ok () ↔ ∀ token ∈ tokens, verifyToken token = .ok () := by
  rw [List.forM_eq_forM]
  induction tokens with
  | nil => simp [pure, Except.pure]
  | cons token rest inductionHypothesis =>
      rw [List.forM_cons, bind_eq_ok, List.forall_mem_cons, ← inductionHypothesis]
      constructor
      · rintro ⟨⟨⟩, first, others⟩
        exact ⟨first, others⟩
      · rintro ⟨first, others⟩
        exact ⟨(), first, others⟩

/-- The constructor accepts exactly the hierarchies of the rules and derives the names from them. -/
theorem fromTokens_eq_ok_iff {tokens : List String} {locator : NatsLocator} :
    fromTokens tokens = .ok locator ↔ locator.tokens = tokens ∧ locator.Named := by
  unfold fromTokens
  rw [throwIf_eq_ok, bind_eq_ok]
  simp only [throwIf_eq_ok, pure_eq_ok]
  constructor
  · rintro ⟨nonempty, ⟨⟩, verified, bounded, rfl⟩
    exact ⟨rfl, nonempty, forM_verifyToken_eq_ok_iff.mp verified, Nat.le_of_not_lt bounded,
      rfl, rfl, rfl, rfl, rfl, rfl⟩
  · rintro ⟨rfl, named⟩
    refine ⟨named.nonempty, (), forM_verifyToken_eq_ok_iff.mpr named.verified, ?_, ?_⟩
    · rw [← named.streamStem]
      exact Nat.not_lt.mpr named.bounded
    · rw [← named.subjectPrefix, ← named.streamStem, ← named.metaStreamName,
        ← named.dataStreamName, ← named.metaSubject, ← named.dataSubject]

/-- The locators that callers hold: accepted ones, and children of accepted ones. -/
inductive Accepted : NatsLocator → Prop
  | new {tokens : List String} {locator : NatsLocator} (made : new tokens = .ok locator) :
      Accepted locator
  | child {parent locator : NatsLocator} {token : String} (accepted : Accepted parent)
      (made : parent.child token = .ok locator) : Accepted locator

/-- An accepted locator is named by its tokens. -/
theorem Accepted.named {locator : NatsLocator} (accepted : locator.Accepted) : locator.Named := by
  cases accepted with
  | new made => exact (fromTokens_eq_ok_iff.mp made).2
  | child accepted made => exact (fromTokens_eq_ok_iff.mp made).2

/-- A verified token consists of safe bytes. -/
theorem utf8Bytes_all_of_verifyToken {token : String} (verified : verifyToken token = .ok ()) :
    ∀ byte ∈ utf8Bytes token, isNatsSafe byte = true := by
  unfold verifyToken at verified
  split_ifs at verified with empty refused
  simpa using refused

/-- A dot is no byte of a token. -/
theorem dot_notMem_of_verifyToken {token : String} (verified : verifyToken token = .ok ()) :
    '.' ∉ token.toList := by
  intro member
  have byte : 46 ∈ utf8Bytes token := by
    rw [utf8Bytes_eq_flatMap]
    exact List.mem_flatMap.mpr ⟨'.', member, by decide⟩
  have safe := utf8Bytes_all_of_verifyToken verified 46 byte
  revert safe
  decide

/-- Safe bytes are ASCII. -/
theorem ascii_of_isNatsSafe {byte : UInt8} (safe : isNatsSafe byte = true) : byte.toNat < 128 := by
  simp only [isNatsSafe, isAsciiAlphanumeric, Bool.or_eq_true, Bool.and_eq_true, decide_eq_true_eq,
    beq_iff_eq, UInt8.le_iff_toNat_le] at safe
  rcases safe with (((⟨-, high⟩ | ⟨-, high⟩) | ⟨-, high⟩) | rfl) | rfl
  · exact Nat.lt_of_le_of_lt high (by decide)
  · exact Nat.lt_of_le_of_lt high (by decide)
  · exact Nat.lt_of_le_of_lt high (by decide)
  · decide
  · decide

/-- A token of safe bytes that is not empty is verified. -/
theorem verifyToken_of_safe {token : String} (nonempty : token ≠ "")
    (safe : ∀ byte ∈ utf8Bytes token, isNatsSafe byte = true) : verifyToken token = .ok () := by
  have passes : (!(utf8Bytes token).all isNatsSafe) = false := by simpa using safe
  rw [verifyToken, if_neg nonempty, passes]
  rfl

/-- A sanitized stem has safe bytes only. -/
theorem sanitizedBytes_safe (stem : String) :
    ∀ byte ∈ sanitizedBytes stem, isNatsSafe byte = true := by
  intro byte member
  replace member := List.mem_of_mem_take member
  split_ifs at member with empty
  · rw [List.mem_singleton.mp member]
    decide
  · obtain ⟨source, -, rfl⟩ := List.mem_map.mp member
    split_ifs with safe
    · exact safe
    · decide

/-- Sanitizing never leaves nothing. -/
theorem sanitizedBytes_ne_nil (stem : String) : sanitizedBytes stem ≠ [] := by
  unfold sanitizedBytes
  intro none
  have filled := (List.take_eq_nil_iff.mp none).resolve_left (by decide)
  split_ifs at filled with empty
  exact empty filled

/-- A sanitized stem consists of the sanitized bytes. -/
theorem utf8Bytes_sanitized (stem : String) : utf8Bytes (sanitized stem) = sanitizedBytes stem :=
  utf8Bytes_ofList_ascii fun byte member => ascii_of_isNatsSafe
    (sanitizedBytes_safe stem byte member)

/-- The token that replaces a stem is always accepted. -/
theorem exists_fromTokens_sanitized (stem : String) :
    ∃ locator, fromTokens [sanitized stem] = .ok locator := by
  have nonempty : sanitized stem ≠ "" := by
    intro empty
    apply sanitizedBytes_ne_nil stem
    rw [← utf8Bytes_sanitized, empty]
    rfl
  have verified : verifyToken (sanitized stem) = .ok () := by
    apply verifyToken_of_safe nonempty
    rw [utf8Bytes_sanitized]
    exact sanitizedBytes_safe stem
  have bounded : (utf8Bytes (sanitized stem)).length ≤ 128 := by
    rw [utf8Bytes_sanitized]
    exact List.length_take_le 128 _
  refine ⟨⟨[sanitized stem], sanitized stem, sanitized stem, sanitized stem ++ "_meta",
    sanitized stem ++ "_data", sanitized stem ++ ".meta", sanitized stem ++ ".data"⟩, ?_⟩
  refine fromTokens_eq_ok_iff.mpr ⟨rfl, List.cons_ne_nil _ [], ?_, bounded, ?_, ?_,
    rfl, rfl, rfl, rfl⟩
  · rintro token (_ | ⟨_, ⟨⟩⟩)
    exact verified
  · rw [String.intercalate_singleton]
  · rw [String.intercalate_singleton]

/-- The locator of a stem that may be no token. The constructor's answer is unwrapped, since
the token was made to be accepted. -/
def fromSyntheticStem (stem : String) : NatsLocator :=
  unwrap (fromTokens [sanitized stem]) (exists_fromTokens_sanitized stem)

/-- The tokens of a hierarchy, taken apart at their own dashes. -/
def labels (tokens : List String) : List (List Char) :=
  (tokens.map String.toList).flatMap (List.splitOn '-')

namespace Named

variable {first second : NatsLocator}

/-- Locators have one stream stem exactly when their tokens have the same labels. -/
theorem streamStem_eq_iff (firstNamed : first.Named) (secondNamed : second.Named) :
    first.streamStem = second.streamStem ↔ labels first.tokens = labels second.tokens := by
  have nonempty : first.tokens.map String.toList ≠ [] := by simpa using firstNamed.nonempty
  have othersNonempty : second.tokens.map String.toList ≠ [] := by
    simpa using secondNamed.nonempty
  rw [firstNamed.streamStem, secondNamed.streamStem, ← String.toList_inj,
    String.toList_intercalate, String.toList_intercalate]
  exact intercalate_eq_intercalate_iff '-' nonempty othersNonempty

/-- Locators have one subject prefix exactly when they have the same tokens. -/
theorem subjectPrefix_eq_iff (firstNamed : first.Named) (secondNamed : second.Named) :
    first.subjectPrefix = second.subjectPrefix ↔ first.tokens = second.tokens := by
  have nonempty : first.tokens.map String.toList ≠ [] := by simpa using firstNamed.nonempty
  have othersNonempty : second.tokens.map String.toList ≠ [] := by
    simpa using secondNamed.nonempty
  have dotless {locator : NatsLocator} (named : locator.Named) :
      ∀ token ∈ locator.tokens.map String.toList, '.' ∉ token := by
    intro token member
    obtain ⟨text, among, rfl⟩ := List.mem_map.mp member
    exact dot_notMem_of_verifyToken (named.verified text among)
  rw [firstNamed.subjectPrefix, secondNamed.subjectPrefix, ← String.toList_inj,
    String.toList_intercalate, String.toList_intercalate]
  have joined := intercalate_inj_of_forall_notMem nonempty othersNonempty
    (dotless firstNamed) (dotless secondNamed)
  refine joined.trans (List.map_inj_right ?_)
  intro token other
  exact String.toList_inj.mp

end Named

/-- No subject of one is the same subject of the other. -/
structure SubjectsApart (first second : NatsLocator) : Prop where
  subjectPrefix : first.subjectPrefix ≠ second.subjectPrefix
  metaSubject : first.metaSubject ≠ second.metaSubject
  dataSubject : first.dataSubject ≠ second.dataSubject

/-- No stream of one is the same stream of the other. -/
structure StreamsApart (first second : NatsLocator) : Prop where
  streamStem : first.streamStem ≠ second.streamStem
  metaStreamName : first.metaStreamName ≠ second.metaStreamName
  dataStreamName : first.dataStreamName ≠ second.dataStreamName

/-- Both have the same two streams. -/
structure StreamsShared (first second : NatsLocator) : Prop where
  streamStem : first.streamStem = second.streamStem
  metaStreamName : first.metaStreamName = second.metaStreamName
  dataStreamName : first.dataStreamName = second.dataStreamName

/-- What names the ownership record of one never names the event data of the other. -/
structure Uncrossed (first second : NatsLocator) : Prop where
  name_name : first.metaStreamName ≠ second.dataStreamName
  name_subject : first.metaStreamName ≠ second.dataSubject
  subject_name : first.metaSubject ≠ second.dataStreamName
  subject_subject : first.metaSubject ≠ second.dataSubject

/-- Texts with different ends of one length are different. -/
theorem append_ne_append {front back frontEnd backEnd : String}
    (length : frontEnd.toList.length = backEnd.toList.length) (differ : frontEnd ≠ backEnd) :
    front ++ frontEnd ≠ back ++ backEnd := by
  intro equal
  have characters := congrArg String.toList equal
  rw [String.toList_append, String.toList_append] at characters
  exact differ (String.toList_inj.mp (List.append_inj_right' characters length))

namespace Named

variable {first second : NatsLocator}

/-- An ownership stream of one locator is never the event stream of another. -/
theorem uncrossed (firstNamed : first.Named) (secondNamed : second.Named) :
    Uncrossed first second := by
  constructor
  all_goals
    simp only [firstNamed.metaStreamName, firstNamed.metaSubject, secondNamed.dataStreamName,
      secondNamed.dataSubject]
    exact append_ne_append (by decide) (by decide)

/-- Locators with different tokens use different subjects. -/
theorem subjectsApart (firstNamed : first.Named) (secondNamed : second.Named)
    (differ : first.tokens ≠ second.tokens) : SubjectsApart first second := by
  have prefixes : first.subjectPrefix ≠ second.subjectPrefix := fun equal =>
    differ ((firstNamed.subjectPrefix_eq_iff secondNamed).mp equal)
  refine ⟨prefixes, ?_, ?_⟩
  · rw [firstNamed.metaSubject, secondNamed.metaSubject]
    exact fun equal => prefixes ((String.append_left_inj ".meta").mp equal)
  · rw [firstNamed.dataSubject, secondNamed.dataSubject]
    exact fun equal => prefixes ((String.append_left_inj ".data").mp equal)

/-- Locators with different labels use different streams. -/
theorem streamsApart (firstNamed : first.Named) (secondNamed : second.Named)
    (differ : labels first.tokens ≠ labels second.tokens) : StreamsApart first second := by
  have stems : first.streamStem ≠ second.streamStem := fun equal =>
    differ ((firstNamed.streamStem_eq_iff secondNamed).mp equal)
  refine ⟨stems, ?_, ?_⟩
  · rw [firstNamed.metaStreamName, secondNamed.metaStreamName]
    exact fun equal => stems ((String.append_left_inj "_meta").mp equal)
  · rw [firstNamed.dataStreamName, secondNamed.dataStreamName]
    exact fun equal => stems ((String.append_left_inj "_data").mp equal)

/-- Locators with the same labels use the same streams. -/
theorem streamsShared (firstNamed : first.Named) (secondNamed : second.Named)
    (agree : labels first.tokens = labels second.tokens) : StreamsShared first second := by
  have stems := (firstNamed.streamStem_eq_iff secondNamed).mpr agree
  refine ⟨stems, ?_, ?_⟩
  · rw [firstNamed.metaStreamName, secondNamed.metaStreamName, stems]
  · rw [firstNamed.dataStreamName, secondNamed.dataStreamName, stems]

end Named

end NatsLocator

namespace NatsStorageAdapter

def intoInstance (stem metaSubject dataSubject : String) : NatsStorageAdapter where
  stem := stem
  metaStreamName := stem ++ "_meta"
  dataStreamName := stem ++ "_data"
  metaSubject := metaSubject
  dataSubject := dataSubject
  customSubjectsForTest := false

def fromClientInternalWithLocator (locator : NatsLocator) : NatsStorageAdapter :=
  intoInstance locator.streamStem locator.metaSubject locator.dataSubject

/-- Subjects of a stem; one that is no token keeps the flat subjects. -/
def subjectsForStem (stem : String) : NatsLocator × String × String :=
  match NatsLocator.fromStem stem with
  | .ok locator => (locator, locator.metaSubject, locator.dataSubject)
  | .error _ => (NatsLocator.fromSyntheticStem stem, stem ++ "_meta", stem ++ "_data")

def fromClientInternal (stem : String) : NatsStorageAdapter :=
  let (_, metaSubject, dataSubject) := subjectsForStem stem
  intoInstance stem metaSubject dataSubject

/-- Locator identifier: the first half of the hash of the stem. -/
def locatorId [Digests] (adapter : NatsStorageAdapter) : Bytes :=
  (blake3 (utf8Bytes adapter.stem)).val.take 16

/-- An adapter that goes by the names of a locator. -/
structure NamedBy (adapter : NatsStorageAdapter) (locator : NatsLocator) : Prop where
  stem : adapter.stem = locator.streamStem
  metaStreamName : adapter.metaStreamName = locator.metaStreamName
  dataStreamName : adapter.dataStreamName = locator.dataStreamName
  metaSubject : adapter.metaSubject = locator.metaSubject
  dataSubject : adapter.dataSubject = locator.dataSubject

/-- The adapter of a locator uses the names that the locator gives. -/
theorem fromClientInternalWithLocator_namedBy {locator : NatsLocator} (named : locator.Named) :
    (fromClientInternalWithLocator locator).NamedBy locator :=
  ⟨rfl, named.metaStreamName.symm, named.dataStreamName.symm, rfl, rfl⟩

end NatsStorageAdapter

section Names

variable [Digests]

open NatsLocator NatsStorageAdapter

/-- Two locators never share a subject, nor does one's record go by a name of the other's data.
They share their streams, and the identifier taken from the stem, exactly when their tokens agree
once they are taken apart at the dashes. -/
theorem locators_share_at_most_streams (first second : NatsLocator)
    (firstAccepted : first.Accepted) (secondAccepted : second.Accepted)
    (differ : first.tokens ≠ second.tokens) :
    (SubjectsApart first second ∧ Uncrossed first second ∧ Uncrossed second first) ∧
    (labels first.tokens ≠ labels second.tokens → StreamsApart first second) ∧
    (labels first.tokens = labels second.tokens →
      StreamsShared first second ∧
      locatorId (fromClientInternalWithLocator first) =
        locatorId (fromClientInternalWithLocator second)) ∧
    (fromClientInternalWithLocator first).NamedBy first ∧
    (fromClientInternalWithLocator second).NamedBy second := by
  have firstNamed := firstAccepted.named
  have secondNamed := secondAccepted.named
  refine ⟨⟨firstNamed.subjectsApart secondNamed differ, firstNamed.uncrossed secondNamed,
    secondNamed.uncrossed firstNamed⟩, firstNamed.streamsApart secondNamed, ?_,
    fromClientInternalWithLocator_namedBy firstNamed,
    fromClientInternalWithLocator_namedBy secondNamed⟩
  intro agree
  have shared := firstNamed.streamsShared secondNamed agree
  refine ⟨shared, ?_⟩
  have stems : (fromClientInternalWithLocator first).stem =
      (fromClientInternalWithLocator second).stem := shared.streamStem
  rw [locatorId, locatorId, stems]

end Names

section Example

attribute [local instance] standardDigests

open NatsLocator NatsStorageAdapter

/-- Locators of the hierarchies `gh-report.v25`, `gh.report` and `gh-report`. -/
def versionLocator : NatsLocator :=
  ⟨["gh-report", "v25"], "gh-report-v25", "gh-report.v25", "gh-report-v25_meta",
    "gh-report-v25_data", "gh-report.v25.meta", "gh-report.v25.data"⟩

def splitLocator : NatsLocator :=
  ⟨["gh", "report"], "gh-report", "gh.report", "gh-report_meta", "gh-report_data",
    "gh.report.meta", "gh.report.data"⟩

def dashedLocator : NatsLocator :=
  ⟨["gh-report"], "gh-report", "gh-report", "gh-report_meta", "gh-report_data",
    "gh-report.meta", "gh-report.data"⟩

/-- The hierarchy `gh-report` is accepted. -/
theorem dashedLocator_accepted : dashedLocator.Accepted :=
  .new (show NatsLocator.new ["gh-report"] = _ from rfl)

/-- So is its child `gh-report.v25`. -/
theorem versionLocator_accepted : versionLocator.Accepted :=
  .child dashedLocator_accepted (show dashedLocator.child "v25" = _ from rfl)

/-- And so is the hierarchy `gh.report`. -/
theorem splitLocator_accepted : splitLocator.Accepted :=
  .new (show NatsLocator.new ["gh", "report"] = _ from rfl)

/-- The hierarchies `gh.report` and `gh-report` share their streams, but no subject, and
`gh-report.v25` shares no stream with the latter. -/
theorem locators_share_at_most_streams_split :
    StreamsApart versionLocator dashedLocator ∧ StreamsShared splitLocator dashedLocator ∧
      SubjectsApart splitLocator dashedLocator := by
  have apart := locators_share_at_most_streams versionLocator dashedLocator
    versionLocator_accepted dashedLocator_accepted (by decide)
  have shared := locators_share_at_most_streams splitLocator dashedLocator
    splitLocator_accepted dashedLocator_accepted (by decide)
  exact ⟨apart.2.1 (by decide), (shared.2.2.1 (by decide)).1, shared.1.1⟩

/-- A dash inside a token and a dash between tokens give one stream. -/
theorem locators_not_apart :
    ¬∀ first second : NatsLocator, first.Accepted → second.Accepted →
      first.tokens ≠ second.tokens →
      StreamsApart first second ∧ SubjectsApart first second ∧
        Uncrossed first second ∧ Uncrossed second first := by
  intro claimed
  have apart := (claimed splitLocator dashedLocator splitLocator_accepted dashedLocator_accepted
    (by decide)).1
  exact apart.streamStem rfl

end Example

end Pardosa
