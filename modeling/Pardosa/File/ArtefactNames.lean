import Pardosa.Encoding.Digest
import Pardosa.File.Adapter
import Pardosa.Foundation.Lossy
import Pardosa.Foundation.Paths

/-!
# Names of an artefact's files

Both files of an artefact are named after the base path a caller gives. The stem
is the file name up to its last dot, whatever follows the dot, so the names of
two artefacts differ exactly when their stems do.
-/

namespace Pardosa

open Foundation Foundation.Path

/-- Where the files of an artefact are, and the stem they share. -/
structure ArtefactNames where
  metaPath : List Component
  pgnoPath : List Component
  stem : Bytes
deriving DecidableEq, Repr

def metaExtension : Bytes := [46, 109, 101, 116, 97]

def pgnoExtension : Bytes := [46, 112, 103, 110, 111]

example : metaExtension = utf8Bytes ".meta" ∧ pgnoExtension = utf8Bytes ".pgno" := by decide

/-- The stem of a base path without a file name. -/
def unnamedStem : Bytes := [97, 114, 116, 101, 102, 97, 99, 116]

example : unnamedStem = utf8Bytes "artefact" := by decide

/-- The names that an adapter takes from its base path. -/
def FileStorageAdapter.new (basePath : Bytes) : ArtefactNames :=
  let directoryAndStem : List Component × Bytes :=
    match parent basePath, fileStem basePath with
    | some directory, some stem => (directory, toStringLossy stem)
    | none, some stem => ([], toStringLossy stem)
    | _, none => ([], unnamedStem)
  let directory := directoryAndStem.1
  let stem := directoryAndStem.2
  { metaPath :=
      if directory = [] then components (stem ++ metaExtension)
      else join directory (stem ++ metaExtension)
    pgnoPath :=
      if directory = [] then components (stem ++ pgnoExtension)
      else join directory (stem ++ pgnoExtension)
    stem := stem }

/-- Locator identifier: the first half of the hash of the stem. -/
def ArtefactNames.locatorId [Digests] (names : ArtefactNames) : Bytes :=
  (blake3 names.stem).val.take 16

namespace ArtefactNames

/-- The names in a directory that come from a stem. -/
def ofStem (directory : List Component) (stem : Bytes) : ArtefactNames where
  metaPath := directory ++ [.normal (stem ++ metaExtension)]
  pgnoPath := directory ++ [.normal (stem ++ pgnoExtension)]
  stem := stem

/-- Directory and stem are told from the names. -/
theorem ofStem_inj {directory other : List Component} {stem otherStem : Bytes} :
    ofStem directory stem = ofStem other otherStem ↔ directory = other ∧ stem = otherStem := by
  constructor
  · intro equal
    have stems : stem = otherStem := congrArg ArtefactNames.stem equal
    have paths := congrArg ArtefactNames.metaPath equal
    simp only [ofStem] at paths
    exact ⟨(List.append_inj_left' paths rfl), stems⟩
  · rintro ⟨rfl, rfl⟩
    rfl

/-- Different files and different stems. -/
structure Apart (first second : ArtefactNames) : Prop where
  metaPath : first.metaPath ≠ second.metaPath
  pgnoPath : first.pgnoPath ≠ second.pgnoPath
  stem : first.stem ≠ second.stem

/-- In one directory, different stems give names that are all different. -/
theorem ofStem_apart_iff {directory : List Component} {first second : Bytes} :
    Apart (ofStem directory first) (ofStem directory second) ↔ first ≠ second := by
  constructor
  · exact fun apart => apart.stem
  · intro differ
    refine ⟨?_, ?_, differ⟩
    · intro equal
      simp only [ofStem, List.append_cancel_left_eq, List.cons.injEq, Component.normal.injEq,
        and_true] at equal
      exact differ (List.append_cancel_right equal)
    · intro equal
      simp only [ofStem, List.append_cancel_left_eq, List.cons.injEq, Component.normal.injEq,
        and_true] at equal
      exact differ (List.append_cancel_right equal)

end ArtefactNames

/-- An extension behind a stem makes a file name. -/
theorem isName_append {stem extension : Bytes} (slashFree : slash ∉ stem)
    (extensionFree : slash ∉ extension) (long : 2 < extension.length) :
    IsName (stem ++ extension) :=
  .of_length (by rw [List.length_append]; omega) (by simp [slashFree, extensionFree])

/-- Replacing invalid bytes brings in no slash. -/
theorem slash_notMem_toStringLossy {bytes : Bytes} (slashFree : slash ∉ bytes) :
    slash ∉ toStringLossy bytes := fun member =>
  slashFree (mem_of_mem_toStringLossy (by decide) member)

namespace FileStorageAdapter

/-- The names of a path with a file name. -/
theorem new_eq_ofStem {path name : Bytes} {directory : List Component}
    (equal : components path = directory ++ [.normal name]) :
    new path = ArtefactNames.ofStem directory (toStringLossy (stemOfName name)) := by
  have isName : IsName name :=
    isName_of_mem_components (show .normal name ∈ components path by rw [equal]; simp)
  have named : fileStem path = some (stemOfName name) := by
    rw [fileStem, fileName_eq_some_iff.mpr ⟨directory, equal⟩]
    rfl
  have slashFree : slash ∉ toStringLossy (stemOfName name) :=
    slash_notMem_toStringLossy fun member => isName.slashFree
      (((stemOfName_eq_iff isName.notParent).mp rfl).subset member)
  have metaNamed := isName_append slashFree (show slash ∉ metaExtension by decide) (by decide)
  have pgnoNamed := isName_append slashFree (show slash ∉ pgnoExtension by decide) (by decide)
  unfold new
  simp only [parent_of_components equal, named, metaNamed.components, metaNamed.join,
    pgnoNamed.components, pgnoNamed.join, ArtefactNames.ofStem]
  by_cases here : directory = []
  · simp only [here, if_true, List.nil_append]
  · simp only [here, if_false]

/-- A path without a file name gets the stem of the unnamed. -/
theorem new_stem_of_unnamed {path : Bytes} (unnamed : fileName path = none) :
    (new path).stem = unnamedStem := by
  have noStem : fileStem path = none := by
    rw [fileStem, unnamed]
    rfl
  unfold new
  rw [noStem]
  cases parent path <;> rfl

end FileStorageAdapter

/-- The name without at most one extension of an artefact's files. -/
def stripArtefactExtension (name : Bytes) : Bytes :=
  if (metaExtension <:+ name ∧ name ≠ metaExtension) ∨
      (pgnoExtension <:+ name ∧ name ≠ pgnoExtension) then
    name.take (name.length - 5)
  else name

/-- Two names whose stems are the same text. -/
def Confused (first second : Bytes) : Prop :=
  ∃ firstStem secondStem, CutAt first firstStem ∧ CutAt second secondStem ∧
    toStringLossy firstStem = toStringLossy secondStem

/-- A base path and its files' own names are the same artefact. -/
structure BindsAlike (base : Bytes) : Prop where
  withMeta : FileStorageAdapter.new (base ++ metaExtension) = FileStorageAdapter.new base
  withPgno : FileStorageAdapter.new (base ++ pgnoExtension) = FileStorageAdapter.new base

namespace FileStorageAdapter

/-- Two paths in one directory get their names from stems that are the same text exactly when
their file names are confused. -/
theorem exists_ofStem {first second firstName secondName : Bytes}
    (firstNamed : fileName first = some firstName)
    (secondNamed : fileName second = some secondName) (together : parent first = parent second) :
    ∃ directory firstStem secondStem, new first = ArtefactNames.ofStem directory firstStem ∧
      new second = ArtefactNames.ofStem directory secondStem ∧
      (firstStem = secondStem ↔ Confused firstName secondName) := by
  obtain ⟨directory, firstEqual⟩ := fileName_eq_some_iff.mp firstNamed
  obtain ⟨other, secondEqual⟩ := fileName_eq_some_iff.mp secondNamed
  rw [parent_of_components firstEqual, parent_of_components secondEqual, Option.some.injEq]
    at together
  subst together
  have firstIsName : IsName firstName :=
    isName_of_mem_components (show .normal firstName ∈ components first by rw [firstEqual]; simp)
  have secondIsName : IsName secondName :=
    isName_of_mem_components
      (show .normal secondName ∈ components second by rw [secondEqual]; simp)
  refine ⟨directory, _, _, new_eq_ofStem firstEqual, new_eq_ofStem secondEqual, ?_⟩
  constructor
  · intro equal
    exact ⟨_, _, (stemOfName_eq_iff firstIsName.notParent).mp rfl,
      (stemOfName_eq_iff secondIsName.notParent).mp rfl, equal⟩
  · rintro ⟨firstStem, secondStem, firstCut, secondCut, equal⟩
    rw [(stemOfName_eq_iff firstIsName.notParent).mpr firstCut,
      (stemOfName_eq_iff secondIsName.notParent).mpr secondCut, equal]

/-- Two names in one directory are kept apart exactly when they are not confused. -/
theorem new_apart_iff {first second firstName secondName : Bytes}
    (firstNamed : fileName first = some firstName)
    (secondNamed : fileName second = some secondName) (together : parent first = parent second) :
    (new first).Apart (new second) ↔ ¬Confused firstName secondName := by
  obtain ⟨directory, firstStem, secondStem, firstNew, secondNew, confused⟩ :=
    exists_ofStem firstNamed secondNamed together
  rw [firstNew, secondNew, ArtefactNames.ofStem_apart_iff, ← confused]

/-- Confused names are one artefact, down to its identifier. -/
theorem new_eq_of_confused [Digests] {first second firstName secondName : Bytes}
    (firstNamed : fileName first = some firstName)
    (secondNamed : fileName second = some secondName) (together : parent first = parent second)
    (confusion : Confused firstName secondName) :
    new first = new second ∧ (new first).locatorId = (new second).locatorId := by
  obtain ⟨directory, firstStem, secondStem, firstNew, secondNew, confused⟩ :=
    exists_ofStem firstNamed secondNamed together
  have same : new first = new second := by
    rw [firstNew, secondNew, confused.mpr confusion]
  exact ⟨same, congrArg ArtefactNames.locatorId same⟩

/-- An extension behind a name leaves the name as stem. -/
theorem stemOfName_append {name extension : Bytes} (nonempty : name ≠ [])
    (free : dot ∉ extension) (long : 2 < extension.length) :
    stemOfName (name ++ dot :: extension) = name := by
  have notParent : name ++ dot :: extension ≠ [dot, dot] := by
    intro equal
    have lengths := congrArg List.length equal
    simp only [List.length_append, List.length_cons, List.length_nil] at lengths
    omega
  exact (stemOfName_eq_iff notParent).mpr (.inr ⟨nonempty, extension, free, rfl⟩)

section Extended

variable {base : Bytes} {directory : List Component}

/-- An extension behind a base path leaves its directory and its name as stem. -/
theorem new_append (stands : StandsIn base directory) {extension : Bytes}
    (extensionFree : slash ∉ dot :: extension) (long : 2 < extension.length) :
    new (base ++ dot :: extension) = ArtefactNames.ofStem directory
      (toStringLossy (stemOfName (lastSegment base ++ dot :: extension))) := by
  have isName : IsName (lastSegment base ++ dot :: extension) :=
    isName_append (eq_lastSegment base).1 extensionFree (by rw [List.length_cons]; omega)
  exact new_eq_ofStem (stands.components_append extensionFree isName)

/-- Behind a last segment, both files' own names give the segment as stem. -/
theorem new_append_stem (stands : StandsIn base directory) (nonempty : lastSegment base ≠ [])
    {extension : Bytes} (extensionFree : slash ∉ dot :: extension) (dotFree : dot ∉ extension)
    (long : 2 < extension.length) :
    new (base ++ dot :: extension) =
      ArtefactNames.ofStem directory (toStringLossy (lastSegment base)) := by
  rw [new_append stands extensionFree long, stemOfName_append nonempty dotFree long]

/-- Behind a slash, the two files' own names give different stems. -/
theorem lastSegment_ne_nil (stands : StandsIn base directory) (alike : BindsAlike base) :
    lastSegment base ≠ [] := by
  intro empty
  have same := congrArg ArtefactNames.stem (alike.withMeta.trans alike.withPgno.symm)
  unfold metaExtension pgnoExtension at same
  rw [new_append stands (by decide) (by decide), new_append stands (by decide) (by decide),
    empty] at same
  dsimp only [ArtefactNames.ofStem] at same
  revert same
  decide

/-- A path that ends in `.` stands for its directory, its extension for a file there. -/
theorem lastSegment_ne_self (stands : StandsIn base directory) (alike : BindsAlike base) :
    lastSegment base ≠ [dot] := by
  intro self
  have newBase : ArtefactNames.ofStem directory [dot] = new base := by
    rw [← alike.withMeta, metaExtension, new_append_stem stands
      (lastSegment_ne_nil stands alike) (by decide) (by decide) (by decide), self]
    rfl
  cases named : fileName base with
  | none =>
      have stems := congrArg ArtefactNames.stem newBase
      rw [new_stem_of_unnamed named] at stems
      dsimp only [ArtefactNames.ofStem] at stems
      revert stems
      decide
  | some name =>
      obtain ⟨other, equal⟩ := fileName_eq_some_iff.mp named
      have directories := (ArtefactNames.ofStem_inj.mp (newBase.trans (new_eq_ofStem equal))).1
      rcases stands.bare with inside | current
      · rw [self, equal] at inside
        have lengths := congrArg List.length inside
        simp [segmentComponent, directories] at lengths
      · rw [equal] at current
        have last := congrArg List.getLast? current
        simp at last

/-- A stem that is cut is shorter than the name. -/
theorem dot_notMem_tail (stands : StandsIn base directory) (alike : BindsAlike base) :
    dot ∉ (lastSegment base).tail := by
  intro dotted
  have components := stands.components_eq (lastSegment_ne_self stands alike)
  have newBase : ArtefactNames.ofStem directory (toStringLossy (lastSegment base)) = new base := by
    rw [← alike.withMeta, metaExtension, new_append_stem stands
      (lastSegment_ne_nil stands alike) (by decide) (by decide) (by decide)]
  by_cases upward : lastSegment base = [dot, dot]
  · have unnamed : fileName base = none := by
      rw [upward] at components
      rw [fileName, components]
      simp [segmentComponent]
    have stems := congrArg ArtefactNames.stem newBase
    rw [new_stem_of_unnamed unnamed, upward] at stems
    dsimp only [ArtefactNames.ofStem] at stems
    revert stems
    decide
  · have isName : IsName (lastSegment base) := ⟨lastSegment_ne_nil stands alike,
      lastSegment_ne_self stands alike, upward, (eq_lastSegment base).1⟩
    rw [(segmentComponent_eq_normal_iff isName.slashFree).mpr ⟨rfl, isName⟩,
      Option.toList_some] at components
    have stems := (ArtefactNames.ofStem_inj.mp (newBase.trans (new_eq_ofStem components))).2
    obtain ⟨before, after, nonempty, free, cut⟩ := dot_mem_tail_iff.mp dotted
    have stem : stemOfName (lastSegment base) = before :=
      (stemOfName_eq_iff upward).mpr (.inr ⟨nonempty, after, free, cut⟩)
    rw [stem, cut, toStringLossy_append_ascii before after (by decide)] at stems
    have lengths := congrArg List.length stems
    rw [List.length_append, List.length_cons] at lengths
    omega

end Extended

/-- A path is the same artefact as its two files' own names exactly when it ends in a file name
that has no extension. -/
theorem bindsAlike_iff (base : Bytes) :
    BindsAlike base ↔ lastSegment base ≠ [] ∧ lastSegment base ≠ [dot] ∧
      dot ∉ (lastSegment base).tail := by
  obtain ⟨directory, stands⟩ := exists_standsIn base
  constructor
  · intro alike
    exact ⟨lastSegment_ne_nil stands alike, lastSegment_ne_self stands alike,
      dot_notMem_tail stands alike⟩
  · rintro ⟨nonempty, notSelf, undotted⟩
    have isName : IsName (lastSegment base) := by
      refine ⟨nonempty, notSelf, ?_, (eq_lastSegment base).1⟩
      intro upward
      rw [upward] at undotted
      exact undotted (by decide)
    have newBase := new_eq_ofStem (by
      have own := stands.components_eq notSelf
      rw [(segmentComponent_eq_normal_iff isName.slashFree).mpr ⟨rfl, isName⟩,
        Option.toList_some] at own
      exact own)
    have whole : stemOfName (lastSegment base) = lastSegment base :=
      (stemOfName_eq_iff isName.notParent).mpr (.inl ⟨undotted, rfl⟩)
    rw [whole] at newBase
    constructor
    · rw [newBase, metaExtension,
        new_append_stem stands nonempty (by decide) (by decide) (by decide)]
    · rw [newBase, pgnoExtension,
        new_append_stem stands nonempty (by decide) (by decide) (by decide)]

end FileStorageAdapter

section Names

/-- Two base paths in one directory have different files and stems exactly when their stems are
different texts, whether or not their file names differ beyond the artefact's own extensions, and
are one artefact otherwise, down to its identifier; and a path is the same artefact as its files'
own names exactly when it ends in a file name without extension. -/
theorem artefact_names_bind_iff [Digests] (first second firstName secondName base : Bytes)
    (firstNamed : fileName first = some firstName)
    (secondNamed : fileName second = some secondName) (together : parent first = parent second) :
    ((FileStorageAdapter.new first).Apart (FileStorageAdapter.new second) ↔
      ¬Confused firstName secondName) ∧
    (Confused firstName secondName →
      FileStorageAdapter.new first = FileStorageAdapter.new second ∧
        (FileStorageAdapter.new first).locatorId = (FileStorageAdapter.new second).locatorId) ∧
    (BindsAlike base ↔
      lastSegment base ≠ [] ∧ lastSegment base ≠ [dot] ∧ dot ∉ (lastSegment base).tail) :=
  ⟨FileStorageAdapter.new_apart_iff firstNamed secondNamed together,
    FileStorageAdapter.new_eq_of_confused firstNamed secondNamed together,
    FileStorageAdapter.bindsAlike_iff base⟩

/-- The base paths `log/data.v1` and `log/data.v2`. -/
def firstVersion : Bytes := [108, 111, 103, 47, 100, 97, 116, 97, 46, 118, 49]

def secondVersion : Bytes := [108, 111, 103, 47, 100, 97, 116, 97, 46, 118, 50]

example : firstVersion = utf8Bytes "log/data.v1" ∧ secondVersion = utf8Bytes "log/data.v2" := by
  decide

/-- Two versions are one artefact, and a version is not the artefact of its own files. -/
theorem artefact_names_confused :
    ¬((∀ first second firstName secondName : Bytes, fileName first = some firstName →
        fileName second = some secondName → parent first = parent second →
        stripArtefactExtension firstName ≠ stripArtefactExtension secondName →
        (FileStorageAdapter.new first).Apart (FileStorageAdapter.new second)) ∧
      (∀ base : Bytes, BindsAlike base)) := by
  rintro ⟨apart, -⟩
  have differ := apart firstVersion secondVersion [100, 97, 116, 97, 46, 118, 49]
    [100, 97, 116, 97, 46, 118, 50] (by decide) (by decide) (by decide) (by decide)
  exact differ.stem (by decide)

section Versions

attribute [local instance] standardDigests

/-- Two versions are confused, two plain names are kept apart. -/
theorem artefact_names_bind_iff_versions :
    FileStorageAdapter.new firstVersion = FileStorageAdapter.new secondVersion ∧
    ¬BindsAlike firstVersion ∧
    (FileStorageAdapter.new [97]).Apart (FileStorageAdapter.new [98]) ∧ BindsAlike [97] := by
  have separate : ¬Confused [97] [98] := by
    rintro ⟨first, second, firstCut, secondCut, same⟩
    rw [firstCut.eq_of_notMem (by decide), secondCut.eq_of_notMem (by decide)] at same
    revert same
    decide
  have together : Confused [100, 97, 116, 97, 46, 118, 49] [100, 97, 116, 97, 46, 118, 50] :=
    ⟨[100, 97, 116, 97], [100, 97, 116, 97], .inr ⟨by decide, [118, 49], by decide, rfl⟩,
      .inr ⟨by decide, [118, 50], by decide, rfl⟩, rfl⟩
  obtain ⟨-, alike, own⟩ := artefact_names_bind_iff firstVersion secondVersion
    [100, 97, 116, 97, 46, 118, 49] [100, 97, 116, 97, 46, 118, 50] firstVersion
    (by decide) (by decide) (by decide)
  obtain ⟨apart, -, bound⟩ := artefact_names_bind_iff [97] [98] [97] [98] [97]
    (by decide) (by decide) (by decide)
  refine ⟨(alike together).1, ?_, apart.mpr separate, ?_⟩
  · rw [own]
    decide
  · rw [bound]
    decide

end Versions

end Names

end Pardosa
