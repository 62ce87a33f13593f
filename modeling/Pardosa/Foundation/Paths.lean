import Pardosa.Foundation.Bytes
import Pardosa.Foundation.Separated

/-!
# Unix paths

A path is a byte string and stands for its components: repeated slashes, a
trailing slash and inner `.` segments make no difference. Two paths are equal when
their components are.
-/

namespace Foundation.Path

/-- The byte of the separator. -/
abbrev slash : UInt8 := 47

abbrev dot : UInt8 := 46

inductive Component where
  | rootDir
  | curDir
  | parentDir
  | normal (name : Bytes)
deriving DecidableEq, Repr

/-- The component that a segment between slashes stands for. -/
def segmentComponent (segment : Bytes) : Option Component :=
  if segment = [] ∨ segment = [dot] then none
  else if segment = [dot, dot] then some .parentDir
  else some (.normal segment)

/-- The components of a path apart from where it starts. -/
def inner (path : Bytes) : List Component := (path.splitOn slash).filterMap segmentComponent

/-- A path starts at the root, at an explicit `.`, or just anywhere. -/
def start (path : Bytes) : List Component :=
  if path.head? = some slash then [.rootDir]
  else if (path.splitOn slash).head? = some [dot] then [.curDir]
  else []

def components (path : Bytes) : List Component := start path ++ inner path

/-- The components of the path without its last one. -/
def parent (path : Bytes) : Option (List Component) :=
  match (components path).getLast? with
  | none | some .rootDir => none
  | some _ => some (components path).dropLast

def fileName (path : Bytes) : Option Bytes :=
  match (components path).getLast? with
  | some (.normal name) => some name
  | _ => none

/-- A list is cut at the last of a byte. -/
theorem exists_last {byte : UInt8} {bytes : Bytes} (member : byte ∈ bytes) :
    ∃ before after, byte ∉ after ∧ bytes = before ++ byte :: after := by
  obtain ⟨after, before, turned, free⟩ := List.eq_append_cons_of_mem (List.mem_reverse.mpr member)
  refine ⟨before.reverse, after.reverse, by simpa using free, ?_⟩
  rw [← List.reverse_reverse bytes, turned]
  simp

/-- What stands before the last dot. -/
def beforeLastDot : Bytes → Option Bytes
  | [] => none
  | byte :: rest =>
      match beforeLastDot rest with
      | some before => some (byte :: before)
      | none => if byte = dot then some [] else none

/-- The name without its extension; a leading dot starts none. -/
def stemOfName (name : Bytes) : Bytes :=
  if name = [dot, dot] then name
  else
    match beforeLastDot name with
    | none | some [] => name
    | some before => before

def fileStem (path : Bytes) : Option Bytes := (fileName path).map stemOfName

/-- A path behind a directory, unless the path is absolute. -/
def join (directory : List Component) (path : Bytes) : List Component :=
  if directory = [] ∨ path.head? = some slash then components path
  else directory ++ inner path

/-- There is nothing before the last dot exactly if there is no dot. -/
theorem beforeLastDot_eq_none_iff {name : Bytes} : beforeLastDot name = none ↔ dot ∉ name := by
  induction name with
  | nil => simp [beforeLastDot]
  | cons byte rest inductionHypothesis =>
      rw [List.mem_cons, not_or, ← inductionHypothesis, beforeLastDot]
      cases beforeLastDot rest with
      | some before => simp
      | none =>
          by_cases dotted : byte = dot
          · simp [dotted]
          · simp [dotted, Ne.symm dotted]

/-- The last dot is the one that no other dot follows. -/
theorem beforeLastDot_eq_some_iff {name before : Bytes} :
    beforeLastDot name = some before ↔ ∃ after, dot ∉ after ∧ name = before ++ dot :: after := by
  induction name generalizing before with
  | nil => simp [beforeLastDot]
  | cons byte rest inductionHypothesis =>
      rw [beforeLastDot]
      cases last : beforeLastDot rest with
      | some inside =>
          obtain ⟨after, free, rfl⟩ := inductionHypothesis.mp last
          constructor
          · rintro ⟨⟩
            exact ⟨after, free, rfl⟩
          · rintro ⟨other, otherFree, equal⟩
            cases before with
            | nil =>
                rw [List.nil_append, List.cons.injEq] at equal
                exact (otherFree (by rw [← equal.2]; simp)).elim
            | cons head tail =>
                rw [List.cons_append, List.cons.injEq] at equal
                obtain ⟨rfl, equal⟩ := equal
                have same := (@inductionHypothesis tail).mpr ⟨other, otherFree, equal⟩
                rw [last, Option.some.injEq] at same
                simp [same]
      | none =>
          have free := beforeLastDot_eq_none_iff.mp last
          by_cases dotted : byte = dot
          · simp only [dotted, if_true, Option.some.injEq]
            constructor
            · rintro rfl
              exact ⟨rest, free, rfl⟩
            · rintro ⟨after, -, equal⟩
              cases before with
              | nil => rfl
              | cons head tail =>
                  rw [List.cons_append, List.cons.injEq] at equal
                  exact (free (by rw [equal.2]; simp)).elim
          · simp only [dotted, if_false, reduceCtorEq, false_iff, not_exists, not_and]
            rintro after - equal
            cases before with
            | nil =>
                rw [List.nil_append, List.cons.injEq] at equal
                exact dotted equal.1
            | cons head tail =>
                rw [List.cons_append, List.cons.injEq] at equal
                exact free (by rw [equal.2]; simp)

/-- A name is cut at its last dot, if that is not the first byte, and is whole otherwise. -/
def CutAt (name stem : Bytes) : Prop :=
  (dot ∉ name.tail ∧ stem = name) ∨
    (stem ≠ [] ∧ ∃ extension, dot ∉ extension ∧ name = stem ++ dot :: extension)

/-- A dot behind the first byte splits a name into a beginning that is not empty and a last
extension. -/
theorem dot_mem_tail_iff {name : Bytes} :
    dot ∈ name.tail ↔
      ∃ before after, before ≠ [] ∧ dot ∉ after ∧ name = before ++ dot :: after := by
  cases name with
  | nil => simp
  | cons byte rest =>
      rw [List.tail_cons]
      constructor
      · intro dotted
        obtain ⟨before, after, free, rfl⟩ := exists_last dotted
        exact ⟨byte :: before, after, List.cons_ne_nil byte before, free, rfl⟩
      · rintro ⟨before, after, nonempty, -, equal⟩
        obtain ⟨head, tail, rfl⟩ := List.exists_cons_of_ne_nil nonempty
        rw [List.cons_append, List.cons.injEq] at equal
        rw [equal.2]
        exact List.mem_append_right tail List.mem_cons_self

/-- A stem is what is left of a name when its last extension is cut off. -/
theorem stemOfName_eq_iff {name stem : Bytes} (notParent : name ≠ [dot, dot]) :
    stemOfName name = stem ↔ CutAt name stem := by
  rw [stemOfName, if_neg notParent]
  by_cases dotted : dot ∈ name.tail
  · obtain ⟨before, after, nonempty, free, rfl⟩ := dot_mem_tail_iff.mp dotted
    have cut : beforeLastDot (before ++ dot :: after) = some before :=
      beforeLastDot_eq_some_iff.mpr ⟨after, free, rfl⟩
    rw [cut]
    obtain ⟨head, tail, rfl⟩ := List.exists_cons_of_ne_nil nonempty
    constructor
    · rintro rfl
      exact .inr ⟨nonempty, after, free, rfl⟩
    · rintro (⟨undotted, -⟩ | ⟨-, extension, extensionFree, equal⟩)
      · exact absurd dotted undotted
      · have same := beforeLastDot_eq_some_iff.mpr ⟨extension, extensionFree, equal⟩
        rw [cut, Option.some.injEq] at same
        exact same
  · have whole : (match beforeLastDot name with
        | none | some [] => name
        | some before => before) = name := by
      split
      · rfl
      · rfl
      · rename_i before notEmpty last
        obtain ⟨after, free, equal⟩ := beforeLastDot_eq_some_iff.mp last
        exact absurd (dot_mem_tail_iff.mpr ⟨before, after, notEmpty, free, equal⟩) dotted
    rw [whole]
    constructor
    · rintro rfl
      exact .inl ⟨dotted, rfl⟩
    · rintro (⟨-, rfl⟩ | ⟨nonempty, extension, free, equal⟩)
      · rfl
      · exact absurd (dot_mem_tail_iff.mpr ⟨stem, extension, nonempty, free, equal⟩) dotted

/-- A name without a dot to be cut at is its own stem. -/
theorem CutAt.eq_of_notMem {name stem : Bytes} (cut : CutAt name stem)
    (undotted : dot ∉ name.tail) :
    stem = name := by
  rcases cut with ⟨-, whole⟩ | ⟨nonempty, extension, free, equal⟩
  · exact whole
  · exact absurd (dot_mem_tail_iff.mpr ⟨stem, extension, nonempty, free, equal⟩) undotted

/-- A stem has no bytes that its name has not. -/
theorem CutAt.subset {name stem : Bytes} (cut : CutAt name stem) {byte : UInt8}
    (member : byte ∈ stem) : byte ∈ name := by
  rcases cut with ⟨-, rfl⟩ | ⟨-, extension, -, rfl⟩
  · exact member
  · exact List.mem_append_left _ member

/-- A segment that names something in a directory. -/
structure IsName (segment : Bytes) : Prop where
  nonempty : segment ≠ []
  notSelf : segment ≠ [dot]
  notParent : segment ≠ [dot, dot]
  slashFree : slash ∉ segment

/-- A segment that is too long to be a dot or two is a name. -/
theorem IsName.of_length {segment : Bytes} (long : 2 < segment.length)
    (slashFree : slash ∉ segment) : IsName segment where
  nonempty := by rintro rfl; simp at long
  notSelf := by rintro rfl; simp at long
  notParent := by rintro rfl; simp at long
  slashFree := slashFree

/-- The segments that stand for a normal component are the names. -/
theorem segmentComponent_eq_normal_iff {segment name : Bytes} (slashFree : slash ∉ segment) :
    segmentComponent segment = some (.normal name) ↔ segment = name ∧ IsName segment := by
  unfold segmentComponent
  split_ifs with skipped upward
  · simp only [false_iff, not_and]
    rintro - named
    exact skipped.elim named.nonempty named.notSelf
  · simp only [Option.some.injEq, reduceCtorEq, false_iff, not_and]
    rintro - named
    exact named.notParent upward
  · rw [not_or] at skipped
    simp only [Option.some.injEq, Component.normal.injEq, iff_self_and]
    rintro -
    exact ⟨skipped.1, skipped.2, upward, slashFree⟩

/-- A segment inside a path gives its own component, or none. -/
theorem inner_of_slashFree {segment : Bytes} (slashFree : slash ∉ segment) :
    inner segment = (segmentComponent segment).toList := by
  rw [inner, List.splitOn_eq_singleton slashFree]
  cases component : segmentComponent segment with
  | none => rw [List.filterMap_cons_none component]; rfl
  | some found => rw [List.filterMap_cons_some component]; rfl

/-- A slash separates the components before it from those behind it. -/
theorem inner_append_slash (before rest : Bytes) :
    inner (before ++ slash :: rest) = inner before ++ inner rest := by
  rw [inner, List.splitOn_append_cons_self, List.filterMap_append]
  rfl

/-- Where a path starts is settled by its first slash. -/
theorem start_append_slash (before rest : Bytes) :
    start (before ++ slash :: rest) = start (before ++ [slash]) := by
  have head : (before ++ slash :: rest).head? = (before ++ [slash]).head? := by
    cases before <;> rfl
  have first : ((before ++ slash :: rest).splitOn slash).head? =
      ((before ++ [slash]).splitOn slash).head? := by
    obtain ⟨segment, others, split⟩ :=
      List.exists_cons_of_ne_nil (List.splitOn_ne_nil slash before)
    rw [List.splitOn_append_cons_self, List.splitOn_append_cons_self, split]
    rfl
  rw [start, head, first]
  rfl

/-- A first segment other than a dot opens no root and no current directory. -/
theorem start_of_slashFree {segment : Bytes} (slashFree : slash ∉ segment)
    (notSelf : segment ≠ [dot]) : start segment = [] := by
  have head : segment.head? ≠ some slash := fun first =>
    slashFree (List.mem_of_mem_head? first)
  rw [start, if_neg head, List.splitOn_eq_singleton slashFree, List.head?_cons,
    if_neg (fun self => notSelf (Option.some.inj self))]

/-- A name alone is a path of one component. -/
theorem IsName.components {name : Bytes} (named : IsName name) :
    components name = [.normal name] := by
  rw [Path.components, start_of_slashFree named.slashFree named.notSelf,
    inner_of_slashFree named.slashFree,
    (segmentComponent_eq_normal_iff named.slashFree).mpr ⟨rfl, named⟩]
  rfl

/-- A name is put behind the components of its directory. -/
theorem IsName.join {name : Bytes} (named : IsName name) (directory : List Component) :
    join directory name = directory ++ [.normal name] := by
  unfold Path.join
  split_ifs with anywhere
  · have relative : name.head? ≠ some slash := fun first =>
      named.slashFree (List.mem_of_mem_head? first)
    rw [anywhere.resolve_right relative, named.components]
    rfl
  · rw [inner_of_slashFree named.slashFree,
      (segmentComponent_eq_normal_iff named.slashFree).mpr ⟨rfl, named⟩]
    rfl

/-- What stands behind the last slash. -/
def lastSegment (path : Bytes) : Bytes := ((path.splitOn slash).getLast?).getD []

/-- Without a slash, the last segment is the whole path. -/
theorem lastSegment_of_slashFree {segment : Bytes} (slashFree : slash ∉ segment) :
    lastSegment segment = segment := by
  rw [lastSegment, List.splitOn_eq_singleton slashFree]
  rfl

/-- Behind its last slash, a path has its last segment. -/
theorem lastSegment_append_slash (before : Bytes) {last : Bytes} (slashFree : slash ∉ last) :
    lastSegment (before ++ slash :: last) = last := by
  rw [lastSegment, List.splitOn_append_cons_self, List.splitOn_eq_singleton slashFree,
    List.getLast?_concat]
  rfl

/-- A path is its last segment, or one behind a slash. -/
theorem eq_lastSegment (path : Bytes) :
    slash ∉ lastSegment path ∧
      (path = lastSegment path ∨ ∃ before, path = before ++ slash :: lastSegment path) := by
  by_cases divided : slash ∈ path
  · obtain ⟨before, last, free, rfl⟩ := exists_last divided
    rw [lastSegment_append_slash before free]
    exact ⟨free, .inr ⟨before, rfl⟩⟩
  · rw [lastSegment_of_slashFree divided]
    exact ⟨divided, .inl rfl⟩

/-- The components of a path are those of a directory, with what its last segment says. -/
structure StandsIn (path : Bytes) (directory : List Component) : Prop where
  extended : ∀ suffix, slash ∉ suffix → lastSegment path ++ suffix ≠ [dot] →
    components (path ++ suffix) =
      directory ++ (segmentComponent (lastSegment path ++ suffix)).toList
  bare : components path = directory ++ (segmentComponent (lastSegment path)).toList ∨
    components path = [.curDir]

/-- Every path stands in some directory. -/
theorem exists_standsIn (path : Bytes) : ∃ directory, StandsIn path directory := by
  obtain ⟨slashFree, whole | ⟨before, divided⟩⟩ := eq_lastSegment path
  · refine ⟨[], ?_, ?_⟩
    · intro suffix suffixFree notSelf
      have together : slash ∉ lastSegment path ++ suffix := by
        simp [slashFree, suffixFree]
      rw [← whole] at together notSelf ⊢
      rw [components, start_of_slashFree together notSelf, inner_of_slashFree together]
    · rw [← whole] at slashFree ⊢
      by_cases self : path = [dot]
      · rw [self]
        exact .inr rfl
      · rw [components, start_of_slashFree slashFree self, inner_of_slashFree slashFree]
        exact .inl rfl
  · have apart (suffix : Bytes) (suffixFree : slash ∉ suffix) :
        components (before ++ slash :: (lastSegment path ++ suffix)) =
          (start (before ++ [slash]) ++ inner before) ++
            (segmentComponent (lastSegment path ++ suffix)).toList := by
      have together : slash ∉ lastSegment path ++ suffix := by
        simp [slashFree, suffixFree]
      rw [components, start_append_slash, inner_append_slash, inner_of_slashFree together,
        List.append_assoc]
    refine ⟨start (before ++ [slash]) ++ inner before, ?_, .inl ?_⟩
    · intro suffix suffixFree _
      rw [← apart suffix suffixFree, ← List.cons_append, ← List.append_assoc, ← divided]
    · have bare := apart [] List.not_mem_nil
      rw [List.append_nil, ← divided] at bare
      exact bare

/-- The components of a path are those of its directory and the one of its last segment. -/
theorem StandsIn.components_eq {path : Bytes} {directory : List Component}
    (stands : StandsIn path directory) (notSelf : lastSegment path ≠ [dot]) :
    components path = directory ++ (segmentComponent (lastSegment path)).toList := by
  have own := stands.extended [] List.not_mem_nil (by rw [List.append_nil]; exact notSelf)
  rw [List.append_nil, List.append_nil] at own
  exact own

/-- A name that the last segment is extended to stands in the same directory. -/
theorem StandsIn.components_append {path suffix : Bytes} {directory : List Component}
    (stands : StandsIn path directory) (suffixFree : slash ∉ suffix)
    (isName : IsName (lastSegment path ++ suffix)) :
    components (path ++ suffix) = directory ++ [.normal (lastSegment path ++ suffix)] := by
  rw [stands.extended suffix suffixFree isName.notSelf,
    (segmentComponent_eq_normal_iff isName.slashFree).mpr ⟨rfl, isName⟩, Option.toList_some]

/-- A path with a file name is the name in a directory. -/
theorem fileName_eq_some_iff {path name : Bytes} :
    fileName path = some name ↔
      ∃ directory, components path = directory ++ [.normal name] := by
  unfold fileName
  constructor
  · intro named
    split at named
    · rename_i found last
      cases named
      obtain ⟨directory, equal⟩ := List.getLast?_eq_some_iff.mp last
      exact ⟨directory, equal⟩
    · cases named
  · rintro ⟨directory, equal⟩
    rw [equal, List.getLast?_concat]

/-- Only names are normal components. -/
theorem isName_of_mem_components {path name : Bytes} (member : .normal name ∈ components path) :
    IsName name := by
  rw [components, List.mem_append] at member
  rcases member with atStart | inside
  · unfold start at atStart
    split_ifs at atStart <;> simp at atStart
  · obtain ⟨segment, among, named⟩ := List.mem_filterMap.mp inside
    have slashFree := notMem_of_mem_splitOn among
    obtain ⟨rfl, isName⟩ := (segmentComponent_eq_normal_iff slashFree).mp named
    exact isName

/-- The parent of a path that ends in a name is what comes before that name. -/
theorem parent_of_components {path : Bytes} {directory : List Component} {name : Bytes}
    (equal : components path = directory ++ [.normal name]) : parent path = some directory := by
  rw [parent, equal, List.getLast?_concat]
  simp

end Foundation.Path
