import Pardosa.Foundation.FloatOrder
import Pardosa.Schema.ShippedCodec

/-!
# The floating-point wrappers

`OrderedF32` and `OrderedF64` compare and hash by bits, `EventF32` and `EventF64` by their
variant first. What a wrapper holds has one pattern for each number, so that the order of the
bits is the order of the numbers, and equality is that of the encodings.
-/

namespace Pardosa

open Foundation

variable {format : FloatFormat}

namespace OrderedFloat

/-- `Ord::cmp`: the total order of the patterns. -/
def cmp (left right : OrderedFloat format) : Ordering := format.totalCmp left.inner right.inner

/-- `PartialEq::eq`. -/
def eq (left right : OrderedFloat format) : Bool := (left.cmp right).isEq

/-- `Hash::hash`: feeds the pattern to a hasher. -/
def hash {Hasher : Type} (write : format.Pattern → Hasher → Hasher) (value : OrderedFloat format)
    (state : Hasher) : Hasher := write value.inner state

/-- An ordered float is nothing but its bits. -/
theorem ext {left right : OrderedFloat format} (same : left.inner = right.inner) :
    left = right := by
  cases left
  cases right
  cases same
  rfl

/-- What is taken is a real pattern, and a zero without its sign. -/
theorem tryFrom_eq_ok {pattern : format.Pattern} {value : OrderedFloat format} :
    tryFrom pattern = .ok value ↔
      format.IsReal pattern ∧ value.inner = if format.IsZero pattern then 0 else pattern := by
  unfold tryFrom
  by_cases real : format.IsReal pattern
  · rw [dif_pos real]
    by_cases zero : format.IsZero pattern
    · rw [dif_pos zero, if_pos zero]
      constructor
      · rintro ⟨⟩
        exact ⟨real, rfl⟩
      · rintro ⟨-, inner⟩
        exact congrArg Except.ok (ext inner.symm)
    · rw [dif_neg zero, if_neg zero]
      constructor
      · rintro ⟨⟩
        exact ⟨real, rfl⟩
      · rintro ⟨-, inner⟩
        exact congrArg Except.ok (ext inner.symm)
  · rw [dif_neg real]
    constructor
    · rintro ⟨⟩
    · rintro ⟨impossible, -⟩
      exact (real impossible).elim

/-- What is taken denotes the number that was given. -/
theorem value_of_tryFrom {pattern : format.Pattern} {value : OrderedFloat format}
    (taken : tryFrom pattern = .ok value) : format.value value.inner = format.value pattern := by
  obtain ⟨-, inner⟩ := tryFrom_eq_ok.mp taken
  rw [inner]
  split_ifs with zero
  · rw [FloatFormat.value_of_isZero zero, FloatFormat.value_of_isZero format.isZero_zero]
  · rfl

/-- The order of the wrapped patterns is that of their numbers. -/
theorem cmp_eq (interchange : format.IsInterchange) (left right : OrderedFloat format) :
    left.cmp right = compare (format.value left.inner) (format.value right.inner) :=
  FloatFormat.totalCmp_eq_compare_value interchange left.normalized right.normalized

instance : Std.TransCmp (@cmp format) :=
  inferInstanceAs (Std.TransCmp (compareOn fun value : OrderedFloat format =>
    format.totalKey value.inner))

/-- The order of ordered floats calls equal only what is equal. -/
theorem lawfulEqCmp_cmp (interchange : format.IsInterchange) :
    Std.LawfulEqCmp (@cmp format) where
  eq_of_compare same :=
    ext (FloatFormat.totalKey_injective interchange (compare_eq_iff_eq.mp same))

/-- Wrapped patterns are equal when they are the same. -/
theorem eq_iff (interchange : format.IsInterchange) {left right : OrderedFloat format} :
    left.eq right = true ↔ left = right := by
  have := lawfulEqCmp_cmp interchange
  rw [eq, Ordering.isEq_iff_eq_eq, Std.LawfulEqCmp.compare_eq_iff_eq]

end OrderedFloat

namespace EventFloat

variable {Finite : Type}

/-- Classifies a pattern. -/
def fromFloat (pattern : format.Pattern) : Except DecodeError (EventFloat (OrderedFloat format)) :=
  if format.IsNan pattern then .ok .nan
  else if format.NumEq pattern format.negInfinity then .ok .negInf
  else if format.NumEq pattern format.infinity then .ok .posInf
  else do
    let ordered ← OrderedFloat.tryFrom pattern
    return .finite ordered

/-- The discriminant of a variant. -/
def discriminant : EventFloat Finite → Nat
  | .nan => 0
  | .negInf => 1
  | .finite _ => 2
  | .posInf => 3

/-- The derived `Ord::cmp`: by the variants, then by the payloads. -/
def cmp (inner : Finite → Finite → Ordering) : EventFloat Finite → EventFloat Finite → Ordering
  | .finite left, .finite right => inner left right
  | left, right => compare left.discriminant right.discriminant

/-- The derived `PartialEq::eq`. -/
def eq (inner : Finite → Finite → Bool) : EventFloat Finite → EventFloat Finite → Bool
  | .finite left, .finite right => inner left right
  | left, right => left.discriminant == right.discriminant

section Order

variable {inner : Finite → Finite → Ordering} {left right : EventFloat Finite}

/-- A variant decides, and between two finite values these. -/
theorem cmp_isLE_iff : (cmp inner left right).isLE = true ↔
    left.discriminant < right.discriminant ∨ left.discriminant = right.discriminant ∧
      ∀ lower upper, left = .finite lower → right = .finite upper →
        (inner lower upper).isLE = true := by
  cases left with
  | finite lower =>
      cases right with
      | finite upper => simp [cmp, discriminant]
      | nan | negInf | posInf =>
          simp [cmp, discriminant]
          rfl
  | nan | negInf | posInf => cases right <;> simp [cmp, discriminant] <;> rfl

/-- What is ranked as finite carries a finite value. -/
theorem exists_finite (second : left.discriminant = 2) : ∃ value, left = .finite value := by
  cases left with
  | finite value => exact ⟨value, rfl⟩
  | nan | negInf | posInf => cases second

instance [Std.TransCmp inner] : Std.TransCmp (cmp inner) where
  eq_swap {left right} := by
    cases left with
    | finite lower =>
        cases right with
        | finite upper => exact (Std.OrientedCmp.eq_swap : inner lower upper = _)
        | nan | negInf | posInf => rfl
    | nan | negInf | posInf => cases right <;> rfl
  isLE_trans {first second third} := by
    rw [cmp_isLE_iff, cmp_isLE_iff, cmp_isLE_iff]
    rintro (less | ⟨same, below⟩) (lessToo | ⟨sameToo, belowToo⟩)
    · exact .inl (less.trans lessToo)
    · exact .inl (sameToo ▸ less)
    · exact .inl (same ▸ lessToo)
    · refine .inr ⟨same.trans sameToo, ?_⟩
      rintro lower upper rfl rfl
      obtain ⟨middle, rfl⟩ := exists_finite same.symm
      have beneath : (inner lower middle).isLE = true := below lower middle rfl rfl
      exact Std.TransCmp.isLE_trans beneath (belowToo middle upper rfl rfl)

/-- So does the order of event floats over a lawful order of their values. -/
theorem lawfulEqCmp_cmp (lawful : Std.LawfulEqCmp inner) : Std.LawfulEqCmp (cmp inner) where
  compare_self {value} := by
    cases value with
    | finite value => exact (Std.ReflCmp.compare_self : inner value value = .eq)
    | nan | negInf | posInf => rfl
  eq_of_compare {left right} same := by
    cases left with
    | finite lower =>
        cases right with
        | finite upper =>
            have equal : inner lower upper = .eq := same
            exact congrArg EventFloat.finite (Std.LawfulEqCmp.eq_of_compare equal)
        | nan | negInf | posInf => cases same
    | nan | negInf | posInf => cases right <;> first | rfl | cases same

/-- The derived equality is that of the values, if that of the payloads is. -/
theorem eq_iff {equal : Finite → Finite → Bool}
    (same : ∀ lower upper, equal lower upper = true ↔ lower = upper) :
    eq equal left right = true ↔ left = right := by
  cases left with
  | finite lower =>
      cases right with
      | finite upper => simp [eq, same]
      | nan | negInf | posInf => simp [eq, discriminant]
  | nan | negInf | posInf => cases right <;> simp [eq, discriminant]

end Order

/-- A pattern is classified as finite when it is taken. -/
theorem fromFloat_eq_finite (interchange : format.IsInterchange) {pattern : format.Pattern}
    {value : OrderedFloat format} :
    fromFloat pattern = .ok (.finite value) ↔ OrderedFloat.tryFrom pattern = .ok value := by
  constructor
  · intro classified
    unfold fromFloat at classified
    split_ifs at classified with nan negative positive
    · cases classified
    · cases classified
    · cases classified
    · obtain ⟨ordered, taken, same⟩ := bind_eq_ok.mp classified
      cases same
      exact taken
  · intro taken
    obtain ⟨real, -⟩ := OrderedFloat.tryFrom_eq_ok.mp taken
    unfold fromFloat
    rw [if_neg real.1,
      if_neg (FloatFormat.not_numEq_of_isInfinite real
        (FloatFormat.isInfinite_negInfinity interchange)),
      if_neg (FloatFormat.not_numEq_of_isInfinite real
        (FloatFormat.isInfinite_infinity interchange)), taken]
    rfl

end EventFloat

/-- A finite value that is decoded was decoded behind its discriminant. -/
theorem PardosaType.decodeEventFloat_finite {inner : PardosaType} {buf : Bytes}
    {value : inner.Value} {consumed : Nat}
    (decoded : inner.decodeEventFloat buf = .ok (.finite value, consumed)) :
    ∃ inside taken, inner.decodeType inside = .ok (value, taken) := by
  unfold decodeEventFloat at decoded
  split at decoded
  · cases decoded
  · cases decoded
  · cases decoded
  · rename_i inside
    obtain ⟨⟨found, taken⟩, read, same⟩ := bind_eq_ok.mp decoded
    cases same
    exact ⟨inside, taken, read⟩
  · cases decoded
  · cases decoded

/-- The wrappers over a format are canonical and totally ordered. -/
structure FloatsCanonical (format : FloatFormat) (node : DescriptorNode) (name : String) :
    Prop where
  /-- What is taken is neither subnormal nor infinite nor a NaN, and a zero loses its sign. -/
  taken : ∀ (pattern : format.Pattern) (value : OrderedFloat format),
    OrderedFloat.tryFrom pattern = .ok value ↔
      format.IsReal pattern ∧ value.inner = if format.IsZero pattern then 0 else pattern
  /-- So is what is classified as finite. -/
  classified : ∀ (pattern : format.Pattern) (value : OrderedFloat format),
    EventFloat.fromFloat pattern = .ok (.finite value) ↔
      OrderedFloat.tryFrom pattern = .ok value
  /-- So is what is decoded. -/
  decoded : ∀ buf (value : OrderedFloat format) consumed,
    (PardosaType.orderedFloat format node).decodeType buf = .ok (value, consumed) →
      ∃ pattern, OrderedFloat.tryFrom pattern = .ok value
  decodedFinite : ∀ buf (value : OrderedFloat format) consumed,
    (PardosaType.eventFloat (PardosaType.orderedFloat format node) name).decodeType buf =
        .ok (.finite value, consumed) →
      ∃ pattern, OrderedFloat.tryFrom pattern = .ok value
  /-- The order is that of the numbers that the given patterns denote. -/
  ordered : ∀ (left right : format.Pattern) (first second : OrderedFloat format),
    OrderedFloat.tryFrom left = .ok first → OrderedFloat.tryFrom right = .ok second →
      first.cmp second = compare (format.value left) (format.value right)
  /-- Equality is that of the encodings. -/
  equal : ∀ first second : OrderedFloat format, first.eq second = true ↔
    (PardosaType.orderedFloat format node).encodeType first =
      (PardosaType.orderedFloat format node).encodeType second
  /-- What is hashed are the bits that are encoded. -/
  hashed : ∀ value : OrderedFloat format, ∃ bits : format.Pattern,
    (PardosaType.orderedFloat format node).encodeType value =
        .ok (leBytes format.bytes bits.toNat) ∧
      ∀ {Hasher : Type} (write : format.Pattern → Hasher → Hasher) (state : Hasher),
        value.hash write state = write bits state
  /-- The derived order of classified values is total. -/
  total : Std.TransCmp (EventFloat.cmp (@OrderedFloat.cmp format))
  lawful : Std.LawfulEqCmp (EventFloat.cmp (@OrderedFloat.cmp format))
  /-- It begins with NaN and the negative infinity and ends with the positive one. -/
  chain : EventFloat.cmp (@OrderedFloat.cmp format) .nan .negInf = .lt ∧
    ∀ value, EventFloat.cmp OrderedFloat.cmp .negInf (.finite value) = .lt ∧
      EventFloat.cmp (@OrderedFloat.cmp format) (.finite value) .posInf = .lt
  between : ∀ first second : OrderedFloat format,
    EventFloat.cmp OrderedFloat.cmp (.finite first) (.finite second) =
      compare (format.value first.inner) (format.value second.inner)
  /-- It agrees with the derived equality, and that with equality of the encodings. -/
  equalClassified : ∀ first second : EventFloat (OrderedFloat format),
    (EventFloat.eq OrderedFloat.eq first second = true ↔
      EventFloat.cmp OrderedFloat.cmp first second = .eq) ∧
    (EventFloat.eq OrderedFloat.eq first second = true ↔
      (PardosaType.eventFloat (PardosaType.orderedFloat format node) name).encodeType first =
        (PardosaType.eventFloat (PardosaType.orderedFloat format node) name).encodeType second)

/-- Every binary interchange format satisfies all clauses. -/
theorem floatsCanonical (interchange : format.IsInterchange) (node : DescriptorNode)
    (name : String) : FloatsCanonical format node name := by
  have writes : (PardosaType.orderedFloat format node).codec.Lawful :=
    PardosaType.orderedFloat_lawful node
  have classifies := PardosaType.eventFloat_lawful writes name
  have equal := @OrderedFloat.eq_iff format interchange
  have compares := OrderedFloat.lawfulEqCmp_cmp interchange
  have lawful := EventFloat.lawfulEqCmp_cmp compares
  refine ⟨fun _ _ => OrderedFloat.tryFrom_eq_ok,
    fun _ _ => EventFloat.fromFloat_eq_finite interchange, ?_, ?_, ?_, ?_,
    fun value => ⟨value.inner, rfl, fun _ _ => rfl⟩, inferInstance, lawful,
    ⟨rfl, fun _ => ⟨rfl, rfl⟩⟩, OrderedFloat.cmp_eq interchange, ?_⟩
  · intro buf value consumed decoded
    exact ⟨_, (OrderedFloat.decode_eq_ok.mp decoded).2.1⟩
  · intro buf value consumed decoded
    obtain ⟨inside, consumed, decodedInside⟩ := PardosaType.decodeEventFloat_finite decoded
    exact ⟨_, (OrderedFloat.decode_eq_ok.mp decodedInside).2.1⟩
  · intro left right first second takenFirst takenSecond
    rw [OrderedFloat.cmp_eq interchange, OrderedFloat.value_of_tryFrom takenFirst,
      OrderedFloat.value_of_tryFrom takenSecond]
  · intro first second
    exact equal.trans writes.encode_inj.symm
  · intro first second
    have same : EventFloat.eq OrderedFloat.eq first second = true ↔ first = second :=
      EventFloat.eq_iff fun _ _ => equal
    exact ⟨same.trans Std.LawfulEqCmp.compare_eq_iff_eq.symm,
      same.trans classifies.encode_inj.symm⟩

/-- The floating-point wrappers are canonical and totally ordered. -/
theorem float_wrappers_canonical : FloatsCanonical .binary32 .orderedF32 "EventF32" ∧
    FloatsCanonical .binary64 .orderedF64 "EventF64" :=
  ⟨floatsCanonical FloatFormat.isInterchange_binary32 _ _,
    floatsCanonical FloatFormat.isInterchange_binary64 _ _⟩

end Pardosa
