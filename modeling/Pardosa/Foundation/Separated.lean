import Mathlib.Data.List.Basic

/-!
# Texts joined by a separator

Joining parts with a separator and splitting at it. Parts that hold the
separator themselves are split further, and two joins are the same text exactly
when their parts agree after that.
-/

namespace Foundation

variable {α : Type} [DecidableEq α] {separator : α}

/-- A join splits into what each of its parts splits into. -/
theorem splitOn_intercalate_eq_flatMap (separator : α) {parts : List (List α)}
    (nonempty : parts ≠ []) :
    ([separator].intercalate parts).splitOn separator =
      parts.flatMap (List.splitOn separator) := by
  induction parts with
  | nil => exact absurd rfl nonempty
  | cons part rest inductionHypothesis =>
      cases rest with
      | nil => simp
      | cons next others =>
          rw [List.intercalate_cons_cons, List.append_assoc, List.singleton_append,
            List.splitOn_append_cons_self, inductionHypothesis (List.cons_ne_nil next others)]
          simp only [List.flatMap_cons]

/-- What a text splits into is free of the separator. -/
theorem notMem_of_mem_splitOn {text part : List α} (member : part ∈ text.splitOn separator) :
    separator ∉ part := by
  induction text generalizing part with
  | nil =>
      rw [List.splitOn_nil, List.mem_singleton] at member
      rw [member]
      exact List.not_mem_nil
  | cons head text inductionHypothesis =>
      rw [List.splitOn_cons_eq_if_modifyHead] at member
      split_ifs at member with cut
      · rcases List.mem_cons.mp member with rfl | later
        · exact List.not_mem_nil
        · exact inductionHypothesis later
      · obtain ⟨first, others, split⟩ :=
          List.exists_cons_of_ne_nil (List.splitOn_ne_nil separator text)
        rw [split] at member inductionHypothesis
        rcases List.mem_cons.mp member with rfl | later
        · rw [List.mem_cons, not_or]
          exact ⟨fun equal => cut (beq_iff_eq.mpr equal.symm),
            inductionHypothesis List.mem_cons_self⟩
        · exact inductionHypothesis (List.mem_cons_of_mem first later)

/-- Two joins are equal exactly when their parts are, each split at the separator. -/
theorem intercalate_eq_intercalate_iff (separator : α) {parts others : List (List α)}
    (nonempty : parts ≠ []) (othersNonempty : others ≠ []) :
    [separator].intercalate parts = [separator].intercalate others ↔
      parts.flatMap (List.splitOn separator) = others.flatMap (List.splitOn separator) := by
  rw [← splitOn_intercalate_eq_flatMap separator nonempty,
    ← splitOn_intercalate_eq_flatMap separator othersNonempty]
  constructor
  · intro equal
    rw [equal]
  · intro equal
    rw [← @List.intercalate_splitOn _ ([separator].intercalate parts) _ _ separator, equal,
      List.intercalate_splitOn]

/-- Parts without the separator are left as they are. -/
theorem flatMap_splitOn_of_forall_notMem {parts : List (List α)}
    (free : ∀ part ∈ parts, separator ∉ part) :
    parts.flatMap (List.splitOn separator) = parts := by
  induction parts with
  | nil => rfl
  | cons part rest inductionHypothesis =>
      have partFree : separator ∉ part := free part List.mem_cons_self
      have restFree := inductionHypothesis fun other member =>
        free other (List.mem_cons_of_mem part member)
      rw [List.flatMap_cons, List.splitOn_eq_singleton partFree, restFree, List.singleton_append]

/-- A join of parts without the separator tells what was joined. -/
theorem intercalate_inj_of_forall_notMem {parts others : List (List α)}
    (nonempty : parts ≠ []) (othersNonempty : others ≠ [])
    (free : ∀ part ∈ parts, separator ∉ part) (othersFree : ∀ part ∈ others, separator ∉ part) :
    [separator].intercalate parts = [separator].intercalate others ↔ parts = others := by
  rw [intercalate_eq_intercalate_iff separator nonempty othersNonempty,
    flatMap_splitOn_of_forall_notMem free, flatMap_splitOn_of_forall_notMem othersFree]

end Foundation
