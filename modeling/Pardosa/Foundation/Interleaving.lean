import Mathlib.Data.List.Perm.Basic
import Mathlib.Tactic.Common

/-!
# Interleavings

Two lists that agree on every key, each key's entries in the same order, are
interleavings of the same sequences. Only the order across keys may differ.
-/

namespace Foundation

variable {α β κ : Type} [DecidableEq κ] {key : α → κ} {first second : List α}

/-- Both lists hold the same entries under each key, in the same order. -/
def Interleaved (key : α → κ) (first second : List α) : Prop :=
  ∀ shared, first.filter (fun entry => key entry = shared) =
    second.filter (fun entry => key entry = shared)

namespace Interleaved

/-- Interleavings hold the same entries. -/
theorem perm [DecidableEq α] (same : Interleaved key first second) : first.Perm second := by
  apply List.perm_iff_count.mpr
  intro entry
  have counted : ∀ list : List α,
      (list.filter fun other => key other = key entry).count entry = list.count entry :=
    fun list => List.count_filter (by simp)
  rw [← counted first, ← counted second, same]

/-- An entry is in one interleaving exactly if it is in the other. -/
theorem mem_iff [DecidableEq α] (same : Interleaved key first second) {entry : α} :
    entry ∈ first ↔ entry ∈ second :=
  same.perm.mem_iff

/-- Reading the entries, some of them in vain, keeps an interleaving when a reading
knows its entry's key. -/
theorem filterMap {read : α → Option β} {keyOf : β → κ}
    (keyed : ∀ entry value, read entry = some value → keyOf value = key entry)
    (same : Interleaved key first second) :
    Interleaved keyOf (first.filterMap read) (second.filterMap read) := by
  intro shared
  have picked : ∀ list : List α, (list.filterMap read).filter (fun value => keyOf value = shared) =
      (list.filter fun entry => key entry = shared).filterMap read := by
    intro list
    rw [List.filter_filterMap, List.filterMap_filter]
    congr 1
    funext entry
    cases found : read entry with
    | none => simp
    | some value =>
        rw [← keyed entry value found]
        by_cases matching : keyOf value = shared
        · simp [matching]
        · simp [matching]
  rw [picked, picked, same]

end Interleaved

end Foundation
