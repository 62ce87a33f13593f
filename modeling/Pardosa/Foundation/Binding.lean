import Mathlib.Tactic.Common

/-!
# What a digest binds

A digest stands for a sequence when the digested material can be read in one way
only. Two arrangements give that: pieces that tell their own end, written one after
the other, and entries that each carry the digest of the one before.
-/

namespace Foundation

section Concatenation

variable {α β : Type} {allowed : α → Prop} {encode : α → List β}

/-- A written value is known from its own bytes, whatever follows them. -/
def SelfDelimiting (allowed : α → Prop) (encode : α → List β) : Prop :=
  ∀ left right, allowed left → allowed right → ∀ rest rest',
    encode left ++ rest = encode right ++ rest' → left = right

/-- Sequences of values that tell their own end are known from their concatenation. -/
theorem SelfDelimiting.eq_of_flatMap_eq (delimiting : SelfDelimiting allowed encode)
    (nonempty : ∀ value, encode value ≠ []) {first second : List α}
    (firstAllowed : ∀ value ∈ first, allowed value)
    (secondAllowed : ∀ value ∈ second, allowed value)
    (same : first.flatMap encode = second.flatMap encode) : first = second := by
  induction first generalizing second with
  | nil =>
      cases second with
      | nil => rfl
      | cons value rest =>
          rw [List.flatMap_nil, List.flatMap_cons] at same
          exact (nonempty value (List.append_eq_nil_iff.mp same.symm).1).elim
  | cons value rest ih =>
      cases second with
      | nil =>
          rw [List.flatMap_nil, List.flatMap_cons] at same
          exact (nonempty value (List.append_eq_nil_iff.mp same).1).elim
      | cons value' rest' =>
          rw [List.flatMap_cons, List.flatMap_cons] at same
          obtain rfl := delimiting value value' (firstAllowed value List.mem_cons_self)
            (secondAllowed value' List.mem_cons_self) _ _ same
          have others := ih (fun other member => firstAllowed other (List.mem_cons_of_mem _ member))
            (fun other member => secondAllowed other (List.mem_cons_of_mem _ member))
            (List.append_cancel_left same)
          rw [others]

end Concatenation

/-- How the entries of a chain are digested: the digest of an entry, the digest an
entry carries of the one before it, and the mark that the first one carries. -/
structure ChainDigest (α δ : Type) where
  digest : α → δ
  link : α → δ
  origin : δ

namespace ChainDigest

variable {α δ : Type} {chain : ChainDigest α δ} {entries first second : List α}

/-- The digest that stands for a whole chain. -/
def tip (chain : ChainDigest α δ) (entries : List α) : δ :=
  (entries.getLast?.map chain.digest).getD chain.origin

/-- Every entry carries the tip of the entries before it. -/
inductive Linked (chain : ChainDigest α δ) : List α → Prop where
  | nil : Linked chain []
  | concat {earlier : List α} {entry : α} (linked : Linked chain earlier)
      (carried : chain.link entry = chain.tip earlier) : Linked chain (earlier ++ [entry])

/-- The tip of no entries is where the chain begins. -/
@[simp] theorem tip_nil : chain.tip [] = chain.origin := rfl

/-- The tip of a chain is the digest of its last entry. -/
@[simp] theorem tip_concat (entry : α) : chain.tip (entries ++ [entry]) = chain.digest entry := by
  simp [tip]

/-- A tip binds its whole chain: digests that tell entries apart, and are none of them
the mark of the origin, lead back along both chains at once. -/
theorem Linked.eq_of_tip_eq (firstLinked : chain.Linked first) (secondLinked : chain.Linked second)
    (binding : ∀ left ∈ first, ∀ right ∈ second, chain.digest left = chain.digest right →
      left = right)
    (firstMarked : ∀ entry ∈ first, chain.digest entry ≠ chain.origin)
    (secondMarked : ∀ entry ∈ second, chain.digest entry ≠ chain.origin)
    (same : chain.tip first = chain.tip second) : first = second := by
  induction firstLinked generalizing second with
  | nil =>
      cases secondLinked with
      | nil => rfl
      | @concat earlier entry linked carried =>
          rw [tip_nil, tip_concat] at same
          exact (secondMarked entry (by simp) same.symm).elim
  | @concat earlier entry linked carried ih =>
      cases secondLinked with
      | nil =>
          rw [tip_nil, tip_concat] at same
          exact (firstMarked entry (by simp) same).elim
      | @concat earlier' entry' linked' carried' =>
          rw [tip_concat, tip_concat] at same
          obtain rfl := binding entry (by simp) entry' (by simp) same
          have before := ih linked'
            (fun left member right member' => binding left (List.mem_append_left _ member) right
              (List.mem_append_left _ member'))
            (fun other member => firstMarked other (List.mem_append_left _ member))
            (fun other member => secondMarked other (List.mem_append_left _ member))
            (carried.symm.trans carried')
          rw [before]

end ChainDigest

end Foundation
