import Mathlib.Tactic.Common

/-!
# Outcomes of fallible computations

Inversion rules for `Except`: what a successful sequence says about its parts,
and what every failure of a sequence is. They let a proof peel a fallible
function apart without unfolding the monad.
-/

namespace Foundation

variable {ε ε' α β : Type}

/-- A sequence succeeds exactly when both of its parts do. -/
@[simp] theorem bind_eq_ok {first : Except ε α} {next : α → Except ε β} {result : β} :
    first >>= next = .ok result ↔ ∃ value, first = .ok value ∧ next value = .ok result := by
  cases first with
  | error failure => simp [bind, Except.bind]
  | ok value => simp [bind, Except.bind]

/-- A result that is given succeeds with itself. -/
@[simp] theorem pure_eq_ok {value result : α} :
    (pure value : Except ε α) = .ok result ↔ value = result := by
  simp [pure, Except.pure]

/-- A failure is no success. -/
@[simp] theorem throw_ne_ok {failure : ε} {result : α} :
    (throw failure : Except ε α) ≠ .ok result := by
  intro impossible
  cases impossible

/-- Renaming the error keeps the successes. -/
@[simp] theorem mapError_eq_ok {outcome : Except ε α} {rename : ε → ε'} {result : α} :
    outcome.mapError rename = .ok result ↔ outcome = .ok result := by
  cases outcome with
  | error failure => simp [Except.mapError]
  | ok value => simp [Except.mapError]

/-- A renamed result comes from a result. -/
theorem map_eq_ok {outcome : Except ε α} {rename : α → β} {result : β} :
    outcome.map rename = .ok result ↔ ∃ value, outcome = .ok value ∧ rename value = result := by
  cases outcome with
  | error failure => simp [Except.map]
  | ok value => simp [Except.map]

/-- After a success, a sequence goes on. -/
@[simp] theorem ok_bind {value : α} {next : α → Except ε β} :
    (Except.ok value >>= next) = next value := rfl

/-- After a failure, a sequence stops. -/
@[simp] theorem error_bind {failure : ε} {next : α → Except ε β} :
    (Except.error failure >>= next) = .error failure := rfl

/-- A check that refuses or goes on succeeds exactly where its condition fails. -/
theorem refuseIf_eq_ok {condition : Prop} [Decidable condition] {refusal : Except ε β}
    {next : Except ε α} {result : α} (refuses : ∀ value, refusal ≠ .ok value) :
    (if condition then (do let _ ← refusal; next) else next) = .ok result ↔
      ¬condition ∧ next = .ok result := by
  split_ifs with holds
  · rw [bind_eq_ok]
    constructor
    · rintro ⟨value, impossible, -⟩
      exact (refuses value impossible).elim
    · rintro ⟨fails, -⟩
      exact (fails holds).elim
  · exact ⟨fun passes => ⟨holds, passes⟩, fun passes => passes.2⟩

/-- A check that throws succeeds exactly where its condition fails. -/
theorem throwIf_eq_ok {condition : Prop} [Decidable condition] {failure : ε} {next : Except ε α}
    {result : α} :
    (if condition then (do let _ ← (throw failure : Except ε PUnit); next) else next) = .ok result ↔
      ¬condition ∧ next = .ok result :=
  refuseIf_eq_ok fun _ => throw_ne_ok

/-- The result of a computation that is known to have one. -/
def unwrap : (outcome : Except ε α) → (∃ value, outcome = .ok value) → α
  | .ok value, _ => value
  | .error _, succeeds => False.elim (succeeds.elim nofun)

/-- A computation without a result fails. -/
theorem exists_error_of_ne_ok {outcome : Except ε α} (fails : ∀ value, outcome ≠ .ok value) :
    ∃ failure, outcome = .error failure := by
  cases outcome with
  | error failure => exact ⟨failure, rfl⟩
  | ok value => exact (fails value rfl).elim

/-- A computation that fails, if it does, only so. -/
def FailsOnly (allowed : ε → Prop) (outcome : Except ε α) : Prop :=
  ∀ failure, outcome = .error failure → allowed failure

variable {allowed : ε → Prop}

/-- A success has no failure to account for. -/
theorem failsOnly_ok (value : α) : FailsOnly allowed (.ok value) := by
  rintro failure ⟨⟩

/-- A failure that is permitted is one. -/
theorem failsOnly_error {failure : ε} (permitted : allowed failure) :
    FailsOnly allowed (.error failure : Except ε α) := by
  rintro _ ⟨⟩
  exact permitted

/-- A sequence fails with what its parts fail with. -/
theorem failsOnly_bind {first : Except ε α} {next : α → Except ε β}
    (firstOnly : FailsOnly allowed first) (nextOnly : ∀ value, FailsOnly allowed (next value)) :
    FailsOnly allowed (first >>= next) := by
  cases first with
  | error failure => exact failsOnly_error (firstOnly failure rfl)
  | ok value => exact nextOnly value

/-- A failure that is renamed is one of those before. -/
theorem FailsOnly.mapError {before : ε' → Prop} {outcome : Except ε' α} {rename : ε' → ε}
    (only : FailsOnly before outcome)
    (permitted : ∀ failure, before failure → allowed (rename failure)) :
    FailsOnly allowed (outcome.mapError rename) := by
  cases outcome with
  | error failure => exact failsOnly_error (permitted failure (only failure rfl))
  | ok value => exact failsOnly_ok value

/-- Renamed failures are permitted where every new name is. -/
theorem failsOnly_mapError {outcome : Except ε' α} {rename : ε' → ε}
    (permitted : ∀ failure, allowed (rename failure)) :
    FailsOnly allowed (outcome.mapError rename) :=
  have any : FailsOnly (fun _ => True) outcome := fun _ _ => trivial
  any.mapError fun failure _ => permitted failure

/-- A check that throws or goes on. -/
theorem failsOnly_throwIf {condition : Prop} [Decidable condition] {failure : ε}
    {next : Except ε α} (permitted : allowed failure) (nextOnly : FailsOnly allowed next) :
    FailsOnly allowed (if condition then throw failure else next) := by
  split_ifs
  · exact failsOnly_error permitted
  · exact nextOnly

/-- A check that refuses or goes on. -/
theorem failsOnly_refuseIf {condition : Prop} [Decidable condition] {refusal : Except ε β}
    {next : Except ε α} (refusalOnly : FailsOnly allowed refusal)
    (nextOnly : FailsOnly allowed next) :
    FailsOnly allowed (if condition then (do let _ ← refusal; next) else next) := by
  split_ifs
  · exact failsOnly_bind refusalOnly fun _ => nextOnly
  · exact nextOnly

end Foundation
