import Pardosa.Foundation.Program

/-!
# Loops

A loop of a method may go round any number of times. `Action.loop` runs it for at most so many
rounds, and tells a loop that has left with a result from one that is still running.
`Action.wp_loop` is the rule of total correctness: an invariant between two rounds, and a
measure that every round makes smaller.
-/

namespace Foundation

namespace Action

variable {S : Signature} {World ε σ Place Result : Type}

/-- At most so many rounds of a loop from a place on: the place it has come to, or the result
it has left with. -/
def loop (round : Place → Action S ε σ (Place ⊕ Result)) :
    (rounds : Nat) → Place → Action S ε σ (Place ⊕ Result)
  | 0, place => pure (.inl place)
  | rounds + 1, place => do
      match ← round place with
      | .inl next => loop round rounds next
      | .inr result => return .inr result

/-- What holds of a loop that still runs, or else of what it has left with. -/
def Leaving (running : Place → σ → World → Prop) (post : Except ε Result → σ → World → Prop) :
    Except ε (Place ⊕ Result) → σ → World → Prop
  | .ok (.inl place), state, world => running place state world
  | .ok (.inr result), state, world => post (.ok result) state world
  | .error failure, state, world => post (.error failure) state world

variable {setting : Setting S World} {round : Place → Action S ε σ (Place ⊕ Result)}
  {post : Except ε Result → σ → World → Prop}

/-- A loop leaves within more rounds than its measure, in what every round that leaves owes. -/
theorem wp_loop (Inv : Place → σ → World → Prop) (measure : Place → Nat)
    (step : ∀ place state world, Inv place state world →
      (round place).wp setting (Leaving (fun next after later =>
        measure next < measure place ∧ Inv next after later) post) state world)
    {rounds : Nat} {place : Place} (enough : measure place < rounds) {state : σ} {world : World}
    (holds : Inv place state world) :
    (loop round rounds place).wp setting (Leaving (fun _ _ _ => False) post) state world := by
  induction rounds generalizing place state world with
  | zero => exact (Nat.not_lt_zero _ enough).elim
  | succ rounds ih =>
      simp only [loop, wp_bind]
      refine wp_mono (step place state world holds) ?_
      rintro (failure | next | result) after later owed
      · exact owed
      · exact ih (Nat.lt_of_lt_of_le owed.1 (Nat.le_of_lt_succ enough)) owed.2
      · exact owed

end Action

end Foundation
