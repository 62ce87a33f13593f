import Mathlib.Tactic.Common

/-!
# Traces of labelled steps

Finite runs of a step relation, with the events they emit in order, and the
two rules every safety argument over runs needs: an invariant that each step
keeps holds at the end of every run, and a run can be cut at any event.
-/

namespace Foundation

variable {State Event : Type}

/-- `Trace step start events state`: some run from `start` emits `events` and
ends in `state`. -/
inductive Trace (step : State → Event → State → Prop) : State → List Event → State → Prop where
  | nil {state : State} : Trace step state [] state
  | cons {start next state : State} {event : Event} {events : List Event}
      (transition : step start event next) (rest : Trace step next events state) :
      Trace step start (event :: events) state

namespace Trace

variable {step : State → Event → State → Prop} {start state : State} {events : List Event}

/-- What holds after some past and is kept by every step holds at the end of
every further run. -/
theorem invariant_from {Inv : List Event → State → Prop}
    (kept : ∀ {past state event next}, Inv past state → step state event next →
      Inv (past ++ [event]) next)
    (run : Trace step start events state) (past : List Event) (initial : Inv past start) :
    Inv (past ++ events) state := by
  induction run generalizing past with
  | nil =>
      rw [List.append_nil]
      exact initial
  | cons transition _ ih =>
      rw [List.append_cons]
      exact ih _ (kept initial transition)

/-- What holds at the start and is kept by every step holds at the end of every
run. -/
theorem invariant {Inv : List Event → State → Prop} (initial : Inv [] start)
    (kept : ∀ {past state event next}, Inv past state → step state event next →
      Inv (past ++ [event]) next)
    (run : Trace step start events state) : Inv events state :=
  invariant_from kept run [] initial

/-- A run cut in two. -/
theorem split {before after : List Event} (run : Trace step start (before ++ after) state) :
    ∃ middle, Trace step start before middle ∧ Trace step middle after state := by
  induction before generalizing start with
  | nil => exact ⟨start, .nil, run⟩
  | cons event earlier ih =>
      cases run with
      | cons transition rest =>
          obtain ⟨middle, first, second⟩ := ih rest
          exact ⟨middle, .cons transition first, second⟩

end Trace

end Foundation
