import Mathlib.Logic.Function.Basic
import Mathlib.Logic.Relation
import Pardosa.Foundation.Program

/-!
# Many actors in one world

Any number of actors run programs over one world, one operation at a time and in
any order. An actor is idle in a local state, or in the middle of a call. It may
die at any point; a dead actor is idle again, in a local state of its own.

A `Discipline` says what each actor relies on and what holds of it while it is idle,
during a call and when a call ends. `Pool.Obeys` is checked for one actor at a time,
with the rules of `Program.wp`; `Sound.reaches` gives what follows for every
configuration that the actors may reach together.
-/

namespace Foundation

/-- Actors that run programs over one world. -/
structure Pool (S : Signature) (World Actor Call Local : Type) where
  /-- What an operation of an actor may answer and do. -/
  exec : Actor → (op : S.Op) → World → S.Res op → World → Prop
  /-- The program of a call, in the local states in which there is such a call. -/
  program : Call → Local → Option (Program S Local)
  /-- The world once an actor has started a call. -/
  entered : Actor → Call → Local → World → World
  /-- The world once an actor is left idle in a local state. -/
  left : Actor → Local → World → World
  /-- The local state of an actor that died. -/
  dead : Local → Local
  /-- What happens to the world without any of the actors. -/
  others : World → World → Prop

/-- What an actor is doing. -/
inductive Doing (S : Signature) (Call Local : Type) where
  | idle (state : Local)
  | busy (call : Call) (state : Local) (rest : Program S Local)

/-- The local state of an actor, from before the call if it is in one. -/
def Doing.state {S : Signature} {Call Local : Type} : Doing S Call Local → Local
  | .idle state => state
  | .busy _ state _ => state

/-- The world and what every actor is doing in it. -/
structure Configuration (S : Signature) (World Actor Call Local : Type) where
  world : World
  doing : Actor → Doing S Call Local

namespace Pool

variable {S : Signature} {World Actor Call Local : Type} [DecidableEq Actor]

/-- One step of one actor, or of nobody. -/
inductive Step (pool : Pool S World Actor Call Local) :
    Configuration S World Actor Call Local → Configuration S World Actor Call Local → Prop where
  | start {config : Configuration S World Actor Call Local} {actor : Actor} {call : Call}
      {state : Local} {program : Program S Local} (idle : config.doing actor = .idle state)
      (possible : pool.program call state = some program) :
      Step pool config ⟨pool.entered actor call state config.world,
        Function.update config.doing actor (.busy call state program)⟩
  | perform {config : Configuration S World Actor Call Local} {actor : Actor} {call : Call}
      {state : Local} {op : S.Op} {next : S.Res op → Program S Local} {answer : S.Res op}
      {after : World} (busy : config.doing actor = .busy call state (.call op next))
      (performed : pool.exec actor op config.world answer after) :
      Step pool config ⟨after, Function.update config.doing actor (.busy call state (next answer))⟩
  | finish {config : Configuration S World Actor Call Local} {actor : Actor} {call : Call}
      {state final : Local} (busy : config.doing actor = .busy call state (.ret final)) :
      Step pool config ⟨pool.left actor final config.world,
        Function.update config.doing actor (.idle final)⟩
  | die {config : Configuration S World Actor Call Local} (actor : Actor) :
      Step pool config ⟨pool.left actor (pool.dead (config.doing actor).state) config.world,
        Function.update config.doing actor (.idle (pool.dead (config.doing actor).state))⟩
  | others {config : Configuration S World Actor Call Local} {after : World}
      (moved : pool.others config.world after) : Step pool config ⟨after, config.doing⟩

/-- Any number of steps. -/
def Reaches (pool : Pool S World Actor Call Local) :
    Configuration S World Actor Call Local → Configuration S World Actor Call Local → Prop :=
  Relation.ReflTransGen pool.Step

variable {pool : Pool S World Actor Call Local} {actor : Actor} {call : Call}
  {state value : Local} {program : Program S Local} {world final : World}
  {doing : Actor → Doing S Call Local}

/-- What an actor may do in a setting of its own, in which nothing happens but what may
happen in the pool, the pool may do. -/
theorem reaches_of_runs_in {setting : Setting S World}
    (performs : ∀ {op : S.Op} {before : World} {answer : S.Res op} {after : World},
      setting.exec op before answer after → pool.exec actor op before answer after)
    (others : ∀ {before after : World}, setting.rely before after →
      Relation.ReflTransGen pool.others before after)
    (busy : doing actor = .busy call state program)
    (runs : program.Runs setting world value final) :
    pool.Reaches ⟨world, doing⟩
      ⟨final, Function.update doing actor (.busy call state (.ret value))⟩ := by
  induction runs generalizing doing with
  | ret =>
      rw [← busy, Function.update_eq_self]
      exact .refl
  | call moves performed _ ih =>
      have later := ih (Function.update_self actor (.busy call state _) doing)
      rw [Function.update_idem] at later
      have moved : ∀ {before after : World}, Relation.ReflTransGen pool.others before after →
          pool.Reaches ⟨before, doing⟩ ⟨after, doing⟩ := by
        intro before after steps
        induction steps with
        | refl => exact .refl
        | tail _ step ih => exact ih.tail (.others step)
      exact (moved (others moves)).trans (.head (.perform busy (performs performed)) later)

/-- What an actor may do alone the pool may do. -/
theorem reaches_of_runs (busy : doing actor = .busy call state program)
    (runs : program.Runs (.solo (pool.exec actor)) world value final) :
    pool.Reaches ⟨world, doing⟩
      ⟨final, Function.update doing actor (.busy call state (.ret value))⟩ :=
  reaches_of_runs_in id (by rintro before _ rfl; exact .refl) busy runs

/-- A whole call of an actor in such a setting. -/
theorem reaches_call_in {setting : Setting S World}
    (performs : ∀ {op : S.Op} {before : World} {answer : S.Res op} {after : World},
      setting.exec op before answer after → pool.exec actor op before answer after)
    (others : ∀ {before after : World}, setting.rely before after →
      Relation.ReflTransGen pool.others before after)
    (idle : doing actor = .idle state) (possible : pool.program call state = some program)
    (runs : program.Runs setting (pool.entered actor call state world) value final) :
    pool.Reaches ⟨world, doing⟩
      ⟨pool.left actor value final, Function.update doing actor (.idle value)⟩ := by
  have started := reaches_of_runs_in performs others
    (Function.update_self actor (.busy call state program) doing) runs
  rw [Function.update_idem] at started
  have finished : pool.Step
      ⟨final, Function.update doing actor (.busy call state (.ret value))⟩ _ :=
    .finish (Function.update_self ..)
  rw [Function.update_idem] at finished
  exact (Relation.ReflTransGen.head (.start idle possible) started).tail finished

/-- A whole call of an actor alone. -/
theorem reaches_call (idle : doing actor = .idle state)
    (possible : pool.program call state = some program)
    (runs : program.Runs (.solo (pool.exec actor)) (pool.entered actor call state world) value
      final) :
    pool.Reaches ⟨world, doing⟩
      ⟨pool.left actor value final, Function.update doing actor (.idle value)⟩ :=
  reaches_call_in id (by rintro before _ rfl; exact .refl) idle possible runs

/-- A pool whose worlds keep more on record than those of another, and forget it under a
view, does whatever the other does. -/
theorem exists_reaches_of_view {Rich : Type} {rich : Pool S Rich Actor Call Local}
    (view : Rich → World) (programs : rich.program = pool.program) (dead : rich.dead = pool.dead)
    (exec : ∀ {actor op world answer after}, pool.exec actor op (view world) answer after →
      ∃ later, rich.exec actor op world answer later ∧ view later = after)
    (entered : ∀ actor call state world,
      view (rich.entered actor call state world) = pool.entered actor call state (view world))
    (left : ∀ actor state world,
      view (rich.left actor state world) = pool.left actor state (view world))
    (others : ∀ {world after}, pool.others (view world) after →
      ∃ later, rich.others world later ∧ view later = after)
    {start config : Configuration S World Actor Call Local} (run : pool.Reaches start config)
    {recorded : Rich} (begins : view recorded = start.world) :
    ∃ later, rich.Reaches ⟨recorded, start.doing⟩ ⟨later, config.doing⟩ ∧
      view later = config.world := by
  induction run with
  | refl => exact ⟨recorded, .refl, begins⟩
  | tail _ step ih =>
      obtain ⟨later, reached, same⟩ := ih
      cases step with
      | start idle possible =>
          exact ⟨_, reached.tail (.start idle (by rw [programs]; exact possible)), by
            rw [entered, same]⟩
      | perform busy performed =>
          rw [← same] at performed
          obtain ⟨after, performed, viewed⟩ := exec performed
          exact ⟨after, reached.tail (.perform busy performed), viewed⟩
      | finish busy => exact ⟨_, reached.tail (.finish busy), by rw [left, same]⟩
      | die actor =>
          rw [← dead]
          exact ⟨_, reached.tail (.die actor), by rw [left, same]⟩
      | others moved =>
          rw [← same] at moved
          obtain ⟨after, moved, viewed⟩ := others moved
          exact ⟨after, reached.tail (.others moved), viewed⟩

/-- What an actor is busy with after a step it was busy with before, or has started or
gone on with. -/
theorem Step.busy_cases {before after : Configuration S World Actor Call Local}
    (step : pool.Step before after) {rest : Program S Local}
    (busy : after.doing actor = .busy call state rest) :
    before.doing actor = .busy call state rest ∨ pool.program call state = some rest ∨
      ∃ op next answer, before.doing actor = .busy call state (.call op next) ∧
        rest = next answer := by
  have turn {doing : Actor → Doing S Call Local} {mover : Actor} {moved : Doing S Call Local}
      (busy : Function.update doing mover moved actor = .busy call state rest) :
      doing actor = .busy call state rest ∨ actor = mover ∧ moved = .busy call state rest := by
    rw [Function.update_apply] at busy
    split_ifs at busy with here
    · exact .inr ⟨here, busy⟩
    · exact .inl busy
  cases step with
  | start _ possible =>
      obtain elsewhere | ⟨rfl, here⟩ := turn busy
      · exact .inl elsewhere
      · cases here
        exact .inr (.inl possible)
  | @perform _ _ _ op next answer _ before _ =>
      obtain elsewhere | ⟨rfl, here⟩ := turn busy
      · exact .inl elsewhere
      · cases here
        exact .inr (.inr ⟨op, next, answer, before, rfl⟩)
  | finish _ =>
      obtain elsewhere | ⟨-, here⟩ := turn busy
      · exact .inl elsewhere
      · cases here
  | die _ =>
      obtain elsewhere | ⟨-, here⟩ := turn busy
      · exact .inl elsewhere
      · cases here
  | others _ => exact .inl busy

/-- What the programs of all calls keep to, what is left of them keeps to. -/
theorem busy_only {permits : Call → Local → S.Op → Prop}
    (programs : ∀ {call state program}, pool.program call state = some program →
      program.Only (permits call state))
    {start config : Configuration S World Actor Call Local}
    (begins : ∀ {actor call state rest}, start.doing actor = .busy call state rest →
      rest.Only (permits call state))
    (run : pool.Reaches start config) {rest : Program S Local}
    (busy : config.doing actor = .busy call state rest) : rest.Only (permits call state) := by
  induction run generalizing rest with
  | refl => exact begins busy
  | tail _ step ih =>
      obtain earlier | possible | ⟨op, next, answer, earlier, rfl⟩ := step.busy_cases busy
      · exact ih earlier
      · exact programs possible
      · exact (ih earlier).2 answer

end Pool

/-- What actors promise each other. -/
structure Discipline (World Actor Call Local : Type) where
  /-- What holds of the world at any time. -/
  Inv : World → Prop
  /-- How the world may change at all. -/
  Grows : World → World → Prop
  /-- What an actor relies on when others act. -/
  Rely : Actor → World → World → Prop
  /-- What holds of an idle actor. -/
  Holds : Actor → Local → World → Prop
  /-- What holds at any time of a call. -/
  During : Actor → Call → Local → World → Prop
  /-- What holds when a call ends in a local state. -/
  Ends : Actor → Call → Local → Local → World → Prop

namespace Discipline

variable {S : Signature} {World Actor Call Local : Type}

/-- What an actor owes whenever it changes the world. -/
structure Moves (discipline : Discipline World Actor Call Local) (actor : Actor)
    (before after : World) : Prop where
  invariant : discipline.Inv after
  grows : discipline.Grows before after
  rely : ∀ other, other ≠ actor → discipline.Rely other before after

/-- What an actor sees of the others. -/
structure Sees (discipline : Discipline World Actor Call Local) (actor : Actor)
    (before after : World) : Prop where
  invariant : discipline.Inv after
  grows : discipline.Grows before after
  rely : discipline.Rely actor before after

/-- The world as an actor finds it during a call. -/
def setting (discipline : Discipline World Actor Call Local)
    (pool : Pool S World Actor Call Local) (actor : Actor) (call : Call) (state : Local) :
    Setting S World where
  exec := pool.exec actor
  rely before after := discipline.Sees actor before after ∧ discipline.During actor call state after
  guar before after := discipline.Moves actor before after ∧
    discipline.During actor call state after

/-- What the allowed operations of an actor keep, and what the others do, too, a
program of such operations keeps. -/
theorem wp_of_only {discipline : Discipline World Actor Call Local}
    {pool : Pool S World Actor Call Local} {actor : Actor} {call : Call} {state : Local}
    {Kept : World → Prop} {allowed : S.Op → Prop}
    (others : ∀ {before after}, discipline.Sees actor before after → Kept before → Kept after)
    (steps : ∀ {op before answer after}, allowed op → discipline.Inv before →
      discipline.During actor call state before → Kept before →
      pool.exec actor op before answer after →
      discipline.Moves actor before after ∧ discipline.During actor call state after ∧ Kept after)
    {α : Type} {program : Program S α} (only : program.Only allowed) {world : World}
    (start : Kept world) :
    program.wp (discipline.setting pool actor call state) (fun _ after => Kept after) world := by
  induction program generalizing world with
  | ret value => exact start
  | call op next ih =>
      rintro moved ⟨sees, during⟩ answer after performed
      obtain ⟨moves, still, kept⟩ := steps only.1 sees.invariant during
        (others sees start) performed
      exact ⟨⟨moves, still⟩, ih answer (only.2 answer) kept⟩

end Discipline

/-- Each actor keeps to the discipline, as long as the others do. -/
structure Pool.Obeys {S : Signature} {World Actor Call Local : Type}
    (pool : Pool S World Actor Call Local) (discipline : Discipline World Actor Call Local) :
    Prop where
  rely_refl : ∀ actor world, discipline.Rely actor world world
  rely_trans : ∀ {actor first second third}, discipline.Rely actor first second →
    discipline.Rely actor second third → discipline.Rely actor first third
  grows_refl : ∀ world, discipline.Grows world world
  grows_trans : ∀ {first second third}, discipline.Grows first second →
    discipline.Grows second third → discipline.Grows first third
  holds : ∀ {actor state before after}, discipline.Sees actor before after →
    discipline.Holds actor state before → discipline.Holds actor state after
  during : ∀ {actor call state before after}, discipline.Sees actor before after →
    discipline.During actor call state before → discipline.During actor call state after
  ends : ∀ {actor call state final before after}, discipline.Sees actor before after →
    discipline.Ends actor call state final before → discipline.Ends actor call state final after
  start : ∀ {actor call state program world}, discipline.Inv world →
    discipline.Holds actor state world → pool.program call state = some program →
    discipline.Moves actor world (pool.entered actor call state world) ∧
      discipline.During actor call state (pool.entered actor call state world) ∧
      program.wp (discipline.setting pool actor call state) (discipline.Ends actor call state)
        (pool.entered actor call state world)
  finish : ∀ {actor call state final world}, discipline.Inv world →
    discipline.During actor call state world → discipline.Ends actor call state final world →
    discipline.Moves actor world (pool.left actor final world) ∧
      discipline.Holds actor final (pool.left actor final world)
  die_idle : ∀ {actor state world}, discipline.Inv world → discipline.Holds actor state world →
    discipline.Moves actor world (pool.left actor (pool.dead state) world) ∧
      discipline.Holds actor (pool.dead state) (pool.left actor (pool.dead state) world)
  die_busy : ∀ {actor call state world}, discipline.Inv world →
    discipline.During actor call state world →
    discipline.Moves actor world (pool.left actor (pool.dead state) world) ∧
      discipline.Holds actor (pool.dead state) (pool.left actor (pool.dead state) world)
  others : ∀ {before after}, discipline.Inv before → pool.others before after →
    discipline.Inv after ∧ discipline.Grows before after ∧
      ∀ actor, discipline.Rely actor before after

/-- Every actor is where the discipline wants it. -/
structure Sound {S : Signature} {World Actor Call Local : Type}
    (pool : Pool S World Actor Call Local) (discipline : Discipline World Actor Call Local)
    (config : Configuration S World Actor Call Local) : Prop where
  invariant : discipline.Inv config.world
  idle : ∀ {actor state}, config.doing actor = .idle state →
    discipline.Holds actor state config.world
  busy : ∀ {actor call state rest}, config.doing actor = .busy call state rest →
    discipline.During actor call state config.world ∧
      rest.wp (discipline.setting pool actor call state) (discipline.Ends actor call state)
        config.world

namespace Sound

variable {S : Signature} {World Actor Call Local : Type}
  {pool : Pool S World Actor Call Local} {discipline : Discipline World Actor Call Local}
  {config after : Configuration S World Actor Call Local} {actor : Actor}

/-- What others do leaves an actor where it is wanted. -/
theorem others (obeys : pool.Obeys discipline) (sound : Sound pool discipline config)
    {moved : World} (sees : discipline.Sees actor config.world moved) :
    (∀ {state}, config.doing actor = .idle state → discipline.Holds actor state moved) ∧
      ∀ {call state rest}, config.doing actor = .busy call state rest →
        discipline.During actor call state moved ∧
          rest.wp (discipline.setting pool actor call state) (discipline.Ends actor call state)
            moved := by
  refine ⟨?_, ?_⟩
  · intro state doing
    exact obeys.holds sees (sound.idle doing)
  · intro call state rest doing
    obtain ⟨during, owed⟩ := sound.busy doing
    have kept := obeys.during sees during
    refine ⟨kept, Program.wp_stable ?_ ?_ ⟨sees, kept⟩ owed⟩
    · rintro first second third ⟨earlier, -⟩ ⟨later, still⟩
      exact ⟨⟨later.invariant, obeys.grows_trans earlier.grows later.grows,
        obeys.rely_trans earlier.rely later.rely⟩, still⟩
    · rintro final before moved ⟨seen, -⟩ ended
      exact obeys.ends seen ended

variable [DecidableEq Actor]

/-- A step of one actor that keeps to its promise, and leaves it where it is wanted. -/
theorem moved (obeys : pool.Obeys discipline) (sound : Sound pool discipline config)
    {world : World} {doing : Doing S Call Local}
    (moves : discipline.Moves actor config.world world)
    (idle : ∀ {state}, doing = .idle state → discipline.Holds actor state world)
    (busy : ∀ {call state rest}, doing = .busy call state rest →
      discipline.During actor call state world ∧
        rest.wp (discipline.setting pool actor call state) (discipline.Ends actor call state)
          world) :
    Sound pool discipline ⟨world, Function.update config.doing actor doing⟩ where
  invariant := moves.invariant
  idle {other state} is := by
    dsimp only at is
    by_cases own : other = actor
    · subst own
      rw [Function.update_self] at is
      exact idle is
    · rw [Function.update_of_ne own] at is
      exact (sound.others obeys ⟨moves.invariant, moves.grows, moves.rely other own⟩).1 is
  busy {other call state rest} is := by
    dsimp only at is
    by_cases own : other = actor
    · subst own
      rw [Function.update_self] at is
      exact busy is
    · rw [Function.update_of_ne own] at is
      exact (sound.others obeys ⟨moves.invariant, moves.grows, moves.rely other own⟩).2 is

/-- Every step leads from a sound configuration to a sound one. -/
theorem step (obeys : pool.Obeys discipline) (sound : Sound pool discipline config)
    (step : pool.Step config after) :
    Sound pool discipline after ∧ discipline.Grows config.world after.world := by
  cases step with
  | start idle possible =>
      obtain ⟨moves, during, owed⟩ := obeys.start sound.invariant (sound.idle idle) possible
      refine ⟨sound.moved obeys moves ?_ ?_, moves.grows⟩
      · rintro state ⟨⟩
      · rintro call state rest ⟨⟩
        exact ⟨during, owed⟩
  | @perform actor call state op next answer moved busy performed =>
      obtain ⟨during, owed⟩ := sound.busy busy
      have sees : discipline.Sees actor config.world config.world :=
        ⟨sound.invariant, obeys.grows_refl _, obeys.rely_refl _ _⟩
      obtain ⟨⟨moves, still⟩, later⟩ := owed config.world ⟨sees, during⟩ answer moved performed
      refine ⟨sound.moved obeys moves ?_ ?_, moves.grows⟩
      · rintro state ⟨⟩
      · rintro call state rest ⟨⟩
        exact ⟨still, later⟩
  | finish busy =>
      obtain ⟨during, ended⟩ := sound.busy busy
      obtain ⟨moves, holds⟩ := obeys.finish sound.invariant during ended
      refine ⟨sound.moved obeys moves ?_ ?_, moves.grows⟩
      · rintro state ⟨⟩
        exact holds
      · rintro call state rest ⟨⟩
  | die actor =>
      have dies : discipline.Moves actor config.world
          (pool.left actor (pool.dead (config.doing actor).state) config.world) ∧
          discipline.Holds actor (pool.dead (config.doing actor).state)
            (pool.left actor (pool.dead (config.doing actor).state) config.world) := by
        cases doing : config.doing actor with
        | idle state => exact obeys.die_idle sound.invariant (sound.idle doing)
        | busy call state rest => exact obeys.die_busy sound.invariant (sound.busy doing).1
      obtain ⟨moves, holds⟩ := dies
      refine ⟨sound.moved obeys moves ?_ ?_, moves.grows⟩
      · rintro state ⟨⟩
        exact holds
      · rintro call state rest ⟨⟩
  | @others moved moves =>
      obtain ⟨invariant, grows, rely⟩ := obeys.others sound.invariant moves
      refine ⟨⟨invariant, ?_, ?_⟩, grows⟩
      · intro actor state doing
        exact (sound.others obeys ⟨invariant, grows, rely actor⟩).1 doing
      · intro actor call state rest doing
        exact (sound.others obeys ⟨invariant, grows, rely actor⟩).2 doing

/-- So does every run. -/
theorem reaches (obeys : pool.Obeys discipline) (sound : Sound pool discipline config)
    (run : pool.Reaches config after) :
    Sound pool discipline after ∧ discipline.Grows config.world after.world := by
  induction run with
  | refl => exact ⟨sound, obeys.grows_refl _⟩
  | tail _ last ih =>
      obtain ⟨soundBefore, grown⟩ := ih
      obtain ⟨soundAfter, grows⟩ := soundBefore.step obeys last
      exact ⟨soundAfter, obeys.grows_trans grown grows⟩

/-- A view of the world that every step of the actors leaves, or takes one step of an
abstract system, takes any number of its steps along a run. -/
theorem follows {Abstract : Type} {view : World → Abstract} {advances : Abstract → Abstract → Prop}
    (obeys : pool.Obeys discipline)
    (steps : ∀ {config after}, Sound pool discipline config → pool.Step config after →
      view after.world = view config.world ∨ advances (view config.world) (view after.world))
    (sound : Sound pool discipline config) (run : pool.Reaches config after) :
    Relation.ReflTransGen advances (view config.world) (view after.world) := by
  induction run with
  | refl => exact .refl
  | tail earlier last ih =>
      obtain ⟨soundBefore, -⟩ := sound.reaches obeys earlier
      rcases steps soundBefore last with same | advanced
      · rw [same]
        exact ih
      · exact ih.tail advanced

end Sound

section Records

variable {S : Signature} {World Actor Call Local : Type} {pool : Pool S World Actor Call Local}
  {discipline : Discipline World Actor Call Local} {fact : Actor → Local → World → Prop}

namespace Discipline

/-- A discipline whose actors keep track of something besides. -/
def also (discipline : Discipline World Actor Call Local) (fact : Actor → Local → World → Prop) :
    Discipline World Actor Call Local where
  Inv := discipline.Inv
  Grows := discipline.Grows
  Rely := discipline.Rely
  Holds actor state world := discipline.Holds actor state world ∧ fact actor state world
  During actor call state world := discipline.During actor call state world ∧ fact actor state world
  Ends actor call state final world :=
    discipline.Ends actor call state final world ∧ fact actor final world

variable {actor : Actor} {call : Call} {state : Local} {α : Type} {program : Program S α}
  {post : α → World → Prop} {world : World}

/-- What holds at any time of a call holds at its end. -/
theorem wp_during (during : discipline.During actor call state world)
    (owed : program.wp (discipline.setting pool actor call state) post world) :
    program.wp (discipline.setting pool actor call state)
      (fun value after => post value after ∧ discipline.During actor call state after) world := by
  induction program generalizing world with
  | ret value => exact ⟨owed, during⟩
  | call op next ih =>
      intro moved sees answer after performed
      obtain ⟨⟨moves, still⟩, later⟩ := owed moved sees answer after performed
      exact ⟨⟨moves, still⟩, ih answer still later⟩

/-- What lasts however the world grows lasts during a call. -/
theorem wp_also (lasting : ∀ {actor state before after}, discipline.Grows before after →
      fact actor state before → fact actor state after) (holds : fact actor state world)
    (owed : program.wp (discipline.setting pool actor call state) post world) :
    program.wp ((discipline.also fact).setting pool actor call state) post world := by
  induction program generalizing world with
  | ret value => exact owed
  | call op next ih =>
      rintro moved ⟨⟨invariant, grows, rely⟩, during, kept⟩ answer after performed
      obtain ⟨⟨moves, still⟩, later⟩ :=
        owed moved ⟨⟨invariant, grows, rely⟩, during⟩ answer after performed
      have lasts := lasting moves.grows kept
      exact ⟨⟨⟨moves.invariant, moves.grows, moves.rely⟩, still, lasts⟩, ih answer lasts later⟩

end Discipline

/-- Actors that keep to a discipline may keep track of what lasts, if every call adds to it
when it ends. -/
theorem Pool.Obeys.also (obeys : pool.Obeys discipline)
    (lasting : ∀ {actor state before after}, discipline.Grows before after →
      fact actor state before → fact actor state after)
    (dead : ∀ {actor state world}, fact actor state world → fact actor (pool.dead state) world)
    (concludes : ∀ {actor call state program world}, discipline.Inv world →
      discipline.Holds actor state world → fact actor state world →
      pool.program call state = some program →
      program.wp (discipline.setting pool actor call state)
        (fun final after => discipline.During actor call state after → fact actor state after →
          fact actor final after) (pool.entered actor call state world)) :
    pool.Obeys (discipline.also fact) where
  rely_refl := obeys.rely_refl
  rely_trans := obeys.rely_trans
  grows_refl := obeys.grows_refl
  grows_trans := obeys.grows_trans
  holds sees holds := ⟨obeys.holds ⟨sees.invariant, sees.grows, sees.rely⟩ holds.1,
    lasting sees.grows holds.2⟩
  during sees during := ⟨obeys.during ⟨sees.invariant, sees.grows, sees.rely⟩ during.1,
    lasting sees.grows during.2⟩
  ends sees ends := ⟨obeys.ends ⟨sees.invariant, sees.grows, sees.rely⟩ ends.1,
    lasting sees.grows ends.2⟩
  start := by
    rintro actor call state program world inv ⟨holds, kept⟩ possible
    obtain ⟨moves, during, owed⟩ := obeys.start inv holds possible
    have lasts := lasting moves.grows kept
    refine ⟨⟨moves.invariant, moves.grows, moves.rely⟩, ⟨during, lasts⟩, ?_⟩
    refine Program.wp_mono (Discipline.wp_during ⟨during, lasts⟩ (Discipline.wp_also lasting lasts
      (Program.wp_and owed (concludes inv holds kept possible)))) ?_
    rintro final after ⟨⟨ends, adds⟩, during, still⟩
    exact ⟨ends, adds during still⟩
  finish := by
    rintro actor call state final world inv ⟨during, -⟩ ⟨ends, kept⟩
    obtain ⟨moves, holds⟩ := obeys.finish inv during ends
    exact ⟨⟨moves.invariant, moves.grows, moves.rely⟩, holds, lasting moves.grows kept⟩
  die_idle := by
    rintro actor state world inv ⟨holds, kept⟩
    obtain ⟨moves, holds⟩ := obeys.die_idle inv holds
    exact ⟨⟨moves.invariant, moves.grows, moves.rely⟩, holds, lasting moves.grows (dead kept)⟩
  die_busy := by
    rintro actor call state world inv ⟨during, kept⟩
    obtain ⟨moves, holds⟩ := obeys.die_busy inv during
    exact ⟨⟨moves.invariant, moves.grows, moves.rely⟩, holds, lasting moves.grows (dead kept)⟩
  others := obeys.others

/-- They may begin to do so at any time, if the calls under way then add nothing wrong. -/
theorem Sound.also {config : Configuration S World Actor Call Local}
    (sound : Sound pool discipline config)
    (lasting : ∀ {actor state before after}, discipline.Grows before after →
      fact actor state before → fact actor state after)
    (facts : ∀ actor, fact actor (config.doing actor).state config.world)
    (concludes : ∀ {actor call state rest final after},
      config.doing actor = .busy call state rest → discipline.Ends actor call state final after →
      fact actor state after → fact actor final after) :
    Sound pool (discipline.also fact) config where
  invariant := sound.invariant
  idle {actor state} doing := by
    have known := facts actor
    rw [doing] at known
    exact ⟨sound.idle doing, known⟩
  busy {actor call state rest} doing := by
    have known := facts actor
    rw [doing] at known
    obtain ⟨during, owed⟩ := sound.busy doing
    refine ⟨⟨during, known⟩, ?_⟩
    refine Program.wp_mono
      (Discipline.wp_during ⟨during, known⟩ (Discipline.wp_also lasting known owed)) ?_
    rintro final after ⟨ends, -, still⟩
    exact ⟨ends, concludes doing ends still⟩

end Records

end Foundation
