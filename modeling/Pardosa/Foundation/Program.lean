import Pardosa.Foundation.Outcome

/-!
# Effectful programs and their weakest preconditions

A program that talks to the outside world is a finite tree: it stops with a
value, or performs one atomic operation and goes on with the answer. The world
it runs in is given by a `Setting`: what one operation may do and answer, what
others may do to the world between two operations (`rely`), and what this
program promises about each of its own operations (`guar`).

`Program.Runs` and `Program.Reaches` are the operational meaning: complete
runs, and the frontiers at which a run may be interrupted. `Program.wp` is the
matching proof rule; `wp_of_runs` and `wp_of_reaches` connect the two.

`Action` adds a mutable state and an early exit, in the order in which an
imperative method has them: changes made before an error stay.
-/

namespace Foundation

/-- The operations a program may perform, each with its type of answers. -/
structure Signature where
  Op : Type
  Res : Op → Type

/-- A finite tree of operations over a signature. -/
inductive Program (S : Signature) (α : Type) : Type where
  | ret (value : α)
  | call (op : S.Op) (next : S.Res op → Program S α)

/-- The world programs run in, seen by one of them. -/
structure Setting (S : Signature) (World : Type) where
  /-- `exec op before answer after`: performing `op` may answer `answer`. -/
  exec : (op : S.Op) → World → S.Res op → World → Prop
  /-- What the others may do to the world between two operations. -/
  rely : World → World → Prop
  /-- What each operation of the program itself is promised to respect. -/
  guar : World → World → Prop

/-- A setting in which nobody else acts and nothing is promised. -/
def Setting.solo {S : Signature} {World : Type}
    (exec : (op : S.Op) → World → S.Res op → World → Prop) : Setting S World where
  exec := exec
  rely := Eq
  guar _ _ := True

/-- Every operation has an answer, and the others may stay idle. -/
structure Setting.Live {S : Signature} {World : Type} (setting : Setting S World) : Prop where
  answers : ∀ op before, ∃ answer after, setting.exec op before answer after
  idle : ∀ world, setting.rely world world

/-- A setting in which any answer may come. -/
def Setting.anything {S : Signature} : Setting S Unit where
  exec _ _ _ _ := True
  rely _ _ := True
  guar _ _ := True

/-- The same world with another promise. -/
def Setting.promising {S : Signature} {World : Type} (setting : Setting S World)
    (guar : World → World → Prop) : Setting S World := { setting with guar }

/-- The same world with a record of the operations performed and their answers. -/
def Setting.recording {S : Signature} {World : Type} (setting : Setting S World) :
    Setting S (World × List (Σ op : S.Op, S.Res op)) where
  exec op before answer after :=
    setting.exec op before.1 answer after.1 ∧ after.2 = before.2 ++ [⟨op, answer⟩]
  rely before after := setting.rely before.1 after.1 ∧ after.2 = before.2
  guar before after := setting.guar before.1 after.1

/-- One answer for every operation and world. -/
def Handler (S : Signature) (World : Type) : Type := (op : S.Op) → World → S.Res op × World

/-- The setting in which a handler answers and nobody else acts. -/
def Handler.setting {S : Signature} {World : Type} (handler : Handler S World) :
    Setting S World := .solo fun op before answer after => handler op before = (answer, after)

namespace Program

variable {S : Signature} {World α β γ : Type}

/-- Run a program and continue with its value. -/
def bind : Program S α → (α → Program S β) → Program S β
  | .ret value, next => next value
  | .call op rest, next => .call op fun answer => (rest answer).bind next

instance : Monad (Program S) where
  pure := .ret
  bind := bind

/-- Perform one operation and return its answer. -/
def perform (op : S.Op) : Program S (S.Res op) := .call op .ret

/-- A value is a program that performs nothing. -/
@[simp] theorem pure_eq (value : α) : (pure value : Program S α) = .ret value := rfl

/-- Sequencing in `do` blocks is sequencing of programs. -/
@[simp] theorem bind_eq (program : Program S α) (next : α → Program S β) :
    program >>= next = program.bind next := rfl

/-- A program that performs nothing hands its value on. -/
@[simp] theorem ret_bind (value : α) (next : α → Program S β) :
    (Program.ret value : Program S α).bind next = next value := rfl

/-- A sequence performs the first operation of its first part first. -/
@[simp] theorem call_bind (op : S.Op) (rest : S.Res op → Program S α) (next : α → Program S β) :
    (Program.call op rest).bind next = .call op fun answer => (rest answer).bind next := rfl

/-- Sequences associate. -/
theorem bind_assoc (program : Program S α) (first : α → Program S β) (second : β → Program S γ) :
    (program.bind first).bind second = program.bind fun value => (first value).bind second := by
  induction program with
  | ret value => rfl
  | call op rest ih => simp only [call_bind, ih]

/-- A complete run, with the moves of the others in between. -/
inductive Runs (setting : Setting S World) : Program S α → World → α → World → Prop where
  | ret {value world} : Runs setting (.ret value) world value world
  | call {op : S.Op} {next : S.Res op → Program S α} {before moved after final : World}
      {answer : S.Res op} {value : α}
      (others : setting.rely before moved) (performed : setting.exec op moved answer after)
      (rest : Runs setting (next answer) after value final) :
      Runs setting (.call op next) before value final

/-- The frontiers of a run: the rest of the program and the world it left
behind, between any two operations. -/
inductive Reaches (setting : Setting S World) :
    Program S α → World → Program S α → World → Prop where
  | refl {program world} : Reaches setting program world program world
  | call {op : S.Op} {next : S.Res op → Program S α} {before moved after final : World}
      {answer : S.Res op} {rest : Program S α}
      (others : setting.rely before moved) (performed : setting.exec op moved answer after)
      (later : Reaches setting (next answer) after rest final) :
      Reaches setting (.call op next) before rest final

/-- Every run from `world` keeps the guarantee at each operation and ends in
`post`. -/
def wp (setting : Setting S World) : Program S α → (α → World → Prop) → World → Prop
  | .ret value, post, world => post value world
  | .call op next, post, world => ∀ moved, setting.rely world moved →
      ∀ answer after, setting.exec op moved answer after →
        setting.guar moved after ∧ (next answer).wp setting post after

variable {setting : Setting S World} {post : α → World → Prop}

/-- A program that has ended owes its postcondition where it ended. -/
@[simp] theorem wp_ret (value : α) (world : World) :
    (Program.ret value : Program S α).wp setting post world ↔ post value world := Iff.rfl

/-- A program owes, for each answer to its first operation, the promise of that operation
and what the rest of it owes. -/
theorem wp_call (op : S.Op) (next : S.Res op → Program S α) (world : World) :
    (Program.call op next).wp setting post world ↔ ∀ moved, setting.rely world moved →
      ∀ answer after, setting.exec op moved answer after →
        setting.guar moved after ∧ (next answer).wp setting post after := Iff.rfl

/-- The rule for a single operation. -/
@[simp] theorem wp_perform (op : S.Op) {post : S.Res op → World → Prop} (world : World) :
    (perform op).wp setting post world ↔ ∀ moved, setting.rely world moved →
      ∀ answer after, setting.exec op moved answer after →
        setting.guar moved after ∧ post answer after := Iff.rfl

/-- Sequencing composes weakest preconditions. -/
theorem wp_bind (program : Program S α) (next : α → Program S β) (post : β → World → Prop)
    (world : World) :
    (program.bind next).wp setting post world ↔
      program.wp setting (fun value after => (next value).wp setting post after) world := by
  induction program generalizing world with
  | ret value => exact Iff.rfl
  | call op rest ih => simp only [call_bind, wp_call, ih]

/-- A weaker postcondition is owed where a stronger one is. -/
theorem wp_mono {program : Program S α} {weak : α → World → Prop} {world : World}
    (holds : program.wp setting post world)
    (weaker : ∀ value after, post value after → weak value after) :
    program.wp setting weak world := by
  induction program generalizing world with
  | ret value => exact weaker value world holds
  | call op rest ih =>
      intro moved others answer after performed
      obtain ⟨kept, later⟩ := holds moved others answer after performed
      exact ⟨kept, ih answer later⟩

/-- What holds of every outcome needs no look at the program, where nothing is
promised. -/
theorem wp_of_forall (promised : ∀ before after, setting.guar before after) {program : Program S α}
    {world : World} (holds : ∀ value after, post value after) :
    program.wp setting post world := by
  induction program generalizing world with
  | ret value => exact holds value world
  | call op rest ih =>
      intro moved _ answer after _
      exact ⟨promised moved after, ih answer⟩

/-- A program's obligation survives the moves of the others, once its
postcondition does. -/
theorem wp_stable (transitive : ∀ {a b c}, setting.rely a b → setting.rely b c → setting.rely a c)
    (stable : ∀ {value before after}, setting.rely before after → post value before →
      post value after)
    {program : Program S α} {before after : World} (others : setting.rely before after)
    (holds : program.wp setting post before) : program.wp setting post after := by
  cases program with
  | ret value => exact stable others holds
  | call op next =>
      intro moved later
      exact holds moved (transitive others later)

/-- Complete runs end in the postcondition. -/
theorem wp_of_runs {program : Program S α} {before after : World} {value : α}
    (runs : program.Runs setting before value after) (holds : program.wp setting post before) :
    post value after := by
  induction runs with
  | ret => exact holds
  | call others performed _ ih => exact ih (holds _ others _ _ performed).2

/-- A run of a sequence is a run of each part. -/
theorem runs_bind_iff {program : Program S α} {next : α → Program S β} {before after : World}
    {value : β} :
    (program.bind next).Runs setting before value after ↔
      ∃ middle between, program.Runs setting before middle between ∧
        (next middle).Runs setting between value after := by
  induction program generalizing before with
  | ret first =>
      constructor
      · intro runs
        exact ⟨first, before, .ret, runs⟩
      · rintro ⟨_, _, ⟨⟩, runs⟩
        exact runs
  | call op rest ih =>
      constructor
      · rintro (_ | ⟨others, performed, later⟩)
        obtain ⟨middle, between, first, second⟩ := (ih _).mp later
        exact ⟨middle, between, .call others performed first, second⟩
      · rintro ⟨middle, between, _ | ⟨others, performed, later⟩, second⟩
        exact .call others performed ((ih _).mpr ⟨middle, between, later, second⟩)

/-- In a live setting every program has a complete run. -/
theorem exists_runs (live : setting.Live) (program : Program S α) (before : World) :
    ∃ value after, program.Runs setting before value after := by
  induction program generalizing before with
  | ret value => exact ⟨value, before, .ret⟩
  | call op next ih =>
      obtain ⟨answer, after, performed⟩ := live.answers op before
      obtain ⟨value, final, rest⟩ := ih answer after
      exact ⟨value, final, .call (live.idle before) performed rest⟩

/-- What others promise does not change how a program runs. -/
theorem reaches_promising (guar : World → World → Prop) {program rest : Program S α}
    {before after : World} (reaches : program.Reaches setting before rest after) :
    program.Reaches (setting.promising guar) before rest after := by
  induction reaches with
  | refl => exact .refl
  | call others performed _ ih => exact .call others performed ih

/-- What a program promises does not change its runs. -/
theorem runs_promising (guar : World → World → Prop) {program : Program S α} {before after : World}
    {value : α} (runs : program.Runs setting before value after) :
    program.Runs (setting.promising guar) before value after := by
  induction runs with
  | ret => exact .ret
  | call others performed _ ih => exact .call others performed ih

/-- Nor does it change the runs that record what they perform. -/
theorem runs_recording_promising (guar : World → World → Prop) {program : Program S α}
    {before after : World × List (Σ op : S.Op, S.Res op)} {value : α}
    (runs : program.Runs setting.recording before value after) :
    program.Runs (setting.promising guar).recording before value after := by
  induction runs with
  | ret => exact .ret
  | call others performed _ ih => exact .call others performed ih

/-- A run among others that do less is a run among others that may do more. -/
theorem reaches_weaken {program rest : Program S α} {before after : World}
    (reaches : program.Reaches setting before rest after) (wider : Setting S World)
    (sameOperations : setting.exec = wider.exec)
    (others : ∀ {before after}, setting.rely before after → wider.rely before after) :
    program.Reaches wider before rest after := by
  induction reaches with
  | refl => exact .refl
  | call moved performed _ ih =>
      rw [sameOperations] at performed
      exact .call (others moved) performed ih

/-- A complete run is a frontier with nothing left to do. -/
theorem reaches_of_runs {program : Program S α} {before after : World} {value : α}
    (runs : program.Runs setting before value after) :
    program.Reaches setting before (.ret value) after := by
  induction runs with
  | ret => exact .refl
  | call others performed _ ih => exact .call others performed ih

/-- What is owed without a record is owed with one. -/
theorem wp_recording {program : Program S α} {world : World}
    {record : List (Σ op : S.Op, S.Res op)} (holds : program.wp setting post world) :
    program.wp setting.recording (fun value after => post value after.1) (world, record) := by
  induction program generalizing world record with
  | ret value => exact holds
  | call op next ih =>
      rintro ⟨moved, _⟩ ⟨others, rfl⟩ answer ⟨after, _⟩ ⟨performed, rfl⟩
      obtain ⟨kept, later⟩ := holds moved others answer after performed
      exact ⟨kept, ih answer later⟩

/-- Every run can be recorded. -/
theorem exists_runs_recording {program : Program S α} {before after : World} {value : α}
    (runs : program.Runs setting before value after) (record : List (Σ op : S.Op, S.Res op)) :
    ∃ performed, program.Runs setting.recording (before, record) value (after, performed) := by
  induction runs generalizing record with
  | ret => exact ⟨record, .ret⟩
  | @call op next before moved after final answer value others performed _ ih =>
      obtain ⟨recorded, later⟩ := ih (record ++ [⟨op, answer⟩])
      have waits : setting.recording.rely (before, record) (moved, record) := ⟨others, rfl⟩
      have acts : setting.recording.exec op (moved, record) answer
        (after, record ++ [⟨op, answer⟩]) := ⟨performed, rfl⟩
      exact ⟨recorded, .call waits acts later⟩

/-- Every operation a program may ever perform is allowed. -/
def Only (allowed : S.Op → Prop) : Program S α → Prop
  | .ret _ => True
  | .call op next => allowed op ∧ ∀ answer, (next answer).Only allowed

/-- A sequence performs what its parts perform. -/
theorem only_bind {allowed : S.Op → Prop} {program : Program S α} {next : α → Program S β}
    (first : program.Only allowed) (second : ∀ value, (next value).Only allowed) :
    (program.bind next).Only allowed := by
  induction program with
  | ret value => exact second value
  | call op rest ih => exact ⟨first.1, fun answer => ih answer (first.2 answer)⟩

/-- The record of a run grows by allowed operations only. -/
theorem wp_recording_only (promised : ∀ before after, setting.guar before after)
    {allowed : S.Op → Prop} {program : Program S α} (only : program.Only allowed) {world : World}
    {record : List (Σ op : S.Op, S.Res op)} :
    program.wp setting.recording
      (fun _ after => ∀ entry ∈ after.2, entry ∈ record ∨ allowed entry.1) (world, record) := by
  induction program generalizing world record with
  | ret value => exact fun entry member => Or.inl member
  | call op next ih =>
      rintro ⟨moved, _⟩ ⟨_, rfl⟩ answer ⟨after, _⟩ ⟨_, rfl⟩
      refine ⟨promised moved after, wp_mono (ih answer (only.2 answer)) ?_⟩
      intro value later recorded entry member
      rcases recorded entry member with early | late
      · rcases List.mem_append.mp early with earlier | this
        · exact Or.inl earlier
        · rw [List.mem_singleton.mp this]
          exact Or.inr only.1
      · exact Or.inr late

/-- What a program owes in one world it owes in a richer one, of which it sees a
view: as long as an invariant of the richer world, completed by what the others
respect, makes the operations look as in the view and turns the promise of the view
into its own. -/
theorem wp_of_view {Rich : Type} {rich : Setting S Rich} (view : Rich → World)
    {Inv : Rich → Prop} (Completed : Rich → Prop)
    (others : ∀ {before after}, Inv before → rich.rely before after →
      setting.rely (view before) (view after) ∧ Completed after)
    {allowed : S.Op → Prop}
    (steps : ∀ {op before answer after}, allowed op → Completed before →
      rich.exec op before answer after → setting.exec op (view before) answer (view after))
    (promised : ∀ {op before answer after}, allowed op → Completed before →
      rich.exec op before answer after → setting.guar (view before) (view after) →
      rich.guar before after ∧ Inv after)
    {program : Program S α} (only : program.Only allowed) {world : Rich} (start : Inv world)
    (holds : program.wp setting post (view world)) :
    program.wp rich (fun value after => post value (view after) ∧ Inv after) world := by
  induction program generalizing world with
  | ret value => exact ⟨holds, start⟩
  | call op next ih =>
      intro moved seen answer after performed
      obtain ⟨others, completed⟩ := others start seen
      obtain ⟨promise, later⟩ := holds _ others _ _ (steps only.1 completed performed)
      obtain ⟨owed, still⟩ := promised only.1 completed performed promise
      exact ⟨owed, ih answer (only.2 answer) still later⟩

/-- What every allowed operation and every move of the others relates, a whole run
relates. -/
theorem wp_of_only (related : World → World → Prop) (idle : ∀ world, related world world)
    (transitive : ∀ {a b c}, related a b → related b c → related a c)
    (others : ∀ {before after}, setting.rely before after → related before after)
    {allowed : S.Op → Prop}
    (steps : ∀ {op before answer after}, allowed op → setting.exec op before answer after →
      setting.guar before after ∧ related before after)
    {program : Program S α} (only : program.Only allowed) (world : World) :
    program.wp setting (fun _ after => related world after) world := by
  induction program generalizing world with
  | ret value => exact idle world
  | call op next ih =>
      intro moved waits answer after performed
      obtain ⟨promised, first⟩ := steps only.1 performed
      refine ⟨promised, wp_mono (ih answer (only.2 answer) after) ?_⟩
      intro value later rest
      exact transitive (transitive (others waits) first) rest

/-- What every allowed operation and every move of the others relates, the start
and every frontier relate. -/
theorem related_of_reaches (related : World → World → Prop) (idle : ∀ world, related world world)
    (transitive : ∀ {a b c}, related a b → related b c → related a c)
    (others : ∀ {before after}, setting.rely before after → related before after)
    {allowed : S.Op → Prop}
    (steps : ∀ {op before answer after}, allowed op → setting.exec op before answer after →
      related before after)
    {program rest : Program S α} (only : program.Only allowed) {before after : World}
    (reaches : program.Reaches setting before rest after) : related before after := by
  induction reaches with
  | refl => exact idle _
  | call moved performed _ ih =>
      exact transitive (transitive (others moved) (steps only.1 performed)) (ih (only.2 _))

/-- Where every operation is allowed, any program keeps to them. -/
theorem only_of_forall {allowed : S.Op → Prop} (permits : ∀ op, allowed op)
    (program : Program S α) :
    program.Only allowed := by
  induction program with
  | ret value => trivial
  | call op next ih => exact ⟨permits op, ih⟩

/-- Every value a program may ever return has a property. -/
def Yields (property : α → Prop) : Program S α → Prop
  | .ret value => property value
  | .call _ next => ∀ answer, (next answer).Yields property

/-- What a sequence returns is what its second part makes of what the first returns. -/
theorem yields_bind {program : Program S α} {next : α → Program S β} {between : α → Prop}
    {property : β → Prop} (first : program.Yields between)
    (second : ∀ value, between value → (next value).Yields property) :
    (program.bind next).Yields property := by
  induction program with
  | ret value => exact second value first
  | call op rest ih => exact fun answer => ih answer (first answer)

/-- A weaker property is returned where a stronger one is. -/
theorem yields_mono {program : Program S α} {property weaker : α → Prop}
    (yields : program.Yields property) (implied : ∀ value, property value → weaker value) :
    program.Yields weaker := by
  induction program with
  | ret value => exact implied value yields
  | call op rest ih => exact fun answer => ih answer (yields answer)

/-- A property of all values is one of those a program returns. -/
theorem yields_of_forall {property : α → Prop} (holds : ∀ value, property value)
    (program : Program S α) : program.Yields property := by
  induction program with
  | ret value => exact holds value
  | call op rest ih => exact fun answer => ih answer

/-- What follows may depend on what a first part may return. -/
theorem only_bind_of_yields {allowed : S.Op → Prop} {program : Program S α} {next : α → Program S β}
    {between : α → Prop} (first : program.Only allowed) (yields : program.Yields between)
    (second : ∀ value, between value → (next value).Only allowed) :
    (program.bind next).Only allowed := by
  induction program with
  | ret value => exact second value yields
  | call op rest ih => exact ⟨first.1, fun answer => ih answer (first.2 answer) (yields answer)⟩

/-- Two postconditions that are owed are owed together. -/
theorem wp_and {program : Program S α} {also : α → World → Prop} {world : World}
    (owed : program.wp setting post world) (more : program.wp setting also world) :
    program.wp setting (fun value after => post value after ∧ also value after) world := by
  induction program generalizing world with
  | ret value => exact ⟨owed, more⟩
  | call op next ih =>
      intro moved others answer after performed
      obtain ⟨promised, later⟩ := owed moved others answer after performed
      exact ⟨promised, ih answer later (more moved others answer after performed).2⟩

/-- What every value has comes on top of what a program owes anyway. -/
theorem wp_and_yields {program : Program S α} {property : α → Prop} {world : World}
    (yields : program.Yields property) (owed : program.wp setting post world) :
    program.wp setting (fun value after => post value after ∧ property value) world := by
  induction program generalizing world with
  | ret value => exact ⟨owed, yields⟩
  | call op next ih =>
      intro moved others answer after performed
      obtain ⟨promised, later⟩ := owed moved others answer after performed
      exact ⟨promised, ih answer (yields answer) later⟩

/-- What every run ends in where anything may happen, every value has. -/
theorem yields_of_wp {program : Program S α} {property : α → Prop}
    (owed : program.wp Setting.anything (fun value _ => property value) ()) :
    program.Yields property := by
  induction program with
  | ret value => exact owed
  | call op next ih => exact fun answer => ih answer (owed () trivial answer () trivial).2

/-- What every value has, every run ends in, where nothing is promised. -/
theorem wp_of_yields (promised : ∀ before after, setting.guar before after) {program : Program S α}
    {property : α → Prop} (yields : program.Yields property) (world : World) :
    program.wp setting (fun value _ => property value) world := by
  induction program generalizing world with
  | ret value => exact yields
  | call op next ih =>
      intro moved _ answer after _
      exact ⟨promised moved after, ih answer (yields answer) after⟩

/-- The answers that lead a program to a value. -/
inductive Answered : Program S α → List (Σ op : S.Op, S.Res op) → α → Prop where
  | ret {value : α} : Answered (.ret value) [] value
  | call {op : S.Op} {next : S.Res op → Program S α} {answer : S.Res op}
      {answers : List (Σ op : S.Op, S.Res op)} {value : α}
      (rest : Answered (next answer) answers value) :
      Answered (.call op next) (⟨op, answer⟩ :: answers) value

/-- The answers to a sequence are those to its first part, then those to its second. -/
theorem answered_bind_iff {program : Program S α} {next : α → Program S β}
    {answers : List (Σ op : S.Op, S.Res op)} {value : β} :
    (program.bind next).Answered answers value ↔ ∃ first rest middle, answers = first ++ rest ∧
      program.Answered first middle ∧ (next middle).Answered rest value := by
  induction program generalizing answers with
  | ret middle =>
      constructor
      · intro answered
        exact ⟨[], answers, middle, rfl, .ret, answered⟩
      · rintro ⟨_, rest, _, rfl, ⟨⟩, answered⟩
        exact answered
  | call op rest ih =>
      constructor
      · rintro (_ | answered)
        obtain ⟨first, others, middle, rfl, early, late⟩ := (ih _).mp answered
        exact ⟨_, others, middle, rfl, .call early, late⟩
      · rintro ⟨_, others, middle, rfl, _ | early, late⟩
        exact .call ((ih _).mpr ⟨_, others, middle, rfl, early, late⟩)

/-- The same answers lead to the same value. -/
theorem Answered.unique {program : Program S α}
    {first second before after : List (Σ op : S.Op, S.Res op)}
    {value other : α} (answered : program.Answered first value)
    (also : program.Answered second other) (same : first ++ before = second ++ after) :
    first = second ∧ value = other ∧ before = after := by
  induction answered generalizing second with
  | ret =>
      cases also
      exact ⟨rfl, rfl, same⟩
  | call _ ih =>
      cases also with
      | call rest =>
          obtain ⟨entry, remaining⟩ := List.cons.inj same
          cases entry
          obtain ⟨rfl, rfl, rfl⟩ := ih rest remaining
          exact ⟨rfl, rfl, rfl⟩

/-- What every value has, the value has that some answers lead to. -/
theorem yields_iff_answered {property : α → Prop} {program : Program S α} :
    program.Yields property ↔ ∀ answers value, program.Answered answers value → property value := by
  constructor
  · intro yields answers value answered
    induction answered with
    | ret => exact yields
    | call _ ih => exact ih (yields _)
  · intro holds
    induction program with
    | ret value => exact holds [] value .ret
    | call op next ih =>
        exact fun answer => ih answer fun answers value rest => holds _ value (.call rest)

/-- The record of a run grows by the answers that led to its value. -/
theorem wp_recording_answered (promised : ∀ before after, setting.guar before after)
    (program : Program S α) (world : World) (record : List (Σ op : S.Op, S.Res op)) :
    program.wp setting.recording (fun value after =>
      ∃ answers, after.2 = record ++ answers ∧ program.Answered answers value) (world, record) := by
  induction program generalizing world record with
  | ret value => exact ⟨[], (List.append_nil record).symm, .ret⟩
  | call op next ih =>
      rintro ⟨moved, _⟩ ⟨_, rfl⟩ answer ⟨after, _⟩ ⟨_, rfl⟩
      refine ⟨promised moved after, wp_mono (ih answer after _) ?_⟩
      rintro value later ⟨answers, recorded, answered⟩
      refine ⟨⟨op, answer⟩ :: answers, ?_, .call answered⟩
      rw [recorded, List.append_assoc, List.singleton_append]

/-- Run a program with a handler, undisturbed. -/
def evaluate (handler : Handler S World) : Program S α → World → α × World
  | .ret value, world => (value, world)
  | .call op next, world =>
      (next (handler op world).1).evaluate handler (handler op world).2

/-- Evaluating a sequence evaluates its parts one after the other. -/
theorem evaluate_bind (handler : Handler S World) (program : Program S α)
    (next : α → Program S β) (world : World) :
    (program.bind next).evaluate handler world =
      (next (program.evaluate handler world).1).evaluate handler
        (program.evaluate handler world).2 := by
  induction program generalizing world with
  | ret value => rfl
  | call op rest ih => exact ih _ _

/-- Handlers that answer the operations of a program alike evaluate it alike. -/
theorem evaluate_congr {handler other : Handler S World} {allowed : S.Op → Prop}
    (alike : ∀ op world, allowed op → handler op world = other op world) {program : Program S α}
    (only : program.Only allowed) (world : World) :
    program.evaluate handler world = program.evaluate other world := by
  induction program generalizing world with
  | ret value => rfl
  | call op next ih =>
      unfold evaluate
      rw [alike op world only.1]
      exact ih _ (only.2 _) _

/-- Where a handler answers, what every run ends in is what evaluation ends in. -/
theorem wp_handler_iff {handler : Handler S World} {program : Program S α} {world : World} :
    program.wp handler.setting post world ↔
      post (program.evaluate handler world).1 (program.evaluate handler world).2 := by
  induction program generalizing world with
  | ret value => exact Iff.rfl
  | call op next ih =>
      constructor
      · intro holds
        exact ih _ |>.mp (holds world rfl _ _ rfl).2
      · rintro holds _ rfl answer after performed
        refine ⟨trivial, (ih answer).mpr ?_⟩
        rw [evaluate, performed] at holds
        exact holds

/-- Evaluation is one of the runs, where the handler answers as the setting
allows and the others may stay idle. -/
theorem runs_evaluate {handler : Handler S World} (idle : ∀ world, setting.rely world world)
    (allowed : ∀ op world, setting.exec op world (handler op world).1 (handler op world).2)
    (program : Program S α) (world : World) :
    program.Runs setting world (program.evaluate handler world).1
      (program.evaluate handler world).2 := by
  induction program generalizing world with
  | ret value => exact .ret
  | call op next ih => exact .call (idle world) (allowed op world) (ih _ _)

/-- A run may start earlier, and the others finish later. -/
theorem exists_runs_of_rely
    (transitive : ∀ {a b c}, setting.rely a b → setting.rely b c → setting.rely a c)
    (idle : ∀ world, setting.rely world world) {program : Program S α}
    {before moved after : World} {value : α} (others : setting.rely before moved)
    (runs : program.Runs setting moved value after) :
    ∃ ended, program.Runs setting before value ended ∧ setting.rely ended after := by
  cases runs with
  | ret => exact ⟨before, .ret, others⟩
  | call waits performed rest =>
      exact ⟨after, .call (transitive others waits) performed rest, idle after⟩

/-- Evaluation is one of the runs, where the handler answers as the setting
allows and lets the others move at once. -/
theorem exists_runs_evaluate
    (transitive : ∀ {a b c}, setting.rely a b → setting.rely b c → setting.rely a c)
    (idle : ∀ world, setting.rely world world) {handler : Handler S World}
    (allowed : ∀ op world, ∃ between, setting.exec op world (handler op world).1 between ∧
      setting.rely between (handler op world).2)
    (program : Program S α) (world : World) :
    ∃ ended, program.Runs setting world (program.evaluate handler world).1 ended ∧
      setting.rely ended (program.evaluate handler world).2 := by
  induction program generalizing world with
  | ret value => exact ⟨world, .ret, idle world⟩
  | call op next ih =>
      obtain ⟨between, performed, moved⟩ := allowed op world
      obtain ⟨ended, rest, later⟩ := ih (handler op world).1 (handler op world).2
      obtain ⟨final, runs, before⟩ := exists_runs_of_rely transitive idle moved rest
      exact ⟨final, .call (idle world) performed runs, transitive before later⟩

/-- A property of worlds that holds at the start, is kept by the others and is
promised by every operation holds at every frontier. -/
theorem invariant_of_reaches {Inv : World → Prop}
    (others : ∀ {before after}, setting.rely before after → Inv before → Inv after)
    (promised : ∀ {before after}, setting.guar before after → Inv before → Inv after)
    {program rest : Program S α} {before after : World}
    (reaches : program.Reaches setting before rest after)
    (holds : program.wp setting post before) (start : Inv before) : Inv after := by
  induction reaches with
  | refl => exact start
  | call moved performed _ ih =>
      obtain ⟨kept, later⟩ := holds _ moved _ _ performed
      exact ih later (promised kept (others moved start))

end Program

/-- A program over a mutable state that may stop early with an error. -/
def Action (S : Signature) (ε σ α : Type) : Type := σ → Program S (Except ε α × σ)

namespace Action

variable {S : Signature} {World ε ε' σ τ α β : Type}

instance : Monad (Action S ε σ) where
  pure value := fun state => .ret (.ok value, state)
  bind action next := fun state => (action state).bind fun
    | (.ok value, after) => next value after
    | (.error failure, after) => .ret (.error failure, after)

instance : MonadExceptOf ε (Action S ε σ) where
  throw failure := fun state => .ret (.error failure, state)
  tryCatch action handler := fun state => (action state).bind fun
    | (.error failure, after) => handler failure after
    | outcome => .ret outcome

instance : MonadStateOf σ (Action S ε σ) where
  get := fun state => .ret (.ok state, state)
  set state := fun _ => .ret (.ok (), state)
  modifyGet change := fun state => .ret (.ok (change state).1, (change state).2)

/-- Perform a program that does not touch the state. -/
def lift (program : Program S α) : Action S ε σ α :=
  fun state => program.bind fun value => .ret (.ok value, state)

/-- Take over a finished computation, its error included. -/
def ofExcept (outcome : Except ε α) : Action S ε σ α := fun state => .ret (outcome, state)

/-- Stop with an error when a condition holds. -/
def refuseIf (condition : Prop) [Decidable condition] (failure : ε) : Action S ε σ Unit :=
  if condition then throw failure else pure ()

/-- Take over a computation that changed the state and may have failed. -/
def mutate (change : σ → Except ε α × σ) : Action S ε σ α := fun state => .ret (change state)

/-- Act on one component of the state. -/
def on (view : σ → τ) (put : τ → σ → σ) (action : Action S ε τ α) : Action S ε σ α :=
  fun state => (action (view state)).bind fun
    | (outcome, part) => .ret (outcome, put part state)

/-- Take a value that has to be there. -/
def require (value : Option α) (failure : ε) : Action S ε σ α :=
  match value with
  | some found => pure found
  | none => throw failure

/-- Act on a state of its own, dropped at the end. -/
def within (own : τ) (action : Action S ε τ α) : Action S ε σ α :=
  fun state => (action own).bind fun
    | (outcome, _) => .ret (outcome, state)

/-- Perform an action and look at its outcome instead of stopping on an error. -/
def attempt (action : Action S ε σ α) : Action S ε' σ (Except ε α) :=
  fun state => (action state).bind fun
    | (outcome, after) => .ret (.ok outcome, after)

/-- Sequencing after a first part that stops without performing anything. -/
theorem bind_of_ok {action : Action S ε σ β} {next : β → Action S ε σ α} {value : β}
    {state after : σ} (first : action state = .ret (.ok value, after)) :
    (action >>= next) state = next value after := by
  change (action state).bind _ = _
  rw [first]
  rfl

/-- A first part that fails without performing anything is the whole sequence. -/
theorem bind_of_error {action : Action S ε σ β} {next : β → Action S ε σ α} {failure : ε}
    {state after : σ} (first : action state = .ret (.error failure, after)) :
    (action >>= next) state = .ret (.error failure, after) := by
  change (action state).bind _ = _
  rw [first]
  rfl

/-- Sequences of actions associate. -/
theorem bind_assoc {γ : Type} (action : Action S ε σ α) (first : α → Action S ε σ β)
    (second : β → Action S ε σ γ) :
    (action >>= first) >>= second = action >>= fun value => first value >>= second := by
  funext state
  refine (Program.bind_assoc _ _ _).trans ?_
  change (action state).bind _ = (action state).bind _
  congr 1
  funext result
  obtain ⟨_ | value, after⟩ := result
  · rfl
  · rfl

/-- A check whose condition holds refuses. -/
theorem refuseIf_of_holds {condition : Prop} [Decidable condition] (failure : ε) (state : σ)
    (holds : condition) :
    (refuseIf condition failure : Action S ε σ Unit) state = .ret (.error failure, state) := by
  unfold refuseIf
  rw [if_pos holds]
  rfl

/-- A guard on the state refuses the whole sequence that it stands in front of. -/
theorem guard_of_holds {condition : σ → Prop} [∀ found, Decidable (condition found)] {failure : ε}
    {next : σ → Action S ε σ α} {state : σ} (holds : condition state) :
    (do let found ← get; refuseIf (condition found) failure; next found : Action S ε σ α) state =
      .ret (.error failure, state) :=
  (bind_of_ok rfl).trans (bind_of_error (refuseIf_of_holds failure state holds))

/-- A check whose condition does not hold passes. -/
theorem refuseIf_of_not {condition : Prop} [Decidable condition] (failure : ε) (state : σ)
    (passes : ¬condition) :
    (refuseIf condition failure : Action S ε σ Unit) state = .ret (.ok (), state) := by
  unfold refuseIf
  rw [if_neg passes]
  rfl

/-- The weakest precondition of an action, over its outcome and both states. -/
def wp (setting : Setting S World) (action : Action S ε σ α)
    (post : Except ε α → σ → World → Prop) (state : σ) (world : World) : Prop :=
  (action state).wp setting (fun result after => post result.1 result.2 after) world

variable {setting : Setting S World} {post : Except ε α → σ → World → Prop}
  {state : σ} {world : World}

/-- A value is returned, and nothing else happens. -/
@[simp] theorem wp_pure (value : α) :
    wp setting (pure value : Action S ε σ α) post state world ↔ post (.ok value) state world :=
  Iff.rfl

/-- A failure is returned, and nothing else happens. -/
@[simp] theorem wp_throw (failure : ε) :
    wp setting (throw failure : Action S ε σ α) post state world ↔
      post (.error failure) state world :=
  Iff.rfl

/-- An outcome is returned as it is. -/
@[simp] theorem wp_ofExcept (outcome : Except ε α) :
    wp setting (ofExcept outcome : Action S ε σ α) post state world ↔ post outcome state world :=
  Iff.rfl

/-- Reading the state returns it. -/
@[simp] theorem wp_get {post : Except ε σ → σ → World → Prop} :
    wp setting (get : Action S ε σ σ) post state world ↔ post (.ok state) state world :=
  Iff.rfl

/-- Changing the state returns nothing. -/
@[simp] theorem wp_modify (change : σ → σ) {post : Except ε Unit → σ → World → Prop} :
    wp setting (modify change : Action S ε σ Unit) post state world ↔
      post (.ok ()) (change state) world :=
  Iff.rfl

/-- A check refuses or passes by its condition. -/
@[simp] theorem wp_refuseIf (condition : Prop) [Decidable condition] (failure : ε)
    {post : Except ε Unit → σ → World → Prop} :
    wp setting (refuseIf condition failure : Action S ε σ Unit) post state world ↔
      if condition then post (.error failure) state world else post (.ok ()) state world := by
  unfold refuseIf
  split <;> exact Iff.rfl

/-- A change of the state returns what it computes. -/
@[simp] theorem wp_mutate (change : σ → Except ε α × σ) :
    wp setting (mutate change : Action S ε σ α) post state world ↔
      post (change state).1 (change state).2 world :=
  Iff.rfl

/-- Sequencing: an error skips the rest. -/
@[simp] theorem wp_bind (action : Action S ε σ β) (next : β → Action S ε σ α) :
    wp setting (action >>= next) post state world ↔
      wp setting action (fun outcome after later => match outcome with
        | .ok value => wp setting (next value) post after later
        | .error failure => post (.error failure) after later) state world := by
  refine (Program.wp_bind _ _ _ _).trans ?_
  unfold wp
  refine ⟨fun holds => Program.wp_mono holds ?_, fun holds => Program.wp_mono holds ?_⟩ <;>
    rintro ⟨_ | _, after⟩ later owed <;> exact owed

/-- A program that cannot fail returns its value, with the state as it was. -/
@[simp] theorem wp_lift (program : Program S α) :
    wp setting (lift program : Action S ε σ α) post state world ↔
      program.wp setting (fun value after => post (.ok value) state after) world :=
  Program.wp_bind _ _ _ _

/-- An action on a part of the state puts that part back. -/
@[simp] theorem wp_on (view : σ → τ) (put : τ → σ → σ) (action : Action S ε τ α) :
    wp setting (on view put action) post state world ↔
      wp setting action (fun outcome part after => post outcome (put part state) after)
        (view state) world :=
  Program.wp_bind _ _ _ _

/-- A value that is required is there, or its absence is refused. -/
@[simp] theorem wp_require (value : Option α) (failure : ε) :
    wp setting (require value failure : Action S ε σ α) post state world ↔
      match value with
      | some found => post (.ok found) state world
      | none => post (.error failure) state world := by
  cases value <;> exact Iff.rfl

/-- An action on a state of its own leaves the caller's state alone. -/
@[simp] theorem wp_within (own : τ) (action : Action S ε τ α) :
    wp setting (within own action) post state world ↔
      wp setting action (fun outcome _ after => post outcome state after) own world :=
  Program.wp_bind _ _ _ _

/-- An attempt returns whatever the attempted action ended with. -/
@[simp] theorem wp_attempt (action : Action S ε' σ β)
    {post : Except ε (Except ε' β) → σ → World → Prop} :
    wp setting (attempt action) post state world ↔
      wp setting action (fun outcome after later => post (.ok outcome) after later) state world :=
  Program.wp_bind _ _ _ _

/-- Renaming the value of an action. -/
theorem wp_map {action : Action S ε σ β} (rename : β → α) :
    wp setting (do let value ← action; pure (rename value)) post state world ↔
      wp setting action (fun outcome after later => post (outcome.map rename) after later)
        state world := by
  rw [wp_bind]
  refine ⟨fun holds => Program.wp_mono holds ?_, fun holds => Program.wp_mono holds ?_⟩ <;>
    rintro ⟨_ | _, after⟩ later owed <;> exact owed

/-- What holds of every outcome needs no look at the action, where nothing is
promised. -/
theorem wp_of_forall (promised : ∀ before after, setting.guar before after)
    {action : Action S ε σ α} (holds : ∀ outcome after later, post outcome after later) :
    wp setting action post state world :=
  Program.wp_of_forall promised fun result later => holds result.1 result.2 later

/-- A weaker postcondition of an action is owed where a stronger one is. -/
theorem wp_mono {action : Action S ε σ α} {weak : Except ε α → σ → World → Prop}
    (holds : wp setting action post state world)
    (weaker : ∀ outcome after later, post outcome after later → weak outcome after later) :
    wp setting action weak state world :=
  Program.wp_mono holds fun result later owed => weaker result.1 result.2 later owed

/-- What is owed without a record is owed with one. -/
theorem wp_recording {action : Action S ε σ α} {record : List (Σ op : S.Op, S.Res op)}
    (holds : wp setting action post state world) :
    wp setting.recording action (fun outcome after later => post outcome after later.1) state
      (world, record) :=
  Program.wp_recording holds

/-- Every operation an action may ever perform is allowed. -/
def Only (allowed : S.Op → Prop) (action : Action S ε σ α) : Prop :=
  ∀ state, (action state).Only allowed

/-- A sequence of actions performs what its parts perform. -/
theorem only_bind {allowed : S.Op → Prop} {action : Action S ε σ β} {next : β → Action S ε σ α}
    (first : action.Only allowed) (second : ∀ value, (next value).Only allowed) :
    (action >>= next).Only allowed := by
  intro state
  refine Program.only_bind (first state) ?_
  rintro ⟨_ | value, after⟩
  · trivial
  · exact second value after

/-- An outcome that is at hand performs nothing. -/
theorem only_ofExcept {allowed : S.Op → Prop} (outcome : Except ε α) :
    (ofExcept outcome : Action S ε σ α).Only allowed := fun _ => trivial

/-- Behind an outcome that is at hand, only what follows a success matters. -/
theorem only_bind_ofExcept {allowed : S.Op → Prop} {outcome : Except ε β}
    {next : β → Action S ε σ α} (second : ∀ value, outcome = .ok value →
      (next value).Only allowed) :
    (ofExcept outcome >>= next : Action S ε σ α).Only allowed := by
  intro state
  cases outcome with
  | error failure => trivial
  | ok value => exact second value rfl state

/-- A value that is at hand performs nothing. -/
theorem only_pure {allowed : S.Op → Prop} (value : α) :
    (pure value : Action S ε σ α).Only allowed := fun _ => trivial

/-- Reading the state performs nothing. -/
theorem only_get {allowed : S.Op → Prop} : (get : Action S ε σ σ).Only allowed := fun _ => trivial

/-- A check performs nothing. -/
theorem only_refuseIf {allowed : S.Op → Prop} (condition : Prop) [Decidable condition]
    (failure : ε) : (refuseIf condition failure : Action S ε σ Unit).Only allowed := by
  intro state
  unfold refuseIf
  split <;> trivial

/-- Requiring a value performs nothing. -/
theorem only_require {allowed : S.Op → Prop} (value : Option α) (failure : ε) :
    (require value failure : Action S ε σ α).Only allowed := by
  intro state
  cases value <;> trivial

/-- A lifted program performs what it performs. -/
theorem only_lift {allowed : S.Op → Prop} {program : Program S α} (only : program.Only allowed) :
    (lift program : Action S ε σ α).Only allowed :=
  fun _ => Program.only_bind only fun _ => trivial

/-- An attempt performs what the attempted action performs. -/
theorem only_attempt {allowed : S.Op → Prop} {action : Action S ε' σ α}
    (only : action.Only allowed) : (attempt action : Action S ε σ _).Only allowed :=
  fun state => Program.only_bind (only state) fun _ => trivial

/-- Changing the state performs nothing. -/
theorem only_modify {allowed : S.Op → Prop} (change : σ → σ) :
    (modify change : Action S ε σ Unit).Only allowed := fun _ => trivial

/-- So does a change of the state that returns something. -/
theorem only_mutate {allowed : S.Op → Prop} (change : σ → Except ε α × σ) :
    (mutate change : Action S ε σ α).Only allowed := fun _ => trivial

/-- An action on a part of the state performs what it performs. -/
theorem only_on {allowed : S.Op → Prop} {view : σ → τ} {put : τ → σ → σ} {action : Action S ε τ α}
    (only : action.Only allowed) : (on view put action : Action S ε σ α).Only allowed :=
  fun state => Program.only_bind (only (view state)) fun _ => trivial

/-- An action that leaves its state alone and fails, if it does, only so. -/
def Inert (allowed : ε → Prop) (action : Action S ε σ α) : Prop :=
  ∀ state, (action state).Yields fun result => result.2 = state ∧ FailsOnly allowed result.1

section Inert

variable {allowed : ε → Prop}

/-- A value that is at hand moves nothing. -/
theorem inert_pure (value : α) : (pure value : Action S ε σ α).Inert allowed :=
  fun _ => ⟨rfl, failsOnly_ok value⟩

/-- A permitted failure moves nothing. -/
theorem inert_throw {failure : ε} (permitted : allowed failure) :
    (throw failure : Action S ε σ α).Inert allowed := fun _ => ⟨rfl, failsOnly_error permitted⟩

/-- An outcome that fails only as permitted moves nothing. -/
theorem inert_ofExcept {outcome : Except ε α} (only : FailsOnly allowed outcome) :
    (ofExcept outcome : Action S ε σ α).Inert allowed := fun _ => ⟨rfl, only⟩

/-- A check that refuses as permitted moves nothing. -/
theorem inert_refuseIf {condition : Prop} [Decidable condition] {failure : ε}
    (permitted : allowed failure) :
    (refuseIf condition failure : Action S ε σ Unit).Inert allowed := by
  unfold refuseIf
  split_ifs
  · exact inert_throw permitted
  · exact inert_pure ()

/-- A lifted program leaves the state alone, and does not fail. -/
theorem inert_lift (program : Program S α) : (lift program : Action S ε σ α).Inert allowed := by
  intro state
  have anything : program.Yields fun _ => True :=
    Program.yields_of_forall (fun _ => trivial) program
  refine Program.yields_bind anything ?_
  intro value _
  exact ⟨rfl, failsOnly_ok value⟩

/-- A sequence of actions that leave the state alone leaves it alone. -/
theorem inert_bind {action : Action S ε σ β} {next : β → Action S ε σ α}
    (first : action.Inert allowed) (second : ∀ value, (next value).Inert allowed) :
    (action >>= next).Inert allowed := by
  intro state
  refine Program.yields_bind (first state) ?_
  rintro ⟨_ | value, _⟩ ⟨rfl, only⟩
  · exact ⟨rfl, failsOnly_error (only _ rfl)⟩
  · exact second value _

/-- A sequence after an inert part yields what it yields from there on. -/
theorem yields_bind_inert {action : Action S ε σ β} {next : β → Action S ε σ α}
    (inert : action.Inert allowed) {property : Except ε α × σ → Prop}
    (failed : ∀ failure, allowed failure → property (.error failure, state))
    (passed : ∀ value, (next value state).Yields property) :
    ((action >>= next) state).Yields property := by
  refine Program.yields_bind (inert state) ?_
  rintro ⟨failure | value, _⟩ ⟨rfl, only⟩
  · exact failed failure (only failure rfl)
  · exact passed value

end Inert

/-- Every value an action may ever return has a property. -/
def Returns (property : α → Prop) (action : Action S ε σ α) : Prop :=
  ∀ state, (action state).Yields fun result => ∀ value, result.1 = .ok value → property value

section Returns

variable {property : α → Prop}

/-- A failure returns nothing. -/
theorem returns_throw (failure : ε) : (throw failure : Action S ε σ α).Returns property := by
  rintro state _ ⟨⟩

/-- A sequence returns what its last part returns. -/
theorem returns_bind {action : Action S ε σ β} {next : β → Action S ε σ α}
    (last : ∀ value, (next value).Returns property) : (action >>= next).Returns property := by
  intro state
  have anything : (action state).Yields fun _ => True :=
    Program.yields_of_forall (fun _ => trivial) _
  refine Program.yields_bind anything ?_
  rintro ⟨_ | value, after⟩ -
  · rintro _ ⟨⟩
  · exact last value after

/-- A check narrows what the rest has to return. -/
theorem returns_bind_refuseIf {condition : Prop} [Decidable condition] {failure : ε}
    {next : Unit → Action S ε σ α} (last : ¬condition → (next ()).Returns property) :
    (refuseIf condition failure >>= next : Action S ε σ α).Returns property := by
  intro state
  by_cases holds : condition
  · rw [bind_of_error (refuseIf_of_holds failure state holds)]
    rintro _ ⟨⟩
  · rw [bind_of_ok (refuseIf_of_not failure state holds)]
    exact last holds state

end Returns

/-- Evaluation of a sequence whose first part succeeds. -/
theorem evaluate_bind {handler : Handler S World} {action : Action S ε σ β}
    {next : β → Action S ε σ α} {value : β} {state after : σ} {world later : World}
    (first : (action state).evaluate handler world = ((.ok value, after), later)) :
    ((action >>= next) state).evaluate handler world =
      (next value after).evaluate handler later := by
  have whole := Program.evaluate_bind handler (action state) (fun
    | (.ok value, after) => next value after
    | (.error failure, after) => .ret (.error failure, after)) world
  rw [first] at whole
  exact whole

/-- Evaluation of a sequence whose first part fails. -/
theorem evaluate_bind_error {handler : Handler S World} {action : Action S ε σ β}
    {next : β → Action S ε σ α} {failure : ε} {state after : σ} {world later : World}
    (first : (action state).evaluate handler world = ((.error failure, after), later)) :
    ((action >>= next) state).evaluate handler world = ((.error failure, after), later) := by
  have whole := Program.evaluate_bind handler (action state) (fun
    | (.ok value, after) => next value after
    | (.error failure, after) => .ret (.error failure, after)) world
  rw [first] at whole
  exact whole

/-- Evaluation of a lifted program. -/
theorem evaluate_lift {handler : Handler S World} {program : Program S α} {world later : World}
    {value : α} (first : program.evaluate handler world = (value, later)) (state : σ) :
    ((lift program : Action S ε σ α) state).evaluate handler world =
      ((.ok value, state), later) := by
  unfold lift
  rw [Program.evaluate_bind, first]
  rfl

/-- Evaluation of an attempt. -/
theorem evaluate_attempt {handler : Handler S World} {action : Action S ε' σ α}
    {outcome : Except ε' α} {state after : σ} {world later : World}
    (first : (action state).evaluate handler world = ((outcome, after), later)) :
    ((attempt action : Action S ε σ _) state).evaluate handler world =
      ((.ok outcome, after), later) := by
  unfold attempt
  rw [Program.evaluate_bind, first]
  rfl

/-- Evaluation of an action on a state of its own. -/
theorem evaluate_within {handler : Handler S World} {action : Action S ε τ α} {own after : τ}
    {outcome : Except ε α} {world later : World}
    (first : (action own).evaluate handler world = ((outcome, after), later)) (state : σ) :
    ((within own action : Action S ε σ α) state).evaluate handler world =
      ((outcome, state), later) := by
  unfold within
  rw [Program.evaluate_bind, first]
  rfl

/-- Evaluation of a check that passes. -/
theorem evaluate_refuseIf {handler : Handler S World} {condition : Prop} [Decidable condition]
    {failure : ε} (passes : ¬condition) (state : σ) (world : World) :
    ((refuseIf condition failure : Action S ε σ Unit) state).evaluate handler world =
      ((.ok (), state), world) := by
  rw [refuseIf_of_not failure state passes]
  rfl

/-- Evaluation of a change of the state. -/
theorem evaluate_mutate {handler : Handler S World} {change : σ → Except ε α × σ} {state after : σ}
    {outcome : Except ε α} (changes : change state = (outcome, after)) (world : World) :
    ((mutate change : Action S ε σ α) state).evaluate handler world =
      ((outcome, after), world) := by
  rw [mutate, changes]
  rfl

/-- With a handler, an action owes its postcondition at what it evaluates to. -/
theorem wp_handler_iff {handler : Handler S World} {action : Action S ε σ α} :
    wp handler.setting action post state world ↔
      post ((action state).evaluate handler world).1.1 ((action state).evaluate handler world).1.2
        ((action state).evaluate handler world).2 :=
  Program.wp_handler_iff

/-- Where a handler answers, an action owes what it evaluates to. -/
theorem wp_of_evaluate {handler : Handler S World} {action : Action S ε σ α}
    {outcome : Except ε α} {after : σ} {later : World}
    (evaluates : (action state).evaluate handler world = ((outcome, after), later)) :
    wp handler.setting action post state world ↔ post outcome after later := by
  rw [wp_handler_iff, evaluates]

/-- A complete run of an action. -/
def Runs (setting : Setting S World) (action : Action S ε σ α) (state : σ) (world : World)
    (outcome : Except ε α) (after : σ) (later : World) : Prop :=
  (action state).Runs setting world (outcome, after) later

section Success

variable {after : σ} {later : World} {value : α}

/-- A sequence succeeds exactly when both of its parts do. -/
theorem runs_bind_ok_iff {action : Action S ε σ β} {next : β → Action S ε σ α} :
    (action >>= next).Runs setting state world (.ok value) after later ↔
      ∃ middle between mid, action.Runs setting state world (.ok middle) between mid ∧
        (next middle).Runs setting between mid (.ok value) after later := by
  refine Program.runs_bind_iff.trans ?_
  constructor
  · rintro ⟨⟨_ | middle, between⟩, mid, first, second⟩
    · cases second
    · exact ⟨middle, between, mid, first, second⟩
  · rintro ⟨middle, between, mid, first, second⟩
    exact ⟨(.ok middle, between), mid, first, second⟩

/-- An action that decides by itself runs to what it decides. -/
theorem runs_decided_iff {action : Action S ε σ α} {result : Except ε α} (outcome : σ → Except ε α)
    (decides : ∀ state, action state = .ret (outcome state, state)) :
    action.Runs setting state world result after later ↔
      outcome state = result ∧ state = after ∧ world = later := by
  unfold Runs
  rw [decides]
  constructor
  · rintro ⟨⟩
    exact ⟨rfl, rfl, rfl⟩
  · rintro ⟨rfl, rfl, rfl⟩
    exact .ret

/-- The only run of an outcome that is at hand returns it. -/
theorem runs_ofExcept_iff {outcome result : Except ε α} :
    (ofExcept outcome : Action S ε σ α).Runs setting state world result after later ↔
      outcome = result ∧ state = after ∧ world = later :=
  runs_decided_iff (fun _ => outcome) fun _ => rfl

/-- The only run of reading the state returns it. -/
theorem runs_get_iff {found : σ} :
    (get : Action S ε σ σ).Runs setting state world (.ok found) after later ↔
      state = found ∧ state = after ∧ world = later := by
  have decides : ∀ state, (get : Action S ε σ σ) state = .ret (.ok state, state) := fun _ => rfl
  rw [runs_decided_iff .ok decides, Except.ok.injEq]

/-- A check passes exactly where its condition does not hold. -/
theorem runs_refuseIf_ok_iff {condition : Prop} [Decidable condition] {failure : ε} {done : Unit} :
    (refuseIf condition failure : Action S ε σ Unit).Runs setting state world
      (.ok done) after later ↔
      ¬condition ∧ state = after ∧ world = later := by
  by_cases holds : condition
  · unfold Runs
    rw [refuseIf_of_holds failure state holds]
    constructor
    · rintro ⟨⟩
    · rintro ⟨passes, -⟩
      exact (passes holds).elim
  · unfold Runs
    rw [refuseIf_of_not failure state holds]
    constructor
    · rintro ⟨⟩
      exact ⟨holds, rfl, rfl⟩
    · rintro ⟨-, rfl, rfl⟩
      exact .ret

/-- A required value that is returned was there. -/
theorem runs_require_ok {found : Option α} {failure : ε}
    (runs : (require found failure : Action S ε σ α).Runs setting state world (.ok value) after
      later) : found = some value ∧ state = after ∧ world = later := by
  cases found with
  | none => cases runs
  | some held =>
      cases runs
      exact ⟨rfl, rfl, rfl⟩

/-- The runs of a lifted program are those of the program. -/
theorem runs_lift_ok_iff {program : Program S α} :
    (lift program : Action S ε σ α).Runs setting state world (.ok value) after later ↔
      program.Runs setting world value later ∧ state = after := by
  refine Program.runs_bind_iff.trans ?_
  constructor
  · rintro ⟨found, mid, first, ⟨⟩⟩
    exact ⟨first, rfl⟩
  · rintro ⟨first, rfl⟩
    exact ⟨value, later, first, .ret⟩

/-- The runs of an action on a part of the state are its runs on that part. -/
theorem runs_on_iff {view : σ → τ} {put : τ → σ → σ} {action : Action S ε τ α}
    {outcome : Except ε α} :
    (on view put action).Runs setting state world outcome after later ↔
      ∃ part, action.Runs setting (view state) world outcome part later ∧
        put part state = after := by
  refine Program.runs_bind_iff.trans ?_
  constructor
  · rintro ⟨⟨_, part⟩, mid, first, ⟨⟩⟩
    exact ⟨part, first, rfl⟩
  · rintro ⟨part, first, rfl⟩
    exact ⟨(outcome, part), later, first, .ret⟩

/-- The runs of an action on a state of its own are its runs on that state. -/
theorem runs_within_iff {own : τ} {action : Action S ε τ α} {outcome : Except ε α} :
    (within own action : Action S ε σ α).Runs setting state world outcome after later ↔
      ∃ part, action.Runs setting own world outcome part later ∧ state = after := by
  have same : (within own action : Action S ε σ α) = on (fun _ => own)
    (fun _ held => held) action :=
    rfl
  rw [same]
  exact runs_on_iff

end Success

/-- Where a run of an action ends, its postcondition holds. -/
theorem wp_of_runs {action : Action S ε σ α} {outcome : Except ε α} {after : σ} {later : World}
    (runs : action.Runs setting state world outcome after later)
    (holds : wp setting action post state world) : post outcome after later := by
  have owed := Program.wp_of_runs runs holds
  exact owed

end Action

end Foundation
