import Pardosa.Foundation.Program

/-!
# Programs that follow each other

Two programs over different operations, each in its own setting, may come to the same.
A program follows another one when it can end in something related to whatever the
other one may end in. For actions the rules go through both sides at once: they end in
equal outcomes, and in states and worlds that are related.
-/

namespace Foundation

variable {S T : Signature} {World Other : Type} {first : Setting S World} {second : Setting T Other}

namespace Program

variable {α β γ δ : Type}

/-- Whatever the leader may end in, the follower may end in something related. -/
def Leads (first : Setting S World) (second : Setting T Other)
    (related : α → World → β → Other → Prop) (leader : Program S α) (follower : Program T β)
    (world : World) (other : Other) : Prop :=
  leader.wp first (fun value later => ∃ reply final, follower.Runs second other reply final ∧
    related value later reply final) world

variable {related : α → World → β → Other → Prop} {leader : Program S α} {follower : Program T β}
  {world : World} {other : Other}

/-- A weaker relation holds where a stronger one does. -/
theorem leads_mono {weak : α → World → β → Other → Prop}
    (leads : leader.Leads first second related follower world other)
    (weaker : ∀ value later reply final, related value later reply final →
      weak value later reply final) :
    leader.Leads first second weak follower world other := by
  refine wp_mono leads ?_
  rintro value later ⟨reply, final, runs, holds⟩
  exact ⟨reply, final, runs, weaker value later reply final holds⟩

/-- Sequences lead each other where their parts do. -/
theorem leads_bind {ends : γ → World → δ → Other → Prop} {next : α → Program S γ}
    {following : β → Program T δ} (leads : leader.Leads first second related follower world other)
    (rest : ∀ value later reply final, related value later reply final →
      (next value).Leads first second ends (following reply) later final) :
    (leader.bind next).Leads first second ends (follower.bind following) world other := by
  refine (wp_bind _ _ _ _).mpr (wp_mono leads ?_)
  rintro value later ⟨reply, final, runs, holds⟩
  refine wp_mono (rest value later reply final holds) ?_
  rintro result ended ⟨answer, last, further, ending⟩
  exact ⟨answer, last, runs_bind_iff.mpr ⟨reply, final, runs, further⟩, ending⟩

/-- Where a handler answers, a leader ends in what it evaluates to. -/
theorem leads_handler_iff {handler : Handler S World} :
    leader.Leads handler.setting second related follower world other ↔
      ∃ reply final, follower.Runs second other reply final ∧
        related (leader.evaluate handler world).1 (leader.evaluate handler world).2 reply final :=
  wp_handler_iff

end Program

namespace Action

variable {ε ε' σ τ σ' τ' α β : Type}

/-- Whatever the leader may end in, the follower may end in with an equal outcome, and
with a state and a world that are related. -/
def Leads (first : Setting S World) (second : Setting T Other)
    (related : Except ε α → σ → World → τ → Other → Prop) (leader : Action S ε σ α)
    (follower : Action T ε τ α) (state : σ) (world : World) (copy : τ) (other : Other) : Prop :=
  (leader state).Leads first second
    (fun result later reply final => result.1 = reply.1 ∧
      related result.1 result.2 later reply.2 final) (follower copy) world other

variable {related : Except ε α → σ → World → τ → Other → Prop} {leader : Action S ε σ α}
  {follower : Action T ε τ α} {state : σ} {world : World} {copy : τ} {other : Other}

/-- A weaker relation between actions holds where a stronger one does. -/
theorem leads_mono {weak : Except ε α → σ → World → τ → Other → Prop}
    (leads : leader.Leads first second related follower state world copy other)
    (weaker : ∀ outcome after later copy' final, related outcome after later copy' final →
      weak outcome after later copy' final) :
    leader.Leads first second weak follower state world copy other := by
  refine Program.leads_mono leads ?_
  rintro result later reply final ⟨same, holds⟩
  exact ⟨same, weaker _ _ _ _ _ holds⟩

/-- Two actions that stop without performing anything, with one outcome. -/
theorem leads_ret {outcome : Except ε α} {after : σ} {copy' : τ}
    (leads : leader state = .ret (outcome, after)) (follows : follower copy = .ret (outcome, copy'))
    (holds : related outcome after world copy' other) :
    leader.Leads first second related follower state world copy other := by
  unfold Leads
  rw [leads, follows]
  exact ⟨_, _, .ret, rfl, holds⟩

/-- Where a handler answers, a leader ends in what it evaluates to. -/
theorem leads_of_evaluate {handler : Handler S World} {outcome : Except ε α} {after : σ}
    {later : World} {copy' : τ} {final : Other}
    (evaluates : (leader state).evaluate handler world = ((outcome, after), later))
    (runs : follower.Runs second copy other outcome copy' final)
    (holds : related outcome after later copy' final) :
    leader.Leads handler.setting second related follower state world copy other := by
  refine Program.leads_handler_iff.mpr ⟨_, _, runs, ?_⟩
  rw [evaluates]
  exact ⟨rfl, holds⟩

/-- Two values at hand end where they are. -/
theorem leads_pure {value : α} (holds : related (.ok value) state world copy other) :
    (pure value : Action S ε σ α).Leads first second related (pure value) state world copy other :=
  leads_ret rfl rfl holds

/-- So do two failures. -/
theorem leads_throw {failure : ε} (holds : related (.error failure) state world copy other) :
    (throw failure : Action S ε σ α).Leads first second related (throw failure) state world copy
      other :=
  leads_ret rfl rfl holds

/-- So do two outcomes. -/
theorem leads_ofExcept {outcome : Except ε α} (holds : related outcome state world copy other) :
    (ofExcept outcome : Action S ε σ α).Leads first second related (ofExcept outcome) state world
      copy other :=
  leads_ret rfl rfl holds

/-- Sequences of actions lead each other where their parts do, and where they stop alike. -/
theorem leads_bind {ends : Except ε β → σ → World → τ → Other → Prop} {next : α → Action S ε σ β}
    {following : α → Action T ε τ β}
    (leads : leader.Leads first second related follower state world copy other)
    (stops : ∀ failure after later copy' final, related (.error failure) after later copy' final →
      ends (.error failure) after later copy' final)
    (rest : ∀ value after later copy' final, related (.ok value) after later copy' final →
      (next value).Leads first second ends (following value) after later copy' final) :
    (leader >>= next).Leads first second ends (follower >>= following) state world copy other := by
  refine Program.leads_bind leads ?_
  rintro ⟨failure | value, after⟩ later ⟨reply, copy'⟩ final ⟨rfl, holds⟩
  · exact ⟨_, _, .ret, rfl, stops failure after later copy' final holds⟩
  · exact rest value after later copy' final holds

/-- Both sides look at their states. -/
theorem leads_get_bind {next : σ → Action S ε σ α} {following : τ → Action T ε τ α}
    (leads : (next state).Leads first second related (following copy) state world copy other) :
    (get >>= next).Leads first second related (get >>= following) state world copy other :=
  leads

section First

variable {ends : Except ε β → σ → World → τ → Other → Prop} {next : α → Action S ε σ β}
  {following : α → Action T ε τ β}

/-- Behind an outcome at hand, both stop or both go on. -/
theorem leads_ofExcept_bind {outcome : Except ε α}
    (stops : ∀ failure, outcome = .error failure → ends (.error failure) state world copy other)
    (rest : ∀ value, outcome = .ok value →
      (next value).Leads first second ends (following value) state world copy other) :
    (ofExcept outcome >>= next).Leads first second ends (ofExcept outcome >>= following) state world
      copy other := by
  cases outcome with
  | error failure => exact leads_ret rfl rfl (stops failure rfl)
  | ok value => exact rest value rfl

/-- Behind the same check, both are refused or both go on. -/
theorem leads_refuseIf_bind {next : Unit → Action S ε σ β} {following : Unit → Action T ε τ β}
    {condition : Prop} [Decidable condition] {failure : ε}
    (stops : condition → ends (.error failure) state world copy other)
    (rest : ¬condition → (next ()).Leads first second ends (following ()) state world copy other) :
    (refuseIf condition failure >>= next).Leads first second ends
      (refuseIf condition failure >>= following) state world copy other := by
  by_cases holds : condition
  · exact leads_ret (bind_of_error (refuseIf_of_holds failure state holds))
      (bind_of_error (refuseIf_of_holds failure copy holds)) (stops holds)
  · unfold Leads
    rw [bind_of_ok (refuseIf_of_not failure state holds),
      bind_of_ok (refuseIf_of_not failure copy holds)]
    exact rest holds

/-- Behind changes of their states, both go on. -/
theorem leads_modify_bind {next : PUnit → Action S ε σ β} {following : PUnit → Action T ε τ β}
    {change : σ → σ} {change' : τ → τ}
    (rest : (next ⟨⟩).Leads first second ends (following ⟨⟩) (change state) world (change' copy)
      other) :
    (modify change >>= next).Leads first second ends (modify change' >>= following) state world copy
      other :=
  rest

/-- Behind lifted programs that return alike, both go on with what was returned. -/
theorem leads_lift_bind {leader : Program S α} {follower : Program T α}
    {between : World → Other → Prop}
    (leads : leader.Leads first second (fun value later reply final => value = reply ∧
      between later final) follower world other)
    (rest : ∀ value later final, between later final →
      (next value).Leads first second ends (following value) state later copy final) :
    (lift leader >>= next).Leads first second ends (lift follower >>= following) state world copy
      other := by
  have lifted : ((lift leader : Action S ε σ α) state).Leads first second
      (fun result later reply final => ∃ value, result = (.ok value, state) ∧
        reply = (.ok value, copy) ∧ between later final)
      ((lift follower : Action T ε τ α) copy) world other := by
    refine Program.leads_bind leads ?_
    rintro value later _ final ⟨rfl, holds⟩
    exact ⟨_, _, .ret, value, rfl, rfl, holds⟩
  refine Program.leads_bind lifted ?_
  rintro _ later _ final ⟨value, rfl, rfl, holds⟩
  exact rest value later final holds

/-- Behind attempts that end alike, both go on with how they ended. -/
theorem leads_attempt_bind {related : Except ε' α → σ → World → τ → Other → Prop}
    {leader : Action S ε' σ α} {follower : Action T ε' τ α} {next : Except ε' α → Action S ε σ β}
    {following : Except ε' α → Action T ε τ β}
    (leads : leader.Leads first second related follower state world copy other)
    (rest : ∀ outcome after later copy' final, related outcome after later copy' final →
      (next outcome).Leads first second ends (following outcome) after later copy' final) :
    (attempt leader >>= next).Leads first second ends (attempt follower >>= following) state world
      copy other := by
  have attempted : ((attempt leader : Action S ε σ _) state).Leads first second
      (fun result later reply final => ∃ outcome after copy', result = (.ok outcome, after) ∧
        reply = (.ok outcome, copy') ∧ related outcome after later copy' final)
      ((attempt follower : Action T ε τ _) copy) world other := by
    refine Program.leads_bind leads ?_
    rintro ⟨outcome, after⟩ later ⟨_, copy'⟩ final ⟨rfl, holds⟩
    exact ⟨_, _, .ret, outcome, after, copy', rfl, rfl, holds⟩
  refine Program.leads_bind attempted ?_
  rintro _ later _ final ⟨outcome, after, copy', rfl, rfl, holds⟩
  exact rest outcome after later copy' final holds

end First

/-- Two changes that return alike end where they lead. -/
theorem leads_mutate {change : σ → Except ε α × σ} {change' : τ → Except ε α × τ}
    (same : (change state).1 = (change' copy).1)
    (holds : related (change state).1 (change state).2 world (change' copy).2 other) :
    (mutate change : Action S ε σ α).Leads first second related (mutate change') state world copy
      other := by
  refine leads_ret rfl ?_ holds
  unfold mutate
  rw [same]

/-- Actions on parts of their states lead each other where they do so on the parts. -/
theorem leads_on {view : σ → σ'} {put : σ' → σ → σ} {view' : τ → τ'} {put' : τ' → τ → τ}
    {leader : Action S ε σ' α} {follower : Action T ε τ' α}
    (leads : leader.Leads first second (fun outcome part later part' final =>
      related outcome (put part state) later (put' part' copy) final) follower (view state) world
      (view' copy) other) :
    (on view put leader).Leads first second related (on view' put' follower) state world copy
      other := by
  refine Program.leads_bind leads ?_
  rintro ⟨outcome, part⟩ later ⟨reply, part'⟩ final ⟨rfl, holds⟩
  exact ⟨_, _, .ret, rfl, holds⟩

/-- Renaming what is returned keeps actions together. -/
theorem leads_map {related : Except ε β → σ → World → τ → Other → Prop} {rename : α → β}
    (leads : leader.Leads first second (fun outcome => related (outcome.map rename)) follower state
      world copy other) :
    (do let value ← leader; pure (rename value) : Action S ε σ β).Leads first second related
      (do let value ← follower; pure (rename value)) state world copy other :=
  leads_bind leads (fun _ _ _ _ _ holds => holds) fun _ _ _ _ _ holds => leads_pure holds

end Action

end Foundation
