import ChatTemplate.Proofs.Action

/-!
Actions in pairs. An action does deeds, listed one after the other; what a sequence does is what its
first part does and, where that has ended with a value, what its second part does. Two actions are
coupled when they pass through states that belong together and end with the same result, until the
second may quit for a reason that its deeds show. A coupling passes through sequences, loops and
blocks, so that it has to be shown for the primitive actions only.
-/

set_option autoImplicit false

namespace ChatTemplate

variable {σ τ σ' τ' ε α β : Type}

/-! ## Tasks that go hand in hand -/

namespace Task

variable {alike : σ → τ → Prop} {agree : σ → α → τ → β → Prop} {quits : Task σ α → τ → β → Prop}
  {task : Task σ α} {task' : Task τ β}

theorem Leads.mono {alike' : σ → τ → Prop} {agree' : σ → α → τ → β → Prop}
    {quits' : Task σ α → τ → β → Prop} (leads : Leads alike agree quits task task')
    (same : ∀ state state', alike state state' → alike' state state')
    (agreed : ∀ state value state' value',
      agree state value state' value' → agree' state value state' value')
    (quit : ∀ rest state' value', quits rest state' value' → quits' rest state' value') :
    Leads alike' agree' quits' task task' := by
  induction leads with
  | done agrees => exact .done (agreed _ _ _ _ agrees)
  | suspended alikes _ ih => exact .suspended (same _ _ alikes) ih
  | stuck alikes => exact .stuck (same _ _ alikes)
  | quit quitted => exact .quit (quit _ _ _ quitted)

theorem Leads.and_outcome (leads : Leads alike agree quits task task') :
    Leads alike
      (fun state value state' value' =>
        agree state value state' value' ∧ task'.outcome = (state', some value'))
      (fun rest state' value' => quits rest state' value' ∧ task'.outcome = (state', some value'))
      task task' := by
  induction leads with
  | done agrees => exact .done ⟨agrees, rfl⟩
  | suspended alikes _ ih => exact .suspended alikes ih
  | stuck alikes => exact .stuck alikes
  | quit quitted => exact .quit ⟨quitted, rfl⟩

/-- What holds of two tasks that go hand in hand to the end holds of the second by itself. -/
theorem Leads.always (leads : Leads alike agree (fun _ _ _ => False) task task') :
    task'.Always (fun state' => ∃ state, alike state state')
      fun state' value' => ∃ state value, agree state value state' value' := by
  induction leads with
  | done agrees => exact ⟨_, _, agrees⟩
  | suspended alikes _ ih => exact ⟨⟨_, alikes⟩, ih⟩
  | stuck alikes => exact ⟨_, alikes⟩
  | quit quitted => exact quitted.elim

/-- Where tasks go hand in hand to the end, both end in states and with values that agree, or both
wait for ever in states that are alike. -/
theorem Leads.outcomes (leads : Leads alike agree (fun _ _ _ => False) task task') :
    (∃ state value state' value', task.outcome = (state, some value) ∧
        task'.outcome = (state', some value') ∧ agree state value state' value') ∨
      ∃ state state', task.outcome = (state, none) ∧ task'.outcome = (state', none) ∧
        alike state state' := by
  induction leads with
  | done agrees => exact .inl ⟨_, _, _, _, rfl, rfl, agrees⟩
  | suspended _ _ ih => exact ih
  | stuck alikes => exact .inr ⟨_, _, rfl, rfl, alikes⟩
  | quit quitted => exact quitted.elim

end Task

/-! ## Deeds of sequences -/

namespace Action

/-- What follows an action: nothing where it fails or waits for ever. -/
def sequel (action : Action σ α) (next : α → σ → List ε) (start : σ) : List ε :=
  match (action start).outcome with
  | (middle, some (.ok value)) => next value middle
  | _ => []

section Sequel

variable {action : Action σ α} {next : α → σ → List ε} {start middle : σ}

theorem sequel_of_ok {value : α} (ended : (action start).outcome = (middle, some (.ok value))) :
    action.sequel next start = next value middle := by
  rw [sequel, ended]

private theorem sequel_of_error {failure : Failure}
    (ended : (action start).outcome = (middle, some (.error failure))) :
    action.sequel next start = [] := by
  rw [sequel, ended]

@[simp] theorem sequel_nil (action : Action σ α) (start : σ) :
    action.sequel (fun _ _ => ([] : List ε)) start = [] := by
  unfold sequel
  split
  · rfl
  · rfl

theorem sequel_eq_nil_or (action : Action σ α) (next : α → σ → List ε) (start : σ) :
    action.sequel next start = [] ∨ ∃ middle value,
      (action start).outcome = (middle, some (.ok value)) ∧
        action.sequel next start = next value middle := by
  unfold sequel
  split
  · rename_i middle value ended
    exact .inr ⟨middle, value, ended, rfl⟩
  · exact .inl rfl

end Sequel

def eachDeeds (action : α → Action σ Unit) (deeds : α → σ → List ε) : List α → σ → List ε
  | [], _ => []
  | item :: rest, start =>
      deeds item start ++ (action item).sequel (fun _ => eachDeeds action deeds rest) start

end Action

/-! ## Couplings -/

/-- How the states of two actions belong together: those that both may go on from, those that both
may be suspended in, how far the second gets by which deeds, and when it may quit. `later` says that
the first cannot get back behind where the second has quitted. -/
structure Coupling (σ τ ε : Type) where
  alike : σ → τ → Prop
  seen : σ → τ → Prop
  course : τ → List ε → τ → Prop
  quit : List ε → τ → Failure → Prop
  later : τ → σ → Prop
  stay : ∀ state, course state [] state
  proceed : ∀ {first second third early late},
    course first early second → course second late third → course first (early ++ late) third
  behind : ∀ {early late state failure},
    quit late state failure → quit (early ++ late) state failure

namespace Coupling

variable (coupling : Coupling σ τ ε)

def underway (start : τ) (deeds : List ε) (state : σ) (state' : τ) : Prop :=
  coupling.seen state state' ∧ ∃ early, early <+: deeds ∧ coupling.course start early state'

def agree (start : τ) (deeds : List ε) (state : σ) (result : Except Failure α) (state' : τ)
    (result' : Except Failure α) : Prop :=
  coupling.alike state state' ∧ result = result' ∧ coupling.course start deeds state'

/-- The second action quits, and what is left of the first stays behind that point. -/
def quits (deeds : List ε) (rest : Task σ (Except Failure α)) (state' : τ)
    (result' : Except Failure β) : Prop :=
  ∃ failure, result' = .error failure ∧ coupling.quit deeds state' failure ∧
    rest.Always (coupling.later state') fun state _ => coupling.later state' state

/-- Two tasks that go hand in hand from a state of the second, with its deeds. -/
def Together (start : τ) (deeds : List ε) (task : Task σ (Except Failure α))
    (task' : Task τ (Except Failure α)) : Prop :=
  task.Leads (coupling.underway start deeds) (coupling.agree start deeds) (coupling.quits deeds)
    task'

end Coupling

namespace Action

variable {coupling : Coupling σ τ ε}

def Lasting (coupling : Coupling σ τ ε) (action : Action σ α) : Prop :=
  ∀ state' state, coupling.later state' state →
    (action state).Always (coupling.later state') fun state _ => coupling.later state' state

def CoupledAt (coupling : Coupling σ τ ε) (action : Action σ α) (action' : Action τ α)
    (deeds : List ε) (state' : τ) : Prop :=
  ∀ state, coupling.alike state state' →
    coupling.Together state' deeds (action state) (action' state')

structure Coupled (coupling : Coupling σ τ ε) (action : Action σ α) (action' : Action τ α)
    (deeds : τ → List ε) : Prop where
  along : ∀ state', CoupledAt coupling action action' (deeds state') state'
  lasting : Lasting coupling action

section Coupled

variable {action first : Action σ α} {action' first' : Action τ α} {next : α → Action σ β}
  {next' : α → Action τ β} {deeds early : τ → List ε} {late : α → τ → List ε}

theorem Coupled.congr {deeds' : τ → List ε} (coupled : Coupled coupling action action' deeds)
    (same : ∀ state', deeds' state' = deeds state') : Coupled coupling action action' deeds' := by
  rwa [funext same]

theorem lasting_pure (value : α) : Lasting coupling (pure value : Action σ α) :=
  fun _ _ later => later

private theorem lasting_failAt (span : Span) (cause : Cause) :
    Lasting coupling (failAt span cause : Action σ α) :=
  fun _ _ later => later

theorem lasting_located (span : Span) (result : Except Cause α) :
    Lasting coupling (located span result : Action σ α) := by
  cases result with
  | ok value => exact lasting_pure value
  | error cause => exact lasting_failAt span cause

theorem Lasting.bind (lasting : Lasting coupling first)
    (after : ∀ value, Lasting coupling (next value)) : Lasting coupling (first >>= next) := by
  intro state' state later
  refine (lasting state' state later).bind ?_
  intro middle result later
  cases result with
  | ok value => exact after value state' middle later
  | error failure => exact later

theorem coupledAt_pure (value : α) (state' : τ) :
    CoupledAt coupling (pure value : Action σ α) (pure value) [] state' :=
  fun _ same => .done ⟨same, rfl, coupling.stay state'⟩

theorem coupled_pure (value : α) :
    Coupled coupling (pure value : Action σ α) (pure value) fun _ => [] :=
  ⟨coupledAt_pure value, lasting_pure value⟩

theorem coupled_failAt (span : Span) (cause : Cause) :
    Coupled coupling (failAt span cause : Action σ α) (failAt span cause) fun _ => [] :=
  ⟨fun state' _ same => .done ⟨same, rfl, coupling.stay state'⟩, lasting_failAt span cause⟩

theorem coupled_located (span : Span) (result : Except Cause α) :
    Coupled coupling (located span result : Action σ α) (located span result) fun _ => [] := by
  cases result with
  | ok value => exact coupled_pure value
  | error cause => exact coupled_failAt span cause

/-- What follows a pair of actions may rely on how the second of them has ended. -/
theorem CoupledAt.bind {early : List ε} {state' : τ}
    (coupled : CoupledAt coupling first first' early state')
    (lasting : ∀ value, Lasting coupling (next value))
    (after : ∀ middle' value, (first' state').outcome = (middle', some (.ok value)) →
      CoupledAt coupling (next value) (next' value) (late value middle') middle') :
    CoupledAt coupling (first >>= next) (first' >>= next')
      (early ++ first'.sequel late state') state' := by
  intro state same
  have together := (coupled state same).and_outcome
  refine Task.Leads.bind (together.mono ?_ (fun _ _ _ _ agreed => agreed)
    fun _ _ _ quitted => quitted) ?_ ?_
  · intro during during' underway
    obtain ⟨seen, done, within, course⟩ := underway
    exact ⟨seen, done, within.trans (List.prefix_append _ _), course⟩
  · intro middle result middle' result' agreed
    obtain ⟨⟨alikes, rfl, course⟩, ended⟩ := agreed
    cases result with
    | error failure =>
        refine .done ⟨alikes, rfl, ?_⟩
        rw [sequel_of_error ended, List.append_nil]
        exact course
    | ok value =>
        rw [sequel_of_ok ended]
        refine (after middle' value ended middle alikes).mono ?_ ?_ ?_
        · intro during during' underway
          obtain ⟨seen, done, within, further⟩ := underway
          exact ⟨seen, early ++ done, (List.prefix_append_right_inj early).mpr within,
            coupling.proceed course further⟩
        · intro final result final' result' agreed
          obtain ⟨alikes, same, further⟩ := agreed
          exact ⟨alikes, same, coupling.proceed course further⟩
        · intro rest final' result' quitted
          obtain ⟨failure, failed, quit, later⟩ := quitted
          exact ⟨failure, failed, coupling.behind quit, later⟩
  · intro rest final' result' quitted
    obtain ⟨⟨failure, rfl, quit, later⟩, ended⟩ := quitted
    refine .quit ⟨failure, rfl, ?_, later.bind ?_⟩
    · rw [sequel_of_error ended, List.append_nil]
      exact quit
    · intro middle result later
      cases result with
      | ok value => exact lasting value final' middle later
      | error failure => exact later

theorem Coupled.bind (coupled : Coupled coupling first first' early)
    (after : ∀ value, Coupled coupling (next value) (next' value) (late value)) :
    Coupled coupling (first >>= next) (first' >>= next')
      fun state' => early state' ++ first'.sequel late state' where
  along state' := (coupled.along state').bind (fun value => (after value).lasting)
    fun middle' value _ => (after value).along middle'
  lasting := coupled.lasting.bind fun value => (after value).lasting

theorem CoupledAt.before {early : List ε} {state' : τ}
    (coupled : CoupledAt coupling first first' early state')
    (lasting : ∀ value, Lasting coupling (next value))
    (after : ∀ middle' value, (first' state').outcome = (middle', some (.ok value)) →
      CoupledAt coupling (next value) (next' value) [] middle') :
    CoupledAt coupling (first >>= next) (first' >>= next') early state' := by
  have whole : CoupledAt coupling (first >>= next) (first' >>= next')
      (early ++ first'.sequel (fun _ _ => []) state') state' :=
    coupled.bind lasting after
  rwa [sequel_nil, List.append_nil] at whole

theorem CoupledAt.yields {early : List ε} {state' : τ} {first : Action σ Unit}
    {first' : Action τ Unit} (coupled : CoupledAt coupling first first' early state') (value : α) :
    CoupledAt coupling (first >>= fun _ => pure value) (first' >>= fun _ => pure value) early
      state' :=
  coupled.before (fun _ => lasting_pure value) fun after _ _ => coupledAt_pure value after

/-- A sequence whose second part does nothing. -/
theorem Coupled.before (coupled : Coupled coupling first first' early)
    (after : ∀ value, Coupled coupling (next value) (next' value) fun _ => []) :
    Coupled coupling (first >>= next) (first' >>= next') early where
  along state' := (coupled.along state').before (fun value => (after value).lasting)
    fun middle' value _ => (after value).along middle'
  lasting := coupled.lasting.bind fun value => (after value).lasting

/-- A sequence whose first part does nothing. -/
theorem Coupled.behind (coupled : Coupled coupling first first' fun _ => [])
    (after : ∀ value, Coupled coupling (next value) (next' value) (late value)) :
    Coupled coupling (first >>= next) (first' >>= next') (first'.sequel late) :=
  coupled.bind after

/-- What follows a result that is known may rely on it. -/
theorem Coupled.located {span : Span} {result : Except Cause α}
    (after : ∀ value, result = .ok value →
      Coupled coupling (next value) (next' value) (late value)) :
    Coupled coupling (Action.located span result >>= next) (Action.located span result >>= next')
      ((Action.located span result).sequel late) := by
  cases result with
  | ok value => exact after value rfl
  | error cause => exact coupled_failAt span cause

theorem Coupled.located_quiet {span : Span} {result : Except Cause α}
    (after : ∀ value, result = .ok value →
      Coupled coupling (next value) (next' value) fun _ => []) :
    Coupled coupling (Action.located span result >>= next) (Action.located span result >>= next')
      fun _ => [] :=
  (Coupled.located after).congr fun _ => (sequel_nil _ _).symm

theorem Coupled.forEach {items : List α} {action : α → Action σ Unit}
    {action' : α → Action τ Unit} {deeds : α → τ → List ε}
    (coupled : ∀ item, Coupled coupling (action item) (action' item) (deeds item)) :
    Coupled coupling (forEach items action) (forEach items action')
      (eachDeeds action' deeds items) := by
  induction items with
  | nil => exact coupled_pure ()
  | cons item rest ih => exact (coupled item).bind fun _ => ih

end Coupled

end Action

end ChatTemplate
