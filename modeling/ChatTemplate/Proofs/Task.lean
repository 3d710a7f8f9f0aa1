import ChatTemplate.Host.Task

/-!
Tasks as they are seen from outside. `Always` speaks about every moment at which a task can be seen,
`Leads` about two tasks that pass through the same moments until the second may quit before its
time. Both are kept by sequencing, and both say how waiting for a task can end.
-/

set_option autoImplicit false

namespace ChatTemplate.Task

variable {σ τ σ' τ' α β α' β' : Type}

@[simp] theorem outcome_mapState (view : σ → τ) (task : Task σ α) :
    (task.mapState view).outcome = (view task.outcome.1, task.outcome.2) := by
  induction task with
  | done => rfl
  | suspended _ _ ih => exact ih
  | stuck => rfl

/-- A task that somebody has waited for to its end ends in just this way. -/
theorem outcome_of_await {patience : Patience σ} {count : Nat} {task : Task σ α} {state : σ}
    {value : α} (finished : task.await patience count = (state, .finished value)) :
    task.outcome = (state, some value) := by
  induction task generalizing count with
  | done =>
      cases finished
      rfl
  | suspended seen rest ih =>
      simp only [await] at finished
      split at finished
      · cases finished
      · split at finished
        · cases finished
        · exact ih finished
  | stuck seen =>
      simp only [await] at finished
      repeat' split at finished
      all_goals cases finished

/-! ## What holds throughout a task -/

/-- Every state that the task is suspended in has one property, and its end has another. -/
def Always (seen : σ → Prop) (ends : σ → α → Prop) : Task σ α → Prop
  | .done state value => ends state value
  | .suspended state rest => seen state ∧ rest.Always seen ends
  | .stuck state => seen state

theorem always_true (task : Task σ α) : task.Always (fun _ => True) fun _ _ => True := by
  induction task with
  | done => trivial
  | suspended _ _ ih => exact ⟨trivial, ih⟩
  | stuck => trivial

theorem Always.imp {seen seen' : σ → Prop} {ends ends' : σ → α → Prop} {task : Task σ α}
    (always : task.Always seen ends) (seenImp : ∀ state, seen state → seen' state)
    (endsImp : ∀ state value, ends state value → ends' state value) :
    task.Always seen' ends' := by
  induction task with
  | done state value => exact endsImp state value always
  | suspended state rest ih => exact ⟨seenImp state always.1, ih always.2⟩
  | stuck state => exact seenImp state always

theorem Always.bind {seen : σ → Prop} {ends : σ → α → Prop} {ends' : σ → β → Prop}
    {task : Task σ α} {next : σ → α → Task σ β} (always : task.Always seen ends)
    (after : ∀ state value, ends state value → (next state value).Always seen ends') :
    (task.bind next).Always seen ends' := by
  induction task with
  | done state value => exact after state value always
  | suspended state rest ih => exact ⟨always.1, ih always.2⟩
  | stuck state => exact always

theorem Always.mapState {seen : σ → Prop} {ends : σ → α → Prop} {seen' : τ → Prop}
    {ends' : τ → α → Prop} {task : Task σ α} {view : σ → τ} (always : task.Always seen ends)
    (seenImp : ∀ state, seen state → seen' (view state))
    (endsImp : ∀ state value, ends state value → ends' (view state) value) :
    (task.mapState view).Always seen' ends' := by
  induction task with
  | done state value => exact endsImp state value always
  | suspended state rest ih => exact ⟨seenImp state always.1, ih always.2⟩
  | stuck state => exact seenImp state always

theorem Always.outcome {seen : σ → Prop} {ends : σ → α → Prop} {task : Task σ α} {state : σ}
    {value : α} (always : task.Always seen ends) (ended : task.outcome = (state, some value)) :
    ends state value := by
  induction task with
  | done =>
      cases ended
      exact always
  | suspended _ _ ih => exact ih always.2 ended
  | stuck => cases ended

theorem Always.and_outcome {seen : σ → Prop} {ends : σ → α → Prop} {task : Task σ α}
    (always : task.Always seen ends) :
    task.Always seen fun state value => ends state value ∧ task.outcome = (state, some value) := by
  induction task with
  | done state value => exact ⟨always, rfl⟩
  | suspended state rest ih => exact ⟨always.1, ih always.2⟩
  | stuck state => exact always

/-- Whatever holds at every moment of a task holds where waiting for it ends. -/
theorem Always.await {seen : σ → Prop} {task : Task σ α}
    (always : task.Always seen fun state _ => seen state) (patience : Patience σ) (count : Nat) :
    seen (task.await patience count).1 := by
  induction task generalizing count with
  | done => exact always
  | suspended state rest ih =>
      simp only [Task.await]
      split
      · exact always.1
      · split
        · exact always.1
        · exact ih always.2 (count + 1)
  | stuck state =>
      simp only [Task.await]
      repeat' split
      all_goals exact always

/-! ## Tasks that go hand in hand -/

/-- The second task is suspended and ends where the first does, in states that are alike and with
results that agree, except that it may quit while the first goes on: `quits` relates what is left of
the first task then to the end of the second. -/
inductive Leads (alike : σ → τ → Prop) (agree : σ → α → τ → β → Prop)
    (quits : Task σ α → τ → β → Prop) : Task σ α → Task τ β → Prop where
  | done {state : σ} {value : α} {state' : τ} {value' : β}
      (agreed : agree state value state' value') :
      Leads alike agree quits (.done state value) (.done state' value')
  | suspended {state : σ} {rest : Task σ α} {state' : τ} {rest' : Task τ β}
      (same : alike state state') (later : Leads alike agree quits rest rest') :
      Leads alike agree quits (.suspended state rest) (.suspended state' rest')
  | stuck {state : σ} {state' : τ} (same : alike state state') :
      Leads alike agree quits (.stuck state) (.stuck state')
  | quit {rest : Task σ α} {state' : τ} {value' : β} (quitted : quits rest state' value') :
      Leads alike agree quits rest (.done state' value')

theorem leads_self (task : Task σ α) :
    Leads Eq (fun state value state' value' => state = state' ∧ value = value')
      (fun _ _ _ => False) task task := by
  induction task with
  | done state value => exact .done ⟨rfl, rfl⟩
  | suspended state rest ih => exact .suspended rfl ih
  | stuck state => exact .stuck rfl

section Leads

variable {alike : σ → τ → Prop} {agree : σ → α → τ → β → Prop} {quits : Task σ α → τ → β → Prop}
  {task : Task σ α} {task' : Task τ β}

theorem Leads.imp {alike' : σ → τ → Prop} (leads : Leads alike agree quits task task')
    (same : ∀ state state', alike state state' → alike' state state') :
    Leads alike' agree quits task task' := by
  induction leads with
  | done agreed => exact .done agreed
  | suspended alikes _ ih => exact .suspended (same _ _ alikes) ih
  | stuck alikes => exact .stuck (same _ _ alikes)
  | quit quitted => exact .quit quitted

theorem Leads.bind {agree' : σ → α' → τ → β' → Prop} {quits' : Task σ α' → τ → β' → Prop}
    {next : σ → α → Task σ α'} {next' : τ → β → Task τ β'}
    (leads : Leads alike agree quits task task')
    (after : ∀ state value state' value', agree state value state' value' →
      Leads alike agree' quits' (next state value) (next' state' value'))
    (quit : ∀ rest state' value', quits rest state' value' →
      Leads alike agree' quits' (rest.bind next) (next' state' value')) :
    Leads alike agree' quits' (task.bind next) (task'.bind next') := by
  induction leads with
  | done agreed => exact after _ _ _ _ agreed
  | suspended same _ ih => exact .suspended same ih
  | stuck same => exact .stuck same
  | quit quitted => exact quit _ _ _ quitted

theorem Leads.mapState {alike' : σ' → τ' → Prop} {agree' : σ' → α → τ' → β → Prop}
    {quits' : Task σ' α → τ' → β → Prop} {view : σ → σ'} {view' : τ → τ'}
    (leads : Leads alike agree quits task task')
    (same : ∀ state state', alike state state' → alike' (view state) (view' state'))
    (agreed : ∀ state value state' value', agree state value state' value' →
      agree' (view state) value (view' state') value')
    (quit : ∀ rest state' value', quits rest state' value' →
      quits' (rest.mapState view) (view' state') value') :
    Leads alike' agree' quits' (task.mapState view) (task'.mapState view') := by
  induction leads with
  | done agrees => exact .done (agreed _ _ _ _ agrees)
  | suspended alikes _ ih => exact .suspended (same _ _ alikes) ih
  | stuck alikes => exact .stuck (same _ _ alikes)
  | quit quitted => exact .quit (quit _ _ _ quitted)

/-- When the second task ends, the first ends alike or the second has quitted. -/
theorem Leads.outcome (leads : Leads alike agree quits task task') {state' : τ} {value' : β}
    (ended : task'.outcome = (state', some value')) :
    (∃ state value, task.outcome = (state, some value) ∧ agree state value state' value') ∨
      ∃ rest, quits rest state' value' := by
  induction leads with
  | done agreed =>
      cases ended
      exact .inl ⟨_, _, rfl, agreed⟩
  | suspended _ _ ih => exact ih ended
  | stuck => cases ended
  | quit quitted =>
      cases ended
      exact .inr ⟨_, quitted⟩

end Leads

/-- Two ways in which waiting ends that are the same, with states that are alike and results that
agree. -/
inductive Ending.Leads (alike : σ → τ → Prop) (agree : σ → α → τ → β → Prop) :
    σ × Ending α → τ × Ending β → Prop where
  | finished {state : σ} {value : α} {state' : τ} {value' : β}
      (agreed : agree state value state' value') :
      Ending.Leads alike agree (state, .finished value) (state', .finished value')
  | timedOut {state : σ} {state' : τ} (same : alike state state') :
      Ending.Leads alike agree (state, .timedOut) (state', .timedOut)
  | aborted {state : σ} {state' : τ} (same : alike state state') :
      Ending.Leads alike agree (state, .aborted) (state', .aborted)
  | waiting {state : σ} {state' : τ} (same : alike state state') :
      Ending.Leads alike agree (state, .waiting) (state', .waiting)

/-- Who waits for both tasks with the same patience sees them end in the same way, or the second
quit; what is left of the first then is waited for further. -/
theorem Leads.await {alike : σ → σ → Prop} {agree : σ → α → σ → β → Prop}
    {quits : Task σ α → σ → β → Prop} {task : Task σ α} {task' : Task σ β}
    (leads : Leads alike agree quits task task') (patience : Patience σ)
    (unmoved : ∀ count state state', alike state state' →
      patience.aborted count state = patience.aborted count state') (count : Nat) :
    Ending.Leads alike agree (task.await patience count) (task'.await patience count) ∨
      ∃ rest state' value' passed, quits rest state' value' ∧
        task'.await patience count = (state', .finished value') ∧
        task.await patience count = rest.await patience passed := by
  induction leads generalizing count with
  | done agreed => exact .inl (.finished agreed)
  | @suspended state rest state' rest' same _ ih =>
      simp only [Task.await, ← unmoved count state state' same]
      split
      · exact .inl (.timedOut same)
      · split
        · exact .inl (.aborted same)
        · exact ih (count + 1)
  | @stuck state state' same =>
      left
      simp only [Task.await, ← unmoved count state state' same]
      repeat' split
      · exact .timedOut same
      · exact .aborted same
      · exact .timedOut same
      · exact .waiting same
  | quit quitted => exact .inr ⟨_, _, _, count, quitted, rfl, rfl⟩

end ChatTemplate.Task
