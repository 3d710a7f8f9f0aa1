import ChatTemplate.Proofs.Compilation
import ChatTemplate.Proofs.Composition
import ChatTemplate.Proofs.CoupledEvaluation

/-!
Compilations that are cut off. A compilation can be left only where it is suspended, and whatever it
has done by then it has done in the same way as if nobody had left: from one moment to the next the
history only grows. So a time limit and an abort never change a result; they take its place.
-/

set_option autoImplicit false

namespace ChatTemplate

variable {σ τ α β ε : Type}

namespace Task

/-- The states that a task is suspended in, in order. In the last one of a task that is stuck it
stays for good. -/
def suspensions : Task σ α → List σ
  | .done _ _ => []
  | .suspended state rest => state :: rest.suspensions
  | .stuck state => [state]

/-! ## Tasks that only go on -/

/-- A log that is seen in the states of a task grows from each state to the next, and from `start`
to the first. -/
def Grows (log : σ → List ε) (start : σ) : Task σ α → Prop
  | .done state _ => log start <+: log state
  | .suspended state rest => log start <+: log state ∧ rest.Grows log state
  | .stuck state => log start <+: log state

section Grows

variable {log : σ → List ε} {start : σ} {task : Task σ α}

private theorem grows_of_constant (entries : List ε) (start : σ) (task : Task σ α) :
    task.Grows (fun _ => entries) start := by
  induction task generalizing start with
  | done => exact List.prefix_rfl
  | suspended state rest ih => exact ⟨List.prefix_rfl, ih state⟩
  | stuck => exact List.prefix_rfl

theorem Grows.after {earlier : σ} (grows : task.Grows log start)
    (before : log earlier <+: log start) : task.Grows log earlier := by
  cases task with
  | done => exact before.trans grows
  | suspended => exact ⟨before.trans grows.1, grows.2⟩
  | stuck => exact before.trans grows

theorem Grows.bind {next : σ → α → Task σ β} (grows : task.Grows log start)
    (later : ∀ state value, (next state value).Grows log state) :
    (task.bind next).Grows log start := by
  induction task generalizing start with
  | done state value => exact (later state value).after grows
  | suspended state rest ih => exact ⟨grows.1, ih grows.2⟩
  | stuck state => exact grows

theorem Grows.mapState {log' : τ → List ε} {view : σ → τ} (grows : task.Grows log start)
    (same : ∀ state, log' (view state) = log state) {start' : τ}
    (before : log' start' <+: log start) : (task.mapState view).Grows log' start' := by
  induction task generalizing start start' with
  | done state =>
      change log' start' <+: log' (view state)
      exact same state ▸ before.trans grows
  | suspended state rest ih =>
      exact ⟨same state ▸ before.trans grows.1, ih grows.2 (same state ▸ List.prefix_rfl)⟩
  | stuck state =>
      change log' start' <+: log' (view state)
      exact same state ▸ before.trans grows

theorem Grows.outcome (grows : task.Grows log start) : log start <+: log task.outcome.1 := by
  induction task generalizing start with
  | done => exact grows
  | suspended state rest ih => exact grows.1.trans (ih grows.2)
  | stuck => exact grows

/-- Wherever a task is left, its outcome lies further on. -/
theorem Grows.await (grows : task.Grows log start) (patience : Patience σ) (count : Nat) :
    log (task.await patience count).1 <+: log task.outcome.1 := by
  induction task generalizing start count with
  | done => exact List.prefix_rfl
  | suspended state rest ih =>
      simp only [Task.await]
      split
      · exact grows.2.outcome
      · split
        · exact grows.2.outcome
        · exact ih grows.2 (count + 1)
  | stuck state =>
      simp only [Task.await]
      repeat' split
      all_goals exact List.prefix_rfl

end Grows

/-! ## Where waiting ends -/

/-- How waiting for a task ends for someone who never gives up. -/
def patientEnding : Option α → Ending α
  | some value => .finished value
  | none => .waiting

/-- At a suspension, the time limit has run out or the task has been aborted. -/
def Patience.Strikes (patience : Patience σ) (count : Nat) (state : σ) : Prop :=
  (patience.limited = true ∧ patience.expired count = true) ∨ patience.aborted count state = true

/-- A task is waited for to its outcome or left in one of its suspensions. -/
theorem await_cases (patience : Patience σ) (count : Nat) (task : Task σ α) :
    task.await patience count = (task.outcome.1, patientEnding task.outcome.2) ∨
      ∃ state ∈ task.suspensions, task.await patience count = (state, .timedOut) ∨
        task.await patience count = (state, .aborted) := by
  induction task generalizing count with
  | done => exact .inl rfl
  | suspended state rest ih =>
      have here : state ∈ (Task.suspended state rest).suspensions := List.mem_cons_self
      simp only [Task.await]
      split
      · exact .inr ⟨state, here, .inl rfl⟩
      · split
        · exact .inr ⟨state, here, .inr rfl⟩
        · rcases ih (count + 1) with same | ⟨later, member, left⟩
          · exact .inl same
          · exact .inr ⟨later, List.mem_cons_of_mem _ member, left⟩
  | stuck state =>
      have here : state ∈ (Task.stuck state : Task σ α).suspensions := List.mem_cons_self
      simp only [Task.await]
      split
      · exact .inr ⟨state, here, .inl rfl⟩
      · split
        · exact .inr ⟨state, here, .inr rfl⟩
        · split
          · exact .inr ⟨state, here, .inl rfl⟩
          · exact .inl rfl

/-- A task is waited for to its outcome if nothing happens while it is suspended. A time limit does
happen to a task that is stuck. -/
theorem await_of_unstruck {patience : Patience σ} {count : Nat} {task : Task σ α}
    (unstruck : ∀ index state, task.suspensions[index]? = some state →
      ¬ patience.Strikes (count + index) state)
    (unlimited : patience.limited = true → task.outcome.2.isSome = true) :
    task.await patience count = (task.outcome.1, patientEnding task.outcome.2) := by
  induction task generalizing count with
  | done => rfl
  | suspended state rest ih =>
      have here := unstruck 0 state rfl
      simp only [Patience.Strikes, Nat.add_zero, not_or, not_and, Bool.not_eq_true] at here
      -- What is left of the task counts its suspensions from the next number on.
      have later : ∀ index state, rest.suspensions[index]? = some state →
          ¬ patience.Strikes (count + 1 + index) state := by
        intro index state found
        have passed := unstruck (index + 1) state found
        rwa [Nat.add_right_comm, Nat.add_assoc count index 1]
      rw [Task.await, if_neg (by simpa using here.1), if_neg (by simp [here.2])]
      exact ih later unlimited
  | stuck state =>
      have here := unstruck 0 state rfl
      simp only [Patience.Strikes, Nat.add_zero, not_or, not_and, Bool.not_eq_true] at here
      have endless : patience.limited = false := by
        refine Bool.eq_false_iff.mpr fun limited => ?_
        cases unlimited limited
      simp [Task.await, here.2, endless, Task.outcome, patientEnding]

end Task

/-! ## Evaluations and walks only go on -/

/-- From every state on, an action makes a log grow. -/
def Action.Grows (log : σ → List ε) (action : Action σ α) : Prop :=
  ∀ start, (action start).Grows log start

theorem Action.grows_composable (log : σ → List ε) :
    Action.Composable fun α (action : Action σ α) => action.Grows log where
  yields _ _ := List.prefix_rfl
  fails _ _ _ := List.prefix_rfl
  sequence grows later start := by
    refine (grows start).bind fun state result => ?_
    cases result with
    | ok value => exact later value state
    | error failure => exact List.prefix_rfl

/-- What has passed between expressions and host so far. -/
def Machine.log (machine : Machine σ) : List HostEvent :=
  machine.history.toList

def Walk.log (walk : Walk σ) : List HostEvent :=
  walk.machine.log

/-- The question stands in the history while the host answers, and then the answer behind it. -/
theorem Machine.invoke_grows (host : Host σ) (site : Expression) (function : Nat)
    (arguments : List Value) : (invoke host site function arguments).Grows log := by
  intro machine
  rw [invoke_eq]
  have asked : machine.log <+: (machine.asking site function arguments machine.world).log := by
    simp only [log, history_asking, List.prefix_append]
  have unseen : ∀ world, (machine.asking site function arguments world).log =
      (machine.asking site function arguments machine.world).log := fun _ => rfl
  have answering := (Task.grows_of_constant _ machine.world
    (host.call function arguments machine.world)).mapState unseen asked
  refine answering.bind fun during reply => ?_
  change during.log <+: (during.record (.answered reply)).log
  simp only [log, record, Array.toList_push, List.prefix_append]

theorem Machine.writePlace_grows (implicit : Bool) (place : Place) (value : Value) (span : Span) :
    (writePlace implicit place value span : Action (Machine σ) Unit).Grows log := by
  intro machine
  rw [writePlace_eq]
  cases place.write implicit value machine.scope with
  | ok scope => exact List.prefix_rfl
  | error cause => exact List.prefix_rfl

theorem Machine.grows_composable (host : Host σ) (implicit : Bool) :
    Machine.Composable host implicit fun _ action => action.Grows log where
  toComposable := Action.grows_composable log
  looks held machine := held machine.scope machine
  calls := invoke_grows host
  writes := writePlace_grows implicit

theorem Walk.grows_composable (host : Host σ) (implicit : Bool) :
    Walk.Composable host implicit (fun _ action => action.Grows Machine.log)
      fun _ action => action.Grows Walk.log where
  toComposable := Action.grows_composable _
  machine := Machine.grows_composable host implicit
  evaluating grows walk := by
    have held : ∀ machine : Machine σ, Walk.log { walk with machine } = machine.log := fun _ => rfl
    exact (grows walk.machine).mapState held List.prefix_rfl
  operates operation span walk := by
    rw [perform_eq]
    exact List.prefix_rfl
  opens bindings body grows walk := by
    -- To enter or leave a block changes the variables only.
    refine Task.Grows.bind ?_ fun state result => List.prefix_rfl
    exact (grows _).after List.prefix_rfl

theorem Template.compile_grows (settings : Settings) (registry : Registry) (host : Host σ)
    (now : Int) (template : Template) (scope : Scope) (world : σ) :
    (template.compile settings registry host now scope world).Grows Machine.log
      (Machine.starting settings registry now scope world) := by
  have walks := template.walk_composed (Walk.grows_composable host settings.implicitDeclarations)
  have walked : (template.walk host settings.implicitDeclarations >>= fun _ => Walk.finish).Grows
      Walk.log :=
    (Action.grows_composable _).sequence walks fun _ _ => List.prefix_rfl
  have held : ∀ walk : Walk σ, Machine.log walk.machine = walk.log := fun _ => rfl
  exact (walked (Walk.starting settings registry now scope world)).mapState held List.prefix_rfl

/-! ## Compilations -/

namespace Template

/-- What is seen of a compilation when waiting for it has ended. -/
def concluded (settings : Settings) :
    Task.Ending (Except Failure (List Message)) → Option (Except Failure (List Message))
  | .finished result => some result
  | .timedOut =>
      some (cancelled ("timed out after " ++ toString (settings.timeout.getD 0).toNat ++ "ms"))
  | .aborted => some (cancelled "aborted")
  | .waiting => none

def Interruption.patience (interruption : Interruption σ) (settings : Settings) :
    Task.Patience (Machine σ) where
  limited := settings.timeout.isSome
  expired := interruption.expired
  aborted count machine := interruption.aborted count machine.world

def Interruption.never : Interruption σ :=
  ⟨false, fun _ => false, fun _ _ => false⟩

variable {settings : Settings} {registry : Registry} {host : Host σ} {now : Int}
  {interruption : Interruption σ} {template : Template} {scope : Scope} {world : σ}

private theorem compileWithin_of_started (started : interruption.abortedAtStart = false) :
    template.compileWithin settings registry host now interruption scope world =
      ((template.compile settings registry host now scope world).await
        (interruption.patience settings) 0).map id (concluded settings) := by
  simp only [compileWithin, started, Bool.false_eq_true, if_false, Interruption.patience]
  generalize Task.Patience.mk settings.timeout.isSome interruption.expired
    (fun count (machine : Machine σ) => interruption.aborted count machine.world) = patience
  generalize Task.await patience 0 _ = waited
  obtain ⟨machine, ending⟩ := waited
  cases ending with
  | finished result => rfl
  | timedOut => rfl
  | aborted => rfl
  | waiting => rfl

private theorem concluded_patientEnding (settings : Settings)
    (result? : Option (Except Failure (List Message))) :
    concluded settings (Task.patientEnding result?) = result? := by
  cases result? with
  | none => rfl
  | some result => rfl

theorem compileWithin_never (settings : Settings) (registry : Registry) (host : Host σ) (now : Int)
    (template : Template) (scope : Scope) (world : σ) :
    template.compileWithin { settings with timeout := none } registry host now .never scope world =
      (template.compile settings registry host now scope world).outcome := by
  have unstruck : ∀ (count : Nat) (machine : Machine σ),
      ¬ (Interruption.never.patience { settings with timeout := none }).Strikes count machine := by
    rintro count machine (⟨limited, -⟩ | aborted)
    · cases limited
    · cases aborted
  have waited : (template.compile settings registry host now scope world).await
      (Interruption.never.patience { settings with timeout := none }) 0 = _ :=
    Task.await_of_unstruck (fun index machine _ => unstruck (0 + index) machine) nofun
  rw [compileWithin_of_started rfl]
  refine (congrArg (Prod.map id (concluded _)) waited).trans ?_
  rw [Prod.map, concluded_patientEnding]
  rfl

/-- A compilation that is cut off was either not changed by that or is cancelled. What it asked the
host before is the beginning of what it asks when it is left alone. -/
theorem cut_off_keeps_results (settings : Settings) (registry : Registry) (host : Host σ)
    (now : Int) (interruption : Interruption σ) (template : Template) (scope : Scope) (world : σ) :
    let task := template.compile settings registry host now scope world
    let free := template.compileWithin { settings with timeout := none } registry host now .never
      scope world
    let run := template.compileWithin settings registry host now interruption scope world
    (run = free ∨ (∃ reason, run.2 = some (cancelled reason)) ∧
      (interruption.abortedAtStart = true ∨ run.1 ∈ task.suspensions)) ∧
    run.1.history.toList <+: free.1.history.toList ∧
    (interruption.abortedAtStart = false →
      (∀ count machine, task.suspensions[count]? = some machine →
        ¬ (interruption.patience settings).Strikes count machine) →
      (settings.timeout.isSome = true → free.2.isSome = true) → run = free) ∧
    (interruption.abortedAtStart = true →
      run.2 = some (cancelled "aborted") ∧ run.1.history = #[]) := by
  intro task free run
  have uncut : free = task.outcome :=
    compileWithin_never settings registry host now template scope world
  cases start : interruption.abortedAtStart with
  | true =>
      have cut : run = (⟨scope, world, #[]⟩, some (cancelled "aborted")) := by
        simp only [run, compileWithin, start, if_true]
      rw [cut]
      exact ⟨.inr ⟨⟨_, rfl⟩, .inl rfl⟩, List.nil_prefix, nofun, fun _ => ⟨rfl, rfl⟩⟩
  | false =>
      -- Once started, the compilation is a task that is waited for, so all is said of waiting.
      have waited : run =
          (task.await (interruption.patience settings) 0).map id (concluded settings) :=
        compileWithin_of_started start
      have whole : task.await (interruption.patience settings) 0 =
          (task.outcome.1, Task.patientEnding task.outcome.2) → run = free := by
        intro ended
        rw [waited, ended, uncut, Prod.map, concluded_patientEnding]
        rfl
      refine ⟨?_, ?_, fun _ unstruck unlimited => ?_, nofun⟩
      · rcases task.await_cases (interruption.patience settings) 0 with
          ended | ⟨machine, member, left | left⟩
        · exact .inl (whole ended)
        · rw [waited, left]
          exact .inr ⟨⟨_, rfl⟩, .inr member⟩
        · rw [waited, left]
          exact .inr ⟨⟨_, rfl⟩, .inr member⟩
      · rw [waited, uncut]
        exact (compile_grows settings registry host now template scope world).await _ 0
      · refine whole (Task.await_of_unstruck (fun count machine found => ?_) fun limited => ?_)
        · rw [Nat.zero_add]
          exact unstruck count machine found
        · rw [uncut] at unlimited
          exact unlimited limited

/-- A host that is suspended twice before it answers. -/
def pausing : Host Nat :=
  ⟨fun _ _ world => .suspended world (.suspended (world + 1) (.done (world + 2) (.ok .null)))⟩

def pause : Template :=
  .interpolation (.call (.identifier "pause" {}) [] false {}) {}

def paused (interruption : Interruption Nat) :
    Machine Nat × Option (Except Failure (List Message)) :=
  pause.compileWithin {} ⟨.ofEntries [("pause", 0)]⟩ pausing 0 interruption Scope.empty 0

theorem pause_keeps_results :
    (paused ⟨false, fun _ => false, fun count _ => decide (1 ≤ count)⟩).2 =
        some (cancelled "aborted") ∧
      (paused ⟨false, fun _ => false, fun count _ => decide (1 ≤ count)⟩).1.history.toList <+:
        (paused .never).1.history.toList ∧
      paused ⟨false, fun _ => false, fun count _ => decide (2 ≤ count)⟩ = paused .never ∧
      (paused ⟨true, fun _ => false, fun _ _ => false⟩).2 = some (cancelled "aborted") := by
  have keeps (interruption : Interruption Nat) :=
    cut_off_keeps_results {} ⟨.ofEntries [("pause", 0)]⟩ pausing 0 interruption pause Scope.empty 0
  refine ⟨rfl, (keeps _).2.1, (keeps _).2.2.1 rfl ?_ nofun, ((keeps _).2.2.2 rfl).1⟩
  rintro count machine found (⟨limited, -⟩ | aborted)
  · cases limited
  · have twice : (pause.compile {} ⟨.ofEntries [("pause", 0)]⟩ pausing 0 Scope.empty
        0).suspensions.length = 2 := rfl
    have inside := (List.getElem?_eq_some_iff.mp found).1
    have late : 2 ≤ count := of_decide_eq_true aborted
    omega

end Template

end ChatTemplate
