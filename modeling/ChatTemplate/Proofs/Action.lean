import ChatTemplate.Proofs.Contract

/-!
Laws of actions. An action keeps a promise when every state that it can be seen in, or that it ends
in, stands in a given relation to the state that it was started in. One action leads another when
their tasks go hand in hand from states that are alike. Both notions pass through sequencing, so
that they have to be shown for the primitive actions only.
-/

set_option autoImplicit false

namespace ChatTemplate

variable {σ τ ρ α β : Type}

/-! ## Promises -/

/-- Relations between the state that an action is started in and the states that follow: those that
it is suspended in, that it ends in with a value, and that it fails in. -/
structure Promise (σ : Type) where
  seen : σ → σ → Prop
  kept : σ → σ → Prop
  failed : σ → σ → Prop
  refl : ∀ state, kept state state
  stop : ∀ state, failed state state
  trans : ∀ {first second third}, kept first second → kept second third → kept first third
  trans_seen : ∀ {first second third}, kept first second → seen second third → seen first third
  trans_failed :
    ∀ {first second third}, kept first second → failed second third → failed first third

namespace Promise

def ends (promise : Promise σ) (start state : σ) : Except Failure α → Prop
  | .ok _ => promise.kept start state
  | .error _ => promise.failed start state

/-- The promise of one relation for every moment. -/
def ofPreorder (relation : σ → σ → Prop) (refl : ∀ state, relation state state)
    (trans : ∀ {first second third},
      relation first second → relation second third → relation first third) : Promise σ where
  seen := relation
  kept := relation
  failed := relation
  refl := refl
  stop := refl
  trans := trans
  trans_seen := trans
  trans_failed := trans

/-- The promise of one relation for the end of an action. -/
def ofEnds (relation : σ → σ → Prop) (refl : ∀ state, relation state state)
    (trans : ∀ {first second third},
      relation first second → relation second third → relation first third) : Promise σ where
  seen := fun _ _ => True
  kept := relation
  failed := relation
  refl := refl
  stop := refl
  trans := trans
  trans_seen := fun _ _ => trivial
  trans_failed := trans

def nothing : Promise σ :=
  .ofPreorder (fun _ _ => True) (fun _ => trivial) fun _ _ => trivial

/-- A promise as a contract: an action may fail for any reason. -/
def toContract (promise : Promise σ) : Contract σ where
  seen := promise.seen
  kept := promise.kept
  failed start state _ := promise.failed start state
  refl := promise.refl
  trans := promise.trans
  trans_seen := promise.trans_seen
  trans_failed := promise.trans_failed

end Promise

namespace Action

/-- From a state, an action goes through states as promised. -/
def KeepsFrom (promise : Promise σ) (action : Action σ α) (start : σ) : Prop :=
  (action start).Always (promise.seen start) (promise.ends start)

/-- An action keeps a promise if it does so from every state. -/
def Keeps (promise : Promise σ) (action : Action σ α) : Prop :=
  ∀ start, action.KeepsFrom promise start

section Keeps

variable {promise : Promise σ}

theorem keeps_iff_meets {action : Action σ α} :
    action.Keeps promise ↔ action.Meets promise.toContract :=
  Iff.rfl

theorem keeps_nothing (action : Action σ α) : action.Keeps .nothing := by
  intro start
  refine (Task.always_true _).imp (fun _ seen => seen) ?_
  intro state result _
  cases result with
  | ok => trivial
  | error => trivial

/-- An action on a part of the state keeps what it keeps of the part, seen in the whole. -/
theorem Keeps.focus {inner : Promise ρ} {action : Action ρ α} {part : σ → ρ}
    {replace : σ → ρ → σ} (keeps : action.Keeps inner)
    (seen : ∀ state after, inner.seen (part state) after → promise.seen state (replace state after))
    (kept : ∀ state after, inner.kept (part state) after → promise.kept state (replace state after))
    (failed : ∀ state after, inner.failed (part state) after →
      promise.failed state (replace state after)) :
    (action.focus part replace).Keeps promise := by
  have meets := keeps_iff_meets.mp keeps
  exact keeps_iff_meets.mpr (meets.focus seen kept fun state after _ => failed state after)

/-- An action that is entered and left through changes of the state. How a state is left may depend
on the state before it was entered. -/
theorem Keeps.around {action : Action σ α} {enter : σ → σ} {leave : σ → σ → σ}
    (keeps : action.Keeps promise)
    (seen : ∀ outer state, promise.seen (enter outer) state → promise.seen outer state)
    (kept : ∀ outer state, promise.kept (enter outer) state →
      promise.kept outer (leave outer state))
    (failed : ∀ outer state, promise.failed (enter outer) state →
      promise.failed outer (leave outer state)) :
    Keeps promise fun outer => action.ensuring (leave outer) (enter outer) := by
  have meets := keeps_iff_meets.mp keeps
  exact keeps_iff_meets.mpr (meets.around seen kept fun outer state _ => failed outer state)

theorem Keeps.ended {action : Action σ α} (keeps : action.Keeps promise) {start final : σ}
    {result : Except Failure α} (ended : (action start).outcome = (final, some result)) :
    promise.ends start final result :=
  (keeps start).outcome ended

end Keeps

/-! ## Ends of actions -/

theorem outcome_pure_ok {start final : σ} {value given : α}
    (ended : ((pure value : Action σ α) start).outcome = (final, some (.ok given))) :
    final = start ∧ given = value := by
  cases ended
  exact ⟨rfl, rfl⟩

theorem outcome_located_ok {span : Span} {result : Except Cause α} {start final : σ} {value : α}
    (ended : (located span result start).outcome = (final, some (.ok value))) :
    final = start ∧ result = .ok value := by
  cases result with
  | ok given =>
      cases ended
      exact ⟨rfl, rfl⟩
  | error cause => cases ended

/-- A sequence that ends with a value has passed through the end of its first part. -/
theorem outcome_bind_ok {first : Action σ α} {next : α → Action σ β} {start final : σ} {value : β}
    (ended : ((first >>= next) start).outcome = (final, some (.ok value))) :
    ∃ middle given, (first start).outcome = (middle, some (.ok given)) ∧
      (next given middle).outcome = (final, some (.ok value)) := by
  change ((first start).bind _).outcome = _ at ended
  rw [Task.outcome_bind] at ended
  split at ended
  · rename_i middle result same
    cases result with
    | ok given => exact ⟨middle, given, same, ended⟩
    | error failure => cases ended
  · cases ended

end Action

/-! ## Leading and following -/

/-- How the states of two actions belong together: which are alike, in which the second action may
quit and why, and which of the first action's states are later than that. -/
structure Pairing (σ τ : Type) where
  alike : σ → τ → Prop
  quit : τ → Failure → Prop
  later : τ → σ → Prop

namespace Pairing

variable (pairing : Pairing σ τ)

/-- The actions end with the same result and in states that are alike. -/
def agree (state : σ) (result : Except Failure α) (state' : τ) (result' : Except Failure α) :
    Prop :=
  pairing.alike state state' ∧ result = result'

/-- The second action quits, and what is left of the first passes through later states only. -/
def quits (rest : Task σ (Except Failure α)) (state' : τ) (result' : Except Failure β) : Prop :=
  ∃ failure, result' = .error failure ∧ pairing.quit state' failure ∧
    rest.Always (pairing.later state') fun state _ => pairing.later state' state

end Pairing

namespace Action

variable {pairing : Pairing σ τ}

/-- From states that are alike the second action does what the first does until it may quit. The
first action never gets back behind a state in which the second has quitted. -/
structure Leads (pairing : Pairing σ τ) (action : Action σ α) (action' : Action τ α) : Prop where
  along : ∀ state state', pairing.alike state state' →
    Task.Leads pairing.alike pairing.agree pairing.quits (action state) (action' state')
  lasting : ∀ state' state, pairing.later state' state →
    (action state).Always (pairing.later state') fun state _ => pairing.later state' state

theorem leads_pure (value : α) :
    Leads pairing (pure value : Action σ α) (pure value : Action τ α) where
  along _ _ same := .done ⟨same, rfl⟩
  lasting _ _ later := later

theorem leads_failAt (span : Span) (cause : Cause) :
    Leads pairing (failAt span cause : Action σ α) (failAt span cause : Action τ α) where
  along _ _ same := .done ⟨same, rfl⟩
  lasting _ _ later := later

/-- A result that is known and the same on both sides lets the actions go on with its value. -/
theorem leads_located {result : Except Cause α} {span : Span} {next : α → Action σ β}
    {next' : α → Action τ β}
    (leads : ∀ value, result = .ok value → Leads pairing (next value) (next' value)) :
    Leads pairing (located span result >>= next) (located span result >>= next') := by
  cases result with
  | ok value => exact leads value rfl
  | error cause => exact leads_failAt span cause

theorem Leads.bind {first : Action σ α} {first' : Action τ α} {next : α → Action σ β}
    {next' : α → Action τ β} (leads : Leads pairing first first')
    (after : ∀ value, Leads pairing (next value) (next' value)) :
    Leads pairing (first >>= next) (first' >>= next') where
  along state state' same := by
    refine (leads.along state state' same).bind ?_ ?_
    · rintro state result state' _ ⟨same, rfl⟩
      cases result with
      | ok value => exact (after value).along state state' same
      | error failure => exact .done ⟨same, rfl⟩
    · rintro rest state' _ ⟨failure, rfl, quit, later⟩
      refine .quit ⟨failure, rfl, quit, later.bind ?_⟩
      intro state result later
      cases result with
      | ok value => exact (after value).lasting state' state later
      | error failure => exact later
  lasting state' state later := by
    refine (leads.lasting state' state later).bind ?_
    intro state result later
    cases result with
    | ok value => exact (after value).lasting state' state later
    | error failure => exact later

theorem Leads.forEach {items : List α} {action : α → Action σ Unit} {action' : α → Action τ Unit}
    (leads : ∀ item, Leads pairing (action item) (action' item)) :
    Leads pairing (forEach items action) (forEach items action') := by
  induction items with
  | nil => exact leads_pure ()
  | cons item rest ih => exact (leads item).bind fun _ => ih

/-- The same action on parts that are equal wherever the wholes are alike. -/
theorem leads_focus {action : Action ρ α} {part : σ → ρ} {replace : σ → ρ → σ} {part' : τ → ρ}
    {replace' : τ → ρ → τ}
    (parts : ∀ state state', pairing.alike state state' → part state = part' state')
    (replaced : ∀ state state' after, pairing.alike state state' →
      pairing.alike (replace state after) (replace' state' after))
    (lasting : ∀ state' state, pairing.later state' state →
      (action (part state)).Always (fun after => pairing.later state' (replace state after))
        fun after _ => pairing.later state' (replace state after)) :
    Leads pairing (action.focus part replace) (action.focus part' replace') where
  along state state' same := by
    have leads := Task.leads_self (action (part state))
    unfold focus
    rw [← parts state state' same]
    refine leads.mapState ?_ ?_ ?_
    · rintro after _ rfl
      exact replaced state state' after same
    · rintro after result _ _ ⟨rfl, rfl⟩
      exact ⟨replaced state state' after same, rfl⟩
    · rintro _ _ _ ⟨⟩
  lasting state' state later :=
    (lasting state' state later).mapState (fun _ seen => seen) fun _ _ ends => ends

theorem Leads.ensuring {action : Action σ α} {action' : Action τ α} {change : σ → σ}
    {change' : τ → τ} (leads : Leads pairing action action')
    (changed : ∀ state state', pairing.alike state state' →
      pairing.alike (change state) (change' state'))
    (quitted : ∀ state' failure, pairing.quit state' failure →
      pairing.quit (change' state') failure)
    (later : ∀ state' state, pairing.later state' state →
      pairing.later state' (change state))
    (earlier : ∀ state' state, pairing.later state' state →
      pairing.later (change' state') state) :
    Leads pairing (action.ensuring change) (action'.ensuring change') where
  along state state' same := by
    refine (leads.along state state' same).bind ?_ ?_
    · rintro state result state' _ ⟨same, rfl⟩
      exact .done ⟨changed state state' same, rfl⟩
    · rintro rest state' _ ⟨failure, rfl, quit, lasting⟩
      refine .quit ⟨failure, rfl, quitted state' failure quit, ?_⟩
      refine (lasting.imp (fun state => earlier state' state)
        fun state _ => earlier state' state).bind ?_
      intro state _ lasting
      exact later (change' state') state lasting
  lasting state' state laters := by
    refine (leads.lasting state' state laters).bind ?_
    intro state _ laters
    exact later state' state laters

theorem Leads.around {action : Action σ α} {action' : Action τ α} {enter : σ → σ} {enter' : τ → τ}
    {leave : σ → σ → σ} {leave' : τ → τ → τ} (leads : Leads pairing action action')
    (entered : ∀ state state', pairing.alike state state' →
      pairing.alike (enter state) (enter' state'))
    (left : ∀ outer outer', pairing.alike outer outer' → ∀ state state',
      pairing.alike state state' → pairing.alike (leave outer state) (leave' outer' state'))
    (quitted : ∀ outer' state' failure, pairing.quit state' failure →
      pairing.quit (leave' outer' state') failure)
    (enteredLater : ∀ state' state, pairing.later state' state → pairing.later state' (enter state))
    (leftLater : ∀ outer state' state, pairing.later state' state →
      pairing.later state' (leave outer state))
    (leftEarlier : ∀ outer' state' state, pairing.later state' state →
      pairing.later (leave' outer' state') state) :
    Leads pairing (fun state => action.ensuring (leave state) (enter state))
      (fun state' => action'.ensuring (leave' state') (enter' state')) where
  along outer outer' same := by
    have ensured : Leads pairing (action.ensuring (leave outer)) (action'.ensuring (leave' outer')) :=
      leads.ensuring (left outer outer' same) (quitted outer') (leftLater outer) (leftEarlier outer')
    exact ensured.along (enter outer) (enter' outer') (entered outer outer' same)
  lasting state' outer later := by
    refine (leads.lasting state' (enter outer) (enteredLater state' outer later)).bind ?_
    intro state _ later
    exact leftLater outer state' state later

end Action

end ChatTemplate
