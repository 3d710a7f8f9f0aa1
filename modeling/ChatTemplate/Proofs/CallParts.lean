import ChatTemplate.Proofs.CallOrder

/-!
The parts of an evaluation. An expression is evaluated by evaluating parts of it in order, each in
the machine that the evaluation has then come to, if it comes to the part at all. The calls of the
whole are the calls of the parts and, behind them, perhaps the call that the expression itself is.
So the calls of a part, however deep, stand among the calls of the whole where its nodes stand in
the order of the whole, and what the part leaves out is left out of the whole.
-/

set_option autoImplicit false

namespace ChatTemplate

variable {σ α β ε : Type}

namespace Action

/-- The state behind an action, if it is started and ends with a value that the evaluation goes on
with. -/
def past (action : Action σ α) (goesOn : α → Bool) (start? : Option σ) : Option σ :=
  start?.bind fun start =>
    match (action start).outcome with
    | (middle, some (.ok value)) => if goesOn value then some middle else none
    | _ => none

private theorem sequel_append (action : Action σ α) (early late : α → σ → List ε) (start : σ) :
    action.sequel (fun value middle => early value middle ++ late value middle) start =
      action.sequel early start ++ action.sequel late start := by
  unfold sequel
  split
  · rfl
  · rfl

private theorem sequel_bind (first : Action σ α) (next : α → Action σ β) (late : β → σ → List ε)
    (start : σ) :
    (first >>= next).sequel late start =
      first.sequel (fun value middle => (next value).sequel late middle) start := by
  have passed : ((first >>= next) start).outcome = _ := Task.outcome_bind (first start) _
  unfold sequel
  rw [passed]
  rcases (first start).outcome with ⟨middle, _ | _ | value⟩
  · rfl
  · rfl
  · rfl

end Action

namespace Expression

section Parts

variable (host : Host σ) (implicit : Bool)

/-- The place that an assignment with a target writes to. -/
def place (target : Expression) : Action (Machine σ) Place := do
  let root ← Action.located target.span (target.targetRoot.mapError .invalidAssignment)
  let path ← pathOf host implicit target
  pure ⟨root, path⟩

/-- The value that an assignment finds at its target. -/
def current (target : Expression) (span : Span) : Action (Machine σ) Value := do
  let place ← place host implicit target
  Machine.readPlace place span

def valueParts :
    List Expression → Option (Machine σ) → List (Expression × Option (Machine σ))
  | [], _ => []
  | expression :: rest, start? =>
      (expression, start?) ::
        valueParts rest ((expression.evaluate host implicit).past (fun _ => true) start?)

def entryParts :
    List Property → Option (Machine σ) → List (Expression × Option (Machine σ))
  | [], _ => []
  | .mk key value computed :: rest, start? =>
      let named := (key.entryKey computed (key.evaluate host implicit)).past (fun _ => true) start?
      (if computed then [(key, start?)] else []) ++ (value, named) ::
        entryParts rest ((value.evaluate host implicit).past (fun _ => true) named)

def keyParts : Expression → Option (Machine σ) → List (Expression × Option (Machine σ))
  | .member owner property computed _ _, start? =>
      keyParts owner start? ++
        if computed then [(property, (pathOf host implicit owner).past (fun _ => true) start?)]
        else []
  | _, _ => []

/-- The parts that an expression is evaluated by, with the machines that they are evaluated from.
-/
def parts : Expression → Option (Machine σ) → List (Expression × Option (Machine σ))
  | .literal _ _, _ => []
  | .identifier _ _, _ => []
  | .object properties _, start? => entryParts host implicit properties start?
  | .array elements _, start? => valueParts host implicit elements start?
  | .sequence expressions _, start? => valueParts host implicit expressions start?
  | .logical operator left right _, start? =>
      [(left, start?), (right, (left.evaluate host implicit).past
        (fun value => !operator.shortCircuits value) start?)]
  | .binary _ left right _, start? =>
      [(left, start?), (right, (left.evaluate host implicit).past (fun _ => true) start?)]
  | .unary _ argument _, start? => [(argument, start?)]
  | .assignment operator target value span, start? =>
      keyParts host implicit target
          ((Action.located target.span (target.targetRoot.mapError Cause.invalidAssignment)).past
            (fun _ => true) start?) ++
        [(value, match operator with
          | .plain => (place host implicit target).past (fun _ => true) start?
          | .arithmetic _ => (current host implicit target span).past (fun _ => true) start?
          | .logical operator => (current host implicit target span).past
              (fun value => !operator.shortCircuits value) start?)]
  | .update _ _ target _, start? =>
      keyParts host implicit target
        ((Action.located target.span (target.targetRoot.mapError Cause.invalidAssignment)).past
          (fun _ => true) start?)
  | .member owner property computed optional _, start? =>
      (owner, start?) ::
        if computed then
          [(property, (link host implicit owner).past (fun container? =>
            container?.any fun container => !(optional && container.isNull)) start?)]
        else []
  | .conditional test consequent alternate _, start? =>
      [(test, start?),
        (consequent, (test.evaluate host implicit).past (fun value => value.isTrue) start?),
        (alternate, (test.evaluate host implicit).past (fun value => !value.isTrue) start?)]
  | .call callee arguments _ _, start? =>
      (callee, start?) :: valueParts host implicit arguments
        ((link host implicit callee).past (fun function? => function?.any Value.isFunction) start?)
  | .chain inner _, start? => [(inner, start?)]

/-- The calls that an expression comes to make, if its evaluation is started at all. -/
def callsFrom (deeds : Machine σ → List (Deed σ)) (start? : Option (Machine σ)) :
    List Expression :=
  start?.elim [] fun start => Deed.calls (deeds start)

private theorem callsFrom_append (early late : Machine σ → List (Deed σ))
    (start? : Option (Machine σ)) :
    callsFrom (fun machine => early machine ++ late machine) start? =
      callsFrom early start? ++ callsFrom late start? := by
  cases start? with
  | none => rfl
  | some start => exact Deed.calls_append (early start) (late start)

private theorem callsFrom_sequel {action : Action (Machine σ) α}
    {next : α → Machine σ → List (Deed σ)} (goesOn : α → Bool) (after : Machine σ → List (Deed σ))
    (on : ∀ value, goesOn value = true → ∀ middle,
      Deed.calls (next value middle) = Deed.calls (after middle))
    (off : ∀ value, goesOn value = false → ∀ middle, Deed.calls (next value middle) = [])
    (start? : Option (Machine σ)) :
    callsFrom (action.sequel next) start? = callsFrom after (action.past goesOn start?) := by
  cases start? with
  | none => rfl
  | some start =>
      show Deed.calls (action.sequel next start) = callsFrom after (action.past goesOn (some start))
      unfold Action.sequel Action.past
      dsimp only [Option.bind_some]
      rcases (action start).outcome with ⟨middle, _ | _ | value⟩
      · rfl
      · rfl
      · dsimp only
        split
        · rename_i goes
          exact on value goes middle
        · rename_i stays
          exact off value (by simpa using stays) middle

private theorem callsFrom_followed {action : Action (Machine σ) α}
    {next : α → Machine σ → List (Deed σ)} (after : Machine σ → List (Deed σ))
    (same : ∀ value middle, Deed.calls (next value middle) = Deed.calls (after middle))
    (start? : Option (Machine σ)) :
    callsFrom (action.sequel next) start? =
      callsFrom after (action.past (fun _ => true) start?) :=
  callsFrom_sequel _ after (fun value _ => same value)
    (fun _ never => Bool.noConfusion never) start?

private theorem callsFrom_always {action : Action (Machine σ) α} {after : Machine σ → List (Deed σ)}
    (start? : Option (Machine σ)) :
    callsFrom (action.sequel fun _ => after) start? =
      callsFrom after (action.past (fun _ => true) start?) :=
  callsFrom_followed after (fun _ _ => rfl) start?

private theorem callsFrom_nil (start? : Option (Machine σ)) :
    callsFrom (fun _ => []) start? = [] := by
  cases start? with
  | none => rfl
  | some => rfl

def partCalls (found : List (Expression × Option (Machine σ))) : List Expression :=
  found.flatMap fun part => callsFrom (part.1.deeds host implicit) part.2

private theorem partCalls_cons (part : Expression) (from? : Option (Machine σ))
    (rest : List (Expression × Option (Machine σ))) :
    partCalls host implicit ((part, from?) :: rest) =
      callsFrom (part.deeds host implicit) from? ++ partCalls host implicit rest :=
  List.flatMap_cons

private theorem partCalls_append (early late : List (Expression × Option (Machine σ))) :
    partCalls host implicit (early ++ late) =
      partCalls host implicit early ++ partCalls host implicit late :=
  List.flatMap_append

private theorem callsFrom_if (computed : Bool) (key : Expression) (start? : Option (Machine σ)) :
    callsFrom (fun machine => if computed then key.deeds host implicit machine else []) start? =
      partCalls host implicit (if computed then [(key, start?)] else []) := by
  cases computed with
  | false => exact callsFrom_nil start?
  | true => exact (List.append_nil _).symm

private theorem callsFrom_values (expressions : List Expression) (start? : Option (Machine σ)) :
    callsFrom (valuesDeeds host implicit expressions) start? =
      partCalls host implicit (valueParts host implicit expressions start?) := by
  induction expressions generalizing start? with
  | nil => exact callsFrom_nil start?
  | cons expression rest ih =>
      rw [valueParts, partCalls_cons, ← ih, ← callsFrom_always]
      exact callsFrom_append _ _ start?

private theorem callsFrom_entries (properties : List Property) (start? : Option (Machine σ)) :
    callsFrom (entriesDeeds host implicit properties) start? =
      partCalls host implicit (entryParts host implicit properties start?) := by
  induction properties generalizing start? with
  | nil => exact callsFrom_nil start?
  | cons property rest ih =>
      obtain ⟨key, value, computed⟩ := property
      refine (callsFrom_append
        (fun machine => if computed then key.deeds host implicit machine else [])
        ((key.entryKey computed (key.evaluate host implicit)).sequel fun _ machine =>
          value.deeds host implicit machine ++ (value.evaluate host implicit).sequel
            (fun _ => entriesDeeds host implicit rest) machine) start?).trans ?_
      rw [callsFrom_always, callsFrom_append, callsFrom_always, callsFrom_if, ih, entryParts,
        partCalls_append, partCalls_cons]

private theorem callsFrom_keys (target : Expression) (start? : Option (Machine σ)) :
    callsFrom (keysDeeds host implicit target) start? =
      partCalls host implicit (keyParts host implicit target start?) := by
  fun_induction keyParts host implicit target start? with
  | case1 owner property computed optional place start? ih =>
      refine (callsFrom_append (keysDeeds host implicit owner)
        ((pathOf host implicit owner).sequel fun _ machine =>
          if computed then property.deeds host implicit machine else []) start?).trans ?_
      rw [callsFrom_always, callsFrom_if, ih, partCalls_append]
  | case2 target start? other =>
      have none : keysDeeds host implicit target = fun _ => [] := by
        funext machine
        exact keysDeeds.eq_2 host implicit target machine other
      rw [none]
      exact callsFrom_nil start?

private theorem callsFrom_place (target : Expression) (late : Place → Machine σ → List (Deed σ))
    (start? : Option (Machine σ)) :
    callsFrom ((Action.located target.span
        (target.targetRoot.mapError Cause.invalidAssignment)).sequel fun root machine =>
          keysDeeds host implicit target machine ++
            (pathOf host implicit target).sequel (fun path => late ⟨root, path⟩) machine) start? =
      partCalls host implicit (keyParts host implicit target
          ((Action.located target.span (target.targetRoot.mapError Cause.invalidAssignment)).past
            (fun _ => true) start?)) ++
        callsFrom ((place host implicit target).sequel late) start? := by
  have apart : (place host implicit target).sequel late =
      (Action.located target.span (target.targetRoot.mapError Cause.invalidAssignment)).sequel
        fun root => (pathOf host implicit target).sequel fun path => late ⟨root, path⟩ := by
    funext machine
    refine (Action.sequel_bind _ _ late machine).trans ?_
    congr 1
    funext root reached
    exact Action.sequel_bind _ _ late reached
  rw [apart, ← callsFrom_keys, ← callsFrom_always, ← callsFrom_append]
  congr 1
  funext machine
  exact Action.sequel_append _ _ _ machine

private theorem order_valueParts (expressions : List Expression) (start? : Option (Machine σ)) :
    (valueParts host implicit expressions start?).flatMap (fun part => part.1.order) =
      valuesOrder expressions := by
  induction expressions generalizing start? with
  | nil => rfl
  | cons expression rest ih => rw [valueParts, List.flatMap_cons, ih, valuesOrder]

private theorem order_entryParts (properties : List Property) (start? : Option (Machine σ)) :
    (entryParts host implicit properties start?).flatMap (fun part => part.1.order) =
      entriesOrder properties := by
  induction properties generalizing start? with
  | nil => rfl
  | cons property rest ih =>
      obtain ⟨key, value, computed⟩ := property
      rw [entryParts, List.flatMap_append, List.flatMap_cons, ih, entriesOrder]
      cases computed with
      | false => rfl
      | true => simp

private theorem order_keyParts (target : Expression) (start? : Option (Machine σ)) :
    (keyParts host implicit target start?).flatMap (fun part => part.1.order) =
      target.keysOrder := by
  fun_induction keyParts host implicit target start? with
  | case1 owner property computed optional place start? ih =>
      rw [List.flatMap_append, ih, keysOrder]
      cases computed with
      | false => rfl
      | true => simp
  | case2 target start? other => exact (keysOrder.eq_2 target other).symm

private theorem calls_append_quiet {early : List (Deed σ)} {action : Action (Machine σ) α}
    {next : α → Machine σ → List (Deed σ)}
    (quiet : ∀ value middle, Deed.calls (next value middle) = []) (start : Machine σ) :
    Deed.calls (early ++ action.sequel next start) = Deed.calls early := by
  rw [Deed.calls_append, calls_sequel_nil quiet start, List.append_nil]

private theorem sequel_current (target : Expression) (span : Span)
    (late : Value → Machine σ → List (Deed σ)) :
    ((place host implicit target).sequel fun place => (Machine.readPlace place span).sequel late) =
      (current host implicit target span).sequel late := by
  funext machine
  exact (Action.sequel_bind _ _ late machine).symm

private theorem calls_assignment (operator : AssignmentOperator) (target value : Expression)
    (span : Span) (start? : Option (Machine σ)) :
    callsFrom ((assignment operator target value span).deeds host implicit) start? =
      partCalls host implicit
        (parts host implicit (assignment operator target value span) start?) := by
  -- What the deeds are behind the keys is unfolded once for each kind of operator.
  have unfolded : ∀ late : Place → Machine σ → List (Deed σ),
      (∀ machine, (assignment operator target value span).deeds host implicit machine =
        (Action.located target.span (target.targetRoot.mapError Cause.invalidAssignment)).sequel
          (fun root machine => keysDeeds host implicit target machine ++
            (pathOf host implicit target).sequel (fun path => late ⟨root, path⟩) machine) machine) →
        callsFrom ((assignment operator target value span).deeds host implicit) start? =
          partCalls host implicit (keyParts host implicit target
            ((Action.located target.span
              (target.targetRoot.mapError Cause.invalidAssignment)).past (fun _ => true) start?)) ++
            callsFrom ((place host implicit target).sequel late) start? := by
    intro late same
    rw [funext same]
    exact callsFrom_place host implicit target late start?
  cases operator with
  | plain =>
      let late (machine : Machine σ) : List (Deed σ) :=
        value.deeds host implicit machine ++ (value.evaluate host implicit).sequel
          (fun _ machine => [⟨.assignment .plain target value span, machine⟩]) machine
      rw [unfolded (fun _ => late) fun machine => by rw [deeds],
        callsFrom_followed (value.deeds host implicit)]
      · simp [parts, partCalls]
      · exact fun _ middle => calls_append_quiet (fun _ _ => rfl) middle
  | arithmetic operator =>
      let late (current : Value) (machine : Machine σ) : List (Deed σ) :=
        value.deeds host implicit machine ++ (value.evaluate host implicit).sequel
          (fun operand machine =>
            (Action.located span (Value.arithmetic operator current operand)).sequel
              (fun _ machine =>
                [⟨.assignment (.arithmetic operator) target value span, machine⟩]) machine) machine
      rw [unfolded (fun place => (Machine.readPlace place span).sequel late)
        fun machine => by rw [deeds], sequel_current, callsFrom_followed (value.deeds host implicit)]
      · simp [parts, partCalls]
      · intro current middle
        exact calls_append_quiet (fun _ after => calls_sequel_nil (fun _ _ => rfl) after) middle
  | logical operator =>
      let late (current : Value) (machine : Machine σ) : List (Deed σ) :=
        if operator.shortCircuits current then []
        else
          value.deeds host implicit machine ++ (value.evaluate host implicit).sequel
            (fun _ machine => [⟨.assignment (.logical operator) target value span, machine⟩])
              machine
      rw [unfolded (fun place => (Machine.readPlace place span).sequel late)
        fun machine => by rw [deeds], sequel_current,
        callsFrom_sequel (fun value => !operator.shortCircuits value) (value.deeds host implicit)]
      · simp [parts, partCalls]
      · intro current goes middle
        dsimp only [late]
        rw [if_neg (by simpa using goes)]
        exact calls_append_quiet (fun _ _ => rfl) middle
      · intro current stays middle
        dsimp only [late]
        rw [if_pos (by simpa using stays)]
        rfl

private theorem calls_update (operator : UpdateOperator) (prefixed : Bool) (target : Expression)
    (span : Span) (start? : Option (Machine σ)) :
    callsFrom ((update operator prefixed target span).deeds host implicit) start? =
      partCalls host implicit
        (parts host implicit (update operator prefixed target span) start?) := by
  refine (callsFrom_place host implicit target (fun place =>
    (Machine.readPlace place span).sequel fun current machine =>
      (Action.located span current.toNumber).sequel
        (fun _ machine => [⟨.update operator prefixed target span, machine⟩]) machine)
    start?).trans ?_
  rw [sequel_current, callsFrom_followed fun _ => []]
  · rw [callsFrom_nil, List.append_nil, parts]
  · exact fun _ middle => calls_sequel_nil (fun _ _ => rfl) middle

private theorem calls_member (owner property : Expression) (computed optional : Bool) (span : Span)
    (start? : Option (Machine σ)) :
    callsFrom ((member owner property computed optional span).deeds host implicit) start? =
      partCalls host implicit
        (parts host implicit (member owner property computed optional span) start?) := by
  refine (callsFrom_append (owner.deeds host implicit) _ start?).trans ?_
  rw [callsFrom_sequel (fun container? : Option Value =>
      container?.any fun container => !(optional && container.isNull))
    fun machine => if computed then property.deeds host implicit machine else []]
  · rw [callsFrom_if, parts, partCalls_cons]
  · rintro (_ | container) goes middle
    · cases goes
    · have present : (optional && container.isNull) = false := by
        simpa only [Option.any_some, Bool.not_eq_true'] using goes
      dsimp only
      rw [present, if_neg Bool.false_ne_true]
  · rintro (_ | container) stays middle
    · rfl
    · dsimp only
      rw [if_pos (by simpa using stays)]
      rfl

private theorem calls_conditional (test consequent alternate : Expression) (span : Span)
    (start? : Option (Machine σ)) :
    callsFrom ((conditional test consequent alternate span).deeds host implicit) start? =
      partCalls host implicit
        (parts host implicit (conditional test consequent alternate span) start?) := by
  have apart : (fun (value : Value) (machine : Machine σ) =>
      if value.isTrue then consequent.deeds host implicit machine
      else alternate.deeds host implicit machine) = fun value machine =>
        (if value.isTrue then consequent.deeds host implicit machine else []) ++
          if value.isTrue then [] else alternate.deeds host implicit machine := by
    funext value machine
    cases value.isTrue with
    | false => rfl
    | true => exact (List.append_nil _).symm
  have branched : callsFrom ((test.evaluate host implicit).sequel fun value machine =>
      if value.isTrue then consequent.deeds host implicit machine
      else alternate.deeds host implicit machine) start? =
        callsFrom (consequent.deeds host implicit)
            ((test.evaluate host implicit).past (fun value => value.isTrue) start?) ++
          callsFrom (alternate.deeds host implicit)
            ((test.evaluate host implicit).past (fun value => !value.isTrue) start?) := by
    rw [apart, funext (Action.sequel_append _ _ _), callsFrom_append,
      callsFrom_sequel (fun value => value.isTrue) (consequent.deeds host implicit),
      callsFrom_sequel (fun value => !value.isTrue) (alternate.deeds host implicit)]
    · intro value goes middle
      rw [if_neg (by simpa using goes)]
    · intro value stays middle
      rw [if_pos (by simpa using stays)]
      rfl
    · intro value goes middle
      rw [if_pos goes]
    · intro value stays middle
      rw [if_neg (by simp [stays])]
      rfl
  refine (callsFrom_append (test.deeds host implicit) _ start?).trans ?_
  rw [branched]
  simp [parts, partCalls]

private theorem calls_call (callee : Expression) (arguments : List Expression) (optional : Bool)
    (span : Span) (start? : Option (Machine σ)) :
    callsFrom ((call callee arguments optional span).deeds host implicit) start? =
      partCalls host implicit
          (parts host implicit (call callee arguments optional span) start?) ++
        callsFrom ((valuesOf host implicit arguments).sequel fun _ machine =>
            [⟨.call callee arguments optional span, machine⟩])
          ((link host implicit callee).past (fun function? => function?.any Value.isFunction)
            start?) := by
  refine (callsFrom_append (callee.deeds host implicit) _ start?).trans ?_
  rw [callsFrom_sequel (fun function? : Option Value => function?.any Value.isFunction)
    fun machine => valuesDeeds host implicit arguments machine ++
      (valuesOf host implicit arguments).sequel (fun _ machine =>
        [⟨.call callee arguments optional span, machine⟩]) machine]
  · rw [callsFrom_append, callsFrom_values, parts, partCalls_cons, List.append_assoc]
  · rintro (_ | function) goes middle
    · cases goes
    · cases function with
      | function reference =>
          have present : (optional && (Value.function reference).isNull) = false :=
            Bool.and_false optional
          dsimp only
          rw [present, if_neg Bool.false_ne_true]
      | _ => cases goes
  · rintro (_ | function) stays middle
    · rfl
    · cases function with
      | function reference => cases stays
      | _ =>
          dsimp only
          split
          · rfl
          · rfl

/-- The calls of an expression are those of its parts, and so is their order, but for the call that
the expression itself may be, which is the last one. -/
theorem calls_of_parts (expression : Expression) (start? : Option (Machine σ)) :
    ∃ own ownOrder : List Expression, own.Sublist ownOrder ∧
      callsFrom (expression.deeds host implicit) start? =
        partCalls host implicit (parts host implicit expression start?) ++ own ∧
      expression.order =
        ((parts host implicit expression start?).flatMap fun part => part.1.order) ++ ownOrder := by
  cases expression with
  | literal value span => exact ⟨[], [], List.Sublist.refl [], callsFrom_nil start?, rfl⟩
  | identifier name span => exact ⟨[], [], List.Sublist.refl [], callsFrom_nil start?, rfl⟩
  | object properties span =>
      refine ⟨[], [], List.Sublist.refl [], ?_, ?_⟩
      · rw [parts, ← callsFrom_entries, List.append_nil]
        rfl
      · rw [parts, order_entryParts, List.append_nil, order]
  | array elements span =>
      refine ⟨[], [], List.Sublist.refl [], ?_, ?_⟩
      · rw [parts, ← callsFrom_values, List.append_nil]
        rfl
      · rw [parts, order_valueParts, List.append_nil, order]
  | sequence elements span =>
      refine ⟨[], [], List.Sublist.refl [], ?_, ?_⟩
      · rw [parts, ← callsFrom_values, List.append_nil]
        rfl
      · rw [parts, order_valueParts, List.append_nil, order]
  | logical operator left right span =>
      refine ⟨[], [], List.Sublist.refl [], ?_, by simp [parts, order]⟩
      refine (callsFrom_append (left.deeds host implicit) _ start?).trans ?_
      rw [callsFrom_sequel (fun value => !operator.shortCircuits value) (right.deeds host implicit)]
      · simp [parts, partCalls]
      · intro value goes middle
        simp_all
      · intro value stays middle
        simp_all
  | binary operator left right span =>
      refine ⟨[], [], List.Sublist.refl [], ?_, by simp [parts, order]⟩
      refine (callsFrom_append (left.deeds host implicit) _ start?).trans ?_
      rw [callsFrom_always]
      simp [parts, partCalls]
  | unary operator argument span =>
      refine ⟨[], [], List.Sublist.refl [], ?_, by simp [parts, order]⟩
      simp only [parts, partCalls, List.flatMap_cons, List.flatMap_nil, List.append_nil]
      rfl
  | assignment operator target value span =>
      refine ⟨[], [], List.Sublist.refl [], ?_, ?_⟩
      · rw [calls_assignment, List.append_nil]
      · cases operator with
        | _ => simp [parts, order, order_keyParts]
  | update operator prefixed target span =>
      refine ⟨[], [], List.Sublist.refl [], ?_, ?_⟩
      · rw [calls_update, List.append_nil]
      · rw [parts, order_keyParts, List.append_nil, order]
  | member owner property computed optional span =>
      refine ⟨[], [], List.Sublist.refl [], ?_, ?_⟩
      · rw [calls_member, List.append_nil]
      · cases computed with
        | _ => simp [parts, order]
  | conditional test consequent alternate span =>
      refine ⟨[], [], List.Sublist.refl [], ?_, by simp [parts, order]⟩
      rw [calls_conditional, List.append_nil]
  | call callee arguments optional span =>
      refine ⟨_, [.call callee arguments optional span], ?_,
        calls_call host implicit callee arguments optional span start?, ?_⟩
      · rcases (link host implicit callee).past _ start? with _ | start
        · exact List.nil_sublist _
        · refine calls_sequel_sublist (fun _ machine => ?_) start
          exact List.Sublist.refl [Expression.call callee arguments optional span]
      · simp [parts, order, order_valueParts]
  | chain inner span =>
      refine ⟨[], [], List.Sublist.refl [], ?_, by simp [parts, order]⟩
      simp only [parts, partCalls, List.flatMap_cons, List.flatMap_nil, List.append_nil]
      rfl

end Parts

/-! ## Parts, however deep -/

/-- The calls of a part stand among the calls of the whole where its nodes stand in the order of
the whole. -/
def Inlaid (calls order part partOrder : List Expression) : Prop :=
  ∃ before after early late, calls = before ++ part ++ after ∧
    order = early ++ partOrder ++ late ∧ before.Sublist early ∧ after.Sublist late

theorem Inlaid.around {calls order part partOrder : List Expression}
    (inlaid : Inlaid calls order part partOrder) {first firstOrder last lastOrder : List Expression}
    (before : first.Sublist firstOrder) (after : last.Sublist lastOrder) :
    Inlaid (first ++ calls ++ last) (firstOrder ++ order ++ lastOrder) part partOrder := by
  obtain ⟨earlier, later, early, late, rfl, rfl, sublist, sublist'⟩ := inlaid
  exact ⟨first ++ earlier, later ++ last, firstOrder ++ early, late ++ lastOrder, by simp, by simp,
    before.append sublist, sublist'.append after⟩

/-- Where the nodes of a part stand in the order, there are only calls of what is kept of it. -/
def KeepsOnly (calls order part kept : List Expression) : Prop :=
  ∃ early late, order = early ++ part ++ late ∧ calls.Sublist (early ++ kept ++ late)

theorem Inlaid.keepsOnly {calls order part partOrder kept : List Expression}
    (inlaid : Inlaid calls order part partOrder) (within : part.Sublist kept) :
    KeepsOnly calls order partOrder kept := by
  obtain ⟨before, after, early, late, rfl, same, sublist, sublist'⟩ := inlaid
  exact ⟨early, late, same, (sublist.append within).append sublist'⟩

/-- A part of an expression, however deep, with the machine that it is evaluated from when the
evaluation of the whole is started somewhere; none where the evaluation does not come to it. -/
inductive Occurs (host : Host σ) (implicit : Bool) (part : Expression)
    (from? : Option (Machine σ)) : Expression → Option (Machine σ) → Prop where
  | self : Occurs host implicit part from? part from?
  | inside {whole child : Expression} {start? middle? : Option (Machine σ)}
      (member : (child, middle?) ∈ parts host implicit whole start?)
      (deeper : Occurs host implicit part from? child middle?) :
      Occurs host implicit part from? whole start?

section Occurs

variable (host : Host σ) (implicit : Bool)

private theorem callsFrom_sublist (expression : Expression) (start? : Option (Machine σ)) :
    (callsFrom (expression.deeds host implicit) start?).Sublist expression.order := by
  cases start? with
  | none => exact List.nil_sublist _
  | some start => exact deeds_sublist host implicit expression start

private theorem partCalls_sublist (found : List (Expression × Option (Machine σ))) :
    (partCalls host implicit found).Sublist (found.flatMap fun part => part.1.order) := by
  induction found with
  | nil => exact List.nil_sublist _
  | cons part rest ih => exact (callsFrom_sublist host implicit part.1 part.2).append ih

variable {host implicit}

private theorem inlaid_part {whole part : Expression} {start? from? : Option (Machine σ)}
    (member : (part, from?) ∈ parts host implicit whole start?) :
    Inlaid (callsFrom (whole.deeds host implicit) start?) whole.order
      (callsFrom (part.deeds host implicit) from?) part.order := by
  obtain ⟨own, ownOrder, sublist, calls, order⟩ := calls_of_parts host implicit whole start?
  obtain ⟨early, late, split⟩ := List.append_of_mem member
  rw [split, partCalls_append, partCalls_cons] at calls
  rw [split, List.flatMap_append, List.flatMap_cons] at order
  refine ⟨_, _, _, _, ?_, ?_, partCalls_sublist host implicit early,
    (partCalls_sublist host implicit late).append sublist⟩
  · simpa using calls
  · simpa using order

theorem Occurs.inlaid {whole part : Expression} {start? from? : Option (Machine σ)}
    (occurs : Occurs host implicit part from? whole start?) :
    Inlaid (callsFrom (whole.deeds host implicit) start?) whole.order
      (callsFrom (part.deeds host implicit) from?) part.order := by
  induction occurs with
  | self => exact ⟨[], [], [], [], by simp⟩
  | inside member _ ih =>
      obtain ⟨before, after, early, late, calls, order, sublist, sublist'⟩ := inlaid_part member
      rw [calls, order]
      exact ih.around sublist sublist'

private theorem logical_sublist {operator : LogicalOperator} {left right : Expression} {span : Span}
    {machine middle : Machine σ} {value : Value}
    (ended : (left.evaluate host implicit machine).outcome = (middle, some (.ok value)))
    (short : operator.shortCircuits value = true) :
    (callsFrom ((logical operator left right span).deeds host implicit) (some machine)).Sublist
      left.order := by
  show (Deed.calls (deeds host implicit (logical operator left right span) machine)).Sublist _
  rw [deeds, Deed.calls_append, Action.sequel_of_ok ended, if_pos short, Deed.calls_nil,
    List.append_nil]
  exact deeds_sublist host implicit left machine

private theorem logicalAssignment_sublist {operator : LogicalOperator} {target value : Expression}
    {span : Span} {machine middle : Machine σ} {found : Value}
    (ended : (target.current host implicit span machine).outcome = (middle, some (.ok found)))
    (short : operator.shortCircuits found = true) :
    (callsFrom ((assignment (.logical operator) target value span).deeds host implicit)
      (some machine)).Sublist target.keysOrder := by
  have left : (target.current host implicit span).past
      (fun value => !operator.shortCircuits value) (some machine) = none := by
    simp [Action.past, ended, short]
  let rooted := (Action.located target.span
    (target.targetRoot.mapError Cause.invalidAssignment)).past (fun _ => true) (some machine)
  have keys := partCalls_sublist host implicit (keyParts host implicit target rooted)
  rw [order_keyParts] at keys
  rw [calls_assignment]
  simp only [parts, left, partCalls_append]
  show (partCalls host implicit (keyParts host implicit target rooted) ++ []).Sublist _
  rwa [List.append_nil]

private theorem conditional_sublist (test consequent alternate : Expression) (span : Span)
    (start? : Option (Machine σ)) :
    (callsFrom ((conditional test consequent alternate span).deeds host implicit) start?).Sublist
        (test.order ++ consequent.order) ∨
      (callsFrom ((conditional test consequent alternate span).deeds host implicit) start?).Sublist
        (test.order ++ alternate.order) := by
  cases start? with
  | none => exact .inl (List.nil_sublist _)
  | some machine =>
      have testCalls := deeds_sublist host implicit test machine
      simp only [callsFrom, Option.elim_some, deeds, Deed.calls_append]
      rcases Action.sequel_eq_nil_or (test.evaluate host implicit) (fun value machine =>
        if value.isTrue then consequent.deeds host implicit machine
        else alternate.deeds host implicit machine) machine with none | ⟨middle, value, -, same⟩
      · rw [none]
        exact .inl (testCalls.append (List.nil_sublist _))
      · rw [same]
        split
        · exact .inl (testCalls.append (deeds_sublist host implicit consequent middle))
        · exact .inr (testCalls.append (deeds_sublist host implicit alternate middle))

/-- Calls are made in order, each at most once and only where the evaluation comes to them. -/
theorem calls_in_order (host : Host σ) (implicit : Bool) (expression : Expression)
    (start : Machine σ) :
    (expression.evaluate host implicit start).Always
        (fun during => ∃ made, made <+: expression.calls host implicit start ∧
          during.sites = start.sites ++ made)
        (fun final _ => final.sites = start.sites ++ expression.calls host implicit start) ∧
      (expression.calls host implicit start).Sublist expression.order ∧
      (∀ final value, expression.nodes.all isStraight = true →
        (expression.evaluate host implicit start).outcome = (final, some (.ok value)) →
          expression.calls host implicit start = expression.order) ∧
      (∀ operator left right span machine middle value,
        Occurs host implicit (.logical operator left right span) (some machine) expression
            (some start) →
          (left.evaluate host implicit machine).outcome = (middle, some (.ok value)) →
            operator.shortCircuits value = true →
              KeepsOnly (expression.calls host implicit start) expression.order
                (left.order ++ right.order) left.order) ∧
      (∀ operator target value span machine middle found,
        Occurs host implicit (.assignment (.logical operator) target value span) (some machine)
            expression (some start) →
          (target.current host implicit span machine).outcome = (middle, some (.ok found)) →
            operator.shortCircuits found = true →
              KeepsOnly (expression.calls host implicit start) expression.order
                (target.keysOrder ++ value.order) target.keysOrder) ∧
      ∀ test consequent alternate span from?,
        Occurs host implicit (.conditional test consequent alternate span) from? expression
            (some start) →
          KeepsOnly (expression.calls host implicit start) expression.order
              (test.order ++ (consequent.order ++ alternate.order))
              (test.order ++ consequent.order) ∨
            KeepsOnly (expression.calls host implicit start) expression.order
              (test.order ++ (consequent.order ++ alternate.order))
              (test.order ++ alternate.order) := by
  refine ⟨expression.evaluate_makes_calls host implicit start,
    deeds_sublist host implicit expression start, ?_, ?_, ?_, ?_⟩
  · intro final value straight ended
    exact evaluate_calls_all expression straight ended
  · intro operator left right span machine middle value occurs ended short
    have inlaid := occurs.inlaid
    rw [order] at inlaid
    exact inlaid.keepsOnly (logical_sublist ended short)
  · intro operator target value span machine middle found occurs ended short
    have inlaid := occurs.inlaid
    rw [order] at inlaid
    exact inlaid.keepsOnly (logicalAssignment_sublist ended short)
  · intro test consequent alternate span from? occurs
    have inlaid := occurs.inlaid
    rw [order] at inlaid
    rcases conditional_sublist test consequent alternate span from? with taken | taken
    · exact .inl (inlaid.keepsOnly taken)
    · exact .inr (inlaid.keepsOnly taken)

end Occurs

def ask (name : String) : Expression := .call (.identifier name {}) [] false {}

/-- A machine with two functions and a variable that is null. -/
def asking : Machine Unit :=
  ⟨.ofBindings [("first", .function 0), ("second", .function 1), ("known", .null)], (), #[]⟩

def conjunction : Expression := .array [.logical .and (ask "first") (ask "second") {}] {}

def defaulting : Expression :=
  .array [.assignment (.logical .and) (.identifier "known" {}) (ask "second") {}] {}

def choosing : Expression :=
  .array [.conditional (.identifier "known" {}) (ask "first") (ask "second") {}] {}

def both : Expression := .array [ask "first", ask "second"] {}

theorem asked_calls_in_order :
    both.calls Host.silent false asking = both.order ∧
      KeepsOnly (conjunction.calls Host.silent false asking) conjunction.order
        ((ask "first").order ++ (ask "second").order) (ask "first").order ∧
      KeepsOnly (defaulting.calls Host.silent false asking) defaulting.order
        ((Expression.identifier "known" {}).keysOrder ++ (ask "second").order)
        (Expression.identifier "known" {}).keysOrder ∧
      (KeepsOnly (choosing.calls Host.silent false asking) choosing.order
          ([] ++ ((ask "first").order ++ (ask "second").order)) ([] ++ (ask "first").order) ∨
        KeepsOnly (choosing.calls Host.silent false asking) choosing.order
          ([] ++ ((ask "first").order ++ (ask "second").order)) ([] ++ (ask "second").order)) := by
  refine ⟨?_, ?_, ?_, ?_⟩
  · exact (calls_in_order Host.silent false both asking).2.2.1 _ _ rfl rfl
  · exact (calls_in_order Host.silent false conjunction asking).2.2.2.1 .and (ask "first")
      (ask "second") {} asking _ .null (.inside (List.Mem.head _) .self) rfl rfl
  · exact (calls_in_order Host.silent false defaulting asking).2.2.2.2.1 .and
      (.identifier "known" {}) (ask "second") {} asking _ .null
      (.inside (List.Mem.head _) .self) rfl rfl
  · exact (calls_in_order Host.silent false choosing asking).2.2.2.2.2 (.identifier "known" {})
      (ask "first") (ask "second") {} _ (.inside (List.Mem.head _) .self)

end Expression

end ChatTemplate
