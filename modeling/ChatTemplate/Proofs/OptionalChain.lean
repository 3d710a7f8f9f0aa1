import ChatTemplate.Proofs.Views

/-!
Optional chains. From a member or call the links of its chain lead down through owners and callees
to the first expression of another kind. A chain has no value exactly if one of its optional links
meets null below it, and then all that is evaluated is what stands below that link. If none does,
the chain is evaluated as if no link were optional. A chain expression ends the chain: what has no
value inside is null outside.
-/

set_option autoImplicit false

namespace ChatTemplate

variable {σ : Type}

namespace Expression

/-! ## The links of a chain -/

/-- What a member is taken from or what is called. -/
def below? : Expression → Option Expression
  | .member owner _ _ _ _ => some owner
  | .call callee _ _ _ => some callee
  | _ => none

def isOptional : Expression → Bool
  | .member _ _ _ optional _ | .call _ _ optional _ => optional
  | _ => false

/-- The links of a chain from the top down, and the expression that they start from. -/
def spine : Expression → List Expression
  | .member owner property computed optional span =>
      .member owner property computed optional span :: spine owner
  | .call callee arguments optional span => .call callee arguments optional span :: spine callee
  | other => [other]

/-- The chain with no link optional. -/
def required : Expression → Expression
  | .member owner property computed _ span => .member owner.required property computed false span
  | .call callee arguments _ span => .call callee.required arguments false span
  | other => other

private theorem spine_of_end {last : Expression} (ends : last.below? = none) :
    last.spine = [last] ∧ last.isOptional = false ∧ last.required = last := by
  cases last with
  | member => cases ends
  | call => cases ends
  | _ => exact ⟨rfl, rfl, rfl⟩

private theorem spine_of_below {node below : Expression} (found : node.below? = some below) :
    node.spine = node :: below.spine ∧ node.required.below? = some below.required ∧
      node.required.isOptional = false := by
  cases node with
  | member =>
      cases found
      exact ⟨rfl, rfl, rfl⟩
  | call =>
      cases found
      exact ⟨rfl, rfl, rfl⟩
  | _ => cases found

/-- Induction from the expression at the end of a chain over its links. -/
theorem spine_induction {motive : Expression → Prop}
    (ends : ∀ last : Expression, last.below? = none → motive last)
    (links : ∀ node below : Expression, node.below? = some below → motive below → motive node) :
    (expression : Expression) → motive expression
  | .member owner _ _ _ _ => links _ owner rfl (spine_induction ends links owner)
  | .call callee _ _ _ => links _ callee rfl (spine_induction ends links callee)
  | .literal .. | .identifier .. | .object .. | .array .. | .sequence .. | .logical .. | .binary ..
  | .unary .. | .assignment .. | .update .. | .conditional .. | .chain .. => ends _ rfl

section Links

variable (host : Host σ) (implicit : Bool)

/-- What a link does with the value below it, if that is not null or the link is not optional. -/
def follow (node : Expression) (value : Value) : Action (Machine σ) (Option Value) :=
  match node with
  | .member _ property computed _ span => do
      let key ← property.memberKey computed (property.evaluate host implicit)
      let inner ← Action.located span (value.member key)
      pure (some inner)
  | .call callee arguments optional span =>
      match value with
      | .function reference => do
          let values ← valuesOf host implicit arguments
          let answer ←
            Machine.invoke host (.call callee arguments optional span) reference values
          pure (some answer)
      | other => .failAt span (.notCallable other.typeName)
  | _ => pure (some value)

/-- What a link does with what is below it. -/
def above (node : Expression) : Option Value → Action (Machine σ) (Option Value)
  | none => pure none
  | some value =>
      if node.isOptional && value.isNull then pure none else node.follow host implicit value

theorem link_of_below {node below : Expression} (found : node.below? = some below) :
    node.link host implicit = below.link host implicit >>= node.above host implicit := by
  cases node with
  | member owner property computed optional span =>
      cases found
      rw [link]
      congr 1
  | call callee arguments optional span =>
      cases found
      rw [link]
      congr 1
  | _ => cases found

end Links

/-! ## Chains without a value -/

section Values

variable {host : Host σ} {implicit : Bool}

/-- An action that yields a value if it yields anything. -/
def Valued (action : Action (Machine σ) (Option Value)) : Prop :=
  ∀ start final, (action start).outcome ≠ (final, some (.ok none))

private theorem valued_some (value : Value) :
    Valued (pure (some value) : Action (Machine σ) _) := by
  intro start final ended
  cases ended

private theorem valued_failAt (span : Span) (cause : Cause) :
    Valued (.failAt span cause : Action (Machine σ) _) := by
  intro start final ended
  cases ended

private theorem valued_bind {α : Type} {first : Action (Machine σ) α}
    {next : α → Action (Machine σ) (Option Value)} (valued : ∀ value, Valued (next value)) :
    Valued (first >>= next) := by
  intro start final ended
  obtain ⟨middle, value, -, ended⟩ := Action.outcome_bind_ok ended
  exact valued value middle final ended

private theorem valued_follow (node : Expression) (value : Value) :
    Valued (node.follow host implicit value) := by
  unfold follow
  split
  · exact valued_bind fun _ => valued_bind fun _ => valued_some _
  · split
    · exact valued_bind fun _ => valued_bind fun _ => valued_some _
    · exact valued_failAt _ _
  · exact valued_some _

/-- Only members and calls may be without a value. -/
theorem valued_link {last : Expression} (ends : last.below? = none) :
    Valued (last.link host implicit) := by
  cases last with
  | literal => exact valued_some _
  | identifier => exact valued_bind fun _ => valued_bind fun _ => valued_some _
  | object | array | sequence | chain =>
      rw [link]
      exact valued_bind fun _ => valued_some _
  | logical operator left right span =>
      rw [link]
      refine valued_bind fun value => ?_
      split
      · exact valued_some _
      · exact valued_bind fun _ => valued_some _
  | binary =>
      rw [link]
      exact valued_bind fun _ => valued_bind fun _ => valued_bind fun _ => valued_some _
  | unary =>
      rw [link]
      exact valued_bind fun _ => valued_bind fun _ => valued_some _
  | assignment operator target value span =>
      rw [link]
      refine valued_bind fun root => valued_bind fun path => ?_
      cases operator with
      | plain => exact valued_bind fun _ => valued_bind fun _ => valued_some _
      | arithmetic =>
          refine valued_bind fun _ => valued_bind fun _ => valued_bind fun _ => ?_
          exact valued_bind fun _ => valued_some _
      | logical =>
          refine valued_bind fun current => ?_
          split
          · exact valued_some _
          · exact valued_bind fun _ => valued_bind fun _ => valued_some _
  | update =>
      rw [link]
      refine valued_bind fun _ => valued_bind fun _ => valued_bind fun _ => ?_
      exact valued_bind fun _ => valued_bind fun _ => valued_some _
  | conditional =>
      rw [link]
      refine valued_bind fun test => ?_
      dsimp only
      split
      · exact valued_bind fun _ => valued_some _
      · exact valued_bind fun _ => valued_some _
  | member => cases ends
  | call => cases ends

/-- An expression evaluates to null if it yields null or is a chain without a value. -/
theorem evaluate_null_iff {expression : Expression} {start final : Machine σ} :
    (expression.evaluate host implicit start).outcome = (final, some (.ok .null)) ↔
      ∃ value?, (expression.link host implicit start).outcome = (final, some (.ok value?)) ∧
        value?.getD .null = .null := by
  constructor
  · intro ended
    obtain ⟨middle, value?, reached, ended⟩ := Action.outcome_bind_ok ended
    obtain ⟨rfl, same⟩ := Action.outcome_pure_ok ended
    exact ⟨value?, reached, same.symm⟩
  · rintro ⟨value?, reached, null⟩
    refine (Action.outcome_bind_of_ok reached).trans ?_
    rw [null]
    rfl

variable (host implicit)

/-- From a state, an optional link meets null below it. -/
def MeetsNull (start : Machine σ) (node : Expression) : Prop :=
  node.isOptional = true ∧ ∃ below, node.below? = some below ∧
    ∃ final, (below.evaluate host implicit start).outcome = (final, some (.ok .null))

variable {host implicit}

private theorem meetsNull_of_link {start middle : Machine σ} {node below : Expression}
    {value : Value} (found : node.below? = some below)
    (reached : (below.link host implicit start).outcome = (middle, some (.ok (some value))))
    (null : (node.isOptional && value.isNull) = true) : node.MeetsNull host implicit start := by
  obtain ⟨optional, null⟩ := Bool.and_eq_true_iff.mp null
  obtain rfl : value = .null := by
    cases value with
    | null => rfl
    | _ => cases null
  exact ⟨optional, below, found, middle, evaluate_null_iff.mpr ⟨_, reached, rfl⟩⟩

/-- A link that meets null does nothing but evaluate what is below it. -/
theorem MeetsNull.link {start : Machine σ} {node below : Expression}
    (meets : node.MeetsNull host implicit start) (found : node.below? = some below) :
    node.link host implicit start =
      (below.evaluate host implicit >>= fun _ => pure none) start := by
  obtain ⟨optional, _, same, final, ended⟩ := meets
  cases found.symm.trans same
  -- What is below has the value null or none, and the link goes on from neither.
  obtain ⟨value?, reached, null⟩ := evaluate_null_iff.mp ended
  have evaluates : (below.evaluate host implicit >>= fun _ => pure none) =
      below.link host implicit >>= fun _ => (pure none : Action (Machine σ) (Option Value)) :=
    bind_assoc _ _ _
  rw [link_of_below host implicit found, evaluates]
  refine Action.bind_congr_outcome fun final given ended => ?_
  cases reached.symm.trans ended
  cases value? with
  | none => rfl
  | some value =>
      obtain rfl : value = .null := null
      rw [above, optional]
      rfl

/-- A link above a chain without a value does nothing at all. -/
theorem link_of_none {start : Machine σ} {node below : Expression}
    {action : Action (Machine σ) Value} (found : node.below? = some below)
    (same : below.link host implicit start = (action >>= fun _ => pure none) start) :
    node.link host implicit start = (action >>= fun _ => pure none) start := by
  rw [link_of_below host implicit found]
  change (below.link host implicit start).bind _ = _
  rw [same]
  change (((action >>= fun _ => pure none) >>= node.above host implicit) :
    Action (Machine σ) (Option Value)) start = _
  rw [bind_assoc]
  rfl

/-- Where an optional link of a chain meets null, the chain evaluates what is below that link and
nothing else, and has no value. -/
theorem link_of_meetsNull (expression : Expression) {start : Machine σ} {node below : Expression}
    (member : node ∈ expression.spine) (meets : node.MeetsNull host implicit start)
    (found : node.below? = some below) :
    expression.link host implicit start =
      (below.evaluate host implicit >>= fun _ => pure none) start := by
  induction expression using spine_induction with
  | ends last ends =>
      rw [(spine_of_end ends).1, List.mem_singleton] at member
      rw [member, ends] at found
      cases found
  | links upper lower link ih =>
      rw [(spine_of_below link).1] at member
      rcases List.mem_cons.mp member with rfl | member
      · exact meets.link found
      · exact link_of_none link (ih member)

/-- A chain is without a value exactly if one of its optional links meets null. -/
theorem link_none_iff (expression : Expression) {start : Machine σ} :
    (∃ final, (expression.link host implicit start).outcome = (final, some (.ok none))) ↔
      ∃ node ∈ expression.spine, node.MeetsNull host implicit start := by
  constructor
  · rintro ⟨final, ended⟩
    induction expression using spine_induction generalizing final with
    | ends last ends => exact absurd ended (valued_link ends start final)
    | links node below found ih =>
        rw [(spine_of_below found).1]
        rw [link_of_below host implicit found] at ended
        obtain ⟨middle, value?, reached, ended⟩ := Action.outcome_bind_ok ended
        cases value? with
        | none =>
            obtain ⟨lower, member, meets⟩ := ih middle reached
            exact ⟨lower, List.mem_cons_of_mem _ member, meets⟩
        | some value =>
            rw [above] at ended
            split at ended
            · rename_i null
              exact ⟨node, List.mem_cons_self, meetsNull_of_link found reached null⟩
            · exact absurd ended (valued_follow node value middle final)
  · rintro ⟨node, member, meets⟩
    obtain ⟨optional, below, found, final, ended⟩ := meets
    rw [link_of_meetsNull expression member ⟨optional, below, found, final, ended⟩ found]
    exact ⟨final, Action.outcome_bind_of_ok ended⟩

/-- A chain without a value is null wherever it ends, at what is below the link that meets null. -/
theorem evaluate_of_meetsNull {expression : Expression} {start : Machine σ}
    {node below : Expression} (member : node ∈ expression.spine)
    (meets : node.MeetsNull host implicit start) (found : node.below? = some below) :
    expression.evaluate host implicit start = below.evaluate host implicit start := by
  change (expression.link host implicit start).bind _ = _
  rw [link_of_meetsNull expression member meets found]
  obtain ⟨-, _, same, final, null⟩ := meets
  cases found.symm.trans same
  change ((below.evaluate host implicit >>= fun _ => pure none) >>= fun value? : Option Value =>
    pure (value?.getD .null)) start = _
  calc ((below.evaluate host implicit >>= fun _ => pure none) >>= fun value? : Option Value =>
        pure (value?.getD .null)) start
      = (below.evaluate host implicit >>= fun _ => pure .null) start := by
        rw [bind_assoc]
        rfl
    _ = (below.evaluate host implicit >>= pure) start := by
        refine Action.bind_congr_outcome fun final value ended => ?_
        cases null.symm.trans ended
        rfl
    _ = below.evaluate host implicit start := by rw [bind_pure]

end Values

/-! ## Chains in which nothing meets null -/

section Required

variable {host : Host σ} {implicit : Bool}

theorem required_required (expression : Expression) :
    expression.required.required = expression.required := by
  induction expression using spine_induction with
  | ends last ends => rw [(spine_of_end ends).2.2, (spine_of_end ends).2.2]
  | links node below found ih =>
      cases node with
      | member =>
          cases found
          simp only [required, ih]
      | call =>
          cases found
          simp only [required, ih]
      | _ => cases found

/-- Whether the links are optional does not matter for what a link does with a value. -/
theorem follow_required {node below : Expression} (found : node.below? = some below)
    (value : Value) : (node.follow host implicit value).Alike (Machine.viewed required)
      (node.required.follow host implicit value) := by
  have composable := Machine.alike_composable required host implicit
  cases node with
  | member owner property computed optional span =>
      have key := memberKey_composed composable property computed
        (evaluate_composed composable property)
      refine key.bind fun key => ?_
      exact composable.maps (composable.located span _) _
  | call callee arguments optional span =>
      cases value with
      | function reference =>
          have sites : (Expression.call callee arguments optional span).required =
              (Expression.call callee.required arguments false span).required := by
            simp only [required, required_required]
          refine (valuesOf_composed composable arguments).bind fun values => ?_
          refine (Machine.invoke_alike host sites rfl reference values).bind fun answer => ?_
          exact composable.yields _
      | _ => exact composable.fails _ _
  | _ => cases found

/-- If no link meets null, the chain is evaluated as if none were optional; only the call
expressions in the history still show it. -/
theorem link_required (expression : Expression) {start : Machine σ}
    (meets : ∀ node ∈ expression.spine, ¬ node.MeetsNull host implicit start) :
    (expression.link host implicit start).mapState (Machine.viewed required) =
      (expression.required.link host implicit start).mapState (Machine.viewed required) := by
  induction expression using spine_induction with
  | ends last ends => rw [(spine_of_end ends).2.2]
  | links node below found ih =>
      obtain ⟨links, foundRequired, mandatory⟩ := spine_of_below found
      rw [links] at meets
      obtain ⟨here, lower⟩ := List.forall_mem_cons.mp meets
      rw [link_of_below host implicit found, link_of_below host implicit foundRequired]
      refine Action.mapState_bind_congr (ih lower) fun middle middle' value? reached same => ?_
      -- No link further down meets null, so there is a value to follow; and if this link is
      -- optional, the value is not null, since then the link itself would meet null.
      cases value? with
      | none =>
          obtain ⟨node', member, meets⟩ := (link_none_iff below).mp ⟨middle, reached⟩
          exact absurd meets (lower node' member)
      | some value =>
          have passes : (node.isOptional && value.isNull) = false :=
            Bool.eq_false_iff.mpr fun null => here (meetsNull_of_link found reached null)
          simp only [above, passes, mandatory, Bool.false_and, Bool.false_eq_true, if_false]
          exact follow_required found value middle middle' same

end Required

/-! ## Ends of chains -/

section Ends

variable {host : Host σ} {implicit : Bool}

theorem link_chain (inner : Expression) (place : Span) :
    (Expression.chain inner place).link host implicit =
      inner.evaluate host implicit >>= fun value => pure (some value) := by
  rw [link]
  rfl

/-- A link that is not optional is followed with null where a chain below it is null. -/
theorem link_of_null_chain {node inner : Expression} {place : Span} {start final : Machine σ}
    (found : node.below? = some (.chain inner place)) (mandatory : node.isOptional = false)
    (null : (inner.evaluate host implicit start).outcome = (final, some (.ok .null))) :
    node.link host implicit start =
      (inner.evaluate host implicit >>= fun _ => node.follow host implicit .null) start := by
  rw [link_of_below host implicit found, link_chain, bind_assoc]
  refine Action.bind_congr_outcome fun final value ended => ?_
  cases null.symm.trans ended
  change node.above host implicit (some .null) final = _
  rw [above, mandatory]
  rfl

end Ends

/-- Optional chains short-circuit exactly where an optional link meets null, skip all that is above
that link and nothing else, and are null where they end. -/
theorem chains_short_circuit (host : Host σ) (implicit : Bool) (expression : Expression)
    (start : Machine σ) :
    ((∃ final, (expression.link host implicit start).outcome = (final, some (.ok none))) ↔
      ∃ node ∈ expression.spine, node.MeetsNull host implicit start) ∧
    (∀ node ∈ expression.spine, node.MeetsNull host implicit start →
      ∃ below final, node.below? = some below ∧
        (below.evaluate host implicit start).outcome = (final, some (.ok .null)) ∧
        expression.link host implicit start =
          (below.evaluate host implicit >>= fun _ => pure none) start ∧
        expression.evaluate host implicit start = below.evaluate host implicit start ∧
        ∀ place, (Expression.chain expression place).link host implicit start =
          (below.evaluate host implicit >>= fun value => pure (some value)) start) ∧
    ((∀ node ∈ expression.spine, ¬ node.MeetsNull host implicit start) →
      (expression.link host implicit start).mapState (Machine.viewed required) =
          (expression.required.link host implicit start).mapState (Machine.viewed required) ∧
        (expression.evaluate host implicit start).mapState (Machine.viewed required) =
          (expression.required.evaluate host implicit start).mapState (Machine.viewed required)) ∧
    ∀ place final, (expression.evaluate host implicit start).outcome =
        (final, some (.ok .null)) →
      (∀ property computed span,
        (Expression.member (.chain expression place) property computed false span).link
            host implicit start =
          (expression.evaluate host implicit >>= fun _ =>
            property.memberKey computed (property.evaluate host implicit) >>= fun key =>
              .failAt span (.propertyOfNull key.keyText)) start) ∧
      ∀ arguments span,
        (Expression.call (.chain expression place) arguments false span).link host implicit start =
          (expression.evaluate host implicit >>= fun _ =>
            .failAt span (.notCallable "null")) start := by
  refine ⟨link_none_iff expression, ?_, ?_, ?_⟩
  · intro node member meets
    obtain ⟨optional, below, found, final, null⟩ := meets
    have meets : node.MeetsNull host implicit start := ⟨optional, below, found, final, null⟩
    have evaluates := evaluate_of_meetsNull member meets found
    refine ⟨below, final, found, null, link_of_meetsNull expression member meets found, evaluates,
      fun place => ?_⟩
    rw [link_chain]
    change (expression.evaluate host implicit start).bind _ = _
    rw [evaluates]
    rfl
  · intro passes
    have links := link_required expression passes
    refine ⟨links, Action.mapState_bind_congr links fun final final' value? _ same => ?_⟩
    exact congrArg (Task.done · _) same
  · intro place final null
    refine ⟨fun property computed span => ?_, fun arguments span => ?_⟩
    · exact link_of_null_chain rfl rfl null
    · exact link_of_null_chain rfl rfl null

/-- A user's name, if there is a user, whose member is called with an answer of the host. -/
def greetedName : Expression :=
  .call (.member (.member (.identifier "user" {}) (.identifier "name" {}) false true {})
      (.identifier "greet" {}) false false {})
    [.call (.identifier "ask" {}) [] false {}] false ⟨0, 24⟩

def greeting (user : Value) : Machine Unit :=
  ⟨Scope.empty.declare "user" user, (), #[]⟩

theorem greetedName_short_circuits :
    (∃ final, (greetedName.link Host.silent false (greeting .null)).outcome =
        (final, some (.ok none)) ∧ final.history = #[]) ∧
      ((Expression.member (.chain greetedName {}) (.identifier "size" {}) false false ⟨0, 29⟩).link
          Host.silent false (greeting .null)).outcome.2 =
        some (.error ⟨.propertyOfNull "size", some ⟨0, 29⟩⟩) ∧
      (greetedName.link Host.silent false (greeting (.map ∅))).mapState (Machine.viewed required) =
        (greetedName.required.link Host.silent false (greeting (.map ∅))).mapState
          (Machine.viewed required) := by
  have atNull := chains_short_circuit Host.silent false greetedName (greeting .null)
  have atMap := chains_short_circuit Host.silent false greetedName (greeting (.map ∅))
  have meets : (Expression.member (.identifier "user" {}) (.identifier "name" {}) false true
      {}).MeetsNull Host.silent false (greeting .null) := ⟨rfl, _, rfl, greeting .null, rfl⟩
  have member : Expression.member (.identifier "user" {}) (.identifier "name" {}) false true {} ∈
      greetedName.spine := by
    simp [greetedName, spine]
  obtain ⟨below, final, found, null, links, evaluates, -⟩ := atNull.2.1 _ member meets
  cases found
  refine ⟨⟨greeting .null, ?_, rfl⟩, ?_, ?_⟩
  · rw [links]
    rfl
  · rw [(atNull.2.2.2 {} final (evaluates ▸ null)).1]
    rfl
  · refine (atMap.2.2.1 fun node inside => ?_).1
    simp only [greetedName, spine, List.mem_cons, List.not_mem_nil, or_false] at inside
    rcases inside with rfl | rfl | rfl | rfl
    · rintro ⟨optional, -⟩
      cases optional
    · rintro ⟨optional, -⟩
      cases optional
    · rintro ⟨-, below, found, final, null⟩
      cases found
      cases congrArg Prod.snd null
    · rintro ⟨optional, -⟩
      cases optional

end Expression

end ChatTemplate
