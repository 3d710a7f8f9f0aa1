import ChatTemplate.Evaluation.Basic
import ChatTemplate.Proofs.Double.Reading
import ChatTemplate.Proofs.Rendering

/-!
Keys. What stands under a key depends on the text of the key only: a number and its text lead to the
same item, and a key that is written as a literal means the same with and without brackets, as a
number and as a text.
-/

set_option autoImplicit false

namespace ChatTemplate

variable {σ : Type}

/-! ## Texts that are not numbers -/

namespace Value

/-- A text is no decimal if it begins with a character that no decimal begins with. -/
theorem decimal?_of_mark {mark : Char} (rest : List Char) (digit : mark.isDigit = false)
    (other : mark ∉ ['+', '-', '.', 'e', 'E']) : decimal? (mark :: rest) = none := by
  simp only [List.mem_cons, List.not_mem_nil, or_false, not_or] at other
  obtain ⟨plus, minus, point, small, big⟩ := other
  have split : Sign.split (mark :: rest) = (.absent, mark :: rest) := by
    unfold Sign.split
    split
    · rename_i same
      exact absurd (List.cons.inj same).1 plus
    · rename_i same
      exact absurd (List.cons.inj same).1 minus
    · rfl
  have unread : Numeral.readExponent (mark :: rest) = none := by
    simp [Numeral.readExponent, small, big]
  have unread : Numeral.read? (mark :: rest) = none := by
    simp only [Numeral.read?, split, List.takeWhile_cons, List.dropWhile_cons, digit]
    split
    · rename_i same
      exact absurd (List.cons.inj same).1 point
    · exact congrArg (Option.map _) unread
  rw [decimal?, unread]
  rfl

/-- Lists, maps and functions, whose texts begin with a bracket. -/
inductive Bracketed : Value → Prop where
  | list (items : List Value) : Bracketed (.list items)
  | map (entries : Dict Value) : Bracketed (.map entries)
  | function (number : Nat) : Bracketed (.function number)

theorem Bracketed.keyText {key : Value} (bracketed : Bracketed key) :
    ∃ bracket rest, key.keyText = bracket ++ rest ∧ (bracket = "[" ∨ bracket = "\x7b") := by
  cases bracketed with
  | list items => exact ⟨"[", _, String.append_assoc, .inl rfl⟩
  | map entries => exact ⟨"\x7b", _, String.append_assoc, .inr rfl⟩
  | function number => exact ⟨"[", "function]", rfl, .inl rfl⟩

theorem Bracketed.unread {key : Value} (bracketed : Bracketed key) :
    decimal? key.keyText.toList = none ∧ key.keyText ≠ "length" := by
  obtain ⟨bracket, rest, text, known⟩ := bracketed.keyText
  rw [text, String.toList_append]
  constructor
  · rcases known with rfl | rfl
    · exact decimal?_of_mark rest.toList rfl (by decide)
    · exact decimal?_of_mark rest.toList rfl (by decide)
  · intro same
    have chars := congrArg String.toList same
    rw [String.toList_append] at chars
    rcases known with rfl | rfl
    · cases chars
    · cases chars

theorem Bracketed.toIndex?_keyText {key : Value} (bracketed : Bracketed key) :
    (Value.string key.keyText).toIndex? = key.toIndex? := by
  have none : key.toIndex? = none := by
    cases bracketed with
    | list => rfl
    | map => rfl
    | function => rfl
  change (decimal? key.keyText.toList).bind _ = _
  rw [bracketed.unread.1, none]
  rfl

/-! ## Keys and their texts -/

private theorem toIndex?_zero {x : Double} (zero : x.isZero = true) :
    (Value.number x).toIndex? = some 0 := by
  cases x with
  | nan => cases zero
  | infinite negative => cases zero
  | finite negative exponent fraction =>
      have none : (Double.finite negative exponent fraction).magnitude = 0 := beq_iff_eq.mp zero
      have truncated : (Double.finite negative exponent fraction).truncate = 0 := by
        rw [Double.truncate, none, Nat.zero_div]
        split
        · rfl
        · rfl
      rw [toIndex?, Option.bind_some, Double.isWhole, none, truncated]
      rfl

private theorem toIndex?_keyText (key : Value) :
    (Value.string key.keyText).toIndex? = key.toIndex? := by
  cases key with
  | null => rfl
  | boolean value =>
      cases value with
      | true => rfl
      | false => rfl
  | number x =>
      by_cases finite : x.isFinite = true
      · -- The text of a zero has lost its sign, which no index shows.
        change (decimal? (Layout.plain.text x).toList).bind _ = _
        rw [decimal?_text finite]
        split
        · rename_i zero
          rw [toIndex?_zero zero]
          exact toIndex?_zero (x := .zero false) rfl
        · rfl
      · cases x with
        | nan => rfl
        | infinite negative =>
            cases negative with
            | true => rfl
            | false => rfl
        | finite => exact absurd rfl finite
  | string key => rfl
  | list items => exact (Bracketed.list items).toIndex?_keyText
  | map entries => exact (Bracketed.map entries).toIndex?_keyText
  | function number => exact (Bracketed.function number).toIndex?_keyText

/-- Only the text itself names the number of items. -/
theorem isLength_keyText (key : Value) : (Value.string key.keyText).isLength = key.isLength := by
  cases key with
  | null => rfl
  | boolean value =>
      cases value with
      | true => rfl
      | false => rfl
  | number x =>
      by_cases finite : x.isFinite = true
      · -- The text reads back as a number, which "length" does not.
        change (Layout.plain.text x == "length") = false
        rw [beq_eq_false_iff_ne]
        intro same
        have reads := decimal?_text finite
        rw [same] at reads
        cases reads
      · cases x with
        | nan => rfl
        | infinite negative =>
            cases negative with
            | true => rfl
            | false => rfl
        | finite => exact absurd rfl finite
  | string key => rfl
  | list items => exact beq_eq_false_iff_ne.mpr (Bracketed.list items).unread.2
  | map entries => exact beq_eq_false_iff_ne.mpr (Bracketed.map entries).unread.2
  | function number => exact beq_eq_false_iff_ne.mpr (Bracketed.function number).unread.2

/-- Two keys that lead to the same in a value, for every access. -/
structure AccessAlike (container key key' : Value) : Prop where
  reads : container.member key = container.member key'
  finds : container.slot key = container.slot key'
  updates : ∀ change, container.updateMember key change = container.updateMember key' change
  writes : ∀ value, container.setMember key value = container.setMember key' value
  tests : container.hasMember key = container.hasMember key'

private theorem accessAlike_keyText (container key : Value) :
    container.AccessAlike (.string key.keyText) key := by
  have finds : container.slot (.string key.keyText) = container.slot key := by
    unfold slot
    rw [toIndex?_keyText]
    rfl
  have writes : ∀ value, container.setMember (.string key.keyText) value =
      container.setMember key value := by
    intro value
    unfold setMember
    rw [toIndex?_keyText]
    rfl
  refine ⟨?_, finds, fun change => ?_, writes, ?_⟩
  · unfold member
    rw [isLength_keyText, toIndex?_keyText]
    rfl
  · simp only [updateMember, finds, writes]
  · unfold hasMember
    rw [isLength_keyText, toIndex?_keyText]
    rfl

private theorem accessAlike_of_keyText {key key' : Value} (same : key.keyText = key'.keyText)
    (container : Value) : container.AccessAlike key key' := by
  have alike := container.accessAlike_keyText key
  have alike' := container.accessAlike_keyText key'
  rw [same] at alike
  exact {
    reads := alike.reads.symm.trans alike'.reads
    finds := alike.finds.symm.trans alike'.finds
    updates := fun change => (alike.updates change).symm.trans (alike'.updates change)
    writes := fun value => (alike.writes value).symm.trans (alike'.writes value)
    tests := alike.tests.symm.trans alike'.tests }

section Paths

variable {path path' : List Value}

theorem memberAt_congr (same : path.map keyText = path'.map keyText) (container : Value) :
    container.memberAt path = container.memberAt path' := by
  induction path generalizing path' container with
  | nil =>
      rw [List.map_eq_nil_iff.mp same.symm]
  | cons key rest ih =>
      cases path' with
      | nil => cases same
      | cons key' rest' =>
          obtain ⟨keys, others⟩ := List.cons.inj same
          rw [memberAt, memberAt, (accessAlike_of_keyText keys container).reads]
          exact bind_congr (ih others)

theorem setMemberAt_congr (same : path.map keyText = path'.map keyText)
    (container value : Value) :
    container.setMemberAt path value = container.setMemberAt path' value := by
  induction path generalizing path' container with
  | nil => rw [List.map_eq_nil_iff.mp same.symm]
  | cons key rest ih =>
      cases path' with
      | nil => cases same
      | cons key' rest' =>
          obtain ⟨keys, others⟩ := List.cons.inj same
          have alike := accessAlike_of_keyText keys container
          cases rest with
          | nil =>
              rw [List.map_eq_nil_iff.mp others.symm]
              exact alike.writes value
          | cons next further =>
              cases rest' with
              | nil => cases others
              | cons next' further' =>
                  rw [setMemberAt, setMemberAt, alike.updates]
                  · exact congrArg _ (funext fun inner => ih others inner)
                  · exact nofun
                  · exact nofun

end Paths

end Value

namespace Place

variable {path path' : List Value}

private theorem read_congr (same : path.map Value.keyText = path'.map Value.keyText) (root : String)
    (scope : Scope) : (Place.mk root path).read scope = (Place.mk root path').read scope :=
  bind_congr fun value => value.memberAt_congr same

private theorem write_congr (same : path.map Value.keyText = path'.map Value.keyText)
    (root : String) (implicit : Bool) (value : Value) (scope : Scope) :
    (Place.mk root path).write implicit value scope =
      (Place.mk root path').write implicit value scope := by
  have empty : path.isEmpty = path'.isEmpty := by
    have mapped := congrArg List.isEmpty same
    rwa [List.isEmpty_map, List.isEmpty_map] at mapped
  simp only [write, empty, Value.setMemberAt_congr same]

end Place

/-! ## Spellings of keys -/

namespace Expression

/-- The text of a key that is written out: a literal, with or without brackets, or a name without
brackets. -/
def spelledKey? (property : Expression) (computed : Bool) : Option String :=
  match property with
  | .literal value _ => some (Value.ofLiteral value).keyText
  | .identifier name _ => if computed then none else some name
  | _ => none

/-- Two chains of members whose keys are written differently. -/
inductive Respelled : Expression → Expression → Prop where
  | same (expression : Expression) : Respelled expression expression
  | inside {owner owner' : Expression} (owners : Respelled owner owner') (property : Expression)
      (computed optional : Bool) (span : Span) :
      Respelled (.member owner property computed optional span)
        (.member owner' property computed optional span)
  | key {owner owner' property property' : Expression} {computed computed' : Bool} {text : String}
      (owners : Respelled owner owner') (spelled : property.spelledKey? computed = some text)
      (spelled' : property'.spelledKey? computed' = some text) (optional : Bool) (span : Span) :
      Respelled (.member owner property computed optional span)
        (.member owner' property' computed' optional span)

section Respelled

variable {host : Host σ} {implicit : Bool} {target target' : Expression}

private theorem memberKey_of_spelledKey? (host : Host σ) (implicit : Bool) {property : Expression}
    {computed : Bool} {text : String} (spelled : property.spelledKey? computed = some text) :
    ∃ key : Value, key.keyText = text ∧
      property.memberKey computed (property.link host implicit).orNull = pure key := by
  cases property with
  | literal value place =>
      cases spelled
      cases computed with
      | true => exact ⟨Value.ofLiteral value, rfl, by rw [link]; rfl⟩
      | false => exact ⟨.string (Value.ofLiteral value).keyText, rfl, rfl⟩
  | identifier name place =>
      cases computed with
      | true => cases spelled
      | false =>
          cases spelled
          exact ⟨.string _, rfl, rfl⟩
  | _ => cases spelled

theorem Respelled.span_eq (respelled : Respelled target target') : target.span = target'.span := by
  cases respelled with
  | same => rfl
  | inside => rfl
  | key => rfl

theorem Respelled.targetRoot (respelled : Respelled target target') :
    target.targetRoot = target'.targetRoot := by
  induction respelled with
  | same => rfl
  | inside _ _ _ optional _ ih =>
      cases optional with
      | true => rfl
      | false => exact ih
  | key _ _ _ optional _ ih =>
      cases optional with
      | true => rfl
      | false => exact ih

theorem Respelled.link_eq (respelled : Respelled target target') :
    target.link host implicit = target'.link host implicit := by
  induction respelled with
  | same => rfl
  | inside _ property computed optional span ih => rw [link, link, ih]
  | key _ spelled spelled' optional span ih =>
      obtain ⟨key, text, evaluated⟩ := memberKey_of_spelledKey? host implicit spelled
      obtain ⟨key', text', evaluated'⟩ := memberKey_of_spelledKey? host implicit spelled'
      rw [link, link, ih, evaluated, evaluated']
      refine bind_congr fun container? => ?_
      cases container? with
      | none => rfl
      | some container =>
          have alike := Value.accessAlike_of_keyText (text.trans text'.symm) container
          simp only [pure_bind, alike.reads]

/-- What follows the keys of a target and depends on their texts only follows them however they are
written. -/
theorem Respelled.pathOf_bind {α : Type} (respelled : Respelled target target')
    {next next' : List Value → Action (Machine σ) α}
    (after : ∀ path path', path.map Value.keyText = path'.map Value.keyText →
      next path = next' path') :
    (target.pathOf host implicit >>= next) = (target'.pathOf host implicit >>= next') := by
  induction respelled generalizing next next' with
  | same => exact bind_congr fun path => after path path rfl
  | inside _ property computed optional span ih =>
      rw [pathOf, pathOf, bind_assoc, bind_assoc]
      refine ih fun path path' same => ?_
      rw [bind_assoc, bind_assoc]
      refine bind_congr fun key => ?_
      rw [pure_bind, pure_bind]
      exact after _ _ (by simp [same])
  | key _ spelled spelled' optional span ih =>
      obtain ⟨key, text, evaluated⟩ := memberKey_of_spelledKey? host implicit spelled
      obtain ⟨key', text', evaluated'⟩ := memberKey_of_spelledKey? host implicit spelled'
      rw [pathOf, pathOf, evaluated, evaluated', bind_assoc, bind_assoc]
      refine ih fun path path' same => ?_
      simp only [pure_bind]
      exact after _ _ (by simp [same, text, text'])

end Respelled

section Places

variable {path path' : List Value}

private theorem readPlace_congr (same : path.map Value.keyText = path'.map Value.keyText)
    (root : String) (span : Span) :
    (Machine.readPlace ⟨root, path⟩ span : Action (Machine σ) Value) =
      Machine.readPlace ⟨root, path'⟩ span := by
  simp only [Machine.readPlace, Place.read_congr same]

private theorem writePlace_congr (same : path.map Value.keyText = path'.map Value.keyText)
    (root : String) (implicit : Bool) (value : Value) (span : Span) :
    (Machine.writePlace implicit ⟨root, path⟩ value span : Action (Machine σ) Unit) =
      Machine.writePlace implicit ⟨root, path'⟩ value span := by
  simp only [Machine.writePlace, Place.write_congr same]

end Places

theorem Respelled.assignment {target target' : Expression} (respelled : Respelled target target')
    (host : Host σ) (implicit : Bool) (operator : AssignmentOperator) (value : Expression)
    (span : Span) :
    (Expression.assignment operator target value span).link host implicit =
      (Expression.assignment operator target' value span).link host implicit := by
  rw [link, link, respelled.span_eq, respelled.targetRoot]
  refine bind_congr fun root => respelled.pathOf_bind fun path path' same => ?_
  cases operator with
  | plain => simp only [writePlace_congr same]
  | arithmetic operator => simp only [readPlace_congr same, writePlace_congr same]
  | logical operator => simp only [readPlace_congr same, writePlace_congr same]

theorem Respelled.update {target target' : Expression} (respelled : Respelled target target')
    (host : Host σ) (implicit : Bool) (operator : UpdateOperator) (prefixed : Bool) (span : Span) :
    (Expression.update operator prefixed target span).link host implicit =
      (Expression.update operator prefixed target' span).link host implicit := by
  rw [link, link, respelled.span_eq, respelled.targetRoot]
  refine bind_congr fun root => respelled.pathOf_bind fun path path' same => ?_
  simp only [readPlace_congr same, writePlace_congr same]

private theorem respelled_literal (owner : Expression) (literal : Literal) (place place' : Span)
    (optional : Bool) (span : Span) :
    let text := (Value.ofLiteral literal).keyText
    Respelled (.member owner (.literal literal place) true optional span)
        (.member owner (.literal (.string text) place') true optional span) ∧
      Respelled (.member owner (.literal literal place) true optional span)
        (.member owner (.literal literal place') false optional span) :=
  ⟨.key (.same owner) rfl rfl optional span, .key (.same owner) rfl rfl optional span⟩

theorem link_isIn_literal (host : Host σ) (implicit : Bool) (literal : Literal)
    (place place' : Span) (right : Expression) (span : Span) :
    (Expression.binary .isIn (.literal literal place) right span).link host implicit =
      (Expression.binary .isIn (.literal (.string (Value.ofLiteral literal).keyText) place') right
        span).link host implicit := by
  have tests : ∀ container : Value, Value.binary .isIn (Value.ofLiteral literal) container =
      Value.binary .isIn (.string (Value.ofLiteral literal).keyText) container :=
    fun container => congrArg (Except.map Value.boolean)
      (container.accessAlike_keyText (Value.ofLiteral literal)).tests.symm
  rw [link, link, link, link]
  simp only [Action.orNull, pure_bind, Option.getD_some, tests]
  rfl

/-- Members are accessed by the texts of their keys, so that it does not matter how a key is
written: when a member is read, assigned to or updated, and when it is asked for. -/
theorem members_accessed_by_text (host : Host σ) (implicit : Bool) :
    (∀ container key : Value, container.AccessAlike (.string key.keyText) key) ∧
    (∀ target target' : Expression, Respelled target target' →
      target.link host implicit = target'.link host implicit ∧
      (∀ operator value span,
        (Expression.assignment operator target value span).link host implicit =
          (Expression.assignment operator target' value span).link host implicit) ∧
      ∀ operator prefixed span,
        (Expression.update operator prefixed target span).link host implicit =
          (Expression.update operator prefixed target' span).link host implicit) ∧
    (∀ (owner : Expression) (literal : Literal) (place place' : Span) (optional : Bool)
      (span : Span),
      Respelled (.member owner (.literal literal place) true optional span)
          (.member owner (.literal (.string (Value.ofLiteral literal).keyText) place') true optional
            span) ∧
        Respelled (.member owner (.literal literal place) true optional span)
          (.member owner (.literal literal place') false optional span)) ∧
    ∀ (literal : Literal) (place place' : Span) (right : Expression) (span : Span),
      (Expression.binary .isIn (.literal literal place) right span).link host implicit =
        (Expression.binary .isIn (.literal (.string (Value.ofLiteral literal).keyText) place') right
          span).link host implicit := by
  refine ⟨Value.accessAlike_keyText, fun target target' respelled => ?_, respelled_literal,
    link_isIn_literal host implicit⟩
  exact ⟨respelled.link_eq, respelled.assignment host implicit, respelled.update host implicit⟩

/-- The second guest, by a number in brackets, by its text, and by a number without brackets. -/
theorem second_guest_accessed_by_text :
    let guests := Expression.identifier "guests" {}
    let second := Expression.member guests (.literal (.number (Double.ofNat 1)) {}) true false {}
    let byText := Expression.member guests (.literal (.string "1") {}) true false {}
    let bare := Expression.member guests (.literal (.number (Double.ofNat 1)) {}) false false {}
    (Value.list [.null, .null]).AccessAlike (.string "1") (.number (Double.ofNat 1)) ∧
      second.link Host.silent true = byText.link Host.silent true ∧
      ∀ operator value span,
        (Expression.assignment operator second value span).link Host.silent true =
          (Expression.assignment operator bare value span).link Host.silent true := by
  intro guests second byText bare
  obtain ⟨access, spellings, literals, -⟩ := members_accessed_by_text Host.silent true
  have text : (Value.number (Double.ofNat 1)).keyText = "1" := by decide +kernel
  obtain ⟨inBrackets, without⟩ := literals guests (.number (Double.ofNat 1)) {} {} false {}
  rw [Value.ofLiteral, text] at inBrackets
  refine ⟨text ▸ access _ _, (spellings _ _ inBrackets).1, ?_⟩
  exact (spellings _ _ without).2.1

end Expression

end ChatTemplate
