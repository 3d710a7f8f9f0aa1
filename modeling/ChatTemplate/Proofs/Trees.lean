import ChatTemplate.Proofs.Nodes
import ChatTemplate.Proofs.NodeForm
import ChatTemplate.Template.Schema

/-!
Expressions and templates as JSON. A tree whose numbers are finite is read from its JSON form as it
was: by induction on the tree, each kind of node finds its own fields in its object and reads them
back. Only a number that is not finite is lost, for it has no JSON form.
-/

set_option autoImplicit false

namespace ChatTemplate

/-! ## Expressions -/

/-- All numbers that are written out among the expressions are finite. -/
def FiniteNumbers (expressions : List Expression) : Prop :=
  ∀ value span, Expression.literal (.number value) span ∈ expressions → value.isFinite = true

private theorem finiteNumbers_append {first second : List Expression} :
    FiniteNumbers (first ++ second) ↔ FiniteNumbers first ∧ FiniteNumbers second := by
  simp only [FiniteNumbers, List.mem_append, or_imp, forall_and]

theorem FiniteNumbers.inside {expression : Expression} (finite : FiniteNumbers expression.nodes) :
    FiniteNumbers expression.inside :=
  fun value span member => finite value span (List.mem_cons_of_mem _ member)

theorem Literal.ofJson?_toJson {literal : Literal} {span : Span}
    (finite : FiniteNumbers [.literal literal span]) : ofJson? literal.toJson = some literal := by
  cases literal with
  | number value =>
      rw [toJson, Json.ofDouble, if_pos (finite value span List.mem_cons_self)]
      rfl
  | _ => rfl

theorem Literal.toJson_settled (literal : Literal) : literal.toJson.Settled := by
  cases literal with
  | null => exact .null
  | boolean value => exact .boolean value
  | number value =>
      rw [toJson, Json.ofDouble]
      split
      · exact .float value
      · exact .null
  | string value => exact .string value

open Json

namespace Expression

/-- An entry is read, given that its expressions are. -/
theorem reads_entry {key value : Expression} (computed : Bool)
    (readsKey : Reads ofNestedJson? key.toJson key)
    (readsValue : Reads ofNestedJson? value.toJson value) :
    Reads (fun depth => Property.ofJson? (ofNestedJson? depth))
      (Property.mk key value computed).toJson (.mk key value computed) := by
  intro depth bounded
  simp only [Property.toJson, Json.depth, depthEntries] at bounded
  simp only [Property.toJson, Property.ofJson?, fieldsOf?, Option.bind_eq_bind, Option.bind_some]
  rw [required?_eq_some rfl (readsKey depth (by omega)),
    required?_eq_some rfl (readsValue depth (by omega))]
  rfl

mutual

theorem reads_toJson : (expression : Expression) → FiniteNumbers expression.nodes →
    Reads ofNestedJson? expression.toJson expression
  | .literal value span, finite => by
      -- The type selects a branch of the reader, which then finds and reads the node's own fields.
      refine reads_node rfl fun depth entries node => ?_
      have readValue := node.required "value" rfl (Literal.ofJson?_toJson finite)
      simp only [ofNestedJson?, asObject?, Option.bind_eq_bind, Option.bind_some,
        node.typed nodeTypes rfl, node.place, readValue]
  | .identifier name span, _ => by
      refine reads_node rfl fun depth entries node => ?_
      have readName : required? entries "name" asString? = some name :=
        node.required "name" rfl rfl
      simp only [ofNestedJson?, asObject?, Option.bind_eq_bind, Option.bind_some,
        node.typed nodeTypes rfl, node.place, readName]
  | .object properties span, finite => by
      refine reads_node rfl fun depth entries node => ?_
      have readProperties := node.child "properties" rfl (reads_entries properties finite.inside)
      simp only [ofNestedJson?, asObject?, Option.bind_eq_bind, Option.bind_some,
        node.typed nodeTypes rfl, node.place, readProperties]
  | .array elements span, finite => by
      refine reads_node rfl fun depth entries node => ?_
      have readElements := node.child "elements" rfl (reads_all elements finite.inside)
      simp only [ofNestedJson?, asObject?, Option.bind_eq_bind, Option.bind_some,
        node.typed nodeTypes rfl, node.place, readElements]
  | .sequence expressions span, finite => by
      refine reads_node rfl fun depth entries node => ?_
      have readExpressions := node.child "expressions" rfl (reads_all expressions finite.inside)
      simp only [ofNestedJson?, asObject?, Option.bind_eq_bind, Option.bind_some,
        node.typed nodeTypes rfl, node.place, readExpressions]
  | .logical operator left right span, finite => by
      obtain ⟨finiteLeft, finiteRight⟩ := finiteNumbers_append.mp finite.inside
      refine reads_node rfl fun depth entries node => ?_
      have readOperator := node.operator rfl operator.ofText?_text
      have readLeft := node.child "left" rfl (left.reads_toJson finiteLeft)
      have readRight := node.child "right" rfl (right.reads_toJson finiteRight)
      simp only [ofNestedJson?, asObject?, Option.bind_eq_bind, Option.bind_some,
        node.typed nodeTypes rfl, node.place, readOperator, readLeft, readRight]
  | .binary operator left right span, finite => by
      obtain ⟨finiteLeft, finiteRight⟩ := finiteNumbers_append.mp finite.inside
      refine reads_node rfl fun depth entries node => ?_
      have readOperator := node.operator rfl operator.ofText?_text
      have readLeft := node.child "left" rfl (left.reads_toJson finiteLeft)
      have readRight := node.child "right" rfl (right.reads_toJson finiteRight)
      simp only [ofNestedJson?, asObject?, Option.bind_eq_bind, Option.bind_some,
        node.typed nodeTypes rfl, node.place, readOperator, readLeft, readRight]
  | .unary operator argument span, finite => by
      refine reads_node rfl fun depth entries node => ?_
      have readOperator := node.operator rfl operator.ofText?_text
      have readArgument := node.child "argument" rfl (argument.reads_toJson finite.inside)
      simp only [ofNestedJson?, asObject?, Option.bind_eq_bind, Option.bind_some,
        node.typed nodeTypes rfl, node.place, readOperator, readArgument]
  | .assignment operator target value span, finite => by
      obtain ⟨finiteTarget, finiteValue⟩ := finiteNumbers_append.mp finite.inside
      refine reads_node rfl fun depth entries node => ?_
      have readOperator := node.operator rfl operator.ofText?_text
      have readTarget := node.child "left" rfl (target.reads_toJson finiteTarget)
      have readValue := node.child "right" rfl (value.reads_toJson finiteValue)
      simp only [ofNestedJson?, asObject?, Option.bind_eq_bind, Option.bind_some,
        node.typed nodeTypes rfl, node.place, readOperator, readTarget, readValue]
  | .update operator prefixed target span, finite => by
      refine reads_node rfl fun depth entries node => ?_
      have readOperator := node.operator rfl operator.ofText?_text
      have readPrefixed : required? entries "prefix" asBoolean? = some prefixed :=
        node.required "prefix" rfl rfl
      have readTarget := node.child "argument" rfl (target.reads_toJson finite.inside)
      simp only [ofNestedJson?, asObject?, Option.bind_eq_bind, Option.bind_some,
        node.typed nodeTypes rfl, node.place, readOperator, readPrefixed, readTarget]
  | .member owner property computed optional span, finite => by
      obtain ⟨finiteOwner, finiteProperty⟩ := finiteNumbers_append.mp finite.inside
      refine reads_node rfl fun depth entries node => ?_
      have readOwner := node.child "object" rfl (owner.reads_toJson finiteOwner)
      have readProperty := node.child "property" rfl (property.reads_toJson finiteProperty)
      have readComputed : optional? entries "computed" false asBoolean? = some computed :=
        node.optional "computed" _ rfl rfl
      have readOptional : optional? entries "optional" false asBoolean? = some optional :=
        node.optional "optional" _ rfl rfl
      simp only [ofNestedJson?, asObject?, Option.bind_eq_bind, Option.bind_some,
        node.typed nodeTypes rfl, node.place, readOwner, readProperty, readComputed, readOptional]
  | .conditional test consequent alternate span, finite => by
      obtain ⟨finiteRest, finiteAlternate⟩ := finiteNumbers_append.mp finite.inside
      obtain ⟨finiteTest, finiteConsequent⟩ := finiteNumbers_append.mp finiteRest
      refine reads_node rfl fun depth entries node => ?_
      have readTest := node.child "test" rfl (test.reads_toJson finiteTest)
      have readConsequent := node.child "consequent" rfl (consequent.reads_toJson finiteConsequent)
      have readAlternate := node.child "alternate" rfl (alternate.reads_toJson finiteAlternate)
      simp only [ofNestedJson?, asObject?, Option.bind_eq_bind, Option.bind_some,
        node.typed nodeTypes rfl, node.place, readTest, readConsequent, readAlternate]
  | .call callee arguments optional span, finite => by
      obtain ⟨finiteCallee, finiteArguments⟩ := finiteNumbers_append.mp finite.inside
      refine reads_node rfl fun depth entries node => ?_
      have readCallee := node.child "callee" rfl (callee.reads_toJson finiteCallee)
      have readArguments := node.child "arguments" rfl (reads_all arguments finiteArguments)
      have readOptional : optional? entries "optional" false asBoolean? = some optional :=
        node.optional "optional" _ rfl rfl
      simp only [ofNestedJson?, asObject?, Option.bind_eq_bind, Option.bind_some,
        node.typed nodeTypes rfl, node.place, readCallee, readArguments, readOptional]
  | .chain inner span, finite => by
      refine reads_node rfl fun depth entries node => ?_
      have readInner := node.child "expression" rfl (inner.reads_toJson finite.inside)
      simp only [ofNestedJson?, asObject?, Option.bind_eq_bind, Option.bind_some,
        node.typed nodeTypes rfl, node.place, readInner]

theorem reads_all : (expressions : List Expression) → FiniteNumbers (insideAll expressions) →
    Reads (fun depth => asList? (ofNestedJson? depth)) (.array (listToJson expressions)) expressions
  | [], _ => reads_nil
  | first :: rest, finite => by
      obtain ⟨finiteFirst, finiteRest⟩ := finiteNumbers_append.mp finite
      exact (reads_toJson first finiteFirst).cons (reads_all rest finiteRest)

theorem reads_entries : (properties : List Property) → FiniteNumbers (insideEntries properties) →
    Reads (fun depth => asList? (Property.ofJson? (ofNestedJson? depth)))
      (.array (Property.listToJson properties)) properties
  | [], _ => reads_nil
  | .mk key value computed :: rest, finite => by
      obtain ⟨finiteFirst, finiteRest⟩ := finiteNumbers_append.mp finite
      obtain ⟨finiteKey, finiteValue⟩ := finiteNumbers_append.mp finiteFirst
      have first :=
        reads_entry computed (reads_toJson key finiteKey) (reads_toJson value finiteValue)
      exact first.cons (reads_entries rest finiteRest)

end

mutual

theorem toJson_settled : (expression : Expression) → expression.toJson.Settled
  | .literal value _ => settled_node rfl (by simp [value.toJson_settled])
  | .identifier _ _ => settled_node rfl (by simp [Settled.string])
  | .object properties _ => settled_node rfl (by simp [entries_settled properties])
  | .array elements _ => settled_node rfl (by simp [all_settled elements])
  | .sequence expressions _ => settled_node rfl (by simp [all_settled expressions])
  | .logical _ left right _ =>
      settled_node rfl (by simp [Settled.string, left.toJson_settled, right.toJson_settled])
  | .binary _ left right _ =>
      settled_node rfl (by simp [Settled.string, left.toJson_settled, right.toJson_settled])
  | .unary _ argument _ => settled_node rfl (by simp [Settled.string, argument.toJson_settled])
  | .assignment _ target value _ =>
      settled_node rfl (by simp [Settled.string, target.toJson_settled, value.toJson_settled])
  | .update _ _ target _ =>
      settled_node rfl (by simp [Settled.string, Settled.boolean, target.toJson_settled])
  | .member owner property _ _ _ =>
      settled_node rfl (by simp [Settled.boolean, owner.toJson_settled, property.toJson_settled])
  | .conditional test consequent alternate _ =>
      settled_node rfl
        (by simp [test.toJson_settled, consequent.toJson_settled, alternate.toJson_settled])
  | .call callee arguments _ _ =>
      settled_node rfl (by simp [Settled.boolean, callee.toJson_settled, all_settled arguments])
  | .chain inner _ => settled_node rfl (by simp [inner.toJson_settled])

theorem all_settled : (expressions : List Expression) →
    (Json.array (listToJson expressions)).Settled
  | [] => .array nofun
  | first :: rest => (all_settled rest).cons first.toJson_settled

theorem entries_settled : (properties : List Property) →
    (Json.array (Property.listToJson properties)).Settled
  | [] => .array nofun
  | .mk key value computed :: rest => by
      have distinct : ["key", "value", "computed"].Nodup := by decide
      have first : (Property.mk key value computed).toJson.Settled :=
        .object distinct (by simp [Settled.boolean, key.toJson_settled, value.toJson_settled])
      exact (entries_settled rest).cons first

end

theorem ofJson?_toJson {expression : Expression} (finite : FiniteNumbers expression.nodes) :
    ofJson? expression.toJson = some expression :=
  reads_toJson expression finite _ (Nat.le_refl _)

end Expression

/-! ## Templates -/

namespace Template

/-- An attribute is read as what its value stands for. -/
theorem reads_entry {name : String} {value : Json} {span : Span} {entry : Attribute}
    (reads : ∀ depth entries, value.depth ≤ depth → required? entries "name" asString? = some name →
      Span.ofFields? entries = some span → required? entries "value" some = some value →
      Attribute.ofNestedJson? (ofNestedJson? depth) (.object entries) = some entry) :
    Reads (fun depth => Attribute.ofNestedJson? (ofNestedJson? depth))
      (.object ([("name", .string name), ("value", value)] ++ span.toFields)) entry := by
  intro depth bounded
  have shallow : value.depth ≤ depth := by
    simp only [List.cons_append, List.nil_append, Json.depth, depthEntries] at bounded
    omega
  exact reads depth _ shallow (required?_eq_some rfl rfl) (Span.ofFields?_eq_some rfl rfl)
    (required?_eq_some rfl rfl)

/-- What a block holds otherwise is read if it is there, given that its nodes are. -/
theorem reads_otherwise {children : List Template}
    (reads : Reads (fun depth => asList? (ofNestedJson? depth)) (.array (listToJson children))
      children) :
    Reads (fun depth => asNullable? (asList? (ofNestedJson? depth)))
      (otherwiseToJson (some children)) (some children) :=
  fun depth bounded => congrArg (Option.map some) (reads depth bounded)

private theorem asNullable?_index (index : Option String) :
    asNullable? asString? ((index.map Json.string).getD .null) = some index := by
  cases index <;> rfl

mutual

theorem reads_toJson : (template : Template) → FiniteNumbers template.expressions →
    Reads ofNestedJson? template.toJson template
  | .fragment children span, finite => by
      refine reads_node rfl fun depth entries node => ?_
      have readChildren := node.child "children" rfl (reads_all children finite)
      simp only [ofNestedJson?, asObject?, Option.bind_eq_bind, Option.bind_some,
        node.typed nodeTypes rfl, node.place, readChildren]
  | .text data span, _ => by
      refine reads_node rfl fun depth entries node => ?_
      have readData : required? entries "data" asString? = some data :=
        node.required "data" rfl rfl
      simp only [ofNestedJson?, asObject?, Option.bind_eq_bind, Option.bind_some,
        node.typed nodeTypes rfl, node.place, readData]
  | .comment data span, _ => by
      refine reads_node rfl fun depth entries node => ?_
      have readData : optional? entries "data" "" asString? = some data :=
        node.optional "data" _ rfl rfl
      simp only [ofNestedJson?, asObject?, Option.bind_eq_bind, Option.bind_some,
        node.typed nodeTypes rfl, node.place, readData]
  | .interpolation expression span, finite => by
      refine reads_node rfl fun depth entries node => ?_
      have readExpression := node.required "expression" rfl (Expression.ofJson?_toJson finite)
      simp only [ofNestedJson?, asObject?, Option.bind_eq_bind, Option.bind_some,
        node.typed nodeTypes rfl, node.place, readExpression]
  | .element name attributes children closed span, finite => by
      obtain ⟨finiteAttributes, finiteChildren⟩ := finiteNumbers_append.mp finite
      refine reads_node rfl fun depth entries node => ?_
      have readName : required? entries "name" asString? = some name :=
        node.required "name" rfl rfl
      have readAttributes := node.optionalChild "attributes" [] rfl
        (reads_attributes attributes finiteAttributes)
      have readChildren := node.optionalChild "children" [] rfl
        (reads_all children finiteChildren)
      have readClosed : optional? entries "closed" true asBoolean? = some closed :=
        node.optional "closed" _ rfl rfl
      simp only [ofNestedJson?, asObject?, Option.bind_eq_bind, Option.bind_some,
        node.typed nodeTypes rfl, node.place, readName, readAttributes, readChildren, readClosed]
  | .closing name span, _ => by
      refine reads_node rfl fun depth entries node => ?_
      have readName : required? entries "name" asString? = some name :=
        node.required "name" rfl rfl
      simp only [ofNestedJson?, asObject?, Option.bind_eq_bind, Option.bind_some,
        node.typed nodeTypes rfl, node.place, readName]
  | .branch test children otherwise span, finite => by
      obtain ⟨finiteRest, finiteOtherwise⟩ := finiteNumbers_append.mp finite
      obtain ⟨finiteTest, finiteChildren⟩ := finiteNumbers_append.mp finiteRest
      refine reads_node rfl fun depth entries node => ?_
      have readTest := node.required "expression" rfl (Expression.ofJson?_toJson finiteTest)
      have readChildren := node.child "children" rfl (reads_all children finiteChildren)
      have readOtherwise := node.optionalChild "else_branch" none rfl
        (reads_otherwiseToJson otherwise finiteOtherwise)
      simp only [ofNestedJson?, asObject?, Option.bind_eq_bind, Option.bind_some,
        node.typed nodeTypes rfl, node.place, readTest, readChildren, readOtherwise]
  | .loop collection item index children otherwise span, finite => by
      obtain ⟨finiteRest, finiteOtherwise⟩ := finiteNumbers_append.mp finite
      obtain ⟨finiteCollection, finiteChildren⟩ := finiteNumbers_append.mp finiteRest
      refine reads_node rfl fun depth entries node => ?_
      have readCollection :=
        node.required "expression" rfl (Expression.ofJson?_toJson finiteCollection)
      have readItem : required? entries "item" asString? = some item :=
        node.required "item" rfl rfl
      have readIndex := node.optional "index" none rfl (asNullable?_index index)
      have readChildren := node.child "children" rfl (reads_all children finiteChildren)
      have readOtherwise := node.optionalChild "else_branch" none rfl
        (reads_otherwiseToJson otherwise finiteOtherwise)
      simp only [ofNestedJson?, asObject?, Option.bind_eq_bind, Option.bind_some,
        node.typed nodeTypes rfl, node.place, readCollection, readItem, readIndex, readChildren,
        readOtherwise]

theorem reads_attribute : (entry : Attribute) → FiniteNumbers entry.expressions →
    Reads (fun depth => Attribute.ofNestedJson? (ofNestedJson? depth)) entry.toJson entry
  | .flag name value span, _ => by
      refine reads_entry fun depth entries _ named placed valued => ?_
      simp only [Attribute.ofNestedJson?, asObject?, Option.bind_eq_bind, Option.bind_some, named,
        placed, valued]
  | .parts name parts span, finite => by
      refine reads_entry fun depth entries shallow named placed valued => ?_
      have readParts : (listToJson parts).mapM (ofNestedJson? depth) = some parts :=
        reads_all parts finite depth shallow
      simp only [Attribute.ofNestedJson?, asObject?, Option.bind_eq_bind, Option.bind_some, named,
        placed, valued, readParts]

theorem reads_all : (templates : List Template) → FiniteNumbers (expressionsAll templates) →
    Reads (fun depth => asList? (ofNestedJson? depth)) (.array (listToJson templates)) templates
  | [], _ => reads_nil
  | first :: rest, finite => by
      obtain ⟨finiteFirst, finiteRest⟩ := finiteNumbers_append.mp finite
      exact (reads_toJson first finiteFirst).cons (reads_all rest finiteRest)

theorem reads_attributes : (attributes : List Attribute) →
    FiniteNumbers (Attribute.expressionsAll attributes) →
    Reads (fun depth => asList? (Attribute.ofNestedJson? (ofNestedJson? depth)))
      (.array (Attribute.listToJson attributes)) attributes
  | [], _ => reads_nil
  | first :: rest, finite => by
      obtain ⟨finiteFirst, finiteRest⟩ := finiteNumbers_append.mp finite
      exact (reads_attribute first finiteFirst).cons (reads_attributes rest finiteRest)

theorem reads_otherwiseToJson : (otherwise : Option (List Template)) →
    FiniteNumbers (expressionsOtherwise otherwise) →
    Reads (fun depth => asNullable? (asList? (ofNestedJson? depth))) (otherwiseToJson otherwise)
      otherwise
  | none, _ => fun _ _ => rfl
  | some children, finite => reads_otherwise (reads_all children finite)

end

mutual

theorem toJson_settled : (template : Template) → template.toJson.Settled
  | .fragment children _ => settled_node rfl (by simp [all_settled children])
  | .text _ _ | .comment _ _ | .closing _ _ => settled_node rfl (by simp [Settled.string])
  | .interpolation expression _ => settled_node rfl (by simp [expression.toJson_settled])
  | .element _ attributes children _ _ =>
      settled_node rfl (by
        simp [Settled.string, Settled.boolean, attributes_settled attributes, all_settled children])
  | .branch test children otherwise _ =>
      settled_node rfl
        (by simp [test.toJson_settled, all_settled children, otherwise_settled otherwise])
  | .loop collection _ index children otherwise _ => by
      have position : ((index.map Json.string).getD .null).Settled := by
        cases index with
        | none => exact .null
        | some name => exact .string name
      exact settled_node rfl (by
        simp [Settled.string, position, collection.toJson_settled, all_settled children,
          otherwise_settled otherwise])

theorem attribute_settled : (entry : Attribute) → entry.toJson.Settled
  | .flag name value span => by
      have distinct : ["name", "value", "start", "end"].Nodup := by decide
      exact .object distinct
        (by simp [Span.toFields, Settled.string, Settled.boolean, Settled.integer])
  | .parts name parts span => by
      have distinct : ["name", "value", "start", "end"].Nodup := by decide
      exact .object distinct
        (by simp [Span.toFields, Settled.string, Settled.integer, all_settled parts])

theorem all_settled : (templates : List Template) → (Json.array (listToJson templates)).Settled
  | [] => .array nofun
  | first :: rest => (all_settled rest).cons first.toJson_settled

theorem attributes_settled : (attributes : List Attribute) →
    (Json.array (Attribute.listToJson attributes)).Settled
  | [] => .array nofun
  | first :: rest => (attributes_settled rest).cons (attribute_settled first)

theorem otherwise_settled : (otherwise : Option (List Template)) →
    (otherwiseToJson otherwise).Settled
  | none => .null
  | some children => all_settled children

end

theorem ofJson?_toJson {template : Template} (finite : FiniteNumbers template.expressions) :
    ofJson? template.toJson = some template :=
  reads_toJson template finite _ (Nat.le_refl _)

end Template

theorem Attribute.ofJson?_toJson {entry : Attribute} (finite : FiniteNumbers entry.expressions) :
    ofJson? entry.toJson = some entry :=
  Template.reads_attribute entry finite _ (Nat.le_refl _)

/-- Expressions, templates and attributes whose numbers are finite can be read from their JSON
forms, in which no object repeats a key, and so no two of them share one. -/
theorem trees_round_trip :
    (∀ expression : Expression, FiniteNumbers expression.nodes →
      expression.toJson.Settled ∧ Expression.ofJson? expression.toJson = some expression ∧
      ∀ other : Expression, FiniteNumbers other.nodes → expression.toJson = other.toJson →
        expression = other) ∧
    (∀ template : Template, FiniteNumbers template.expressions →
      template.toJson.Settled ∧ Template.ofJson? template.toJson = some template ∧
      ∀ other : Template, FiniteNumbers other.expressions → template.toJson = other.toJson →
        template = other) ∧
    ∀ entry : Attribute, FiniteNumbers entry.expressions →
      entry.toJson.Settled ∧ Attribute.ofJson? entry.toJson = some entry ∧
      ∀ other : Attribute, FiniteNumbers other.expressions → entry.toJson = other.toJson →
        entry = other := by
  refine ⟨?_, ?_, ?_⟩
  · intro expression finite
    have reads := Expression.ofJson?_toJson finite
    refine ⟨expression.toJson_settled, reads, fun other finiteOther same => ?_⟩
    rw [same, Expression.ofJson?_toJson finiteOther] at reads
    exact (Option.some.inj reads).symm
  · intro template finite
    have reads := Template.ofJson?_toJson finite
    refine ⟨template.toJson_settled, reads, fun other finiteOther same => ?_⟩
    rw [same, Template.ofJson?_toJson finiteOther] at reads
    exact (Option.some.inj reads).symm
  · intro entry finite
    have reads := Attribute.ofJson?_toJson finite
    refine ⟨Template.attribute_settled entry, reads, fun other finiteOther same => ?_⟩
    rw [same, Attribute.ofJson?_toJson finiteOther] at reads
    exact (Option.some.inj reads).symm

/-- An optional call with the number `-0` as its argument. -/
def zeroCall : Expression :=
  .chain (.call (.identifier "count" ⟨0, 5⟩) [.literal (.number (.zero true)) ⟨8, 10⟩] true ⟨0, 11⟩)
    ⟨0, 11⟩

/-- A loop that names positions, over tags with attributes of both kinds. -/
def zeroLoop : Template :=
  .loop zeroCall "item" (some "place")
    [.element "user" [.flag "loud" true {}, .parts "tone" [.interpolation zeroCall {}] {}] [] false
      {}]
    none ⟨0, 80⟩

theorem zeroLoop_round_trip :
    FiniteNumbers zeroLoop.expressions ∧ Template.ofJson? zeroLoop.toJson = some zeroLoop ∧
      Expression.ofJson? zeroCall.toJson = some zeroCall ∧
      Attribute.ofJson? (Attribute.flag "loud" false {}).toJson = some (.flag "loud" false {}) := by
  obtain ⟨expressions, templates, attributes⟩ := trees_round_trip
  have call : FiniteNumbers zeroCall.nodes := by
    simp [FiniteNumbers, zeroCall, Expression.nodes, Expression.inside, Expression.insideAll,
      Double.zero, Double.isFinite]
  have loop : FiniteNumbers zeroLoop.expressions := by
    have parts : zeroLoop.expressions = zeroCall.nodes ++ zeroCall.nodes := by
      simp [zeroLoop, Template.expressions, Template.expressionsAll, Template.expressionsOtherwise,
        Attribute.expressionsAll, Attribute.expressions]
    rw [parts]
    exact finiteNumbers_append.mpr ⟨call, call⟩
  have flag : FiniteNumbers (Attribute.flag "loud" false {}).expressions :=
    fun _ _ member => absurd member List.not_mem_nil
  exact ⟨loop, (templates _ loop).2.1, (expressions _ call).2.1, (attributes _ flag).2.1⟩

end ChatTemplate
