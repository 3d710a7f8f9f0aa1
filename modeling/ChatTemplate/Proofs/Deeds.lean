import ChatTemplate.Proofs.Coupling
import ChatTemplate.Rendering

/-!
What an evaluation does, in its order: the calls of host functions and the writes of assignments and
updates. Nodes that are not come to do nothing: the right operand of a logical operator or a logical
assignment whose left value is enough, the branch of a conditional that is not taken, what stands
behind an optional member or call that has met null, and all that follows a failure.
-/

set_option autoImplicit false

namespace ChatTemplate

variable {σ : Type}

/-- A call, assignment or update that has come to act, and the machine that it acts on: its operands
have been evaluated there, and what it calls or writes is known. -/
structure Deed (σ : Type) where
  node : Expression
  machine : Machine σ

namespace Expression

section Deeds

variable (host : Host σ) (implicit : Bool)

mutual

def deeds : Expression → Machine σ → List (Deed σ)
  | .literal _ _, _ => []
  | .identifier _ _, _ => []
  | .object properties _, machine => entriesDeeds properties machine
  | .array elements _, machine => valuesDeeds elements machine
  | .sequence expressions _, machine => valuesDeeds expressions machine
  | .logical operator left right _, machine =>
      deeds left machine ++ (evaluate host implicit left).sequel (fun value machine =>
        if operator.shortCircuits value then [] else deeds right machine) machine
  | .binary _ left right _, machine =>
      deeds left machine ++
        (evaluate host implicit left).sequel (fun _ machine => deeds right machine) machine
  | .unary _ argument _, machine => deeds argument machine
  | .assignment operator target value span, machine =>
      (Action.located target.span (target.targetRoot.mapError .invalidAssignment)).sequel
        (fun root machine => keysDeeds target machine ++
          (pathOf host implicit target).sequel (fun path machine =>
            match operator with
            | .plain =>
                deeds value machine ++ (evaluate host implicit value).sequel (fun _ machine =>
                  [⟨.assignment .plain target value span, machine⟩]) machine
            | .arithmetic operator =>
                (Machine.readPlace ⟨root, path⟩ span).sequel (fun current machine =>
                  deeds value machine ++ (evaluate host implicit value).sequel
                    (fun operand machine =>
                      (Action.located span (Value.arithmetic operator current operand)).sequel
                        (fun _ machine =>
                          [⟨.assignment (.arithmetic operator) target value span, machine⟩])
                        machine)
                    machine) machine
            | .logical operator =>
                (Machine.readPlace ⟨root, path⟩ span).sequel (fun current machine =>
                  if operator.shortCircuits current then []
                  else
                    deeds value machine ++ (evaluate host implicit value).sequel (fun _ machine =>
                      [⟨.assignment (.logical operator) target value span, machine⟩]) machine)
                  machine) machine)
        machine
  | .update operator prefixed target span, machine =>
      (Action.located target.span (target.targetRoot.mapError .invalidAssignment)).sequel
        (fun root machine => keysDeeds target machine ++
          (pathOf host implicit target).sequel (fun path machine =>
            (Machine.readPlace ⟨root, path⟩ span).sequel (fun current machine =>
              (Action.located span current.toNumber).sequel (fun _ machine =>
                [⟨.update operator prefixed target span, machine⟩]) machine) machine) machine)
        machine
  | .member owner property computed optional _, machine =>
      deeds owner machine ++ (link host implicit owner).sequel (fun container? machine =>
        match container? with
        | none => []
        | some container =>
            if optional && container.isNull then []
            else if computed then deeds property machine else []) machine
  | .conditional test consequent alternate _, machine =>
      deeds test machine ++ (evaluate host implicit test).sequel (fun test machine =>
        if test.isTrue then deeds consequent machine else deeds alternate machine) machine
  | .call callee arguments optional span, machine =>
      deeds callee machine ++ (link host implicit callee).sequel (fun function? machine =>
        match function? with
        | none => []
        | some function =>
            if optional && function.isNull then []
            else match function with
              | .function _ =>
                  valuesDeeds arguments machine ++
                    (valuesOf host implicit arguments).sequel (fun _ machine =>
                      [⟨.call callee arguments optional span, machine⟩]) machine
              | _ => []) machine
  | .chain inner _, machine => deeds inner machine

def valuesDeeds : List Expression → Machine σ → List (Deed σ)
  | [], _ => []
  | expression :: rest, machine =>
      deeds expression machine ++
        (evaluate host implicit expression).sequel (fun _ machine => valuesDeeds rest machine)
          machine

def entriesDeeds : List Property → Machine σ → List (Deed σ)
  | [], _ => []
  | .mk key value computed :: rest, machine =>
      (if computed then deeds key machine else []) ++
        (key.entryKey computed (evaluate host implicit key)).sequel (fun _ machine =>
          deeds value machine ++
            (evaluate host implicit value).sequel (fun _ machine => entriesDeeds rest machine)
              machine) machine

/-- The deeds of the keys that lead to an assignment's target. -/
def keysDeeds : Expression → Machine σ → List (Deed σ)
  | .member owner property computed _ _, machine =>
      keysDeeds owner machine ++ (pathOf host implicit owner).sequel (fun _ machine =>
        if computed then deeds property machine else []) machine
  | _, _ => []

end

end Deeds

end Expression

/-! ## Deeds of walks -/

section Walks

variable (host : Host σ) (implicit : Bool)

def Template.partsDeeds : List Template → Machine σ → List (Deed σ)
  | [], _ => []
  | .text _ _ :: rest, machine => partsDeeds rest machine
  | .interpolation expression _ :: rest, machine =>
      expression.deeds host implicit machine ++
        (expression.evaluate host implicit).sequel (fun _ machine => partsDeeds rest machine)
          machine
  | _ :: rest, machine => partsDeeds rest machine

def Attribute.deeds : Attribute → Machine σ → List (Deed σ)
  | .flag _ _ _, _ => []
  | .parts _ nodes _, machine => Template.partsDeeds host implicit nodes machine

def Attributes.deeds : List Attribute → Machine σ → List (Deed σ)
  | [], _ => []
  | entry :: rest, machine =>
      entry.deeds host implicit machine ++
        (entry.evaluate host implicit).sequel (fun _ machine => Attributes.deeds rest machine)
          machine

def Walk.entered (bindings : List (String × Value)) (walk : Walk σ) : Walk σ :=
  walk.changeScope fun scope =>
    bindings.foldl (fun scope binding => scope.declare binding.1 binding.2) scope.push.2

/-- The deeds of a tag, given those of what stands inside it. -/
def Walk.elementDeeds (name : String) (attributes : List Attribute) (span : Span)
    (inside : Walk σ → List (Deed σ)) : Walk σ → List (Deed σ) :=
  (Action.located span (Tag.ofName name)).sequel fun tag walk =>
    Attributes.deeds host implicit attributes walk.machine ++
      (Walk.evaluating (Attributes.evaluate host implicit name attributes)).sequel
        (fun given =>
          match tag with
          | .message implied =>
              (Action.located span (given.takeRole implied).1).sequel fun role =>
                (Action.located span (given.takeRole implied).2.checkMessageFields).sequel fun _ =>
                  (Walk.perform
                    (.openMessage role (given.takeRole implied).2.toJson span) span).sequel
                      fun _ => inside
          | .content implied =>
              (Action.located span (given.takeKind implied).1).sequel fun kind =>
                (Walk.perform (.openContent kind span) span).sequel fun _ => inside
          | .toolCall => fun _ => [])
        walk

namespace Template

mutual

def deeds : Template → Walk σ → List (Deed σ)
  | .fragment children _, walk => allDeeds children walk
  | .text _ _, _ => []
  | .comment _ _, _ => []
  | .interpolation expression _, walk => expression.deeds host implicit walk.machine
  | .element name attributes children _ span, walk =>
      Walk.elementDeeds host implicit name attributes span (allDeeds children) walk
  | .closing _ _, _ => []
  | .branch test children otherwise _, walk =>
      test.deeds host implicit walk.machine ++
        (Walk.evaluating (test.evaluate host implicit)).sequel (fun value walk =>
          if value.isTrue then allDeeds children (walk.entered [])
          else otherwiseDeeds otherwise walk) walk
  | .loop collection item index children otherwise _, walk =>
      collection.deeds host implicit walk.machine ++
        (Walk.evaluating (collection.evaluate host implicit)).sequel (fun value =>
          (Action.located collection.span value.elements).sequel fun elements walk =>
            if elements.isEmpty then otherwiseDeeds otherwise walk
            else
              Action.eachDeeds
                (fun element => Walk.inBlock (roundBindings item index element)
                  (walkAll host implicit children))
                (fun element walk =>
                  allDeeds children (walk.entered (roundBindings item index element)))
                elements walk) walk

def allDeeds : List Template → Walk σ → List (Deed σ)
  | [], _ => []
  | template :: rest, walk =>
      deeds template walk ++
        (template.walk host implicit).sequel (fun _ walk => allDeeds rest walk) walk

def otherwiseDeeds : Option (List Template) → Walk σ → List (Deed σ)
  | none, _ => []
  | some children, walk => allDeeds children (walk.entered [])

end

end Template

end Walks

end ChatTemplate
