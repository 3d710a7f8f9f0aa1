import ChatTemplate.Compilation

/-!
Flat markup. The flat form of a template has no message or content tag with anything inside: what
stood inside follows the tag, and a closing tag of its own follows that. A template and its flat
form are walked in the same way, moment by moment.
-/

set_option autoImplicit false

namespace ChatTemplate

variable {σ : Type}

theorem Action.located_ok {τ α : Type} (span : Span) (value : α) :
    (located span (.ok value) : Action τ α) = pure value :=
  rfl

/-! ## The flat form -/

/-- Whether a tag with the name opens a message or a content tag. -/
def Tag.opens (name : String) : Bool :=
  match Tag.ofName name with
  | .ok (.message _) | .ok (.content _) => true
  | _ => false

namespace Template

/-- A tag that is opened, followed by what stands inside and, if it was closed, by its closing
tag. -/
def unfolded (name : String) (attributes : List Attribute) (closed : Bool) (span : Span)
    (inside : List Template) : List Template :=
  .element name attributes [] false span :: inside ++ (if closed then [.closing name span] else [])

mutual

/-- The flat form of a template. Tags for tool calls and unknown tags stay as they are. -/
def flat : Template → List Template
  | .fragment children _ => flatAll children
  | .text data span => [.text data span]
  | .comment _ _ => []
  | .interpolation expression span => [.interpolation expression span]
  | .element name attributes children closed span =>
      if Tag.opens name then unfolded name attributes closed span (flatAll children)
      else [.element name attributes children closed span]
  | .closing name span => [.closing name span]
  | .branch test children otherwise span =>
      [.branch test (flatAll children) (flatOtherwise otherwise) span]
  | .loop collection item index children otherwise span =>
      [.loop collection item index (flatAll children) (flatOtherwise otherwise) span]

def flatAll : List Template → List Template
  | [] => []
  | template :: rest => flat template ++ flatAll rest

def flatOtherwise : Option (List Template) → Option (List Template)
  | none => none
  | some children => some (flatAll children)

end

mutual

/-- Nothing stands inside a message or content tag, and there are neither fragments nor comments. -/
def IsFlat : Template → Prop
  | .fragment _ _ | .comment _ _ => False
  | .text _ _ | .interpolation _ _ | .closing _ _ => True
  | .element name _ children closed _ => Tag.opens name = true → children = [] ∧ closed = false
  | .branch _ children otherwise _ => AreFlat children ∧ IsFlatOtherwise otherwise
  | .loop _ _ _ children otherwise _ => AreFlat children ∧ IsFlatOtherwise otherwise

def AreFlat : List Template → Prop
  | [] => True
  | template :: rest => IsFlat template ∧ AreFlat rest

def IsFlatOtherwise : Option (List Template) → Prop
  | none => True
  | some children => AreFlat children

end

private theorem areFlat_append {first second : List Template} (flat : AreFlat first)
    (flat' : AreFlat second) : AreFlat (first ++ second) := by
  induction first with
  | nil => exact flat'
  | cons template rest ih => exact ⟨flat.1, ih flat.2⟩

private theorem areFlat_unfolded (name : String) (attributes : List Attribute) (closed : Bool)
    (span : Span) {inside : List Template} (flat : AreFlat inside) :
    AreFlat (unfolded name attributes closed span inside) := by
  refine ⟨fun _ => ⟨rfl, rfl⟩, areFlat_append flat ?_⟩
  cases closed with
  | false => trivial
  | true => exact ⟨trivial, trivial⟩

mutual

private theorem areFlat_flat : (template : Template) → AreFlat template.flat
  | .fragment children span => by
      rw [flat]
      exact areFlat_flatAll children
  | .text data span => by
      rw [flat]
      exact ⟨trivial, trivial⟩
  | .comment data span => by
      rw [flat]
      trivial
  | .interpolation expression span => by
      rw [flat]
      exact ⟨trivial, trivial⟩
  | .element name attributes children closed span => by
      rw [flat]
      split
      · exact areFlat_unfolded name attributes closed span (areFlat_flatAll children)
      · rename_i other
        exact ⟨fun opens => absurd opens other, trivial⟩
  | .closing name span => by
      rw [flat]
      exact ⟨trivial, trivial⟩
  | .branch test children otherwise span => by
      rw [flat]
      exact ⟨⟨areFlat_flatAll children, isFlatOtherwise_flat otherwise⟩, trivial⟩
  | .loop collection item index children otherwise span => by
      rw [flat]
      exact ⟨⟨areFlat_flatAll children, isFlatOtherwise_flat otherwise⟩, trivial⟩

private theorem areFlat_flatAll : (templates : List Template) → AreFlat (flatAll templates)
  | [] => by
      rw [flatAll]
      trivial
  | template :: rest => by
      rw [flatAll]
      exact areFlat_append (areFlat_flat template) (areFlat_flatAll rest)

private theorem isFlatOtherwise_flat : (otherwise : Option (List Template)) →
    IsFlatOtherwise (flatOtherwise otherwise)
  | none => by
      rw [flatOtherwise]
      trivial
  | some children => by
      rw [flatOtherwise]
      exact areFlat_flatAll children

end

/-! ## Walks of flat forms -/

section Walks

variable (host : Host σ) (implicit : Bool)

theorem walkAll_append (first second : List Template) :
    walkAll host implicit (first ++ second) =
      (do walkAll host implicit first; walkAll host implicit second) := by
  induction first with
  | nil => simp only [List.nil_append, walkAll, pure_bind]
  | cons template rest ih => simp only [List.cons_append, walkAll, ih, bind_assoc]

theorem walkAll_singleton (template : Template) :
    walkAll host implicit [template] = template.walk host implicit := by
  simp only [walkAll, bind_pure_unit]

/-- A closing tag does what the end of a closed tag of the same name does. -/
theorem walkAll_closing (name : String) (span : Span) (closed : Bool) :
    walkAll host implicit (if closed then [.closing name span] else []) =
      if closed then Walk.closeTag name span else (pure () : Action (Walk σ) Unit) := by
  cases closed with
  | false => simp only [Bool.false_eq_true, if_false, walkAll]
  | true => simp only [if_true, walkAll_singleton, walk]

theorem walkAll_unfolded {name : String} (opens : Tag.opens name = true)
    (attributes : List Attribute) (children inside : List Template) (closed : Bool) (span : Span) :
    walkAll host implicit (unfolded name attributes closed span inside) =
      Walk.element host implicit name attributes children closed span
        (walkAll host implicit inside) := by
  rw [unfolded, walkAll_append, walkAll_closing, walkAll, walk, Walk.element, Walk.element,
    Walk.closeTag]
  unfold Tag.opens at opens
  split at opens
  · rename_i implied tag
    rw [tag, Action.located_ok]
    simp only [pure_bind, bind_assoc]
    refine bind_congr fun attributes => ?_
    rcases attributes.takeRole implied with ⟨role, attributes⟩
    simp only [walkAll, Bool.false_eq_true, if_false, pure_bind]
  · rename_i implied tag
    rw [tag, Action.located_ok]
    simp only [pure_bind, bind_assoc]
    refine bind_congr fun attributes => ?_
    simp only [walkAll, Bool.false_eq_true, if_false, pure_bind]
  · cases opens

mutual

theorem walkAll_flat : (template : Template) →
    walkAll host implicit template.flat = template.walk host implicit
  | .fragment children span => by
      rw [flat, walk]
      exact walkAll_flatAll children
  | .text data span => by
      rw [flat, walkAll_singleton]
  | .comment data span => by
      rw [flat, walkAll, walk]
  | .interpolation expression span => by
      rw [flat, walkAll_singleton]
  | .element name attributes children closed span => by
      rw [flat]
      split
      · rename_i opens
        rw [walkAll_unfolded host implicit opens attributes children, walkAll_flatAll children,
          walk]
      · rw [walkAll_singleton]
  | .closing name span => by
      rw [flat, walkAll_singleton]
  | .branch test children otherwise span => by
      rw [flat, walkAll_singleton, walk, walk, walkAll_flatAll children,
        walkOtherwise_flat otherwise]
  | .loop collection item index children otherwise span => by
      rw [flat, walkAll_singleton, walk, walk, walkAll_flatAll children,
        walkOtherwise_flat otherwise]

theorem walkAll_flatAll : (templates : List Template) →
    walkAll host implicit (flatAll templates) = walkAll host implicit templates
  | [] => by
      rw [flatAll]
  | template :: rest => by
      rw [flatAll, walkAll_append, walkAll_flat template, walkAll_flatAll rest, walkAll]

theorem walkOtherwise_flat : (otherwise : Option (List Template)) →
    walkOtherwise host implicit (flatOtherwise otherwise) =
      walkOtherwise host implicit otherwise
  | none => by
      rw [flatOtherwise]
  | some children => by
      rw [flatOtherwise, walkOtherwise, walkOtherwise, walkAll_flatAll children]

end

end Walks

/-- A template and its flat form are walked alike, from every state and moment by moment: they ask
the same of the host, leave the same variables and the same draft, and fail in the same way. So they
are compiled to the same messages. -/
theorem flat_walked_alike (template : Template) (place : Span) :
    AreFlat template.flat ∧
      (∀ (host : Host σ) (implicit : Bool) (walk : Walk σ),
        (fragment template.flat place).walk host implicit walk =
          template.walk host implicit walk) ∧
      ∀ (settings : Settings) (registry : Registry) (host : Host σ) (now : Int)
        (interruption : Interruption σ) (scope : Scope) (world : σ),
        (fragment template.flat place).compileWithin settings registry host now interruption scope
            world =
          template.compileWithin settings registry host now interruption scope world := by
  have walked : ∀ (host : Host σ) (implicit : Bool),
      (fragment template.flat place).walk host implicit = template.walk host implicit := by
    intro host implicit
    rw [walk, walkAll_flat]
  refine ⟨areFlat_flat template,
    fun host implicit walk => congrFun (walked host implicit) walk, ?_⟩
  intro settings registry host now interruption scope world
  simp only [compileWithin, compile, render, walked]

example : (element "user" [] [.text "Look: " {}, .element "image" [] [.text "a.png" {}] true {}]
    true {}).flat =
    [.element "user" [] [] false {}, .text "Look: " {}, .element "image" [] [] false {},
      .text "a.png" {}, .closing "image" {}, .closing "user" {}] := by
  rfl

end Template

end ChatTemplate
