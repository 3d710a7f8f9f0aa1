import ChatTemplate.Expression.Schema
import ChatTemplate.Proofs.Settled

/-!
Nodes as JSON objects. The type of a node, the fields of that type and its place stand in one object
side by side. They can be told apart there because no field has the name of the type or the place,
and a reader that is bounded by the depth of the object can read all of them.
-/

set_option autoImplicit false

namespace ChatTemplate

namespace Json

variable {α : Type} {entries : List (String × Json)} {name : String} {json : Json}

theorem required?_eq_some {value? : Json → Option α} {value : α}
    (once : occurrences entries name = [json]) (read : value? json = some value) :
    required? entries name value? = some value := by
  rw [required?, once]
  exact read

private theorem optional?_eq_some {value? : Json → Option α} {default value : α}
    (once : occurrences entries name = [json]) (read : value? json = some value) :
    optional? entries name default value? = some value := by
  rw [optional?, once]
  exact read

private theorem asWord?_toNat (offset : UInt64) :
    asWord? (.integer offset.toNat) = some offset := by
  have small : (offset.toNat : Int) < UInt64.size := Int.ofNat_lt.mpr offset.toNat_lt
  have fits : (0 ≤ (offset.toNat : Int) && (offset.toNat : Int) < UInt64.size) = true := by
    simp only [Int.natCast_nonneg, decide_true, Bool.true_and, small]
  rw [asWord?, if_pos fits, Int.toNat_natCast, UInt64.ofNat_toNat]

end Json

theorem Span.ofFields?_eq_some {entries : List (String × Json)} {span : Span}
    (starts : Json.occurrences entries "start" = [.integer span.start.toNat])
    (stops : Json.occurrences entries "end" = [.integer span.stop.toNat]) :
    ofFields? entries = some span := by
  rw [ofFields?, Json.optional?_eq_some starts (Json.asWord?_toNat _),
    Json.optional?_eq_some stops (Json.asWord?_toNat _)]
  rfl

namespace Json

variable {α : Type} {entries fields : List (String × Json)} {name type : String} {json : Json}
  {span : Span}

/-- The names of the fields that every node has. -/
def nodeNames : List String := ["type", "start", "end"]

/-- The fields repeat no name and none that every node has. -/
def fieldsApart (fields : List (String × Json)) : Bool :=
  decide (nodeNames ++ Dict.keys fields).Nodup

/-- Entries from which a node is read: its type, the fields of that type and its place. The fields
are nested at most `depth` deep. -/
structure NodeOf (entries : List (String × Json)) (type : String) (fields : List (String × Json))
    (span : Span) (depth : Nat) : Prop where
  type : occurrences entries "type" = [.string type]
  starts : occurrences entries "start" = [.integer span.start.toNat]
  stops : occurrences entries "end" = [.integer span.stop.toNat]
  field : ∀ name json, occurrences fields name = [json] → occurrences entries name = [json]
  bounded : depthEntries fields ≤ depth

/-- A value is read from its JSON form, however deep the reader would follow it. -/
def Reads (read? : Nat → Json → Option α) (json : Json) (value : α) : Prop :=
  ∀ depth, json.depth ≤ depth → read? depth json = some value

private theorem depth_of_mem_occurrences (found : json ∈ occurrences entries name) :
    json.depth ≤ depthEntries entries := by
  induction entries with
  | nil => cases found
  | cons entry rest ih =>
      obtain ⟨key, value⟩ := entry
      rw [depthEntries]
      by_cases same : key = name
      · have found : json ∈ value :: occurrences rest name := by
          simpa [occurrences, same] using found
        rcases List.mem_cons.mp found with rfl | later
        · exact Nat.le_max_left _ _
        · exact Nat.le_trans (ih later) (Nat.le_max_right _ _)
      · have later : json ∈ occurrences rest name := by
          simpa [occurrences, same] using found
        exact Nat.le_trans (ih later) (Nat.le_max_right _ _)

section NodeOf

variable {depth : Nat} (node : NodeOf entries type fields span depth)
include node

theorem NodeOf.typed (types : List String)
    (known : asNodeType? types (.string type) = some type) :
    required? entries "type" (asNodeType? types) = some type :=
  required?_eq_some node.type known

theorem NodeOf.place : Span.ofFields? entries = some span :=
  Span.ofFields?_eq_some node.starts node.stops

variable (name : String) {value : α}

theorem NodeOf.required {value? : Json → Option α} (once : occurrences fields name = [json])
    (read : value? json = some value) : required? entries name value? = some value :=
  required?_eq_some (node.field name json once) read

theorem NodeOf.optional {value? : Json → Option α} (default : α)
    (once : occurrences fields name = [json]) (read : value? json = some value) :
    optional? entries name default value? = some value :=
  optional?_eq_some (node.field name json once) read

theorem NodeOf.operator {text : String} {ofText? : String → Option α}
    (once : occurrences fields "operator" = [.string text]) (read : ofText? text = some value) :
    required? entries "operator" (fun json => json.asOperatorText?.bind ofText?) = some value :=
  node.required "operator" once read

variable {read? : Nat → Json → Option α}

theorem NodeOf.shallow (once : occurrences fields name = [json]) : json.depth ≤ depth := by
  have found : json ∈ occurrences fields name := once ▸ List.mem_cons_self
  exact Nat.le_trans (depth_of_mem_occurrences found) node.bounded

theorem NodeOf.child (once : occurrences fields name = [json]) (reads : Reads read? json value) :
    required? entries name (read? depth) = some value :=
  node.required name once (reads depth (node.shallow name once))

theorem NodeOf.optionalChild (default : α) (once : occurrences fields name = [json])
    (reads : Reads read? json value) :
    optional? entries name default (read? depth) = some value :=
  node.optional name default once (reads depth (node.shallow name once))

end NodeOf

private theorem nodeOf {depth : Nat} (own : fieldsApart fields = true)
    (bounded : depthEntries fields ≤ depth) :
    NodeOf (("type", .string type) :: fields ++ span.toFields) type fields span depth := by
  have absent : ∀ name ∈ nodeNames, occurrences fields name = [] := by
    intro name known
    refine occurrences_of_absent (Bool.eq_false_iff.mpr fun present => ?_)
    have apart := (List.nodup_append.mp (of_decide_eq_true own)).2.2
    exact apart name known name ((Dict.contains_iff_mem_keys fields name).mp present) rfl
  -- Every name is looked up in three parts, and only one of them can have it.
  have parts : ∀ name, occurrences (("type", .string type) :: fields ++ span.toFields) name =
      occurrences [("type", .string type)] name ++ (occurrences fields name ++
        occurrences span.toFields name) := by
    intro name
    rw [← occurrences_append, ← occurrences_append]
    rfl
  refine ⟨?_, ?_, ?_, ?_, bounded⟩
  · rw [parts, absent "type" (by decide)]
    rfl
  · rw [parts, absent "start" (by decide)]
    rfl
  · rw [parts, absent "end" (by decide)]
    rfl
  · intro name json once
    have other : name ∉ nodeNames := by
      intro known
      rw [absent name known] at once
      cases once
    simp only [nodeNames, List.mem_cons, List.not_mem_nil, or_false, not_or] at other
    rw [parts, once]
    simp [occurrences, Span.toFields, Ne.symm other.1, Ne.symm other.2.1, Ne.symm other.2.2]

private theorem depth_node (type : String) (fields : List (String × Json)) (span : Span) :
    (node type fields span).depth = depthEntries fields + 1 := by
  have placed : depthEntries (fields ++ span.toFields) = depthEntries fields := by
    induction fields with
    | nil => rfl
    | cons entry rest ih => simp [depthEntries, ih]
  simp [node, depth, depthEntries, placed]

/-- The reader is followed with nothing known of the entries but what a node has, since a field that
is looked up in entries written out would be compared with each of them. -/
theorem reads_node {read? : Nat → Json → Option α} {value : α}
    (own : fieldsApart fields = true)
    (reads : ∀ depth entries, NodeOf entries type fields span depth →
      read? (depth + 1) (.object entries) = some value) :
    Reads read? (node type fields span) value := by
  intro depth bounded
  rw [depth_node] at bounded
  obtain ⟨inner, rfl⟩ : ∃ inner, depth = inner + 1 := ⟨depth - 1, by omega⟩
  exact reads inner _ (nodeOf own (by omega))

theorem settled_node (own : fieldsApart fields = true)
    (each : ∀ entry ∈ fields, Settled entry.2) : Settled (node type fields span) := by
  have distinct : Dict.Distinct (("type", .string type) :: fields ++ span.toFields) := by
    have names := of_decide_eq_true own
    have same : Dict.keys (("type", .string type) :: fields ++ span.toFields) =
        "type" :: (Dict.keys fields ++ ["start", "end"]) := by
      simp [Dict.keys, Span.toFields]
    rw [Dict.Distinct, same]
    have moved : ("type" :: (Dict.keys fields ++ ["start", "end"])).Perm
        (nodeNames ++ Dict.keys fields) := List.Perm.cons _ List.perm_append_comm
    exact moved.nodup_iff.mpr names
  refine .object distinct fun entry member => ?_
  simp only [List.cons_append, List.mem_cons, List.mem_append, Span.toFields,
    List.not_mem_nil, or_false] at member
  rcases member with rfl | own | rfl | rfl
  · exact .string _
  · exact each entry own
  · exact .integer _
  · exact .integer _

section Lists

variable {read? : Nat → Json → Option α}

theorem reads_nil : Reads (fun depth => asList? (read? depth)) (.array []) [] :=
  fun _ _ => rfl

theorem Reads.cons {value : α} {items : List Json} {values : List α}
    (first : Reads read? json value)
    (rest : Reads (fun depth => asList? (read? depth)) (.array items) values) :
    Reads (fun depth => asList? (read? depth)) (.array (json :: items)) (value :: values) := by
  intro depth bounded
  simp only [Json.depth, depthItems] at bounded
  have others : items.mapM (read? depth) = some values :=
    rest depth (by rw [Json.depth]; omega)
  change (json :: items).mapM (read? depth) = _
  rw [List.mapM_cons, first depth (by omega), others]
  rfl

theorem Settled.cons {items : List Json} (rest : Settled (.array items)) (first : Settled json) :
    Settled (.array (json :: items)) := by
  cases rest with
  | array each => exact .array (List.forall_mem_cons.mpr ⟨first, each⟩)

end Lists

end Json

end ChatTemplate
