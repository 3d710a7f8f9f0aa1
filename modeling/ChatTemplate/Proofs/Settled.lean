import ChatTemplate.Json.Fields

/-!
Settled JSON values. A value is settled when no object in it repeats a key. `collapse` settles a
value, and leaves one that is settled as it is.
-/

set_option autoImplicit false

namespace ChatTemplate.Json

/-- No object in the value, at whatever depth, repeats a key. -/
inductive Settled : Json → Prop where
  | null : Settled .null
  | boolean (value : Bool) : Settled (.boolean value)
  | integer (value : Int) : Settled (.integer value)
  | float (value : Double) : Settled (.float value)
  | string (value : String) : Settled (.string value)
  | array {items : List Json} (each : ∀ item ∈ items, Settled item) : Settled (.array items)
  | object {entries : List (String × Json)} (distinct : Dict.Distinct entries)
      (each : ∀ entry ∈ entries, Settled entry.2) : Settled (.object entries)

private theorem collapseItems_eq (items : List Json) :
    collapseItems items = items.map collapse := by
  induction items with
  | nil => rfl
  | cons item rest ih => rw [collapseItems, ih, List.map_cons]

private theorem collapseEntries_eq (entries : List (String × Json)) :
    collapseEntries entries = entries.map fun entry => (entry.1, entry.2.collapse) := by
  induction entries with
  | nil => rfl
  | cons entry rest ih => rw [collapseEntries, ih, List.map_cons]

theorem Settled.collapse {json : Json} (settled : Settled json) : json.collapse = json := by
  induction settled with
  | array each ih =>
      rw [Json.collapse, collapseItems_eq, List.map_congr_left ih, List.map_id']
  | @object entries distinct each ih =>
      have same : ∀ entry ∈ entries, (entry.1, entry.2.collapse) = entry :=
        fun entry member => Prod.ext rfl (ih entry member)
      rw [Json.collapse, collapseEntries_eq, List.map_congr_left same, List.map_id',
        Dict.entries_ofEntries distinct]
  | _ => rfl

mutual

theorem settled_collapse : (json : Json) → Settled json.collapse
  | .null => .null
  | .boolean value => .boolean value
  | .integer value => .integer value
  | .float value => .float value
  | .string value => .string value
  | .array items => .array (settled_collapseItems items)
  | .object entries => .object (Dict.ofEntries _).distinct fun entry member =>
      settled_collapseEntries entries entry (Dict.mem_ofEntries member)

private theorem settled_collapseItems :
    (items : List Json) → ∀ item ∈ collapseItems items, Settled item
  | [] => nofun
  | first :: rest => by
      intro item member
      rcases List.mem_cons.mp member with rfl | later
      · exact settled_collapse first
      · exact settled_collapseItems rest item later

private theorem settled_collapseEntries :
    (entries : List (String × Json)) → ∀ entry ∈ collapseEntries entries, Settled entry.2
  | [] => nofun
  | (key, value) :: rest => by
      intro entry member
      rcases List.mem_cons.mp member with rfl | later
      · exact settled_collapse value
      · exact settled_collapseEntries rest entry later

end

/-! ## Fields of objects -/

theorem occurrences_append (first second : List (String × Json)) (key : String) :
    occurrences (first ++ second) key = occurrences first key ++ occurrences second key :=
  List.filterMap_append

theorem occurrences_of_absent {entries : List (String × Json)} {key : String}
    (absent : Dict.contains entries key = false) : occurrences entries key = [] := by
  induction entries with
  | nil => rfl
  | cons entry rest ih =>
      by_cases same : entry.1 = key
      · simp [Dict.contains, Dict.find?, same] at absent
      · have later : Dict.contains rest key = false := by
          simpa [Dict.contains, Dict.find?, same] using absent
        simpa [occurrences, same] using ih later

end ChatTemplate.Json
