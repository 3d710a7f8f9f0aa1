import ChatTemplate.Proofs.Double.Exact
import ChatTemplate.Value.Equality
import ChatTemplate.Value.Text

/-!
The conversion of values to JSON and back. It keeps all lists and maps as they are. Of what they
hold it loses functions, numbers that are not finite and the sign of zero, and nothing else; what has
been converted once is not changed again.
-/

set_option autoImplicit false

namespace ChatTemplate

namespace Double

theorem isFinite_of_isZero {x : Double} (zero : x.isZero = true) : x.isFinite = true := by
  cases x with
  | finite => rfl
  | _ => cases zero

theorem isFinite_of_isWhole {x : Double} (whole : x.isWhole = true) : x.isFinite = true := by
  cases x with
  | finite => rfl
  | _ => cases whole

theorem units_of_isZero {x : Double} (zero : x.isZero = true) : x.units = 0 := by
  cases x with
  | finite =>
      have nothing := beq_iff_eq.mp zero
      simp [units, nothing]
  | _ => cases zero

theorem equal_of_units {x y : Double} (finite : x.isFinite = true) (finite' : y.isFinite = true)
    (same : x.units = y.units) : x.equal y = true := by
  cases x with
  | finite =>
      cases y with
      | finite => simp [equal, compare?, same]
      | _ => cases finite'
  | _ => cases finite

private theorem unsignedZero_equal {x : Double} (finite : x.isFinite = true) :
    x.unsignedZero.equal x = true := by
  rw [unsignedZero]
  split
  · rename_i isZero
    exact equal_of_units rfl finite (units_of_isZero isZero).symm
  · exact equal_of_units finite finite rfl

end Double

namespace Value

/-- What holds of lists and maps when it holds of all that is in them, holds of every value. -/
theorem induction_nested {motive : Value → Prop} (null : motive .null)
    (boolean : ∀ value, motive (.boolean value)) (number : ∀ value, motive (.number value))
    (string : ∀ value, motive (.string value))
    (list : ∀ items, (∀ item ∈ items, motive item) → motive (.list items))
    (map : ∀ entries, (∀ entry ∈ entries.entries, motive entry.2) → motive (.map entries))
    (function : ∀ reference, motive (.function reference)) (value : Value) : motive value := by
  refine @Value.rec motive (fun items => ∀ item ∈ items, motive item)
    (fun entries => ∀ entry ∈ entries.entries, motive entry.2)
    (fun _ row => ∀ entry ∈ row.entries, motive entry.2)
    null boolean number string list map function ?_ ?_ ?_ ?_ ?_ value
  · exact nofun
  · intro first rest holds all item member
    rcases List.mem_cons.mp member with rfl | later
    · exact holds
    · exact all item later
  · exact fun _ all => all
  · exact nofun
  · intro _ key first _ rest holds all entry member
    rcases List.mem_cons.mp member with rfl | later
    · exact holds
    · exact all entry later

/-! ## Lists and maps, element by element -/

mutual

/-- The value with everything in it changed that is neither a list nor a map. -/
def mapLeaves (change : Value → Value) : Value → Value
  | .list items => .list (itemsMapLeaves change items)
  | .map entries => .map ⟨rowMapLeaves change entries.row⟩
  | leaf => change leaf

def itemsMapLeaves (change : Value → Value) : List Value → List Value
  | [] => []
  | item :: rest => item.mapLeaves change :: itemsMapLeaves change rest

def rowMapLeaves (change : Value → Value) :
    {keys : List String} → Dict.Row Value keys → Dict.Row Value keys
  | _, .nil => .nil
  | _, .cons key value fresh rest =>
      .cons key (value.mapLeaves change) fresh (rowMapLeaves change rest)

end

private theorem itemsMapLeaves_eq (change : Value → Value) (items : List Value) :
    itemsMapLeaves change items = items.map (·.mapLeaves change) := by
  induction items with
  | nil => rfl
  | cons item rest ih => rw [itemsMapLeaves, ih, List.map_cons]

private theorem rowMapLeaves_eq (change : Value → Value) {keys : List String}
    (row : Dict.Row Value keys) : rowMapLeaves change row = row.mapValues (·.mapLeaves change) := by
  induction row with
  | nil => rfl
  | cons key value fresh rest ih => rw [rowMapLeaves, ih, Dict.Row.mapValues]

theorem mapLeaves_map (change : Value → Value) (entries : Dict Value) :
    (Value.map entries).mapLeaves change = .map (entries.mapValues (·.mapLeaves change)) := by
  rw [mapLeaves, rowMapLeaves_eq, Dict.mapValues]

private theorem itemsToJson_eq (items : List Value) : itemsToJson items = items.map (·.toJson) := by
  induction items with
  | nil => rfl
  | cons item rest ih => rw [itemsToJson, ih, List.map_cons]

private theorem rowToJson_eq {keys : List String} (row : Dict.Row Value keys) :
    rowToJson row = (row.mapValues (·.toJson)).entries := by
  induction row with
  | nil => rfl
  | cons key value fresh rest ih => rw [rowToJson, ih, Dict.Row.mapValues, Dict.Row.entries]

theorem toJson_map (entries : Dict Value) :
    (Value.map entries).toJson = .object (entries.mapValues (·.toJson)) := by
  rw [toJson, rowToJson_eq, Dict.mapValues, Dict.entries]

private theorem itemsOfJson_eq (items : List Json) : itemsOfJson items = items.map ofJson := by
  induction items with
  | nil => rfl
  | cons item rest ih => rw [itemsOfJson, ih, List.map_cons]

private theorem entriesOfJson_eq (entries : List (String × Json)) :
    entriesOfJson entries = entries.map fun entry => (entry.1, ofJson entry.2) := by
  induction entries with
  | nil => rfl
  | cons entry rest ih => rw [entriesOfJson, ih, List.map_cons]

/-! ## What is kept -/

/-- What is kept of a value that is neither a list nor a map. -/
def kept : Value → Value
  | .number value => if value.isFinite then .number value.unsignedZero else .null
  | .function _ => .null
  | value => value

private theorem numberToJson_of_isZero {value : Double} (zero : value.isZero = true) :
    numberToJson value = .integer 0 := by
  cases value with
  | finite =>
      have nothing := beq_iff_eq.mp zero
      simp [numberToJson, Double.isWhole, Double.truncate, nothing]
  | _ => cases zero

private theorem ofJson_numberToJson (value : Double) :
    ofJson (numberToJson value) = kept (.number value) := by
  cases zero : value.isZero with
  | true =>
      -- Zero is an integer in JSON, and integers have no sign of zero.
      have finite := Double.isFinite_of_isZero zero
      rw [numberToJson_of_isZero zero, kept, if_pos finite, Double.unsignedZero, if_pos zero]
      rfl
  | false =>
      have same := Double.unsignedZero_of_nonzero zero
      rw [numberToJson]
      split
      · rename_i exact
        obtain ⟨whole, -⟩ := Bool.and_eq_true_iff.mp exact
        have finite := Double.isFinite_of_isWhole whole
        simp [ofJson, kept, finite, Double.ofInt_truncate whole]
      · cases finite : value.isFinite with
        | true => simp [Json.ofDouble, ofJson, kept, finite, same]
        | false => simp [Json.ofDouble, ofJson, kept, finite]

/-- A value comes back from its JSON with what is kept of it. -/
theorem ofJson_toJson (value : Value) : ofJson value.toJson = value.mapLeaves kept := by
  induction value using induction_nested with
  | number value => exact ofJson_numberToJson value
  | list items ih =>
      rw [toJson, ofJson, mapLeaves, itemsToJson_eq, itemsOfJson_eq, itemsMapLeaves_eq, List.map_map]
      exact congrArg Value.list (List.map_congr_left ih)
  | map entries ih =>
      rw [toJson_map, ofJson, mapLeaves_map, entriesOfJson_eq, ← Dict.entries_mapValues,
        Dict.ofEntries_entries, Dict.mapValues_mapValues]
      exact congrArg Value.map (Dict.mapValues_congr ih)
  | _ => rfl

theorem toJson_mapLeaves_kept (value : Value) : (value.mapLeaves kept).toJson = value.toJson := by
  induction value using induction_nested with
  | number value =>
      cases finite : value.isFinite with
      | true =>
          simp only [mapLeaves, kept, finite, if_true, toJson, Double.unsignedZero]
          split
          · rename_i zero
            rw [numberToJson_of_isZero zero]
            rfl
          · rfl
      | false =>
          have fractional : value.isWhole = false := by
            have infinite := mt (@Double.isFinite_of_isWhole value)
            simpa [finite] using infinite
          simp [mapLeaves, kept, finite, toJson, numberToJson, fractional, Json.ofDouble]
  | list items ih =>
      rw [mapLeaves, toJson, toJson, itemsMapLeaves_eq, itemsToJson_eq, itemsToJson_eq, List.map_map]
      exact congrArg Json.array (List.map_congr_left ih)
  | map entries ih =>
      rw [mapLeaves_map, toJson_map, toJson_map, Dict.mapValues_mapValues,
        Dict.mapValues_congr ih]
  | _ => rfl

/-- The lists and maps of a value, with the keys of every map in order. -/
def outline (value : Value) : Value :=
  value.mapLeaves fun _ => .null

theorem outline_mapLeaves_kept (value : Value) : (value.mapLeaves kept).outline = value.outline := by
  induction value using induction_nested with
  | number value => cases finite : value.isFinite <;> simp [outline, mapLeaves, kept, finite]
  | list items ih =>
      simp only [outline, mapLeaves, itemsMapLeaves_eq, List.map_map]
      exact congrArg Value.list (List.map_congr_left ih)
  | map entries ih =>
      rw [outline, outline, mapLeaves_map, mapLeaves_map, mapLeaves_map, Dict.mapValues_mapValues]
      exact congrArg Value.map (Dict.mapValues_congr ih)
  | _ => rfl

/-! ## Values without loss -/

/-- No function and no number that is not finite is in the value, at whatever depth. -/
inductive Plain : Value → Prop where
  | null : Plain .null
  | boolean (value : Bool) : Plain (.boolean value)
  | number {value : Double} (finite : value.isFinite = true) : Plain (.number value)
  | string (value : String) : Plain (.string value)
  | list {items : List Value} (each : ∀ item ∈ items, Plain item) : Plain (.list items)
  | map {entries : Dict Value} (each : ∀ entry ∈ entries.entries, Plain entry.2) :
      Plain (.map entries)

private theorem strictEqualItems_map {change : Value → Value} {items : List Value}
    (same : ∀ item ∈ items, strictEqual (change item) item = true) :
    strictEqualItems (items.map change) items = true := by
  induction items with
  | nil => rfl
  | cons item rest ih =>
      obtain ⟨first, others⟩ := List.forall_mem_cons.mp same
      simp [strictEqualItems, first, ih others]

theorem strictEqualRow_of_found {keys : List String} {row : Dict.Row Value keys}
    {other : Dict Value} (found : ∀ entry ∈ row.entries, ∃ value, other.get? entry.1 = some value ∧
      strictEqual entry.2 value = true) : strictEqualRow row other = true := by
  induction row with
  | nil => rfl
  | cons key value fresh rest ih =>
      obtain ⟨⟨value, isFound, same⟩, others⟩ := List.forall_mem_cons.mp found
      simp [strictEqualRow, isFound, same, ih others]

theorem strictEqual_mapLeaves_kept {value : Value} (plain : value.Plain) :
    strictEqual (value.mapLeaves kept) value = true := by
  induction plain with
  | null => rfl
  | boolean value => simp [mapLeaves, kept, strictEqual]
  | number finite => simp [mapLeaves, kept, strictEqual, finite, Double.unsignedZero_equal finite]
  | string value => simp [mapLeaves, kept, strictEqual]
  | list each ih =>
      rw [mapLeaves, strictEqual, itemsMapLeaves_eq]
      exact strictEqualItems_map ih
  | @map entries each ih =>
      rw [mapLeaves_map, strictEqual, Dict.size_mapValues, beq_self_eq_true, Bool.true_and]
      refine strictEqualRow_of_found fun changed mapped => ?_
      rw [← Dict.entries, Dict.entries_mapValues] at mapped
      obtain ⟨entry, member, rfl⟩ := List.mem_map.mp mapped
      exact ⟨entry.2, Dict.get?_of_mem member, ih entry member⟩

/-- What comes back of a value from its JSON has the same lists and maps, with the keys in the same
order, and the same JSON. It is equal to the value unless that holds functions or numbers that are
not finite. -/
theorem json_round_trip (value : Value) :
    (value.Plain → strictEqual (ofJson value.toJson) value = true) ∧
      (ofJson value.toJson).outline = value.outline ∧
      (ofJson value.toJson).toJson = value.toJson := by
  rw [ofJson_toJson]
  exact ⟨strictEqual_mapLeaves_kept, outline_mapLeaves_kept value, toJson_mapLeaves_kept value⟩

/-- A map with a zero that has a sign and with a whole number that is no integer in JSON. -/
def measurement : Value :=
  .map (.ofEntries [("unit", .string "m"), ("offset", .number (.zero true)),
    ("range", .list [.number (.finite false (Fin.last 2046) (Fin.last 4503599627370495)), .null])])

theorem measurement_round_trip :
    measurement.Plain ∧
      measurement.toJson = .object [("unit", .string "m"), ("offset", .integer 0),
        ("range", .array
          [.float (.finite false (Fin.last 2046) (Fin.last 4503599627370495)), .null])] ∧
      strictEqual (ofJson measurement.toJson) measurement = true := by
  have plain : measurement.Plain := by
    refine .map (List.forall_mem_cons.mpr ⟨.string _, List.forall_mem_cons.mpr ⟨.number rfl, ?_⟩⟩)
    refine List.forall_mem_singleton.mpr (.list (List.forall_mem_cons.mpr ⟨.number rfl, ?_⟩))
    exact List.forall_mem_singleton.mpr .null
  exact ⟨plain, rfl, (json_round_trip measurement).1 plain⟩

end Value

end ChatTemplate
