import ChatTemplate.Proofs.Conversion
import ChatTemplate.Proofs.Double.Integral
import ChatTemplate.Value.Operation
import Mathlib.Data.List.Perm.Subperm

/-!
The two equalities are coherent. Strict equality is symmetric and transitive, and reflexive on
values without NaN; in maps it does not see the order of keys. Loose equality extends it, and differs
from it on scalars of different kinds only. What is strictly equal cannot be told apart by a
condition, by `typeof`, by conversion to a number, but for the sign of zero, and by loose equality.
-/

set_option autoImplicit false

namespace ChatTemplate

namespace Double

variable {x y : Double}

private theorem isZero_iff (finite : x.isFinite = true) : x.isZero = true ↔ x.units = 0 := by
  constructor
  · exact units_of_isZero
  · intro nothing
    rw [units_eq_withSign] at nothing
    have size := congrArg Int.natAbs nothing
    rw [natAbs_withSign] at size
    cases x with
    | finite => exact beq_iff_eq.mpr size
    | _ => cases finite

private theorem unsignedZero_eq_of_units (finite : x.isFinite = true) (finite' : y.isFinite = true)
    (same : x.units = y.units) : x.unsignedZero = y.unsignedZero := by
  simp only [unsignedZero, isZero_iff finite, isZero_iff finite', same]
  split
  · rfl
  · rename_i nonzero
    rw [← ofUnits_units finite (same ▸ nonzero), ← ofUnits_units finite' nonzero, same]

/-- What both zeros have alike, a number keeps when zero loses its sign. -/
theorem apply_unsignedZero {α : Type} (f : Double → α) (x : Double)
    (zeros : x.isZero = true → f (zero false) = f x) : f x.unsignedZero = f x := by
  rw [unsignedZero]
  split
  · rename_i isZero
    exact zeros isZero
  · rfl

private theorem units_unsignedZero (x : Double) : x.unsignedZero.units = x.units :=
  apply_unsignedZero units x fun isZero => (units_of_isZero isZero).symm

private theorem isFinite_unsignedZero (x : Double) : x.unsignedZero.isFinite = x.isFinite :=
  apply_unsignedZero isFinite x fun isZero => (isFinite_of_isZero isZero).symm

private theorem isZero_unsignedZero (x : Double) : x.unsignedZero.isZero = x.isZero :=
  apply_unsignedZero isZero x fun isZero => isZero.symm

private theorem isNan_unsignedZero (x : Double) : x.unsignedZero.isNan = x.isNan := by
  refine apply_unsignedZero isNan x fun isZero => ?_
  cases x with
  | nan => cases isZero
  | _ => rfl

private theorem unsignedZero_ne (different : x.isFinite ≠ y.isFinite) :
    x.unsignedZero ≠ y.unsignedZero := by
  intro same
  have finite := congrArg isFinite same
  rw [isFinite_unsignedZero, isFinite_unsignedZero] at finite
  exact different finite

/-- Numbers are equal when they are the same but for the sign of zero, and are not NaN. -/
theorem equal_iff : x.equal y = true ↔ x.isNan = false ∧ x.unsignedZero = y.unsignedZero := by
  cases x with
  | nan => simp [equal, compare?, isNan]
  | infinite negative =>
      cases y with
      | nan => cases negative <;> decide
      | infinite negative' => cases negative <;> cases negative' <;> decide
      | finite negative' exponent fraction =>
          have different := unsignedZero_ne (x := .infinite negative)
            (y := .finite negative' exponent fraction) Bool.false_ne_true
          cases negative <;> simp [equal, compare?, different]
  | finite negative exponent fraction =>
      cases y with
      | finite negative' exponent' fraction' =>
          constructor
          · intro equal
            refine ⟨rfl, unsignedZero_eq_of_units rfl rfl ?_⟩
            simpa [Double.equal, compare?] using equal
          · rintro ⟨-, same⟩
            refine equal_of_units rfl rfl ?_
            rw [← units_unsignedZero, same, units_unsignedZero]
      | infinite negative' =>
          have different := unsignedZero_ne (x := .finite negative exponent fraction)
            (y := .infinite negative') Bool.false_ne_true.symm
          cases negative' <;> simp [equal, compare?, different]
      | nan =>
          have different := unsignedZero_ne (x := .finite negative exponent fraction) (y := .nan)
            Bool.false_ne_true.symm
          simp [equal, compare?, different]

theorem equal_symm (equal : x.equal y = true) : y.equal x = true := by
  obtain ⟨number, same⟩ := equal_iff.mp equal
  rw [← isNan_unsignedZero, same, isNan_unsignedZero] at number
  exact equal_iff.mpr ⟨number, same.symm⟩

theorem equal_congr (equal : x.equal y = true) (z : Double) : x.equal z = y.equal z := by
  obtain ⟨-, same⟩ := equal_iff.mp equal
  rw [Bool.eq_iff_iff, equal_iff, equal_iff, ← isNan_unsignedZero x, ← isNan_unsignedZero y, same]

theorem equal_comm (x y : Double) : x.equal y = y.equal x :=
  Bool.eq_iff_iff.mpr ⟨equal_symm, equal_symm⟩

end Double

namespace Value

/-! ## Strict equality -/

private theorem strictEqualItems_iff {items others : List Value} :
    strictEqualItems items others = true ↔ items.length = others.length ∧
      ∀ (index : Nat) (v w : Value), items[index]? = some v → others[index]? = some w →
        strictEqual v w = true := by
  induction items generalizing others with
  | nil => cases others <;> simp [strictEqualItems]
  | cons item items ih =>
      cases others with
      | nil => simp [strictEqualItems]
      | cons other others =>
          simp only [strictEqualItems, Bool.and_eq_true, ih, List.length_cons,
            Nat.add_right_cancel_iff]
          constructor
          · rintro ⟨first, length, rest⟩
            refine ⟨length, fun index v w left right => ?_⟩
            cases index with
            | zero =>
                cases left
                cases right
                exact first
            | succ index => exact rest index v w left right
          · rintro ⟨length, each⟩
            exact ⟨each 0 item other rfl rfl, length, fun index => each (index + 1)⟩

private theorem strictEqualRow_iff {keys : List String} {row : Dict.Row Value keys}
    {others : Dict Value} :
    strictEqualRow row others = true ↔ ∀ entry ∈ row.entries, ∃ value,
      others.get? entry.1 = some value ∧ strictEqual entry.2 value = true := by
  refine ⟨fun equal => ?_, strictEqualRow_of_found⟩
  induction row with
  | nil => exact nofun
  | cons key value fresh rest ih =>
      obtain ⟨first, later⟩ := Bool.and_eq_true_iff.mp equal
      refine List.forall_mem_cons.mpr ⟨?_, ih later⟩
      split at first
      · rename_i value found
        exact ⟨value, found, first⟩
      · cases first

/-- Two maps have the same keys, in whatever order, and equal values under them. -/
def SameEntries (entries others : Dict Value) : Prop :=
  (∀ key, key ∈ entries.names ↔ key ∈ others.names) ∧
    ∀ (key : String) (v w : Value), entries.get? key = some v → others.get? key = some w →
      strictEqual v w = true

theorem strictEqual_map_iff {entries others : Dict Value} :
    strictEqual (.map entries) (.map others) = true ↔ SameEntries entries others := by
  rw [strictEqual, Bool.and_eq_true, beq_iff_eq, strictEqualRow_iff]
  constructor
  · rintro ⟨size, each⟩
    have subset : entries.names ⊆ others.names := by
      intro key present
      obtain ⟨value, left⟩ := Dict.mem_names_iff.mp present
      obtain ⟨value, right, -⟩ := each _ (Dict.mem_of_get? left)
      exact Dict.mem_names_iff.mpr ⟨value, right⟩
    -- Distinct keys that are all among the others, and no fewer, are the others in some order.
    have same := (List.subperm_of_subset entries.names_nodup subset).perm_of_length_le size.ge
    refine ⟨fun key => same.mem_iff, fun key v w left right => ?_⟩
    obtain ⟨value, found, equal⟩ := each _ (Dict.mem_of_get? left)
    cases found.symm.trans right
    exact equal
  · rintro ⟨keys, values⟩
    have same : entries.names.Perm others.names :=
      (List.perm_ext_iff_of_nodup entries.names_nodup others.names_nodup).mpr keys
    refine ⟨same.length_eq, fun entry member => ?_⟩
    have left := Dict.get?_of_mem member
    obtain ⟨value, right⟩ :=
      Dict.mem_names_iff.mp ((keys entry.1).mp (Dict.mem_names_iff.mpr ⟨entry.2, left⟩))
    exact ⟨value, right, values _ _ _ left right⟩

/-- What makes two values strictly equal. -/
inductive Alike : Value → Value → Prop where
  | null : Alike .null .null
  | boolean (value : Bool) : Alike (.boolean value) (.boolean value)
  | number {x y : Double} (equal : x.equal y = true) : Alike (.number x) (.number y)
  | string (value : String) : Alike (.string value) (.string value)
  | list {items others : List Value} (length : items.length = others.length)
      (each : ∀ (index : Nat) (v w : Value), items[index]? = some v → others[index]? = some w →
        strictEqual v w = true) : Alike (.list items) (.list others)
  | map {entries others : Dict Value} (same : SameEntries entries others) :
      Alike (.map entries) (.map others)
  | function (reference : Nat) : Alike (.function reference) (.function reference)

variable {u v w : Value}

theorem strictEqual_iff : strictEqual v w = true ↔ Alike v w := by
  constructor
  · intro equal
    cases v <;> cases w <;> try exact absurd equal Bool.false_ne_true
    case null => exact .null
    case boolean => exact beq_iff_eq.mp equal ▸ .boolean _
    case number => exact .number equal
    case string => exact beq_iff_eq.mp equal ▸ .string _
    case list =>
      obtain ⟨length, each⟩ := strictEqualItems_iff.mp equal
      exact .list length each
    case map => exact .map (strictEqual_map_iff.mp equal)
    case function => exact beq_iff_eq.mp equal ▸ .function _
  · intro alike
    cases alike with
    | null => rfl
    | boolean value => exact beq_self_eq_true value
    | number equal => exact equal
    | string value => exact beq_self_eq_true value
    | list length each => exact strictEqualItems_iff.mpr ⟨length, each⟩
    | map same => exact strictEqual_map_iff.mpr same
    | function reference => exact beq_self_eq_true reference

theorem strictEqual_symm (equal : strictEqual v w = true) : strictEqual w v = true := by
  induction v using induction_nested generalizing w with
  | number x =>
      cases strictEqual_iff.mp equal with
      | number equal => exact Double.equal_symm equal
  | list items ih =>
      cases strictEqual_iff.mp equal with
      | list length each =>
          refine strictEqual_iff.mpr
            (.list length.symm fun index b a right left => ?_)
          exact ih a (List.mem_of_getElem? left) 
            (each index a b left right)
  | map entries ih =>
      cases strictEqual_iff.mp equal with
      | map same =>
          obtain ⟨keys, values⟩ := same
          refine strictEqual_iff.mpr
            (.map ⟨fun key => (keys key).symm, fun key b a right left => ?_⟩)
          exact ih _ (Dict.mem_of_get? left) 
            (values key a b left right)
  | _ =>
      cases strictEqual_iff.mp equal
      exact equal

theorem strictEqual_trans (first : strictEqual u v = true) (second : strictEqual v w = true) :
    strictEqual u w = true := by
  induction u using induction_nested generalizing v w with
  | number x =>
      cases strictEqual_iff.mp first with
      | number equal =>
          cases strictEqual_iff.mp second with
          | number equal' => exact (Double.equal_congr equal _).trans equal'
  | list items ih =>
      cases strictEqual_iff.mp first with
      | @list _ others length each =>
          cases strictEqual_iff.mp second with
          | list length' each' =>
              refine strictEqual_iff.mpr
                (.list (length.trans length') fun index a c left right => ?_)
              -- The middle list is as long as the first, so it has an item there as well.
              obtain ⟨inside, -⟩ := List.getElem?_eq_some_iff.mp left
              obtain ⟨b, middle⟩ : ∃ b, others[index]? = some b :=
                ⟨_, List.getElem?_eq_getElem (length ▸ inside)⟩
              exact ih a (List.mem_of_getElem? left) 
                (each index a b left middle) (each' index b c middle right)
  | map entries ih =>
      cases strictEqual_iff.mp first with
      | @map _ others same =>
          cases strictEqual_iff.mp second with
          | map same' =>
              obtain ⟨keys, values⟩ := same
              obtain ⟨keys', values'⟩ := same'
              refine strictEqual_iff.mpr
                (.map ⟨fun key => (keys key).trans (keys' key), fun key a c left right => ?_⟩)
              obtain ⟨b, middle⟩ :=
                Dict.mem_names_iff.mp ((keys key).mp (Dict.mem_names_iff.mpr ⟨a, left⟩))
              exact ih _ (Dict.mem_of_get? left) 
                (values key a b left middle) (values' key b c middle right)
  | _ =>
      cases strictEqual_iff.mp first
      exact second

/-- The inner value is the other one or in it, at whatever depth. -/
inductive Within (inner : Value) : Value → Prop where
  | self : Within inner inner
  | item {items : List Value} {item : Value} (member : item ∈ items) (inside : Within inner item) :
      Within inner (.list items)
  | entry {entries : Dict Value} {entry : String × Value} (member : entry ∈ entries.entries)
      (inside : Within inner entry.2) : Within inner (.map entries)

theorem strictEqual_self_iff :
    strictEqual v v = true ↔ ¬ (Value.number .nan).Within v := by
  induction v using induction_nested with
  | number x =>
      have self : strictEqual (.number x) (.number x) = true ↔ x.isNan = false :=
        Double.equal_iff.trans (and_iff_left rfl)
      rw [self]
      constructor
      · intro number inside
        cases inside
        cases number
      · intro absent
        cases x with
        | nan => exact absurd .self absent
        | _ => rfl
  | list items ih =>
      rw [strictEqual_iff]
      constructor
      · intro alike inside
        cases alike with
        | list length each =>
            cases inside with
            | @item _ item member inside =>
                obtain ⟨index, found⟩ := List.mem_iff_getElem?.mp member
                exact (ih item member ).mp (each index _ _ found found) inside
      · intro absent
        refine .list rfl fun index a b left right => ?_
        cases left.symm.trans right
        have member := List.mem_of_getElem? left
        exact (ih a member ).mpr fun inside => absent (.item member inside)
  | map entries ih =>
      rw [strictEqual_iff]
      constructor
      · intro alike inside
        cases alike with
        | map same =>
            cases inside with
            | @entry _ entry member inside =>
                have found := Dict.get?_of_mem member
                exact (ih entry member ).mp (same.2 _ _ _ found found) inside
      · intro absent
        refine .map ⟨fun key => Iff.rfl, fun key a b left right => ?_⟩
        cases left.symm.trans right
        have member := Dict.mem_of_get? left
        exact (ih _ member ).mpr fun inside => absent (.entry member inside)
  | _ =>
      refine iff_of_true (by simp [strictEqual]) fun inside => ?_
      cases inside

/-! ## Loose equality -/

/-- Scalars of different kinds: what loose equality compares as numbers. -/
def Coerced (v w : Value) : Prop :=
  v.isScalar = true ∧ w.isScalar = true ∧ v.typeName ≠ w.typeName

theorem Coerced.symm (coerced : Coerced v w) : Coerced w v :=
  ⟨coerced.2.1, coerced.1, coerced.2.2.symm⟩

private theorem exists_toNumber (scalar : v.isScalar = true) : ∃ x, v.toNumber = .ok x := by
  cases v with
  | boolean | number | string => exact ⟨_, rfl⟩
  | _ => cases scalar

private theorem looseEqual_of_coerced {x y : Double} (coerced : Coerced v w)
    (number : v.toNumber = .ok x) (number' : w.toNumber = .ok y) : looseEqual v w = x.equal y := by
  obtain ⟨scalar, scalar', different⟩ := coerced
  unfold looseEqual
  split
  · cases scalar
  · cases scalar
  · cases scalar'
  · rw [number, number', if_pos (by simp [scalar, scalar', different])]

private theorem looseEqual_of_not_coerced (direct : ¬ Coerced v w) :
    looseEqual v w = strictEqual v w := by
  unfold looseEqual
  split
  · rfl
  · rename_i other
    cases w with
    | null => exact absurd rfl other
    | _ => rfl
  · rename_i other
    cases v with
    | null => exact absurd rfl other
    | _ => rfl
  · rw [if_neg]
    simpa [Coerced, and_assoc] using direct

theorem strictEqual_comm (v w : Value) : strictEqual v w = strictEqual w v :=
  Bool.eq_iff_iff.mpr ⟨strictEqual_symm, strictEqual_symm⟩

theorem looseEqual_comm (v w : Value) : looseEqual v w = looseEqual w v := by
  by_cases coerced : Coerced v w
  · obtain ⟨x, number⟩ := exists_toNumber coerced.1
    obtain ⟨y, number'⟩ := exists_toNumber coerced.2.1
    rw [looseEqual_of_coerced coerced number number',
      looseEqual_of_coerced coerced.symm number' number, Double.equal_comm]
  · rw [looseEqual_of_not_coerced coerced, looseEqual_of_not_coerced (mt Coerced.symm coerced),
      strictEqual_comm]

/-- The values that are never compared as numbers. -/
inductive Uncoerced : Value → Prop where
  | null : Uncoerced .null
  | list (items : List Value) : Uncoerced (.list items)
  | map (entries : Dict Value) : Uncoerced (.map entries)
  | function (reference : Nat) : Uncoerced (.function reference)

theorem Uncoerced.isScalar (uncoerced : v.Uncoerced) : v.isScalar = false := by
  cases uncoerced <;> rfl

theorem looseEqual_eq_strictEqual
    (direct : v.typeName = w.typeName ∨ v.Uncoerced ∨ w.Uncoerced) :
    looseEqual v w = strictEqual v w := by
  refine looseEqual_of_not_coerced fun coerced => ?_
  obtain ⟨scalar, scalar', different⟩ := coerced
  rcases direct with same | uncoerced | uncoerced
  · exact different same
  · exact Bool.false_ne_true (uncoerced.isScalar.symm.trans scalar)
  · exact Bool.false_ne_true (uncoerced.isScalar.symm.trans scalar')

/-! ## What cannot tell equal values apart -/

theorem Alike.typeName (alike : Alike v w) : v.typeName = w.typeName := by
  cases alike <;> rfl

theorem Alike.typeOf (alike : Alike v w) : v.typeOf = w.typeOf := by
  cases alike <;> rfl

theorem Alike.isScalar (alike : Alike v w) : v.isScalar = w.isScalar := by
  cases alike <;> rfl

theorem Alike.isTrue (alike : Alike v w) : v.isTrue = w.isTrue := by
  cases alike with
  | number equal =>
      obtain ⟨-, same⟩ := Double.equal_iff.mp equal
      rw [Value.isTrue, Value.isTrue, ← Double.isNan_unsignedZero, ← Double.isZero_unsignedZero,
        same, Double.isNan_unsignedZero, Double.isZero_unsignedZero]
  | _ => rfl

theorem Alike.toNumber (alike : Alike v w) :
    v.toNumber.map Double.unsignedZero = w.toNumber.map Double.unsignedZero := by
  cases alike with
  | number equal => exact congrArg Except.ok (Double.equal_iff.mp equal).2
  | _ => rfl

theorem Alike.coerced_iff (alike : Alike v w) : Coerced v u ↔ Coerced w u := by
  rw [Coerced, Coerced, alike.isScalar, alike.typeName]

theorem Alike.equal_numbers {x y : Double} (alike : Alike v w) (other : Double)
    (number : v.toNumber = .ok x) (number' : w.toNumber = .ok y) :
    x.equal other = y.equal other := by
  cases alike with
  | number equal =>
      cases number
      cases number'
      exact Double.equal_congr equal other
  | _ =>
      cases number.symm.trans number'
      rfl

theorem looseEqual_congr (equal : strictEqual v w = true) (u : Value) :
    looseEqual v u = looseEqual w u := by
  have alike := strictEqual_iff.mp equal
  by_cases coerced : Coerced v u
  · have coerced' := alike.coerced_iff.mp coerced
    obtain ⟨x, number⟩ := exists_toNumber coerced.1
    obtain ⟨y, number'⟩ := exists_toNumber coerced'.1
    obtain ⟨z, number''⟩ := exists_toNumber coerced.2.1
    rw [looseEqual_of_coerced coerced number number'',
      looseEqual_of_coerced coerced' number' number'', alike.equal_numbers z number number']
  · have direct := mt alike.coerced_iff.mpr coerced
    rw [looseEqual_of_not_coerced coerced, looseEqual_of_not_coerced direct]
    exact Bool.eq_iff_iff.mpr ⟨strictEqual_trans (strictEqual_symm equal), strictEqual_trans equal⟩

/-- No condition, no `typeof`, no conversion to a number, but for the sign of zero, and no loose
comparison tells the values apart. -/
structure Indistinct (v w : Value) : Prop where
  isTrue : v.isTrue = w.isTrue
  typeOf : v.typeOf = w.typeOf
  toNumber : v.toNumber.map Double.unsignedZero = w.toNumber.map Double.unsignedZero
  looseEqual : ∀ other : Value, v.looseEqual other = w.looseEqual other

/-- The two equalities are coherent. Strict equality is symmetric and transitive, holds of a value
and itself when there is no NaN in it, and does not see the order of the keys of maps. Loose equality
is symmetric and extends it, by scalars of different kinds only. What is strictly equal is the same
to conditions, `typeof`, conversion to numbers and loose equality. -/
theorem equality_coherent (u v w : Value) :
    strictEqual v w = strictEqual w v ∧
    (strictEqual u v = true → strictEqual v w = true → strictEqual u w = true) ∧
    (strictEqual v v = true ↔ ¬ (Value.number .nan).Within v) ∧
    (∀ entries others, v = .map entries → w = .map others →
      (strictEqual v w = true ↔ SameEntries entries others)) ∧
    looseEqual v w = looseEqual w v ∧
    (strictEqual v w = true → looseEqual v w = true) ∧
    (v.typeName = w.typeName ∨ v.Uncoerced ∨ w.Uncoerced → looseEqual v w = strictEqual v w) ∧
    (binary .equal v w = .ok (.boolean (looseEqual v w)) ∧
      binary .notEqual v w = .ok (.boolean !looseEqual v w)) ∧
    (binary .strictEqual v w = .ok (.boolean (strictEqual v w)) ∧
      binary .strictNotEqual v w = .ok (.boolean !strictEqual v w)) ∧
    (strictEqual v w = true → Indistinct v w) := by
  refine ⟨strictEqual_comm v w, strictEqual_trans, strictEqual_self_iff, ?_, looseEqual_comm v w, ?_,
    looseEqual_eq_strictEqual, ⟨rfl, rfl⟩, ⟨rfl, rfl⟩, ?_⟩
  · rintro entries others rfl rfl
    exact strictEqual_map_iff
  · intro equal
    have alike := strictEqual_iff.mp equal
    rw [looseEqual_eq_strictEqual (.inl alike.typeName), equal]
  · intro equal
    have alike := strictEqual_iff.mp equal
    exact ⟨alike.isTrue, alike.typeOf, alike.toNumber, looseEqual_congr equal⟩

def receipt : Value :=
  .map (.ofEntries
    [("total", .number (.zero true)), ("tags", .list [.string "paid", .boolean true])])

/-- The same with its keys in another order and the other zero. -/
def reordered : Value :=
  .map (.ofEntries
    [("tags", .list [.string "paid", .boolean true]), ("total", .number (.zero false))])

theorem receipt_equality_coherent :
    strictEqual receipt reordered = true ∧
      strictEqual reordered receipt = true ∧ strictEqual reordered reordered = true ∧
      ¬ (Value.number .nan).Within receipt ∧ looseEqual receipt reordered = true ∧
      binary .notEqual receipt reordered = .ok (.boolean false) ∧ Indistinct receipt reordered := by
  have equal : strictEqual receipt reordered = true := by decide +kernel
  have self : strictEqual receipt receipt = true := by decide +kernel
  obtain ⟨symm, trans, refl, -, -, within, -, ⟨-, unequal⟩, -, indistinct⟩ :=
    equality_coherent reordered receipt reordered
  have loose := within equal
  rw [loose] at unequal
  exact ⟨equal, symm ▸ equal, trans (symm ▸ equal) equal, refl.mp self, loose, unequal,
    indistinct equal⟩

end Value

end ChatTemplate
