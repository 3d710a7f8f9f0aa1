import ChatTemplate.Proofs.Causes

/-!
Members as one store that paths address. Reading a member, stepping into one, writing one and asking
for one each deal with keys by themselves, yet all go through the slot that a key names: an entry of
a map or an item of a list. So the laws of a store hold for slots, and by induction for paths: what
is written is read again, what stands in other slots is left alone, and a write that fails changes
nothing.
-/

set_option autoImplicit false

namespace ChatTemplate

/-- A place inside a map or a list. -/
inductive Slot where
  | entry (key : String)
  | item (index : Nat)
  deriving DecidableEq

namespace Value

/-- The slot that a key names in a map or list. Its number of items is no slot of a list. -/
def slotOf? (container key : Value) : Option Slot :=
  match container with
  | .map _ => some (.entry key.keyText)
  | .list _ => key.toIndex?.map .item
  | _ => none

/-- What stands in a slot. -/
def content? (container : Value) (slot : Slot) : Option Value :=
  match container, slot with
  | .map entries, .entry key => entries.get? key
  | .list items, .item index => items[index]?
  | _, _ => none

/-- The map or list with a value in a slot. -/
def withContent (container : Value) (slot : Slot) (value : Value) : Value :=
  match container, slot with
  | .map entries, .entry key => .map (entries.insert key value)
  | .list items, .item index => .list (setItem items index value)
  | other, _ => other

/-! ## Items of lists -/

section Items

variable (items : List Value) (index : Nat) (value : Value)

theorem setItem_of_lt {items : List Value} {index : Nat} (inside : index < items.length) :
    setItem items index value = items.set index value :=
  if_pos inside

/-- A write behind the end of a list is a write into the list with the gap filled. -/
theorem setItem_of_le {items : List Value} {index : Nat} (behind : items.length ≤ index) :
    setItem items index value =
      (items ++ List.replicate (index + 1 - items.length) Value.null).set index value := by
  have gap : index + 1 - items.length = index - items.length + 1 := by omega
  rw [setItem, if_neg (by omega), gap, List.replicate_succ', ← List.append_assoc,
    List.set_append_right _ _ (by simp; omega)]
  simp [behind]

theorem getElem?_setItem_self : (setItem items index value)[index]? = some value := by
  rcases Nat.lt_or_ge index items.length with inside | behind
  · rw [setItem_of_lt value inside, List.getElem?_set_self inside]
  · rw [setItem_of_le value behind, List.getElem?_set_self (by simp; omega)]

/-- Other items stay as they are; what fills a gap reads like what is not there. -/
theorem getD_setItem_of_ne {other : Nat} (different : other ≠ index) :
    (setItem items index value)[other]?.getD .null = items[other]?.getD .null := by
  rcases Nat.lt_or_ge index items.length with inside | behind
  · rw [setItem_of_lt value inside, List.getElem?_set_ne different.symm]
  · rw [setItem_of_le value behind, List.getElem?_set_ne different.symm, List.getElem?_append]
    split
    · rfl
    · rename_i absent
      rw [List.getElem?_replicate, List.getElem?_eq_none (by omega)]
      split
      · rfl
      · rfl

private theorem setItem_setItem (later : Value) :
    setItem (setItem items index value) index later = setItem items index later := by
  have present : index < (setItem items index value).length :=
    (List.getElem?_eq_some_iff.mp (getElem?_setItem_self items index value)).1
  rw [setItem_of_lt later present]
  rcases Nat.lt_or_ge index items.length with inside | behind
  · rw [setItem_of_lt value inside, setItem_of_lt later inside, List.set_set]
  · rw [setItem_of_le value behind, setItem_of_le later behind, List.set_set]

private theorem setItem_of_getElem? {items : List Value} {index : Nat} {value : Value}
    (found : items[index]? = some value) : setItem items index value = items := by
  obtain ⟨inside, rfl⟩ := List.getElem?_eq_some_iff.mp found
  rw [setItem_of_lt _ inside, List.set_getElem_self]

end Items

/-! ## Slots -/

private theorem toIndex?_of_isLength {key : Value} (length : key.isLength = true) :
    key.toIndex? = none := by
  cases key with
  | string text =>
      obtain rfl : text = "length" := by simpa [isLength] using length
      rfl
  | _ => cases length

section Slots

variable {container key value : Value} {slot : Slot}

@[simp] theorem slotOf?_withContent (container key value : Value) (slot : Slot) :
    (container.withContent slot value).slotOf? key = container.slotOf? key := by
  cases container with
  | map entries => cases slot <;> rfl
  | list items => cases slot <;> rfl
  | _ => rfl

/-- The slot that a key names is of the kind of its container, and the key is not the length of a
list. -/
theorem slotOf?_eq_some (named : container.slotOf? key = some slot) :
    (∃ entries, container = .map entries ∧ slot = .entry key.keyText) ∨
      ∃ items index, container = .list items ∧ slot = .item index ∧ key.toIndex? = some index ∧
        key.isLength = false := by
  cases container with
  | map entries =>
      cases named
      exact .inl ⟨entries, rfl, rfl⟩
  | list items =>
      obtain ⟨index, found, rfl⟩ := Option.map_eq_some_iff.mp named
      refine .inr ⟨items, index, rfl, rfl, found, ?_⟩
      rw [Bool.eq_false_iff]
      intro length
      rw [toIndex?_of_isLength length] at found
      cases found
  | _ => cases named

private theorem content?_withContent_self (named : container.slotOf? key = some slot) :
    (container.withContent slot value).content? slot = some value := by
  rcases slotOf?_eq_some named with ⟨entries, rfl, rfl⟩ | ⟨items, index, rfl, rfl, -⟩
  · exact Dict.get?_insert_self entries key.keyText value
  · exact getElem?_setItem_self items index value

private theorem withContent_withContent (named : container.slotOf? key = some slot)
    (later : Value) :
    (container.withContent slot value).withContent slot later = container.withContent slot later := by
  rcases slotOf?_eq_some named with ⟨entries, rfl, rfl⟩ | ⟨items, index, rfl, rfl, -⟩
  · exact congrArg Value.map (Dict.insert_insert entries key.keyText value later)
  · exact congrArg Value.list (setItem_setItem items index value later)

private theorem withContent_of_content? (found : container.content? slot = some value) :
    container.withContent slot value = container := by
  cases container with
  | map entries =>
      cases slot with
      | entry key => exact congrArg Value.map (Dict.insert_of_get? found)
      | item index => cases found
  | list items =>
      cases slot with
      | entry key => cases found
      | item index => exact congrArg Value.list (setItem_of_getElem? found)
  | _ => cases found

/-! ## Keys and slots -/

private theorem member_of_slotOf? (named : container.slotOf? key = some slot) :
    container.member key = .ok ((container.content? slot).getD .null) := by
  rcases slotOf?_eq_some named with ⟨entries, rfl, rfl⟩ | ⟨items, index, rfl, rfl, found, plain⟩
  · rfl
  · simp [member, plain, found, content?]

theorem slot_eq_ok_iff {inner : Value} :
    container.slot key = .ok inner ↔
      ∃ place, container.slotOf? key = some place ∧ container.content? place = some inner := by
  cases container with
  | map entries =>
      cases found : entries.get? key.keyText with
      | none => simp [Value.slot, slotOf?, content?, found]
      | some value => simp [Value.slot, slotOf?, content?, found]
  | list items =>
      cases named : key.toIndex? with
      | none => simp [Value.slot, slotOf?, named]
      | some index =>
          cases found : items[index]? with
          | none => simp [Value.slot, slotOf?, content?, named, found]
          | some value => simp [Value.slot, slotOf?, content?, named, found]
  | _ => simp [Value.slot, slotOf?]

theorem setMember_eq_ok_iff {changed : Value} :
    container.setMember key value = .ok changed ↔
      ∃ place, container.slotOf? key = some place ∧ container.withContent place value = changed := by
  cases container with
  | map entries => simp [setMember, slotOf?, withContent]
  | list items =>
      cases named : key.toIndex? with
      | none => simp [setMember, slotOf?, named]
      | some index => simp [setMember, slotOf?, withContent, named]
  | _ => simp [setMember, slotOf?]

private theorem hasMember_of_slotOf? (named : container.slotOf? key = some slot)
    (present : (container.content? slot).isSome = true) : container.hasMember key = .ok true := by
  rcases slotOf?_eq_some named with ⟨entries, rfl, rfl⟩ | ⟨items, index, rfl, rfl, found, plain⟩
  · exact congrArg Except.ok present
  · have inside : index < items.length := by simpa [content?] using present
    simp [hasMember, found, inside]

end Slots

/-- Whether keys name slots in the value. -/
def isContainer : Value → Bool
  | .map _ | .list _ => true
  | _ => false

/-- A key is in a map or list just when there is a slot to step into; reading any other key than the
length of a list gives null where there is none. -/
theorem hasMember_spec {container key : Value} (holder : container.isContainer = true)
    (plain : key.isLength = false) :
    ∃ present, container.hasMember key = .ok present ∧
      (present = true ↔ ∃ inner, container.slot key = .ok inner) ∧
        (present = false → container.member key = .ok .null) := by
  cases container with
  | map entries =>
      refine ⟨entries.has key.keyText, rfl, ?_⟩
      cases found : entries.get? key.keyText with
      | none => simp [Value.slot, member, Dict.has, found]
      | some inner => simp [Value.slot, Dict.has, found]
  | list items =>
      cases named : key.toIndex? with
      | none => simp [hasMember, Value.slot, member, plain, named]
      | some index =>
          rcases Nat.lt_or_ge index items.length with inside | behind
          · simp [hasMember, Value.slot, plain, named, inside]
          · simp [hasMember, Value.slot, member, plain, named, behind]
  | _ => cases holder

/-! ## Paths -/

/-- A key that names another slot than the given one; the length of a list is not looked at, as it
is no slot. -/
def Apart (container key other : Value) : Prop :=
  match container with
  | .map _ => other.keyText ≠ key.keyText
  | .list _ => other.isLength = false ∧ other.toIndex? ≠ key.toIndex?
  | _ => False

/-- A path that follows another one through the slots of a container and at some step leaves it for
another slot. -/
inductive Departs : Value → List Value → List Value → Prop where
  | here {container key other : Value} {path others : List Value}
      (apart : container.Apart key other) : Departs container (key :: path) (other :: others)
  | further {container key same inner : Value} {path others : List Value}
      (together : container.slotOf? same = container.slotOf? key)
      (found : container.slot key = .ok inner) (departs : Departs inner path others) :
      Departs container (key :: path) (same :: others)

/-- The value with what stands at the end of a path replaced. -/
inductive Writes (value : Value) : Value → List Value → Value → Prop where
  | last {container key : Value} {slot : Slot} (named : container.slotOf? key = some slot) :
      Writes value container [key] (container.withContent slot value)
  | further {container key inner changed : Value} {slot : Slot} {path : List Value}
      (named : container.slotOf? key = some slot) (found : container.content? slot = some inner)
      (inside : Writes value inner path changed) :
      Writes value container (key :: path) (container.withContent slot changed)

theorem Writes.path_ne_nil {container value changed : Value} {path : List Value}
    (writes : Writes value container path changed) : path ≠ [] := by
  cases writes with
  | last => exact List.cons_ne_nil _ _
  | further => exact List.cons_ne_nil _ _

private theorem setMemberAt_cons (container key value : Value) {rest : List Value}
    (further : rest ≠ []) :
    container.setMemberAt (key :: rest) value =
      container.updateMember key fun inner => inner.setMemberAt rest value := by
  cases rest with
  | nil => exact absurd rfl further
  | cons next rest => rfl

private theorem writes_of_setMemberAt {container value changed : Value} {path : List Value}
    (nonempty : path ≠ []) (wrote : container.setMemberAt path value = .ok changed) :
    Writes value container path changed := by
  induction path generalizing container changed with
  | nil => exact absurd rfl nonempty
  | cons key rest ih =>
      by_cases end? : rest = []
      · subst end?
        obtain ⟨slot, named, rfl⟩ := setMember_eq_ok_iff.mp wrote
        exact .last named
      · rw [setMemberAt_cons container key value end?] at wrote
        obtain ⟨inner, stepped, wrote⟩ := except_bind_ok wrote
        obtain ⟨new, inside, wrote⟩ := except_bind_ok wrote
        obtain ⟨slot, named, found⟩ := slot_eq_ok_iff.mp stepped
        obtain ⟨place, again, rfl⟩ := setMember_eq_ok_iff.mp wrote
        obtain rfl : slot = place := Option.some.inj (named.symm.trans again)
        exact .further named found (ih end? inside)

section Writes

variable {container value changed : Value} {path : List Value}

theorem Writes.setMemberAt (writes : Writes value container path changed) :
    container.setMemberAt path value = .ok changed := by
  induction writes with
  | last named => exact setMember_eq_ok_iff.mpr ⟨_, named, rfl⟩
  | further named found inside ih =>
      rw [setMemberAt_cons _ _ _ inside.path_ne_nil, updateMember,
        slot_eq_ok_iff.mpr ⟨_, named, found⟩]
      show (Value.setMemberAt _ _ _ >>= fun new => _) = _
      rw [ih]
      exact setMember_eq_ok_iff.mpr ⟨_, named, rfl⟩

/-- A key reads from the slot that it names what has been put there. -/
theorem member_withContent {key : Value} {slot : Slot} (named : container.slotOf? key = some slot) :
    (container.withContent slot value).member key = .ok value := by
  have still := (slotOf?_withContent container key value slot).trans named
  rw [member_of_slotOf? still, content?_withContent_self named, Option.getD_some]

private theorem member_withContent_of_apart {key other : Value} {slot : Slot}
    (named : container.slotOf? key = some slot) (apart : container.Apart key other) :
    (container.withContent slot value).member other = container.member other := by
  rcases slotOf?_eq_some named with ⟨entries, rfl, rfl⟩ | ⟨items, index, rfl, rfl, found, -⟩
  · exact congrArg (fun inner? : Option Value => Except.ok (inner?.getD .null))
      (Dict.get?_insert_of_ne entries value apart)
  · obtain ⟨plain, different⟩ := apart
    rw [found] at different
    cases others : other.toIndex? with
    | none => simp [withContent, member, plain, others]
    | some place =>
        have elsewhere : place ≠ index := fun same => different (others.trans (congrArg some same))
        simp [withContent, member, plain, others, getD_setItem_of_ne items index value elsewhere]

theorem Writes.memberAt (writes : Writes value container path changed) :
    changed.memberAt path = .ok value := by
  induction writes with
  | last named =>
      rw [Value.memberAt, member_withContent named]
      rfl
  | further named found inside ih =>
      rw [Value.memberAt, member_withContent named]
      exact ih

/-- A write is not seen on any path that departs from its own. -/
theorem Writes.memberAt_of_departs (writes : Writes value container path changed)
    {others : List Value} (departs : container.Departs path others) :
    changed.memberAt others = container.memberAt others := by
  induction writes generalizing others with
  | last named =>
      cases departs with
      | here apart => rw [Value.memberAt, Value.memberAt, member_withContent_of_apart named apart]
      | further _ _ departs => cases departs
  | @further container key inner changed slot path named found inside ih =>
      cases departs with
      | here apart => rw [Value.memberAt, Value.memberAt, member_withContent_of_apart named apart]
      | further together stepped departs =>
          have same := together.trans named
          obtain ⟨place, again, present⟩ := slot_eq_ok_iff.mp stepped
          obtain rfl : slot = place := Option.some.inj (named.symm.trans again)
          obtain rfl : inner = _ := Option.some.inj (found.symm.trans present)
          rw [Value.memberAt, Value.memberAt, member_withContent same, member_of_slotOf? same, found]
          exact ih departs

/-- After a write the same path can be written again, as if nothing had been written before. -/
theorem Writes.again (writes : Writes value container path changed) (later : Value) :
    ∃ final, Writes later container path final ∧ Writes later changed path final := by
  induction writes with
  | @last container key slot named =>
      refine ⟨container.withContent slot later, .last named, ?_⟩
      rw [← withContent_withContent named later]
      exact .last ((slotOf?_withContent _ _ _ _).trans named)
  | @further container key inner changed slot path named found inside ih =>
      obtain ⟨final, first, second⟩ := ih
      refine ⟨container.withContent slot final, .further named found first, ?_⟩
      rw [← withContent_withContent named final]
      refine .further ((slotOf?_withContent _ _ _ _).trans named) ?_ second
      exact content?_withContent_self named

theorem Writes.hasMember (writes : Writes value container path changed) {parents : List Value}
    {last : Value} (ends : path = parents ++ [last]) :
    ∃ owner, changed.memberAt parents = .ok owner ∧ owner.hasMember last = .ok true := by
  induction writes generalizing parents with
  | @last container key slot named =>
      obtain ⟨rfl, rfl⟩ : parents = [] ∧ last = key := by
        cases parents with
        | nil => exact ⟨rfl, (List.cons.inj ends).1.symm⟩
        | cons first parents => simp at ends
      refine ⟨_, rfl, hasMember_of_slotOf? ((slotOf?_withContent _ _ _ _).trans named) ?_⟩
      rw [content?_withContent_self named]
      rfl
  | @further container key inner changed slot path named found inside ih =>
      cases parents with
      | nil => exact absurd (List.cons.inj ends).2 inside.path_ne_nil
      | cons first parents =>
          obtain ⟨rfl, laterEnds⟩ := List.cons.inj ends
          rw [Value.memberAt, member_withContent named]
          exact ih laterEnds

end Writes

/-- Writing back what stands at the end of a path changes nothing. -/
theorem writes_of_slotAt {container value : Value} {path : List Value} (nonempty : path ≠ [])
    (reached : container.slotAt path = .ok value) : Writes value container path container := by
  induction path generalizing container with
  | nil => exact absurd rfl nonempty
  | cons key rest ih =>
      obtain ⟨inner, stepped, reached⟩ := except_bind_ok reached
      obtain ⟨slot, named, found⟩ := slot_eq_ok_iff.mp stepped
      have unchanged := withContent_of_content? found
      by_cases end? : rest = []
      · subst end?
        cases reached
        have writes : Writes value container [key] (container.withContent slot value) := .last named
        rwa [unchanged] at writes
      · have writes : Writes value container (key :: rest) (container.withContent slot inner) :=
          .further named found (ih end? reached)
        rwa [unchanged] at writes

/-! ## Writing in place -/

/-- Writes at the end of a path in place, and says what the container is afterwards, also when the
write has failed: what stands in a slot on the way is then whatever the write has left there. -/
def writeInPlace (container : Value) (path : List Value) (value : Value) :
    Except Cause Unit × Value :=
  match path with
  | [] => (.ok (), value)
  | [key] =>
      match container.setMember key value with
      | .ok changed => (.ok (), changed)
      | .error cause => (.error cause, container)
  | key :: rest =>
      match container.slot key with
      | .ok inner =>
          let (result, left) := inner.writeInPlace rest value
          (result, match container.slotOf? key with
            | some slot => container.withContent slot left
            | none => container)
      | .error cause => (.error cause, container)

private theorem writeInPlace_cons (container key value : Value) {rest : List Value}
    (further : rest ≠ []) :
    container.writeInPlace (key :: rest) value =
      match container.slot key with
      | .ok inner =>
          ((inner.writeInPlace rest value).1, match container.slotOf? key with
            | some slot => container.withContent slot (inner.writeInPlace rest value).2
            | none => container)
      | .error cause => (.error cause, container) := by
  cases rest with
  | nil => exact absurd rfl further
  | cons next rest => rfl

private theorem writeInPlace_of_ok {container value changed : Value} {path : List Value}
    (wrote : container.setMemberAt path value = .ok changed) :
    container.writeInPlace path value = (.ok (), changed) := by
  induction path generalizing container changed with
  | nil =>
      cases wrote
      rfl
  | cons key rest ih =>
      by_cases end? : rest = []
      · subst end?
        have wrote : container.setMember key value = .ok changed := wrote
        rw [writeInPlace, wrote]
      · rw [setMemberAt_cons _ _ _ end?] at wrote
        obtain ⟨inner, stepped, wrote⟩ := except_bind_ok wrote
        obtain ⟨new, inside, wrote⟩ := except_bind_ok wrote
        obtain ⟨slot, named, rfl⟩ := setMember_eq_ok_iff.mp wrote
        rw [writeInPlace_cons _ _ _ end?, stepped]
        dsimp only
        rw [named, ih inside]

/-- A write in place that fails leaves the container as it was. -/
theorem writeInPlace_of_error {container value : Value} {path : List Value} {cause : Cause}
    (failed : container.setMemberAt path value = .error cause) :
    container.writeInPlace path value = (.error cause, container) := by
  induction path generalizing container with
  | nil => cases failed
  | cons key rest ih =>
      by_cases end? : rest = []
      · subst end?
        have failed : container.setMember key value = .error cause := failed
        rw [writeInPlace, failed]
      · rw [setMemberAt_cons _ _ _ end?, updateMember] at failed
        rw [writeInPlace_cons _ _ _ end?]
        cases stepped : container.slot key with
        | error other =>
            rw [stepped] at failed
            cases failed
            rfl
        | ok inner =>
            obtain ⟨slot, named, found⟩ := slot_eq_ok_iff.mp stepped
            rw [stepped] at failed
            change (inner.setMemberAt rest value >>= fun new => container.setMember key new) = _
              at failed
            cases inside : inner.setMemberAt rest value with
            | ok changed =>
                -- What could be stepped into can be written back.
                rw [inside] at failed
                have put : container.setMember key changed = _ :=
                  setMember_eq_ok_iff.mpr ⟨slot, named, rfl⟩
                cases put.symm.trans failed
            | error other =>
                rw [inside] at failed
                cases failed
                dsimp only
                rw [named, ih inside]
                exact Prod.ext rfl (withContent_of_content? found)

theorem members_form_store :
    (∀ (container value changed : Value) (path : List Value), path ≠ [] →
      container.setMemberAt path value = .ok changed →
        changed.memberAt path = .ok value ∧
        (∀ others, container.Departs path others →
          changed.memberAt others = container.memberAt others) ∧
        (∀ later, changed.setMemberAt path later = container.setMemberAt path later) ∧
        ∀ parents last, path = parents ++ [last] → ∃ owner,
          changed.memberAt parents = .ok owner ∧
            binary .isIn last owner = .ok (.boolean true)) ∧
    (∀ (container value : Value) (path : List Value), path ≠ [] →
      container.slotAt path = .ok value →
        container.memberAt path = .ok value ∧
          container.setMemberAt path value = .ok container) ∧
    (∀ (container value : Value) (path : List Value),
      (∀ changed, container.setMemberAt path value = .ok changed →
        container.writeInPlace path value = (.ok (), changed)) ∧
      ∀ cause, container.setMemberAt path value = .error cause →
        container.writeInPlace path value = (.error cause, container)) ∧
    ∀ container key : Value, container.isContainer = true → key.isLength = false →
      ∃ present, binary .isIn key container = .ok (.boolean present) ∧
        (present = true ↔ ∃ inner, container.slot key = .ok inner) ∧
          (present = false → container.member key = .ok .null) := by
  refine ⟨?_, ?_, ?_, ?_⟩
  · intro container value changed path nonempty wrote
    have writes := writes_of_setMemberAt nonempty wrote
    refine ⟨writes.memberAt, fun others departs => writes.memberAt_of_departs departs, ?_, ?_⟩
    · intro later
      obtain ⟨final, first, second⟩ := writes.again later
      rw [first.setMemberAt, second.setMemberAt]
    · intro parents last ends
      obtain ⟨owner, reached, present⟩ := writes.hasMember ends
      exact ⟨owner, reached, congrArg (Except.map boolean) present⟩
  · intro container value path nonempty reached
    have writes := writes_of_slotAt nonempty reached
    exact ⟨writes.memberAt, writes.setMemberAt⟩
  · intro container value path
    exact ⟨fun changed => writeInPlace_of_ok, fun cause => writeInPlace_of_error⟩
  · intro container key holder plain
    obtain ⟨present, asked, iff, absent⟩ := hasMember_spec holder plain
    exact ⟨present, congrArg (Except.map boolean) asked, iff, absent⟩

def journal : Value :=
  .map (.ofEntries [("log", .list [.string "first"]), ("size", .boolean false)])

theorem journal_forms_store :
    (∃ changed, journal.setMemberAt [.string "log", .string "2"] (.boolean true) = .ok changed ∧
      changed.memberAt [.string "log", .string "2"] = .ok (.boolean true) ∧
      changed.memberAt [.string "log", .string "1"] =
        journal.memberAt [.string "log", .string "1"] ∧
      changed.memberAt [.string "size"] = .ok (.boolean false) ∧
      changed.setMemberAt [.string "log", .string "2"] .null =
        journal.setMemberAt [.string "log", .string "2"] .null ∧
      ∃ owner, changed.memberAt [.string "log"] = .ok owner ∧
        binary .isIn (.string "2") owner = .ok (.boolean true)) ∧
    journal.setMemberAt [.string "log"] (.list [.string "first"]) = .ok journal ∧
    (∃ cause, journal.writeInPlace [.string "size", .string "x"] .null = (.error cause, journal)) ∧
    ∃ present, binary .isIn (.string "log") journal = .ok (.boolean present) ∧
      (present = true ↔ ∃ inner, journal.slot (.string "log") = .ok inner) := by
  obtain ⟨written, kept, inPlace, asked⟩ := members_form_store
  refine ⟨?_, ?_, ?_, ?_⟩
  · have first : toIndex? (.string "1") = some 1 := by decide +kernel
    have second : toIndex? (.string "2") = some 2 := by decide +kernel
    have named : (Value.list [.string "first"]).slotOf? (.string "2") = some (.item 2) := by
      simp [slotOf?, second]
    have padded : Writes (.boolean true) (.list [.string "first"]) [.string "2"]
        (.list [.string "first", .null, .boolean true]) := .last named
    have writes : Writes (.boolean true) journal [.string "log", .string "2"]
        (journal.withContent (.entry "log") (.list [.string "first", .null, .boolean true])) :=
      .further rfl rfl padded
    have wrote := writes.setMemberAt
    obtain ⟨read, others, again, inside⟩ := written _ _ _ _ (List.cons_ne_nil _ _) wrote
    have gap : journal.Departs [.string "log", .string "2"] [.string "log", .string "1"] :=
      .further rfl rfl (.here ⟨rfl, by rw [first, second]; decide⟩)
    have beside : journal.Departs [.string "log", .string "2"] [.string "size"] :=
      .here (show "size" ≠ "log" by decide)
    exact ⟨_, wrote, read, others _ gap, others _ beside, again _, inside [_] _ rfl⟩
  · exact (kept _ _ [.string "log"] (List.cons_ne_nil _ _) rfl).2
  · exact ⟨_, (inPlace _ _ _).2 _ rfl⟩
  · obtain ⟨present, answer, iff, -⟩ := asked journal (.string "log") rfl rfl
    exact ⟨present, answer, iff⟩

end Value
end ChatTemplate
