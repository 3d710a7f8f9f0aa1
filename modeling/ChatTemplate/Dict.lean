/-!
Dictionaries with text keys, whose entries stand in the order in which the keys were first added.
Writing a key that is present replaces its value and keeps its place. The objects of JSON text are
lists of entries that may repeat a key; the first one counts when such a list is read.
-/

set_option autoImplicit false

namespace ChatTemplate

variable {α β : Type}

/-- The entries of a dictionary in order, under keys of which none occurs twice. -/
inductive Dict.Row (α : Type) : (keys : List String) → Type where
  | nil : Row α []
  | cons {keys : List String} (key : String) (value : α) (fresh : key ∉ keys)
      (rest : Row α keys) : Row α (key :: keys)

/-- A dictionary. Values hold dictionaries of values, where no proof about the keys can stand beside
a list of entries; so each row has it and names its keys in its type. -/
structure Dict (α : Type) where
  {names : List String}
  row : Dict.Row α names

namespace Dict

/-! ## Lists of entries -/

def keys (entries : List (String × α)) : List String :=
  entries.map Prod.fst

theorem keys_append (entries others : List (String × α)) :
    keys (entries ++ others) = keys entries ++ keys others :=
  List.map_append

/-- No key occurs twice. -/
def Distinct (entries : List (String × α)) : Prop :=
  (keys entries).Nodup

/-- The value of the first entry with the key. -/
def find? : List (String × α) → String → Option α
  | [], _ => none
  | (k, value) :: rest, key => if k = key then some value else find? rest key

def contains (entries : List (String × α)) (key : String) : Bool :=
  (find? entries key).isSome

/-- Writes a key: in place when it is present, behind all others when it is new. -/
def insertEntry : List (String × α) → String → α → List (String × α)
  | [], key, value => [(key, value)]
  | (k, old) :: rest, key, value =>
      if k = key then (k, value) :: rest else (k, old) :: insertEntry rest key value

/-- Removes the first entry with the key; the others keep their order. -/
def eraseEntry : List (String × α) → String → List (String × α)
  | [], _ => []
  | (k, value) :: rest, key => if k = key then rest else (k, value) :: eraseEntry rest key

private theorem find?_insertEntry_self (entries : List (String × α)) (key : String) (value : α) :
    find? (insertEntry entries key value) key = some value := by
  induction entries with
  | nil => simp [insertEntry, find?]
  | cons entry rest ih => by_cases h : entry.1 = key <;> simp [insertEntry, find?, h, ih]

private theorem find?_insertEntry_of_ne (entries : List (String × α)) {key other : String}
    (value : α) (different : other ≠ key) :
    find? (insertEntry entries key value) other = find? entries other := by
  induction entries with
  | nil => simp [insertEntry, find?, different.symm]
  | cons entry rest ih =>
      by_cases h : entry.1 = key
      · simp [insertEntry, find?, h, different.symm]
      · simp [insertEntry, find?, h, ih]

private theorem insertEntry_insertEntry (entries : List (String × α)) (key : String)
    (value later : α) :
    insertEntry (insertEntry entries key value) key later = insertEntry entries key later := by
  induction entries with
  | nil => simp [insertEntry]
  | cons entry rest ih => by_cases same : entry.1 = key <;> simp [insertEntry, same, ih]

private theorem insertEntry_of_find? {entries : List (String × α)} {key : String} {value : α}
    (found : find? entries key = some value) : insertEntry entries key value = entries := by
  induction entries with
  | nil => cases found
  | cons entry rest ih =>
      by_cases same : entry.1 = key
      · simp only [find?, same, if_true, Option.some.injEq] at found
        rw [insertEntry, if_pos same, ← found]
      · simp only [find?, same, if_false] at found
        simp [insertEntry, same, ih found]

private theorem insertEntry_of_absent {entries : List (String × α)} {key : String}
    (absent : contains entries key = false) (value : α) :
    insertEntry entries key value = entries ++ [(key, value)] := by
  induction entries with
  | nil => rfl
  | cons entry rest ih =>
      by_cases same : entry.1 = key
      · simp [contains, find?, same] at absent
      · have later : contains rest key = false := by simpa [contains, find?, same] using absent
        rw [insertEntry, if_neg same, ih later, List.cons_append]

private theorem mem_insertEntry {entries : List (String × α)} {key : String} {value : α}
    {entry : String × α} (member : entry ∈ insertEntry entries key value) :
    entry = (key, value) ∨ entry ∈ entries := by
  induction entries with
  | nil => exact .inl (List.mem_singleton.mp member)
  | cons first rest ih =>
      rw [insertEntry] at member
      split at member
      · rename_i same
        rcases List.mem_cons.mp member with written | later
        · exact .inl (by rw [written, same])
        · exact .inr (List.mem_cons_of_mem _ later)
      · rcases List.mem_cons.mp member with kept | later
        · exact .inr (kept ▸ List.mem_cons_self)
        · exact (ih later).imp id (List.mem_cons_of_mem _)

theorem find?_of_mem {entries : List (String × α)} (distinct : Distinct entries)
    {entry : String × α} (member : entry ∈ entries) : find? entries entry.1 = some entry.2 := by
  induction entries with
  | nil => cases member
  | cons first rest ih =>
      obtain ⟨absent, distinct⟩ := List.nodup_cons.mp distinct
      rcases List.mem_cons.mp member with rfl | later
      · simp [find?]
      · have other : first.1 ≠ entry.1 := by
          intro same
          exact absent (same ▸ List.mem_map_of_mem later)
        simp [find?, other, ih distinct later]

theorem mem_of_find? {entries : List (String × α)} {key : String} {value : α}
    (found : find? entries key = some value) : (key, value) ∈ entries := by
  induction entries with
  | nil => cases found
  | cons first rest ih =>
      rw [find?] at found
      split at found
      · rename_i same
        cases found
        exact same ▸ List.mem_cons_self
      · exact List.mem_cons_of_mem _ (ih found)

private theorem find?_eraseEntry_of_ne (entries : List (String × α)) {key other : String}
    (different : other ≠ key) : find? (eraseEntry entries key) other = find? entries other := by
  induction entries with
  | nil => rfl
  | cons entry rest ih =>
      by_cases same : entry.1 = key
      · simp [eraseEntry, find?, same, different.symm]
      · simp [eraseEntry, find?, same, ih]

theorem contains_iff_mem_keys (entries : List (String × α)) (key : String) :
    contains entries key = true ↔ key ∈ keys entries := by
  induction entries with
  | nil => simp [contains, find?, keys]
  | cons entry rest ih =>
      by_cases same : entry.1 = key
      · simp [contains, find?, keys, same]
      · simp only [contains, keys] at ih
        simp [contains, find?, keys, same, Ne.symm same, ih]

private theorem keys_eraseEntry_sublist (entries : List (String × α)) (key : String) :
    (keys (eraseEntry entries key)).Sublist (keys entries) := by
  induction entries with
  | nil => exact List.Sublist.refl _
  | cons entry rest ih =>
      simp only [eraseEntry]
      split
      · exact List.sublist_cons_self _ _
      · exact ih.cons_cons entry.1

/-- A written key is behind all others unless it was present. -/
theorem keys_insertEntry (entries : List (String × α)) (key : String) (value : α) :
    keys (insertEntry entries key value) =
      if contains entries key then keys entries else keys entries ++ [key] := by
  induction entries with
  | nil => simp [insertEntry, keys, contains, find?]
  | cons entry rest ih =>
      by_cases h : entry.1 = key
      · simp [insertEntry, keys, contains, find?, h]
      · simp only [keys, contains] at ih
        simp only [insertEntry, h, if_false, keys, contains, find?, List.map_cons, ih]
        split <;> simp_all

theorem Distinct.insertEntry {entries : List (String × α)} (distinct : Distinct entries)
    (key : String) (value : α) : Distinct (Dict.insertEntry entries key value) := by
  simp only [Distinct, keys_insertEntry]
  split
  · exact distinct
  · rename_i absent
    refine List.nodup_append.mpr ⟨distinct, by simp, ?_⟩
    intro present found other last
    rw [List.mem_singleton.mp last]
    rintro rfl
    exact absent ((contains_iff_mem_keys entries present).mpr found)

theorem Distinct.eraseEntry {entries : List (String × α)} (distinct : Distinct entries)
    (key : String) : Distinct (Dict.eraseEntry entries key) :=
  (keys_eraseEntry_sublist entries key).nodup distinct

/-! ## Dictionaries and their entries -/

namespace Row

def entries : {keys : List String} → Row α keys → List (String × α)
  | _, .nil => []
  | _, .cons key value _ rest => (key, value) :: rest.entries

def ofEntries : (entries : List (String × α)) → Distinct entries → Row α (keys entries)
  | [], _ => .nil
  | (key, value) :: rest, distinct =>
      have distinct := List.nodup_cons.mp distinct
      .cons key value distinct.1 (ofEntries rest distinct.2)

def mapValues (change : α → β) : {keys : List String} → Row α keys → Row β keys
  | _, .nil => .nil
  | _, .cons key value fresh rest => .cons key (change value) fresh (rest.mapValues change)

theorem keys_entries {keys : List String} (row : Row α keys) : Dict.keys row.entries = keys := by
  induction row with
  | nil => rfl
  | cons key value fresh rest ih => exact congrArg (key :: ·) ih

theorem nodup {keys : List String} (row : Row α keys) : keys.Nodup := by
  induction row with
  | nil => exact List.nodup_nil
  | cons key value fresh rest ih => exact List.nodup_cons.mpr ⟨fresh, ih⟩

theorem entries_ofEntries {entries : List (String × α)} (distinct : Distinct entries) :
    (ofEntries entries distinct).entries = entries := by
  induction entries with
  | nil => rfl
  | cons entry rest ih => exact congrArg (entry :: ·) (ih (List.nodup_cons.mp distinct).2)

theorem entries_mapValues (change : α → β) {keys : List String} (row : Row α keys) :
    (row.mapValues change).entries = row.entries.map fun entry => (entry.1, change entry.2) := by
  induction row with
  | nil => rfl
  | cons key value fresh rest ih => exact congrArg ((key, change value) :: ·) ih

end Row

def entries (dict : Dict α) : List (String × α) :=
  dict.row.entries

instance : CoeOut (Dict α) (List (String × α)) := ⟨entries⟩

theorem keys_entries (dict : Dict α) : keys dict.entries = dict.names :=
  dict.row.keys_entries

theorem names_nodup (dict : Dict α) : dict.names.Nodup :=
  dict.row.nodup

theorem distinct (dict : Dict α) : Distinct dict.entries := by
  rw [Distinct, keys_entries]
  exact dict.names_nodup

def ofDistinct (entries : List (String × α)) (distinct : Distinct entries) : Dict α :=
  ⟨.ofEntries entries distinct⟩

@[simp] theorem entries_ofDistinct {entries : List (String × α)} (distinct : Distinct entries) :
    (ofDistinct entries distinct).entries = entries :=
  Row.entries_ofEntries distinct

theorem ofDistinct_entries (dict : Dict α) : ofDistinct dict.entries dict.distinct = dict := by
  obtain ⟨row⟩ := dict
  induction row with
  | nil => rfl
  | @cons keys key value fresh rest ih =>
      -- The rows have different types, so the rests are compared as dictionaries.
      have extended : ∀ (dict : Dict α) (absent : key ∉ dict.names), dict = ⟨rest⟩ →
          (⟨.cons key value absent dict.row⟩ : Dict α) = ⟨.cons key value fresh rest⟩ := by
        rintro _ _ rfl
        rfl
      exact extended _ _ ih

@[ext] theorem ext {dict other : Dict α} (same : dict.entries = other.entries) : dict = other := by
  rw [← ofDistinct_entries dict, ← ofDistinct_entries other]
  simp only [same]

/-! ## Operations -/

instance : EmptyCollection (Dict α) := ⟨⟨.nil⟩⟩

instance : Inhabited (Dict α) := ⟨∅⟩

@[simp] theorem entries_empty : (∅ : Dict α).entries = [] := rfl

def size (dict : Dict α) : Nat :=
  dict.names.length

def get? (dict : Dict α) (key : String) : Option α :=
  find? dict.entries key

def has (dict : Dict α) (key : String) : Bool :=
  (dict.get? key).isSome

/-- What a function makes of the entries, in order. -/
def map (dict : Dict α) (make : String × α → β) : List β :=
  dict.entries.map make

def mapValues (dict : Dict α) (change : α → β) : Dict β :=
  ⟨dict.row.mapValues change⟩

/-- Writes a key: in place when it is present, behind all others when it is new. -/
def insert (dict : Dict α) (key : String) (value : α) : Dict α :=
  ofDistinct (insertEntry dict.entries key value) (dict.distinct.insertEntry key value)

/-- Removes a key; the others keep their order. -/
def erase (dict : Dict α) (key : String) : Dict α :=
  ofDistinct (eraseEntry dict.entries key) (dict.distinct.eraseEntry key)

/-- The dictionary that results from writing the entries one after the other: a repeated key keeps
its first place and its last value. -/
def ofEntries (entries : List (String × α)) : Dict α :=
  entries.foldl (fun dict entry => dict.insert entry.1 entry.2) ∅

@[simp] theorem get?_empty (key : String) : (∅ : Dict α).get? key = none := rfl

@[simp] theorem get?_insert_self (dict : Dict α) (key : String) (value : α) :
    (dict.insert key value).get? key = some value := by
  rw [get?, insert, entries_ofDistinct, find?_insertEntry_self]

theorem get?_insert_of_ne (dict : Dict α) {key other : String} (value : α)
    (different : other ≠ key) : (dict.insert key value).get? other = dict.get? other := by
  rw [get?, insert, entries_ofDistinct, find?_insertEntry_of_ne _ _ different, get?]

theorem insert_insert (dict : Dict α) (key : String) (value later : α) :
    (dict.insert key value).insert key later = dict.insert key later := by
  refine ext ?_
  simp only [insert, entries_ofDistinct, insertEntry_insertEntry]

/-- Writing what stands under a key changes nothing. -/
theorem insert_of_get? {dict : Dict α} {key : String} {value : α}
    (found : dict.get? key = some value) : dict.insert key value = dict := by
  refine ext ?_
  rw [insert, entries_ofDistinct, insertEntry_of_find? found]

theorem get?_erase_of_ne (dict : Dict α) {key other : String} (different : other ≠ key) :
    (dict.erase key).get? other = dict.get? other := by
  rw [get?, erase, entries_ofDistinct, find?_eraseEntry_of_ne _ different, get?]

theorem entries_mapValues (dict : Dict α) (change : α → β) :
    (dict.mapValues change).entries = dict.entries.map fun entry => (entry.1, change entry.2) :=
  dict.row.entries_mapValues change

theorem size_mapValues (dict : Dict α) (change : α → β) :
    (dict.mapValues change).size = dict.size := rfl

theorem mapValues_mapValues {γ : Type} (dict : Dict α) (change : α → β) (again : β → γ) :
    (dict.mapValues change).mapValues again = dict.mapValues fun value => again (change value) := by
  refine ext ?_
  rw [entries_mapValues, entries_mapValues, entries_mapValues, List.map_map]
  rfl

theorem mapValues_congr {dict : Dict α} {change other : α → β}
    (same : ∀ entry ∈ dict.entries, change entry.2 = other entry.2) :
    dict.mapValues change = dict.mapValues other := by
  refine ext ?_
  rw [entries_mapValues, entries_mapValues]
  exact List.map_congr_left fun entry member => Prod.ext rfl (same entry member)

theorem get?_mapValues (dict : Dict α) (change : α → β) (key : String) :
    (dict.mapValues change).get? key = (dict.get? key).map change := by
  rw [get?, get?, entries_mapValues]
  induction dict.entries with
  | nil => rfl
  | cons entry rest ih =>
      by_cases same : entry.1 = key
      · simp [find?, same]
      · simp [find?, same, ih]

theorem has_mapValues (dict : Dict α) (change : α → β) (key : String) :
    (dict.mapValues change).has key = dict.has key := by
  rw [has, has, get?_mapValues, Option.isSome_map]

theorem get?_of_mem {dict : Dict α} {entry : String × α} (member : entry ∈ dict.entries) :
    dict.get? entry.1 = some entry.2 :=
  find?_of_mem dict.distinct member

theorem mem_of_get? {dict : Dict α} {key : String} {value : α}
    (found : dict.get? key = some value) : (key, value) ∈ dict.entries :=
  mem_of_find? found

theorem has_iff_mem_names {dict : Dict α} {key : String} :
    dict.has key = true ↔ key ∈ dict.names := by
  rw [← keys_entries, ← contains_iff_mem_keys]
  rfl

theorem mem_names_iff {dict : Dict α} {key : String} :
    key ∈ dict.names ↔ ∃ value, dict.get? key = some value := by
  rw [← has_iff_mem_names, has, Option.isSome_iff_exists]

/-- Writing the entries of a dictionary again changes nothing. -/
theorem entries_ofEntries {entries : List (String × α)} (distinct : Distinct entries) :
    (ofEntries entries).entries = entries := by
  suffices ∀ dict : Dict α, Distinct (dict.entries ++ entries) →
      (entries.foldl (fun dict entry => dict.insert entry.1 entry.2) dict).entries =
        dict.entries ++ entries from
    this ∅ distinct
  clear distinct
  induction entries with
  | nil => exact fun dict _ => (List.append_nil dict.entries).symm
  | cons entry rest ih =>
      intro dict distinct
      have absent : contains dict.entries entry.1 = false := by
        rw [Bool.eq_false_iff]
        intro present
        have before := (contains_iff_mem_keys dict.entries entry.1).mp present
        rw [Distinct, keys_append] at distinct
        exact (List.nodup_append.mp distinct).2.2 _ before _ List.mem_cons_self rfl
      have written : (dict.insert entry.1 entry.2).entries = dict.entries ++ [entry] := by
        rw [insert, entries_ofDistinct, insertEntry_of_absent absent]
      rw [List.foldl_cons, ih, written]
      · exact List.append_assoc dict.entries [entry] rest
      · rwa [written, List.append_assoc]

theorem ofEntries_entries (dict : Dict α) : ofEntries dict.entries = dict :=
  ext (entries_ofEntries dict.distinct)

theorem mem_ofEntries {entries : List (String × α)} {entry : String × α}
    (member : entry ∈ (ofEntries entries).entries) : entry ∈ entries := by
  suffices ∀ dict : Dict α,
      entry ∈ (entries.foldl (fun dict entry => dict.insert entry.1 entry.2) dict).entries →
        entry ∈ dict.entries ∨ entry ∈ entries from
    (this ∅ member).resolve_left nofun
  clear member
  induction entries with
  | nil => exact fun dict member => .inl member
  | cons first rest ih =>
      intro dict member
      rcases ih _ member with written | later
      · simp only [insert, entries_ofDistinct] at written
        rcases mem_insertEntry written with rfl | before
        · exact .inr List.mem_cons_self
        · exact .inl before
      · exact .inr (List.mem_cons_of_mem _ later)

end Dict

end ChatTemplate
