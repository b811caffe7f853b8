/-!
# Maps keyed by names

A `FieldMap` is a finite map from names to values whose entries stand in the order of their names. The order is part
of the type, so two maps that answer every look-up alike are equal (`FieldMap.ext_get?`), and walking through the
entries always meets the names in code-point order. Records, profile options, results and message tables are all
such maps.
-/

set_option autoImplicit false

namespace FormValidation

universe u v

/-- A finite map from names to values, its entries strictly ascending by name. -/
structure FieldMap (α : Type u) where
  entries : List (String × α)
  ascending : entries.Pairwise (fun a b => a.1 < b.1)

namespace FieldMap

variable {α : Type u} {β : Type v}

/-- Two maps with the same entries are the same map. -/
theorem eq_of_entries_eq {m n : FieldMap α} (h : m.entries = n.entries) : m = n := by
  cases m; cases n; cases h; rfl

instance [DecidableEq α] : DecidableEq (FieldMap α) := fun m n =>
  if h : m.entries = n.entries then isTrue (eq_of_entries_eq h)
  else isFalse (fun e => h (e ▸ rfl))

/-- The map without entries. -/
def empty : FieldMap α := ⟨[], List.Pairwise.nil⟩

instance : Inhabited (FieldMap α) := ⟨empty⟩

/-- The value that a list of entries holds first under a name. -/
def lookup (name : String) : List (String × α) → Option α
  | [] => none
  | (key, value) :: rest => if key = name then some value else lookup name rest

/-- The value under a name. -/
def get? (m : FieldMap α) (name : String) : Option α := lookup name m.entries

/-- Whether a name has a value. -/
def contains (m : FieldMap α) (name : String) : Bool := (m.get? name).isSome

/-- The names that have a value, ascending. -/
def keys (m : FieldMap α) : List String := m.entries.map (·.1)

/-- The values, in the order of their names. -/
def values (m : FieldMap α) : List α := m.entries.map (·.2)

/-- The number of entries. -/
def size (m : FieldMap α) : Nat := m.entries.length

/-- Whether there is no entry. -/
def isEmpty (m : FieldMap α) : Bool := m.entries.isEmpty

/-- Puts a value at the place of its name in ascending entries, instead of the value that stood there. -/
def insertEntry (name : String) (value : α) : List (String × α) → List (String × α)
  | [] => [(name, value)]
  | (key, old) :: rest =>
    if name < key then (name, value) :: (key, old) :: rest
    else if name = key then (name, value) :: rest
    else (key, old) :: insertEntry name value rest

/-- Putting in an entry brings in no entry but this one. -/
theorem mem_insertEntry {name : String} {value : α} {l : List (String × α)} {e : String × α}
    (h : e ∈ insertEntry name value l) : e = (name, value) ∨ e ∈ l := by
  induction l with
  | nil => simpa [insertEntry] using h
  | cons head rest ih =>
    obtain ⟨key, old⟩ := head
    unfold insertEntry at h
    split at h
    · simpa using h
    · split at h
      · rcases List.mem_cons.1 h with h | h
        · exact Or.inl h
        · exact Or.inr (List.mem_cons_of_mem _ h)
      · rcases List.mem_cons.1 h with h | h
        · exact Or.inr (h ▸ List.mem_cons_self)
        · rcases ih h with h | h
          · exact Or.inl h
          · exact Or.inr (List.mem_cons_of_mem _ h)

/-- Of two different names one comes before the other. -/
theorem lt_of_not_lt_of_ne {a b : String} (hlt : ¬ a < b) (hne : a ≠ b) : b < a := by
  rcases String.le_total a b with h | h
  · exact absurd (String.le_antisymm h (String.not_lt.1 hlt)) hne
  · exact Decidable.byContradiction fun hba => hne (String.le_antisymm (String.not_lt.1 hba) h)

/-- Entries in ascending order stay so when one is put in. -/
theorem ascending_insertEntry (name : String) (value : α) {l : List (String × α)}
    (h : l.Pairwise (fun a b => a.1 < b.1)) :
    (insertEntry name value l).Pairwise (fun a b => a.1 < b.1) := by
  induction l with
  | nil => simp [insertEntry]
  | cons head rest ih =>
    obtain ⟨key, old⟩ := head
    obtain ⟨hhead, hrest⟩ := List.pairwise_cons.1 h
    unfold insertEntry
    split
    next hlt =>
      refine List.pairwise_cons.2 ⟨fun e he => ?_, h⟩
      rcases List.mem_cons.1 he with rfl | he
      · exact hlt
      · exact String.lt_trans hlt (hhead e he)
    next hlt =>
      split
      next heq => exact List.pairwise_cons.2 ⟨fun e he => heq ▸ hhead e he, hrest⟩
      next hne =>
        refine List.pairwise_cons.2 ⟨fun e he => ?_, ih hrest⟩
        rcases mem_insertEntry he with rfl | he
        · exact lt_of_not_lt_of_ne hlt hne
        · exact hhead e he

/-- The map with a value put under a name. -/
def insert (m : FieldMap α) (name : String) (value : α) : FieldMap α :=
  ⟨insertEntry name value m.entries, ascending_insertEntry name value m.ascending⟩

/-- The entries that pass a test on name and value. -/
def filter (m : FieldMap α) (keep : String → α → Bool) : FieldMap α :=
  ⟨m.entries.filter (fun e => keep e.1 e.2), m.ascending.filter _⟩

/-- The map without a name. -/
def erase (m : FieldMap α) (name : String) : FieldMap α := m.filter (fun key _ => key ≠ name)

/-- The map with every value replaced, by a function that also sees its name. -/
def mapWithKey (f : String → α → β) (m : FieldMap α) : FieldMap β :=
  ⟨m.entries.map (fun e => (e.1, f e.1 e.2)), List.pairwise_map.2 m.ascending⟩

/-- The map with every value replaced. -/
def map (f : α → β) (m : FieldMap α) : FieldMap β := m.mapWithKey (fun _ => f)

/-- The map with the value of one name replaced, if the name has one. -/
def modify (m : FieldMap α) (name : String) (f : α → α) : FieldMap α :=
  m.mapWithKey (fun key value => if key = name then f value else value)

/-- The map of a list of entries; of two with the same name the later one counts. -/
def ofList (l : List (String × α)) : FieldMap α := l.foldl (fun m e => m.insert e.1 e.2) empty

/-- Puts every entry of the second map over the first. -/
def overlay (m n : FieldMap α) : FieldMap α := n.entries.foldl (fun acc e => acc.insert e.1 e.2) m

/-- The map with a value changed, or put there, by a function of the value so far. -/
def update (m : FieldMap α) (name : String) (f : Option α → α) : FieldMap α := m.insert name (f (m.get? name))

/-- A map of lists with further items at the end of the list of a name. -/
def extendAt (m : FieldMap (List α)) (name : String) (items : List α) : FieldMap (List α) :=
  m.update name fun old => old.getD [] ++ items

/-- A map of lists with every list of a second map put at the end of the list of its name. -/
def extendAll (m n : FieldMap (List α)) : FieldMap (List α) :=
  n.entries.foldl (fun acc e => acc.extendAt e.1 e.2) m

/-- Replaces every value by a function that may fail; the failure of the earliest name counts. -/
def mapE {ε : Type} (f : String → α → Except ε β) (m : FieldMap α) : Except ε (FieldMap β) := do
  let entries ← m.entries.mapM (fun e => do return (e.1, ← f e.1 e.2))
  return ofList entries

/-! ## Look-up after each operation -/

/-- The empty map holds nothing under any name. -/
theorem get?_empty (name : String) : (empty : FieldMap α).get? name = none := rfl

/-- Behind an entry that is put in, its name holds its value, and other names hold what they held. -/
theorem lookup_insertEntry (name : String) (value : α) (other : String) (l : List (String × α)) :
    lookup other (insertEntry name value l) = if name = other then some value else lookup other l := by
  induction l with
  | nil => rfl
  | cons head rest ih =>
    obtain ⟨key, old⟩ := head
    by_cases hlt : name < key
    · simp [insertEntry, hlt, lookup]
    · by_cases heq : name = key
      · subst heq
        by_cases h : name = other <;> simp [insertEntry, lookup, h]
      · by_cases hk : key = other
        · subst hk; simp [insertEntry, hlt, heq, lookup]
        · simp [insertEntry, hlt, heq, lookup, hk, ih]

/-- After a value is put under a name, that name holds it and every other name what it held before. -/
theorem get?_insert (m : FieldMap α) (name : String) (value : α) (other : String) :
    (m.insert name value).get? other = if name = other then some value else m.get? other :=
  lookup_insertEntry name value other m.entries

/-- A name that comes before all names of a list is not in it. -/
theorem lookup_eq_none_of_lt {name : String} {l : List (String × α)} (h : ∀ e ∈ l, name < e.1) :
    lookup name l = none := by
  induction l with
  | nil => rfl
  | cons head rest ih =>
    have hne : head.1 ≠ name := fun e => String.lt_irrefl name (e ▸ h head List.mem_cons_self)
    simp [lookup, hne, ih fun e he => h e (List.mem_cons_of_mem _ he)]

/-- In filtered entries a name holds what it held, if that is kept. -/
theorem lookup_filter (keep : String → α → Bool) (name : String) {l : List (String × α)}
    (h : l.Pairwise (fun a b => a.1 < b.1)) :
    lookup name (l.filter (fun e => keep e.1 e.2)) = (lookup name l).filter (keep name) := by
  induction l with
  | nil => rfl
  | cons head rest ih =>
    obtain ⟨key, value⟩ := head
    obtain ⟨hhead, hrest⟩ := List.pairwise_cons.1 h
    by_cases hkey : key = name
    · subst hkey
      by_cases hkeep : keep key value = true
      · simp [hkeep, lookup, Option.filter]
      · have hnone : lookup key rest = none := lookup_eq_none_of_lt hhead
        simp [hkeep, lookup, Option.filter, ih hrest, hnone]
    · by_cases hkeep : keep key value = true <;> simp [hkeep, lookup, hkey, ih hrest]

/-- What is left after filtering is what passed the test. -/
theorem get?_filter (m : FieldMap α) (keep : String → α → Bool) (name : String) :
    (m.filter keep).get? name = (m.get? name).filter (keep name) :=
  lookup_filter keep name m.ascending

/-- After a name is erased it holds nothing and every other name what it held before. -/
theorem get?_erase (m : FieldMap α) (name other : String) :
    (m.erase name).get? other = if other = name then none else m.get? other := by
  unfold erase
  rw [get?_filter]
  by_cases h : other = name
  · cases m.get? other <;> simp [Option.filter, h]
  · cases m.get? other <;> simp [Option.filter, h]

/-- In entries whose values were replaced a name holds what its value was replaced by. -/
theorem lookup_map (f : String → α → β) (name : String) (l : List (String × α)) :
    lookup name (l.map (fun e => (e.1, f e.1 e.2))) = (lookup name l).map (f name) := by
  induction l with
  | nil => rfl
  | cons head rest ih =>
    by_cases h : head.1 = name <;> simp [lookup, h, ih]

/-- Every name holds the image of what it held before. -/
theorem get?_mapWithKey (f : String → α → β) (m : FieldMap α) (name : String) :
    (m.mapWithKey f).get? name = (m.get? name).map (f name) :=
  lookup_map f name m.entries

/-- In a map whose values were replaced a name holds what its value was replaced by. -/
theorem get?_map (f : α → β) (m : FieldMap α) (name : String) : (m.map f).get? name = (m.get? name).map f :=
  get?_mapWithKey (fun _ => f) m name

/-- Only the named value changes. -/
theorem get?_modify (m : FieldMap α) (name : String) (f : α → α) (other : String) :
    (m.modify name f).get? other = if other = name then (m.get? other).map f else m.get? other := by
  unfold modify
  rw [get?_mapWithKey]
  by_cases h : other = name <;> simp [h]

/-- What a name holds in a list of entries stands in the list. -/
theorem mem_entries_of_lookup {name : String} {value : α} {l : List (String × α)}
    (h : lookup name l = some value) : (name, value) ∈ l := by
  induction l with
  | nil => simp [lookup] at h
  | cons head rest ih =>
    obtain ⟨key, old⟩ := head
    by_cases hkey : key = name
    · simp [lookup, hkey] at h; simp [hkey, h]
    · simp only [lookup, hkey, if_false] at h; exact List.mem_cons_of_mem _ (ih h)

/-- In ascending entries every entry is what its name holds. -/
theorem lookup_of_mem {name : String} {value : α} {l : List (String × α)}
    (hl : l.Pairwise (fun a b => a.1 < b.1)) (h : (name, value) ∈ l) : lookup name l = some value := by
  induction l with
  | nil => simp at h
  | cons head rest ih =>
    obtain ⟨key, old⟩ := head
    obtain ⟨hhead, hrest⟩ := List.pairwise_cons.1 hl
    rcases List.mem_cons.1 h with h | h
    · cases h; simp [lookup]
    · have hne : key ≠ name := fun e => String.lt_irrefl key (e ▸ hhead _ h)
      simp [lookup, hne, ih hrest h]

/-- The entries are exactly the look-ups that succeed. -/
theorem mem_entries_iff (m : FieldMap α) (name : String) (value : α) :
    (name, value) ∈ m.entries ↔ m.get? name = some value :=
  ⟨lookup_of_mem m.ascending, mem_entries_of_lookup⟩

/-- The keys are exactly the names that hold a value. -/
theorem mem_keys_iff (m : FieldMap α) (name : String) : name ∈ m.keys ↔ m.contains name = true := by
  simp only [keys, contains, List.mem_map, Option.isSome_iff_exists]
  constructor
  · rintro ⟨⟨key, value⟩, hmem, rfl⟩
    exact ⟨value, (mem_entries_iff m _ _).1 hmem⟩
  · rintro ⟨value, h⟩
    exact ⟨(name, value), (mem_entries_iff m _ _).2 h, rfl⟩

/-- Ascending lists of entries in which all names hold the same are equal. -/
theorem entries_ext {l k : List (String × α)} (hl : l.Pairwise (fun a b => a.1 < b.1))
    (hk : k.Pairwise (fun a b => a.1 < b.1)) (h : ∀ name, lookup name l = lookup name k) : l = k := by
  induction l generalizing k with
  | nil =>
    cases k with
    | nil => rfl
    | cons head rest => simpa [lookup] using h head.1
  | cons head rest ih =>
    obtain ⟨hhead, hrest⟩ := List.pairwise_cons.1 hl
    cases k with
    | nil => simpa [lookup] using h head.1
    | cons head' rest' =>
      obtain ⟨hhead', hrest'⟩ := List.pairwise_cons.1 hk
      have hmem : head ∈ head' :: rest' :=
        mem_entries_of_lookup (show lookup head.1 (head' :: rest') = some head.2 by rw [← h]; simp [lookup])
      have hmem' : head' ∈ head :: rest :=
        mem_entries_of_lookup (show lookup head'.1 (head :: rest) = some head'.2 by rw [h]; simp [lookup])
      have heq : head = head' := by
        rcases List.mem_cons.1 hmem with e | e
        · exact e
        · rcases List.mem_cons.1 hmem' with e' | e'
          · exact e'.symm
          · exact absurd (String.lt_trans (hhead' _ e) (hhead _ e')) (String.lt_irrefl _)
      subst heq
      congr 1
      refine ih hrest hrest' fun name => ?_
      by_cases hname : head.1 = name
      · rw [lookup_eq_none_of_lt fun e he => hname ▸ hhead e he,
          lookup_eq_none_of_lt fun e he => hname ▸ hhead' e he]
      · simpa [lookup, hname] using h name

/-- Two maps that answer every look-up alike are equal. -/
theorem ext_get? {m n : FieldMap α} (h : ∀ name, m.get? name = n.get? name) : m = n :=
  eq_of_entries_eq (entries_ext m.ascending n.ascending h)

end FieldMap

/-- A finite set of names, listed in ascending order. -/
abbrev NameSet := FieldMap Unit

namespace NameSet

/-- The set of the names of a list. -/
def ofList (names : List String) : NameSet := FieldMap.ofList (names.map fun name => (name, ()))

/-- The set with one more name. -/
def add (s : NameSet) (name : String) : NameSet := FieldMap.insert s name ()

/-- The set with the names of a list added. -/
def addAll (s : NameSet) (names : List String) : NameSet := names.foldl add s

/-- The names of either set. -/
def union (s t : NameSet) : NameSet := s.addAll t.keys

/-- A set to which a name was added has this name and its own. -/
theorem contains_add (s : NameSet) (name other : String) :
    (s.add name).contains other = (decide (name = other) || s.contains other) := by
  unfold add FieldMap.contains
  rw [FieldMap.get?_insert]
  by_cases h : name = other <;> simp [h]

/-- A set to which names were added has these names and its own. -/
theorem contains_addAll (s : NameSet) (names : List String) (name : String) :
    (s.addAll names).contains name = (decide (name ∈ names) || s.contains name) := by
  induction names generalizing s with
  | nil => simp [addAll]
  | cons head rest ih =>
    have h : s.addAll (head :: rest) = (s.add head).addAll rest := rfl
    rw [h, ih, contains_add]
    have hsymm : (head = name) = (name = head) := propext eq_comm
    rw [show decide (head = name) = decide (name = head) from by simp only [hsymm]]
    by_cases h₁ : name ∈ rest <;> by_cases h₂ : name = head <;> simp [h₁, h₂]

end NameSet

end FormValidation
