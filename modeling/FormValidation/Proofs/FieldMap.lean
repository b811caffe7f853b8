import FormValidation.FieldMap
import FormValidation.Proofs.Outcome

/-!
# What field maps hold

The model tells what a name holds after each single operation on a map. Here this is carried over to the question
whether a name is present, to maps that are built from lists of entries, and to maps of lists whose lists are
lengthened.
-/

set_option autoImplicit false

namespace FormValidation

universe u v

namespace FieldMap

variable {α : Type u} {β : Type v}

/-- A name that is not behind another comes before all that the other comes before. -/
theorem lt_of_not_lt_of_lt {a b c : String} (hba : ¬ b < a) (hbc : b < c) : a < c := by
  by_cases heq : a = b
  · rwa [heq]
  · exact String.lt_trans (lt_of_not_lt_of_ne hba fun e => heq e.symm) hbc

/-! ## Names that are present -/

/-- A name is present exactly when it holds a value. -/
theorem contains_iff {m : FieldMap α} {name : String} : m.contains name ↔ ∃ value, m.get? name = some value :=
  Option.isSome_iff_exists

/-- A name that holds a value is present. -/
theorem contains_of_get? {m : FieldMap α} {name : String} {value : α} (h : m.get? name = some value) :
    m.contains name :=
  contains_iff.2 ⟨value, h⟩

/-- A name holds nothing exactly when it is not present. -/
theorem get?_eq_none_iff {m : FieldMap α} {name : String} : m.get? name = none ↔ ¬ m.contains name := by
  simp [contains]

/-- A map is empty exactly when no name is present in it. -/
theorem isEmpty_iff {m : FieldMap α} : m.isEmpty ↔ ∀ name, ¬ m.contains name := by
  unfold isEmpty
  rw [List.isEmpty_iff]
  constructor
  · intro hempty name hname
    rw [← mem_keys_iff, keys, hempty] at hname
    cases hname
  · intro hnone
    rw [List.eq_nil_iff_forall_not_mem]
    exact fun e he => hnone e.1 (contains_of_get? ((mem_entries_iff m e.1 e.2).1 he))

/-- No name is present in the empty map. -/
@[simp] theorem contains_empty (name : String) : (empty : FieldMap α).contains name = false := rfl

/-- After an insertion the name that was put in is present, and so are those that were. -/
@[simp] theorem contains_insert (m : FieldMap α) (name : String) (value : α) (other : String) :
    (m.insert name value).contains other = (decide (name = other) || m.contains other) := by
  unfold contains
  rw [get?_insert]
  by_cases h : name = other <;> simp [h]

/-- After a name was erased all names are present that were, but for this one. -/
@[simp] theorem contains_erase (m : FieldMap α) (name other : String) :
    (m.erase name).contains other = (!decide (other = name) && m.contains other) := by
  unfold contains
  rw [get?_erase]
  by_cases h : other = name <;> simp [h]

/-- Replacing values keeps the names that are present. -/
@[simp] theorem contains_mapWithKey (f : String → α → β) (m : FieldMap α) (name : String) :
    (m.mapWithKey f).contains name = m.contains name := by
  unfold contains
  rw [get?_mapWithKey, Option.isSome_map]

/-- Replacing values keeps the names and their order. -/
theorem keys_mapWithKey (f : String → α → β) (m : FieldMap α) : (m.mapWithKey f).keys = m.keys := by
  unfold keys mapWithKey
  rw [List.map_map]
  rfl

/-- Changing what a name holds keeps the names that are present. -/
@[simp] theorem contains_modify (m : FieldMap α) (name : String) (f : α → α) (other : String) :
    (m.modify name f).contains other = m.contains other :=
  contains_mapWithKey _ m other

/-- The values of a map are what its names hold. -/
theorem mem_values_iff {m : FieldMap α} {value : α} : value ∈ m.values ↔ ∃ name, m.get? name = some value := by
  simp only [values, List.mem_map]
  constructor
  · rintro ⟨⟨name, v⟩, hmem, rfl⟩
    exact ⟨name, (mem_entries_iff m _ _).1 hmem⟩
  · rintro ⟨name, h⟩
    exact ⟨(name, value), (mem_entries_iff m _ _).2 h, rfl⟩

/-- No name is listed twice. -/
theorem nodup_keys (m : FieldMap α) : m.keys.Nodup := by
  unfold keys
  rw [List.Nodup, List.pairwise_map]
  refine m.ascending.imp ?_
  intro a b hlt heq
  rw [heq] at hlt
  exact String.lt_irrefl b.1 hlt

/-- Replacing values twice is replacing them once by both. -/
theorem map_map {γ : Type v} (f : α → β) (g : β → γ) (m : FieldMap α) : (m.map f).map g = m.map fun a => g (f a) := by
  refine ext_get? fun name => ?_
  rw [get?_map, get?_map, get?_map, Option.map_map]
  rfl

/-- Of the values with a property, one has the first name. -/
theorem exists_first {m : FieldMap α} {P : α → Prop} {name : String} {value : α} (hvalue : m.get? name = some value)
    (h : P value) : ∃ first found, m.get? first = some found ∧ P found ∧
      ∀ earlier other, earlier < first → m.get? earlier = some other → ¬ P other := by
  have hlist : ∀ l : List (String × α), l.Pairwise (fun a b => a.1 < b.1) → (∃ e ∈ l, P e.2) →
      ∃ e ∈ l, P e.2 ∧ ∀ a ∈ l, a.1 < e.1 → ¬ P a.2 := by
    intro l hl hexists
    induction l with
    | nil => simp at hexists
    | cons head rest ih =>
      obtain ⟨hhead, hrest⟩ := List.pairwise_cons.1 hl
      by_cases hP : P head.2
      · refine ⟨head, List.mem_cons_self, hP, fun a ha hlt => absurd hlt ?_⟩
        rcases List.mem_cons.1 ha with rfl | ha
        · exact String.lt_irrefl _
        · exact fun hlt => String.lt_irrefl _ (String.lt_trans hlt (hhead a ha))
      · have hlater : ∃ e ∈ rest, P e.2 := by simpa [hP] using hexists
        obtain ⟨e, he, hPe, hfirst⟩ := ih hrest hlater
        refine ⟨e, List.mem_cons_of_mem _ he, hPe, fun a ha hlt => ?_⟩
        rcases List.mem_cons.1 ha with rfl | ha
        · exact hP
        · exact hfirst a ha hlt
  obtain ⟨e, he, hPe, hfirst⟩ := hlist m.entries m.ascending ⟨(name, value), (mem_entries_iff m name value).2 hvalue, h⟩
  refine ⟨e.1, e.2, (mem_entries_iff m e.1 e.2).1 he, hPe, fun earlier other hlt hother => ?_⟩
  exact hfirst (earlier, other) ((mem_entries_iff m earlier other).2 hother) hlt

/-! ## The number of entries -/

/-- There are as many names as entries. -/
theorem length_keys (m : FieldMap α) : m.keys.length = m.size := List.length_map _

/-- Erasing a name takes it out of the list of names. -/
theorem keys_erase (m : FieldMap α) (name : String) : (m.erase name).keys = m.keys.erase name := by
  rw [m.nodup_keys.erase_eq_filter]
  unfold keys erase filter
  rw [List.filter_map]
  congr 1
  refine List.filter_congr fun e _ => ?_
  by_cases h : e.1 = name <;> simp [h]

/-- Erasing a name that is present takes one entry away. -/
theorem size_erase {m : FieldMap α} {name : String} (h : m.contains name) : (m.erase name).size + 1 = m.size := by
  rw [← length_keys, ← length_keys, keys_erase]
  exact List.length_erase_add_one ((mem_keys_iff m name).2 h)

/-- Putting in a value adds an entry unless the name is present. -/
theorem size_insert (m : FieldMap α) (name : String) (value : α) :
    (m.insert name value).size = if m.contains name then m.size else m.size + 1 := by
  have hkeys : ∀ other, other ∈ (m.insert name value).keys ↔ name = other ∨ other ∈ m.keys := by
    simp [mem_keys_iff]
  rw [← length_keys, ← length_keys]
  split
  next hcontains =>
    refine ((List.perm_ext_iff_of_nodup (nodup_keys _) m.nodup_keys).2 fun other => ?_).length_eq
    rw [hkeys]
    exact ⟨fun h => h.elim (fun heq => heq ▸ (mem_keys_iff m name).2 hcontains) id, Or.inr⟩
  next hcontains =>
    have hnodup : (name :: m.keys).Nodup :=
      List.nodup_cons.2 ⟨fun hmem => hcontains ((mem_keys_iff m name).1 hmem), m.nodup_keys⟩
    refine ((List.perm_ext_iff_of_nodup (nodup_keys _) hnodup).2 fun other => ?_).length_eq
    rw [hkeys, List.mem_cons, eq_comm]

/-- A map has no more entries than one in which all its names are present. -/
theorem size_le_of_contains {m n : FieldMap α} (h : ∀ name, m.contains name → n.contains name) : m.size ≤ n.size := by
  rw [← length_keys, ← length_keys]
  apply m.nodup_keys.length_le_of_subset
  intro name hname
  exact (mem_keys_iff n name).2 (h name ((mem_keys_iff m name).1 hname))

/-! ## Maps built from lists -/

/-- A name behind all others is put at the end. -/
theorem insertEntry_of_forall_lt {name : String} (value : α) {l : List (String × α)} (h : ∀ e ∈ l, e.1 < name) :
    insertEntry name value l = l ++ [(name, value)] := by
  induction l with
  | nil => rfl
  | cons head rest ih =>
    have hlt : head.1 < name := h head List.mem_cons_self
    have hnot : ¬ name < head.1 := fun h' => String.lt_irrefl _ (String.lt_trans hlt h')
    have hne : name ≠ head.1 := fun h' => String.lt_irrefl _ (h' ▸ hlt)
    rw [insertEntry, if_neg hnot, if_neg hne, ih fun e he => h e (List.mem_cons_of_mem _ he), List.cons_append]

/-- Putting in ascending entries that stand behind those of a map adds them at the end. -/
theorem entries_foldl_insert {l : List (String × α)} (hl : l.Pairwise (fun a b => a.1 < b.1)) (m : FieldMap α)
    (h : ∀ a ∈ m.entries, ∀ b ∈ l, a.1 < b.1) :
    (l.foldl (fun acc e => acc.insert e.1 e.2) m).entries = m.entries ++ l := by
  induction l generalizing m with
  | nil => simp
  | cons head rest ih =>
    obtain ⟨hhead, hrest⟩ := List.pairwise_cons.1 hl
    have hentries : (m.insert head.1 head.2).entries = m.entries ++ [head] :=
      insertEntry_of_forall_lt head.2 fun e he => h e he head List.mem_cons_self
    rw [List.foldl_cons, ih hrest, hentries, List.append_assoc, List.singleton_append]
    intro a ha b hb
    rw [hentries, List.mem_append, List.mem_singleton] at ha
    rcases ha with ha | rfl
    · exact h a ha b (List.mem_cons_of_mem _ hb)
    · exact hhead b hb

/-- The map of ascending entries has just these entries. -/
theorem entries_ofList {l : List (String × α)} (hl : l.Pairwise (fun a b => a.1 < b.1)) : (ofList l).entries = l := by
  unfold ofList
  rw [entries_foldl_insert hl empty (by simp [empty])]
  rfl

/-- The map of the entries of a map is the map. -/
theorem ofList_entries (m : FieldMap α) : ofList m.entries = m := eq_of_entries_eq (entries_ofList m.ascending)

/-- In the map of a list the names of the list are present. -/
theorem contains_ofList (l : List (String × α)) (name : String) :
    (ofList l).contains name = decide (name ∈ l.map (·.1)) := by
  have hfold : ∀ (k : List (String × α)) (m : FieldMap α),
      (k.foldl (fun acc e => acc.insert e.1 e.2) m).contains name =
        (decide (name ∈ k.map (·.1)) || m.contains name) := by
    intro k
    induction k with
    | nil => simp
    | cons head rest ih =>
      intro m
      rw [List.foldl_cons, ih, contains_insert, List.map_cons]
      by_cases h : head.1 = name
      · simp [h]
      · have h' : ¬ name = head.1 := fun e => h e.symm
        simp only [h, decide_false, Bool.false_or, List.mem_cons, h', false_or]
  unfold ofList
  rw [hfold, contains_empty, Bool.or_false]

/-- Of two lists of entries the later one counts, where it has the name. -/
theorem get?_ofList_append (l k : List (String × α)) (name : String) :
    (ofList (l ++ k)).get? name = ((ofList k).get? name).or ((ofList l).get? name) := by
  have hfold : ∀ m : FieldMap α,
      (k.foldl (fun acc e => acc.insert e.1 e.2) m).get? name = ((ofList k).get? name).or (m.get? name) := by
    unfold ofList
    induction k with
    | nil => exact fun m => rfl
    | cons head rest ih =>
      intro m
      rw [List.foldl_cons, List.foldl_cons, ih, ih (empty.insert head.1 head.2), get?_insert, get?_insert, get?_empty]
      split
      · rw [Option.or_assoc, Option.some_or]
      · rw [Option.or_none]
  unfold ofList
  rw [List.foldl_append]
  exact hfold _

/-- What a name holds in the map of a list stands in the list under this name. -/
theorem mem_of_get?_ofList {l : List (String × α)} {name : String} {value : α}
    (h : (ofList l).get? name = some value) : (name, value) ∈ l := by
  have hfold : ∀ (k : List (String × α)) (m : FieldMap α),
      (k.foldl (fun acc e => acc.insert e.1 e.2) m).get? name = some value →
        (name, value) ∈ k ∨ m.get? name = some value := by
    intro k
    induction k with
    | nil => exact fun m h => Or.inr h
    | cons head rest ih =>
      intro m h
      rw [List.foldl_cons] at h
      rcases ih _ h with hrest | hhead
      · exact Or.inl (List.mem_cons_of_mem _ hrest)
      · rw [get?_insert] at hhead
        split at hhead
        next heq =>
          simp only [Option.some.injEq] at hhead
          rw [← heq, ← hhead]
          exact Or.inl List.mem_cons_self
        · exact Or.inr hhead
  rcases hfold l empty h with hmem | hempty
  · exact hmem
  · rw [get?_empty] at hempty
    cases hempty

/-- A name that is not among those of a list holds nothing in it. -/
theorem lookup_eq_none_of_not_mem {name : String} {l : List (String × α)} (h : name ∉ l.map (·.1)) :
    lookup name l = none := by
  induction l with
  | nil => rfl
  | cons head rest ih =>
    rw [List.map_cons, List.mem_cons, not_or] at h
    rw [lookup, if_neg (Ne.symm h.1), ih h.2]

/-- Where values are changed by those of a list, every name of the list is changed once. -/
theorem get?_foldl_update (f : Option α → β → α) {l : List (String × β)} (hl : (l.map (·.1)).Nodup) (m : FieldMap α)
    (name : String) :
    (l.foldl (fun acc e => acc.update e.1 fun old => f old e.2) m).get? name =
      (lookup name l).elim (m.get? name) fun b => some (f (m.get? name) b) := by
  induction l generalizing m with
  | nil => rfl
  | cons head rest ih =>
    rw [List.map_cons, List.nodup_cons] at hl
    rw [List.foldl_cons, ih hl.2, update, get?_insert]
    by_cases h : head.1 = name
    · have hnone : lookup name rest = none := lookup_eq_none_of_not_mem fun hmem => hl.1 (h ▸ hmem)
      simp [lookup, h, hnone]
    · simp [lookup, h]

/-- In the map of a list with distinct names a name holds what it holds in the list. -/
theorem get?_ofList {l : List (String × α)} (hl : (l.map (·.1)).Nodup) (name : String) :
    (ofList l).get? name = lookup name l := by
  have hfold := get?_foldl_update (fun _ value => value) hl empty name
  have hlist : (ofList l).get? name = _ := hfold
  rw [hlist]
  cases lookup name l <;> rfl

/-- Where one map is laid over another, its values count. -/
theorem get?_overlay (m n : FieldMap α) (name : String) :
    (m.overlay n).get? name = (n.get? name).or (m.get? name) := by
  have hfold := get?_foldl_update (fun _ value => value) n.nodup_keys m name
  have hoverlay : (m.overlay n).get? name = _ := hfold
  rw [hoverlay, ← get?]
  cases n.get? name <;> rfl

/-! ## Maps whose values were computed -/

/-- Lists whose items agree in an image, place by place, have the same images. -/
theorem map_eq_map_of_forall₂ {γ : Type u} {δ : Type v} {τ : Type} {f : γ → τ} {g : δ → τ} {l : List γ} {k : List δ}
    (h : List.Forall₂ (fun a b => f a = g b) l k) : l.map f = k.map g := by
  induction h with
  | nil => rfl
  | cons hab _ ih => rw [List.map_cons, List.map_cons, hab, ih]

/-- Entries that have the names of a map, in its order, are the entries of a map of their own. -/
theorem entries_ofList_of_forall₂ {R : String → α → β → Prop} {m : FieldMap α} {entries : List (String × β)}
    (h : List.Forall₂ (fun a b => a.1 = b.1 ∧ R a.1 a.2 b.2) m.entries entries) :
    (ofList entries).entries = entries := by
  have hnames : m.entries.map (·.1) = entries.map (·.1) := map_eq_map_of_forall₂ (h.imp fun _ _ hab => hab.1)
  have hsorted : entries.Pairwise (fun a b => a.1 < b.1) := by
    have hm : (m.entries.map (·.1)).Pairwise (· < ·) := List.pairwise_map.2 m.ascending
    rw [hnames] at hm
    exact List.pairwise_map.1 hm
  exact entries_ofList hsorted

/-- Values that correspond are put at the same place of entries that correspond. -/
theorem forall₂_insertEntry {R : String → α → β → Prop} {name : String} {a : α} {b : β} (hab : R name a b)
    {l : List (String × α)} {k : List (String × β)} (h : List.Forall₂ (fun x y => x.1 = y.1 ∧ R x.1 x.2 y.2) l k) :
    List.Forall₂ (fun x y => x.1 = y.1 ∧ R x.1 x.2 y.2) (insertEntry name a l) (insertEntry name b k) := by
  induction h with
  | nil => exact .cons ⟨rfl, hab⟩ .nil
  | @cons x y l k hxy hrest ih =>
    obtain ⟨key, old⟩ := x
    obtain ⟨key', old'⟩ := y
    obtain ⟨rfl, hold⟩ : key = key' ∧ R key old old' := hxy
    unfold insertEntry
    split
    · exact .cons ⟨rfl, hab⟩ (.cons ⟨rfl, hold⟩ hrest)
    · split
      · exact .cons ⟨rfl, hab⟩ hrest
      · exact .cons ⟨rfl, hold⟩ ih

/-- Lists with the same names, whose values correspond place by place, give maps that correspond in the same way. -/
theorem forall₂_entries_ofList {R : String → α → β → Prop} {l : List (String × α)} {k : List (String × β)}
    (h : List.Forall₂ (fun x y => x.1 = y.1 ∧ R x.1 x.2 y.2) l k) :
    List.Forall₂ (fun x y => x.1 = y.1 ∧ R x.1 x.2 y.2) (ofList l).entries (ofList k).entries := by
  have hfold : ∀ (m : FieldMap α) (n : FieldMap β),
      List.Forall₂ (fun x y => x.1 = y.1 ∧ R x.1 x.2 y.2) m.entries n.entries →
        List.Forall₂ (fun x y => x.1 = y.1 ∧ R x.1 x.2 y.2) (l.foldl (fun acc e => acc.insert e.1 e.2) m).entries
          (k.foldl (fun acc e => acc.insert e.1 e.2) n).entries := by
    induction h with
    | nil => exact fun m n hmn => hmn
    | @cons x y l k hxy _ ih =>
      intro m n hmn
      have hput := forall₂_insertEntry hxy.2 hmn
      refine ih (m.insert x.1 x.2) (n.insert y.1 y.2) ?_
      rw [hxy.1] at hput ⊢
      exact hput
  exact hfold empty empty .nil

/-- Maps with the same names, whose values correspond place by place, have corresponding values under each name. -/
theorem get?_of_forall₂ {R : String → α → β → Prop} {m : FieldMap α} {n : FieldMap β}
    (h : List.Forall₂ (fun a b => a.1 = b.1 ∧ R a.1 a.2 b.2) m.entries n.entries) (name : String) :
    (m.get? name = none ∧ n.get? name = none) ∨
      ∃ a b, m.get? name = some a ∧ n.get? name = some b ∧ R name a b := by
  unfold get?
  generalize m.entries = l at h
  generalize n.entries = k at h
  induction h with
  | nil => exact Or.inl ⟨rfl, rfl⟩
  | @cons a b l k hab _ ih =>
    by_cases hname : a.1 = name
    · right
      refine ⟨a.2, b.2, ?_, ?_, ?_⟩
      · simp [lookup, hname]
      · simp [lookup, ← hab.1, hname]
      · rw [← hname]
        exact hab.2
    · have hname' : ¬ b.1 = name := fun e => hname (hab.1.trans e)
      simpa [lookup, hname, hname'] using ih

/-- Maps in which the same names are present list them alike. -/
theorem keys_eq_of_contains {m : FieldMap α} {n : FieldMap β} (h : ∀ name, m.contains name = n.contains name) :
    m.keys = n.keys := by
  have hunits : m.map (fun _ => ()) = n.map fun _ => () := by
    refine ext_get? fun name => ?_
    have hname := h name
    rw [get?_map, get?_map]
    unfold contains at hname
    cases hm : m.get? name <;> cases hn : n.get? name <;> simp_all
  have hkeys := congrArg keys hunits
  rwa [map, map, keys_mapWithKey, keys_mapWithKey] at hkeys

/-- Entries with the same names in order correspond place by place when those of one name do. -/
theorem forall₂_of_names {R : String → α → β → Prop} {l : List (String × α)} {k : List (String × β)}
    (hnames : l.map (·.1) = k.map (·.1)) (h : ∀ a ∈ l, ∀ b ∈ k, a.1 = b.1 → R a.1 a.2 b.2) :
    List.Forall₂ (fun a b => a.1 = b.1 ∧ R a.1 a.2 b.2) l k := by
  induction l generalizing k with
  | nil =>
    rw [List.map_nil, eq_comm, List.map_eq_nil_iff] at hnames
    rw [hnames]
    exact .nil
  | cons a l ih =>
    cases k with
    | nil => simp at hnames
    | cons b k =>
      obtain ⟨hname, hrest⟩ := List.cons.inj hnames
      refine .cons ⟨hname, h a List.mem_cons_self b List.mem_cons_self hname⟩ (ih hrest ?_)
      exact fun a' ha' b' hb' => h a' (List.mem_cons_of_mem _ ha') b' (List.mem_cons_of_mem _ hb')

/-- The converse of `get?_of_forall₂`: what corresponds under each name does so place by place. -/
theorem forall₂_of_get? {R : String → α → β → Prop} {m : FieldMap α} {n : FieldMap β}
    (h : ∀ name, (m.get? name = none ∧ n.get? name = none) ∨
      ∃ a b, m.get? name = some a ∧ n.get? name = some b ∧ R name a b) :
    List.Forall₂ (fun a b => a.1 = b.1 ∧ R a.1 a.2 b.2) m.entries n.entries := by
  have hkeys : m.keys = n.keys := by
    refine keys_eq_of_contains fun name => ?_
    unfold contains
    rcases h name with ⟨hnone, hnone'⟩ | ⟨a, b, ha, hb, -⟩
    · rw [hnone, hnone']
      rfl
    · rw [ha, hb]
      rfl
  refine forall₂_of_names hkeys fun a ha b hb hname => ?_
  have hget := (mem_entries_iff m a.1 a.2).1 ha
  have hget' := (mem_entries_iff n b.1 b.2).1 hb
  rw [← hname] at hget'
  rcases h a.1 with ⟨hnone, -⟩ | ⟨x, y, hx, hy, hxy⟩
  · rw [hget] at hnone
    cases hnone
  · rw [hget] at hx
    rw [hget'] at hy
    cases hx
    cases hy
    exact hxy

/-- Where every value was replaced by a computation that succeeded, a name holds what the computation gives for it. -/
theorem entries_of_mapE {ε : Type} {f : String → α → Except ε β} {m : FieldMap α} {n : FieldMap β}
    (h : m.mapE f = .ok n) :
    List.Forall₂ (fun a b => a.1 = b.1 ∧ f a.1 a.2 = .ok b.2) m.entries n.entries := by
  obtain ⟨entries, hentries, rfl⟩ := Outcome.map_eq_ok_iff.1 h
  have hall : List.Forall₂ (fun a b => a.1 = b.1 ∧ f a.1 a.2 = .ok b.2) m.entries entries := by
    refine (Outcome.mapM_eq_ok_iff.1 hentries).imp fun a b hab => ?_
    obtain ⟨w, hw, rfl⟩ := Outcome.map_eq_ok_iff.1 hab
    exact ⟨rfl, hw⟩
  rwa [entries_ofList_of_forall₂ (R := fun name a b => f name a = .ok b) hall]

/-- Computations that do the same for every entry of a map do the same for the map. -/
theorem mapE_congr {ε : Type} {f g : String → α → Except ε β} {m : FieldMap α}
    (h : ∀ name value, m.get? name = some value → f name value = g name value) : m.mapE f = m.mapE g := by
  unfold mapE
  congr 1
  refine Outcome.mapM_congr fun e he => ?_
  rw [h e.1 e.2 ((mem_entries_iff m e.1 e.2).1 he)]

/-- `entries_of_mapE` for the name of a value. -/
theorem get?_of_mapE {ε : Type} {f : String → α → Except ε β} {m : FieldMap α} {n : FieldMap β}
    (h : m.mapE f = .ok n) (name : String) :
    (m.get? name = none ∧ n.get? name = none) ∨
      ∃ a b, m.get? name = some a ∧ n.get? name = some b ∧ f name a = .ok b :=
  get?_of_forall₂ (R := fun name a b => f name a = .ok b) (entries_of_mapE h) name

/-- Replacing the values of maps that correspond gives the same when it does so place by place. -/
theorem mapE_eq_of_forall₂ {γ : Type v} {ε : Type} {f : String → α → Except ε γ} {g : String → β → Except ε γ}
    {m : FieldMap α} {n : FieldMap β}
    (h : List.Forall₂ (fun x y => x.1 = y.1 ∧ f x.1 x.2 = g y.1 y.2) m.entries n.entries) : m.mapE f = n.mapE g := by
  unfold mapE
  congr 1
  refine Outcome.mapM_eq_of_forall₂ (h.imp fun x y hxy => ?_)
  rw [hxy.2, hxy.1]

/-- Replacing the values of a map gives the values that stand for them place by place. -/
theorem mapE_eq_ok_iff {ε : Type} {f : String → α → Except ε β} {m : FieldMap α} {n : FieldMap β} :
    m.mapE f = .ok n ↔ List.Forall₂ (fun a b => a.1 = b.1 ∧ f a.1 a.2 = .ok b.2) m.entries n.entries := by
  refine ⟨entries_of_mapE, fun h => ?_⟩
  have hentries : m.entries.mapM (fun e => do return (e.1, ← f e.1 e.2)) = .ok n.entries := by
    refine Outcome.mapM_eq_ok_iff.2 (h.imp fun a b hab => ?_)
    rw [hab.2, hab.1]
    rfl
  unfold mapE
  rw [hentries]
  exact congrArg Except.ok (ofList_entries n)

/-! ## Maps of lists -/

/-- The list of a name, the empty one where the name is not present. -/
def listAt (m : FieldMap (List α)) (name : String) : List α := (m.get? name).getD []

/-- The list of a name that is present is what the name holds. -/
theorem listAt_of_get? {m : FieldMap (List α)} {name : String} {items : List α} (h : m.get? name = some items) :
    m.listAt name = items := by
  rw [listAt, h, Option.getD_some]

/-- The list of the name of an entry is the value of the entry. -/
theorem listAt_of_mem {m : FieldMap (List α)} {e : String × List α} (h : e ∈ m.entries) : m.listAt e.1 = e.2 :=
  listAt_of_get? ((mem_entries_iff m e.1 e.2).1 h)

/-- To put items behind the list of one name leaves the other lists as they are. -/
theorem listAt_extendAt (m : FieldMap (List α)) (name : String) (items : List α) (other : String) :
    (m.extendAt name items).listAt other = m.listAt other ++ if name = other then items else [] := by
  unfold listAt extendAt update
  rw [get?_insert]
  by_cases h : name = other <;> simp [h]

/-- What a name holds behind the lists of another map were put to those of a map. -/
theorem get?_extendAll (m n : FieldMap (List α)) (name : String) :
    (m.extendAll n).get? name = (n.get? name).elim (m.get? name) fun items => some (m.listAt name ++ items) :=
  get?_foldl_update (fun old items => old.getD [] ++ items) n.nodup_keys m name

/-- Putting the lists of one map behind those of another lengthens every list by the other of its name. -/
theorem listAt_extendAll (m n : FieldMap (List α)) (name : String) :
    (m.extendAll n).listAt name = m.listAt name ++ n.listAt name := by
  have hget := get?_extendAll m n name
  cases hn : n.get? name with
  | none =>
    rw [hn, Option.elim_none] at hget
    rw [listAt, hget, listAt, listAt, hn, Option.getD_none, List.append_nil]
  | some items =>
    rw [hn, Option.elim_some] at hget
    rw [listAt_of_get? hget, listAt_of_get? hn]

end FieldMap

namespace NameSet

/-- Two sets of the same names are equal. -/
theorem ext_contains {s t : NameSet} (h : ∀ name, s.contains name ↔ t.contains name) : s = t := by
  refine FieldMap.ext_get? fun name => ?_
  have hname := h name
  unfold FieldMap.contains at hname
  cases hs : s.get? name <;> cases ht : t.get? name <;> simp_all

/-- In the set of a list are the names of the list. -/
@[simp] theorem contains_ofList (names : List String) (name : String) :
    (ofList names).contains name = decide (name ∈ names) := by
  unfold ofList
  rw [FieldMap.contains_ofList]
  simp

/-- A name is in a union when it is in one of the two sets. -/
@[simp] theorem contains_union (s t : NameSet) (name : String) :
    (s.union t).contains name = (s.contains name || t.contains name) := by
  have hkeys := FieldMap.mem_keys_iff t name
  unfold union
  rw [contains_addAll, Bool.or_comm]
  cases ht : t.contains name with
  | false => simp [hkeys, ht]
  | true => simp [hkeys, ht]

end NameSet

end FormValidation
