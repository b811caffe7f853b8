import FormValidation.Proofs.FieldMap
import FormValidation.Proofs.ProfileFile.Outcomes

/-!
# What a clean-up drops

A clean-up asks for every entry, one after the other, when its file was changed last. The entries that stay are those
whose file was found and that were valid at that moment (`ProfileCache.get?_cleanup_iff`); the number that is told is
the number of the others (`ProfileCache.size_cleanup`). The host may answer every question from another view.
-/

set_option autoImplicit false

namespace FormValidation

open HostScript

variable {views : Nat → HostView}

/-- The file of the entry is found at a moment, and the entry is valid for the time of the last change that is read
then. -/
def CacheEntry.ValidAt (views : Nat → HostView) (maxAge : Option Timestamp) (moment : Nat) (entry : CacheEntry) :
    Prop :=
  ∃ fileTime, (views moment).modified entry.filePath = .ok fileTime ∧
    entry.isValid fileTime (views (moment + 1)).now maxAge = true

namespace ProfileCache

variable {cache : ProfileCache} {moment : Nat}

/-! ## Dropping several paths -/

/-- Where paths were dropped one by one, all other entries are kept. -/
theorem get?_dropAll (cache : ProfileCache) (paths : List String) (place : String) :
    (paths.foldl drop cache).entries.get? place = if place ∈ paths then none else cache.entries.get? place := by
  induction paths generalizing cache with
  | nil => simp
  | cons path rest ih =>
    rw [List.foldl_cons, ih, drop, FieldMap.get?_erase]
    by_cases hrest : place ∈ rest <;> by_cases hpath : place = path <;> simp [hrest, hpath]

/-- Dropping paths that are cached, each once, takes as many entries away. -/
theorem size_dropAll {paths : List String} (hnodup : paths.Nodup)
    (hcached : ∀ path ∈ paths, cache.entries.contains path) :
    (paths.foldl drop cache).entries.size + paths.length = cache.entries.size := by
  induction paths generalizing cache with
  | nil => rfl
  | cons path rest ih =>
    obtain ⟨hpath, hrest⟩ := List.nodup_cons.1 hnodup
    have hleft : ∀ other ∈ rest, (cache.drop path).entries.contains other := by
      intro other hother
      have hne : ¬ other = path := fun heq => hpath (heq ▸ hother)
      simp [drop, hne, hcached other (List.mem_cons_of_mem _ hother)]
    have hsize : (cache.drop path).entries.size + 1 = cache.entries.size :=
      FieldMap.size_erase (hcached path List.mem_cons_self)
    rw [List.foldl_cons, List.length_cons, ← Nat.add_assoc, ih hrest hleft, hsize]

/-! ## Which entries have to go -/

/-- An entry has to go exactly when it is not valid at the moment. -/
theorem isExpired_iff (cache : ProfileCache) (entry : CacheEntry) (moment : Nat) :
    ((cache.isExpired entry).runFrom views moment).1 = true ↔ ¬ entry.ValidAt views cache.settings.maxAge moment := by
  unfold isExpired CacheEntry.ValidAt askModified
  rw [runFrom_seq, runFrom]
  cases htime : (views moment).modified entry.filePath with
  | error fault => simp [runFrom, runFrom_pure]
  | ok fileTime => simp [runFrom, runFrom_seq_pure, runFrom_askTime]

/-- The only file that is asked for is that of the entry, and it is asked for once. -/
theorem change_mem_asked_isExpired_iff (cache : ProfileCache) (entry : CacheEntry) (moment k : Nat) (path : String) :
    (k, .change path) ∈ (cache.isExpired entry).asked views moment ↔ k = moment ∧ path = entry.filePath := by
  unfold isExpired askModified
  rw [asked_seq, runFrom, asked, asked]
  cases htime : (views moment).modified entry.filePath with
  | error fault => simp [runFrom, asked_pure]
  | ok fileTime => simp [runFrom, asked_seq_pure, asked_askTime]

/-- The first entry is decided on, and the others from the moment at which that ended. -/
theorem runFrom_expiredPaths_cons (cache : ProfileCache) (e : String × CacheEntry) (rest : List (String × CacheEntry))
    (moment : Nat) :
    let found := (cache.isExpired e.2).runFrom views moment
    let others := ((cache.expiredPaths rest).runFrom views found.2).1
    ((cache.expiredPaths (e :: rest)).runFrom views moment).1 = if found.1 then e.1 :: others else others := by
  rw [expiredPaths, runFrom_seq, runFrom_seq_pure]

/-- The questions about the first entry come before those about the others. -/
theorem asked_expiredPaths_cons (cache : ProfileCache) (e : String × CacheEntry) (rest : List (String × CacheEntry))
    (moment : Nat) :
    (cache.expiredPaths (e :: rest)).asked views moment = (cache.isExpired e.2).asked views moment ++
      (cache.expiredPaths rest).asked views ((cache.isExpired e.2).runFrom views moment).2 := by
  rw [expiredPaths, asked_seq, asked_seq_pure]

/-- The paths that have to go are some of those that are listed, in their order. -/
theorem expiredPaths_sublist (cache : ProfileCache) (listed : List (String × CacheEntry)) (moment : Nat) :
    ((cache.expiredPaths listed).runFrom views moment).1.Sublist (listed.map Prod.fst) := by
  induction listed generalizing moment with
  | nil => exact List.Sublist.slnil
  | cons e rest ih =>
    rw [runFrom_expiredPaths_cons, List.map_cons]
    split
    · exact (ih _).cons_cons e.1
    · exact (ih _).cons e.1

/-- Only the files of listed entries are asked for. -/
theorem exists_of_change_mem_asked {listed : List (String × CacheEntry)} {k : Nat} {path : String}
    (h : (k, .change path) ∈ (cache.expiredPaths listed).asked views moment) : ∃ e ∈ listed, e.2.filePath = path := by
  induction listed generalizing moment with
  | nil => cases h
  | cons e rest ih =>
    rw [asked_expiredPaths_cons, List.mem_append, change_mem_asked_isExpired_iff] at h
    rcases h with ⟨-, hpath⟩ | hrest
    · exact ⟨e, List.mem_cons_self, hpath.symm⟩
    · obtain ⟨e', he', hpath⟩ := ih hrest
      exact ⟨e', List.mem_cons_of_mem _ he', hpath⟩

/-- Every listed entry is asked for, and it has to go unless it is valid at that moment. -/
theorem expiredPaths_spec (views : Nat → HostView) (cache : ProfileCache) {listed : List (String × CacheEntry)}
    (hpaths : ∀ e ∈ listed, e.2.filePath = e.1) (hnodup : (listed.map Prod.fst).Nodup) (moment : Nat)
    {e : String × CacheEntry} (he : e ∈ listed) :
    ∃ k, (k, .change e.1) ∈ (cache.expiredPaths listed).asked views moment ∧
      (∀ other, (other, .change e.1) ∈ (cache.expiredPaths listed).asked views moment → other = k) ∧
      (e.1 ∈ ((cache.expiredPaths listed).runFrom views moment).1 ↔ ¬ e.2.ValidAt views cache.settings.maxAge k) := by
  induction listed generalizing moment with
  | nil => cases he
  | cons head rest ih =>
    obtain ⟨hfirst, hrest⟩ := List.nodup_cons.1 (List.map_cons ▸ hnodup)
    have hhead : head.2.filePath = head.1 := hpaths head List.mem_cons_self
    have hlater : ∀ e ∈ rest, e.2.filePath = e.1 := fun e he => hpaths e (List.mem_cons_of_mem _ he)
    rw [runFrom_expiredPaths_cons, asked_expiredPaths_cons]
    simp only [List.mem_append, change_mem_asked_isExpired_iff, hhead]
    rcases List.mem_cons.1 he with rfl | hmem
    · -- the rest lists other paths, so what is asked and found there is not about this entry
      have hother : ∀ k, (k, .change e.1) ∉ (cache.expiredPaths rest).asked views
          ((cache.isExpired e.2).runFrom views moment).2 := by
        intro k hk
        obtain ⟨e', he', hpath⟩ := exists_of_change_mem_asked hk
        exact hfirst (List.mem_map.2 ⟨e', he', (hlater e' he').symm.trans hpath⟩)
      have hnot : e.1 ∉ ((cache.expiredPaths rest).runFrom views ((cache.isExpired e.2).runFrom views moment).2).1 :=
        fun hfound => hfirst ((expiredPaths_sublist cache rest _).subset hfound)
      refine ⟨moment, Or.inl ⟨rfl, rfl⟩, fun other hasked => ?_, ?_⟩
      · exact hasked.elim And.left fun hrest => absurd hrest (hother other)
      · rw [← isExpired_iff]
        split
        next hexpired => simp [hexpired]
        next hvalid => simp [hvalid, hnot]
    · have hne : e.1 ≠ head.1 := fun heq => hfirst (heq ▸ List.mem_map_of_mem hmem)
      obtain ⟨k, hasked, hunique, hgoes⟩ := ih hlater hrest ((cache.isExpired head.2).runFrom views moment).2 hmem
      refine ⟨k, Or.inr hasked, fun other hother => ?_, ?_⟩
      · exact hother.elim (fun hfirst => absurd hfirst.2 hne) (hunique other)
      · rw [← hgoes]
        split
        · simp [hne]
        · rfl

/-! ## The whole clean-up -/

/-- A cache that is turned off is not cleaned up. -/
theorem runFrom_cleanup_off (hoff : cache.settings.enabled = false) (moment : Nat) :
    (cache.cleanup.runFrom views moment).1 = (cache, 0) := by
  unfold cleanup
  rw [hoff, Bool.not_false, if_pos rfl, runFrom_pure]

/-- To clean up drops the paths that have to go and counts them. -/
theorem runFrom_cleanup (henabled : cache.settings.enabled = true) (moment : Nat) :
    (cache.cleanup.runFrom views moment).1 =
      let paths := ((cache.expiredPaths cache.entries.entries).runFrom views moment).1
      (paths.foldl drop cache, paths.length) := by
  unfold cleanup
  rw [henabled, Bool.not_true, if_neg Bool.false_ne_true, runFrom_seq, runFrom_pure]

/-- To clean up asks the questions about all entries. -/
theorem asked_cleanup (henabled : cache.settings.enabled = true) (moment : Nat) :
    cache.cleanup.asked views moment = (cache.expiredPaths cache.entries.entries).asked views moment := by
  unfold cleanup
  rw [henabled, Bool.not_true, if_neg Bool.false_ne_true, asked_seq, asked_pure, List.append_nil]

/-- The entries that stay are those that are valid for the time of the last change that the clean-up reads. -/
theorem get?_cleanup_iff (henabled : cache.settings.enabled = true)
    (hpaths : ∀ place entry, cache.entries.get? place = some entry → entry.filePath = place) (moment : Nat)
    (place : String) (entry : CacheEntry) :
    (cache.cleanup.runFrom views moment).1.1.entries.get? place = some entry ↔
      cache.entries.get? place = some entry ∧ ∃ k, (k, .change place) ∈ cache.cleanup.asked views moment ∧
        entry.ValidAt views cache.settings.maxAge k := by
  rw [runFrom_cleanup henabled, asked_cleanup henabled]
  dsimp only
  rw [get?_dropAll]
  by_cases hentry : cache.entries.get? place = some entry
  · have hlisted : (place, entry) ∈ cache.entries.entries := (FieldMap.mem_entries_iff _ _ _).2 hentry
    have hplaces : ∀ e ∈ cache.entries.entries, e.2.filePath = e.1 :=
      fun e he => hpaths e.1 e.2 ((FieldMap.mem_entries_iff _ _ _).1 he)
    obtain ⟨k, hasked, hunique, hgoes⟩ :=
      expiredPaths_spec views cache hplaces cache.entries.nodup_keys moment hlisted
    rw [hentry]
    constructor
    · intro hstays
      have hkept : place ∉ ((cache.expiredPaths cache.entries.entries).runFrom views moment).1 := by
        intro hfound
        rw [if_pos hfound] at hstays
        cases hstays
      exact ⟨rfl, k, hasked, not_not.1 fun hexpired => hkept (hgoes.2 hexpired)⟩
    · rintro ⟨-, other, hother, hvalid⟩
      rw [hunique other hother] at hvalid
      rw [if_neg fun hfound => hgoes.1 hfound hvalid]
  · constructor
    · intro hstays
      split at hstays
      · cases hstays
      · exact absurd hstays hentry
    · exact fun hboth => absurd hboth.1 hentry

/-- The number that a clean-up tells is the number of entries that it drops. -/
theorem size_cleanup (cache : ProfileCache) (moment : Nat) :
    (cache.cleanup.runFrom views moment).1.1.entries.size + (cache.cleanup.runFrom views moment).1.2 =
      cache.entries.size := by
  cases henabled : cache.settings.enabled with
  | false => rw [runFrom_cleanup_off henabled, Nat.add_zero]
  | true =>
    have hsublist : ((cache.expiredPaths cache.entries.entries).runFrom views moment).1.Sublist cache.entries.keys :=
      expiredPaths_sublist cache cache.entries.entries moment
    rw [runFrom_cleanup henabled]
    exact size_dropAll (hsublist.nodup cache.entries.nodup_keys)
      fun path hpath => (FieldMap.mem_keys_iff _ _).1 (hsublist.subset hpath)

end ProfileCache

end FormValidation
