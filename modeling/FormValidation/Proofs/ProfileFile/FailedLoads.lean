import FormValidation.Proofs.ProfileFile.Recency

/-!
# Loads that fail

A load can fail when its path is looked up, when the file is read, and once more when the set that was read is to be
cached. A put drops a path only after the host has answered its last question (`ProfileCache.PutOutcome`), so no cached
set goes to make room for one that is not cached in the end. All that can be lost is the set of the path itself: its
file has changed, or is to be read anew (`ProfileLoader.loses_at_most_of_error`). Nothing is assumed about the host but
that the path leads to one place, whenever it is asked for and found.
-/

set_option autoImplicit false

namespace FormValidation

open HostScript

variable {views : Nat → HostView} {settings : CacheSettings} {cache later last : ProfileCache} {path place : String}
  {moment : Nat} {asked : List (Nat × Question)} {fault : LoadFault}

/-! ## What may be lost -/

namespace ProfileCache

/-- The access order lists the paths that are cached, each once. -/
structure Listed (cache : ProfileCache) : Prop where
  nodup : cache.accessOrder.Nodup
  lists : ∀ place, place ∈ cache.accessOrder ↔ cache.entries.contains place = true

/-- All entries are kept but possibly the one of a path, and the access order of what is kept. -/
structure LosesAtMost (place : String) (cache later : ProfileCache) : Prop where
  settings : later.settings = cache.settings
  entries : ∀ other, later.entries.get? other = cache.entries.get? other ∨
    other = place ∧ later.entries.get? other = none
  order : later.accessOrder = cache.accessOrder.filter fun other => later.entries.contains other

/-- The access order still lists the paths that are cached when one was dropped. -/
theorem Listed.drop (h : Listed cache) (place : String) : Listed (cache.drop place) where
  nodup := h.nodup.filter _
  lists other := by simp [ProfileCache.drop, h.lists, and_comm]

namespace LosesAtMost

/-- A cache loses nothing against itself. -/
theorem refl (h : Listed cache) (place : String) : LosesAtMost place cache cache where
  settings := rfl
  entries _ := Or.inl rfl
  order := (List.filter_eq_self.2 fun other hother => (h.lists other).1 hother).symm

/-- To drop a path loses at most its entry. -/
theorem drop (h : Listed cache) (place : String) : LosesAtMost place cache (cache.drop place) where
  settings := rfl
  entries other := by
    rw [ProfileCache.drop, FieldMap.get?_erase]
    by_cases hother : other = place
    · exact Or.inr ⟨hother, if_pos hother⟩
    · exact Or.inl (if_neg hother)
  order := by
    rw [ProfileCache.drop]
    refine List.filter_congr fun other hother => ?_
    rw [FieldMap.contains_erase, (h.lists other).1 hother, Bool.and_true, decide_not]

/-- What loses at most an entry twice loses at most this entry. -/
theorem trans (h : LosesAtMost place cache later) (h' : LosesAtMost place later last) :
    LosesAtMost place cache last where
  settings := h'.settings.trans h.settings
  entries other := by
    rcases h'.entries other with hkept | hlost
    · rw [hkept]
      exact h.entries other
    · exact Or.inr hlost
  order := by
    rw [h'.order, h.order, List.filter_filter]
    refine List.filter_congr fun other _ => ?_
    rw [Bool.and_eq_left_iff_imp]
    intro hlast
    -- what is there in the end was not lost before
    rcases h'.entries other with hkept | ⟨-, hnone⟩
    · rwa [FieldMap.contains, ← hkept]
    · exact absurd hlast (FieldMap.get?_eq_none_iff.1 hnone)

end LosesAtMost

end ProfileCache

/-! ## The ways to fail -/

/-- A path leads to one place, whenever it is asked for among some questions and found. -/
def LeadsTo (views : Nat → HostView) (asked : List (Nat × Question)) (path place : String) : Prop :=
  ∀ k found, (k, .place path) ∈ asked → (views k).resolve path = .ok found → found = place

/-- A path that leads to one place for many questions does so for some of them. -/
theorem LeadsTo.mono {more : List (Nat × Question)} (h : LeadsTo views more path place) (hsub : asked ⊆ more) :
    LeadsTo views asked path place :=
  fun k found hasked => h k found (hsub hasked)

/-- A look-up that finds nothing drops at most what is cached of the path. -/
theorem ProfileCache.GetOutcome.losesAtMost {result : ProfileCache × Except LoadFault (Option ProfileSet)}
    (h : GetOutcome views cache path moment result asked) (hlisted : cache.Listed)
    (hplace : LeadsTo views asked path place) (hnothing : ∀ profiles, result.2 ≠ .ok (some profiles)) :
    LosesAtMost place cache result.1 := by
  cases h with
  | off | lost | absent | undated => exact .refl hlisted place
  | hit => exact absurd rfl (hnothing _)
  | @stale located entry fileTime henabled hlocated =>
    cases hplace moment located List.mem_cons_self hlocated
    exact .drop hlisted place

/-- A put that fails evicts nothing. -/
theorem ProfileCache.PutOutcome.cache_of_error {profiles : ProfileSet} {result : ProfileCache × Except LoadFault Unit}
    (h : PutOutcome views cache path profiles moment result asked) (hfailed : result.2 = .error fault) :
    result.1 = cache := by
  cases h with
  | off | stored => cases hfailed
  | lost | undated => rfl

namespace ProfileLoader

variable {result : ProfileLoader × Except LoadFault ProfileSet}

/-- Loading a file that is not cached leaves the cache as it is when it fails. -/
theorem FreshOutcome.cache_of_error (h : FreshOutcome views cache path moment result asked)
    (hfailed : result.2 = .error fault) : result.1.cache = cache := by
  cases h with
  | unknownFormat | failed => rfl
  | @put format profiles stored further hformat hread hput =>
    obtain ⟨kept, refused | put⟩ := stored
    · exact hput.cache_of_error rfl
    · cases hfailed

/-- Loading a file loses at most the entry of its path when it fails. -/
theorem LoadOutcome.losesAtMost (h : LoadOutcome views cache path moment result asked) (hlisted : cache.Listed)
    (hplace : LeadsTo views asked path place) (hfailed : result.2 = .error fault) :
    ProfileCache.LosesAtMost place cache result.1.cache := by
  cases h with
  | refused hget => exact hget.losesAtMost hlisted hplace fun profiles hfound => by cases hfound
  | found => cases hfailed
  | fresh hget hfresh =>
    rw [hfresh.cache_of_error hfailed]
    refine hget.losesAtMost hlisted (hplace.mono (List.subset_append_left _ _)) fun profiles hfound => ?_
    cases hfound

/-- Reloading a file loses at most the entry of its path when it fails. -/
theorem ReloadOutcome.losesAtMost (h : ReloadOutcome views cache path moment result asked) (hlisted : cache.Listed)
    (hplace : LeadsTo views asked path place) (hfailed : result.2 = .error fault) :
    ProfileCache.LosesAtMost place cache result.1.cache := by
  cases h with
  | lost => exact .refl hlisted place
  | @loaded located _ further hlocated hload =>
    cases hplace moment located List.mem_cons_self hlocated
    have hlater := hload.losesAtMost (hlisted.drop place) (hplace.mono (List.subset_cons_self _ _)) hfailed
    exact (ProfileCache.LosesAtMost.drop hlisted place).trans hlater

end ProfileLoader

/-! ## The states of a loader -/

/-- Some calls on a new cache lead to this one. -/
def ProfileCache.Reached (views : Nat → HostView) (settings : CacheSettings) (cache : ProfileCache) : Prop :=
  ∃ past, Recency views settings past cache

namespace ProfileCache.Reached

variable {loader : ProfileLoader}

/-- In a cache that was reached the access order lists the paths that are cached. -/
theorem listed (h : Reached views settings cache) : Listed cache := by
  obtain ⟨past, hpast⟩ := h
  exact ⟨hpast.nodup, hpast.lists⟩

/-- A call leads from a cache that was reached to another one. -/
theorem call (h : Reached views settings cache) (call : CacheCall) (moment : Nat) :
    Reached views settings ((call.script cache).runFrom views moment).1 := by
  obtain ⟨past, hpast⟩ := h
  have hnext := Recency.finish (c := ⟨cache, call, moment⟩) hpast
  exact ⟨_, hnext⟩

/-- Loading a file that is not cached leads to a cache that can be reached. -/
theorem loadFresh (h : Reached views settings cache) (path : String) (moment : Nat) :
    Reached views settings ((ProfileLoader.loadFresh cache path).runFrom views moment).1.1.cache := by
  unfold ProfileLoader.loadFresh
  rw [runFrom_seq]
  generalize (ProfileSet.readFile path).runFrom views moment = answer
  obtain ⟨fault | profiles, after⟩ := answer
  · exact h
  · have hput := h.call (.put path profiles) after
    rw [CacheCall.script, runFrom_seq_pure] at hput
    dsimp only
    rw [runFrom_seq, runFrom_pure]
    exact hput

/-- Loading a file leads to a cache that can be reached. -/
theorem load (h : Reached views settings loader.cache) (path : String) (moment : Nat) :
    Reached views settings ((loader.load path).runFrom views moment).1.1.cache := by
  have hget := h.call (.get path) moment
  rw [CacheCall.script, runFrom_seq_pure] at hget
  unfold ProfileLoader.load
  rw [runFrom_seq]
  generalize (loader.cache.get path).runFrom views moment = answer at hget ⊢
  obtain ⟨⟨kept, fault | _ | profiles⟩, after⟩ := answer
  · exact hget
  · exact hget.loadFresh path after
  · exact hget

/-- Reloading a file leads to a cache that can be reached. -/
theorem reload (h : Reached views settings loader.cache) (path : String) (moment : Nat) :
    Reached views settings ((loader.reload path).runFrom views moment).1.1.cache := by
  have hremove := h.call (.remove path) moment
  rw [CacheCall.script, runFrom_seq_pure] at hremove
  unfold ProfileLoader.reload
  rw [runFrom_seq]
  generalize (loader.cache.remove path).runFrom views moment = answer at hremove ⊢
  obtain ⟨⟨kept, fault | removed⟩, after⟩ := answer
  · exact hremove
  · have hkept : Reached views settings (ProfileLoader.mk kept).cache := hremove
    exact hkept.load path after

/-- A call of a loader leads to a cache that can be reached. -/
theorem finish (c : BegunCall) (h : Reached views settings c.loader.cache) :
    Reached views settings (c.finish views).1.cache := by
  obtain ⟨loader, call, moment⟩ := c
  unfold BegunCall.finish
  cases call with
  | load path =>
    rw [LoaderCall.script, runFrom_seq_pure]
    exact h.load path moment
  | reload path =>
    rw [LoaderCall.script, runFrom_seq_pure]
    exact h.reload path moment
  | clear => exact h.call .clear moment
  | cleanup =>
    have hcleaned := h.call .cleanup moment
    rw [CacheCall.script, runFrom_seq_pure] at hcleaned
    rw [LoaderCall.script, ProfileLoader.cleanup, runFrom_seq_pure, runFrom_seq_pure]
    exact hcleaned

/-- The calls of a run lead to a cache that can be reached. -/
theorem afterCalls {calls : List LoaderCall} (h : Reached views settings loader.cache) :
    Reached views settings (loader.afterCalls views moment calls).1.cache := by
  induction calls generalizing loader moment with
  | nil => exact h
  | cons call rest ih => exact ih (finish ⟨loader, call, moment⟩ h)

end ProfileCache.Reached

namespace ProfileLoader

/-- After any calls on a new loader: if a file cannot be loaded, or not be read anew, then all that was cached of other
files stays, in its order, and nothing is added. At most what was cached of the file itself is lost. -/
theorem loses_at_most_of_error {calls : List LoaderCall} {start : ProfileLoader × Nat}
    {script : HostScript (ProfileLoader × Except LoadFault ProfileSet)}
    (hstart : (ProfileLoader.new settings).afterCalls views 0 calls = start)
    (hscript : script = start.1.load path ∨ script = start.1.reload path)
    (hplace : LeadsTo views (script.asked views start.2) path place)
    (hfailed : (script.runFrom views start.2).1.2 = .error fault) :
    start.1.cache.Listed ∧ start.1.cache.LosesAtMost place (script.runFrom views start.2).1.1.cache := by
  have hreached : ProfileCache.Reached views settings start.1.cache := by
    rw [← hstart]
    exact ProfileCache.Reached.afterCalls ⟨[], Recency.new views settings⟩
  have hlisted : start.1.cache.Listed := hreached.listed
  refine ⟨hlisted, ?_⟩
  rcases hscript with rfl | rfl
  · exact (load_outcome views start.1 path start.2).losesAtMost hlisted hplace hfailed
  · exact (reload_outcome views start.1 path start.2).losesAtMost hlisted hplace hfailed

/-- A host on which a file is overwritten at a moment by what is no profile file. -/
def spoiledAt (spoiling moment : Nat) : HostView where
  resolve := .ok
  modified path := .ok (if path = "p.json" ∧ spoiling ≤ moment then 1 else 0)
  read path := .ok (if path = "p.json" ∧ spoiling ≤ moment then "[" else "{}")
  input := .ok ""
  now := 0

/-- Two files are cached when one of them is overwritten; it goes when it is to be loaded again, and the other stays. -/
theorem loses_at_most_of_error_spoiled :
    let start := (ProfileLoader.new {}).afterCalls (spoiledAt 10) 0 [.load "a.json", .load "p.json"]
    let failed := ((start.1.load "p.json").runFrom (spoiledAt 10) start.2).1
    (start.1.cache.accessOrder = ["a.json", "p.json"] ∧ failed.1.cache.accessOrder = ["a.json"]) ∧
      (∃ fault, failed.2 = .error fault) ∧
      start.1.cache.Listed ∧ start.1.cache.LosesAtMost "p.json" failed.1.cache := by
  intro start failed
  have hfailed : ∃ fault, failed.2 = .error fault := by
    have hnone : failed.2.toBool = false := by decide +kernel
    cases hresult : failed.2 with
    | error fault => exact ⟨fault, rfl⟩
    | ok profiles =>
      rw [hresult] at hnone
      cases hnone
  obtain ⟨fault, hfault⟩ := hfailed
  have hplace : LeadsTo (spoiledAt 10) ((start.1.load "p.json").asked (spoiledAt 10) start.2) "p.json" "p.json" :=
    fun k found _ hfound => (Except.ok.inj hfound).symm
  refine ⟨by decide +kernel, ⟨fault, hfault⟩, ?_⟩
  exact loses_at_most_of_error rfl (Or.inl rfl) hplace hfault

end ProfileLoader

end FormValidation
