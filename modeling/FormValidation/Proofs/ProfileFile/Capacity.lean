import FormValidation.Proofs.ProfileFile.Recency
import Mathlib.Data.List.Induction

/-!
# How many files are cached

A put makes room by dropping one path, and relies on the access order to name one that is cached
(`Recency.size_makeRoom_lt`). So no call makes a cache larger than its settings allow, with one exception: where no
entry is allowed at all there is nothing to drop, and the set is put nevertheless. Over all runs, the number of cached
files therefore keeps the bound of the settings exactly if the cache is off or the bound is not zero, and it never
exceeds the larger of that bound and one (`CacheRun.total_le_iff`).
-/

set_option autoImplicit false

namespace FormValidation

open HostScript

variable {views : Nat → HostView} {settings : CacheSettings} {past : List BegunCacheCall} {cache later : ProfileCache}

/-- A cache that nothing was put into has no more entries. -/
theorem ProfileCache.Shrinks.size_le (h : Shrinks cache later) : later.entries.size ≤ cache.entries.size := by
  refine FieldMap.size_le_of_contains fun place hplace => ?_
  obtain ⟨entry, hentry⟩ := FieldMap.contains_iff.1 hplace
  exact FieldMap.contains_of_get? (h.entries place entry hentry)

/-- To store an entry adds one unless its path is cached. -/
theorem ProfileCache.size_store (cache : ProfileCache) (entry : CacheEntry) :
    (cache.store entry).entries.size =
      if cache.entries.contains entry.filePath then cache.entries.size else cache.entries.size + 1 :=
  FieldMap.size_insert _ _ _

namespace Recency

/-! ## One call -/

/-- For a path that is not cached there is room afterwards, if any entry is allowed. -/
theorem size_makeRoom_lt (h : Recency views settings past cache) {place : String}
    (habsent : cache.entries.contains place = false) :
    (cache.makeRoom place).entries.size < max cache.entries.size (max 1 settings.maxEntries) := by
  unfold ProfileCache.makeRoom ProfileCache.evictOldest
  rw [habsent, Bool.not_false, Bool.true_and, h.settings]
  split
  next hfull =>
    cases horder : cache.accessOrder with
    | nil =>
      -- the access order lists what is cached, so nothing is
      have hempty : cache.entries.size ≤ (FieldMap.empty : FieldMap CacheEntry).size := by
        refine FieldMap.size_le_of_contains fun other hother => ?_
        rw [← h.lists, horder] at hother
        cases hother
      have hzero : cache.entries.size = 0 := Nat.le_zero.1 hempty
      dsimp only
      omega
    | cons oldest rest =>
      have hcached : cache.entries.contains oldest = true :=
        (h.lists oldest).1 (horder ▸ List.mem_cons_self)
      have hsize : (cache.drop oldest).entries.size + 1 = cache.entries.size := FieldMap.size_erase hcached
      dsimp only
      omega
  next hroom =>
    rw [decide_eq_true_iff] at hroom
    omega

/-- To put an entry leaves at most the entries that there were, or the number allowed, or one. -/
theorem size_put_le (h : Recency views settings past cache) (entry : CacheEntry) :
    ((cache.makeRoom entry.filePath).store entry).entries.size ≤
      max cache.entries.size (max 1 settings.maxEntries) := by
  rw [ProfileCache.size_store]
  split
  · exact Nat.le_trans (ProfileCache.Shrinks.makeRoom cache _).size_le (Nat.le_max_left _ _)
  next hnew =>
    cases hcached : cache.entries.contains entry.filePath with
    | true =>
      -- a path that is cached stays
      rw [ProfileCache.makeRoom, hcached] at hnew
      exact absurd hcached hnew
    | false => exact h.size_makeRoom_lt hcached

/-- No call leaves more entries than there were, unless there is room for them. -/
theorem size_finish_le {c : BegunCacheCall} (h : Recency views settings past c.cache) :
    (c.finish views).1.entries.size ≤ max c.cache.entries.size (max 1 settings.maxEntries) := by
  obtain ⟨cache, call, moment⟩ := c
  have hshrinks : ∀ {later : ProfileCache}, ProfileCache.Shrinks cache later →
      later.entries.size ≤ max cache.entries.size (max 1 settings.maxEntries) :=
    fun hlater => Nat.le_trans hlater.size_le (Nat.le_max_left _ _)
  unfold BegunCacheCall.finish
  cases call with
  | get path =>
    rw [CacheCall.script, runFrom_seq_pure]
    exact hshrinks (ProfileCache.get_outcome views cache path moment).shrinks
  | put path profiles =>
    rw [CacheCall.script, runFrom_seq_pure]
    have hput := ProfileCache.put_outcome views cache path profiles moment
    generalize ((cache.put path profiles).runFrom views moment).1 = result at hput ⊢
    generalize (cache.put path profiles).asked views moment = asked at hput
    cases hput with
    | off | lost | undated => exact hshrinks (.refl cache)
    | @stored place fileTime => exact h.size_put_le ⟨profiles, (views (moment + 2)).now, fileTime, place⟩
  | remove path =>
    rw [CacheCall.script, runFrom_seq_pure, ProfileCache.remove, runFrom_seq, ProfileCache.runFrom_canonical]
    cases (views moment).resolve path with
    | error fault => exact hshrinks (.refl cache)
    | ok place => exact hshrinks (.drop cache place)
  | clear => exact hshrinks (.clear cache)
  | cleanup =>
    rw [CacheCall.script, runFrom_seq_pure]
    exact hshrinks (cache.cleanup_shrinks moment)

/-- A cache that is off has no entries. -/
theorem size_eq_zero (h : Recency views settings past cache) (hoff : settings.enabled = false) :
    cache.entries.size = 0 := by
  have hempty : cache.entries.size ≤ (FieldMap.empty : FieldMap CacheEntry).size := by
    refine FieldMap.size_le_of_contains fun place hplace => ?_
    rw [h.enabled place hplace] at hoff
    cases hoff
  exact Nat.le_zero.1 hempty

end Recency

/-! ## Runs -/

namespace CacheRun

/-- The figures of the cache at the end of a run. -/
def stats (views : Nat → HostView) (run : CacheRun) : CacheStats := (run.cache.stats.runFrom views run.moment).1

/-- The statistics count the entries. -/
theorem total_stats (run : CacheRun) : (run.stats views).total = run.cache.entries.size := rfl

/-- The statistics give the number of entries allowed. -/
theorem maxEntries_stats (run : CacheRun) : (run.stats views).maxEntries = run.cache.settings.maxEntries := rfl

/-- One more call goes on from the state after the others. -/
theorem after_concat (views : Nat → HostView) (settings : CacheSettings) (calls : List CacheCall) (call : CacheCall) :
    after views settings (calls ++ [call]) = next views (after views settings calls) call := by
  rw [after, List.foldl_append]
  rfl

/-- There are never more entries than allowed, or one. -/
theorem size_after_le (views : Nat → HostView) (settings : CacheSettings) (calls : List CacheCall) :
    (after views settings calls).cache.entries.size ≤ max 1 settings.maxEntries := by
  induction calls using List.reverseRecOn with
  | nil => exact Nat.zero_le _
  | append_singleton calls call ih =>
    rw [after_concat]
    have hcall := (recency_after views settings calls).size_finish_le
      (c := ⟨(after views settings calls).cache, call, (after views settings calls).moment⟩)
    exact Nat.le_trans hcall (Nat.max_le.2 ⟨ih, Nat.le_refl _⟩)

/-- After any calls on a cache, whatever the host answers, the number of cached files is at most the number of entries
that the settings allow, or one if they allow none. It is always within what they allow exactly if the cache is off or
an entry is allowed. -/
theorem total_le_iff (settings : CacheSettings) :
    (∀ views calls, ((after views settings calls).stats views).total ≤
      max 1 ((after views settings calls).stats views).maxEntries) ∧
    ((∀ views calls, ((after views settings calls).stats views).total ≤
      ((after views settings calls).stats views).maxEntries) ↔
        (settings.enabled = true → 0 < settings.maxEntries)) := by
  have hsettings : ∀ views calls, (after views settings calls).cache.settings = settings :=
    fun views calls => (recency_after views settings calls).settings
  simp only [total_stats, maxEntries_stats, hsettings]
  refine ⟨fun views calls => size_after_le views settings calls, fun hbound henabled => ?_, fun hroom views calls => ?_⟩
  · -- after one put there is an entry, so the bound is not zero
    obtain ⟨maxEntries, maxAge, enabled⟩ := settings
    subst henabled
    rw [Nat.pos_iff_ne_zero]
    rintro rfl
    have hone : (after (fun _ => .still) ⟨0, maxAge, true⟩ [.put "p.json" .empty]).cache.entries.size = 1 := rfl
    have hzero := hbound (fun _ => .still) [.put "p.json" .empty]
    rw [hone] at hzero
    exact Nat.not_succ_le_zero 0 hzero
  · cases henabled : settings.enabled with
    | false =>
      rw [(recency_after views settings calls).size_eq_zero henabled]
      exact Nat.zero_le _
    | true => exact Nat.le_trans (size_after_le views settings calls) (Nat.max_le.2 ⟨hroom henabled, Nat.le_refl _⟩)

/-- A set that is put into a cache without room for any is cached. -/
theorem total_of_noRoom :
    let stats := (after (fun _ => .still) { maxEntries := 0 } [.put "p.json" .empty]).stats fun _ => .still
    stats.maxEntries = 0 ∧ stats.total = 1 := by
  decide +kernel

end CacheRun

end FormValidation
