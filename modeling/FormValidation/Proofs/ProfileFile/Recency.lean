import FormValidation.Proofs.ProfileFile.Cleanup
import FormValidation.Proofs.ProfileFile.Provenance
import Mathlib.Order.Bounds.Basic

/-!
# Cached paths by their last use

A path is used by a call that puts a set of it or finds one. Whatever calls were made since a cache was new, and
whatever the host answered to each of their questions, the access order lists the paths that are cached, each once, by
their last use in the run (`Recency`, kept by every call: `Recency.finish`). So the path at its front is the one that
was used the longest time ago (`Recency.head?_accessOrder_iff`), which is what a put has to rely on when it needs room
(`Recency.lost_put_iff`). `CacheRun.entries_by_last_use` puts the facts about a run together.
-/

set_option autoImplicit false

namespace FormValidation

open HostScript

/-! ## Calls -/

/-- The calls that use a cache or change it. -/
inductive CacheCall where
  | get (path : String)
  | put (path : String) (profiles : ProfileSet)
  | remove (path : String)
  | clear
  | cleanup

/-- What becomes of a cache by a call. -/
def CacheCall.script (cache : ProfileCache) : CacheCall → HostScript ProfileCache
  | get path => do return (← cache.get path).1
  | put path profiles => do return (← cache.put path profiles).1
  | remove path => do return (← cache.remove path).1
  | clear => return cache.clear
  | cleanup => do return (← cache.cleanup).1

/-- A call with the cache and the moment at which it begins. -/
structure BegunCacheCall where
  cache : ProfileCache
  call : CacheCall
  moment : Nat

namespace BegunCacheCall

/-- The cache and the moment at the end of the call. -/
def finish (views : Nat → HostView) (c : BegunCacheCall) : ProfileCache × Nat :=
  (c.call.script c.cache).runFrom views c.moment

/-- The call put a set of the canonical path, or found one. -/
def Uses (views : Nat → HostView) (c : BegunCacheCall) (place : String) : Prop :=
  match c.call with
  | .get path => (views c.moment).resolve path = .ok place ∧
    ∃ profiles, ((c.cache.get path).runFrom views c.moment).1.2 = .ok (some profiles)
  | .put path profiles => c.cache.settings.enabled = true ∧ (views c.moment).resolve path = .ok place ∧
    ((c.cache.put path profiles).runFrom views c.moment).1.2 = .ok ()
  | .remove _ | .clear | .cleanup => False

end BegunCacheCall

/-- A cache in use, with the calls so far. -/
structure CacheRun where
  cache : ProfileCache
  moment : Nat
  past : List BegunCacheCall

namespace CacheRun

/-- The run with one more call. -/
def next (views : Nat → HostView) (run : CacheRun) (call : CacheCall) : CacheRun :=
  let c : BegunCacheCall := ⟨run.cache, call, run.moment⟩
  ⟨(c.finish views).1, (c.finish views).2, run.past ++ [c]⟩

/-- The run of some calls on a new cache. -/
def after (views : Nat → HostView) (settings : CacheSettings) (calls : List CacheCall) : CacheRun :=
  calls.foldl (next views) ⟨.new settings, 0, []⟩

end CacheRun

/-! ## The last use of a path -/

variable {views : Nat → HostView} {past : List BegunCacheCall} {c : BegunCacheCall} {p q place : String}

/-- The last call that used a path is the one with a number. -/
def LastUse (views : Nat → HostView) (past : List BegunCacheCall) (place : String) (n : Nat) : Prop :=
  IsGreatest {m | ∃ c, past[m]? = some c ∧ c.Uses views place} n

/-- Both paths were used, and the first one not since the last use of the second one. -/
def UsedEarlier (views : Nat → HostView) (past : List BegunCacheCall) (p q : String) : Prop :=
  ∃ m n, LastUse views past p m ∧ LastUse views past q n ∧ m < n

/-- The last use of a path is one of the calls. -/
theorem LastUse.lt_length {n : Nat} (h : LastUse views past place n) : n < past.length := by
  obtain ⟨c, hc, -⟩ := h.1
  exact (List.getElem?_eq_some_iff.1 hc).1

/-- A call that uses a path is its last use so far. -/
theorem lastUse_append_self (huses : c.Uses views place) : LastUse views (past ++ [c]) place past.length := by
  refine ⟨⟨c, List.getElem?_concat_length, huses⟩, ?_⟩
  rintro m ⟨c', hc', -⟩
  have hlt : m < (past ++ [c]).length := (List.getElem?_eq_some_iff.1 hc').1
  rw [List.length_append, List.length_singleton] at hlt
  exact Nat.le_of_lt_succ hlt

/-- A call that does not use a path leaves its last use as it is. -/
theorem LastUse.append {n : Nat} (h : LastUse views past place n) (hidle : ¬ c.Uses views place) :
    LastUse views (past ++ [c]) place n := by
  have hn := h.lt_length
  obtain ⟨⟨user, huser, huses⟩, hgreatest⟩ := h
  refine ⟨⟨user, (List.getElem?_append_left hn).trans huser, huses⟩, ?_⟩
  rintro m ⟨c', hc', huses'⟩
  by_cases hm : m < past.length
  · rw [List.getElem?_append_left hm] at hc'
    exact hgreatest ⟨c', hc', huses'⟩
  · -- behind the earlier calls stands only the one that does not use the path
    rw [List.getElem?_append_right (Nat.le_of_not_lt hm)] at hc'
    have hmem : c' ∈ [c] := List.mem_of_getElem? hc'
    rw [List.mem_singleton.1 hmem] at huses'
    exact absurd huses' hidle

namespace UsedEarlier

/-- A call that uses neither of two paths leaves their order as it is. -/
theorem append (h : UsedEarlier views past p q) (hp : ¬ c.Uses views p) (hq : ¬ c.Uses views q) :
    UsedEarlier views (past ++ [c]) p q := by
  obtain ⟨m, n, hm, hn, hlt⟩ := h
  exact ⟨m, n, hm.append hp, hn.append hq, hlt⟩

/-- Of two paths only one was used earlier. -/
theorem asymm (h : UsedEarlier views past p q) : ¬ UsedEarlier views past q p := by
  rintro ⟨n', m', hn', hm', hlt'⟩
  obtain ⟨m, n, hm, hn, hlt⟩ := h
  rw [hm.unique hm', hn.unique hn'] at hlt
  exact Nat.lt_asymm hlt hlt'

/-- No path was used earlier than itself. -/
theorem ne (h : UsedEarlier views past p q) : p ≠ q := by
  rintro rfl
  exact h.asymm h

end UsedEarlier

/-! ## Storing an entry -/

namespace ProfileCache

/-- A stored entry is found under its path, and the others as before. -/
theorem get?_store (cache : ProfileCache) (entry : CacheEntry) (other : String) :
    (cache.store entry).entries.get? other = if entry.filePath = other then some entry else cache.entries.get? other :=
  FieldMap.get?_insert _ _ _ _

/-- After an entry was stored its path is cached, and those that were. -/
theorem contains_store (cache : ProfileCache) (entry : CacheEntry) (other : String) :
    (cache.store entry).entries.contains other = (decide (entry.filePath = other) || cache.entries.contains other) :=
  FieldMap.contains_insert _ _ _ _

end ProfileCache

/-! ## The invariant -/

/-- The access order lists what is cached by its last use, and entries know their path. -/
structure Recency (views : Nat → HostView) (settings : CacheSettings) (past : List BegunCacheCall)
    (cache : ProfileCache) : Prop where
  enabled : ∀ place, cache.entries.contains place = true → settings.enabled = true
  filePath : ∀ place entry, cache.entries.get? place = some entry → entry.filePath = place
  lists : ∀ place, place ∈ cache.accessOrder ↔ cache.entries.contains place = true
  used : ∀ place ∈ cache.accessOrder, ∃ n, LastUse views past place n
  order : cache.accessOrder.Pairwise (UsedEarlier views past)
  settings : cache.settings = settings

namespace Recency

variable {settings : CacheSettings} {cache later : ProfileCache}

/-- A new cache holds nothing, and nothing was used. -/
theorem new (views : Nat → HostView) (settings : CacheSettings) : Recency views settings [] (.new settings) where
  settings := rfl
  enabled place h := by cases h
  filePath place entry h := by cases h
  lists place := by simp [ProfileCache.new]
  used place h := by cases h
  order := List.Pairwise.nil

/-- No path is listed twice in the access order. -/
theorem nodup (h : Recency views settings past cache) : cache.accessOrder.Nodup :=
  h.order.imp fun hearlier => hearlier.ne

/-- To drop a path keeps the order of the others. -/
theorem drop (h : Recency views settings past cache) (path : String) :
    Recency views settings past (cache.drop path) where
  settings := h.settings
  enabled place hplace := by
    rw [ProfileCache.drop, FieldMap.contains_erase, Bool.and_eq_true] at hplace
    exact h.enabled place hplace.2
  filePath place entry hentry := h.filePath place entry ((ProfileCache.Shrinks.drop cache path).entries _ _ hentry)
  lists place := by simp [ProfileCache.drop, h.lists, and_comm]
  used place hplace := h.used place (List.mem_of_mem_filter hplace)
  order := h.order.filter _

/-- A cleared cache is in order. -/
theorem clear (h : Recency views settings past cache) : Recency views settings past cache.clear where
  settings := h.settings
  enabled place hplace := by cases hplace
  filePath place entry hentry := by cases hentry
  lists place := by simp [ProfileCache.clear]
  used place hplace := by cases hplace
  order := List.Pairwise.nil

/-- To drop paths one by one keeps the order of the others. -/
theorem dropAll (h : Recency views settings past cache) (paths : List String) :
    Recency views settings past (paths.foldl ProfileCache.drop cache) := by
  induction paths generalizing cache with
  | nil => exact h
  | cons path rest ih => exact ih (h.drop path)

/-- To make room keeps the order of what is left. -/
theorem makeRoom (h : Recency views settings past cache) (path : String) :
    Recency views settings past (cache.makeRoom path) := by
  unfold ProfileCache.makeRoom
  split
  · unfold ProfileCache.evictOldest
    split
    · exact h
    · exact h.drop _
  · exact h

/-! ## One call -/

/-- A call that uses no path leaves the order as it is. -/
theorem idle (h : Recency views settings past cache) (hidle : ∀ place, ¬ c.Uses views place) :
    Recency views settings (past ++ [c]) cache where
  settings := h.settings
  enabled := h.enabled
  filePath := h.filePath
  lists := h.lists
  used place hplace := by
    obtain ⟨n, hn⟩ := h.used place hplace
    exact ⟨n, hn.append (hidle place)⟩
  order := h.order.imp fun hearlier => hearlier.append (hidle _) (hidle _)

/-- A call that uses one path brings it to the end of the order. -/
theorem use (h : Recency views settings past cache) (place : String) (hsettings : later.settings = cache.settings)
    (henabled : settings.enabled = true) (huses : ∀ other, c.Uses views other ↔ other = place)
    (hfilePath : ∀ other entry, later.entries.get? other = some entry → entry.filePath = other)
    (hcontains : ∀ other, later.entries.contains other = true ↔ other = place ∨ cache.entries.contains other = true)
    (horder : later.accessOrder = (cache.touch place).accessOrder) :
    Recency views settings (past ++ [c]) later := by
  have hself : LastUse views (past ++ [c]) place past.length := lastUse_append_self ((huses place).2 rfl)
  -- the other paths keep their last use, which lies before this call
  have hothers : ∀ other ∈ cache.accessOrder.filter (fun p => p ≠ place),
      ¬ c.Uses views other ∧ UsedEarlier views (past ++ [c]) other place := by
    intro other hother
    obtain ⟨hmem, hne⟩ := List.mem_filter.1 hother
    have hidle : ¬ c.Uses views other := fun hused => of_decide_eq_true hne ((huses other).1 hused)
    obtain ⟨n, hn⟩ := h.used other hmem
    exact ⟨hidle, n, past.length, hn.append hidle, hself, hn.lt_length⟩
  refine ⟨fun _ _ => henabled, hfilePath, fun other => ?_, ?_, ?_, hsettings.trans h.settings⟩
  · rw [hcontains, horder, ProfileCache.touch, List.mem_append, List.mem_singleton, List.mem_filter, h.lists]
    by_cases hother : other = place <;> simp [hother]
  · intro other hother
    rw [horder, ProfileCache.touch] at hother
    rcases List.mem_append.1 hother with hleft | hlast
    · obtain ⟨-, n, -, hn, -⟩ := hothers other hleft
      exact ⟨n, hn⟩
    · rw [List.mem_singleton.1 hlast]
      exact ⟨past.length, hself⟩
  · rw [horder, ProfileCache.touch]
    refine List.pairwise_append.2 ⟨?_, List.pairwise_singleton _ _, ?_⟩
    · refine (h.order.filter _).imp_of_mem fun hp hq hearlier => ?_
      exact hearlier.append (hothers _ hp).1 (hothers _ hq).1
    · intro other hother last hlast
      rw [List.mem_singleton.1 hlast]
      exact (hothers other hother).2

/-- A look-up that finds its path makes it the last one used, and any other one changes no order. -/
theorem get {path : String} {moment : Nat} {result : ProfileCache × Except LoadFault (Option ProfileSet)}
    {asked : List (Nat × Question)} (h : Recency views settings past cache)
    (hget : ProfileCache.GetOutcome views cache path moment result asked)
    (huses : ∀ place, c.Uses views place ↔
      (views moment).resolve path = .ok place ∧ ∃ profiles, result.2 = .ok (some profiles)) :
    Recency views settings (past ++ [c]) result.1 := by
  cases hget with
  | off | lost | absent | undated => exact h.idle fun place hused => by simpa using ((huses place).1 hused).2
  | stale => exact (h.drop _).idle fun place hused => by simpa using ((huses place).1 hused).2
  | @hit located entry fileTime henabled hplace hentry htime hvalid =>
    have hcached : cache.entries.contains located = true := FieldMap.contains_of_get? hentry
    refine h.use located rfl (h.enabled located hcached) (fun other => ?_) h.filePath (fun other => ?_) rfl
    · rw [huses, hplace, Except.ok.injEq]
      simp [eq_comm]
    · constructor
      · exact Or.inr
      · rintro (rfl | hother)
        · exact hcached
        · exact hother

/-- Putting a set makes its path the last one used, unless it fails or the cache is turned off. -/
theorem put {path : String} {profiles : ProfileSet} {moment : Nat} {result : ProfileCache × Except LoadFault Unit}
    {asked : List (Nat × Question)} (h : Recency views settings past cache)
    (hput : ProfileCache.PutOutcome views cache path profiles moment result asked)
    (huses : ∀ place, c.Uses views place ↔
      cache.settings.enabled = true ∧ (views moment).resolve path = .ok place ∧ result.2 = .ok ()) :
    Recency views settings (past ++ [c]) result.1 := by
  cases hput with
  | off hoff => exact h.idle fun place hused => by simpa [hoff] using ((huses place).1 hused).1
  | lost | undated => exact h.idle fun place hused => by simpa using ((huses place).1 hused).2.2
  | @stored located fileTime henabled hplace htime =>
    have hroom := h.makeRoom located
    refine hroom.use located rfl (h.settings ▸ henabled) (fun other => ?_) (fun other entry hentry => ?_)
      (fun other => ?_) rfl
    · rw [huses, hplace, Except.ok.injEq]
      simp [henabled, eq_comm]
    · rw [ProfileCache.get?_store] at hentry
      split at hentry
      next hlocated => rw [← Option.some.inj hentry, ← hlocated]
      next hother => exact hroom.filePath other entry hentry
    · rw [ProfileCache.contains_store, Bool.or_eq_true, decide_eq_true_iff, eq_comm]

/-- Every call keeps the invariant. -/
theorem finish (h : Recency views settings past c.cache) :
    Recency views settings (past ++ [c]) (c.finish views).1 := by
  obtain ⟨cache, call, moment⟩ := c
  unfold BegunCacheCall.finish
  cases call with
  | get path =>
    rw [CacheCall.script, runFrom_seq_pure]
    exact h.get (ProfileCache.get_outcome views cache path moment) fun place => Iff.rfl
  | put path profiles =>
    rw [CacheCall.script, runFrom_seq_pure]
    exact h.put (ProfileCache.put_outcome views cache path profiles moment) fun place => Iff.rfl
  | remove path =>
    rw [CacheCall.script, runFrom_seq_pure, ProfileCache.remove, runFrom_seq, ProfileCache.runFrom_canonical]
    cases (views moment).resolve path with
    | error fault => exact h.idle fun place hused => hused
    | ok located => exact (h.drop located).idle fun place hused => hused
  | clear => exact h.clear.idle fun place hused => hused
  | cleanup =>
    rw [CacheCall.script, runFrom_seq_pure, ProfileCache.cleanup]
    cases cache.settings.enabled with
    | false => exact h.idle fun place hused => hused
    | true =>
      rw [Bool.not_true, if_neg Bool.false_ne_true, runFrom_seq]
      exact (h.dropAll _).idle fun place hused => hused

end Recency

/-- Every run keeps the invariant. -/
theorem CacheRun.recency_after (views : Nat → HostView) (settings : CacheSettings) (calls : List CacheCall) :
    Recency views settings (after views settings calls).past (after views settings calls).cache := by
  have hrun : ∀ (rest : List CacheCall) (run : CacheRun), Recency views settings run.past run.cache →
      Recency views settings (rest.foldl (next views) run).past (rest.foldl (next views) run).cache := by
    intro rest
    induction rest with
    | nil => exact fun run h => h
    | cons call rest ih =>
      intro run h
      have hfirst : Recency views settings (run.past ++ [⟨run.cache, call, run.moment⟩]) (next views run call).cache :=
        Recency.finish h
      exact ih (next views run call) hfirst
  exact hrun calls _ (Recency.new views settings)

/-- The past of a run are the calls that it was given. -/
theorem CacheRun.map_call_past (views : Nat → HostView) (settings : CacheSettings) (calls : List CacheCall) :
    (after views settings calls).past.map BegunCacheCall.call = calls := by
  have hrun : ∀ (rest : List CacheCall) (run : CacheRun),
      (rest.foldl (next views) run).past.map BegunCacheCall.call = run.past.map BegunCacheCall.call ++ rest := by
    intro rest
    induction rest with
    | nil => simp
    | cons call rest ih =>
      intro run
      rw [List.foldl_cons, ih, next, List.map_append, List.map_singleton, List.append_assoc, List.singleton_append]
  exact hrun calls _

/-! ## What a put evicts -/

namespace ProfileCache

/-- The path was cached before and is not any more. -/
def Lost (before after : ProfileCache) (gone : String) : Prop :=
  before.entries.contains gone = true ∧ after.entries.contains gone = false

/-- To make room for a path that is not cached drops the first one in the access order, when the cache is full. -/
theorem contains_makeRoom_iff (cache : ProfileCache) (place other : String) :
    (cache.makeRoom place).entries.contains other = true ↔ cache.entries.contains other = true ∧
      ¬ (cache.entries.contains place = false ∧ cache.settings.maxEntries ≤ cache.entries.size ∧
        cache.accessOrder.head? = some other) := by
  unfold makeRoom evictOldest
  split
  next hroom =>
    rw [Bool.and_eq_true, Bool.not_eq_true', decide_eq_true_iff] at hroom
    cases horder : cache.accessOrder with
    | nil => simp
    | cons oldest rest =>
      by_cases hother : other = oldest
      · simp [drop, hother, hroom]
      · have hne : ¬ oldest = other := fun heq => hother heq.symm
        simp [drop, hother, hne]
  next hroom =>
    rw [Bool.and_eq_true, Bool.not_eq_true', decide_eq_true_iff] at hroom
    constructor
    · exact fun h => ⟨h, fun hfull => hroom ⟨hfull.1, hfull.2.1⟩⟩
    · exact fun h => h.1

end ProfileCache

namespace Recency

variable {settings : CacheSettings} {cache : ProfileCache}

/-- At the front of the order is the path that was used the longest time ago. -/
theorem head?_accessOrder_iff (h : Recency views settings past cache) (oldest : String) :
    cache.accessOrder.head? = some oldest ↔ cache.entries.contains oldest = true ∧
      ∀ other, cache.entries.contains other = true → other ≠ oldest → UsedEarlier views past oldest other := by
  have hlists := h.lists
  have horder := h.order
  cases haccess : cache.accessOrder with
  | nil =>
    have hnone : ¬ cache.entries.contains oldest = true := by
      rw [← hlists, haccess]
      exact List.not_mem_nil
    simp [hnone]
  | cons first rest =>
    rw [haccess] at hlists horder
    obtain ⟨hfirst, -⟩ := List.pairwise_cons.1 horder
    rw [List.head?_cons, Option.some.injEq]
    constructor
    · rintro rfl
      refine ⟨(hlists first).1 List.mem_cons_self, fun other hother hne => ?_⟩
      exact hfirst other (List.mem_of_ne_of_mem hne ((hlists other).2 hother))
    · rintro ⟨hcached, hearlier⟩
      by_contra hne
      have hrest : oldest ∈ rest := List.mem_of_ne_of_mem (Ne.symm hne) ((hlists oldest).2 hcached)
      exact (hfirst oldest hrest).asymm (hearlier first ((hlists first).1 List.mem_cons_self) hne)

/-- A put evicts the path that was used the longest time ago, where a path is put that is not cached and there is no
room left for it, and nothing else. -/
theorem lost_put_iff (h : Recency views settings past cache) (path : String) (profiles : ProfileSet) (moment : Nat)
    (gone : String) :
    let result := ((cache.put path profiles).runFrom views moment).1
    cache.Lost result.1 gone ↔
      (settings.enabled = true ∧ result.2 = .ok () ∧
        (∃ place, (views moment).resolve path = .ok place ∧ cache.entries.contains place = false) ∧
        settings.maxEntries ≤ cache.entries.size) ∧
      cache.entries.contains gone = true ∧
      ∀ other, cache.entries.contains other = true → other ≠ gone → UsedEarlier views past gone other := by
  dsimp only
  rw [← h.head?_accessOrder_iff, ← h.settings]
  have hsame : ¬ cache.Lost cache gone := fun hlost => Bool.false_ne_true (hlost.2.symm.trans hlost.1)
  have hput := ProfileCache.put_outcome views cache path profiles moment
  generalize ((cache.put path profiles).runFrom views moment).1 = result at hput ⊢
  generalize (cache.put path profiles).asked views moment = asked at hput
  cases hput with
  | off henabled => simp [hsame, henabled]
  | lost | undated => simp [hsame]
  | @stored located fileTime henabled hplace htime =>
    rw [ProfileCache.Lost, ProfileCache.contains_store, Bool.or_eq_false_iff, decide_eq_false_iff_not,
      ← Bool.not_eq_true, ProfileCache.contains_makeRoom_iff]
    constructor
    · rintro ⟨hgone, -, hroom⟩
      obtain ⟨habsent, hfull, hhead⟩ := not_not.1 fun hkept => hroom ⟨hgone, hkept⟩
      exact ⟨⟨henabled, rfl, ⟨located, hplace, habsent⟩, hfull⟩, hhead⟩
    · rintro ⟨⟨-, -, ⟨place, hresolved, habsent⟩, hfull⟩, hhead⟩
      have hgone : cache.entries.contains gone = true := ((h.head?_accessOrder_iff gone).1 hhead).1
      cases hplace.symm.trans hresolved
      refine ⟨hgone, ?_, fun hkept => hkept.2 ⟨habsent, hfull, hhead⟩⟩
      rintro rfl
      exact Bool.false_ne_true (habsent.symm.trans hgone)

/-- At most one path is evicted. -/
theorem lost_put_unique (h : Recency views settings past cache) {path : String} {profiles : ProfileSet} {moment : Nat}
    {gone gone' : String} (hgone : cache.Lost ((cache.put path profiles).runFrom views moment).1.1 gone)
    (hgone' : cache.Lost ((cache.put path profiles).runFrom views moment).1.1 gone') : gone = gone' := by
  by_contra hne
  obtain ⟨-, hcached, hearlier⟩ := (h.lost_put_iff path profiles moment gone).1 hgone
  obtain ⟨-, hcached', hearlier'⟩ := (h.lost_put_iff path profiles moment gone').1 hgone'
  exact (hearlier gone' hcached' (Ne.symm hne)).asymm (hearlier' gone hcached hne)

/-! ## What a clean-up keeps -/

/-- After a clean-up those entries are left that were valid when they were looked at. -/
theorem get?_cleanup_iff (h : Recency views settings past cache) (moment : Nat) (place : String) (entry : CacheEntry) :
    (cache.cleanup.runFrom views moment).1.1.entries.get? place = some entry ↔
      cache.entries.get? place = some entry ∧ ∃ k, (k, .change place) ∈ cache.cleanup.asked views moment ∧
        entry.ValidAt views settings.maxAge k := by
  rw [← h.settings]
  cases henabled : cache.settings.enabled with
  | true => exact ProfileCache.get?_cleanup_iff henabled h.filePath moment place entry
  | false =>
    -- a cache that is not enabled has no entries
    have hnone : ¬ cache.entries.get? place = some entry := by
      intro hentry
      have htrue := h.enabled place (FieldMap.contains_of_get? hentry)
      rw [← h.settings, henabled] at htrue
      cases htrue
    simp [ProfileCache.runFrom_cleanup_off henabled, hnone]

end Recency

/-- Of a cache after any calls: the access order lists what is cached, each path once, by its last use, and entries have
the path under which they are cached; a put evicts at most one path, the one that was used the longest time ago, and
only where a path is put that is not cached and the cache is full; a clean-up keeps the entries that are valid for the
time of the last change that it reads, and tells how many the others were. -/
theorem CacheRun.entries_by_last_use (views : Nat → HostView) (settings : CacheSettings) (calls : List CacheCall) :
    let run := after views settings calls
    let cache := run.cache
    let cleaned := (cache.cleanup.runFrom views run.moment).1
    (run.past.map BegunCacheCall.call = calls ∧ cache.settings = settings) ∧
    (cache.accessOrder.Nodup ∧ (∀ place, place ∈ cache.accessOrder ↔ cache.entries.contains place = true) ∧
      (∀ place ∈ cache.accessOrder, ∃ n, LastUse views run.past place n) ∧
      cache.accessOrder.Pairwise (UsedEarlier views run.past)) ∧
    (∀ place entry, cache.entries.get? place = some entry → entry.filePath = place) ∧
    (∀ path profiles,
      let result := ((cache.put path profiles).runFrom views run.moment).1
      (∀ gone gone', cache.Lost result.1 gone → cache.Lost result.1 gone' → gone = gone') ∧
      ∀ gone, cache.Lost result.1 gone ↔
        (settings.enabled = true ∧ result.2 = .ok () ∧
          (∃ place, (views run.moment).resolve path = .ok place ∧ cache.entries.contains place = false) ∧
          settings.maxEntries ≤ cache.entries.size) ∧
        cache.entries.contains gone = true ∧
        ∀ other, cache.entries.contains other = true → other ≠ gone → UsedEarlier views run.past gone other) ∧
    (∀ place entry, cleaned.1.entries.get? place = some entry ↔ cache.entries.get? place = some entry ∧
      ∃ k, (k, .change place) ∈ cache.cleanup.asked views run.moment ∧ entry.ValidAt views settings.maxAge k) ∧
    cleaned.1.entries.size + cleaned.2 = cache.entries.size := by
  intro run cache cleaned
  have h : Recency views settings run.past cache := recency_after views settings calls
  refine ⟨⟨map_call_past views settings calls, h.settings⟩, ⟨h.nodup, h.lists, h.used, h.order⟩, h.filePath, ?_, ?_, ?_⟩
  · intro path profiles
    exact ⟨fun gone gone' => h.lost_put_unique, h.lost_put_iff path profiles run.moment⟩
  · exact h.get?_cleanup_iff run.moment
  · exact cache.size_cleanup run.moment

/-- A host on which every path leads to itself and no file ever changes. -/
def HostView.still : HostView where
  resolve := .ok
  modified _ := .ok 0
  read _ := .ok ""
  input := .ok ""
  now := 0

/-- Of two cached paths the one goes that was not looked up since. -/
example : (CacheRun.after (fun _ => .still) { maxEntries := 2 }
    [.put "a" .empty, .put "b" .empty, .get "a", .put "c" .empty]).cache.accessOrder = ["a", "c"] := by
  rfl

end FormValidation
