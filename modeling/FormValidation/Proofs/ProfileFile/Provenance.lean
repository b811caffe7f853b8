import FormValidation.Proofs.FieldMap
import FormValidation.Proofs.ProfileFile.Outcomes

/-!
# Where cached sets come from

Most of what happens to a cache only takes entries away (`ProfileCache.Shrinks`). An entry is made by a load that does
not find its file in the cache: the profiles are those of the text that the path has when it is read, the time is the
one that the file has when it is asked for later on. So every entry that a loader has after a run of calls was there in
the beginning, or one of the calls made it in this way (`ProfileLoader.entries_afterCalls`). Nothing is assumed about
the host.
-/

set_option autoImplicit false

namespace FormValidation

namespace ProfileCache

variable {cache later last : ProfileCache}

/-- Nothing was put into a cache since. -/
structure Shrinks (cache later : ProfileCache) : Prop where
  settings : later.settings = cache.settings
  entries : ∀ place entry, later.entries.get? place = some entry → cache.entries.get? place = some entry

namespace Shrinks

/-- Nothing was put into a cache since itself. -/
theorem refl (cache : ProfileCache) : Shrinks cache cache := ⟨rfl, fun _ _ h => h⟩

/-- Where nothing was put in twice, nothing was put in. -/
theorem trans (h : Shrinks cache later) (h' : Shrinks later last) : Shrinks cache last :=
  ⟨h'.settings.trans h.settings, fun place entry hentry => h.entries place entry (h'.entries place entry hentry)⟩

/-- To touch a path puts nothing in. -/
theorem touch (cache : ProfileCache) (path : String) : Shrinks cache (cache.touch path) := ⟨rfl, fun _ _ h => h⟩

/-- To drop a path puts nothing in. -/
theorem drop (cache : ProfileCache) (path : String) : Shrinks cache (cache.drop path) := by
  refine ⟨rfl, fun place entry h => ?_⟩
  have herased : (if place = path then none else cache.entries.get? place) = some entry := by
    rw [← FieldMap.get?_erase]
    exact h
  split at herased
  · cases herased
  · exact herased

/-- To clear a cache puts nothing in. -/
theorem clear (cache : ProfileCache) : Shrinks cache cache.clear := ⟨rfl, fun _ _ h => by cases h⟩

/-- To drop paths one by one puts nothing in. -/
theorem dropAll (cache : ProfileCache) (paths : List String) : Shrinks cache (paths.foldl ProfileCache.drop cache) := by
  induction paths generalizing cache with
  | nil => exact refl cache
  | cons path rest ih => exact (drop cache path).trans (ih (cache.drop path))

/-- To make room puts nothing in. -/
theorem makeRoom (cache : ProfileCache) (path : String) : Shrinks cache (cache.makeRoom path) := by
  unfold ProfileCache.makeRoom
  split
  · unfold evictOldest
    split
    · exact refl cache
    · exact drop cache _
  · exact refl cache

end Shrinks

end ProfileCache

/-! ## What an operation puts into a cache -/

/-- Among the questions is one for the text of a path, and a later one for the time of its last change. -/
def ReadThenDated (asked : List (Nat × Question)) (path : String) (reading dating : Nat) : Prop :=
  (reading, .text path) ∈ asked ∧ (dating, .change path) ∈ asked ∧ reading < dating

/-- The entry has the profiles of the text that a path had at one moment, and the time of the last change that the path
had at another one. -/
structure CacheEntry.MadeFrom (views : Nat → HostView) (path place : String) (reading dating : Nat)
    (entry : CacheEntry) : Prop where
  profiles : ProfileSet.ofAnswer path ((views reading).read path) = .ok entry.profiles
  place : ∃ moment, (views moment).resolve path = .ok place
  fileTime : (views dating).modified path = .ok entry.fileTime

/-- Every entry of the later cache was there before, or it was made of a path while questions were asked. -/
structure ProfileCache.Descends (views : Nat → HostView) (path : String) (asked : List (Nat × Question))
    (cache later : ProfileCache) : Prop where
  settings : later.settings = cache.settings
  entries : ∀ place entry, later.entries.get? place = some entry → cache.entries.get? place = some entry ∨
    ∃ reading dating, ReadThenDated asked path reading dating ∧ entry.MadeFrom views path place reading dating

variable {views : Nat → HostView} {cache later last : ProfileCache} {path : String} {moment : Nat}
  {asked more : List (Nat × Question)} {result : ProfileLoader × Except LoadFault ProfileSet}

/-- Where nothing was put in, every entry was there before. -/
theorem ProfileCache.Shrinks.descends (h : Shrinks cache later) : Descends views path asked cache later :=
  ⟨h.settings, fun place entry hentry => Or.inl (h.entries place entry hentry)⟩

/-- What went away before is of no account, and neither are questions that were asked before. -/
theorem ProfileCache.Descends.of_shrinks (hfirst : Shrinks cache later) (h : Descends views path asked later last) :
    Descends views path (more ++ asked) cache last := by
  refine ⟨h.settings.trans hfirst.settings, fun place entry hentry => ?_⟩
  rcases h.entries place entry hentry with hold | ⟨reading, dating, ⟨hread, hdate, hlt⟩, hmade⟩
  · exact Or.inl (hfirst.entries place entry hold)
  · have hasked : ReadThenDated (more ++ asked) path reading dating :=
      ⟨List.mem_append_right _ hread, List.mem_append_right _ hdate, hlt⟩
    exact Or.inr ⟨reading, dating, hasked, hmade⟩

/-- A look-up puts nothing in. -/
theorem ProfileCache.GetOutcome.shrinks {found : ProfileCache × Except LoadFault (Option ProfileSet)}
    (h : GetOutcome views cache path moment found asked) : Shrinks cache found.1 := by
  cases h with
  | off | lost | absent | undated => exact Shrinks.refl cache
  | hit => exact Shrinks.touch cache _
  | stale => exact Shrinks.drop cache _

/-- A set is put with the time that its file has after its text was read. -/
theorem ProfileLoader.FreshOutcome.descends (h : FreshOutcome views cache path moment result asked) :
    ProfileCache.Descends views path asked cache result.1.cache := by
  cases h with
  | unknownFormat | failed => exact (ProfileCache.Shrinks.refl cache).descends
  | put hformat hread hput =>
    cases hput with
    | off | lost | undated => exact (ProfileCache.Shrinks.refl cache).descends
    | @stored located fileTime henabled hplace htime =>
      -- whichever entry was evicted, all others but the one that is put were there before
      have hroom := ProfileCache.Shrinks.makeRoom cache located
      refine ⟨hroom.settings, fun place entry hentry => ?_⟩
      have hinserted := (FieldMap.get?_insert _ _ _ _).symm.trans hentry
      by_cases hlocated : located = place
      · rw [if_pos hlocated, Option.some.injEq] at hinserted
        subst hinserted hlocated
        refine Or.inr ⟨moment, moment + 1 + 1, ⟨by simp, by simp, by omega⟩, ?_⟩
        exact ⟨hread, ⟨_, hplace⟩, htime⟩
      · rw [if_neg hlocated] at hinserted
        exact Or.inl (hroom.entries place entry hinserted)

/-- After a file was loaded, every entry was there before or was made of its path. -/
theorem ProfileLoader.LoadOutcome.descends (h : LoadOutcome views cache path moment result asked) :
    ProfileCache.Descends views path asked cache result.1.cache := by
  cases h with
  | refused hget => exact hget.shrinks.descends
  | found hget => exact hget.shrinks.descends
  | fresh hget hfresh => exact .of_shrinks hget.shrinks hfresh.descends

/-- After a file was reloaded, every entry was there before or was made of its path. -/
theorem ProfileLoader.ReloadOutcome.descends (h : ReloadOutcome views cache path moment result asked) :
    ProfileCache.Descends views path asked cache result.1.cache := by
  cases h with
  | lost => exact (ProfileCache.Shrinks.refl cache).descends
  | loaded hplace hload =>
    rw [← List.singleton_append]
    exact .of_shrinks (.drop cache _) hload.descends

/-- Cleaning up only drops entries, whatever the host answers. -/
theorem ProfileCache.cleanup_shrinks (cache : ProfileCache) (moment : Nat) :
    Shrinks cache (cache.cleanup.runFrom views moment).1.1 := by
  unfold cleanup
  cases cache.settings.enabled with
  | false => exact .refl cache
  | true =>
    rw [Bool.not_true, if_neg Bool.false_ne_true, HostScript.runFrom_seq]
    exact .dropAll cache _

/-! ## Runs -/

/-- The calls that change what a loader has cached. -/
inductive LoaderCall where
  | load (path : String)
  | reload (path : String)
  | clear
  | cleanup
  deriving DecidableEq, Repr

/-- The path that a call names. -/
def LoaderCall.path? : LoaderCall → Option String
  | load path => some path
  | reload path => some path
  | clear => none
  | cleanup => none

/-- What becomes of a loader by a call. -/
def LoaderCall.script (loader : ProfileLoader) : LoaderCall → HostScript ProfileLoader
  | load path => do return (← loader.load path).1
  | reload path => do return (← loader.reload path).1
  | clear => return loader.clear
  | cleanup => do return (← loader.cleanup).1

/-- A call with the loader and the moment at which it begins. -/
structure BegunCall where
  loader : ProfileLoader
  call : LoaderCall
  moment : Nat

namespace BegunCall

/-- The questions of the call. -/
def questions (views : Nat → HostView) (c : BegunCall) : List (Nat × Question) :=
  (c.call.script c.loader).asked views c.moment

/-- The loader and the moment at the end of the call. -/
def finish (views : Nat → HostView) (c : BegunCall) : ProfileLoader × Nat :=
  (c.call.script c.loader).runFrom views c.moment

/-- A call makes entries of the path that it names, or none. -/
theorem descends_finish (views : Nat → HostView) (c : BegunCall) :
    (∃ path, c.call.path? = some path ∧
      ProfileCache.Descends views path (c.questions views) c.loader.cache (c.finish views).1.cache) ∨
    ProfileCache.Shrinks c.loader.cache (c.finish views).1.cache := by
  obtain ⟨loader, call, moment⟩ := c
  unfold finish questions
  cases call with
  | load path =>
    rw [LoaderCall.script, HostScript.runFrom_seq_pure, HostScript.asked_seq_pure]
    exact Or.inl ⟨path, rfl, (ProfileLoader.load_outcome views loader path moment).descends⟩
  | reload path =>
    rw [LoaderCall.script, HostScript.runFrom_seq_pure, HostScript.asked_seq_pure]
    exact Or.inl ⟨path, rfl, (ProfileLoader.reload_outcome views loader path moment).descends⟩
  | clear => exact Or.inr (.clear loader.cache)
  | cleanup =>
    rw [LoaderCall.script, ProfileLoader.cleanup, HostScript.runFrom_seq_pure, HostScript.runFrom_seq_pure]
    exact Or.inr (ProfileCache.cleanup_shrinks loader.cache moment)

/-- No call changes the settings. -/
theorem settings_finish (views : Nat → HostView) (c : BegunCall) : (c.finish views).1.settings = c.loader.settings := by
  rcases c.descends_finish views with ⟨path, -, hdescends⟩ | hshrinks
  · exact hdescends.settings
  · exact hshrinks.settings

/-- The call made the entry of the path that it names: it read the text, and asked later for the time. -/
def Made (views : Nat → HostView) (c : BegunCall) (place : String) (entry : CacheEntry) : Prop :=
  ∃ path reading dating, c.call.path? = some path ∧ ReadThenDated (c.questions views) path reading dating ∧
    entry.MadeFrom views path place reading dating

/-- After a call every entry was there before or was made by the call. -/
theorem entries_finish (c : BegunCall) {place : String} {entry : CacheEntry}
    (h : (c.finish views).1.cache.entries.get? place = some entry) :
    c.loader.cache.entries.get? place = some entry ∨ c.Made views place entry := by
  rcases c.descends_finish views with ⟨path, hpath, hdescends⟩ | hshrinks
  · refine (hdescends.entries place entry h).imp_right ?_
    rintro ⟨reading, dating, hasked, hmade⟩
    exact ⟨path, reading, dating, hpath, hasked, hmade⟩
  · exact Or.inl (hshrinks.entries place entry h)

end BegunCall

namespace ProfileLoader

/-- The calls of a run, one after the other, each as it begins. -/
def begun (views : Nat → HostView) (loader : ProfileLoader) (moment : Nat) : List LoaderCall → List BegunCall
  | [] => []
  | call :: rest =>
    let first : BegunCall := ⟨loader, call, moment⟩
    first :: begun views (first.finish views).1 (first.finish views).2 rest

/-- The loader and the moment at the end of a run. -/
def afterCalls (views : Nat → HostView) (loader : ProfileLoader) (moment : Nat) :
    List LoaderCall → ProfileLoader × Nat
  | [] => (loader, moment)
  | call :: rest =>
    let first : BegunCall := ⟨loader, call, moment⟩
    afterCalls views (first.finish views).1 (first.finish views).2 rest

variable {loader : ProfileLoader} {calls : List LoaderCall}

/-- No calls change the settings. -/
theorem settings_afterCalls : (loader.afterCalls views moment calls).1.settings = loader.settings := by
  induction calls generalizing loader moment with
  | nil => rfl
  | cons call rest ih => exact ih.trans (BegunCall.settings_finish views _)

/-- Every entry at the end of a run was there in the beginning, or one of the calls made it. -/
theorem entries_afterCalls {place : String} {entry : CacheEntry}
    (h : (loader.afterCalls views moment calls).1.cache.entries.get? place = some entry) :
    loader.cache.entries.get? place = some entry ∨ ∃ c ∈ loader.begun views moment calls, c.Made views place entry := by
  induction calls generalizing loader moment with
  | nil => exact Or.inl h
  | cons call rest ih =>
    rcases ih h with hfirst | ⟨c, hc, hmade⟩
    · refine (BegunCall.entries_finish _ hfirst).imp_right fun hmade => ?_
      exact ⟨_, List.mem_cons_self, hmade⟩
    · exact Or.inr ⟨c, List.mem_cons_of_mem _ hc, hmade⟩

/-- No run of calls ends before it began. -/
theorem le_snd_afterCalls : moment ≤ (loader.afterCalls views moment calls).2 := by
  induction calls generalizing loader moment with
  | nil => exact Nat.le_refl _
  | cons call rest ih => exact Nat.le_trans (HostScript.le_snd_runFrom _ moment) ih

/-- The calls of a run are those that it was given. -/
theorem call_mem_of_mem_begun {c : BegunCall} (hc : c ∈ loader.begun views moment calls) : c.call ∈ calls := by
  induction calls generalizing loader moment with
  | nil => cases hc
  | cons call rest ih =>
    rcases List.mem_cons.1 hc with rfl | hlater
    · exact List.mem_cons_self
    · exact List.mem_cons_of_mem _ (ih hlater)

/-- The calls of a run are made by its end. -/
theorem finish_le_afterCalls {c : BegunCall} (hc : c ∈ loader.begun views moment calls) :
    (c.finish views).2 ≤ (loader.afterCalls views moment calls).2 := by
  induction calls generalizing loader moment with
  | nil => cases hc
  | cons call rest ih =>
    rcases List.mem_cons.1 hc with rfl | hlater
    · exact le_snd_afterCalls
    · exact ih hlater

end ProfileLoader

end FormValidation
