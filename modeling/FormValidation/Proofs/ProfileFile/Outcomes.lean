import FormValidation.Proofs.Host.Questions
import FormValidation.ProfileFile.Loader

/-!
# How loading a profile file can end

The cache and the loader ask the host where a path leads, when its file was changed last, what text it has and what time
it is. For every operation a relation lists the ways in which it can end, each with the answers that lead there, with
the result, and with the questions that were asked until then. The host may answer every question from another view, so
nothing is assumed about how the answers fit together.
-/

set_option autoImplicit false

namespace FormValidation

open HostScript

variable {views : Nat → HostView}

namespace ProfileCache

/-! ## Looking up a path -/

/-- How the look-up of a path can end that begins at a moment. -/
inductive GetOutcome (views : Nat → HostView) (cache : ProfileCache) (path : String) (moment : Nat) :
    ProfileCache × Except LoadFault (Option ProfileSet) → List (Nat × Question) → Prop
  | off (h : cache.settings.enabled = false) : GetOutcome views cache path moment (cache, .ok none) []
  | lost {fault : FileFault} (h : cache.settings.enabled = true) (hplace : (views moment).resolve path = .error fault) :
    GetOutcome views cache path moment (cache, .error (.unreadable path fault)) [(moment, .place path)]
  | absent {place : String} (h : cache.settings.enabled = true) (hplace : (views moment).resolve path = .ok place)
    (hentry : cache.entries.get? place = none) :
    GetOutcome views cache path moment (cache, .ok none) [(moment, .place path)]
  | undated {place : String} {entry : CacheEntry} {fault : FileFault} (h : cache.settings.enabled = true)
    (hplace : (views moment).resolve path = .ok place) (hentry : cache.entries.get? place = some entry)
    (htime : (views (moment + 1)).modified path = .error fault) :
    GetOutcome views cache path moment (cache, .error (.unreadable path fault))
      [(moment, .place path), (moment + 1, .change path)]
  | hit {place : String} {entry : CacheEntry} {fileTime : Timestamp} (h : cache.settings.enabled = true)
    (hplace : (views moment).resolve path = .ok place) (hentry : cache.entries.get? place = some entry)
    (htime : (views (moment + 1)).modified path = .ok fileTime)
    (hvalid : entry.isValid fileTime (views (moment + 2)).now cache.settings.maxAge = true) :
    GetOutcome views cache path moment (cache.touch place, .ok (some entry.profiles))
      [(moment, .place path), (moment + 1, .change path), (moment + 2, .time)]
  | stale {place : String} {entry : CacheEntry} {fileTime : Timestamp} (h : cache.settings.enabled = true)
    (hplace : (views moment).resolve path = .ok place) (hentry : cache.entries.get? place = some entry)
    (htime : (views (moment + 1)).modified path = .ok fileTime)
    (hstale : entry.isValid fileTime (views (moment + 2)).now cache.settings.maxAge = false) :
    GetOutcome views cache path moment (cache.drop place, .ok none)
      [(moment, .place path), (moment + 1, .change path), (moment + 2, .time)]

/-- To find where a path leads is answered at that moment and takes one. -/
theorem runFrom_canonical (path : String) (moment : Nat) :
    (canonical path).runFrom views moment =
      (((views moment).resolve path).mapError (.unreadable path), moment + 1) := rfl

/-- To find where a path leads is one question. -/
theorem asked_canonical (path : String) (moment : Nat) :
    (canonical path).asked views moment = [(moment, .place path)] := rfl

/-- To find the time of a file is answered at that moment and takes one. -/
theorem runFrom_lastChange (path : String) (moment : Nat) :
    (lastChange path).runFrom views moment =
      (((views moment).modified path).mapError (.unreadable path), moment + 1) := rfl

/-- To find the time of a file is one question. -/
theorem asked_lastChange (path : String) (moment : Nat) :
    (lastChange path).asked views moment = [(moment, .change path)] := rfl

/-- Every look-up of a path ends in one of these ways. -/
theorem get_outcome (views : Nat → HostView) (cache : ProfileCache) (path : String) (moment : Nat) :
    GetOutcome views cache path moment ((cache.get path).runFrom views moment).1
      ((cache.get path).asked views moment) := by
  unfold get
  cases henabled : cache.settings.enabled with
  | false => exact .off henabled
  | true =>
    rw [Bool.not_true, if_neg Bool.false_ne_true, runFrom_seq, asked_seq, runFrom_canonical, asked_canonical]
    cases hplace : (views moment).resolve path with
    | error fault => exact .lost henabled hplace
    | ok place =>
      dsimp only [Except.mapError]
      cases hentry : cache.entries.get? place with
      | none => exact .absent henabled hplace hentry
      | some entry =>
        dsimp only
        rw [runFrom_seq, asked_seq, runFrom_lastChange, asked_lastChange]
        cases htime : (views (moment + 1)).modified path with
        | error fault => exact .undated henabled hplace hentry htime
        | ok fileTime =>
          dsimp only [Except.mapError]
          rw [runFrom_seq, asked_seq, runFrom_askTime, asked_askTime]
          dsimp only
          cases hvalid : entry.isValid fileTime (views (moment + 2)).now cache.settings.maxAge with
          | true => exact .hit henabled hplace hentry htime hvalid
          | false => exact .stale henabled hplace hentry htime hvalid

/-! ## Putting a set -/

/-- How putting a set under a path can end. -/
inductive PutOutcome (views : Nat → HostView) (cache : ProfileCache) (path : String) (profiles : ProfileSet)
    (moment : Nat) : ProfileCache × Except LoadFault Unit → List (Nat × Question) → Prop
  | off (h : cache.settings.enabled = false) : PutOutcome views cache path profiles moment (cache, .ok ()) []
  | lost {fault : FileFault} (h : cache.settings.enabled = true) (hplace : (views moment).resolve path = .error fault) :
    PutOutcome views cache path profiles moment (cache, .error (.unreadable path fault)) [(moment, .place path)]
  | undated {place : String} {fault : FileFault} (h : cache.settings.enabled = true)
    (hplace : (views moment).resolve path = .ok place) (htime : (views (moment + 1)).modified path = .error fault) :
    PutOutcome views cache path profiles moment (cache, .error (.unreadable path fault))
      [(moment, .place path), (moment + 1, .change path)]
  | stored {place : String} {fileTime : Timestamp} (h : cache.settings.enabled = true)
    (hplace : (views moment).resolve path = .ok place) (htime : (views (moment + 1)).modified path = .ok fileTime) :
    PutOutcome views cache path profiles moment
      ((cache.makeRoom place).store ⟨profiles, (views (moment + 2)).now, fileTime, place⟩, .ok ())
      [(moment, .place path), (moment + 1, .change path), (moment + 2, .time)]

/-- Putting a set under a path always ends in one of these ways. -/
theorem put_outcome (views : Nat → HostView) (cache : ProfileCache) (path : String) (profiles : ProfileSet)
    (moment : Nat) :
    PutOutcome views cache path profiles moment ((cache.put path profiles).runFrom views moment).1
      ((cache.put path profiles).asked views moment) := by
  unfold put
  cases henabled : cache.settings.enabled with
  | false => exact .off henabled
  | true =>
    rw [Bool.not_true, if_neg Bool.false_ne_true, runFrom_seq, asked_seq, runFrom_canonical, asked_canonical]
    cases hplace : (views moment).resolve path with
    | error fault => exact .lost henabled hplace
    | ok place =>
      dsimp only [Except.mapError]
      rw [runFrom_seq, asked_seq, runFrom_lastChange, asked_lastChange]
      cases htime : (views (moment + 1)).modified path with
      | error fault => exact .undated henabled hplace htime
      | ok fileTime => exact .stored henabled hplace htime

end ProfileCache

/-! ## Reading a file -/

/-- The profiles of the file at a path, by the host's answer to the question for its text. -/
def ProfileSet.ofAnswer (path : String) (answer : Except FileFault String) : Except LoadFault ProfileSet :=
  match ProfileFormat.ofPath path with
  | .error fault => .error fault
  | .ok format =>
    match answer with
    | .error fault => .error (.unreadable path fault)
    | .ok text => ofText format path text

/-- The set that is read is made of the text that the host gives. -/
theorem ProfileSet.readFile_result (path : String) (moment : Nat) :
    ((readFile path).runFrom views moment).1 = ofAnswer path ((views moment).read path) := by
  unfold readFile ofAnswer
  cases ProfileFormat.ofPath path with
  | error fault => rfl
  | ok format =>
    dsimp only
    rw [runFrom_seq, runFrom_askText]
    cases (views moment).read path <;> rfl

/-- To read a file with a known format is one question. -/
theorem ProfileSet.asked_readFile {path : String} {format : ProfileFormat}
    (hformat : ProfileFormat.ofPath path = .ok format) (moment : Nat) :
    (readFile path).asked views moment = [(moment, .text path)] := by
  unfold readFile
  rw [hformat]
  dsimp only
  rw [asked_seq, runFrom_askText, asked_askText]
  cases (views moment).read path <;> rfl

namespace ProfileLoader

open ProfileCache ProfileSet

/-! ## Loading a file -/

/-- How loading a file can end that is not found in the cache. -/
inductive FreshOutcome (views : Nat → HostView) (cache : ProfileCache) (path : String) (moment : Nat) :
    ProfileLoader × Except LoadFault ProfileSet → List (Nat × Question) → Prop
  | unknownFormat {fault : LoadFault} (hformat : ProfileFormat.ofPath path = .error fault) :
    FreshOutcome views cache path moment (⟨cache⟩, .error fault) []
  | failed {format : ProfileFormat} {fault : LoadFault} (hformat : ProfileFormat.ofPath path = .ok format)
    (hread : ofAnswer path ((views moment).read path) = .error fault) :
    FreshOutcome views cache path moment (⟨cache⟩, .error fault) [(moment, .text path)]
  | put {format : ProfileFormat} {profiles : ProfileSet} {stored : ProfileCache × Except LoadFault Unit}
    {further : List (Nat × Question)} (hformat : ProfileFormat.ofPath path = .ok format)
    (hread : ofAnswer path ((views moment).read path) = .ok profiles)
    (hput : PutOutcome views cache path profiles (moment + 1) stored further) :
    FreshOutcome views cache path moment (⟨stored.1⟩, stored.2.map fun _ => profiles) ((moment, .text path) :: further)

/-- Loading a file that is not cached always ends in one of these ways. -/
theorem loadFresh_outcome (views : Nat → HostView) (cache : ProfileCache) (path : String) (moment : Nat) :
    FreshOutcome views cache path moment ((loadFresh cache path).runFrom views moment).1
      ((loadFresh cache path).asked views moment) := by
  unfold loadFresh
  rw [runFrom_seq, asked_seq, readFile_result, snd_runFrom]
  cases hformat : ProfileFormat.ofPath path with
  | error fault =>
    unfold ofAnswer readFile
    rw [hformat]
    exact .unknownFormat hformat
  | ok format =>
    rw [asked_readFile hformat]
    cases hread : ofAnswer path ((views moment).read path) with
    | error fault => exact .failed hformat hread
    | ok profiles =>
      dsimp only
      rw [runFrom_seq, asked_seq, runFrom_pure, asked_pure, List.append_nil]
      exact .put hformat hread (put_outcome views cache path profiles _)

/-- How loading a file can end. -/
inductive LoadOutcome (views : Nat → HostView) (cache : ProfileCache) (path : String) (moment : Nat) :
    ProfileLoader × Except LoadFault ProfileSet → List (Nat × Question) → Prop
  | refused {later : ProfileCache} {fault : LoadFault} {asked : List (Nat × Question)}
    (hget : GetOutcome views cache path moment (later, .error fault) asked) :
    LoadOutcome views cache path moment (⟨later⟩, .error fault) asked
  | found {later : ProfileCache} {profiles : ProfileSet} {asked : List (Nat × Question)}
    (hget : GetOutcome views cache path moment (later, .ok (some profiles)) asked) :
    LoadOutcome views cache path moment (⟨later⟩, .ok profiles) asked
  | fresh {later : ProfileCache} {result : ProfileLoader × Except LoadFault ProfileSet}
    {asked further : List (Nat × Question)} (hget : GetOutcome views cache path moment (later, .ok none) asked)
    (hfresh : FreshOutcome views later path (moment + asked.length) result further) :
    LoadOutcome views cache path moment result (asked ++ further)

/-- Loading a file always ends in one of these ways. -/
theorem load_outcome (views : Nat → HostView) (loader : ProfileLoader) (path : String) (moment : Nat) :
    LoadOutcome views loader.cache path moment ((loader.load path).runFrom views moment).1
      ((loader.load path).asked views moment) := by
  have hget := get_outcome views loader.cache path moment
  unfold load
  rw [runFrom_seq, asked_seq, snd_runFrom]
  generalize ((loader.cache.get path).runFrom views moment).1 = result at hget ⊢
  rcases result with ⟨later, fault | found⟩
  · dsimp only
    rw [runFrom_pure, asked_pure, List.append_nil]
    exact .refused hget
  · cases found with
    | some profiles =>
      dsimp only
      rw [runFrom_pure, asked_pure, List.append_nil]
      exact .found hget
    | none => exact .fresh hget (loadFresh_outcome views later path _)

/-- How reloading a file can end. -/
inductive ReloadOutcome (views : Nat → HostView) (cache : ProfileCache) (path : String) (moment : Nat) :
    ProfileLoader × Except LoadFault ProfileSet → List (Nat × Question) → Prop
  | lost {fault : FileFault} (hplace : (views moment).resolve path = .error fault) :
    ReloadOutcome views cache path moment (⟨cache⟩, .error (.unreadable path fault)) [(moment, .place path)]
  | loaded {place : String} {result : ProfileLoader × Except LoadFault ProfileSet} {further : List (Nat × Question)}
    (hplace : (views moment).resolve path = .ok place)
    (hload : LoadOutcome views (cache.drop place) path (moment + 1) result further) :
    ReloadOutcome views cache path moment result ((moment, .place path) :: further)

/-- Reloading a file always ends in one of these ways. -/
theorem reload_outcome (views : Nat → HostView) (loader : ProfileLoader) (path : String) (moment : Nat) :
    ReloadOutcome views loader.cache path moment ((loader.reload path).runFrom views moment).1
      ((loader.reload path).asked views moment) := by
  -- the path is resolved for the removal even if the cache is not enabled
  unfold reload remove
  rw [runFrom_seq, asked_seq, runFrom_seq, asked_seq, runFrom_canonical, asked_canonical]
  cases hplace : (views moment).resolve path with
  | error fault => exact .lost hplace
  | ok place => exact .loaded hplace (load_outcome views ⟨loader.cache.drop place⟩ path _)

end ProfileLoader

end FormValidation
