import FormValidation.Proofs.ProfileFile.Provenance

/-!
# Files that change while they are loaded

On a host whose files are written and deleted by others, every load answers for the file as it is at one of the moments
of the load, unless it answers from the cache for a file that was rewritten while an earlier call was caching it: the
call read the text before the write and the time after it. This is `ChangingHost.answer_after`; that all writes give a
file a later time than it ever had is what rules out everything else.
-/

set_option autoImplicit false

namespace FormValidation

/-- A file: its text, if it is one, and the time of its last change. -/
structure StoredFile where
  text : Except FileFault String
  changed : Timestamp

/-- The files of a host by their canonical paths; where there is none, the reason. -/
abbrev Disk := String → Except FileFault StoredFile

/-- The answers of a host with these files. What a path leads to is settled from the start. -/
def Disk.view (disk : Disk) (leads : String → String) (now : Timestamp) : HostView where
  resolve path := (disk (leads path)).map fun _ => leads path
  modified path := (disk (leads path)).map StoredFile.changed
  read path := (disk (leads path)).bind StoredFile.text
  input := .ok ""
  now

/-- A host whose files others write and delete from one moment to the next, and whose clock shows anything. -/
structure ChangingHost where
  leads : String → String
  disk : Nat → Disk
  clock : Nat → Timestamp

/-- The profiles of the file at a path, or what a loader without cached sets answers if there is no file. -/
def CacheSettings.answer (settings : CacheSettings) (path : String) :
    Except FileFault StoredFile → Except LoadFault ProfileSet
  | .ok file => ProfileSet.ofAnswer path file.text
  | .error fault =>
    if settings.enabled then .error (.unreadable path fault) else ProfileSet.ofAnswer path (.error fault)

/-- A path without a known format fails with this fault, whatever the text is. -/
theorem ProfileSet.ofAnswer_unknownFormat {path : String} {fault : LoadFault}
    (h : ProfileFormat.ofPath path = .error fault) (answer : Except FileFault String) :
    ofAnswer path answer = .error fault := by
  rw [ofAnswer, h]

/-- A text that cannot be read makes the set fail. -/
theorem ProfileSet.ofAnswer_missing {path : String} {format : ProfileFormat}
    (h : ProfileFormat.ofPath path = .ok format) (missing : FileFault) :
    ofAnswer path (.error missing) = .error (.unreadable path missing) := by
  rw [ofAnswer, h]

/-- Without a file the answer is the same whether the cache is enabled or not, unless the format is unknown. -/
theorem CacheSettings.answer_missing {settings : CacheSettings} {path : String}
    (h : settings.enabled = true ∨ ∃ format, ProfileFormat.ofPath path = .ok format) (missing : FileFault) :
    settings.answer path (.error missing) = .error (.unreadable path missing) := by
  rcases h with henabled | ⟨format, hformat⟩
  · rw [answer, if_pos henabled]
  · rw [answer, ProfileSet.ofAnswer_missing hformat, ite_self]

/-- A valid entry is not older than the file. -/
theorem CacheEntry.le_fileTime_of_isValid {entry : CacheEntry} {fileTime now : Timestamp} {maxAge : Option Timestamp}
    (h : entry.isValid fileTime now maxAge = true) : fileTime ≤ entry.fileTime := by
  unfold isValid at h
  by_contra hlater
  rw [if_pos (Int.not_le.1 hlater)] at h
  cases h

namespace ChangingHost

variable {host : ChangingHost} {cache : ProfileCache} {path : String} {moment : Nat}
  {result : ProfileLoader × Except LoadFault ProfileSet} {asked : List (Nat × Question)}

def views (host : ChangingHost) (moment : Nat) : HostView := (host.disk moment).view host.leads (host.clock moment)

/-- The file at a path at a moment. -/
def file (host : ChangingHost) (path : String) (moment : Nat) : Except FileFault StoredFile :=
  host.disk moment (host.leads path)

/-- A file that was written has a later time than any file that was there before. -/
def WritesAdvance (host : ChangingHost) : Prop :=
  ∀ earlier later, earlier ≤ later → ∀ place old new, host.disk earlier place = .ok old →
    host.disk later place = .ok new → old = new ∨ old.changed < new.changed

/-- A path is found exactly when there is a file at it, and then where it leads. -/
theorem resolve_eq_ok_iff {place : String} : (host.views moment).resolve path = .ok place ↔
    (∃ file, host.file path moment = .ok file) ∧ host.leads path = place := by
  show (Except.map _ (host.file path moment)) = _ ↔ _
  cases host.file path moment <;> simp [Except.map]

/-- A path is not found exactly when there is no file at it. -/
theorem resolve_eq_error_iff {fault : FileFault} : (host.views moment).resolve path = .error fault ↔
    host.file path moment = .error fault := by
  show (Except.map _ (host.file path moment)) = _ ↔ _
  cases host.file path moment <;> simp [Except.map]

/-- The time that is read is that of the file. -/
theorem modified_eq_ok_iff {time : Timestamp} : (host.views moment).modified path = .ok time ↔
    ∃ file, host.file path moment = .ok file ∧ file.changed = time := by
  show (Except.map _ (host.file path moment)) = _ ↔ _
  cases host.file path moment <;> simp [Except.map]

/-- No time can be read exactly when there is no file. -/
theorem modified_eq_error_iff {fault : FileFault} : (host.views moment).modified path = .error fault ↔
    host.file path moment = .error fault := by
  show (Except.map _ (host.file path moment)) = _ ↔ _
  cases host.file path moment <;> simp [Except.map]

/-- The text that is read is that of the file. -/
theorem read_eq : (host.views moment).read path = (host.file path moment).bind StoredFile.text := rfl

/-- Profiles can only be had of a file that is there. -/
theorem exists_file_of_ofAnswer {profiles : ProfileSet}
    (h : ProfileSet.ofAnswer path ((host.views moment).read path) = .ok profiles) :
    ∃ file, host.file path moment = .ok file ∧ ProfileSet.ofAnswer path file.text = .ok profiles := by
  rw [read_eq] at h
  cases hfile : host.file path moment with
  | ok file =>
    rw [hfile] at h
    exact ⟨file, rfl, h⟩
  | error missing =>
    rw [hfile] at h
    unfold ProfileSet.ofAnswer at h
    cases hformat : ProfileFormat.ofPath path <;> rw [hformat] at h <;> cases h

/-- A file that is not found in the cache is answered for as it is at one of the moments of the load. If the format of
the path is unknown then the file is not looked at, and any moment will do at which it was found. -/
theorem answer_of_fresh (h : ProfileLoader.FreshOutcome host.views cache path moment result asked) (before : Nat)
    (hbefore : cache.settings.enabled = true → ∃ file, host.file path before = .ok file) :
    ∃ k, (k = before ∨ moment ≤ k ∧ k < moment + asked.length) ∧
      result.2 = cache.settings.answer path (host.file path k) := by
  cases h with
  | @unknownFormat fault hformat =>
    refine ⟨before, Or.inl rfl, ?_⟩
    cases hfile : host.file path before with
    | ok file => exact (ProfileSet.ofAnswer_unknownFormat hformat file.text).symm
    | error missing =>
      have hdisabled : cache.settings.enabled = false := by
        cases henabled : cache.settings.enabled with
        | false => rfl
        | true =>
          obtain ⟨file, hfound⟩ := hbefore henabled
          rw [hfile] at hfound
          cases hfound
      rw [CacheSettings.answer, hdisabled, if_neg Bool.false_ne_true]
      exact (ProfileSet.ofAnswer_unknownFormat hformat _).symm
  | @failed format fault hformat hread =>
    refine ⟨moment, Or.inr ⟨Nat.le_refl _, Nat.lt_succ_self _⟩, ?_⟩
    rw [read_eq] at hread
    cases hfile : host.file path moment with
    | ok file =>
      rw [hfile] at hread
      exact hread.symm
    | error missing =>
      rw [hfile] at hread
      rw [CacheSettings.answer_missing (Or.inr ⟨format, hformat⟩), ← ProfileSet.ofAnswer_missing hformat]
      exact hread.symm
  | @put format profiles stored further hformat hread hput =>
    obtain ⟨file, hfile, hprofiles⟩ := exists_file_of_ofAnswer hread
    -- the file may be deleted after it was read, and then the load fails as it would fail from the deletion on
    cases hput with
    | off | stored => exact ⟨moment, Or.inr ⟨Nat.le_refl _, by simp⟩, by rw [hfile]; exact hprofiles.symm⟩
    | lost henabled hplace =>
      refine ⟨moment + 1, Or.inr ⟨by omega, by simp⟩, ?_⟩
      rw [resolve_eq_error_iff.1 hplace, CacheSettings.answer_missing (Or.inl henabled)]
      rfl
    | undated henabled hplace htime =>
      refine ⟨moment + 1 + 1, Or.inr ⟨by omega, by simp⟩, ?_⟩
      rw [modified_eq_error_iff.1 htime, CacheSettings.answer_missing (Or.inl henabled)]
      rfl

/-- A moment of a call that begins at one moment and ends at another. -/
def During (moment finish k : Nat) : Prop := k = moment ∨ moment ≤ k ∧ k < finish

/-- A moment of a call is not before its beginning. -/
theorem During.le {finish k : Nat} (h : During moment finish k) : moment ≤ k := by
  rcases h with rfl | ⟨hle, -⟩
  · exact Nat.le_refl _
  · exact hle

/-- A load answers for the file as it is at one of its moments, or from a cached set whose time is not before that of
the file. -/
theorem answer_of_load (h : ProfileLoader.LoadOutcome host.views cache path moment result asked) :
    ∃ k, During moment (moment + asked.length) k ∧
      (result.2 = cache.settings.answer path (host.file path k) ∨
        ∃ file entry, host.file path k = .ok file ∧ cache.entries.get? (host.leads path) = some entry ∧
          file.changed ≤ entry.fileTime ∧ result.2 = .ok entry.profiles) := by
  cases h with
  | refused hget =>
    cases hget with
    | lost henabled hplace =>
      refine ⟨moment, Or.inl rfl, Or.inl ?_⟩
      rw [resolve_eq_error_iff.1 hplace, CacheSettings.answer_missing (Or.inl henabled)]
    | undated henabled hplace hentry htime =>
      refine ⟨moment + 1, Or.inr ⟨by omega, by simp⟩, Or.inl ?_⟩
      rw [modified_eq_error_iff.1 htime, CacheSettings.answer_missing (Or.inl henabled)]
  | found hget =>
    cases hget with
    | @hit place entry fileTime henabled hplace hentry htime hvalid =>
      obtain ⟨-, rfl⟩ := resolve_eq_ok_iff.1 hplace
      obtain ⟨file, hfile, rfl⟩ := modified_eq_ok_iff.1 htime
      exact ⟨moment + 1, Or.inr ⟨by omega, by simp⟩, Or.inr
        ⟨file, entry, hfile, hentry, CacheEntry.le_fileTime_of_isValid hvalid, rfl⟩⟩
  | @fresh later result asked further hget hfresh =>
    have hsettings : later.settings = cache.settings := hget.shrinks.settings
    have hfound : later.settings.enabled = true → ∃ file, host.file path moment = .ok file := by
      intro henabled
      cases hget with
      | off hdisabled =>
        rw [hdisabled] at henabled
        cases henabled
      | absent _ hplace => exact (resolve_eq_ok_iff.1 hplace).1
      | stale _ hplace => exact (resolve_eq_ok_iff.1 hplace).1
    obtain ⟨k, hk, hanswer⟩ := answer_of_fresh hfresh moment hfound
    rw [hsettings] at hanswer
    refine ⟨k, hk.imp_right fun hfresh => ?_, Or.inl hanswer⟩
    rw [List.length_append]
    omega

/-! ## Loads after other calls -/

/-- A call read a file as it was at one moment, and later asked for the time that it then had. -/
def ReadAndDated (host : ChangingHost) (c : BegunCall) (path : String) (old new : StoredFile) : Prop :=
  ∃ reading dating, ReadThenDated (c.questions host.views) path reading dating ∧
    host.file path reading = .ok old ∧ host.file path dating = .ok new

/-- Paths that lead to the same place have the same file at every moment. -/
theorem file_congr {other : String} (h : host.leads other = host.leads path) (k : Nat) :
    host.file other k = host.file path k := by
  unfold file
  rw [h]

/-- The loader after calls that begin at the first moment, and the moment at their end. -/
def after (host : ChangingHost) (settings : CacheSettings) (calls : List LoaderCall) : ProfileLoader × Nat :=
  (ProfileLoader.new settings).afterCalls host.views 0 calls

/-- The calls of a run that begins at the first moment. -/
def begun (host : ChangingHost) (settings : CacheSettings) (calls : List LoaderCall) : List BegunCall :=
  (ProfileLoader.new settings).begun host.views 0 calls

/-- What a load answers that a loader begins at a moment, and the moment at its end. -/
def load (host : ChangingHost) (start : ProfileLoader × Nat) (path : String) : Except LoadFault ProfileSet × Nat :=
  let run := (start.1.load path).runFrom host.views start.2
  (run.1.2, run.2)

/-- An entry was made of the file as a call read it, and has the time of the file as the call dated it. -/
theorem files_of_made {c : BegunCall} {place : String} {entry : CacheEntry} (h : c.Made host.views place entry) :
    ∃ other old new, c.call.path? = some other ∧ host.leads other = place ∧ host.ReadAndDated c other old new ∧
      ProfileSet.ofAnswer other old.text = .ok entry.profiles ∧ new.changed = entry.fileTime := by
  obtain ⟨other, reading, dating, hother, hasked, hmade⟩ := h
  obtain ⟨locating, hlocated⟩ := hmade.place
  obtain ⟨-, hplace⟩ := resolve_eq_ok_iff.1 hlocated
  obtain ⟨old, hold, hprofiles⟩ := exists_file_of_ofAnswer hmade.profiles
  obtain ⟨new, hnew, hchanged⟩ := modified_eq_ok_iff.1 hmade.fileTime
  exact ⟨other, old, new, hother, hplace, ⟨reading, dating, hasked, hold, hnew⟩, hprofiles, hchanged⟩

/-- A load after other calls answers for the file as it is at one of its moments. Or a call had read the file as it was
before, and dated it as it is now; then the load may answer for the file as the call read it. -/
theorem answer_after (hwrites : host.WritesAdvance) (settings : CacheSettings) (calls : List LoaderCall)
    (path : String) :
    ∃ k, During (host.after settings calls).2 (host.load (host.after settings calls) path).2 k ∧
      ((host.load (host.after settings calls) path).1 = settings.answer path (host.file path k) ∨
        ∃ c ∈ host.begun settings calls, ∃ other old new, c.call.path? = some other ∧
          host.leads other = host.leads path ∧ host.ReadAndDated c other old new ∧ host.file path k = .ok new ∧
          (host.load (host.after settings calls) path).1 = ProfileSet.ofAnswer other old.text) := by
  have hsettings : (host.after settings calls).1.cache.settings = settings := ProfileLoader.settings_afterCalls
  have hload := ProfileLoader.load_outcome host.views (host.after settings calls).1 path (host.after settings calls).2
  obtain ⟨k, hk, hanswer⟩ := answer_of_load hload
  rw [← HostScript.snd_runFrom] at hk
  refine ⟨k, hk, ?_⟩
  rcases hanswer with hanswer | ⟨file, entry, hfile, hentry, hchanged, hanswer⟩
  · rw [hsettings] at hanswer
    exact Or.inl hanswer
  · right
    obtain ⟨c, hc, hmade⟩ := (ProfileLoader.entries_afterCalls hentry).resolve_left nofun
    obtain ⟨other, old, new, hother, hplace, hread, hprofiles, hdated⟩ := files_of_made hmade
    -- the file was dated before, so it would have an earlier time if it had been written since
    have hcurrent : new = file := by
      obtain ⟨reading, dating, hasked, -, hnew⟩ := hread
      have hbefore : dating ≤ k := by
        have hfinish := (HostScript.bounds_of_mem_asked hasked.2.1).2
        have hend := ProfileLoader.finish_le_afterCalls hc
        exact Nat.le_trans (Nat.le_of_lt hfinish) (Nat.le_trans hend hk.le)
      rw [file_congr hplace] at hnew
      rw [← hdated] at hchanged
      exact (hwrites dating k hbefore _ new file hnew hfile).resolve_right (Int.not_lt.2 hchanged)
    subst hcurrent
    exact ⟨c, hc, other, old, new, hother, hplace, hread, hfile, hanswer.trans hprofiles.symm⟩

/-! ## A file that is rewritten -/

/-- A file that declares one profile, without options. -/
def declaring (name : String) (changed : Timestamp) : StoredFile where
  text := .ok ("\x7b\"" ++ name ++ "\": \x7b\x7d\x7d")
  changed

/-- The host whose files are rewritten before a moment. -/
def rewrittenAt (change : Nat) : ChangingHost where
  leads := id
  disk moment _ := .ok (if moment < change then declaring "old" 1 else declaring "new" 2)
  clock moment := moment

/-- Before the moment of the change there are the old profiles. -/
theorem rewrittenAt_before {change moment : Nat} (h : moment < change) :
    (rewrittenAt change).disk moment = fun _ => .ok (declaring "old" 1) := by
  funext place
  exact congrArg Except.ok (if_pos h)

/-- From the moment of the change there are the new profiles. -/
theorem rewrittenAt_from {change moment : Nat} (h : change ≤ moment) :
    (rewrittenAt change).disk moment = fun _ => .ok (declaring "new" 2) := by
  funext place
  exact congrArg Except.ok (if_neg (Nat.not_lt.2 h))

/-- The new file has a later time than the old one. -/
theorem writesAdvance_rewrittenAt (change : Nat) : (rewrittenAt change).WritesAdvance := by
  intro earlier later hle place old new hold hnew
  rcases Nat.lt_or_ge later change with hlater | hlater
  · rw [rewrittenAt_before (Nat.lt_of_le_of_lt hle hlater)] at hold
    rw [rewrittenAt_before hlater] at hnew
    exact Or.inl (Except.ok.inj (hold.symm.trans hnew))
  · rw [rewrittenAt_from hlater] at hnew
    rcases Nat.lt_or_ge earlier change with hearlier | hearlier
    · rw [rewrittenAt_before hearlier] at hold
      cases hold
      cases hnew
      exact Or.inr (by decide)
    · rw [rewrittenAt_from hearlier] at hold
      exact Or.inl (Except.ok.inj (hold.symm.trans hnew))

end ChangingHost

end FormValidation
