import FormValidation.Proofs.ProfileFile.ChangingHost

/-!
# The cache does not show

A loader that has cached sets answers as a loader would that has none, whatever was loaded, reloaded, cleared and
cleaned up before, whatever files were written and deleted between the calls, and whatever the clock shows
(`load_eq_new`). What this needs is that files are not written while a call goes on, that every write gives a file a
later time than it ever had, and that a file is always named by the same path.
-/

set_option autoImplicit false

namespace FormValidation.ChangingHost

/-- What a new loader answers on a host that does not change. -/
theorem load_new (settings : CacheSettings) (disk : Disk) (leads : String → String) (now : Timestamp) (path : String) :
    (((ProfileLoader.new settings).load path).run (disk.view leads now)).2 =
      settings.answer path (disk (leads path)) := by
  let host : ChangingHost := ⟨leads, fun _ => disk, fun _ => now⟩
  obtain ⟨k, -, hanswer⟩ := answer_of_load (ProfileLoader.load_outcome host.views (ProfileLoader.new settings) path 0)
  rcases hanswer with hanswer | ⟨file, entry, -, hentry, -⟩
  · exact hanswer
  · cases hentry

/-- No file is written while a call goes on: one that is there was there before, as it is. -/
def NotWrittenDuring (host : ChangingHost) (c : BegunCall) : Prop :=
  ∀ earlier later, c.moment ≤ earlier → earlier ≤ later → later < (c.finish host.views).2 →
    ∀ place file, host.disk later place = .ok file → host.disk earlier place = .ok file

/-- When nothing is written during a call, the file that it dated is the one that it read. -/
theorem eq_of_readAndDated {host : ChangingHost} {c : BegunCall} {path : String} {old new : StoredFile}
    (hquiet : host.NotWrittenDuring c) (h : host.ReadAndDated c path old new) : old = new := by
  obtain ⟨reading, dating, ⟨hread, hdate, hlt⟩, hold, hnew⟩ := h
  have hstart := (HostScript.bounds_of_mem_asked hread).1
  have hend := (HostScript.bounds_of_mem_asked hdate).2
  have hsame := hquiet reading dating hstart (Nat.le_of_lt hlt) hend _ new hnew
  exact Except.ok.inj (hold.symm.trans hsame)

/-- A load answers as a new loader answers on the files as they are at a moment of the load; if they do not change
meanwhile, this is what the new loader answers when the load begins. -/
theorem load_eq_new (host : ChangingHost) (hwrites : host.WritesAdvance) (settings : CacheSettings)
    (calls : List LoaderCall) (path : String) (hquiet : ∀ c ∈ host.begun settings calls, host.NotWrittenDuring c)
    (hnames : ∀ call ∈ calls, ∀ other, call.path? = some other → host.leads other = host.leads path → other = path)
    (now : Timestamp) :
    let start := host.after settings calls
    let fresh := fun k => (((ProfileLoader.new settings).load path).run ((host.disk k).view host.leads now)).2
    (∃ k, During start.2 (host.load start path).2 k ∧ (host.load start path).1 = fresh k) ∧
      ((∀ k, During start.2 (host.load start path).2 k → host.disk k = host.disk start.2) →
        (host.load start path).1 = fresh start.2) := by
  intro start fresh
  have hmain : ∃ k, During start.2 (host.load start path).2 k ∧ (host.load start path).1 = fresh k := by
    obtain ⟨k, hk, hanswer | ⟨c, hc, other, old, new, hother, hleads, hread, hnew, hanswer⟩⟩ :=
      host.answer_after hwrites settings calls path
    · exact ⟨k, hk, hanswer.trans (load_new ..).symm⟩
    · have hpath : other = path := hnames c.call (ProfileLoader.call_mem_of_mem_begun hc) other hother hleads
      have hsame : old = new := eq_of_readAndDated (hquiet c hc) hread
      subst hpath hsame
      have hfresh : fresh k = ProfileSet.ofAnswer other old.text := by
        have hanswered := load_new settings (host.disk k) host.leads now other
        rw [show host.disk k (host.leads other) = .ok old from hnew] at hanswered
        exact hanswered
      exact ⟨k, hk, hanswer.trans hfresh.symm⟩
  refine ⟨hmain, fun hconstant => ?_⟩
  obtain ⟨k, hk, hanswer⟩ := hmain
  rw [hanswer]
  show (((ProfileLoader.new settings).load path).run ((host.disk k).view host.leads now)).2 = _
  rw [hconstant k hk]

/-- The file is loaded twice, from the cache the second time, and then rewritten. -/
theorem load_eq_new_rewritten :
    let host := rewrittenAt 8
    let calls : List LoaderCall := [.load "p.json", .load "p.json"]
    host.WritesAdvance ∧ (∀ c ∈ host.begun {} calls, host.NotWrittenDuring c) ∧
      (host.load (host.after {} calls) "p.json").1.toOption.map ProfileSet.names = some ["new"] := by
  intro host calls
  have hwrites : host.WritesAdvance := writesAdvance_rewrittenAt 8
  have hmoment : (host.after {} calls).2 = 8 := by decide +kernel
  have hquiet : ∀ c ∈ host.begun {} calls, host.NotWrittenDuring c := by
    intro c hc earlier later _ hle hlater place file hfile
    have hend : (c.finish host.views).2 ≤ 8 := hmoment ▸ ProfileLoader.finish_le_afterCalls hc
    have hbefore : later < 8 := Nat.lt_of_lt_of_le hlater hend
    rw [rewrittenAt_before hbefore] at hfile
    rw [rewrittenAt_before (Nat.lt_of_le_of_lt hle hbefore)]
    exact hfile
  have hnames : ∀ call ∈ calls, ∀ other, call.path? = some other → host.leads other = host.leads "p.json" →
      other = "p.json" := fun _ _ _ _ hleads => hleads
  have hunchanged : ∀ k, During (host.after {} calls).2 (host.load (host.after {} calls) "p.json").2 k →
      host.disk k = host.disk (host.after {} calls).2 := by
    intro k hk
    rw [hmoment] at hk ⊢
    rw [rewrittenAt_from hk.le, rewrittenAt_from (Nat.le_refl 8)]
  have hanswer := (load_eq_new host hwrites {} calls "p.json" hquiet hnames 0).2 hunchanged
  refine ⟨hwrites, hquiet, ?_⟩
  rw [hanswer, hmoment]
  decide +kernel

end FormValidation.ChangingHost
