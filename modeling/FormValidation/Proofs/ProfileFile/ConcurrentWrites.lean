import FormValidation.Proofs.ProfileFile.ChangingHost

/-!
# Files that are written while they are loaded

A loader reads the text of a file first and asks for its time afterwards, when it caches the profiles. A write between
the two goes unnoticed: the profiles of the old text are cached with the time of the new one, and they are served as
long as the file is not written again (`load_overtaken`). This is the only way to be served the profiles of an old text.
Wherever else files are written among the questions of earlier calls, a load that itself is not disturbed answers with
the profiles of the file as it is (`load_current`).
-/

set_option autoImplicit false

namespace FormValidation.ChangingHost

/-- If no call read a file as it was before and dated it as it is now, then a load during which the file stays as it is
answers with the profiles of the file as it is, read under a path by which the file was named. -/
theorem load_current (host : ChangingHost) (hwrites : host.WritesAdvance) (settings : CacheSettings)
    (calls : List LoaderCall) (path : String) (file : StoredFile)
    (hfile : ∀ k, During (host.after settings calls).2 (host.load (host.after settings calls) path).2 k →
      host.file path k = .ok file)
    (hread : ∀ c ∈ host.begun settings calls, ∀ other old, host.leads other = host.leads path →
      host.ReadAndDated c other old file → old = file) :
    ∃ other, (other = path ∨ ∃ call ∈ calls, call.path? = some other) ∧ host.leads other = host.leads path ∧
      (host.load (host.after settings calls) path).1 = ProfileSet.ofAnswer other file.text := by
  obtain ⟨k, hk, hanswer | ⟨c, hc, other, old, new, hother, hleads, hdated, hnew, hanswer⟩⟩ :=
    host.answer_after hwrites settings calls path
  · rw [hfile k hk] at hanswer
    exact ⟨path, Or.inl rfl, rfl, hanswer⟩
  · obtain rfl : new = file := Except.ok.inj (hnew.symm.trans (hfile k hk))
    obtain rfl : old = new := hread c hc other old hleads hdated
    exact ⟨other, Or.inr ⟨c.call, ProfileLoader.call_mem_of_mem_begun hc, hother⟩, hleads, hanswer⟩

/-- The file is written after the second load has found it in the cache and before it asks for its time. -/
theorem load_current_rewritten :
    let host := rewrittenAt 6
    let calls : List LoaderCall := [.load "p.json", .load "p.json"]
    host.WritesAdvance ∧
      (∀ c ∈ host.begun {} calls, ∀ other old, host.leads other = host.leads "p.json" →
        host.ReadAndDated c other old (declaring "new" 2) → old = declaring "new" 2) ∧
      (host.load (host.after {} calls) "p.json").1 = ProfileSet.ofAnswer "p.json" (declaring "new" 2).text := by
  intro host calls
  have hwrites : host.WritesAdvance := writesAdvance_rewrittenAt 6
  have hquestions : (host.begun {} calls).map (·.questions host.views) = [
      [(0, .place "p.json"), (1, .text "p.json"), (2, .place "p.json"), (3, .change "p.json"), (4, .time)],
      [(5, .place "p.json"), (6, .change "p.json"), (7, .time), (8, .text "p.json"), (9, .place "p.json"),
        (10, .change "p.json"), (11, .time)]] := by
    decide +kernel
  have hread : ∀ c ∈ host.begun {} calls, ∀ other old, host.leads other = host.leads "p.json" →
      host.ReadAndDated c other old (declaring "new" 2) → old = declaring "new" 2 := by
    rintro c hc other old - ⟨reading, dating, ⟨hreading, hdating, -⟩, hold, hnew⟩
    have hmem := List.mem_map_of_mem (f := (·.questions host.views)) hc
    rw [hquestions] at hmem
    rcases List.mem_cons.1 hmem with hfirst | hsecond
    · -- the first load dates the old file
      rw [hfirst] at hdating
      obtain ⟨rfl, -⟩ : dating = 3 ∧ other = "p.json" := by simpa using hdating
      have hbefore : host.file other 3 = .ok (declaring "old" 1) := congrFun (rewrittenAt_before (by decide)) _
      exact absurd (hbefore.symm.trans hnew) (by simp [declaring])
    · -- the second load reads the new file
      rw [List.mem_singleton.1 hsecond] at hreading
      obtain ⟨rfl, -⟩ : reading = 8 ∧ other = "p.json" := by simpa using hreading
      have hfrom : host.file other 8 = .ok (declaring "new" 2) := congrFun (rewrittenAt_from (by decide)) _
      exact Except.ok.inj (hold.symm.trans hfrom)
  have hmoment : (host.after {} calls).2 = 12 := by decide +kernel
  have hfile : ∀ k, During (host.after {} calls).2 (host.load (host.after {} calls) "p.json").2 k →
      host.file "p.json" k = .ok (declaring "new" 2) := by
    intro k hk
    rw [hmoment] at hk
    exact congrFun (rewrittenAt_from (Nat.le_trans (by decide) hk.le)) _
  obtain ⟨other, -, hother, hanswer⟩ := load_current host hwrites {} calls "p.json" (declaring "new" 2) hfile hread
  obtain rfl : other = "p.json" := hother
  exact ⟨hwrites, hread, hanswer⟩

/-- The file is written after the first load has read it and before it asks for its time. -/
theorem load_overtaken :
    let host := rewrittenAt 2
    let start := host.after {} [.load "p.json"]
    host.WritesAdvance ∧ (∀ k, start.2 ≤ k → host.file "p.json" k = .ok (declaring "new" 2)) ∧
      (host.load start "p.json").1.toOption.map ProfileSet.names = some ["old"] ∧
      (ProfileSet.ofAnswer "p.json" (declaring "new" 2).text).toOption.map ProfileSet.names = some ["new"] := by
  intro host start
  have hmoment : start.2 = 5 := by decide +kernel
  refine ⟨writesAdvance_rewrittenAt 2, fun k hk => ?_, by decide +kernel, by decide +kernel⟩
  have hfrom : (rewrittenAt 2).disk k = fun _ => .ok (declaring "new" 2) := rewrittenAt_from (by omega)
  exact congrFun hfrom _

end FormValidation.ChangingHost
