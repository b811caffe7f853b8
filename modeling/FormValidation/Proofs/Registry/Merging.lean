import FormValidation.Registry.Basic

/-!
# Merging packages again

A package is merged at most once. When all packages of a list have been merged, merging the list again changes nothing.
-/

set_option autoImplicit false

namespace FormValidation.Registry

variable {r m : Registry}

/-- Binding exports leaves the packages, and which of them have been merged. -/
theorem bindExports_keeps (exports : List (String × Export)) :
    (r.bindExports exports).packages = r.packages ∧ (r.bindExports exports).merged = r.merged := by
  have hfold : ∀ (bindings : List Binding) (r : Registry),
      (bindings.foldl bind r).packages = r.packages ∧ (bindings.foldl bind r).merged = r.merged := by
    intro bindings
    induction bindings with
    | nil => exact fun r => ⟨rfl, rfl⟩
    | cons binding rest ih =>
      intro r
      rw [List.foldl_cons, (ih _).1, (ih _).2]
      cases binding <;> exact ⟨rfl, rfl⟩
  exact hfold _ r

/-- Merging changes no package that is registered. -/
theorem packages_of_mergePackage {name : String} (h : r.mergePackage name = .ok m) : m.packages = r.packages := by
  unfold mergePackage at h
  split at h
  · cases h
    rfl
  · split at h
    · simp at h
    · cases h
      exact (bindExports_keeps _).1

/-- After a package was merged, the merged packages are this one and those before. -/
theorem isMerged_of_mergePackage {name : String} (h : r.mergePackage name = .ok m) (other : String) :
    m.isMerged other ↔ name = other ∨ r.isMerged other := by
  unfold mergePackage at h
  by_cases hmerged : r.isMerged name
  · rw [if_pos hmerged, Except.ok.injEq] at h
    subst h
    constructor
    · exact Or.inr
    · rintro (rfl | hother)
      · exact hmerged
      · exact hother
  · rw [if_neg hmerged] at h
    split at h
    · simp at h
    · simp only [Except.ok.injEq] at h
      subst h
      simp [isMerged, NameSet.contains_add, bindExports_keeps]

/-- A list of packages that was merged is merged in the end, with all that was merged before. -/
theorem isMerged_of_mergePackages {names : List String} (h : r.mergePackages names = (m, .ok ())) {other : String}
    (hother : other ∈ names ∨ r.isMerged other) : m.isMerged other := by
  induction names generalizing r with
  | nil =>
    simp only [mergePackages, Prod.mk.injEq, and_true] at h
    simpa [h] using hother
  | cons name rest ih =>
    rw [mergePackages] at h
    split at h
    · simp at h
    next middle hmiddle =>
      refine ih h ?_
      rw [isMerged_of_mergePackage hmiddle]
      rcases hother with hmem | hbefore
      · rcases List.mem_cons.1 hmem with rfl | hrest
        · exact Or.inr (Or.inl rfl)
        · exact Or.inl hrest
      · exact Or.inr (Or.inr hbefore)

/-- Packages that have been merged are passed over. -/
theorem mergePackages_of_isMerged {names : List String} (h : ∀ name ∈ names, r.isMerged name) :
    r.mergePackages names = (r, .ok ()) := by
  induction names with
  | nil => rfl
  | cons name rest ih =>
    have hfirst : r.mergePackage name = .ok r := by
      rw [mergePackage, if_pos (h name List.mem_cons_self)]
    rw [mergePackages, hfirst]
    exact ih fun other hother => h other (List.mem_cons_of_mem _ hother)

/-- Merging a list of packages a second time changes nothing. -/
theorem mergePackages_again {names : List String} (h : r.mergePackages names = (m, .ok ())) :
    m.mergePackages names = (m, .ok ()) :=
  mergePackages_of_isMerged fun _ hname => isMerged_of_mergePackages h (Or.inl hname)

end FormValidation.Registry
