import FormValidation.Proofs.Classification.Comparison
import FormValidation.Proofs.Profile.References
import FormValidation.Proofs.Profile.Resolvable
import FormValidation.Proofs.Registry.History

/-!
# Evaluations one after the other

An evaluation leaves a registry behind into which the packages of its profile were merged, and the next evaluation looks
its names up there. So evaluations are not independent: a profile that names a constraint of a package may fail on its
own and succeed after another profile brought the package in (`evaluate_depends_on_earlier`). But this is the only way
in which they meet. The outcome is the one of an evaluation that comes first, as long as every name to which the profile
refers is bound last by the same export, whether the packages of the profile are merged alone or after those of the
earlier evaluations (`evaluate_after_earlier`).
-/

set_option autoImplicit false

namespace FormValidation

/-- The exports of packages as events, the last one of the last package first. -/
def Package.log (packages : List Package) : List BindingEvent := packages.reverse.flatMap Package.events

/-- The log of two lists of packages has that of the later ones first. -/
theorem Package.log_append (packages more : List Package) : log (packages ++ more) = log more ++ log packages := by
  simp [log]

namespace Registry

variable {r r' m : Registry}

/-! ## Which packages can be merged -/

/-- The package was merged before, or it is registered. -/
def Available (r : Registry) (name : String) : Prop := r.isMerged name ∨ r.packages.contains name

/-- A package that is not available cannot be merged. -/
theorem mergePackage_of_not_available {name : String} (h : ¬ r.Available name) :
    r.mergePackage name = .error (.unknownPackage name) := by
  obtain ⟨hmerged, hpackage⟩ := not_or.1 h
  rw [mergePackage, if_neg hmerged, FieldMap.get?_eq_none_iff.2 hpackage]

/-- A package can be merged exactly when it is available. -/
theorem exists_mergePackage_iff {name : String} : (∃ m, r.mergePackage name = .ok m) ↔ r.Available name :=
  (r.resolves_mergePackage name).ok_iff

/-- Merging makes no difference for which packages can be merged. -/
theorem available_of_mergePackage {name : String} (h : r.mergePackage name = .ok m) (other : String) :
    m.Available other ↔ r.Available other := by
  have hname : r.Available name := exists_mergePackage_iff.1 ⟨m, h⟩
  unfold Available
  rw [isMerged_of_mergePackage h, packages_of_mergePackage h, or_assoc]
  constructor
  · rintro (rfl | hother)
    · exact hname
    · exact hother
  · exact Or.inr

/-- Merging does not change which packages are available. -/
theorem available_mergePackages (names : List String) (other : String) :
    (r.mergePackages names).1.Available other ↔ r.Available other := by
  induction names generalizing r with
  | nil => rfl
  | cons name rest ih =>
    rw [mergePackages]
    cases hfirst : r.mergePackage name with
    | error fault => rfl
    | ok m => exact ih.trans (available_of_mergePackage hfirst other)

/-- Where the same packages can be merged, merging a list of them ends alike. -/
theorem mergePackages_outcome_congr (h : ∀ name, r'.Available name ↔ r.Available name) (names : List String) :
    (r'.mergePackages names).2 = (r.mergePackages names).2 := by
  induction names generalizing r r' with
  | nil => rfl
  | cons name rest ih =>
    rw [mergePackages, mergePackages]
    by_cases hname : r.Available name
    · obtain ⟨m, hfirst⟩ := exists_mergePackage_iff.2 hname
      obtain ⟨m', hfirst'⟩ := exists_mergePackage_iff.2 ((h name).2 hname)
      rw [hfirst, hfirst']
      -- the two registries may bind names differently from here on, but the same packages can be merged
      refine ih fun other => ?_
      rw [available_of_mergePackage hfirst, available_of_mergePackage hfirst', h]
    · rw [mergePackage_of_not_available hname, mergePackage_of_not_available fun hname' => hname ((h name).1 hname')]

/-! ## Which packages are brought in -/

/-- The packages whose exports are bound when a list of packages is merged: those that have not been merged before, up
to the first that is not registered. -/
def broughtIn (r : Registry) : List String → List Package
  | [] => []
  | name :: rest =>
    match r.mergePackage name with
    | .error _ => []
    | .ok merged =>
      (if r.isMerged name then [] else (r.packages.get? name).toList) ++ merged.broughtIn rest

/-- After a package was merged its exports count, unless it was merged before. -/
theorem bound?_mergePackage {name : String} (h : r.mergePackage name = .ok m) (slot : ExportName) :
    m.bound? slot = (latest? (Package.log (if r.isMerged name then [] else (r.packages.get? name).toList))
      slot).or (r.bound? slot) := by
  by_cases hmerged : r.isMerged name
  · rw [mergePackage, if_pos hmerged, Except.ok.injEq] at h
    rw [if_pos hmerged, ← h]
    rfl
  · rw [mergePackage, if_neg hmerged] at h
    rw [if_neg hmerged]
    cases hpackage : r.packages.get? name with
    | none =>
      rw [hpackage] at h
      cases h
    | some package =>
      rw [hpackage, Except.ok.injEq] at h
      have hlog : Package.log (some package).toList = package.events := by simp [Package.log]
      rw [hlog, ← bound?_bindExports, ← h]
      cases slot <;> rfl

/-- After packages were merged, a name is bound by the last export for it of those that were brought in. -/
theorem bound?_mergePackages (names : List String) (slot : ExportName) :
    (r.mergePackages names).1.bound? slot = (latest? (Package.log (r.broughtIn names)) slot).or (r.bound? slot) := by
  induction names generalizing r with
  | nil => rfl
  | cons name rest ih =>
    rw [mergePackages, broughtIn]
    cases hfirst : r.mergePackage name with
    | error fault => rfl
    | ok m =>
      rw [Package.log_append, latest?_append, Option.or_assoc, ← bound?_mergePackage hfirst]
      exact ih

/-- The registry after evaluations, one after the other. -/
def afterEvaluations (r : Registry) (earlier : List (Profile × Source)) : Registry :=
  r.run (earlier.map fun e => .evaluate e.1 e.2)

/-- The packages that evaluations bring in, one after the other. -/
def broughtInBy (r : Registry) : List (Profile × Source) → List Package
  | [] => []
  | (profile, input) :: rest =>
    r.broughtIn profile.packages ++ (evaluate r profile input).registry.broughtInBy rest

/-- After evaluations the packages that they brought in count, the latest first. -/
theorem bound?_afterEvaluations (earlier : List (Profile × Source)) (slot : ExportName) :
    (r.afterEvaluations earlier).bound? slot =
      (latest? (Package.log (r.broughtInBy earlier)) slot).or (r.bound? slot) := by
  induction earlier generalizing r with
  | nil => rfl
  | cons e rest ih =>
    have hfirst := bound?_mergePackages (r := r) e.1.packages slot
    rw [broughtInBy, Package.log_append, latest?_append, Option.or_assoc, ← hfirst, ← registry_evaluate r e.1 e.2]
    exact ih

/-- Evaluations do not change which packages are available. -/
theorem available_afterEvaluations (earlier : List (Profile × Source)) (name : String) :
    (r.afterEvaluations earlier).Available name ↔ r.Available name := by
  induction earlier generalizing r with
  | nil => rfl
  | cons e rest ih =>
    have hfirst := available_mergePackages (r := r) e.1.packages name
    rw [← hfirst, ← registry_evaluate r e.1 e.2]
    exact ih

end Registry

/-! ## Outcomes -/

/-- An evaluation ends as it would have ended as the first one, if every name that its profile refers to stands for the
same function: that of the last export for it among the packages that are brought in, with those of the earlier
evaluations or without them, or the one it had in the beginning. No condition is needed if a package of the profile can
not be merged, because then both end with the same fault. -/
theorem evaluate_after_earlier (r : Registry) (earlier : List (Profile × Source)) (profile : Profile) (input : Source)
    (h : (∀ name ∈ profile.packages, r.Available name) → ∀ slot, profile.RefersTo slot →
      (latest? (Package.log (r.broughtInBy earlier ++ (r.afterEvaluations earlier).broughtIn profile.packages))
        slot).or (r.bound? slot) =
      (latest? (Package.log (r.broughtIn profile.packages)) slot).or (r.bound? slot)) :
    (evaluate (r.afterEvaluations earlier) profile input).outcome = (evaluate r profile input).outcome := by
  have hmerge : ((r.afterEvaluations earlier).mergePackages profile.packages).2 =
      (r.mergePackages profile.packages).2 :=
    Registry.mergePackages_outcome_congr (Registry.available_afterEvaluations earlier) profile.packages
  have hprepare : profile.prepare (r.afterEvaluations earlier) = profile.prepare r := by
    unfold Profile.prepare
    rw [hmerge]
    cases hsuccess : (r.mergePackages profile.packages).2 with
    | error fault => rfl
    | ok done =>
      have havailable : ∀ name ∈ profile.packages, r.Available name :=
        (r.resolves_mergePackages profile.packages).ok_iff.1 ⟨done, hsuccess⟩
      refine Preparation.ofProfile_congr fun slot hslot => ?_
      have hslot := h havailable slot hslot
      rw [Package.log_append, latest?_append, Option.or_assoc] at hslot
      rw [Registry.bound?_mergePackages, Registry.bound?_afterEvaluations, Registry.bound?_mergePackages, hslot]
  rw [outcome_eq_prepare, outcome_eq_prepare, hprepare]

/-- A form with an optional item, which a constraint of a package checks. -/
def itemForm (packages : List String) : Profile where
  optional := ["item"]
  constraints := FieldMap.empty.insert "item" [.named "sku"]
  packages := packages

/-- The form refers to one constraint only. -/
theorem eq_of_refersTo_itemForm {packages : List String} {slot : ExportName} (h : (itemForm packages).RefersTo slot) :
    slot = .constraint "sku" := by
  cases h with
  | filter hmem => cases hmem
  | fieldFilter hfield => cases hfield
  | patternFilter hrule => cases hrule
  | patternConstraint hrule => cases hrule
  | constraint hfield hmem h =>
    rw [itemForm, FieldMap.get?_insert] at hfield
    split at hfield
    · cases hfield
      rw [List.mem_singleton.1 hmem] at h
      exact h
    · cases hfield

def itemInput : Source := .texts (FieldMap.empty.insert "item" "SKU-42")

/-- Two packages that disagree about what the constraint is. -/
def shelf : Registry :=
  let labels : Package :=
    ⟨"labels", [("filter_upper", .filter String.toUpper), ("match_sku", .constraint (.predicate (· ≠ "")))]⟩
  let shop : Package := ⟨"shop", [("match_sku", .constraint (.predicate (· = "SKU-42")))]⟩
  (Registry.empty.registerPackage labels).registerPackage shop

/-- A package that an earlier evaluation merged has other names, and it changes nothing for the form. -/
theorem evaluate_after_earlier_labels :
    let later := shelf.afterEvaluations [(itemForm ["labels", "tools"], itemInput)]
    (∀ name ∈ (itemForm ["shop"]).packages, shelf.Available name) ∧ later.isMerged "labels" ∧
      (evaluate later (itemForm ["shop"]) itemInput).outcome =
        (evaluate shelf (itemForm ["shop"]) itemInput).outcome := by
  intro later
  refine ⟨?_, rfl, evaluate_after_earlier _ _ _ _ fun _ slot hslot => ?_⟩
  · intro name hname
    rw [List.mem_singleton.1 hname]
    exact Or.inr rfl
  · rw [eq_of_refersTo_itemForm hslot]
    rfl

/-- On its own the form fails, because it brings in no package. Once an earlier evaluation brought one in, it passes. -/
theorem evaluate_depends_on_earlier :
    (evaluate shelf (itemForm []) itemInput).outcome = .error (.unknownConstraint "sku") ∧
      (evaluate (shelf.afterEvaluations [(itemForm ["shop"], itemInput)]) (itemForm []) itemInput).outcome.isOk := by
  constructor
  · rfl
  · rfl

end FormValidation
