import FormValidation.Evaluation.Evaluate
import FormValidation.Proofs.FieldMap
import FormValidation.Proofs.Registry.Bindings

/-!
# The names that a profile refers to

A profile refers to filters and constraints by name. Its preparation looks these names up and no others, so it is the
same over two registries that bind them to the same functions (`Preparation.ofProfile_congr`).
-/

set_option autoImplicit false

namespace FormValidation

variable {r r' : Registry} {profile : Profile}

/-- The filter is the one that is registered under a name. -/
def FilterSpec.RefersTo (slot : ExportName) : FilterSpec → Prop
  | named name => slot = .filter name
  | function _ => False

/-- The constraint is the one that is registered under a name. -/
def ConstraintSpec.RefersTo (slot : ExportName) : ConstraintSpec → Prop
  | named name => slot = .constraint name
  | pattern _ => False
  | callable _ _ => False
  | structured base _ _ _ => base.RefersTo slot

/-- Some filter or constraint of the profile is given by a name. -/
inductive Profile.RefersTo (profile : Profile) (slot : ExportName) : Prop where
  | filter {spec : FilterSpec} (hmem : spec ∈ profile.filters) (h : spec.RefersTo slot)
  | fieldFilter {field : String} {specs : List FilterSpec} {spec : FilterSpec}
    (hfield : profile.fieldFilters.get? field = some specs) (hmem : spec ∈ specs) (h : spec.RefersTo slot)
  | patternFilter {rule : FieldPattern × List FilterSpec} {spec : FilterSpec}
    (hrule : rule ∈ profile.patternFilters) (hmem : spec ∈ rule.2) (h : spec.RefersTo slot)
  | constraint {field : String} {specs : List ConstraintSpec} {spec : ConstraintSpec}
    (hfield : profile.constraints.get? field = some specs) (hmem : spec ∈ specs) (h : spec.RefersTo slot)
  | patternConstraint {rule : FieldPattern × List ConstraintSpec} {spec : ConstraintSpec}
    (hrule : rule ∈ profile.patternConstraints) (hmem : spec ∈ rule.2) (h : spec.RefersTo slot)

/-- A filter resolves alike in registries that have the same under the names it refers to. -/
theorem FilterSpec.resolve_congr {spec : FilterSpec} (h : ∀ slot, spec.RefersTo slot → r.bound? slot = r'.bound? slot) :
    spec.resolve r = spec.resolve r' := by
  cases spec with
  | named name => exact Registry.filter_congr (h _ rfl)
  | function run => rfl

/-- A constraint compiles alike in registries that have the same under the names it refers to. -/
theorem ConstraintSpec.compile_congr {spec : ConstraintSpec}
    (h : ∀ slot, spec.RefersTo slot → r.bound? slot = r'.bound? slot) : spec.compile r = spec.compile r' := by
  induction spec with
  | named name => rw [compile, compile, Registry.constraint_congr (h _ rfl)]
  | pattern p => rfl
  | callable name function => rfl
  | structured base name params isMethod ih => rw [compile, compile, ih h]

/-- The filters of a profile resolve alike in registries that have the same under the names it refers to. -/
theorem FilterPlan.ofProfile_congr (h : ∀ slot, profile.RefersTo slot → r.bound? slot = r'.bound? slot) :
    ofProfile r profile = ofProfile r' profile := by
  have heverywhere : resolveAll r profile.filters = resolveAll r' profile.filters :=
    Outcome.mapM_congr fun spec hspec => FilterSpec.resolve_congr fun slot hslot => h slot (.filter hspec hslot)
  have hfields : (profile.fieldFilters.mapE fun _ specs => resolveAll r specs) =
      profile.fieldFilters.mapE fun _ specs => resolveAll r' specs := by
    refine FieldMap.mapE_congr fun field specs hfield => Outcome.mapM_congr fun spec hspec => ?_
    exact FilterSpec.resolve_congr fun slot hslot => h slot (.fieldFilter hfield hspec hslot)
  have hpatterns : ∀ rule ∈ profile.patternFilters, resolveAll r rule.2 = resolveAll r' rule.2 := by
    refine fun rule hrule => Outcome.mapM_congr fun spec hspec => ?_
    exact FilterSpec.resolve_congr fun slot hslot => h slot (.patternFilter hrule hspec hslot)
  unfold ofProfile
  rw [heverywhere, hfields]
  congr 1
  funext everywhere
  congr 1
  funext byField
  congr 1
  exact Outcome.mapM_congr fun rule hrule => by rw [hpatterns rule hrule]

/-- The constraints of a profile compile alike in registries that have the same under the names it refers to. -/
theorem ConstraintPlan.ofProfile_congr (h : ∀ slot, profile.RefersTo slot → r.bound? slot = r'.bound? slot) :
    ofProfile r profile = ofProfile r' profile := by
  have hfields : (profile.constraints.mapE fun _ specs => compileAll r specs) =
      profile.constraints.mapE fun _ specs => compileAll r' specs := by
    refine FieldMap.mapE_congr fun field specs hfield => Outcome.mapM_congr fun spec hspec => ?_
    exact ConstraintSpec.compile_congr fun slot hslot => h slot (.constraint hfield hspec hslot)
  have hpatterns : ∀ rule ∈ profile.patternConstraints, compileAll r rule.2 = compileAll r' rule.2 := by
    refine fun rule hrule => Outcome.mapM_congr fun spec hspec => ?_
    exact ConstraintSpec.compile_congr fun slot hslot => h slot (.patternConstraint hrule hspec hslot)
  unfold ofProfile
  rw [hfields]
  congr 1
  funext byField
  congr 1
  exact Outcome.mapM_congr fun rule hrule => by rw [hpatterns rule hrule]

/-- The preparation of a profile depends on a registry by the functions of the names to which the profile refers. -/
theorem Preparation.ofProfile_congr (h : ∀ slot, profile.RefersTo slot → r.bound? slot = r'.bound? slot) :
    ofProfile r profile = ofProfile r' profile := by
  unfold ofProfile
  rw [ConstraintPlan.ofProfile_congr h, FilterPlan.ofProfile_congr h]

end FormValidation
