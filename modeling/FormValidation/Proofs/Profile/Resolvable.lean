import FormValidation.Proofs.Resolution
import FormValidation.Proofs.Registry.Merging

/-!
# Profiles that can be resolved

Before an evaluation looks at any field, it looks up every name of its profile and compiles every pattern. A profile is
resolvable when all names are registered, all patterns can be compiled, and the message format is well formed. The
preparation of a profile succeeds for the resolvable ones and for no others, and all its faults are structural ones
(`Preparation.resolves_ofProfile`). The proof follows the preparation step by step: what each part looks up is told by
one `Resolves` lemma.
-/

set_option autoImplicit false

namespace FormValidation

/-- The fault says that a profile refers to something that does not exist, or holds a text that is malformed. -/
def Fault.IsStructural : Fault → Prop
  | unknownPackage _ => True
  | invalidMessageFormat _ => True
  | unknownConstraint _ => True
  | unknownFilter _ => True
  | invalidPattern _ _ => True
  | _ => False

/-- The step comes to a result just when a condition holds, and else ends with a structural fault. -/
structure Resolves {α : Type} (step : Except Fault α) (condition : Prop) : Prop where
  ok_iff : (∃ a, step = .ok a) ↔ condition
  structural (fault : Fault) (h : step = .error fault) : fault.IsStructural

namespace Resolves

variable {α β γ : Type}

/-- A result alone always resolves. -/
theorem pure (a : α) : Resolves (pure a : Except Fault α) True :=
  ⟨⟨fun _ => trivial, fun _ => ⟨a, rfl⟩⟩, fun _ h => nomatch h⟩

/-- The condition may be replaced by an equivalent one. -/
theorem congr {step : Except Fault α} {P Q : Prop} (h : Resolves step P) (hiff : P ↔ Q) : Resolves step Q :=
  ⟨h.ok_iff.trans hiff, h.structural⟩

/-- Two steps one after the other. Whether the second succeeds must not depend on what the first gives. -/
theorem bind {step : Except Fault α} {next : α → Except Fault β} {P Q : Prop} (h : Resolves step P)
    (hnext : ∀ a, step = .ok a → Resolves (next a) Q) : Resolves (step >>= next) (P ∧ Q) := by
  rw [← h.ok_iff]
  cases hstep : step with
  | error fault =>
    refine ⟨?_, fun raised hraised => ?_⟩
    · simp [Bind.bind, Except.bind]
    · cases hraised
      exact h.structural _ hstep
  | ok a =>
    have hafter := hnext a hstep
    refine ⟨?_, hafter.structural⟩
    simpa [Bind.bind, Except.bind] using hafter.ok_iff

/-- The result of a step, renamed. -/
theorem map {step : Except Fault α} {P : Prop} (h : Resolves step P) (f : α → β) :
    Resolves (step >>= fun a => Pure.pure (f a)) P :=
  (h.bind fun a _ => pure (f a)).congr (and_iff_left trivial)

/-- A list resolves when all its items do. -/
theorem mapM {step : γ → Except Fault β} {condition : γ → Prop} {items : List γ}
    (h : ∀ a ∈ items, Resolves (step a) (condition a)) :
    Resolves (items.mapM step) (∀ a ∈ items, condition a) := by
  induction items with
  | nil => exact (pure []).congr (by simp)
  | cons a rest ih =>
    rw [List.mapM_cons, List.forall_mem_cons]
    refine (h a List.mem_cons_self).bind fun b _ => ?_
    exact (ih fun a' ha' => h a' (List.mem_cons_of_mem _ ha')).map (b :: ·)

/-- A map resolves when all its values do. -/
theorem mapE {step : String → γ → Except Fault β} {condition : String → γ → Prop} {m : FieldMap γ}
    (h : ∀ name value, Resolves (step name value) (condition name value)) :
    Resolves (m.mapE step) (∀ name value, m.get? name = some value → condition name value) := by
  have hentries : Resolves (m.mapE step) (∀ e ∈ m.entries, condition e.1 e.2) :=
    (mapM fun e _ => (h e.1 e.2).map fun w => (e.1, w)).map FieldMap.ofList
  refine hentries.congr ⟨fun hall name value hvalue => ?_, fun hall e he => ?_⟩
  · exact hall (name, value) ((FieldMap.mem_entries_iff m name value).2 hvalue)
  · exact hall e.1 e.2 ((FieldMap.mem_entries_iff m e.1 e.2).1 he)

end Resolves

/-! ## Patterns and names -/

/-- The pattern can be compiled. -/
def FieldPattern.Compiles (p : FieldPattern) : Prop := ∃ regex, p.compile = .ok regex

/-- A pattern resolves when it compiles. -/
theorem FieldPattern.resolves (p : FieldPattern) : Resolves p.resolve p.Compiles := by
  unfold resolve Compiles
  cases p.compile with
  | error fault =>
    refine ⟨by simp, fun raised hraised => ?_⟩
    cases hraised
    trivial
  | ok regex => exact ⟨by simp, fun _ h => nomatch h⟩

/-- A pattern that may be left out resolves when it compiles or is left out. -/
theorem Preparation.resolves_resolvePattern (pattern : Option FieldPattern) :
    Resolves (resolvePattern pattern) (∀ p, pattern = some p → p.Compiles) := by
  cases pattern with
  | none => exact (Resolves.pure none).congr (by simp)
  | some p =>
    have hstep : resolvePattern (some p) = p.resolve >>= fun regex => pure (some regex) := by
      simp only [resolvePattern]
      cases p.resolve <;> rfl
    rw [hstep]
    exact (p.resolves.map some).congr (by simp)

/-- The filter is a function, or its name is registered. -/
def FilterSpec.Resolvable (registry : Registry) : FilterSpec → Prop
  | named name => registry.filters.contains name
  | function _ => True

/-- The constraint is a function, its name is registered, or its pattern can be compiled. -/
def ConstraintSpec.Resolvable (registry : Registry) : ConstraintSpec → Prop
  | named name => registry.constraints.contains name
  | pattern p => p.Compiles
  | callable _ _ => True
  | structured base _ _ _ => base.Resolvable registry

/-- The name of a filter resolves when the registry has it. -/
theorem Registry.resolves_filter (registry : Registry) (name : String) :
    Resolves (registry.filter name) (registry.filters.contains name) := by
  unfold filter FieldMap.contains
  cases registry.filters.get? name with
  | some run => exact (Resolves.pure run).congr (by simp)
  | none =>
    refine ⟨by simp, fun raised hraised => ?_⟩
    cases hraised
    trivial

/-- The name of a constraint resolves when the registry has it. -/
theorem Registry.resolves_constraint (registry : Registry) (name : String) :
    Resolves (registry.constraint name) (registry.constraints.contains name) := by
  unfold constraint FieldMap.contains
  cases registry.constraints.get? name with
  | some function => exact (Resolves.pure function).congr (by simp)
  | none =>
    refine ⟨by simp, fun raised hraised => ?_⟩
    cases hraised
    trivial

/-- A filter resolves when it is resolvable. -/
theorem FilterSpec.resolves (registry : Registry) (spec : FilterSpec) :
    Resolves (spec.resolve registry) (spec.Resolvable registry) := by
  cases spec with
  | named name => exact registry.resolves_filter name
  | function run => exact Resolves.pure run

/-- A constraint resolves when it is resolvable. -/
theorem ConstraintSpec.resolves (registry : Registry) (spec : ConstraintSpec) :
    Resolves (spec.compile registry) (spec.Resolvable registry) := by
  induction spec with
  | named name =>
    have hstep : (named name).compile registry =
        registry.constraint name >>= fun function => pure ⟨name, .ofFunction function, none⟩ := by
      rw [compile]
      cases registry.constraint name <;> rfl
    rw [hstep]
    exact (registry.resolves_constraint name).map _
  | pattern p =>
    have hstep : (pattern p).compile registry =
        p.resolve >>= fun regex => pure ⟨p.source, .pattern regex, none⟩ := by
      rw [compile]
      cases p.resolve <;> rfl
    rw [hstep]
    exact p.resolves.map _
  | callable name function => exact Resolves.pure _
  | structured base name params isMethod ih =>
    have hstep : (structured base name params isMethod).compile registry = base.compile registry >>= fun inner =>
        pure ⟨name.getD inner.name, inner.callable, params.or inner.params⟩ := by
      rw [compile]
      cases base.compile registry <;> rfl
    rw [hstep]
    exact ih.map _

/-! ## The parts of a profile -/

/-- Rules whose patterns can be compiled and whose items can be resolved. -/
theorem Resolves.rules {α β : Type} {step : List α → Except Fault (List β)} {condition : α → Prop}
    (hstep : ∀ items, Resolves (step items) (∀ a ∈ items, condition a)) (rules : List (FieldPattern × List α)) :
    Resolves (rules.mapM fun e => do
        let regex ← e.1.resolve
        let items ← step e.2
        return (regex, items))
      (∀ e ∈ rules, e.1.Compiles ∧ ∀ a ∈ e.2, condition a) :=
  mapM fun e _ => e.1.resolves.bind fun regex _ => (hstep e.2).map fun items => (regex, items)

/-- A message configuration resolves when its format can be applied. -/
theorem Messages.resolves_checkConfig (c : MessageConfig) :
    Resolves (checkConfig c) (∀ format, c.format = some format → (MessageFormat.apply format "").isOk) := by
  unfold checkConfig
  cases c.format with
  | none => exact (Resolves.pure ()).congr (by simp)
  | some format =>
    simp only [Option.some.injEq, forall_eq']
    cases happly : MessageFormat.apply format "" with
    | ok text => exact (Resolves.pure ()).congr (by simp [Except.isOk, Except.toBool])
    | error fault =>
      refine ⟨by simp [Except.isOk, Except.toBool], fun raised hraised => ?_⟩
      cases hraised
      unfold MessageFormat.apply at happly
      split at happly
      · simp at happly
      · simp only [Except.error.injEq] at happly
        rw [← happly]
        trivial

section Parts

variable (registry : Registry) (profile : Profile)

/-- The constraints of a profile resolve when they all do and their patterns compile. -/
theorem ConstraintPlan.resolves_ofProfile :
    Resolves (ofProfile registry profile)
      ((∀ field specs, profile.constraints.get? field = some specs → ∀ spec ∈ specs, spec.Resolvable registry) ∧
        ∀ rule ∈ profile.patternConstraints, rule.1.Compiles ∧ ∀ spec ∈ rule.2, spec.Resolvable registry) := by
  have hcompile : ∀ specs, Resolves (compileAll registry specs) (∀ spec ∈ specs, spec.Resolvable registry) :=
    fun specs => Resolves.mapM fun spec _ => spec.resolves registry
  refine Resolves.bind (Resolves.mapE fun _ specs => hcompile specs) fun byField _ => ?_
  exact (Resolves.rules hcompile profile.patternConstraints).map (ConstraintPlan.mk byField)

/-- The filters of a profile resolve when they all do and their patterns compile. -/
theorem FilterPlan.resolves_ofProfile :
    Resolves (ofProfile registry profile)
      ((∀ spec ∈ profile.filters, spec.Resolvable registry) ∧
        (∀ field specs, profile.fieldFilters.get? field = some specs → ∀ spec ∈ specs, spec.Resolvable registry) ∧
        ∀ rule ∈ profile.patternFilters, rule.1.Compiles ∧ ∀ spec ∈ rule.2, spec.Resolvable registry) := by
  have hresolve : ∀ specs, Resolves (resolveAll registry specs) (∀ spec ∈ specs, spec.Resolvable registry) :=
    fun specs => Resolves.mapM fun spec _ => spec.resolves registry
  refine Resolves.bind (hresolve profile.filters) fun everywhere _ => ?_
  refine Resolves.bind (Resolves.mapE fun _ specs => hresolve specs) fun byField _ => ?_
  exact (Resolves.rules hresolve profile.patternFilters).map (FilterPlan.mk everywhere byField)

/-- What a profile untaints resolves when its patterns compile. -/
theorem UntaintPolicy.resolves_ofProfile :
    Resolves (ofProfile profile) (∀ p ∈ profile.untaintPatterns, p.Compiles) :=
  (Resolves.mapM fun p _ => p.resolves).map _

/-- All names of the profile are registered, all patterns can be compiled, and the message format has its placeholder. -/
structure Profile.ResolvesIn : Prop where
  messages (format : String) (h : profile.messages.format = some format) : (MessageFormat.apply format "").isOk
  constraints (field : String) (specs : List ConstraintSpec) (h : profile.constraints.get? field = some specs) :
    ∀ spec ∈ specs, spec.Resolvable registry
  patternConstraints : ∀ rule ∈ profile.patternConstraints,
    rule.1.Compiles ∧ ∀ spec ∈ rule.2, spec.Resolvable registry
  untaintPatterns : ∀ p ∈ profile.untaintPatterns, p.Compiles
  filters : ∀ spec ∈ profile.filters, spec.Resolvable registry
  fieldFilters (field : String) (specs : List FilterSpec) (h : profile.fieldFilters.get? field = some specs) :
    ∀ spec ∈ specs, spec.Resolvable registry
  patternFilters : ∀ rule ∈ profile.patternFilters, rule.1.Compiles ∧ ∀ spec ∈ rule.2, spec.Resolvable registry
  requiredPattern (p : FieldPattern) (h : profile.requiredPattern = some p) : p.Compiles
  optionalPattern (p : FieldPattern) (h : profile.optionalPattern = some p) : p.Compiles

/-- The preparation of a profile succeeds for the profiles that can be resolved, and ends with a structural fault for
all others. -/
theorem Preparation.resolves_ofProfile : Resolves (ofProfile registry profile) (profile.ResolvesIn registry) := by
  have hsteps := (Messages.resolves_checkConfig profile.messages).bind fun _ _ =>
    (ConstraintPlan.resolves_ofProfile registry profile).bind fun constraints _ =>
    (UntaintPolicy.resolves_ofProfile profile).bind fun untaint _ =>
    (FilterPlan.resolves_ofProfile registry profile).bind fun filters _ =>
    (resolves_resolvePattern profile.requiredPattern).bind fun requiredPattern _ =>
    (resolves_resolvePattern profile.optionalPattern).map fun optionalPattern =>
      Preparation.mk constraints untaint filters requiredPattern optionalPattern
  refine hsteps.congr ⟨?_, fun h => ?_⟩
  · rintro ⟨hmessages, ⟨hconstraints, hrules⟩, huntaint, ⟨hfilters, hfields, hpatterns⟩, hrequired, hoptional⟩
    exact ⟨hmessages, hconstraints, hrules, huntaint, hfilters, hfields, hpatterns, hrequired, hoptional⟩
  · exact ⟨h.messages, ⟨h.constraints, h.patternConstraints⟩, h.untaintPatterns,
      ⟨h.filters, h.fieldFilters, h.patternFilters⟩, h.requiredPattern, h.optionalPattern⟩

end Parts

/-! ## Packages -/

namespace Registry

/-- A package resolves when it was merged before or the registry has it. -/
theorem resolves_mergePackage (registry : Registry) (name : String) :
    Resolves (registry.mergePackage name) (registry.isMerged name ∨ registry.packages.contains name) := by
  unfold mergePackage
  by_cases hmerged : registry.isMerged name
  · rw [if_pos hmerged]
    exact (Resolves.pure registry).congr (iff_of_true trivial (Or.inl hmerged))
  · rw [if_neg hmerged, or_iff_right hmerged]
    unfold FieldMap.contains
    cases registry.packages.get? name with
    | some package => exact (Resolves.pure _).congr (by simp)
    | none =>
      refine ⟨by simp, fun raised hraised => ?_⟩
      cases hraised
      trivial

/-- Packages can be merged when each is registered or has been merged before. -/
theorem resolves_mergePackages (registry : Registry) (names : List String) :
    Resolves (registry.mergePackages names).2
      (∀ name ∈ names, registry.isMerged name ∨ registry.packages.contains name) := by
  induction names generalizing registry with
  | nil => exact (Resolves.pure ()).congr (by simp)
  | cons name rest ih =>
    have hstep : (registry.mergePackages (name :: rest)).2 =
        registry.mergePackage name >>= fun merged => (merged.mergePackages rest).2 := by
      rw [mergePackages]
      cases registry.mergePackage name <;> rfl
    rw [hstep, List.forall_mem_cons]
    refine (registry.resolves_mergePackage name).bind fun merged hmerged => (ih merged).congr ?_
    -- merging the first package makes no difference for which others can be merged
    have hfirst := (registry.resolves_mergePackage name).ok_iff.1 ⟨merged, hmerged⟩
    refine forall₂_congr fun other _ => ?_
    rw [isMerged_of_mergePackage hmerged, packages_of_mergePackage hmerged]
    constructor
    · rintro ((rfl | hother) | hother)
      · exact hfirst
      · exact Or.inl hother
      · exact Or.inr hother
    · rintro (hother | hother)
      · exact Or.inl (Or.inr hother)
      · exact Or.inr hother

end Registry

/-- The packages of the profile can be merged, and then it can be resolved. -/
structure Profile.Resolvable (registry : Registry) (profile : Profile) : Prop where
  packages : ∀ name ∈ profile.packages, registry.isMerged name ∨ registry.packages.contains name
  resolvesIn : profile.ResolvesIn (registry.mergePackages profile.packages).1

end FormValidation
