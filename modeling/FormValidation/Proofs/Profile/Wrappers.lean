import Mathlib.Data.List.Induction
import FormValidation.Proofs.Classification.Classes

/-!
# Wrapped constraints

A constraint is wrapped when it is given a name, parameters, or the flag of a method. However often that is done, and in
whatever order, there is one layer around the constraint, with what was given last (`ConstraintSpec.wrapped_eq`). The
name that a constraint declares, through any layers, is the one that it keeps when it is compiled, and the one under
which a rejection is reported, unless the call of a method chooses another.
-/

set_option autoImplicit false

namespace FormValidation

namespace ConstraintSpec

/-- The constraint has no layer around it. Names, texts of a profile, regular expressions, conditions, methods and
functions all make such constraints. -/
def IsBase : ConstraintSpec → Prop
  | structured _ _ _ _ => False
  | _ => True

/-- What a text of a profile stands for is not wrapped. -/
theorem isBase_parse (text : String) : (parse text).IsBase := by
  unfold parse
  split <;> trivial

/-- A base is no wrapped constraint. -/
theorem IsBase.ne_structured {base inner : ConstraintSpec} (h : base.IsBase) (name : Option String)
    (params : Option (List Param)) (isMethod : Option Bool) : base ≠ structured inner name params isMethod := by
  rintro rfl
  exact h

/-! ## One wrapper -/

/-- A step of wrapping a constraint. -/
inductive Wrapper where
  | name (name : String)
  | params (params : List Param)
  | method
  deriving DecidableEq

namespace Wrapper

/-- The name that a wrapper gives. -/
def name? : Wrapper → Option String
  | name given => some given
  | _ => none

/-- The parameters that a wrapper gives. -/
def params? : Wrapper → Option (List Param)
  | params given => some given
  | _ => none

/-- The flag that a wrapper sets. -/
def flag? : Wrapper → Option Bool
  | method => some true
  | _ => none

end Wrapper

/-- The constraint with one more wrapper. -/
def wrap (spec : ConstraintSpec) : Wrapper → ConstraintSpec
  | .name given => spec.withName given
  | .params given => spec.withParams given
  | .method => spec.asMethod

/-- The first wrapper puts a layer around a constraint. -/
theorem IsBase.wrap_eq {base : ConstraintSpec} (h : base.IsBase) (w : Wrapper) :
    base.wrap w = structured base w.name? w.params? w.flag? := by
  cases base with
  | structured inner name params isMethod => exact h.elim
  | named name => cases w <;> rfl
  | pattern p => cases w <;> rfl
  | callable name function => cases w <;> rfl

/-- A further wrapper only changes what it gives. -/
theorem wrap_structured (base : ConstraintSpec) (name : Option String) (params : Option (List Param))
    (isMethod : Option Bool) (w : Wrapper) :
    (structured base name params isMethod).wrap w =
      structured base (w.name?.or name) (w.params?.or params) (w.flag?.or isMethod) := by
  cases w <;> rfl

/-! ## Chains of wrappers -/

/-- The constraint with the wrappers of a chain, the first one innermost. -/
def wrapped (spec : ConstraintSpec) (chain : List Wrapper) : ConstraintSpec := chain.foldl wrap spec

/-- The name that a chain gives last. -/
def lastName (chain : List Wrapper) : Option String := (chain.filterMap Wrapper.name?).getLast?

/-- The parameters that a chain gives last. -/
def lastParams (chain : List Wrapper) : Option (List Param) := (chain.filterMap Wrapper.params?).getLast?

/-- The flag that is set when a chain flags a method anywhere. -/
def flagOf (chain : List Wrapper) : Option Bool := if .method ∈ chain then some true else none

section Chains

variable (chain chain' : List Wrapper) (w : Wrapper)

/-- The last wrapper of a chain is the outermost one. -/
theorem wrapped_concat (spec : ConstraintSpec) : spec.wrapped (chain ++ [w]) = (spec.wrapped chain).wrap w := by
  rw [wrapped, List.foldl_append]
  rfl

/-- The name of the last wrapper counts, if it has one. -/
theorem lastName_concat : lastName (chain ++ [w]) = w.name?.or (lastName chain) := by
  unfold lastName
  rw [List.filterMap_append, List.getLast?_append]
  cases w <;> rfl

/-- The parameters of the last wrapper count, if it has any. -/
theorem lastParams_concat : lastParams (chain ++ [w]) = w.params?.or (lastParams chain) := by
  unfold lastParams
  rw [List.filterMap_append, List.getLast?_append]
  cases w <;> rfl

/-- The flag of the last wrapper counts, if it has one. -/
theorem flagOf_concat : flagOf (chain ++ [w]) = w.flag?.or (flagOf chain) := by
  unfold flagOf
  cases w <;> simp [Wrapper.flag?]

variable {chain chain'}

/-- Two chains set the same flag when both flag a method or neither does. -/
theorem flagOf_eq_iff : flagOf chain = flagOf chain' ↔ (.method ∈ chain ↔ .method ∈ chain') := by
  unfold flagOf
  by_cases h : .method ∈ chain <;> by_cases h' : .method ∈ chain' <;> simp [h, h']

/-- A chain that gives neither a name nor parameters nor a flag is empty. -/
theorem eq_nil_of_gives_nothing (hname : lastName chain = none) (hparams : lastParams chain = none)
    (hmethod : .method ∉ chain) : chain = [] := by
  unfold lastName at hname
  unfold lastParams at hparams
  rw [List.getLast?_eq_none_iff, List.filterMap_eq_nil_iff] at hname hparams
  refine List.eq_nil_iff_forall_not_mem.2 fun w hw => ?_
  cases w with
  | name given => cases hname _ hw
  | params given => cases hparams _ hw
  | method => exact hmethod hw

/-- Any wrappers make one layer around the constraint as it was, with what they give last. -/
theorem IsBase.wrapped_of_ne_nil {base : ConstraintSpec} (h : base.IsBase) (hchain : chain ≠ []) :
    base.wrapped chain = structured base (lastName chain) (lastParams chain) (flagOf chain) := by
  -- what a chain gives last is read from its end, so the induction takes wrappers off there
  induction chain using List.reverseRecOn with
  | nil => exact absurd rfl hchain
  | append_singleton rest w ih =>
    rw [wrapped_concat, lastName_concat, lastParams_concat, flagOf_concat]
    by_cases hrest : rest = []
    · subst hrest
      have hfirst := h.wrap_eq w
      simpa [wrapped, lastName, lastParams, flagOf] using hfirst
    · rw [ih hrest, wrap_structured]

/-- A wrapped base is wrapped once, with the last name, the last parameters and the flag of the chain. -/
theorem IsBase.wrapped_eq {base : ConstraintSpec} (h : base.IsBase) (chain : List Wrapper) :
    base.wrapped chain =
      if chain = [] then base else structured base (lastName chain) (lastParams chain) (flagOf chain) := by
  split
  next hnil =>
    rw [hnil]
    rfl
  next hne => exact h.wrapped_of_ne_nil hne

/-- Chains are told apart by nothing but what they give last and whether they flag a method. -/
theorem IsBase.wrapped_eq_wrapped_iff {base : ConstraintSpec} (h : base.IsBase) :
    base.wrapped chain = base.wrapped chain' ↔
      lastName chain = lastName chain' ∧ lastParams chain = lastParams chain' ∧
        (.method ∈ chain ↔ .method ∈ chain') := by
  constructor
  · rw [h.wrapped_eq, h.wrapped_eq]
    by_cases hchain : chain = [] <;> by_cases hchain' : chain' = []
    · simp [hchain, hchain']
    · rw [if_pos hchain, if_neg hchain']
      exact fun heq => absurd heq (h.ne_structured _ _ _)
    · rw [if_neg hchain, if_pos hchain']
      exact fun heq => absurd heq.symm (h.ne_structured _ _ _)
    · rw [if_neg hchain, if_neg hchain', structured.injEq, flagOf_eq_iff]
      exact fun heq => heq.2
  · rintro ⟨hname, hparams, hmethod⟩
    -- chains that give the same are empty together
    have hnil : chain = [] ↔ chain' = [] := by
      constructor
      · rintro rfl
        exact eq_nil_of_gives_nothing hname.symm hparams.symm fun hmem => absurd (hmethod.2 hmem) List.not_mem_nil
      · rintro rfl
        exact eq_nil_of_gives_nothing hname hparams fun hmem => absurd (hmethod.1 hmem) List.not_mem_nil
    rw [h.wrapped_eq, h.wrapped_eq, hname, hparams, flagOf_eq_iff.2 hmethod]
    simp only [hnil]

end Chains

/-- A wrapped base is declared under the last name of the chain, or else under its own. -/
theorem IsBase.declaredName_wrapped {base : ConstraintSpec} (h : base.IsBase) (chain : List Wrapper) :
    (base.wrapped chain).declaredName = (lastName chain).getD base.declaredName := by
  rw [h.wrapped_eq]
  split
  next hnil =>
    rw [hnil]
    rfl
  next => rfl

end ConstraintSpec

/-! ## Names in reports -/

/-- A name in the results of an evaluation is that of a rejection by one of the constraints that the profile has for the
field. -/
theorem exists_rejection_of_invalid {registry : Registry} {profile : Profile} {input : Source}
    {results : ValidationResults} (hok : (evaluate registry profile input).outcome = .ok results) {field : String}
    {names : List String} (hinvalid : results.invalid.get? field = some names) {name : String} (hname : name ∈ names) :
    ∃ spec ∈ (Reading.of registry profile input).constraints field, ∃ v ∈ (evaluate registry profile input).visits,
      v.field = field ∧ v.constraint = spec.declaredName ∧ v.RejectedAs name := by
  obtain ⟨prep, after, h⟩ := evaluated_of_ok hok
  obtain ⟨v, hv, rfl, hrejected⟩ := checkAll_reports h.checked hinvalid name hname
  obtain ⟨c, hc, hconstraint, -⟩ := ((Sound.of_checkAll h.checked).genuine v hv).called
  obtain ⟨spec, hspec, hcompile⟩ :=
    ConstraintPlan.exists_spec_of_mem (r := Reading.of registry profile input) h.resolved.constraints hc
  refine ⟨spec, hspec, v, ?_, rfl, ?_, hrejected⟩
  · rw [h.visits]
    exact List.mem_reverse.2 hv
  · rw [hconstraint, ConstraintSpec.name_of_compile hcompile]

namespace ConstraintSpec

/-- Wrappers merge. A constraint without a layer has at most one after any chain of wrappers, and is unchanged in it; the
layer has the name that was given last, the parameters that were given last, and the flag just when some wrapper set it.
Chains make the same constraint just when they agree in these three. And a constraint has one name: any specification
that can be compiled, however its layers are nested, is compiled under the name that it declares, and every name under
which an evaluation reports a field is the one that a constraint of the field declares, unless the rejecting call chose
another. -/
theorem wrappers_merge_under_one_name :
    (∀ base : ConstraintSpec, base.IsBase →
      (∀ chain, base.wrapped chain =
          (if chain = [] then base else structured base (lastName chain) (lastParams chain) (flagOf chain)) ∧
        (base.wrapped chain).declaredName = (lastName chain).getD base.declaredName) ∧
      ∀ chain chain', base.wrapped chain = base.wrapped chain' ↔
        lastName chain = lastName chain' ∧ lastParams chain = lastParams chain' ∧
          (.method ∈ chain ↔ .method ∈ chain')) ∧
    (∀ (registry : Registry) (spec : ConstraintSpec) (c : CompiledConstraint), spec.compile registry = .ok c →
      c.name = spec.declaredName) ∧
    ∀ (registry : Registry) (profile : Profile) (input : Source) (results : ValidationResults),
      (evaluate registry profile input).outcome = .ok results →
      ∀ field names, results.invalid.get? field = some names → ∀ name ∈ names,
        ∃ spec ∈ (Reading.of registry profile input).constraints field,
          ∃ v ∈ (evaluate registry profile input).visits,
            v.field = field ∧ v.constraint = spec.declaredName ∧ v.RejectedAs name := by
  refine ⟨fun base hbase => ⟨fun chain => ⟨hbase.wrapped_eq chain, hbase.declaredName_wrapped chain⟩,
    fun chain chain' => hbase.wrapped_eq_wrapped_iff⟩, ?_, ?_⟩
  · intro registry spec c hcompile
    exact name_of_compile hcompile
  · intro registry profile input results hok field names hinvalid name hname
    exact exists_rejection_of_invalid hok hinvalid hname

/-- A name for a constraint, given twice, with parameters and the flag of a method between. -/
def renamingChain : List Wrapper := [.name "digits", .params [.field "zip"], .method, .name "zip_code"]

/-- The same in another order, with parameters that are replaced. -/
def reorderedChain : List Wrapper := [.method, .params [.literal "0"], .name "zip_code", .params [.field "zip"]]

/-- A named layer within an unnamed one. -/
def nestedForm : ConstraintSpec :=
  structured (structured (named "zip") (some "zip_code") none none) none (some [.field "zip"]) (some true)

/-- A profile with two constraints for a field, of which the second chooses a name of its own when it rejects. -/
def renamingProfile : Profile where
  required := ["zip"]
  constraints := FieldMap.ofList [("zip", [nestedForm,
    (method fun _ _ => { outcome := .ok .rejected, renamed := some "late" }).wrapped renamingChain])]

/-- Two chains with the same last name make the same constraint of a pattern, and its failure is reported under this
name, or under the one that a call chose. -/
theorem wrappers_merge_under_one_name_zipCode :
    (parse "/^[0-9]+$/").wrapped renamingChain =
      structured (parse "/^[0-9]+$/") (some "zip_code") (some [.field "zip"]) (some true) ∧
    (parse "/^[0-9]+$/").wrapped reorderedChain = (parse "/^[0-9]+$/").wrapped renamingChain ∧
    (∃ c, nestedForm.compile (Registry.builtins ⟨2026, 1, 1⟩) = .ok c ∧ c.name = "zip_code") ∧
    ∃ results,
      (evaluate (Registry.builtins ⟨2026, 1, 1⟩) renamingProfile
        (.texts (FieldMap.ofList [("zip", "x")]))).outcome = .ok results ∧
      results.invalid.get? "zip" = some ["zip_code", "late"] ∧
      ∃ v ∈ (evaluate (Registry.builtins ⟨2026, 1, 1⟩) renamingProfile
        (.texts (FieldMap.ofList [("zip", "x")]))).visits, v.field = "zip" ∧ v.RejectedAs "late" := by
  obtain ⟨hwrapped, hcompiled, hreported⟩ := wrappers_merge_under_one_name
  obtain ⟨hform, hsame⟩ := hwrapped (parse "/^[0-9]+$/") (isBase_parse _)
  refine ⟨(hform renamingChain).1, (hsame reorderedChain renamingChain).2 (by decide), ?_, ?_⟩
  · obtain ⟨c, hc⟩ : ∃ c, nestedForm.compile (Registry.builtins ⟨2026, 1, 1⟩) = .ok c := ⟨_, rfl⟩
    exact ⟨c, hc, hcompiled _ _ _ hc⟩
  · have hends : ((evaluate (Registry.builtins ⟨2026, 1, 1⟩) renamingProfile
        (.texts (FieldMap.ofList [("zip", "x")]))).outcome.toOption.map fun results =>
          results.invalid.get? "zip") = some (some ["zip_code", "late"]) := by decide +kernel
    cases hok : (evaluate (Registry.builtins ⟨2026, 1, 1⟩) renamingProfile
        (.texts (FieldMap.ofList [("zip", "x")]))).outcome with
    | error fault =>
      rw [hok] at hends
      cases hends
    | ok results =>
      rw [hok] at hends
      have hinvalid : results.invalid.get? "zip" = some ["zip_code", "late"] := Option.some.inj hends
      obtain ⟨spec, -, v, hv, hfield, -, hrejected⟩ :=
        hreported _ _ _ results hok "zip" _ hinvalid "late" (by decide)
      exact ⟨results, rfl, hinvalid, v, hv, hfield, hrejected⟩

end ConstraintSpec

end FormValidation
