import FormValidation.Evaluation.Evaluate
import FormValidation.Proofs.FieldMap

/-!
# What a profile refers to

An evaluation first replaces every name and every pattern of a profile by the function or the regular expression it
refers to. Here the result is tied to the profile as it was written: a pattern of the profile covers the names that its
expression matches, and a list of specifications is resolved item by item, also when it is put together from the rules
whose patterns cover a name.
-/

set_option autoImplicit false

namespace FormValidation

/-- Whether a pattern can be compiled and matches a name. -/
def FieldPattern.covers (pattern : FieldPattern) (name : String) : Bool :=
  match pattern.compile with
  | .error _ => false
  | .ok regex => regex.isMatch name

/-- A pattern covers the names that the expression matches which it was compiled to. -/
theorem FieldPattern.covers_of_resolve {pattern : FieldPattern} {regex : Regex} (h : pattern.resolve = .ok regex)
    (name : String) : pattern.covers name = regex.isMatch name := by
  unfold resolve at h
  unfold covers
  cases hcompile : pattern.compile with
  | error fault => simp [hcompile] at h
  | ok compiled =>
    simp only [hcompile, Except.ok.injEq] at h
    rw [h]

/-- A pattern that may be left out covers what its expression matches. -/
theorem Preparation.covers_of_resolvePattern {pattern : Option FieldPattern} {regex : Option Regex}
    (h : resolvePattern pattern = .ok regex) (name : String) :
    (∃ p, pattern = some p ∧ p.covers name) ↔ ∃ r, regex = some r ∧ r.isMatch name := by
  cases pattern with
  | none =>
    simp only [resolvePattern, Except.ok.injEq] at h
    simp [← h]
  | some p =>
    unfold resolvePattern at h
    cases hresolve : p.resolve with
    | error fault => simp [hresolve] at h
    | ok r =>
      simp only [hresolve, Except.ok.injEq] at h
      simp [← h, FieldPattern.covers_of_resolve hresolve]

/-! ## Rules for the names that patterns match -/

section Rules

variable {α β : Type}

/-- What the rules say whose patterns cover a name, in their order. -/
def declaredFor (rules : List (FieldPattern × List α)) (name : String) : List α :=
  (rules.filter fun rule => rule.1.covers name).flatMap (·.2)

/-- What the rules say whose expressions match a name, in their order. -/
def matchedFor (rules : List (Regex × List α)) (name : String) : List α :=
  (rules.filter fun rule => rule.1.isMatch name).flatMap (·.2)

/-- Without rules there is nothing for a name. -/
@[simp] theorem matchedFor_nil (name : String) : matchedFor ([] : List (Regex × List α)) name = [] := rfl

/-- A rule gives its items for the names it matches, before what the rules behind it give. -/
theorem matchedFor_cons (rule : Regex × List α) (rest : List (Regex × List α)) (name : String) :
    matchedFor (rule :: rest) name = (if rule.1.isMatch name then rule.2 else []) ++ matchedFor rest name := by
  unfold matchedFor
  by_cases h : rule.1.isMatch name <;> simp [h]

/-- What two lists of rules declare for a name one after the other. -/
theorem declaredFor_append (rules more : List (FieldPattern × List α)) (name : String) :
    declaredFor (rules ++ more) name = declaredFor rules name ++ declaredFor more name := by
  simp [declaredFor]

/-- Rules that were resolved one by one say, for every name, the resolved items of what they said before. -/
theorem forall₂_matchedFor {R : α → β → Prop} {rules : List (FieldPattern × List α)}
    {resolved : List (Regex × List β)}
    (h : List.Forall₂ (fun a b => a.1.resolve = .ok b.1 ∧ List.Forall₂ R a.2 b.2) rules resolved) (name : String) :
    List.Forall₂ R (declaredFor rules name) (matchedFor resolved name) := by
  unfold declaredFor matchedFor
  induction h with
  | nil => exact List.Forall₂.nil
  | @cons a b rules resolved hab _ ih =>
    have hcovers := FieldPattern.covers_of_resolve hab.1 name
    rw [List.filter_cons, List.filter_cons, hcovers]
    by_cases hmatch : b.1.isMatch name
    · simp only [hmatch, if_true, List.flatMap_cons]
      exact List.rel_append hab.2 ih
    · simp only [hmatch, Bool.false_eq_true, if_false]
      exact ih

/-- The step that resolves a rule gives its expression and the resolved items. -/
theorem forall₂_rules_of_mapM {step : List α → Except Fault (List β)} {R : α → β → Prop}
    (hstep : ∀ items results, step items = .ok results → List.Forall₂ R items results)
    {rules : List (FieldPattern × List α)} {resolved : List (Regex × List β)}
    (h : (rules.mapM fun e => do
      let regex ← e.1.resolve
      let items ← step e.2
      return (regex, items)) = .ok resolved) :
    List.Forall₂ (fun a b => a.1.resolve = .ok b.1 ∧ List.Forall₂ R a.2 b.2) rules resolved := by
  refine (Outcome.mapM_eq_ok_iff.1 h).imp fun a b hab => ?_
  obtain ⟨regex, hregex, hrest⟩ := Outcome.bind_eq_ok_iff.1 hab
  obtain ⟨items, hitems, rfl⟩ := Outcome.map_eq_ok_iff.1 hrest
  exact ⟨hregex, hstep _ _ hitems⟩

/-- Lists resolved name by name are resolved at every name. -/
theorem forall₂_listAt_of_mapE {step : List α → Except Fault (List β)} {R : α → β → Prop}
    (hstep : ∀ items results, step items = .ok results → List.Forall₂ R items results)
    {lists : FieldMap (List α)} {resolved : FieldMap (List β)}
    (h : (lists.mapE fun _ items => step items) = .ok resolved) (name : String) :
    List.Forall₂ R (lists.listAt name) (resolved.listAt name) := by
  unfold FieldMap.listAt
  rcases FieldMap.get?_of_mapE h name with ⟨hnone, hnone'⟩ | ⟨a, b, ha, hb, hab⟩
  · rw [hnone, hnone']
    exact List.Forall₂.nil
  · rw [ha, hb]
    exact hstep a b hab

end Rules

/-! ## Filters -/

/-- The text that a filter makes of a text; one that is not registered leaves it. -/
def FilterSpec.run (registry : Registry) (spec : FilterSpec) (text : String) : String :=
  match spec.resolve registry with
  | .error _ => text
  | .ok run => run text

/-- The specifications that a list of filters was looked up from. -/
def FilterPlan.Resolved (registry : Registry) (specs : List FilterSpec) (filters : List TextFilter) : Prop :=
  List.Forall₂ (fun spec filter => spec.resolve registry = .ok filter) specs filters

/-- Filters that were looked up do what their specifications say, one after the other. -/
theorem FilterPlan.Resolved.runOn_eq {registry : Registry} {specs : List FilterSpec} {filters : List TextFilter}
    (h : Resolved registry specs filters) (text : String) :
    runOn filters text = specs.foldl (fun t spec => spec.run registry t) text := by
  unfold runOn
  induction h generalizing text with
  | nil => rfl
  | @cons spec filter specs filters hspec _ ih =>
    have hrun : spec.run registry text = filter text := by
      simp [FilterSpec.run, hspec]
    rw [List.foldl_cons, List.foldl_cons, ih, hrun]

/-- Filters that were looked up are those that their specifications stand for. -/
theorem FilterPlan.resolved_of_resolveAll {registry : Registry} {specs : List FilterSpec} {filters : List TextFilter}
    (h : resolveAll registry specs = .ok filters) : Resolved registry specs filters :=
  Outcome.mapM_eq_ok_iff.1 h

end FormValidation
