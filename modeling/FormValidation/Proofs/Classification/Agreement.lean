import FormValidation.Proofs.Classification.Reading
import Mathlib.Tactic.ByContra

/-!
# Classifying agrees with the reading of a profile

Filtering, resolving requirements, dropping empty values, setting unknown fields apart, putting defaults in and
computing missing fields are steps of one computation, `Preparation.classify`. Each section takes one of these steps and
says what it does to one field; together they show that the computation ends with just the fields, values and sets that
the profile says (`stands_iff`, `unknown_iff`, `missing_iff`).
-/

set_option autoImplicit false

namespace FormValidation

/-! ## What a preparation was resolved from -/

/-- A preparation holds what the parts of its profile are resolved to, one by one. -/
structure Preparation.ResolvedFrom (registry : Registry) (profile : Profile) (prep : Preparation) : Prop where
  messages : Messages.checkConfig profile.messages = .ok ()
  constraints : ConstraintPlan.ofProfile registry profile = .ok prep.constraints
  untaint : UntaintPolicy.ofProfile profile = .ok prep.untaint
  filters : FilterPlan.ofProfile registry profile = .ok prep.filters
  requiredPattern : Preparation.resolvePattern profile.requiredPattern = .ok prep.requiredPattern
  optionalPattern : Preparation.resolvePattern profile.optionalPattern = .ok prep.optionalPattern

/-- A preparation that was made for a profile holds what its parts are resolved to. -/
theorem Preparation.resolvedFrom_of_ofProfile {registry : Registry} {profile : Profile} {prep : Preparation}
    (h : ofProfile registry profile = .ok prep) : ResolvedFrom registry profile prep := by
  unfold ofProfile at h
  obtain ⟨⟨⟩, hmessages, h⟩ := Outcome.bind_eq_ok_iff.1 h
  obtain ⟨constraints, hconstraints, h⟩ := Outcome.bind_eq_ok_iff.1 h
  obtain ⟨untaint, huntaint, h⟩ := Outcome.bind_eq_ok_iff.1 h
  obtain ⟨filters, hfilters, h⟩ := Outcome.bind_eq_ok_iff.1 h
  obtain ⟨requiredPattern, hrequired, h⟩ := Outcome.bind_eq_ok_iff.1 h
  obtain ⟨optionalPattern, hoptional, rfl⟩ := Outcome.map_eq_ok_iff.1 h
  exact ⟨hmessages, hconstraints, huntaint, hfilters, hrequired, hoptional⟩

/-- A resolved policy untaints the fields that the profile says. -/
theorem UntaintPolicy.applies_iff {profile : Profile} {policy : UntaintPolicy} (h : ofProfile profile = .ok policy)
    (registry : Registry) (submitted : Record) (field : String) :
    policy.applies field ↔ (Reading.mk registry profile submitted).Untainted field := by
  obtain ⟨patterns, hpatterns, rfl⟩ := Outcome.map_eq_ok_iff.1 h
  have hall := Outcome.mapM_eq_ok_iff.1 hpatterns
  have hany : (patterns.any fun regex => regex.isMatch field) =
      profile.untaintPatterns.any fun pattern => pattern.covers field := by
    clear hpatterns h
    generalize profile.untaintPatterns = written at hall
    induction hall with
    | nil => rfl
    | cons hresolve _ ih => rw [List.any_cons, List.any_cons, ih, FieldPattern.covers_of_resolve hresolve]
  simp [applies, Reading.Untainted, hany, or_assoc]

/-! ## Filtering -/

namespace FilterPlan

/-- Two lists of filters run one after the other. -/
theorem run_append (filters more : List TextFilter) (value : FieldValue) :
    run (filters ++ more) value = run more (run filters value) := by
  unfold run
  rw [FieldValue.map_map]
  congr 1
  funext text
  exact List.foldl_append

/-- Without filters a value stays as it is. -/
theorem run_nil : run [] = id := by
  have hkeep : runOn [] = id := rfl
  funext value
  cases value <;> simp [run, FieldValue.map, hkeep]

/-- Filters that run on some fields are applied to the values of these and leave the others. -/
theorem get?_runWhere (holds : String → Bool) (filters : List TextFilter) (fields : Record) (name : String) :
    (runWhere holds filters fields).get? name =
      (fields.get? name).map (run (if holds name then filters else [])) := by
  unfold runWhere
  rw [FieldMap.get?_mapWithKey]
  by_cases h : holds name
  · simp [h]
  · simp [h, run_nil]

/-- The filters by field reach each field with those of its own. -/
theorem get?_runByField {rules : List (String × List TextFilter)} (h : rules.Pairwise (fun a b => a.1 < b.1))
    (fields : Record) (name : String) :
    (rules.foldl (fun acc e => runWhere (fun n => n == e.1) e.2 acc) fields).get? name =
      (fields.get? name).map (run ((FieldMap.lookup name rules).getD [])) := by
  induction rules generalizing fields with
  | nil =>
    cases hvalue : fields.get? name <;> simp [FieldMap.lookup, hvalue, run_nil]
  | cons rule rest ih =>
    obtain ⟨hbehind, hrest⟩ := List.pairwise_cons.1 h
    rw [List.foldl_cons, ih hrest, get?_runWhere, Option.map_map]
    by_cases hname : rule.1 = name
    · have hnone : FieldMap.lookup name rest = none := FieldMap.lookup_eq_none_of_lt fun e he => hname ▸ hbehind e he
      congr 1
      funext value
      simp [FieldMap.lookup, hname, hnone, run_nil]
    · have hname' : ¬ name = rule.1 := fun e => hname e.symm
      congr 1
      funext value
      simp [FieldMap.lookup, hname, hname', run_nil]

/-- The filters by pattern reach each field with those whose patterns match it. -/
theorem get?_runByPattern (rules : List (Regex × List TextFilter)) (fields : Record) (name : String) :
    (rules.foldl (fun acc e => runWhere e.1.isMatch e.2 acc) fields).get? name =
      (fields.get? name).map (run (matchedFor rules name)) := by
  induction rules generalizing fields with
  | nil =>
    cases hvalue : fields.get? name <;> simp [hvalue, run_nil]
  | cons rule rest ih =>
    rw [List.foldl_cons, ih, get?_runWhere, Option.map_map]
    congr 1
    funext value
    rw [Function.comp_apply, matchedFor_cons, run_append]

/-- A plan runs one list of filters on every field: those for all fields, its own, and those of matching patterns. -/
theorem get?_apply (plan : FilterPlan) (fields : Record) (name : String) :
    (plan.apply fields).get? name =
      (fields.get? name).map (run (plan.everywhere ++ plan.byField.listAt name ++ matchedFor plan.byPattern name)) := by
  unfold apply
  rw [get?_runByPattern, get?_runByField plan.byField.ascending, FieldMap.get?_map, Option.map_map, Option.map_map]
  congr 1
  funext value
  simp only [Function.comp_apply, run_append]
  rfl

/-- The filters of a plan that are meant for a field are those that the profile says. -/
theorem resolved_filters {registry : Registry} {profile : Profile} {plan : FilterPlan}
    (h : ofProfile registry profile = .ok plan) (submitted : Record) (name : String) :
    Resolved registry ((Reading.mk registry profile submitted).filters name)
      (plan.everywhere ++ plan.byField.listAt name ++ matchedFor plan.byPattern name) := by
  obtain ⟨everywhere, heverywhere, h⟩ := Outcome.bind_eq_ok_iff.1 h
  obtain ⟨byField, hbyField, h⟩ := Outcome.bind_eq_ok_iff.1 h
  obtain ⟨byPattern, hbyPattern, rfl⟩ := Outcome.map_eq_ok_iff.1 h
  have hresolve : ∀ specs filters, resolveAll registry specs = .ok filters → Resolved registry specs filters :=
    fun specs filters hspecs => resolved_of_resolveAll hspecs
  refine List.rel_append (List.rel_append (resolved_of_resolveAll heverywhere) ?_) ?_
  · exact forall₂_listAt_of_mapE hresolve hbyField name
  · exact forall₂_matchedFor (forall₂_rules_of_mapM hresolve hbyPattern) name

/-- A plan leaves a submitted field the value that the profile says, and no other field. -/
theorem get?_apply_of_ofProfile {registry : Registry} {profile : Profile} {plan : FilterPlan}
    (h : ofProfile registry profile = .ok plan) (submitted : Record) (name : String) :
    (plan.apply submitted).get? name = (Reading.mk registry profile submitted).filtered? name := by
  have hresolved := resolved_filters h submitted name
  rw [get?_apply]
  unfold Reading.filtered? run
  congr 1
  funext value
  congr 1
  funext text
  exact hresolved.runOn_eq text

end FilterPlan

/-- Filtering leaves a submitted field the value that the profile says, and no other field. -/
theorem Preparation.ResolvedFrom.get?_filtered {registry : Registry} {profile : Profile} {prep : Preparation}
    (h : prep.ResolvedFrom registry profile) (submitted : Record) (name : String) :
    (prep.filters.apply submitted).get? name = (Reading.mk registry profile submitted).filtered? name :=
  FilterPlan.get?_apply_of_ofProfile h.filters submitted name

/-! ## Empty values -/

/-- A value is not empty exactly when one of its elements has content. -/
theorem FieldValue.isEmpty_eq_false_iff {value : FieldValue} :
    value.isEmpty = false ↔ ∃ text ∈ value.elements, text ≠ "" := by
  simp [isEmpty]

/-- A value is kept when it is neither the empty scalar nor the empty list. -/
theorem FieldValue.isStripped_eq_false_iff {value : FieldValue} :
    value.isStripped = false ↔ value ≠ .scalar "" ∧ value ≠ .list [] := by
  cases value with
  | scalar text => simp [isStripped]
  | list texts => simp [isStripped]

/-- A record without empty values has those that are neither the empty scalar nor the empty list. -/
theorem Record.get?_stripEmpty {fields : Record} {name : String} {value : FieldValue} :
    (Record.stripEmpty fields).get? name = some value ↔
      fields.get? name = some value ∧ value ≠ .scalar "" ∧ value ≠ .list [] := by
  unfold stripEmpty
  rw [FieldMap.get?_filter, Option.filter_eq_some_iff, Bool.not_eq_true', FieldValue.isStripped_eq_false_iff]

/-! ## Requirements -/

/-- The dependents that a value triggers are those that it requires. -/
theorem Dependency.mem_triggeredBy {dependency : Dependency} {value : FieldValue} {field : String} :
    field ∈ dependency.triggeredBy value ↔ dependency.Requires value field := by
  cases dependency with
  | fields names =>
    constructor
    · exact fun h => Requires.fields h
    · rintro ⟨h⟩
      exact h
  | byValue names =>
    constructor
    · intro h
      simp only [triggeredBy, List.mem_flatten, FieldMap.mem_values_iff, FieldMap.get?_filter,
        Option.filter_eq_some_iff] at h
      obtain ⟨listed, ⟨key, hkey, helement⟩, hfield⟩ := h
      exact Requires.byValue hkey (by simpa [FieldValue.contains] using helement) hfield
    · intro h
      cases h with
      | byValue hkey helement hfield =>
        simp only [triggeredBy, List.mem_flatten, FieldMap.mem_values_iff, FieldMap.get?_filter,
          Option.filter_eq_some_iff]
        exact ⟨_, ⟨_, hkey, by simpa [FieldValue.contains] using helement⟩, hfield⟩
  | computed names =>
    constructor
    · exact fun h => Requires.computed h
    · rintro ⟨⟩
      assumption

namespace Requirements

/-- The names that a pattern matches are present ones. -/
theorem mem_matching {pattern : Option Regex} {fields : Record} {field : String} :
    field ∈ matching pattern fields.keys ↔
      fields.contains field ∧ ∃ regex, pattern = some regex ∧ regex.isMatch field := by
  cases pattern with
  | none => simp [matching]
  | some regex => simp [matching, Regex.matchingNames, FieldMap.mem_keys_iff]

/-- A dependency requires fields when its trigger is present with some content. -/
theorem mem_dependents {fields : Record} {trigger : String} {dependency : Dependency} {field : String} :
    field ∈ dependents fields trigger dependency ↔
      ∃ value, fields.get? trigger = some value ∧ (∃ text ∈ value.elements, text ≠ "") ∧
        dependency.Requires value field := by
  unfold dependents
  cases hvalue : fields.get? trigger with
  | none => simp
  | some value =>
    have hfilled : value.isEmpty = false ↔ ∃ text ∈ value.elements, text ≠ "" := FieldValue.isEmpty_eq_false_iff
    cases hempty : value.isEmpty with
    | true =>
      rw [hempty] at hfilled
      simp only [Bool.true_eq_false, false_iff] at hfilled
      simp [hempty, hfilled]
    | false =>
      have hcontent := hfilled.1 hempty
      simp only [hempty, Bool.false_eq_true, if_false, Option.some.injEq]
      rw [Dependency.mem_triggeredBy]
      constructor
      · exact fun h => ⟨value, rfl, hcontent, h⟩
      · rintro ⟨_, rfl, -, h⟩
        exact h

/-- A group requires its members when one of them is present with some content. -/
theorem mem_touchedGroup {fields : Record} {members : List String} {field : String} :
    field ∈ touchedGroup fields members ↔
      field ∈ members ∧ ∃ member ∈ members, ∃ value, fields.get? member = some value ∧
        ∃ text ∈ value.elements, text ≠ "" := by
  have hcontent : ∀ member, hasContent fields member = true ↔
      ∃ value, fields.get? member = some value ∧ ∃ text ∈ value.elements, text ≠ "" := by
    intro member
    unfold hasContent
    simp only [Option.any_eq_true, Bool.not_eq_true', FieldValue.isEmpty_eq_false_iff]
  unfold touchedGroup
  split
  next h =>
    obtain ⟨member, hmember, hfilled⟩ := List.any_eq_true.1 h
    exact ⟨fun hfield => ⟨hfield, member, hmember, (hcontent member).1 hfilled⟩, fun hfield => hfield.1⟩
  next h =>
    constructor
    · intro hfield
      simp at hfield
    · rintro ⟨-, member, hmember, hfilled⟩
      exact absurd (List.any_eq_true.2 ⟨member, hmember, (hcontent member).2 hfilled⟩) h

/-- The fields that are required once dependencies and groups are followed. -/
theorem contains_required_addDependencies (profile : Profile) (fields : Record) (r : Requirements) (field : String) :
    (r.addDependencies profile fields).required.contains field ↔
      r.required.contains field ∨
      (∃ trigger dependency, profile.dependencies.get? trigger = some dependency ∧
        field ∈ dependents fields trigger dependency) ∨
      ∃ group members, profile.dependencyGroups.get? group = some members ∧ field ∈ touchedGroup fields members := by
  unfold addDependencies
  simp only [NameSet.contains_addAll, Bool.or_eq_true, decide_eq_true_eq, List.mem_flatMap, FieldMap.mem_values_iff]
  constructor
  · rintro (⟨members, ⟨group, hgroup⟩, hfield⟩ | ⟨⟨trigger, dependency⟩, hmem, hfield⟩ | hfield)
    · exact Or.inr (Or.inr ⟨group, members, hgroup, hfield⟩)
    · exact Or.inr (Or.inl ⟨trigger, dependency, (FieldMap.mem_entries_iff _ _ _).1 hmem, hfield⟩)
    · exact Or.inl hfield
  · rintro (hfield | ⟨trigger, dependency, hget, hfield⟩ | ⟨group, members, hgroup, hfield⟩)
    · exact Or.inr (Or.inr hfield)
    · exact Or.inr (Or.inl ⟨(trigger, dependency), (FieldMap.mem_entries_iff _ _ _).2 hget, hfield⟩)
    · exact Or.inl ⟨members, ⟨group, hgroup⟩, hfield⟩

/-- A name is missing when it is required and absent, or names a group of which too few members are present. -/
theorem contains_missing {profile : Profile} {r : Requirements} {fields : Record} {name : String} :
    (missing profile r fields).contains name ↔
      (r.required.contains name ∧ ¬ fields.contains name) ∨
        ∃ spec, profile.requireSome.get? name = some spec ∧ lacks fields spec := by
  unfold missing
  rw [NameSet.contains_addAll, Bool.or_eq_true, or_comm, NameSet.contains_ofList]
  refine or_congr ?_ ?_
  · rw [decide_eq_true_eq, List.mem_filter, FieldMap.mem_keys_iff, Bool.not_eq_true', Bool.not_eq_true]
  · rw [decide_eq_true_eq, FieldMap.mem_keys_iff, FieldMap.contains_iff]
    refine exists_congr fun spec => ?_
    rw [FieldMap.get?_filter, Option.filter_eq_some_iff]

end Requirements

/-! ## Defaults -/

/-- Defaults are put in for the fields that are absent and not unknown. -/
theorem Record.get?_withDefaults (fields defaults : Record) (unknown : NameSet) (name : String) :
    (Record.withDefaults fields defaults unknown).get? name =
      (fields.get? name).or (if unknown.contains name then none else defaults.get? name) := by
  have hfold : ∀ (l : List (String × FieldValue)), l.Pairwise (fun a b => a.1 < b.1) → ∀ fields : Record,
      (l.foldl (fun acc e => if acc.contains e.1 || unknown.contains e.1 then acc else acc.insert e.1 e.2)
        fields).get? name =
      (fields.get? name).or (if unknown.contains name then none else FieldMap.lookup name l) := by
    intro l hl
    induction l with
    | nil => simp [FieldMap.lookup]
    | cons head rest ih =>
      intro fields
      obtain ⟨hhead, hrest⟩ := List.pairwise_cons.1 hl
      rw [List.foldl_cons, ih hrest]
      by_cases hname : head.1 = name
      · have hnone : FieldMap.lookup name rest = none := FieldMap.lookup_eq_none_of_lt fun e he => hname ▸ hhead e he
        cases hvalue : fields.get? name with
        | none =>
          have habsent : fields.contains name = false := by
            simp [FieldMap.contains, hvalue]
          by_cases hunknown : unknown.contains name
          · simp [hname, hunknown, hvalue]
          · simp [hname, habsent, hunknown, hnone, FieldMap.get?_insert, FieldMap.lookup]
        | some value =>
          have hpresent : fields.contains name := FieldMap.contains_of_get? hvalue
          simp [hname, hpresent, hvalue]
      · split
        · simp [FieldMap.lookup, hname]
        · simp [FieldMap.lookup, hname, FieldMap.get?_insert]
  exact hfold defaults.entries defaults.ascending fields

/-! ## The whole classification -/

namespace Preparation.ResolvedFrom

variable {r : Reading} {prep : Preparation}

/-- Filtering keeps the submitted fields. -/
theorem contains_filtered (h : prep.ResolvedFrom r.registry r.profile) (field : String) :
    (prep.filters.apply r.submitted).contains field = r.submitted.contains field := by
  unfold FieldMap.contains
  rw [h.get?_filtered]
  exact Option.isSome_map

/-- What is present after filtering is what stays. -/
theorem get?_present (h : prep.ResolvedFrom r.registry r.profile) {field : String} {value : FieldValue} :
    (Record.stripEmpty (prep.filters.apply r.submitted)).get? field = some value ↔ r.Stays field value := by
  rw [Record.get?_stripEmpty, h.get?_filtered]
  rfl

/-- The optional fields of the classification are those that the profile says. -/
theorem optional_iff (h : prep.ResolvedFrom r.registry r.profile) (field : String) :
    (prep.classify r.profile r.submitted).requirements.optional.contains field ↔ r.Optional field := by
  have hpattern := covers_of_resolvePattern h.optionalPattern field
  simp only [classify, Requirements.addDependencies, Requirements.declare, NameSet.contains_addAll,
    NameSet.contains_ofList, Bool.or_eq_true, decide_eq_true_eq, Requirements.mem_matching]
  rw [h.contains_filtered, ← hpattern]
  constructor
  · rintro (⟨hsubmitted, p, hp, hcovers⟩ | hdeclared)
    · exact Reading.Optional.pattern hp hsubmitted hcovers
    · exact Reading.Optional.declared hdeclared
  · intro hoptional
    cases hoptional with
    | declared hdeclared => exact Or.inr hdeclared
    | pattern hp hsubmitted hcovers => exact Or.inl ⟨hsubmitted, _, hp, hcovers⟩

/-- The required fields of the classification are those that the profile says. -/
theorem required_iff (h : prep.ResolvedFrom r.registry r.profile) (field : String) :
    (prep.classify r.profile r.submitted).requirements.required.contains field ↔ r.Required field := by
  have hpattern := covers_of_resolvePattern h.requiredPattern field
  unfold classify
  rw [Requirements.contains_required_addDependencies]
  simp only [Requirements.declare, NameSet.contains_addAll, NameSet.contains_ofList, Bool.or_eq_true,
    decide_eq_true_eq, Requirements.mem_matching, Requirements.mem_dependents, Requirements.mem_touchedGroup,
    h.get?_present]
  rw [h.contains_filtered, ← hpattern]
  constructor
  · rintro ((⟨hsubmitted, p, hp, hcovers⟩ | hdeclared) |
      ⟨trigger, dependency, hget, value, hstays, hcontent, hrequires⟩ |
      ⟨group, members, hget, hfield, member, hmember, value, hstays, hcontent⟩)
    · exact Reading.Required.pattern hp hsubmitted hcovers
    · exact Reading.Required.declared hdeclared
    · exact Reading.Required.dependent hget ⟨hstays, hcontent⟩ hrequires
    · exact Reading.Required.grouped hget hmember ⟨hstays, hcontent⟩ hfield
  · intro hrequired
    cases hrequired with
    | declared hdeclared => exact Or.inl (Or.inr hdeclared)
    | pattern hp hsubmitted hcovers => exact Or.inl (Or.inl ⟨hsubmitted, _, hp, hcovers⟩)
    | dependent hget hfilled hrequires =>
      exact Or.inr (Or.inl ⟨_, _, hget, _, hfilled.1, hfilled.2, hrequires⟩)
    | grouped hget hmember hfilled hfield =>
      exact Or.inr (Or.inr ⟨_, _, hget, hfield, _, hmember, _, hfilled.1, hfilled.2⟩)

/-- The known fields of the classification are those that the profile says. -/
theorem isKnown_iff (h : prep.ResolvedFrom r.registry r.profile) (field : String) :
    (prep.classify r.profile r.submitted).requirements.isKnown field ↔ r.Known field := by
  have hmembers : (prep.classify r.profile r.submitted).requirements.members.contains field ↔ r.Member field := by
    simp only [classify, Requirements.addDependencies, Requirements.declare, NameSet.contains_ofList,
      decide_eq_true_eq, List.mem_flatMap, FieldMap.mem_values_iff]
    constructor
    · rintro ⟨spec, ⟨group, hgroup⟩, hfield⟩
      exact ⟨group, spec, hgroup, hfield⟩
    · rintro ⟨group, spec, hgroup, hfield⟩
      exact ⟨spec, ⟨group, hgroup⟩, hfield⟩
  unfold Requirements.isKnown Reading.Known
  rw [Bool.or_eq_true, Bool.or_eq_true, h.required_iff, h.optional_iff, hmembers, or_assoc]

/-- The unknown fields of the classification are those that the profile says. -/
theorem unknown_iff (h : prep.ResolvedFrom r.registry r.profile) (field : String) :
    (prep.classify r.profile r.submitted).unknown.contains field ↔ r.Unknown field := by
  have hknown := h.isKnown_iff field
  unfold Reading.Unknown
  rw [← hknown]
  simp only [classify, Record.unknown, NameSet.contains_ofList, decide_eq_true_eq, List.mem_filter,
    FieldMap.mem_keys_iff, FieldMap.contains_iff, h.get?_present, Bool.not_eq_true', Bool.not_eq_true]

/-- The values with which fields stand before constraints are those that the profile says. -/
theorem stands_iff (h : prep.ResolvedFrom r.registry r.profile) (field : String) (value : FieldValue) :
    (prep.classify r.profile r.submitted).working.get? field = some value ↔ r.Stands field value := by
  have hunknown := h.unknown_iff field
  have hknown := h.isKnown_iff field
  have hknownFields : (Record.known (prep.classify r.profile r.submitted).requirements
      (Record.stripEmpty (prep.filters.apply r.submitted))).get? field = some value ↔
        r.Stays field value ∧ r.Known field := by
    unfold Record.known
    rw [FieldMap.get?_filter, Option.filter_eq_some_iff, h.get?_present, hknown]
  have hworking : (prep.classify r.profile r.submitted).working =
      Record.withDefaults (Record.known (prep.classify r.profile r.submitted).requirements
        (Record.stripEmpty (prep.filters.apply r.submitted))) r.profile.defaults
        (prep.classify r.profile r.submitted).unknown := rfl
  rw [hworking, Record.get?_withDefaults, Option.or_eq_some_iff, hknownFields]
  constructor
  · rintro (⟨hstays, hknown'⟩ | ⟨hnone, hdefault⟩)
    · exact Reading.Stands.submitted hstays hknown'
    · split at hdefault
      · simp at hdefault
      next hnotUnknown =>
        refine Reading.Stands.default (fun v hv => ?_) hdefault
        -- a field that stays and is not unknown is known, so it would have been kept
        have hknown' : r.Known field := by
          by_contra hnot
          exact hnotUnknown (hunknown.2 ⟨⟨v, hv⟩, hnot⟩)
        have hkept : (Record.known (prep.classify r.profile r.submitted).requirements
            (Record.stripEmpty (prep.filters.apply r.submitted))).get? field = some v := by
          unfold Record.known
          rw [FieldMap.get?_filter, Option.filter_eq_some_iff, h.get?_present, hknown]
          exact ⟨hv, hknown'⟩
        rw [hnone] at hkept
        simp at hkept
  · intro hstands
    cases hstands with
    | submitted hstays hknown' => exact Or.inl ⟨hstays, hknown'⟩
    | default hgone hdefault =>
      right
      constructor
      · unfold Record.known
        rw [FieldMap.get?_filter]
        cases hvalue : (Record.stripEmpty (prep.filters.apply r.submitted)).get? field with
        | none => rfl
        | some v => exact absurd (h.get?_present.1 hvalue) (hgone v)
      · have hnot : ¬ (prep.classify r.profile r.submitted).unknown.contains field := by
          intro hcontains
          obtain ⟨⟨v, hv⟩, -⟩ := hunknown.1 hcontains
          exact hgone v hv
        rw [if_neg hnot]
        exact hdefault

/-- The fields that stand before constraints are the present ones. -/
theorem present_iff (h : prep.ResolvedFrom r.registry r.profile) (field : String) :
    (prep.classify r.profile r.submitted).working.contains field ↔ r.Present field := by
  rw [FieldMap.contains_iff]
  exact exists_congr fun value => h.stands_iff field value

/-- The groups of which too few members stand are those that the profile says. -/
theorem lacking_iff (h : prep.ResolvedFrom r.registry r.profile) (name : String) :
    (∃ spec, r.profile.requireSome.get? name = some spec ∧
      Requirements.lacks (prep.classify r.profile r.submitted).working spec) ↔ r.Lacking name := by
  classical
  unfold Reading.Lacking Requirements.lacks
  refine exists_congr fun spec => and_congr_right fun _ => ?_
  rw [decide_eq_true_eq]
  have hcount : spec.members.filter (prep.classify r.profile r.submitted).working.contains =
      spec.members.filter fun member => decide (r.Present member) := by
    refine List.filter_congr fun member _ => ?_
    rw [Bool.eq_iff_iff, decide_eq_true_eq, h.present_iff]
  rw [hcount]

/-- The missing names of the classification are those that the profile says. -/
theorem missing_iff (h : prep.ResolvedFrom r.registry r.profile) (name : String) :
    (prep.classify r.profile r.submitted).missing.contains name ↔ r.Missing name := by
  unfold Reading.Missing
  rw [← h.lacking_iff, ← h.required_iff, ← h.present_iff]
  exact Requirements.contains_missing

end Preparation.ResolvedFrom

end FormValidation
