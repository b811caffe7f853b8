import FormValidation.Proofs.Classification.Reading

/-!
# The constraints that are attached to a field

A plan of constraints is compiled from the specifications of a profile and expanded for the fields that are present.
Here the result is tied to the profile: a present field is checked by the constraints that are written for it and
behind them by those for the patterns that cover it, each compiled, in the order in which they are written.
-/

set_option autoImplicit false

namespace FormValidation

/-- The constraints that the profile has for a field: those written for the field itself, then those for the patterns
that cover its name. -/
def Reading.constraints (r : Reading) (field : String) : List ConstraintSpec :=
  r.profile.constraints.listAt field ++ declaredFor r.profile.patternConstraints field

/-- Where a profile has a constraint for one field and none for patterns, it has no other constraint. -/
theorem Reading.eq_of_mem_constraints {r : Reading} {name : String} {only : ConstraintSpec}
    (hfields : r.profile.constraints = FieldMap.ofList [(name, [only])]) (hrules : r.profile.patternConstraints = [])
    {field : String} {spec : ConstraintSpec} (h : spec ∈ r.constraints field) : spec = only := by
  unfold constraints at h
  rw [hfields, hrules] at h
  have hown : spec ∈ (FieldMap.ofList [(name, [only])]).listAt field := by
    simpa [declaredFor] using h
  unfold FieldMap.listAt at hown
  cases hspecs : (FieldMap.ofList [(name, [only])]).get? field with
  | none => simp [hspecs] at hown
  | some specs =>
    have hentry := FieldMap.mem_of_get?_ofList hspecs
    simp only [List.mem_singleton, Prod.mk.injEq] at hentry
    simpa [hspecs, hentry.2] using hown

namespace ConstraintSpec

variable {registry : Registry} {c : CompiledConstraint}

/-! ## Compiling a specification -/

/-- A named constraint compiles exactly when the registry has a function under the name. -/
theorem compile_named_eq_ok_iff {name : String} :
    (named name).compile registry = .ok c ↔
      ∃ function, registry.constraint name = .ok function ∧ ⟨name, .ofFunction function, none⟩ = c := by
  rw [compile]
  cases registry.constraint name <;> simp

/-- A pattern compiles exactly when it can be read as a regular expression. -/
theorem compile_pattern_eq_ok_iff {p : FieldPattern} :
    (pattern p).compile registry = .ok c ↔
      ∃ regex, p.resolve = .ok regex ∧ ⟨p.source, .pattern regex, none⟩ = c := by
  rw [compile]
  cases p.resolve <;> simp

/-- A function compiles to itself, under its own name or the general one. -/
theorem compile_callable_eq_ok_iff {name : Option String} {function : ConstraintFunction} :
    (callable name function).compile registry = .ok c ↔
      ⟨name.getD anonymousConstraint, .ofFunction function, none⟩ = c := by
  rw [compile, Except.ok.injEq]

/-- A wrapped constraint compiles when its base does, with its own name and parameters where it has them. -/
theorem compile_structured_eq_ok_iff {base : ConstraintSpec} {name : Option String} {params : Option (List Param)}
    {isMethod : Option Bool} :
    (structured base name params isMethod).compile registry = .ok c ↔
      ∃ inner, base.compile registry = .ok inner ∧
        ⟨name.getD inner.name, inner.callable, params.or inner.params⟩ = c := by
  rw [compile]
  cases base.compile registry <;> simp

/-- A compiled constraint reports its failures under the name that was declared. -/
theorem name_of_compile {spec : ConstraintSpec} (h : spec.compile registry = .ok c) : c.name = spec.declaredName := by
  induction spec generalizing c with
  | named name =>
    obtain ⟨function, -, rfl⟩ := compile_named_eq_ok_iff.1 h
    rfl
  | pattern p =>
    obtain ⟨regex, -, rfl⟩ := compile_pattern_eq_ok_iff.1 h
    rfl
  | callable name function =>
    cases compile_callable_eq_ok_iff.1 h
    rfl
  | structured base name params isMethod ih =>
    obtain ⟨inner, hinner, rfl⟩ := compile_structured_eq_ok_iff.1 h
    show name.getD inner.name = name.getD base.declaredName
    rw [ih hinner]

end ConstraintSpec

/-! ## Expanding a plan -/

namespace ConstraintPlan

/-- Putting a list behind those of several names lengthens the lists of these names. -/
theorem listAt_foldl_extendAt {α : Type} {names : List String} (h : names.Nodup) (items : List α)
    (m : FieldMap (List α)) (other : String) :
    (names.foldl (fun acc name => acc.extendAt name items) m).listAt other =
      m.listAt other ++ if other ∈ names then items else [] := by
  induction names generalizing m with
  | nil => simp
  | cons name rest ih =>
    obtain ⟨hnew, hrest⟩ := List.nodup_cons.1 h
    rw [List.foldl_cons, ih hrest, FieldMap.listAt_extendAt, List.append_assoc]
    by_cases heq : name = other
    · subst heq
      simp [hnew]
    · have hne : ¬ other = name := fun e => heq e.symm
      simp [heq, hne]

/-- A pattern attaches its constraints to the present fields that it matches. -/
theorem listAt_attach (fields : Record) (attached : FieldMap (List CompiledConstraint))
    (e : Regex × List CompiledConstraint) (field : String) :
    (attach fields attached e).listAt field =
      attached.listAt field ++ if fields.contains field then matchedFor [e] field else [] := by
  have hnodup : (e.1.matchingNames fields.keys).Nodup := fields.nodup_keys.filter _
  unfold attach
  rw [listAt_foldl_extendAt hnodup]
  congr 1
  simp only [Regex.matchingNames, List.mem_filter, FieldMap.mem_keys_iff, matchedFor_cons, matchedFor_nil,
    List.append_nil]
  by_cases hfield : fields.contains field <;> simp [hfield]

/-- A present field has its own constraints and those for the patterns that match it; a field that is not present has
its own only. -/
theorem listAt_expand (plan : ConstraintPlan) (fields : Record) (field : String) :
    (plan.expand fields).listAt field =
      plan.byField.listAt field ++ if fields.contains field then matchedFor plan.byPattern field else [] := by
  have hfold : ∀ (rules : List (Regex × List CompiledConstraint)) (attached : FieldMap (List CompiledConstraint)),
      (rules.foldl (attach fields) attached).listAt field =
        attached.listAt field ++ if fields.contains field then matchedFor rules field else [] := by
    intro rules
    induction rules with
    | nil => simp
    | cons rule rest ih =>
      intro attached
      rw [List.foldl_cons, ih, listAt_attach, List.append_assoc, matchedFor_cons rule rest, matchedFor_cons rule []]
      by_cases hfield : fields.contains field <;> simp [hfield]
  exact hfold plan.byPattern plan.byField

/-- The constraints of a field are compiled, one by one, from those that the profile has for it; those for patterns are
left out when the field is not present. -/
theorem forall₂_listAt_expand {r : Reading} {plan : ConstraintPlan} (h : ofProfile r.registry r.profile = .ok plan)
    (fields : Record) (field : String) :
    List.Forall₂ (fun spec c => spec.compile r.registry = .ok c)
      (r.profile.constraints.listAt field ++
        if fields.contains field then declaredFor r.profile.patternConstraints field else [])
      ((plan.expand fields).listAt field) := by
  obtain ⟨byField, hbyField, h⟩ := Outcome.bind_eq_ok_iff.1 h
  obtain ⟨byPattern, hbyPattern, rfl⟩ := Outcome.map_eq_ok_iff.1 h
  have hcompile : ∀ specs constraints, compileAll r.registry specs = .ok constraints →
      List.Forall₂ (fun spec c => spec.compile r.registry = .ok c) specs constraints :=
    fun specs constraints hspecs => Outcome.mapM_eq_ok_iff.1 hspecs
  rw [listAt_expand]
  refine List.rel_append ?_ ?_
  · exact forall₂_listAt_of_mapE hcompile hbyField field
  · by_cases hpresent : fields.contains field
    · rw [if_pos hpresent, if_pos hpresent]
      exact forall₂_matchedFor (forall₂_rules_of_mapM hcompile hbyPattern) field
    · rw [if_neg hpresent, if_neg hpresent]
      exact List.Forall₂.nil

/-- Every constraint that is attached to a field is compiled from one that the profile has for it. -/
theorem exists_spec_of_mem {r : Reading} {plan : ConstraintPlan} (h : ofProfile r.registry r.profile = .ok plan)
    {fields : Record} {field : String} {c : CompiledConstraint} (hc : c ∈ (plan.expand fields).listAt field) :
    ∃ spec ∈ r.constraints field, spec.compile r.registry = .ok c := by
  obtain ⟨spec, hspec, hcompile⟩ := Outcome.exists_of_forall₂_of_mem (forall₂_listAt_expand h fields field) hc
  refine ⟨spec, ?_, hcompile⟩
  unfold Reading.constraints
  rcases List.mem_append.1 hspec with hown | hpattern
  · exact List.mem_append_left _ hown
  · split at hpattern
    · exact List.mem_append_right _ hpattern
    · simp at hpattern

end ConstraintPlan

end FormValidation
