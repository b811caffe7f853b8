import FormValidation.Proofs.Profile.Options
import FormValidation.Proofs.Checking.Failures

/-!
# The constraints of profile data

Profile data has four options with constraints: those of fields and those of patterns, each once for functions and once
for methods. Reading a profile merges the first two and puts the last two behind each other. Here it is said what data
declares for a field (`Json.constraintsFor`), in the order in which it is written and without regard to the profile;
a profile that was read from the data has the same constraints for the field, some of them flagged as methods.
-/

set_option autoImplicit false

namespace FormValidation

/-! ## What data declares -/

/-- The constraints that a value declares, none when it declares no list of them. -/
def ConstraintSpec.declaredIn (value : Json) : List ConstraintSpec :=
  match listOfJson value with
  | .ok specs => specs
  | .error _ => []

namespace Json

/-- The members of an option of profile data, by name. -/
def membersOf (data : Json) (option : String) : FieldMap Json :=
  ((data.members?.bind fun options => options.get? option).bind members?).getD FieldMap.empty

/-- The constraints that an option of profile data declares, by name. -/
def declarations (data : Json) (option : String) : FieldMap (List ConstraintSpec) :=
  (data.membersOf option).map ConstraintSpec.declaredIn

/-- The constraints that profile data declares for a field: those for the field, those for the field as methods, those
for the patterns that cover it, in the order of the texts of the patterns, and those for such patterns as methods. -/
def constraintsFor (data : Json) (field : String) : List ConstraintSpec :=
  (data.declarations "constraints").listAt field ++ (data.declarations "constraint_methods").listAt field ++
    (declaredFor (Profile.byPattern (data.declarations "constraint_regexp_map")) field ++
      declaredFor (Profile.byPattern (data.declarations "constraint_method_regexp_map")) field)

end Json

/-! ## Reading the options -/

/-- The constraints that were read are the declared ones. -/
theorem ConstraintSpec.eq_declaredIn {value : Json} {specs : List ConstraintSpec}
    (h : listOfJson value = .ok specs) : specs = declaredIn value := by
  rw [declaredIn, h]

/-- A list of methods that was read is the declared one, flagged. -/
theorem ConstraintSpec.eq_map_asMethod {value : Json} {specs : List ConstraintSpec}
    (h : methodsOfJson value = .ok specs) : specs = (declaredIn value).map asMethod := by
  obtain ⟨listed, hlisted, rfl⟩ := Outcome.map_eq_ok_iff.1 h
  rw [eq_declaredIn hlisted]

/-- Where every value was replaced by a computation that can only give one result, the map holds these results. -/
theorem FieldMap.eq_map_of_mapE {α β ε : Type} {step : α → Except ε β} {f : α → β} {m : FieldMap α} {n : FieldMap β}
    (h : (m.mapE fun _ a => step a) = .ok n) (hstep : ∀ a b, step a = .ok b → b = f a) : n = m.map f := by
  refine ext_get? fun name => ?_
  rw [get?_map]
  rcases get?_of_mapE h name with ⟨hnone, hnone'⟩ | ⟨a, b, ha, hb, hab⟩
  · rw [hnone, hnone', Option.map_none]
  · rw [ha, hb, Option.map_some, hstep a b hab]

namespace Profile

/-- An option of any members is read as it is. -/
theorem membersOf_of_mapOption {data : Json} {options m : FieldMap Json} {name : String}
    (hdata : data.members? = some options) (h : mapOption options name some = .ok m) : data.membersOf name = m := by
  rw [Json.membersOf, hdata, Option.bind_some]
  rw [mapOption_some] at h
  unfold option at h
  cases hvalue : options.get? name with
  | none =>
    simp only [hvalue, Except.ok.injEq] at h
    rw [← h]
    rfl
  | some value =>
    cases hmembers : value.members? with
    | none => simp [hvalue, hmembers, profileError] at h
    | some members =>
      simp only [hvalue, hmembers, Except.ok.injEq] at h
      rw [← h, Option.bind_some, hmembers, Option.getD_some]

/-- The constraints of an option that was read are the declared ones. -/
theorem ReadsConstraints.eq_declarations {data : Json} {options : FieldMap Json} {name : String}
    {specs : FieldMap (List ConstraintSpec)} (hdata : data.members? = some options)
    (h : ReadsConstraints options name ConstraintSpec.listOfJson specs) : specs = data.declarations name := by
  obtain ⟨values, hvalues, hspecs⟩ := h
  rw [Json.declarations, membersOf_of_mapOption hdata hvalues]
  exact FieldMap.eq_map_of_mapE hspecs fun _ _ => ConstraintSpec.eq_declaredIn

/-- The methods of an option that was read are the declared ones, flagged. -/
theorem ReadsConstraints.eq_map_declarations {data : Json} {options : FieldMap Json} {name : String}
    {specs : FieldMap (List ConstraintSpec)} (hdata : data.members? = some options)
    (h : ReadsConstraints options name ConstraintSpec.methodsOfJson specs) :
    specs = (data.declarations name).map fun listed => listed.map ConstraintSpec.asMethod := by
  obtain ⟨values, hvalues, hspecs⟩ := h
  rw [Json.declarations, membersOf_of_mapOption hdata hvalues, FieldMap.map_map]
  exact FieldMap.eq_map_of_mapE hspecs fun _ _ => ConstraintSpec.eq_map_asMethod

/-- What a profile has as constraints when it was read from data: those of fields with the methods behind them, and
those of patterns before those of patterns that are methods. -/
theorem constraints_of_ofJson {data : Json} {profile : Profile} (h : ofJson data = .ok profile) :
    profile.constraints = (data.declarations "constraints").extendAll
        ((data.declarations "constraint_methods").map fun listed => listed.map ConstraintSpec.asMethod) ∧
      profile.patternConstraints = byPattern (data.declarations "constraint_regexp_map") ++
        byPattern ((data.declarations "constraint_method_regexp_map").map
          fun listed => listed.map ConstraintSpec.asMethod) := by
  obtain ⟨options, hdata, -, hread⟩ := ofJson_eq_ok_iff.1 h
  obtain ⟨fields, methods, hfields, hmethods, hconstraints⟩ := hread.constraints
  obtain ⟨patterns, patternMethods, hpatterns, hpatternMethods, hpatternConstraints⟩ := hread.patternConstraints
  rw [hconstraints, hpatternConstraints, hfields.eq_declarations hdata, hmethods.eq_map_declarations hdata,
    hpatterns.eq_declarations hdata, hpatternMethods.eq_map_declarations hdata]
  exact ⟨rfl, rfl⟩

end Profile

/-! ## Flags -/

namespace ConstraintSpec

/-- The flag for methods does not change the declared name. -/
@[simp] theorem declaredName_asMethod (spec : ConstraintSpec) : spec.asMethod.declaredName = spec.declaredName := by
  cases spec <;> rfl

/-- The flag of a method does not change what is called. -/
theorem compile_asMethod (registry : Registry) (spec : ConstraintSpec) :
    spec.asMethod.compile registry = spec.compile registry := by
  have hlayer : ∀ base : ConstraintSpec,
      (structured base none none (some true)).compile registry = base.compile registry := by
    intro base
    rw [compile]
    cases base.compile registry <;> simp
  cases spec with
  | structured base name params isMethod => rfl
  | named name => exact hlayer _
  | pattern p => exact hlayer _
  | callable name function => exact hlayer _

/-- The flag for methods does not change which functions are called. -/
theorem CallsOnly.asMethod {registry : Registry} {P : ConstraintFunction → Prop} {spec : ConstraintSpec}
    (h : spec.CallsOnly registry P) : spec.asMethod.CallsOnly registry P := by
  cases spec <;> exact h

/-- The flag for methods does not change the parameters. -/
theorem OwnParams.asMethod {field : String} {spec : ConstraintSpec} (h : spec.OwnParams field) :
    spec.asMethod.OwnParams field := by
  cases spec with
  | structured base name params isMethod => exact h
  | named name => exact ⟨by simp, trivial⟩
  | pattern p => exact ⟨by simp, trivial⟩
  | callable name function => exact ⟨by simp, trivial⟩

end ConstraintSpec

/-- Flagged methods fail under the same names. -/
theorem failingNames_map_asMethod (registry : Registry) (field : String) (value : FieldValue)
    (specs : List ConstraintSpec) :
    failingNames registry field value (specs.map ConstraintSpec.asMethod) =
      failingNames registry field value specs := by
  have hfails : ∀ spec : ConstraintSpec,
      spec.asMethod.fails registry field value = spec.fails registry field value := by
    intro spec
    unfold ConstraintSpec.fails ConstraintSpec.rejects
    rw [ConstraintSpec.compile_asMethod]
  unfold failingNames
  rw [List.filter_map, List.map_map]
  have hfilter : (fun spec => spec.fails registry field value) ∘ ConstraintSpec.asMethod =
      fun spec => spec.fails registry field value := funext hfails
  rw [hfilter]
  exact List.map_congr_left fun spec _ => spec.declaredName_asMethod

/-! ## The constraints of a field -/

/-- Items that were all replaced are replaced in the list of each name. -/
theorem FieldMap.listAt_map {α β : Type} (f : α → β) (m : FieldMap (List α)) (name : String) :
    (m.map fun items => items.map f).listAt name = (m.listAt name).map f := by
  unfold listAt
  rw [get?_map]
  cases m.get? name <;> simp

/-- Lists whose items are replaced one by one are so for every name that their patterns cover. -/
theorem Profile.declaredFor_byPattern_map {α β : Type} (f : α → β) (m : FieldMap (List α)) (name : String) :
    declaredFor (byPattern (m.map fun items => items.map f)) name = (declaredFor (byPattern m) name).map f := by
  unfold declaredFor byPattern FieldMap.map FieldMap.mapWithKey
  rw [List.map_map]
  generalize m.entries = entries
  induction entries with
  | nil => rfl
  | cons e rest ih =>
    rw [List.map_cons, List.map_cons, List.filter_cons, List.filter_cons]
    by_cases hcovers : (FieldPattern.delimited e.1).covers name
    · simp only [Function.comp_apply, hcovers, if_true, List.flatMap_cons, List.map_append]
      rw [ih]
    · simp only [Function.comp_apply, hcovers, Bool.false_eq_true, if_false]
      exact ih

namespace Reading

variable {r : Reading} {data : Json}

/-- The constraints of a field in a profile that was read from data. -/
theorem constraints_of_ofJson (h : Profile.ofJson data = .ok r.profile) (field : String) :
    r.constraints field =
      (data.declarations "constraints").listAt field ++
        ((data.declarations "constraint_methods").listAt field).map ConstraintSpec.asMethod ++
      (declaredFor (Profile.byPattern (data.declarations "constraint_regexp_map")) field ++
        (declaredFor (Profile.byPattern (data.declarations "constraint_method_regexp_map")) field).map
          ConstraintSpec.asMethod) := by
  obtain ⟨hfields, hpatterns⟩ := Profile.constraints_of_ofJson h
  unfold constraints
  rw [hfields, hpatterns, FieldMap.listAt_extendAll, FieldMap.listAt_map, declaredFor_append,
    Profile.declaredFor_byPattern_map]

/-- A field fails under the names that the data declares. -/
theorem failingNames_of_ofJson (h : Profile.ofJson data = .ok r.profile) (registry : Registry) (field : String)
    (value : FieldValue) :
    failingNames registry field value (r.constraints field) =
      failingNames registry field value (data.constraintsFor field) := by
  rw [constraints_of_ofJson h, Json.constraintsFor]
  simp only [failingNames_append, failingNames_map_asMethod]

/-- What holds of all declared constraints of a field, also when they are flagged, holds of its constraints. -/
theorem forall_constraints_of_ofJson (h : Profile.ofJson data = .ok r.profile) {field : String}
    {P : ConstraintSpec → Prop} (hflag : ∀ spec, P spec → P spec.asMethod)
    (hdeclared : ∀ spec ∈ data.constraintsFor field, P spec) : ∀ spec ∈ r.constraints field, P spec := by
  unfold Json.constraintsFor at hdeclared
  simp only [List.forall_mem_append] at hdeclared
  obtain ⟨⟨hfields, hmethods⟩, hpatterns, hpatternMethods⟩ := hdeclared
  rw [constraints_of_ofJson h]
  simp only [List.forall_mem_append, List.forall_mem_map]
  exact ⟨⟨hfields, fun spec hspec => hflag spec (hmethods spec hspec)⟩, hpatterns,
    fun spec hspec => hflag spec (hpatternMethods spec hspec)⟩

end Reading

/-! ## Declared constraints call registered functions only -/

namespace ConstraintSpec

variable {registry : Registry} {P : ConstraintFunction → Prop}
  (hregistry : ∀ name function, registry.constraint name = .ok function → P function)
include hregistry

/-- A text of a profile calls functions of the registry only. -/
theorem callsOnly_parse (text : String) : (parse text).CallsOnly registry P := by
  unfold parse
  split
  · trivial
  · exact hregistry text

/-- A constraint of profile data has no function of its own. -/
theorem callsOnly_of_ofJson {value : Json} {spec : ConstraintSpec} (h : ofJson value = .ok spec) :
    spec.CallsOnly registry P := by
  unfold ofJson at h
  split at h
  · simp only [Except.ok.injEq] at h
    rw [← h]
    exact callsOnly_parse hregistry _
  · unfold ofMembers at h
    split at h
    · simp [profileError] at h
    · obtain ⟨⟨base, forced⟩, hbase, h⟩ := Outcome.bind_eq_ok_iff.1 h
      obtain ⟨name, -, h⟩ := Outcome.bind_eq_ok_iff.1 h
      obtain ⟨params, -, h⟩ := Outcome.bind_eq_ok_iff.1 h
      obtain ⟨isMethod, -, rfl⟩ := Outcome.map_eq_ok_iff.1 h
      show base.CallsOnly registry P
      unfold readBase at hbase
      split at hbase
      · cases hbase
        exact callsOnly_parse hregistry _
      · cases hbase
        exact hregistry _
      · simp [profileError] at hbase
      · simp [profileError] at hbase
      · simp [profileError] at hbase
  · simp [profileError] at h

/-- The same for all constraints of a list. -/
theorem callsOnly_of_mem_declaredIn {value : Json} {spec : ConstraintSpec} (h : spec ∈ declaredIn value) :
    spec.CallsOnly registry P := by
  unfold declaredIn at h
  split at h
  next specs hspecs =>
    unfold listOfJson at hspecs
    split at hspecs
    · obtain ⟨item, -, hitem⟩ := Outcome.exists_of_forall₂_of_mem (Outcome.mapM_eq_ok_iff.1 hspecs) h
      exact callsOnly_of_ofJson hregistry hitem
    · obtain ⟨only, honly, rfl⟩ := Outcome.map_eq_ok_iff.1 hspecs
      rw [List.mem_singleton] at h
      rw [h]
      exact callsOnly_of_ofJson hregistry honly
  next => simp at h

/-- The same for all constraints that data declares for a field. -/
theorem callsOnly_of_mem_constraintsFor {data : Json} {field : String} {spec : ConstraintSpec}
    (h : spec ∈ data.constraintsFor field) : spec.CallsOnly registry P := by
  have hdeclared : ∀ {option name : String} {specs : List ConstraintSpec},
      (data.declarations option).get? name = some specs → ∀ spec ∈ specs, spec.CallsOnly registry P := by
    intro option name specs hget spec hspec
    rw [Json.declarations, FieldMap.get?_map, Option.map_eq_some_iff] at hget
    obtain ⟨value, -, rfl⟩ := hget
    exact callsOnly_of_mem_declaredIn hregistry hspec
  have hfield : ∀ {option : String}, spec ∈ (data.declarations option).listAt field → spec.CallsOnly registry P := by
    intro option hspec
    unfold FieldMap.listAt at hspec
    cases hget : (data.declarations option).get? field with
    | none => simp [hget] at hspec
    | some specs => exact hdeclared hget spec (by simpa [hget] using hspec)
  have hpattern : ∀ {option : String}, spec ∈ declaredFor (Profile.byPattern (data.declarations option)) field →
      spec.CallsOnly registry P := by
    intro option hspec
    obtain ⟨rule, hrule, hitem⟩ := List.mem_flatMap.1 hspec
    obtain ⟨e, he, rfl⟩ := List.mem_map.1 (List.mem_filter.1 hrule).1
    exact hdeclared ((FieldMap.mem_entries_iff _ e.1 e.2).1 he) spec hitem
  unfold Json.constraintsFor at h
  rcases List.mem_append.1 h with hfields | hpatterns
  · exact (List.mem_append.1 hfields).elim hfield hfield
  · exact (List.mem_append.1 hpatterns).elim hpattern hpattern

end ConstraintSpec

end FormValidation
