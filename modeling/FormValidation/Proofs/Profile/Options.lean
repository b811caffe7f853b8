import FormValidation.Profile.Reader
import FormValidation.Proofs.FieldMap

/-!
# What the parts of a profile are read from

Reading goes through the options of profile data in one long row of steps. Where it succeeds, the row can be taken apart
once for all: every part of the profile was read from an option of its own, or from two (`Profile.ReadFrom`). Where one
constraint or a list of them can stand, what is read is the list of items (`Json.listed`).
-/

set_option autoImplicit false

namespace FormValidation

/-- The items of a list; any other value is its own only item. -/
def Json.listed : Json → List Json
  | .array items => items
  | value => [value]

/-- The members of an object with the entries of a map are the map. -/
theorem Json.members?_entries (m : FieldMap Json) : (Json.object m.entries).members? = some m :=
  congrArg some (FieldMap.ofList_entries m)

/-- One constraint or several are read item by item. -/
theorem ConstraintSpec.listOfJson_eq_mapM (value : Json) : listOfJson value = value.listed.mapM ofJson := by
  have halone : ∀ only : Json, (do return [← ofJson only]) = [only].mapM ofJson := by
    intro only
    rw [List.mapM_cons, List.mapM_nil]
    rfl
  cases value with
  | array items => rfl
  | null => exact halone _
  | bool b => exact halone _
  | number n => exact halone _
  | string text => exact halone _
  | object members => exact halone _

namespace Profile

/-! ## One option -/

/-- An option is read alike from data in which it is absent, or has a value that is read alike. -/
theorem option_congr {α : Type} {options options' : FieldMap Json} {name : String} (absent : α)
    {read : Json → Option α} (h : (options.get? name).map read = (options'.get? name).map read) :
    option options name absent read = option options' name absent read := by
  unfold option
  cases hvalue : options.get? name with
  | none =>
    cases hvalue' : options'.get? name with
    | none => rfl
    | some value' => simp [hvalue, hvalue'] at h
  | some value =>
    cases hvalue' : options'.get? name with
    | none => simp [hvalue, hvalue'] at h
    | some value' =>
      have hread : read value = read value' := by simpa [hvalue, hvalue'] using h
      dsimp only
      rw [hread]

/-- Members of any shape are read as they are. -/
theorem mapOption_some (options : FieldMap Json) (name : String) :
    mapOption options name some = option options name FieldMap.empty Json.members? := by
  have hread : mapOf? some = Json.members? := by
    funext value
    unfold mapOf?
    cases hmembers : value.members? with
    | none => rfl
    | some members =>
      have hall : members.entries.mapM (fun e => (some e.2).map fun x => (e.1, x)) = some members.entries := by
        have hpure := List.mapM_pure (m := Option) (l := members.entries) (f := fun e => (e.1, e.2))
        simpa using hpure
      rw [Option.bind_some, hall, Option.map_some]
      exact congrArg some (FieldMap.ofList_entries members)
  rw [mapOption, hread]

/-! ## All options -/

/-- Constraints by name are those of an option, each list as it is read. -/
def ReadsConstraints (options : FieldMap Json) (name : String) (read : Json → Except Fault (List ConstraintSpec))
    (specs : FieldMap (List ConstraintSpec)) : Prop :=
  ∃ values, mapOption options name some = .ok values ∧ (values.mapE fun _ value => read value) = .ok specs

/-- Every part of the profile is what its option is read as. -/
structure ReadFrom (options : FieldMap Json) (p : Profile) : Prop where
  required : listOption options "required" = .ok p.required
  optional : listOption options "optional" = .ok p.optional
  requiredPattern : patternOption options "required_regexp" = .ok p.requiredPattern
  optionalPattern : patternOption options "optional_regexp" = .ok p.optionalPattern
  requireSome : ∃ groups, mapOption options "require_some" items? = .ok groups ∧
    (groups.mapE fun _ items => readGroup items) = .ok p.requireSome
  dependencies : mapOption options "dependencies" dependency? = .ok p.dependencies
  dependencyGroups : mapOption options "dependency_groups" texts? = .ok p.dependencyGroups
  defaults : ∃ data, (nullable options "defaults" none fun value =>
    if value.isObject then some (some value) else none) = .ok data ∧ readDefaults data = .ok p.defaults
  filters : ∃ names, listOption options "filters" = .ok names ∧ p.filters = namedFilters names
  fieldFilters : ∃ names, mapOption options "field_filters" oneOrMany? = .ok names ∧
    p.fieldFilters = names.map namedFilters
  patternFilters : ∃ names, mapOption options "field_filter_regexp_map" oneOrMany? = .ok names ∧
    p.patternFilters = byPattern (names.map namedFilters)
  constraints : ∃ specs methods, ReadsConstraints options "constraints" ConstraintSpec.listOfJson specs ∧
    ReadsConstraints options "constraint_methods" ConstraintSpec.methodsOfJson methods ∧
    p.constraints = specs.extendAll methods
  patternConstraints : ∃ specs methods,
    ReadsConstraints options "constraint_regexp_map" ConstraintSpec.listOfJson specs ∧
    ReadsConstraints options "constraint_method_regexp_map" ConstraintSpec.methodsOfJson methods ∧
    p.patternConstraints = byPattern specs ++ byPattern methods
  untaintAll : flagOption options "untaint_all_constraints" = .ok p.untaintAll
  untaintFields : listOption options "untaint_constraint_fields" = .ok p.untaintFields
  untaintPatterns : ∃ texts, listOption options "untaint_regexp_map" = .ok texts ∧
    p.untaintPatterns = texts.map .delimited
  missingOptionalValid : flagOption options "missing_optional_valid" = .ok p.missingOptionalValid
  packages : listOption options "validator_packages" = .ok p.packages
  messages : option options "msgs" MessageConfig.empty MessageConfig.ofJson = .ok p.messages

/-- A profile that was made of options is read from them. -/
theorem readFrom_of_ofOptions {options : FieldMap Json} {p : Profile} (h : ofOptions options = .ok p) :
    p.ReadFrom options := by
  unfold ofOptions at h
  -- first what every option is read as, then what is made of it where that can still fail
  obtain ⟨required, hrequired, h⟩ := Outcome.bind_eq_ok_iff.1 h
  obtain ⟨optional, hoptional, h⟩ := Outcome.bind_eq_ok_iff.1 h
  obtain ⟨requiredPattern, hrequiredPattern, h⟩ := Outcome.bind_eq_ok_iff.1 h
  obtain ⟨optionalPattern, hoptionalPattern, h⟩ := Outcome.bind_eq_ok_iff.1 h
  obtain ⟨groups, hgroups, h⟩ := Outcome.bind_eq_ok_iff.1 h
  obtain ⟨dependencies, hdependencies, h⟩ := Outcome.bind_eq_ok_iff.1 h
  obtain ⟨dependencyGroups, hdependencyGroups, h⟩ := Outcome.bind_eq_ok_iff.1 h
  obtain ⟨defaultData, hdefaultData, h⟩ := Outcome.bind_eq_ok_iff.1 h
  obtain ⟨filters, hfilters, h⟩ := Outcome.bind_eq_ok_iff.1 h
  obtain ⟨fieldFilters, hfieldFilters, h⟩ := Outcome.bind_eq_ok_iff.1 h
  obtain ⟨patternFilters, hpatternFilters, h⟩ := Outcome.bind_eq_ok_iff.1 h
  obtain ⟨fieldValues, hfieldValues, h⟩ := Outcome.bind_eq_ok_iff.1 h
  obtain ⟨methodValues, hmethodValues, h⟩ := Outcome.bind_eq_ok_iff.1 h
  obtain ⟨patternValues, hpatternValues, h⟩ := Outcome.bind_eq_ok_iff.1 h
  obtain ⟨patternMethodValues, hpatternMethodValues, h⟩ := Outcome.bind_eq_ok_iff.1 h
  obtain ⟨untaintAll, huntaintAll, h⟩ := Outcome.bind_eq_ok_iff.1 h
  obtain ⟨untaintFields, huntaintFields, h⟩ := Outcome.bind_eq_ok_iff.1 h
  obtain ⟨untaintPatterns, huntaintPatterns, h⟩ := Outcome.bind_eq_ok_iff.1 h
  obtain ⟨missingOptionalValid, hmissingOptionalValid, h⟩ := Outcome.bind_eq_ok_iff.1 h
  obtain ⟨packages, hpackages, h⟩ := Outcome.bind_eq_ok_iff.1 h
  obtain ⟨messages, hmessages, h⟩ := Outcome.bind_eq_ok_iff.1 h
  obtain ⟨specs, hspecs, h⟩ := Outcome.bind_eq_ok_iff.1 h
  obtain ⟨methods, hmethods, h⟩ := Outcome.bind_eq_ok_iff.1 h
  obtain ⟨patternSpecs, hpatternSpecs, h⟩ := Outcome.bind_eq_ok_iff.1 h
  obtain ⟨patternMethods, hpatternMethods, h⟩ := Outcome.bind_eq_ok_iff.1 h
  obtain ⟨requireSome, hrequireSome, h⟩ := Outcome.bind_eq_ok_iff.1 h
  obtain ⟨defaults, hdefaults, h⟩ := Outcome.bind_eq_ok_iff.1 h
  cases h
  exact {
    required := hrequired
    optional := hoptional
    requiredPattern := hrequiredPattern
    optionalPattern := hoptionalPattern
    requireSome := ⟨groups, hgroups, hrequireSome⟩
    dependencies := hdependencies
    dependencyGroups := hdependencyGroups
    defaults := ⟨defaultData, hdefaultData, hdefaults⟩
    filters := ⟨filters, hfilters, rfl⟩
    fieldFilters := ⟨fieldFilters, hfieldFilters, rfl⟩
    patternFilters := ⟨patternFilters, hpatternFilters, rfl⟩
    constraints := ⟨specs, methods, ⟨fieldValues, hfieldValues, hspecs⟩, ⟨methodValues, hmethodValues, hmethods⟩, rfl⟩
    patternConstraints := ⟨patternSpecs, patternMethods, ⟨patternValues, hpatternValues, hpatternSpecs⟩,
      ⟨patternMethodValues, hpatternMethodValues, hpatternMethods⟩, rfl⟩
    untaintAll := huntaintAll
    untaintFields := huntaintFields
    untaintPatterns := ⟨untaintPatterns, huntaintPatterns, rfl⟩
    missingOptionalValid := hmissingOptionalValid
    packages := hpackages
    messages := hmessages }

/-- A profile that is read from options is made of them. -/
theorem ReadFrom.ofOptions_eq {options : FieldMap Json} {p : Profile} (h : p.ReadFrom options) :
    ofOptions options = .ok p := by
  unfold ofOptions
  simp only [Outcome.bind_eq_ok_iff]
  obtain ⟨groups, hgroups, hrequireSome⟩ := h.requireSome
  obtain ⟨defaultData, hdefaultData, hdefaults⟩ := h.defaults
  obtain ⟨filters, hfilters, hnamed⟩ := h.filters
  obtain ⟨fieldFilters, hfieldFilters, hnamedFields⟩ := h.fieldFilters
  obtain ⟨patternFilters, hpatternFilters, hnamedPatterns⟩ := h.patternFilters
  obtain ⟨specs, methods, ⟨values, hvalues, hspecs⟩, ⟨methodValues, hmethodValues, hmethods⟩, hfields⟩ :=
    h.constraints
  obtain ⟨patternSpecs, patternMethods, ⟨patternValues, hpatternValues, hpatternSpecs⟩,
    ⟨patternMethodValues, hpatternMethodValues, hpatternMethods⟩, hpatterns⟩ := h.patternConstraints
  obtain ⟨texts, htexts, huntaint⟩ := h.untaintPatterns
  refine ⟨_, h.required, _, h.optional, _, h.requiredPattern, _, h.optionalPattern, _, hgroups, _, h.dependencies, _,
    h.dependencyGroups, _, hdefaultData, _, hfilters, _, hfieldFilters, _, hpatternFilters, _, hvalues, _,
    hmethodValues, _, hpatternValues, _, hpatternMethodValues, _, h.untaintAll, _, h.untaintFields, _, htexts, _,
    h.missingOptionalValid, _, h.packages, _, h.messages, _, hspecs, _, hmethods, _, hpatternSpecs, _,
    hpatternMethods, _, hrequireSome, _, hdefaults, ?_⟩
  rw [← hnamed, ← hnamedFields, ← hnamedPatterns, ← hfields, ← hpatterns, ← huntaint]
  rfl

/-- Options are read as a profile when each of its parts is what its option is read as. -/
theorem ofOptions_eq_ok_iff {options : FieldMap Json} {p : Profile} :
    ofOptions options = .ok p ↔ p.ReadFrom options :=
  ⟨readFrom_of_ofOptions, ReadFrom.ofOptions_eq⟩

/-- Where only the constraints of fields are others, the same profile is read but for these constraints. -/
theorem ReadFrom.withConstraints {options options' : FieldMap Json} {p : Profile} (h : p.ReadFrom options)
    (hsame : ∀ name, name ≠ "constraints" → name ≠ "constraint_methods" → options'.get? name = options.get? name)
    {specs methods : FieldMap (List ConstraintSpec)}
    (hspecs : ReadsConstraints options' "constraints" ConstraintSpec.listOfJson specs)
    (hmethods : ReadsConstraints options' "constraint_methods" ConstraintSpec.methodsOfJson methods) :
    ReadFrom options' { p with constraints := specs.extendAll methods } := by
  have hoption : ∀ {α : Type} (name : String) (absent : α) (read : Json → Option α), name ≠ "constraints" →
      name ≠ "constraint_methods" → option options' name absent read = option options name absent read :=
    fun name absent read hfields hmethods => option_congr absent (by rw [hsame name hfields hmethods])
  have hmap : ∀ {α : Type} (name : String) (read : Json → Option α), name ≠ "constraints" →
      name ≠ "constraint_methods" → mapOption options' name read = mapOption options name read :=
    fun name read => hoption name FieldMap.empty (mapOf? read)
  have hlist : ∀ name, name ≠ "constraints" → name ≠ "constraint_methods" →
      listOption options' name = listOption options name := fun name => hoption name [] _
  obtain ⟨patternSpecs, patternMethods, ⟨values, hvalues, hread⟩, ⟨methodValues, hmethodValues, hmethodsRead⟩,
    hpatterns⟩ := h.patternConstraints
  rw [← hmap _ _ (by decide) (by decide)] at hvalues hmethodValues
  exact {
    required := (hlist "required" (by decide) (by decide)).trans h.required
    optional := (hlist "optional" (by decide) (by decide)).trans h.optional
    requiredPattern := (hoption "required_regexp" none _ (by decide) (by decide)).trans h.requiredPattern
    optionalPattern := (hoption "optional_regexp" none _ (by decide) (by decide)).trans h.optionalPattern
    requireSome := by rw [hmap "require_some" _ (by decide) (by decide)]; exact h.requireSome
    dependencies := (hmap "dependencies" _ (by decide) (by decide)).trans h.dependencies
    dependencyGroups := (hmap "dependency_groups" _ (by decide) (by decide)).trans h.dependencyGroups
    defaults := by rw [nullable, hoption "defaults" none _ (by decide) (by decide)]; exact h.defaults
    filters := by rw [hlist "filters" (by decide) (by decide)]; exact h.filters
    fieldFilters := by rw [hmap "field_filters" _ (by decide) (by decide)]; exact h.fieldFilters
    patternFilters := by rw [hmap "field_filter_regexp_map" _ (by decide) (by decide)]; exact h.patternFilters
    constraints := ⟨specs, methods, hspecs, hmethods, rfl⟩
    patternConstraints := ⟨patternSpecs, patternMethods, ⟨values, hvalues, hread⟩,
      ⟨methodValues, hmethodValues, hmethodsRead⟩, hpatterns⟩
    untaintAll := (hoption "untaint_all_constraints" false _ (by decide) (by decide)).trans h.untaintAll
    untaintFields := (hlist "untaint_constraint_fields" (by decide) (by decide)).trans h.untaintFields
    untaintPatterns := by rw [hlist "untaint_regexp_map" (by decide) (by decide)]; exact h.untaintPatterns
    missingOptionalValid :=
      (hoption "missing_optional_valid" false _ (by decide) (by decide)).trans h.missingOptionalValid
    packages := (hlist "validator_packages" (by decide) (by decide)).trans h.packages
    messages := (hoption "msgs" _ _ (by decide) (by decide)).trans h.messages }

/-- Data is read as a profile when it is an object of options that all exist, and these are read as the profile. -/
theorem ofJson_eq_ok_iff {data : Json} {p : Profile} :
    ofJson data = .ok p ↔ ∃ options, data.members? = some options ∧
      (∀ name, options.contains name → name ∈ knownOptions) ∧ p.ReadFrom options := by
  have hknown : ∀ options : FieldMap Json, options.keys.find? (fun key => !knownOptions.contains key) = none ↔
      ∀ name, options.contains name → name ∈ knownOptions := by
    intro options
    simp [List.find?_eq_none, FieldMap.mem_keys_iff]
  unfold ofJson
  cases hdata : data.members? with
  | none => simp [profileError]
  | some options =>
    simp only [Option.some.injEq, exists_eq_left', ← hknown]
    cases hunknown : options.keys.find? (fun key => !knownOptions.contains key) with
    | none => simpa using ofOptions_eq_ok_iff
    | some key => simp

end Profile

end FormValidation
