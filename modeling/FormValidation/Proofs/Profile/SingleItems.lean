import FormValidation.Proofs.Profile.Options

/-!
# One item and a list of one item

Wherever profile data may have a list of texts or of constraints, it may also have one item alone. The places where it
may do so depend on the option (`Profile.optionShape`): the value of the option, the values of its members, or a value
one level deeper. Data in which single items at any of these places were put into lists of their own is read as before,
with the same profile or the same fault.
-/

set_option autoImplicit false

namespace FormValidation

namespace Profile

/-- Where an option has single items or lists: as its value, as the values of its members, as those or as the values of
their members, or nowhere. Members with constraints have items of any kind, all others have texts. -/
inductive OptionShape where
  | texts
  | textsByName
  | dependencies
  | constraintsByName
  | other

def optionShape : String → OptionShape
  | "required" => .texts
  | "optional" => .texts
  | "filters" => .texts
  | "untaint_constraint_fields" => .texts
  | "untaint_regexp_map" => .texts
  | "validator_packages" => .texts
  | "field_filters" => .textsByName
  | "field_filter_regexp_map" => .textsByName
  | "dependencies" => .dependencies
  | "constraints" => .constraintsByName
  | "constraint_methods" => .constraintsByName
  | "constraint_regexp_map" => .constraintsByName
  | "constraint_method_regexp_map" => .constraintsByName
  | _ => .other

end Profile

namespace Json

/-! ## Putting single items into lists -/

inductive IsText : Json → Prop
  | string (text : String) : IsText (.string text)

def NotList (value : Json) : Prop := ∀ items, value ≠ .array items

/-- The value was kept, or it is a single item that was put into a list of its own. -/
inductive Wrapped (Single : Json → Prop) : Json → Json → Prop
  | kept (value : Json) : Wrapped Single value value
  | list {value : Json} (h : Single value) : Wrapped Single value (.array [value])

/-- The value was kept, or it is an object of which every member was changed in a certain way. -/
inductive ByMember (R : Json → Json → Prop) : Json → Json → Prop
  | kept (value : Json) : ByMember R value value
  | object {members members' : List (String × Json)}
      (h : List.Forall₂ (fun e e' => e.1 = e'.1 ∧ R e.2 e'.2) members members') :
      ByMember R (.object members) (.object members')

/-- The fields of a dependency were put into a list, or those for some values of its trigger. -/
inductive WrappedDependency : Json → Json → Prop
  | fields {value value' : Json} (h : Wrapped IsText value value') : WrappedDependency value value'
  | byValue {value value' : Json} (h : ByMember (Wrapped IsText) value value') : WrappedDependency value value'

/-- In the value of an option single items were put into lists. -/
inductive WrappedOption : Profile.OptionShape → Json → Json → Prop
  | texts {value value' : Json} (h : Wrapped IsText value value') : WrappedOption .texts value value'
  | textsByName {value value' : Json} (h : ByMember (Wrapped IsText) value value') :
      WrappedOption .textsByName value value'
  | dependencies {value value' : Json} (h : ByMember WrappedDependency value value') :
      WrappedOption .dependencies value value'
  | constraintsByName {value value' : Json} (h : ByMember (Wrapped NotList) value value') :
      WrappedOption .constraintsByName value value'
  | other (value : Json) : WrappedOption .other value value

/-- In profile data single items were put into lists. -/
inductive WrappedData : Json → Json → Prop
  | object {options options' : List (String × Json)}
      (h : List.Forall₂ (fun e e' => e.1 = e'.1 ∧ WrappedOption (Profile.optionShape e.1) e.2 e'.2) options options') :
      WrappedData (.object options) (.object options')

/-- A list of its own has the same items as the single item in it. -/
theorem Wrapped.listed_eq {value value' : Json} (h : Wrapped NotList value value') : value.listed = value'.listed := by
  cases h with
  | kept => rfl
  | list hsingle =>
    cases value with
    | array items => exact absurd rfl (hsingle items)
    | null => rfl
    | bool b => rfl
    | number n => rfl
    | string text => rfl
    | object members => rfl

end Json

namespace Profile

open Json

/-! ## Reading values -/

/-- A single text and the list of it are read alike. -/
theorem oneOrMany?_of_wrapped {value value' : Json} (h : Wrapped IsText value value') :
    oneOrMany? value = oneOrMany? value' := by
  cases h with
  | kept => rfl
  | list htext =>
    cases htext
    rfl

/-- Maps whose values are read alike are read alike. -/
theorem mapOf?_of_byMember {α : Type} {R : Json → Json → Prop} {read : Json → Option α} {value value' : Json}
    (h : ByMember R value value') (hread : ∀ v v', R v v' → read v = read v') :
    mapOf? read value = mapOf? read value' := by
  cases h with
  | kept => rfl
  | @object members members' hmembers =>
    have hentries := FieldMap.forall₂_entries_ofList (R := fun _ v v' => R v v') hmembers
    have hsame : (FieldMap.ofList members).entries.mapM (fun e => (read e.2).map fun x => (e.1, x)) =
        (FieldMap.ofList members').entries.mapM (fun e => (read e.2).map fun x => (e.1, x)) := by
      apply Outcome.mapM_eq_of_forall₂
      refine hentries.imp fun e e' he => ?_
      rw [he.1, hread e.2 e'.2 he.2]
    unfold mapOf?
    simp only [members?, Option.bind_some]
    rw [hsame]

/-- A dependency is read alike when single names in it are put into lists. -/
theorem dependency?_of_wrapped {value value' : Json} (h : WrappedDependency value value') :
    dependency? value = dependency? value' := by
  cases h with
  | fields hfields =>
    cases hfields with
    | kept => rfl
    | list htext =>
      cases htext
      rfl
  | byValue hvalues =>
    have hmap := mapOf?_of_byMember hvalues fun v v' => oneOrMany?_of_wrapped
    cases hvalues with
    | kept => rfl
    | object _ =>
      -- an object is neither one text nor a list of texts
      unfold dependency?
      simp only [oneOrMany?, texts?]
      rw [hmap]

/-- The members have the same names, and the same items are listed under each. -/
def ListAlike (members members' : FieldMap Json) : Prop :=
  List.Forall₂ (fun e e' => e.1 = e'.1 ∧ e.2.listed = e'.2.listed) members.entries members'.entries

/-- Members that list the same items are read alike by what reads their items. -/
theorem ListAlike.mapE_eq {β : Type} {read : Json → Except Fault β} {members members' : FieldMap Json}
    (h : ListAlike members members') (hread : ∀ v v', v.listed = v'.listed → read v = read v') :
    (members.mapE fun _ value => read value) = members'.mapE fun _ value => read value :=
  FieldMap.mapE_eq_of_forall₂ (h.imp fun e e' he => ⟨he.1, hread e.2 e'.2 he.2⟩)

/-- Objects whose members differ in wrapping only have members that list the same items. -/
theorem members?_of_byMember {value value' : Json} (h : ByMember (Wrapped NotList) value value') :
    (value.members? = none ∧ value'.members? = none) ∨ ∃ members members', value.members? = some members ∧
      value'.members? = some members' ∧ ListAlike members members' := by
  cases h with
  | kept =>
    cases hmembers : value.members? with
    | none => exact Or.inl ⟨rfl, rfl⟩
    | some members => exact Or.inr ⟨members, members, rfl, rfl, List.forall₂_same.2 fun e _ => ⟨rfl, rfl⟩⟩
  | object hmembers =>
    have hentries := FieldMap.forall₂_entries_ofList (R := fun _ v v' => Wrapped NotList v v') hmembers
    exact Or.inr ⟨_, _, rfl, rfl, hentries.imp fun e e' he => ⟨he.1, he.2.listed_eq⟩⟩

/-! ## Reading options -/

section

variable {options options' : FieldMap Json} (h : List.Forall₂
  (fun e e' => e.1 = e'.1 ∧ WrappedOption (optionShape e.1) e.2 e'.2) options.entries options'.entries)
include h

/-- An option is read alike when what reads it does not tell wrapped values apart. -/
theorem option_of_wrapped {α : Type} (name : String) (absent : α) {read : Json → Option α}
    (hread : ∀ value value', WrappedOption (optionShape name) value value' → read value = read value') :
    option options name absent read = option options' name absent read := by
  apply option_congr
  rcases FieldMap.get?_of_forall₂ (R := fun name v v' => WrappedOption (optionShape name) v v') h name with
    ⟨hnone, hnone'⟩ | ⟨value, value', hvalue, hvalue', hwrapped⟩
  · rw [hnone, hnone']
  · rw [hvalue, hvalue', Option.map_some, Option.map_some, hread value value' hwrapped]

/-- An option in which nothing is wrapped is read alike. -/
theorem option_other {α : Type} (name : String) (absent : α) (read : Json → Option α)
    (hshape : optionShape name = .other) : option options name absent read = option options' name absent read := by
  apply option_of_wrapped h
  intro value value' hwrapped
  rw [hshape] at hwrapped
  cases hwrapped
  rfl

/-- An option of texts is read alike. -/
theorem listOption_texts (name : String) (hshape : optionShape name = .texts) :
    listOption options name = listOption options' name := by
  apply option_of_wrapped h
  intro value value' hwrapped
  rw [hshape] at hwrapped
  cases hwrapped with
  | texts hwrapped =>
    cases hwrapped with
    | kept => rfl
    | list htext =>
      cases htext
      rfl

/-- An option of texts by name is read alike. -/
theorem mapOption_textsByName (name : String) (hshape : optionShape name = .textsByName) :
    mapOption options name oneOrMany? = mapOption options' name oneOrMany? := by
  apply option_of_wrapped h
  intro value value' hwrapped
  rw [hshape] at hwrapped
  cases hwrapped with
  | textsByName hmembers => exact mapOf?_of_byMember hmembers fun v v' => oneOrMany?_of_wrapped

/-- The dependencies are read alike. -/
theorem mapOption_dependencies :
    mapOption options "dependencies" dependency? = mapOption options' "dependencies" dependency? := by
  apply option_of_wrapped h
  intro value value' hwrapped
  cases hwrapped with
  | dependencies hmembers => exact mapOf?_of_byMember hmembers fun v v' => dependency?_of_wrapped

/-- The members of an option with constraints are not the same, but what they list is. -/
theorem related_mapOption (name : String) (hshape : optionShape name = .constraintsByName) :
    Outcome.Related ListAlike (mapOption options name some) (mapOption options' name some) := by
  rw [mapOption_some, mapOption_some]
  unfold option
  rcases FieldMap.get?_of_forall₂ (R := fun name v v' => WrappedOption (optionShape name) v v') h name with
    ⟨hnone, hnone'⟩ | ⟨value, value', hvalue, hvalue', hwrapped⟩
  · rw [hnone, hnone']
    exact .ok .nil
  · rw [hshape] at hwrapped
    cases hwrapped with
    | constraintsByName hmembers =>
      rcases members?_of_byMember hmembers with ⟨hnone, hnone'⟩ | ⟨members, members', hsome, hsome', hentries⟩
      · simp only [hvalue, hvalue', hnone, hnone']
        exact .error _
      · simp only [hvalue, hvalue', hsome, hsome']
        exact .ok hentries

/-- All options together are read alike. -/
theorem ofOptions_of_wrapped : ofOptions options = ofOptions options' := by
  have hmap : ∀ {α : Type} (name : String) (read : Json → Option α), optionShape name = .other →
      mapOption options name read = mapOption options' name read :=
    fun name read hshape => option_other h name FieldMap.empty (mapOf? read) hshape
  have hpattern : ∀ name, optionShape name = .other → patternOption options name = patternOption options' name :=
    fun name hshape => option_other h name none _ hshape
  have hflag : ∀ name, optionShape name = .other → flagOption options name = flagOption options' name :=
    fun name hshape => option_other h name false _ hshape
  have hdefaults : ∀ read : Json → Option (Option Json),
      nullable options "defaults" none read = nullable options' "defaults" none read :=
    fun read => option_other h "defaults" none _ rfl
  have hlists : ∀ v v' : Json, v.listed = v'.listed → ConstraintSpec.listOfJson v = ConstraintSpec.listOfJson v' := by
    intro v v' hlisted
    rw [ConstraintSpec.listOfJson_eq_mapM, ConstraintSpec.listOfJson_eq_mapM, hlisted]
  have hmethods : ∀ v v' : Json, v.listed = v'.listed →
      ConstraintSpec.methodsOfJson v = ConstraintSpec.methodsOfJson v' := by
    intro v v' hlisted
    rw [ConstraintSpec.methodsOfJson, ConstraintSpec.methodsOfJson, hlists v v' hlisted]
  unfold ofOptions
  rw [listOption_texts h "required" rfl, listOption_texts h "optional" rfl, hpattern "required_regexp" rfl,
    hpattern "optional_regexp" rfl, hmap "require_some" _ rfl, mapOption_dependencies h,
    hmap "dependency_groups" _ rfl, hdefaults, listOption_texts h "filters" rfl,
    mapOption_textsByName h "field_filters" rfl, mapOption_textsByName h "field_filter_regexp_map" rfl,
    hflag "untaint_all_constraints" rfl, listOption_texts h "untaint_constraint_fields" rfl,
    listOption_texts h "untaint_regexp_map" rfl, hflag "missing_optional_valid" rfl,
    listOption_texts h "validator_packages" rfl, option_other h "msgs" _ _ rfl]
  -- only the four options with constraints give different members, which are read further below
  iterate 11 refine bind_congr fun _ => ?_
  refine (related_mapOption h "constraints" rfl).bind_eq fun fields fields' hfields => ?_
  refine (related_mapOption h "constraint_methods" rfl).bind_eq fun methods methods' hmethodValues => ?_
  refine (related_mapOption h "constraint_regexp_map" rfl).bind_eq fun patterns patterns' hpatterns => ?_
  refine (related_mapOption h "constraint_method_regexp_map" rfl).bind_eq
    fun patternMethods patternMethods' hpatternMethods => ?_
  rw [hfields.mapE_eq hlists, hmethodValues.mapE_eq hmethods, hpatterns.mapE_eq hlists,
    hpatternMethods.mapE_eq hmethods]

end

/-- Data is read alike before and after single items in it were put into lists: both give the same profile, or both are
refused with the same fault. -/
theorem ofJson_eq_of_wrapped {data data' : Json} (h : WrappedData data data') : ofJson data = ofJson data' := by
  cases h with
  | @object options options' hoptions =>
    have hentries := FieldMap.forall₂_entries_ofList (R := fun name v v' => WrappedOption (optionShape name) v v')
      hoptions
    have hkeys : (FieldMap.ofList options).keys = (FieldMap.ofList options').keys :=
      FieldMap.map_eq_map_of_forall₂ (hentries.imp fun _ _ he => he.1)
    unfold ofJson
    simp only [members?]
    rw [hkeys, ofOptions_of_wrapped hentries]

/-- Data with a single item as an option, under a value of a dependency, and as the constraint of a field. -/
def clubData : Json :=
  .object [("required", .string "name"),
    ("dependencies", .object [("fee", .object [("card", .string "number"), ("cash", .array [])])]),
    ("constraints", .object [("age", .object [("constraint", .string "digits")]), ("name", .string "word")])]

/-- `clubData` with all three in lists. -/
def clubDataInLists : Json :=
  .object [("required", .array [.string "name"]),
    ("dependencies", .object [("fee", .object [("card", .array [.string "number"]), ("cash", .array [])])]),
    ("constraints", .object [("age", .array [.object [("constraint", .string "digits")]]), ("name", .string "word")])]

/-- Single items in an option, a dependency and the constraints of a field are read like lists of one item. -/
theorem ofJson_eq_of_wrapped_clubData :
    WrappedData clubData clubDataInLists ∧ ofJson clubData = ofJson clubDataInLists ∧ (ofJson clubData).isOk := by
  have hname : Wrapped IsText (.string "name") (.array [.string "name"]) := .list (.string "name")
  have hfee : WrappedDependency (.object [("card", .string "number"), ("cash", .array [])])
      (.object [("card", .array [.string "number"]), ("cash", .array [])]) :=
    .byValue (.object (.cons ⟨rfl, .list (.string "number")⟩ (.cons ⟨rfl, .kept _⟩ .nil)))
  have hage : Wrapped NotList (.object [("constraint", .string "digits")])
      (.array [.object [("constraint", .string "digits")]]) := .list fun items => by simp
  have hwrapped : WrappedData clubData clubDataInLists :=
    .object (.cons ⟨rfl, .texts hname⟩ (.cons ⟨rfl, .dependencies (.object (.cons ⟨rfl, hfee⟩ .nil))⟩
      (.cons ⟨rfl, .constraintsByName (.object (.cons ⟨rfl, hage⟩ (.cons ⟨rfl, .kept _⟩ .nil)))⟩ .nil)))
  exact ⟨hwrapped, ofJson_eq_of_wrapped hwrapped, rfl⟩

end Profile

end FormValidation
