import FormValidation.Evaluation.Evaluate
import FormValidation.Proofs.Profile.Constraints

/-!
# Method flags are remarks

The flag that a constraint is meant as a method is read, carried along and never looked at. What a constraint is
compiled to does not depend on it, at any depth of a structured constraint, and an evaluation knows constraints only as
what they are compiled to. So the option with the methods of fields could be left out: its lists can as well stand
behind those of the constraints.
-/

set_option autoImplicit false

namespace FormValidation

/-! ## Constraints that are compiled to the same -/

/-- In every registry the constraints are compiled to the same. -/
def ConstraintSpec.CompilesAs (spec spec' : ConstraintSpec) : Prop :=
  ∀ registry, spec.compile registry = spec'.compile registry

/-- Under every name, or pattern, constraints stand that are compiled to the same one by one. -/
def CompileAlike {κ : Type} (rules rules' : List (κ × List ConstraintSpec)) : Prop :=
  List.Forall₂ (fun rule rule' => rule.1 = rule'.1 ∧ List.Forall₂ ConstraintSpec.CompilesAs rule.2 rule'.2) rules rules'

/-- Lists of constraints that compile alike one by one compile alike. -/
theorem compileAll_of_compilesAs {specs specs' : List ConstraintSpec}
    (h : List.Forall₂ ConstraintSpec.CompilesAs specs specs') (registry : Registry) :
    ConstraintPlan.compileAll registry specs = ConstraintPlan.compileAll registry specs' :=
  Outcome.mapM_eq_of_forall₂ (h.imp fun _ _ hspec => hspec registry)

/-- Rules compile like themselves. -/
theorem CompileAlike.refl {κ : Type} (rules : List (κ × List ConstraintSpec)) : CompileAlike rules rules :=
  List.forall₂_same.2 fun _ _ => ⟨rfl, List.forall₂_same.2 fun _ _ _ => rfl⟩

/-- Rules in which each constraint was replaced by one that compiles alike compile alike. -/
theorem CompileAlike.of_map {κ : Type} {f : ConstraintSpec → ConstraintSpec} (h : ∀ spec, (f spec).CompilesAs spec)
    (rules : List (κ × List ConstraintSpec)) :
    CompileAlike (rules.map fun rule => (rule.1, rule.2.map f)) rules := by
  apply List.forall₂_map_left_iff.2
  refine List.forall₂_same.2 fun rule _ => ⟨rfl, ?_⟩
  apply List.forall₂_map_left_iff.2
  exact List.forall₂_same.2 fun spec _ => h spec

section

variable {p : Profile} {constraints : FieldMap (List ConstraintSpec)}
  {patternConstraints : List (FieldPattern × List ConstraintSpec)}
  (hfields : CompileAlike constraints.entries p.constraints.entries)
  (hpatterns : CompileAlike patternConstraints p.patternConstraints)
include hfields hpatterns

/-- Constraints that compile alike give the same plan. -/
theorem ConstraintPlan.ofProfile_of_compileAlike (registry : Registry) :
    ofProfile registry { p with constraints, patternConstraints } = ofProfile registry p := by
  have hbyField : (constraints.mapE fun _ specs => compileAll registry specs) =
      p.constraints.mapE fun _ specs => compileAll registry specs :=
    FieldMap.mapE_eq_of_forall₂ (hfields.imp fun _ _ hrule => ⟨hrule.1, compileAll_of_compilesAs hrule.2 registry⟩)
  unfold ofProfile
  rw [hbyField]
  refine bind_congr fun byField => ?_
  congr 1
  refine Outcome.mapM_eq_of_forall₂ (hpatterns.imp fun rule rule' hrule => ?_)
  rw [hrule.1, compileAll_of_compilesAs hrule.2 registry]

/-- An evaluation knows constraints only as what they are compiled to. -/
theorem evaluate_of_compileAlike (registry : Registry) (input : Source) :
    evaluate registry { p with constraints, patternConstraints } input = evaluate registry p input := by
  have hprepare : ∀ merged, Preparation.ofProfile merged { p with constraints, patternConstraints } =
      Preparation.ofProfile merged p := by
    intro merged
    have hplan := ConstraintPlan.ofProfile_of_compileAlike hfields hpatterns merged
    unfold Preparation.ofProfile
    rw [hplan]
    rfl
  unfold evaluate evaluateWithin
  simp only [hprepare]
  rfl

end

/-! ## Without flags -/

/-- The constraint without the flags in it. -/
def ConstraintSpec.unflagged : ConstraintSpec → ConstraintSpec
  | structured base name params _ => structured base.unflagged name params none
  | spec => spec

/-- The profile without flags. -/
def Profile.unflagged (p : Profile) : Profile :=
  { p with
    constraints := p.constraints.map fun specs => specs.map ConstraintSpec.unflagged
    patternConstraints := p.patternConstraints.map fun rule => (rule.1, rule.2.map ConstraintSpec.unflagged) }

/-- A constraint compiles like the one without flags. -/
theorem ConstraintSpec.compilesAs_unflagged (spec : ConstraintSpec) : spec.unflagged.CompilesAs spec := by
  intro registry
  induction spec with
  | named name => rfl
  | pattern p => rfl
  | callable name function => rfl
  | structured base name params isMethod ih => rw [unflagged, compile, compile, ih]

/-- A profile is evaluated like the one without flags. -/
theorem evaluate_unflagged (registry : Registry) (p : Profile) (input : Source) :
    evaluate registry p.unflagged input = evaluate registry p input :=
  evaluate_of_compileAlike (.of_map ConstraintSpec.compilesAs_unflagged p.constraints.entries)
    (.of_map ConstraintSpec.compilesAs_unflagged p.patternConstraints) registry input

/-! ## Data without the option of methods -/

namespace Json

/-- Members with the items listed in others put at the end of those of the same name, in one list. -/
def appendListed (members more : FieldMap Json) : FieldMap Json :=
  more.entries.foldl (fun acc e => acc.update e.1 fun old => .array ((old.map listed).getD [] ++ e.2.listed)) members

/-- Behind the items of a member stand those that were appended to it. -/
theorem get?_appendListed (members more : FieldMap Json) (name : String) :
    (appendListed members more).get? name = (more.get? name).elim (members.get? name) fun value =>
      some (.array (((members.get? name).map listed).getD [] ++ value.listed)) :=
  FieldMap.get?_foldl_update
    (fun (old : Option Json) (value : Json) => array ((old.map listed).getD [] ++ value.listed)) more.nodup_keys
    members name

/-- Options with other constraints of fields, and without the option of methods. -/
def replaceConstraints (options constraints : FieldMap Json) : FieldMap Json :=
  (options.erase "constraint_methods").insert "constraints" (.object constraints.entries)

/-- Profile data with the methods of every field put behind its constraints, and without the option of methods. -/
def methodsAppended (data : Json) : Json :=
  match data.members? with
  | none => data
  | some options =>
    if options.contains "constraint_methods" then
      let constraints := appendListed (data.membersOf "constraints") (data.membersOf "constraint_methods")
      .object (replaceConstraints options constraints).entries
    else data

/-- Of the replaced options the constraints are the new ones, the constraint methods are gone, and all others are
kept. -/
theorem get?_replaceConstraints (options constraints : FieldMap Json) (name : String) :
    (replaceConstraints options constraints).get? name =
      if "constraints" = name then some (.object constraints.entries)
      else if name = "constraint_methods" then none else options.get? name := by
  rw [replaceConstraints, FieldMap.get?_insert, FieldMap.get?_erase]

/-- The replaced options are known when the options were. -/
theorem known_replaceConstraints {options : FieldMap Json}
    (h : ∀ name, options.contains name → name ∈ Profile.knownOptions) (constraints : FieldMap Json) :
    ∀ name, (replaceConstraints options constraints).contains name → name ∈ Profile.knownOptions := by
  intro name hname
  rw [FieldMap.contains, get?_replaceConstraints] at hname
  split at hname
  next hconstraints =>
    rw [← hconstraints]
    decide
  next =>
    split at hname
    next => cases hname
    next => exact h name hname

end Json

/-- Two lists of constraints that can be read are read one after the other. -/
theorem ConstraintSpec.listOfJson_append {items more : List Json} {specs moreSpecs : List ConstraintSpec}
    (h : items.mapM ofJson = .ok specs) (hmore : more.mapM ofJson = .ok moreSpecs) :
    listOfJson (.array (items ++ more)) = .ok (specs ++ moreSpecs) := by
  show (items ++ more).mapM ofJson = _
  rw [List.mapM_append, h, hmore]
  rfl

namespace Profile

/-- Methods that were read are constraints that can be read as well, before they were flagged. -/
theorem exists_unflagged_of_methods {values : FieldMap Json} {methods : FieldMap (List ConstraintSpec)}
    (h : (values.mapE fun _ value => ConstraintSpec.methodsOfJson value) = .ok methods) :
    ∃ specs, (values.mapE fun _ value => ConstraintSpec.listOfJson value) = .ok specs ∧
      methods = specs.map fun listed => listed.map ConstraintSpec.asMethod := by
  have hmethods : methods = (values.map ConstraintSpec.declaredIn).map fun listed =>
      listed.map ConstraintSpec.asMethod := by
    rw [FieldMap.map_map]
    exact FieldMap.eq_map_of_mapE h fun _ _ => ConstraintSpec.eq_map_asMethod
  refine ⟨values.map ConstraintSpec.declaredIn, ?_, hmethods⟩
  apply FieldMap.mapE_eq_ok_iff.2
  apply List.forall₂_map_right_iff.2
  refine List.forall₂_same.2 fun e he => ⟨rfl, ?_⟩
  rcases FieldMap.get?_of_mapE h e.1 with ⟨hnone, -⟩ | ⟨value, read, hvalue, -, hread⟩
  · rw [(FieldMap.mem_entries_iff values e.1 e.2).1 he] at hnone
    cases hnone
  · rw [(FieldMap.mem_entries_iff values e.1 e.2).1 he] at hvalue
    cases hvalue
    obtain ⟨specs, hspecs, -⟩ := Outcome.map_eq_ok_iff.1 hread
    rw [hspecs, ConstraintSpec.eq_declaredIn hspecs]

/-- Appended lists are read as the lists of both, one behind the other. -/
theorem mapE_appendListed {members more : FieldMap Json} {specs moreSpecs : FieldMap (List ConstraintSpec)}
    (h : (members.mapE fun _ value => ConstraintSpec.listOfJson value) = .ok specs)
    (hmore : (more.mapE fun _ value => ConstraintSpec.listOfJson value) = .ok moreSpecs) :
    ((Json.appendListed members more).mapE fun _ value => ConstraintSpec.listOfJson value) =
      .ok (specs.extendAll moreSpecs) := by
  have hlisted : ∀ name, ((members.get? name).map Json.listed |>.getD []).mapM ConstraintSpec.ofJson =
      .ok (specs.listAt name) := by
    intro name
    rcases FieldMap.get?_of_mapE h name with ⟨hnone, hnone'⟩ | ⟨value, read, hvalue, hread, hvalueRead⟩
    · rw [FieldMap.listAt, hnone, hnone']
      rfl
    · rw [FieldMap.listAt_of_get? hread, hvalue, ← hvalueRead, ConstraintSpec.listOfJson_eq_mapM]
      rfl
  apply FieldMap.mapE_eq_ok_iff.2
  apply FieldMap.forall₂_of_get? (R := fun _ value read => ConstraintSpec.listOfJson value = .ok read)
  intro name
  -- a name without methods keeps its value as it is, also when that is one constraint alone
  rw [Json.get?_appendListed, FieldMap.get?_extendAll]
  rcases FieldMap.get?_of_mapE hmore name with ⟨hnone, hnone'⟩ | ⟨value, read, hvalue, hread, hvalueRead⟩
  · rw [hnone, hnone', Option.elim_none, Option.elim_none]
    exact FieldMap.get?_of_mapE h name
  · rw [hvalue, hread, Option.elim_some, Option.elim_some]
    rw [ConstraintSpec.listOfJson_eq_mapM] at hvalueRead
    exact Or.inr ⟨_, _, rfl, rfl, ConstraintSpec.listOfJson_append (hlisted name) hvalueRead⟩

/-- Where the lists of one map are put behind those of another, they can be put there flagged or not. -/
theorem compileAlike_extendAll (specs methods : FieldMap (List ConstraintSpec)) :
    CompileAlike (specs.extendAll methods).entries
      (specs.extendAll (methods.map fun listed => listed.map ConstraintSpec.asMethod)).entries := by
  have hflag : ∀ spec : ConstraintSpec, spec.CompilesAs spec.asMethod :=
    fun spec registry => (ConstraintSpec.compile_asMethod registry spec).symm
  have hsame : ∀ listed : List ConstraintSpec, List.Forall₂ ConstraintSpec.CompilesAs listed listed :=
    fun listed => List.forall₂_same.2 fun _ _ _ => rfl
  apply FieldMap.forall₂_of_get? (R := fun _ listed listed' => List.Forall₂ ConstraintSpec.CompilesAs listed listed')
  intro name
  rw [FieldMap.get?_extendAll, FieldMap.get?_extendAll, FieldMap.get?_map]
  cases hmethods : methods.get? name with
  | none =>
    cases hspecs : specs.get? name with
    | none => exact Or.inl ⟨rfl, rfl⟩
    | some listed => exact Or.inr ⟨listed, listed, rfl, rfl, hsame listed⟩
  | some listed =>
    refine Or.inr ⟨_, _, rfl, rfl, List.rel_append (hsame _) ?_⟩
    apply List.forall₂_map_right_iff.2
    exact List.forall₂_same.2 fun spec _ => hflag spec

/-- A profile with other constraints is read from the options with these constraints. -/
theorem ReadFrom.replaceConstraints {options : FieldMap Json} {p : Profile} (h : p.ReadFrom options)
    {constraints : FieldMap Json} {specs : FieldMap (List ConstraintSpec)}
    (hspecs : (constraints.mapE fun _ value => ConstraintSpec.listOfJson value) = .ok specs) :
    ReadFrom (Json.replaceConstraints options constraints) { p with constraints := specs } := by
  have hget := Json.get?_replaceConstraints options constraints
  generalize Json.replaceConstraints options constraints = options' at hget
  have hconstraints : ReadsConstraints options' "constraints" ConstraintSpec.listOfJson specs := by
    have hvalue : options'.get? "constraints" = some (.object constraints.entries) := by rw [hget, if_pos rfl]
    refine ⟨constraints, ?_, hspecs⟩
    rw [mapOption_some, option, hvalue]
    simp only [Json.members?_entries]
  have hmethods : ReadsConstraints options' "constraint_methods" ConstraintSpec.methodsOfJson FieldMap.empty := by
    have hnone : options'.get? "constraint_methods" = none := by rw [hget, if_neg (by decide), if_pos rfl]
    refine ⟨FieldMap.empty, ?_, rfl⟩
    rw [mapOption, option, hnone]
  refine h.withConstraints (fun name hfields hmethods => ?_) hconstraints hmethods
  rw [hget, if_neg (Ne.symm hfields), if_neg hmethods]

/-- Data that is read as a profile is read as one with its methods appended, in which only constraints are others. -/
theorem ofJson_methodsAppended {data : Json} {p : Profile} (h : ofJson data = .ok p) :
    ∃ constraints, ofJson data.methodsAppended = .ok { p with constraints } ∧
      CompileAlike constraints.entries p.constraints.entries := by
  obtain ⟨options, hdata, hknown, hread⟩ := ofJson_eq_ok_iff.1 h
  obtain ⟨specs, methods, ⟨values, hvalues, hspecs⟩, ⟨methodValues, hmethodValues, hmethods⟩, hconstraints⟩ :=
    hread.constraints
  have hvaluesOf := membersOf_of_mapOption hdata hvalues
  have hmethodsOf := membersOf_of_mapOption hdata hmethodValues
  unfold Json.methodsAppended
  simp only [hdata, hvaluesOf, hmethodsOf]
  split
  next =>
    obtain ⟨plain, hplain, rfl⟩ := exists_unflagged_of_methods hmethods
    have happended := hread.replaceConstraints (mapE_appendListed hspecs hplain)
    refine ⟨_, ofJson_eq_ok_iff.2 ⟨_, Json.members?_entries _, Json.known_replaceConstraints hknown _, happended⟩, ?_⟩
    rw [hconstraints]
    exact compileAlike_extendAll specs plain
  next => exact ⟨p.constraints, h, .refl _⟩

end Profile

/-- Method flags never change an evaluation: profiles that differ in their flags only are evaluated alike, in every
registry and on every input. And the methods of fields in profile data may as well be put behind the constraints. -/
theorem evaluate_ignores_method_flags :
    (∀ (registry : Registry) (p p' : Profile) (input : Source), p.unflagged = p'.unflagged →
      evaluate registry p input = evaluate registry p' input) ∧
    ∀ (data : Json) (p : Profile), Profile.ofJson data = .ok p → ∃ p', Profile.ofJson data.methodsAppended = .ok p' ∧
      ∀ (registry : Registry) (input : Source), evaluate registry p' input = evaluate registry p input := by
  constructor
  · intro registry p p' input hsame
    rw [← evaluate_unflagged registry p input, hsame, evaluate_unflagged]
  · intro data p hread
    obtain ⟨constraints, happended, halike⟩ := Profile.ofJson_methodsAppended hread
    exact ⟨_, happended, evaluate_of_compileAlike halike (.refl p.patternConstraints)⟩

/-- A profile with a flag inside a structured constraint. -/
def flaggedForm (flag : Option Bool) : Profile where
  required := ["size"]
  constraints := FieldMap.ofList
    [("size", [.structured (.structured (.named "digits") none none flag) (some "whole") none (some true)])]

/-- Data with a constraint that stands alone, and a method for the same field. -/
def sizeData : Json :=
  .object [("constraints", .object [("size", .string "word")]),
    ("constraint_methods", .object [("size", .array [.string "digits"]), ("text", .string "word")])]

/-- `sizeData` with the methods behind the constraints. -/
def sizeDataAppended : Json :=
  .object [("constraints",
    .object [("size", .array [.string "word", .string "digits"]), ("text", .array [.string "word"])])]

/-- A flag inside a wrapped constraint, and methods in a map of their own, make no difference. -/
theorem evaluate_ignores_method_flags_sizeData :
    (∀ (registry : Registry) (input : Source),
      evaluate registry (flaggedForm (some false)) input = evaluate registry (flaggedForm none) input) ∧
    ∃ p p', Profile.ofJson sizeData = .ok p ∧ Profile.ofJson sizeDataAppended = .ok p' ∧
      ∀ (registry : Registry) (input : Source), evaluate registry p' input = evaluate registry p input := by
  obtain ⟨hflags, hdata⟩ := evaluate_ignores_method_flags
  refine ⟨fun registry input => hflags registry _ _ input rfl, ?_⟩
  obtain ⟨p, hread⟩ : ∃ p, Profile.ofJson sizeData = .ok p := ⟨_, rfl⟩
  obtain ⟨p', hread', hsame⟩ := hdata sizeData p hread
  have happended : sizeData.methodsAppended = sizeDataAppended := rfl
  rw [happended] at hread'
  exact ⟨p, p', hread, hread', hsame⟩

end FormValidation
