import Mathlib.Data.List.Induction
import FormValidation.Proofs.Checking.Reads
import FormValidation.Proofs.Classification.Agreement

/-!
# Inputs that give the same fields

The same fields can be submitted in several forms: as pairs in any order that keeps the values of each name in theirs,
as a map of lists, of texts or of values, with its names in order or not. The forms list their names differently, and
some are made into a record in a way of their own. What an evaluation sees of them is the record, and through the
functions it calls the values of single names; both are the same for all forms of the same fields
(`Source.SameFields`).
-/

set_option autoImplicit false

namespace FormValidation

/-! ## The record of a source -/

/-- The new names are those of the pairs that were not met before. -/
theorem FormParams.mem_newNames {pairs : List (String × String)} {met : List String} {name : String} :
    name ∈ newNames met pairs ↔ name ∉ met ∧ name ∈ pairs.map (·.1) := by
  induction pairs generalizing met with
  | nil => simp [newNames]
  | cons pair rest ih =>
    obtain ⟨key, value⟩ := pair
    by_cases hkey : key ∈ met
    · have hrest : newNames met ((key, value) :: rest) = newNames met rest := by simp [newNames, hkey]
      rw [hrest, ih, List.map_cons, List.mem_cons]
      constructor
      · exact fun h => ⟨h.1, Or.inr h.2⟩
      · rintro ⟨hmet, rfl | hmem⟩
        · exact absurd hkey hmet
        · exact ⟨hmet, hmem⟩
    · have hrest : newNames met ((key, value) :: rest) = key :: newNames (key :: met) rest := by simp [newNames, hkey]
      rw [hrest, List.mem_cons, ih, List.map_cons, List.mem_cons, List.mem_cons, not_or]
      constructor
      · rintro (rfl | ⟨⟨-, hmet⟩, hmem⟩)
        · exact ⟨hkey, Or.inl rfl⟩
        · exact ⟨hmet, Or.inr hmem⟩
      · rintro ⟨hmet, rfl | hmem⟩
        · exact Or.inl rfl
        · by_cases hname : name = key
          · exact Or.inl hname
          · exact Or.inr ⟨⟨hname, hmet⟩, hmem⟩

namespace Source

/-- Names without a value are left out, single values are scalars, and several are a list. -/
inductive Normalises : List String → Option FieldValue → Prop
  | absent : Normalises [] none
  | once (text : String) : Normalises [text] (some (.scalar text))
  | repeated {texts : List String} (h : 2 ≤ texts.length) : Normalises texts (some (.list texts))

/-- The value made of texts is what they normalise to. -/
theorem normalises_valueOf (texts : List String) : Normalises texts (valueOf texts) := by
  match texts with
  | [] => exact .absent
  | [text] => exact .once text
  | first :: second :: rest => exact .repeated (by simp)

/-- A name that is not listed has no values. -/
theorem mem_names_of_values {source : Source} {name : String} (h : source.values name ≠ []) : name ∈ source.names := by
  have hmap : ∀ {α : Type} (m : FieldMap α), m.get? name ≠ none → name ∈ m.keys := by
    intro α m hm
    rw [FieldMap.mem_keys_iff]
    exact Option.isSome_iff_ne_none.2 hm
  have hhashed : ∀ {α : Type} (m : HashedMap α), m.get? name ≠ none → name ∈ m.names := by
    intro α m hm
    by_contra hmem
    exact hm (FieldMap.lookup_eq_none_of_not_mem hmem)
  cases source with
  | record fields => exact hmap fields fun hnone => h (by rw [values, hnone]; rfl)
  | texts fields => exact hmap fields fun hnone => h (by rw [values, hnone]; rfl)
  | lists fields => exact hmap fields fun hnone => h (by rw [values, hnone]; rfl)
  | form params =>
    refine FormParams.mem_newNames.2 ⟨List.not_mem_nil, ?_⟩
    obtain ⟨value, hvalue⟩ := List.exists_mem_of_ne_nil _ h
    obtain ⟨pair, hpair, -⟩ := List.mem_map.1 hvalue
    obtain ⟨hmem, hname⟩ := List.mem_filter.1 hpair
    exact List.mem_map.2 ⟨pair, hmem, by simpa using hname⟩
  | hashedRecord fields => exact hhashed fields fun hnone => h (by rw [values, hnone]; rfl)
  | hashedTexts fields => exact hhashed fields fun hnone => h (by rw [values, hnone]; rfl)
  | hashedLists fields => exact hhashed fields fun hnone => h (by rw [values, hnone]; rfl)

/-- To collect one more name puts its value in, if it has one. -/
theorem collect_concat (values : String → List String) (names : List String) (last : String) :
    collect values (names ++ [last]) =
      (valueOf (values last)).elim (collect values names) ((collect values names).insert last) := by
  unfold collect
  rw [List.foldl_append, List.foldl_cons, List.foldl_nil]
  cases valueOf (values last) <;> rfl

/-- Collecting puts a listed name in once or several times, always with the same value. -/
theorem get?_collect {values : String → List String} {names : List String}
    (h : ∀ name, values name ≠ [] → name ∈ names) (name : String) :
    (collect values names).get? name = valueOf (values name) := by
  have hlisted : ∀ listed, (collect values listed).get? name =
      if name ∈ listed then valueOf (values name) else none := by
    intro listed
    -- from the end, since the name that was put in last is the one that counts
    induction listed using List.reverseRecOn with
    | nil => rfl
    | append_singleton rest last ih =>
      rw [collect_concat]
      by_cases hlast : last = name
      · subst hlast
        cases hvalue : valueOf (values last) with
        | none => simp [ih, hvalue]
        | some value => simp [FieldMap.get?_insert]
      · have hname : ¬ name = last := fun e => hlast e.symm
        cases valueOf (values last) with
        | none => simp [ih, hname]
        | some value => simp [FieldMap.get?_insert, ih, hname, hlast]
  rw [hlisted]
  by_cases hname : name ∈ names
  · rw [if_pos hname]
  · have hnone : values name = [] := by
      by_contra hvalues
      exact hname (h name hvalues)
    rw [if_neg hname, hnone]
    rfl

/-- The record of a source that is not a map of values has what the values of each name stand for. -/
theorem get?_toRecord_of_collect (source : Source)
    (h : source.toRecord = collect (fun name => source.values name) source.names) (name : String) :
    source.toRecord.get? name = valueOf (source.values name) := by
  rw [h]
  exact get?_collect (fun _ => mem_names_of_values) name

/-- A record made of a hashed map holds what the map holds. -/
theorem get?_toRecord_hashedRecord (fields : HashedMap FieldValue) (name : String) :
    (hashedRecord fields).toRecord.get? name = fields.get? name :=
  FieldMap.get?_ofList fields.nodup name

/-! ## The same fields -/

/-- Two sources of the same fields. -/
inductive SameFields : Source → Source → Prop
  | forms {params params' : FormParams} (h : ∀ name, params.values name = params'.values name) :
      SameFields (.form params) (.form params')
  | lists {params : FormParams} {fields : FieldMap (List String)}
      (h : ∀ name, params.values name = (fields.get? name).getD []) : SameFields (.form params) (.lists fields)
  | hashedLists {params : FormParams} {fields : HashedMap (List String)}
      (h : ∀ name, params.values name = (fields.get? name).getD []) : SameFields (.form params) (.hashedLists fields)
  | hashed {fields : Record} {fields' : HashedMap FieldValue} (h : ∀ name, fields.get? name = fields'.get? name) :
      SameFields (.record fields) (.hashedRecord fields')
  | texts {fields : FieldMap String} {fields' : Record}
      (h : ∀ name, fields'.get? name = (fields.get? name).map .scalar) : SameFields (.texts fields) (.record fields')
  | hashedTexts {fields : HashedMap String} {fields' : Record}
      (h : ∀ name, fields'.get? name = (fields.get? name).map .scalar) :
      SameFields (.hashedTexts fields) (.record fields')

variable {a b : Source}

/-- Sources of the same fields have the same values under every name. -/
theorem SameFields.values_eq (h : SameFields a b) (name : String) : b.values name = a.values name := by
  cases h with
  | forms h => exact (h name).symm
  | lists h => exact (h name).symm
  | hashedLists h => exact (h name).symm
  | hashed h => rw [values, values, h]
  | @texts fields fields' h =>
    rw [values, values, h]
    cases fields.get? name <;> rfl
  | @hashedTexts fields fields' h =>
    rw [values, values, h]
    cases fields.get? name <;> rfl

/-- Sources of the same fields make the same record. -/
theorem SameFields.toRecord_eq (h : SameFields a b) : b.toRecord = a.toRecord := by
  refine FieldMap.ext_get? fun name => ?_
  have hvalues := h.values_eq name
  cases h with
  | forms h => rw [get?_toRecord_of_collect _ rfl, get?_toRecord_of_collect _ rfl, hvalues]
  | lists h => rw [get?_toRecord_of_collect _ rfl, get?_toRecord_of_collect _ rfl, hvalues]
  | hashedLists h => rw [get?_toRecord_of_collect _ rfl, get?_toRecord_of_collect _ rfl, hvalues]
  | hashed h => rw [get?_toRecord_hashedRecord, toRecord, h]
  | @texts fields fields' h =>
    rw [get?_toRecord_of_collect (.texts fields) rfl, toRecord, h, values]
    cases fields.get? name <;> rfl
  | @hashedTexts fields fields' h =>
    rw [get?_toRecord_of_collect (.hashedTexts fields) rfl, toRecord, h, values]
    cases fields.get? name <;> rfl

end Source

/-! ## Evaluations -/

/-- Where the record is the same and the constraints answer alike, two inputs are evaluated alike. -/
theorem evaluate_of_alikeOn {registry : Registry} {profile : Profile} {a b : Source} (hrecord : b.toRecord = a.toRecord)
    (hcalls : ∀ field, ∀ spec ∈ (Reading.of registry profile a).constraints field,
      spec.CallsOnly (Reading.of registry profile a).registry (ConstraintFunction.AlikeOn a b)) :
    evaluate registry profile b = evaluate registry profile a := by
  unfold evaluate evaluateWithin
  rcases hmerge : registry.mergePackages profile.packages with ⟨merged, fault | ⟨⟨⟩⟩⟩
  · rfl
  · cases hprep : Preparation.ofProfile merged profile with
    | error fault => simp only [hprep]
    | ok prep =>
      have hresolved := Preparation.resolvedFrom_of_ofProfile hprep
      have hreading : Reading.of registry profile a = ⟨merged, profile, a.toRecord⟩ := by rw [Reading.of, hmerge]
      rw [hreading] at hcalls
      have halike := ConstraintPlan.alikeOn_expand (r := ⟨merged, profile, a.toRecord⟩) hresolved.constraints hcalls
        (prep.classify profile a.toRecord).working
      have hcheck := checkAll_otherInput visitLimit halike prep.untaint (prep.classify profile a.toRecord).closed
        (prep.classify profile a.toRecord).working
      have hrun : prep.run visitLimit profile b = prep.run visitLimit profile a := by
        unfold Preparation.run
        simp only [hrecord, hcheck]
      simp only [hprep, hrun]

/-- Inputs are interchangeable. Form parameters give every name the value that its submitted values stand for in their
order. And two sources of the same fields are evaluated alike by every profile whose functions look at the input by the
values of single names only. -/
theorem evaluate_same_fields :
    (∀ (params : FormParams) (name : String),
      Source.Normalises (params.values name) ((Source.form params).toRecord.get? name)) ∧
    ∀ (registry : Registry) (profile : Profile) (a b : Source), Source.SameFields a b →
      (∀ field, ∀ spec ∈ (Reading.of registry profile a).constraints field,
        spec.CallsOnly (Reading.of registry profile a).registry ConstraintFunction.ReadsInputByValues) →
      evaluate registry profile a = evaluate registry profile b := by
  constructor
  · intro params name
    rw [Source.get?_toRecord_of_collect _ rfl]
    exact Source.normalises_valueOf _
  · intro registry profile a b hsame hcalls
    have halike : ∀ function : ConstraintFunction, function.ReadsInputByValues → function.AlikeOn a b :=
      fun function hfunction => hfunction.alikeOn hsame.values_eq
    exact (evaluate_of_alikeOn hsame.toRecord_eq fun field spec hspec => (hcalls field spec hspec).imp halike).symm

/-- A form whose stops are accepted as long as nobody else comes along. -/
def tripForm : Profile where
  required := ["stop"]
  optional := ["guest"]
  constraints := FieldMap.ofList [("stop", [.method fun context _ =>
    { outcome := .ok (if (context.inputValues "guest").length < 2 then .matched context.value else .rejected) }])]

/-- A trip with two stops and a guest, submitted between them. -/
def trip : FormParams := ⟨[("stop", "Rome"), ("guest", "Ann"), ("stop", "Oslo")]⟩

/-- The same trip with its guest first. -/
def tripGuestFirst : FormParams := ⟨[("guest", "Ann"), ("stop", "Rome"), ("stop", "Oslo")]⟩

/-- The same trip as a map of lists. -/
def tripLists : HashedMap (List String) := ⟨[("stop", ["Rome", "Oslo"]), ("guest", ["Ann"])], by decide⟩

/-- A trip as form parameters in two orders and as hashed lists: all three are evaluated alike. -/
theorem evaluate_same_fields_trip :
    Source.Normalises ["Rome", "Oslo"] ((Source.form trip).toRecord.get? "stop") ∧
      evaluate Registry.empty tripForm (.form trip) = evaluate Registry.empty tripForm (.form tripGuestFirst) ∧
      evaluate Registry.empty tripForm (.form trip) = evaluate Registry.empty tripForm (.hashedLists tripLists) ∧
      ((evaluate Registry.empty tripForm (.hashedLists tripLists)).outcome.toOption.map fun results =>
        results.valid.entries) = some [("guest", .scalar "Ann"), ("stop", .list ["Rome", "Oslo"])] := by
  obtain ⟨hnormalises, hsame⟩ := evaluate_same_fields
  have hcalls : ∀ field, ∀ spec ∈ (Reading.of Registry.empty tripForm (.form trip)).constraints field,
      spec.CallsOnly (Reading.of Registry.empty tripForm (.form trip)).registry
        ConstraintFunction.ReadsInputByValues := by
    intro field spec hspec
    rw [Reading.eq_of_mem_constraints rfl rfl hspec]
    intro context input params hvalues
    simp only [Context.inputValues, hvalues]
    rfl
  have hforms : ∀ name, trip.values name = tripGuestFirst.values name := by
    intro name
    by_cases hstop : "stop" = name
    · subst hstop
      decide
    · by_cases hguest : "guest" = name
      · subst hguest
        decide
      · simp [FormParams.values, trip, tripGuestFirst, hstop, hguest]
  have hlists : ∀ name, trip.values name = (tripLists.get? name).getD [] := by
    intro name
    by_cases hstop : "stop" = name
    · subst hstop
      decide
    · by_cases hguest : "guest" = name
      · subst hguest
        decide
      · simp [FormParams.values, trip, tripLists, HashedMap.get?, FieldMap.lookup, hstop, hguest]
  exact ⟨hnormalises trip "stop", hsame _ _ _ _ (.forms hforms) hcalls, hsame _ _ _ _ (.hashedLists hlists) hcalls, rfl⟩

end FormValidation
