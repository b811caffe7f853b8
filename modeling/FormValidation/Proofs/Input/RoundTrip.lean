import FormValidation.Results
import FormValidation.Proofs.FieldMap

/-!
# Records as data, there and back

A record is written as a JSON object and read from one. Reading accepts more than writing produces, so it is first said
without regard to the reader what a member gives its field (`Json.Gives`) and which members cannot give anything
(`Json.TooDeep`). The reader then accepts exactly the objects without a member that is too deep, takes from every member
what it gives, and otherwise names the first such member. What was written is read back as it was
(`Record.reads_what_it_writes`).
-/

set_option autoImplicit false

namespace FormValidation

namespace Json

/-- The value has values in it. -/
inductive IsContainer : Json → Prop
  | array (items : List Json) : IsContainer (.array items)
  | object (members : List (String × Json)) : IsContainer (.object members)

/-- The value is an object, or an array with an array or an object in it. -/
inductive TooDeep : Json → Prop
  | object (members : List (String × Json)) : TooDeep (.object members)
  | array {items : List Json} {item : Json} (hmem : item ∈ items) (h : item.IsContainer) : TooDeep (.array items)

/-- The text of a value that is alone or in a list. -/
inductive Spells : Json → String → Prop
  | null : Spells .null ""
  | string (text : String) : Spells (.string text) text
  | number (n : JsonNumber) : Spells (.number n) n.text
  | yes : Spells (.bool true) "true"
  | no : Spells (.bool false) "false"

/-- The value of a field that stands in an object as a member: the list of the texts of an array, or the text of any
other value but null. -/
inductive Gives : Json → FieldValue → Prop
  | list {items : List Json} {texts : List String} (h : List.Forall₂ Spells items texts) :
      Gives (.array items) (.list texts)
  | scalar {value : Json} {text : String} (hnull : value ≠ .null) (h : value.Spells text) : Gives value (.scalar text)

/-- What spells a text is no array and no object. -/
theorem not_isContainer_of_spells {value : Json} {text : String} (h : value.Spells text) : ¬ value.IsContainer := by
  intro hcontainer
  cases hcontainer <;> cases h

/-- What is no array and no object spells a text. -/
theorem exists_spells {value : Json} (h : ¬ value.IsContainer) : ∃ text, value.Spells text := by
  cases value with
  | null => exact ⟨_, .null⟩
  | bool b => cases b <;> exact ⟨_, by constructor⟩
  | number n => exact ⟨_, .number n⟩
  | string text => exact ⟨_, .string text⟩
  | array items => exact absurd (.array items) h
  | object members => exact absurd (.object members) h

/-- Every member but null gives a value or is too deep. -/
theorem exists_gives {value : Json} (hnull : value ≠ .null) (h : ¬ value.TooDeep) : ∃ field, value.Gives field := by
  by_cases harray : ∃ items, value = .array items
  · obtain ⟨items, rfl⟩ := harray
    have hitems : ∀ item ∈ items, ∃ text, item.Spells text :=
      fun item hitem => exists_spells fun hcontainer => h (.array hitem hcontainer)
    have hexists : ∃ texts, List.Forall₂ Spells items texts := by
      clear h hnull
      induction items with
      | nil => exact ⟨[], .nil⟩
      | cons item rest ih =>
        obtain ⟨text, htext⟩ := hitems item List.mem_cons_self
        obtain ⟨texts, htexts⟩ := ih fun other hother => hitems other (List.mem_cons_of_mem _ hother)
        exact ⟨text :: texts, .cons htext htexts⟩
    obtain ⟨texts, htexts⟩ := hexists
    exact ⟨_, .list htexts⟩
  · have hflat : ¬ value.IsContainer := by
      intro hcontainer
      cases hcontainer with
      | array items => exact harray ⟨items, rfl⟩
      | object members => exact h (.object members)
    obtain ⟨text, htext⟩ := exists_spells hflat
    exact ⟨_, .scalar hnull htext⟩

/-- Null gives no value. -/
theorem not_gives_null {field : FieldValue} : ¬ Json.null.Gives field := by
  intro h
  cases h with
  | scalar hnull _ => exact hnull rfl

/-- What gives a value is not null. -/
theorem Gives.ne_null {value : Json} {field : FieldValue} (h : value.Gives field) : value ≠ .null := by
  rintro rfl
  exact not_gives_null h

/-- What gives a value is not nested too deep. -/
theorem Gives.not_tooDeep {value : Json} {field : FieldValue} (h : value.Gives field) : ¬ value.TooDeep := by
  intro hdeep
  cases hdeep with
  | object members =>
    cases h with
    | scalar _ htext => cases htext
  | array hmem hitem =>
    cases h with
    | list htexts =>
      obtain ⟨text, -, htext⟩ := Outcome.exists_of_forall₂_of_mem (R := flip Spells) htexts.flip hmem
      exact not_isContainer_of_spells htext hitem
    | scalar _ htext => cases htext

/-- A value spells one text only. -/
theorem Spells.unique {value : Json} {text other : String} (h : value.Spells text) (h' : value.Spells other) :
    text = other := by
  cases h <;> cases h' <;> rfl

/-- A member gives one value only. -/
theorem Gives.unique {value : Json} {field other : FieldValue} (h : value.Gives field) (h' : value.Gives other) :
    field = other := by
  cases h with
  | list htexts =>
    cases h' with
    | list htexts' =>
      congr 1
      exact List.right_unique_forall₂' (R := Spells) (fun _ _ _ => Spells.unique) htexts htexts'
    | scalar _ htext => cases htext
  | scalar _ htext =>
    cases h' with
    | list _ => cases htext
    | scalar _ htext' => rw [htext.unique htext']

/-- A written value gives itself. -/
theorem gives_toJson (value : FieldValue) : value.toJson.Gives value := by
  cases value with
  | scalar text => exact .scalar (by simp [FieldValue.toJson]) (.string text)
  | list texts =>
    refine .list ?_
    rw [List.forall₂_map_left_iff]
    exact List.forall₂_same.2 fun text _ => .string text

end Json

namespace Record

variable {field : String}

/-! ## One member -/

/-- The text of a scalar is the one that it spells. -/
theorem scalarText_of_spells {value : Json} {text : String} (h : value.Spells text) :
    scalarText field value = .ok text := by
  cases h <;> rfl

/-- An array or an object has no text, and the fault names the field. -/
theorem scalarText_of_isContainer {value : Json} (h : value.IsContainer) :
    scalarText field value = .error (.nested field) := by
  cases h <;> rfl

/-- The value of a member is the one that it gives. -/
theorem memberValue_of_gives {member : Json} {value : FieldValue} (h : member.Gives value) :
    memberValue field member = .ok (some value) := by
  cases h with
  | list htexts =>
    have hitems : List.Forall₂ (fun item text => scalarText field item = .ok text) _ _ :=
      htexts.imp fun _ _ => scalarText_of_spells
    rw [memberValue, Outcome.mapM_eq_ok_iff.2 hitems]
  | scalar hnull htext =>
    cases htext with
    | null => exact absurd rfl hnull
    | string text => rfl
    | number n => rfl
    | yes => rfl
    | no => rfl

/-- The first item that is a value with values in it ends the reading of a list. -/
theorem mapM_scalarText_of_mem {items : List Json} {item : Json} (hmem : item ∈ items) (h : item.IsContainer) :
    items.mapM (scalarText field) = .error (.nested field) := by
  induction items with
  | nil => cases hmem
  | cons head rest ih =>
    rw [List.mapM_cons]
    by_cases hhead : head.IsContainer
    · rw [scalarText_of_isContainer hhead]
      rfl
    · obtain ⟨text, htext⟩ := Json.exists_spells hhead
      have hrest : item ∈ rest := by
        rcases List.mem_cons.1 hmem with rfl | hrest
        · exact absurd h hhead
        · exact hrest
      rw [scalarText_of_spells htext, ih hrest]
      rfl

/-- A member that is nested too deep has no value, and the fault names the field. -/
theorem memberValue_of_tooDeep {member : Json} (h : member.TooDeep) :
    memberValue field member = .error (.nested field) := by
  cases h with
  | object members => rfl
  | array hmem hitem => rw [memberValue, mapM_scalarText_of_mem hmem hitem]

/-! ## All members -/

/-- Members of which none is too deep are put in one after the other; null changes nothing. -/
theorem exists_addMembers {members : List (String × Json)} (hsorted : members.Pairwise (fun a b => a.1 < b.1))
    (hflat : ∀ e ∈ members, ¬ e.2.TooDeep) (start : Record) :
    ∃ fields, addMembers start members = .ok fields ∧
      ∀ name, ((FieldMap.lookup name members).getD .null = .null → fields.get? name = start.get? name) ∧
        ∀ value, ((FieldMap.lookup name members).getD .null).Gives value → fields.get? name = some value := by
  induction members generalizing start with
  | nil => exact ⟨start, rfl, fun name => ⟨fun _ => rfl, fun value h => absurd h Json.not_gives_null⟩⟩
  | cons head rest ih =>
    obtain ⟨key, member⟩ := head
    obtain ⟨hhead, hrest⟩ := List.pairwise_cons.1 hsorted
    -- the names ascend, so the members behind the first one leave its field alone
    have hfresh : FieldMap.lookup key rest = none := FieldMap.lookup_eq_none_of_lt hhead
    have hmore := ih hrest fun e he => hflat e (List.mem_cons_of_mem _ he)
    by_cases hnull : member = .null
    · subst hnull
      obtain ⟨fields, hfields, hget⟩ := hmore start
      refine ⟨fields, hfields, fun name => ?_⟩
      by_cases hname : key = name
      · subst hname
        have hkept := (hget key).1 (by rw [hfresh]; rfl)
        exact ⟨fun _ => hkept, fun value h => absurd (by simpa [FieldMap.lookup] using h) Json.not_gives_null⟩
      · simpa [FieldMap.lookup, hname] using hget name
    · obtain ⟨value, hvalue⟩ := Json.exists_gives hnull (hflat _ List.mem_cons_self)
      obtain ⟨fields, hfields, hget⟩ := hmore (start.insert key value)
      refine ⟨fields, ?_, fun name => ?_⟩
      · rw [addMembers, memberValue_of_gives hvalue]
        exact hfields
      · by_cases hname : key = name
        · subst hname
          have hkept := (hget key).1 (by rw [hfresh]; rfl)
          rw [FieldMap.get?_insert, if_pos rfl] at hkept
          refine ⟨fun h => absurd (by simpa [FieldMap.lookup] using h) hnull, fun other hother => ?_⟩
          have hsame : value = other := hvalue.unique (by simpa [FieldMap.lookup] using hother)
          rw [hkept, hsame]
        · have hother := hget name
          rw [FieldMap.get?_insert, if_neg hname] at hother
          simpa [FieldMap.lookup, hname] using hother

/-- The first member that is too deep ends the reading. -/
theorem addMembers_of_tooDeep {before after : List (String × Json)} {e : String × Json} (h : e.2.TooDeep)
    (hbefore : ∀ a ∈ before, ¬ a.2.TooDeep) (start : Record) :
    addMembers start (before ++ e :: after) = .error (.nested e.1) := by
  induction before generalizing start with
  | nil => rw [List.nil_append, addMembers, memberValue_of_tooDeep h]
  | cons head rest ih =>
    have hrest := ih fun a ha => hbefore a (List.mem_cons_of_mem _ ha)
    rw [List.cons_append]
    by_cases hnull : head.2 = .null
    · have hnone : memberValue head.1 head.2 = .ok none := by rw [hnull]; rfl
      rw [addMembers, hnone]
      exact hrest start
    · obtain ⟨value, hvalue⟩ := Json.exists_gives hnull (hbefore _ List.mem_cons_self)
      rw [addMembers, memberValue_of_gives hvalue]
      exact hrest _

/-! ## Objects -/

/-- The record has the fields that the members of an object give, and no others. -/
def Holds (fields : Record) (members : FieldMap Json) : Prop :=
  ∀ name, (members.get? name = none ∨ members.get? name = some .null → fields.get? name = none) ∧
    ∀ member, members.get? name = some member → member ≠ .null →
      ∃ value, member.Gives value ∧ fields.get? name = some value

/-- The member of a name is too deep, and no member of an earlier name is. -/
def FirstTooDeep (members : FieldMap Json) (name : String) : Prop :=
  (∃ member, members.get? name = some member ∧ member.TooDeep) ∧
    ∀ earlier member, earlier < name → members.get? earlier = some member → ¬ member.TooDeep

/-- An object without members that are nested too deep is read as a record that holds what they give. -/
theorem exists_ofJson {value : Json} {members : FieldMap Json} (hmembers : value.members? = some members)
    (hflat : ∀ name member, members.get? name = some member → ¬ member.TooDeep) :
    ∃ fields, ofJson value = .ok fields ∧ fields.Holds members := by
  have hentries : ∀ e ∈ members.entries, ¬ e.2.TooDeep :=
    fun e he => hflat e.1 e.2 ((FieldMap.mem_entries_iff members e.1 e.2).1 he)
  obtain ⟨fields, hfields, hget⟩ := exists_addMembers members.ascending hentries FieldMap.empty
  have hread : ofJson value = .ok fields := by rw [ofJson, hmembers]; exact hfields
  refine ⟨fields, hread, fun name => ⟨fun habsent => ?_, fun member hmember hnull => ?_⟩⟩
  · refine (hget name).1 ?_
    show (members.get? name).getD .null = .null
    rcases habsent with hnone | hnull
    · rw [hnone]; rfl
    · rw [hnull]; rfl
  · obtain ⟨given, hgiven⟩ := Json.exists_gives hnull (hflat name member hmember)
    refine ⟨given, hgiven, (hget name).2 given ?_⟩
    show ((members.get? name).getD .null).Gives given
    rw [hmember]
    exact hgiven

/-- An object is refused for its first member that is nested too deep. -/
theorem ofJson_of_firstTooDeep {value : Json} {members : FieldMap Json} {name : String}
    (hmembers : value.members? = some members) (h : FirstTooDeep members name) :
    ofJson value = .error (.nested name) := by
  obtain ⟨⟨member, hmember, hdeep⟩, hfirst⟩ := h
  -- the entries are in the order of the names: before this one, none is too deep
  obtain ⟨before, after, hsplit⟩ := List.append_of_mem ((FieldMap.mem_entries_iff members name member).2 hmember)
  have hsorted := members.ascending
  rw [hsplit, List.pairwise_append] at hsorted
  have hbefore : ∀ a ∈ before, ¬ a.2.TooDeep := by
    intro a ha
    have hentry : a ∈ members.entries := by rw [hsplit]; exact List.mem_append_left _ ha
    exact hfirst a.1 a.2 (hsorted.2.2 a ha _ List.mem_cons_self) ((FieldMap.mem_entries_iff members a.1 a.2).1 hentry)
  rw [ofJson, hmembers]
  show addMembers FieldMap.empty members.entries = _
  rw [hsplit]
  exact addMembers_of_tooDeep hdeep hbefore _

/-- Where some member is too deep, one of them is the first. -/
theorem exists_firstTooDeep {members : FieldMap Json} {name : String} {member : Json}
    (hmember : members.get? name = some member) (h : member.TooDeep) : ∃ first, FirstTooDeep members first := by
  obtain ⟨first, member, hfirst, hdeep, hearlier⟩ := FieldMap.exists_first hmember h
  exact ⟨first, ⟨member, hfirst, hdeep⟩, hearlier⟩

/-- An object is read as a record exactly when no member is nested too deep. -/
theorem readable_iff {value : Json} {members : FieldMap Json} (hmembers : value.members? = some members) :
    (∃ fields, ofJson value = .ok fields) ↔ ∀ name member, members.get? name = some member → ¬ member.TooDeep := by
  constructor
  · rintro ⟨fields, hfields⟩ name member hmember hdeep
    obtain ⟨first, hfirst⟩ := exists_firstTooDeep hmember hdeep
    rw [ofJson_of_firstTooDeep hmembers hfirst] at hfields
    cases hfields
  · intro hflat
    obtain ⟨fields, hfields, -⟩ := exists_ofJson hmembers hflat
    exact ⟨fields, hfields⟩

/-- A record that was read holds what the members give. -/
theorem holds_of_ofJson {value : Json} {members : FieldMap Json} {fields : Record}
    (hmembers : value.members? = some members) (h : ofJson value = .ok fields) : fields.Holds members := by
  obtain ⟨read, hread, hholds⟩ := exists_ofJson hmembers ((readable_iff hmembers).1 ⟨fields, h⟩)
  rw [h] at hread
  cases hread
  exact hholds

/-- An object is refused exactly for its first member that is nested too deep. -/
theorem ofJson_eq_error_iff {value : Json} {members : FieldMap Json} (hmembers : value.members? = some members)
    {fault : RecordFault} : ofJson value = .error fault ↔ ∃ name, fault = .nested name ∧ FirstTooDeep members name := by
  constructor
  · intro h
    have hdeep : ∃ name member, members.get? name = some member ∧ member.TooDeep := by
      by_contra hnone
      push Not at hnone
      obtain ⟨fields, hfields⟩ := (readable_iff hmembers).2 hnone
      rw [h] at hfields
      cases hfields
    obtain ⟨name, member, hmember, hdeep⟩ := hdeep
    obtain ⟨first, hfirst⟩ := exists_firstTooDeep hmember hdeep
    have hfault := ofJson_of_firstTooDeep hmembers hfirst
    rw [h] at hfault
    cases hfault
    exact ⟨first, rfl, hfirst⟩
  · rintro ⟨name, rfl, hfirst⟩
    exact ofJson_of_firstTooDeep hmembers hfirst

/-! ## What was written -/

/-- The members of a record that was written are its values. -/
theorem members?_toJson (fields : Record) : fields.toJson.members? = some (fields.map FieldValue.toJson) :=
  congrArg some (FieldMap.ofList_entries (fields.map FieldValue.toJson))

/-- A record is read back as it was written. -/
theorem ofJson_toJson (fields : Record) : ofJson fields.toJson = .ok fields := by
  have hget : ∀ name, (fields.map FieldValue.toJson).get? name = (fields.get? name).map FieldValue.toJson :=
    FieldMap.get?_map _ fields
  have hflat : ∀ name member, (fields.map FieldValue.toJson).get? name = some member → ¬ member.TooDeep := by
    intro name member hmember hdeep
    rw [hget, Option.map_eq_some_iff] at hmember
    obtain ⟨value, -, rfl⟩ := hmember
    exact (Json.gives_toJson value).not_tooDeep hdeep
  obtain ⟨read, hread, hholds⟩ := exists_ofJson fields.members?_toJson hflat
  have hsame : read = fields := by
    refine FieldMap.ext_get? fun name => ?_
    cases hvalue : fields.get? name with
    | none => exact (hholds name).1 (Or.inl (by rw [hget, hvalue]; rfl))
    | some value =>
      have hgives := Json.gives_toJson value
      obtain ⟨other, hother, hheld⟩ := (hholds name).2 value.toJson (by rw [hget, hvalue]; rfl) hgives.ne_null
      rw [hheld, hother.unique hgives]
  rw [hread, hsame]

/-- In results that were written the member for valid fields is the record of these. -/
theorem valid_toJson (results : ValidationResults) :
    (results.toJson.members?.bind fun members => members.get? "valid") = some results.valid.toJson := by
  simp [ValidationResults.toJson, Json.members?, FieldMap.ofList, FieldMap.get?_insert]

/-- A record is read back as it was written, also as the valid fields of an evaluation. A value can be read when it is
an object without a member that is too deep; an object with such members is refused in the name of the first of them, in
the order of the names. What was read has no field for a member that is null, and for every other one what it gives, as
many elements as an array has items; and it is read again as it is written. -/
theorem reads_what_it_writes :
    (∀ fields : Record, ofJson fields.toJson = .ok fields) ∧
    (∀ results : ValidationResults, ∃ members valid, results.toJson.members? = some members ∧
      members.get? "valid" = some valid ∧ ofJson valid = .ok results.valid) ∧
    (∀ value : Json, (∃ fields, ofJson value = .ok fields) ↔ ∃ members, value.members? = some members ∧
      ∀ name member, members.get? name = some member → ¬ member.TooDeep) ∧
    (∀ (value : Json) (members : FieldMap Json), value.members? = some members → ∀ fault,
      (ofJson value = .error fault ↔ ∃ name, fault = .nested name ∧ FirstTooDeep members name)) ∧
    (∀ (value : Json) (members : FieldMap Json) (fields : Record), value.members? = some members →
      ofJson value = .ok fields → fields.Holds members ∧
        (∀ name items, members.get? name = some (.array items) →
          ∃ texts, fields.get? name = some (.list texts) ∧ texts.length = items.length) ∧
        ofJson fields.toJson = .ok fields) := by
  refine ⟨ofJson_toJson, fun results => ?_, fun value => ?_, fun value members hmembers fault => ?_,
    fun value members fields hmembers hread => ?_⟩
  · obtain ⟨members, hmembers, hvalid⟩ := Option.bind_eq_some_iff.1 (valid_toJson results)
    exact ⟨members, _, hmembers, hvalid, ofJson_toJson results.valid⟩
  · constructor
    · rintro ⟨fields, hfields⟩
      cases hmembers : value.members? with
      | none => simp [ofJson, hmembers] at hfields
      | some members => exact ⟨members, rfl, (readable_iff hmembers).1 ⟨fields, hfields⟩⟩
    · rintro ⟨members, hmembers, hflat⟩
      exact (readable_iff hmembers).2 hflat
  · exact ofJson_eq_error_iff hmembers
  · have hholds := holds_of_ofJson hmembers hread
    refine ⟨hholds, fun name items hitems => ?_, ofJson_toJson fields⟩
    obtain ⟨given, hgiven, hfield⟩ := (hholds name).2 _ hitems (by simp)
    cases hgiven with
    | list htexts => exact ⟨_, hfield, htexts.length_eq.symm⟩
    | scalar _ htext => cases htext

/-- Data with a list of items of several kinds, a member that is null and a flag. -/
def surveyData : Json :=
  .object [("tags", .array [.string "a", .null, .number (.integer 7)]), ("gone", .null), ("agree", .bool true)]

/-- The record that `surveyData` stands for. -/
def survey : Record := FieldMap.ofList [("agree", .scalar "true"), ("tags", .list ["a", "", "7"])]

/-- Data with two members that are too deep, of which the one that is written later has the earlier name. -/
def nestedData : Json := .object [("b", .object []), ("a", .array [.array []])]

/-- A survey with a null and a list of three answers is read again as it was, and of two members that are nested too
deep the first is named. -/
theorem reads_what_it_writes_survey :
    ofJson surveyData = .ok survey ∧ survey.get? "gone" = none ∧
      (∃ texts, survey.get? "tags" = some (.list texts) ∧ texts.length = 3) ∧ ofJson survey.toJson = .ok survey ∧
      ∃ name, RecordFault.nested "a" = .nested name ∧
        FirstTooDeep (FieldMap.ofList [("a", .array [.array []]), ("b", .object [])]) name := by
  have hread : ofJson surveyData = .ok survey := by decide
  have hmembers : surveyData.members? = some (FieldMap.ofList [("agree", .bool true), ("gone", .null),
      ("tags", .array [.string "a", .null, .number (.integer 7)])]) := rfl
  obtain ⟨-, -, -, hrefused, hread_again⟩ := reads_what_it_writes
  obtain ⟨hholds, hlists, hagain⟩ := hread_again surveyData _ survey hmembers hread
  refine ⟨hread, (hholds "gone").1 (Or.inr rfl), hlists "tags" _ rfl, hagain, ?_⟩
  exact (hrefused nestedData _ rfl (.nested "a")).1 rfl

end Record

end FormValidation
