import FormValidation.Proofs.Checking.Turn

/-!
# What the history of a check tells

The history of a run lists every visit with the answer of its call. Three things can be read off it. A field is found
invalid just when one of its visits was answered by a rejection (`checkAll_invalid_iff`). Every name under which it is
found invalid is that of such a visit (`checkAll_reports`). And if no answer wrote anything, every value that stands in
the end is the one the field had at the start, but for elements that an untainted field took from its constraints
(`checkAll_keeps_values`).
-/

set_option autoImplicit false

namespace FormValidation

/-- The visit was answered by a rejection. -/
def Visit.Rejected (v : Visit) : Prop := ∃ answer, v.answer = some answer ∧ answer.outcome = .ok .rejected

instance : DecidablePred Visit.Rejected := fun v =>
  decidable_of_iff (v.answer.any fun answer => match answer.outcome with | .ok .rejected => true | _ => false) (by
    unfold Visit.Rejected
    rw [Option.any_eq_true]
    refine exists_congr fun answer => and_congr_right fun _ => ?_
    split <;> simp_all)

/-- The visit was answered by a rejection that is reported under the name: the one that the call chose, or else that of
the constraint. -/
def Visit.RejectedAs (v : Visit) (name : String) : Prop :=
  ∃ answer, v.answer = some answer ∧ answer.outcome = .ok .rejected ∧ answer.renamed.getD v.constraint = name

/-- A visit was rejected exactly when it was under some name. -/
theorem Visit.rejected_iff (v : Visit) : v.Rejected ↔ ∃ name, v.RejectedAs name := by
  constructor
  · rintro ⟨answer, hanswer, hrejected⟩
    exact ⟨_, answer, hanswer, hrejected, rfl⟩
  · rintro ⟨name, answer, hanswer, hrejected, -⟩
    exact ⟨answer, hanswer, hrejected⟩

/-- The visit was answered without a write, or not answered at all. -/
def Visit.WritesNothing (v : Visit) : Prop := ∀ answer, v.answer = some answer → answer.writes = []

instance : DecidablePred Visit.WritesNothing := fun v =>
  decidable_of_iff (v.answer.all fun answer => answer.writes.isEmpty) (by
    simp [Visit.WritesNothing, Option.all_eq_true])

/-! ## Rejections -/

namespace Progress

/-- The visits since an earlier state are of one field, and `failed` says whether one of them was rejected. -/
def Since (p : Progress) (field : String) (failed : Prop) (q : Progress) : Prop :=
  ∃ recent, q.visits = recent ++ p.visits ∧ (∀ v ∈ recent, v.field = field) ∧ (failed ↔ ∃ v ∈ recent, v.Rejected)

/-- Since a state itself there are no visits. -/
theorem since_self (p : Progress) (field : String) : p.Since field False p :=
  ⟨[], rfl, by simp, by simp⟩

/-- The visits from one state to another and from there to a third are those from the first to the third. -/
theorem Since.trans {p q s : Progress} {field : String} {failed more : Prop} (h : p.Since field failed q)
    (h' : q.Since field more s) : p.Since field (failed ∨ more) s := by
  obtain ⟨recent, hvisits, hfield, hfailed⟩ := h
  obtain ⟨later, hvisits', hfield', hmore⟩ := h'
  refine ⟨later ++ recent, ?_, ?_, ?_⟩
  · rw [hvisits', hvisits, List.append_assoc]
  · intro v hv
    exact (List.mem_append.1 hv).elim (hfield' v) (hfield v)
  · rw [hfailed, hmore]
    simp only [List.mem_append, or_and_right, exists_or]
    exact or_comm

/-- What is said of the visits since a state may be replaced by what is equivalent. -/
theorem Since.congr {p q : Progress} {field : String} {failed failed' : Prop} (h : p.Since field failed q)
    (hiff : failed ↔ failed') : p.Since field failed' q := by
  obtain ⟨recent, hvisits, hfield, hfailed⟩ := h
  exact ⟨recent, hvisits, hfield, hiff.symm.trans hfailed⟩

/-- The history only grows. -/
theorem Since.subset {p q : Progress} {field : String} {failed : Prop} (h : p.Since field failed q) :
    p.visits ⊆ q.visits := by
  obtain ⟨recent, hvisits, -⟩ := h
  rw [hvisits]
  exact List.subset_append_right recent p.visits

/-- What holds of all visits in the end held of them before. -/
theorem Since.forall_visits {p q : Progress} {field : String} {failed : Prop} (h : p.Since field failed q)
    {P : Visit → Prop} (hall : ∀ v ∈ q.visits, P v) : ∀ v ∈ p.visits, P v :=
  fun v hv => hall v (h.subset hv)

variable (p : Progress) (site : CheckSite) (c : CompiledConstraint) (index : Nat) (element : String)

/-- A constraint keeps the name under which it failed first; until then a turn gives it one just when the visit of the
turn is rejected under that name. -/
theorem failure_eq_some_iff (failedAs : Option String) (name : String) :
    p.failure site c element failedAs = some name ↔
      failedAs = some name ∨ failedAs = none ∧ (p.visit site c index element).RejectedAs name := by
  unfold failure visit Visit.RejectedAs
  by_cases hempty : element.isEmpty
  · simp [hempty]
  · simp only [hempty, Bool.false_eq_true, if_false, Option.some.injEq, exists_eq_left']
    split
    next hrejected => cases failedAs <;> simp [hrejected]
    next hother =>
      constructor
      · exact Or.inl
      · exact fun h => h.elim id fun hnew => absurd hnew.2.1 hother

/-- The visit of a turn is rejected just when the constraint has a name to fail under that it had not before. -/
theorem isSome_failure_iff (failedAs : Option String) :
    (p.failure site c element failedAs).isSome ↔ failedAs.isSome ∨ (p.visit site c index element).Rejected := by
  rw [Option.isSome_iff_exists, Visit.rejected_iff]
  simp only [p.failure_eq_some_iff site c index]
  cases failedAs <;> simp

/-- A turn adds its visit to those since an earlier state. -/
theorem since_turn : p.Since site.field (p.visit site c index element).Rejected (p.turn site c index element) :=
  ⟨[p.visit site c index element], by simp, by simp [visit], by simp⟩

end Progress

/-- A constraint has failed just when one of its visits was rejected. -/
theorem since_checkElements {limit : Nat} {site : CheckSite} {c : CompiledConstraint} {p after : Progress}
    {result : Option String} (hrun : checkElements site c limit 0 none p = (after, .ok result)) :
    p.Since site.field (result.isSome = true) after := by
  have hturn : ∀ index failedAs q element, p.Since site.field (failedAs.isSome = true) q →
      q.element? site.field index = some element →
      p.Since site.field ((q.failure site c element failedAs).isSome = true) (q.turn site c index element) := by
    intro index failedAs q element hq _
    have hfailure := q.isSome_failure_iff site c index element failedAs
    exact (hq.trans (q.since_turn site c index element)).congr hfailure.symm
  obtain ⟨last, hsince, -⟩ := checkElements_induction
    (J := fun _ failedAs q => p.Since site.field (failedAs.isSome = true) q) hturn hrun
    ((p.since_self site.field).congr (by simp))
  exact hsince

/-- A field has failures just when one of its visits was rejected. -/
theorem since_checkConstraints {limit : Nat} {site : CheckSite} {constraints : List CompiledConstraint}
    {p after : Progress} {failures : List String}
    (hrun : checkConstraints limit site constraints [] p = (after, .ok failures)) :
    p.Since site.field (failures ≠ []) after := by
  refine checkConstraints_induction (J := fun _ failures q => p.Since site.field (failures ≠ []) q) ?_ hrun
    ((p.since_self site.field).congr (by simp))
  intro c rest failures q middle failedAs hq hc
  refine (hq.trans (since_checkElements hc)).congr ?_
  cases failedAs <;> simp

/-- The fields that are found invalid are those of which a visit was rejected. -/
theorem checkAll_invalid_iff {limit : Nat} {attached : FieldMap (List CompiledConstraint)} {untaint : UntaintPolicy}
    {classified : NameSet} {input : Source} {start : Record} {after : Progress} {invalid : FieldMap (List String)}
    (hrun : checkAll limit attached untaint classified input start = (after, .ok invalid)) (field : String) :
    invalid.contains field ↔ ∃ v ∈ after.visits, v.field = field ∧ v.Rejected := by
  have hstep : ∀ {name : String} {found : FieldMap (List String)} {p middle : Progress} {failures : List String},
      (∀ other, found.contains other ↔ ∃ v ∈ p.visits, v.field = other ∧ v.Rejected) →
      p.Since name (failures ≠ []) middle → ∀ other,
      (found.contains other ∨ other = name ∧ failures ≠ []) ↔ ∃ v ∈ middle.visits, v.field = other ∧ v.Rejected := by
    intro name found p middle failures hfound ⟨recent, hvisits, hname, hfailed⟩ other
    -- a rejected visit is either one of the earlier ones or one of this field's
    rw [hfound other, hfailed, hvisits]
    constructor
    · rintro (⟨v, hv, hfield, hrejected⟩ | ⟨rfl, v, hv, hrejected⟩)
      · exact ⟨v, List.mem_append_right _ hv, hfield, hrejected⟩
      · exact ⟨v, List.mem_append_left _ hv, hname v hv, hrejected⟩
    · rintro ⟨v, hv, rfl, hrejected⟩
      rcases List.mem_append.1 hv with hrecent | hearlier
      · exact Or.inr ⟨hname v hrecent, v, hrecent, hrejected⟩
      · exact Or.inl ⟨v, hearlier, rfl, hrejected⟩
  refine checkFields_induction
    (J := fun _ found p => ∀ other, found.contains other ↔ ∃ v ∈ p.visits, v.field = other ∧ v.Rejected)
    ?_ ?_ ?_ hrun (by simp) field
  · intro _ _ _ _ _ hfound _
    exact hfound
  · intro name _ _ found p middle hfound _ hc other
    rw [← hstep hfound (since_checkConstraints hc) other]
    simp
  · intro name _ _ found p middle failures hfound _ hne hc other
    rw [FieldMap.contains_insert, Bool.or_eq_true, decide_eq_true_eq]
    have hother := hstep hfound (since_checkConstraints hc) other
    rw [or_comm, eq_comm (a := name)]
    simpa [hne, Progress.reject] using hother

/-! ## The names of rejections -/

namespace Progress

/-- Each of the names is that of a rejected visit of the field. -/
def Reports (p : Progress) (field : String) (names : List String) : Prop :=
  ∀ name ∈ names, ∃ v ∈ p.visits, v.field = field ∧ v.RejectedAs name

/-- No names are reported without any visit. -/
theorem reports_nil (p : Progress) (field : String) : p.Reports field [] := by
  simp [Reports]

/-- Two lists of names of rejected visits make one. -/
theorem Reports.append {p : Progress} {field : String} {names more : List String} (h : p.Reports field names)
    (h' : p.Reports field more) : p.Reports field (names ++ more) :=
  List.forall_mem_append.2 ⟨h, h'⟩

/-- The history only grows, so a report keeps its reasons. -/
theorem Reports.of_subset {p q : Progress} {field : String} {names : List String} (h : p.Reports field names)
    (hvisits : p.visits ⊆ q.visits) : q.Reports field names := by
  intro name hname
  obtain ⟨v, hv, hrejected⟩ := h name hname
  exact ⟨v, hvisits hv, hrejected⟩

/-- A turn adds the name of its failure, if it fails, to the names of rejected visits. -/
theorem Reports.turn {p : Progress} {site : CheckSite} {failedAs : Option String}
    (h : p.Reports site.field failedAs.toList) (c : CompiledConstraint) (index : Nat) (element : String) :
    (p.turn site c index element).Reports site.field (p.failure site c element failedAs).toList := by
  intro name hname
  rw [turn_visits]
  rcases (p.failure_eq_some_iff site c index element failedAs name).1 (Option.mem_toList.1 hname) with
    hearlier | ⟨-, hrejected⟩
  · obtain ⟨v, hv, hreason⟩ := h name (Option.mem_toList.2 hearlier)
    exact ⟨v, List.mem_cons_of_mem _ hv, hreason⟩
  · exact ⟨_, List.mem_cons_self, rfl, hrejected⟩

end Progress

/-- A constraint that fails is reported under a name of a rejected visit. -/
theorem checkElements_reports {limit : Nat} {site : CheckSite} {c : CompiledConstraint} {p after : Progress}
    {result : Option String} (hrun : checkElements site c limit 0 none p = (after, .ok result)) :
    after.Reports site.field result.toList := by
  obtain ⟨last, hreports, -⟩ := checkElements_induction
    (J := fun _ failedAs q => q.Reports site.field failedAs.toList)
    (fun index failedAs q element hq _ => hq.turn c index element) hrun (p.reports_nil site.field)
  exact hreports

/-- The failures of a checked field are names of its rejected visits. -/
theorem checkConstraints_reports {limit : Nat} {site : CheckSite} {constraints : List CompiledConstraint}
    {p after : Progress} {failures : List String}
    (hrun : checkConstraints limit site constraints [] p = (after, .ok failures)) :
    after.Reports site.field failures := by
  refine checkConstraints_induction (J := fun _ failures q => q.Reports site.field failures) ?_ hrun
    (p.reports_nil site.field)
  intro c rest failures q middle failedAs hq hc
  exact (hq.of_subset (since_checkElements hc).subset).append (checkElements_reports hc)

/-- In a whole check, every name under which a field is found invalid is that of a rejected visit of the field. -/
theorem checkAll_reports {limit : Nat} {attached : FieldMap (List CompiledConstraint)} {untaint : UntaintPolicy}
    {classified : NameSet} {input : Source} {start : Record} {after : Progress} {invalid : FieldMap (List String)}
    (hrun : checkAll limit attached untaint classified input start = (after, .ok invalid)) {field : String}
    {names : List String} (hinvalid : invalid.get? field = some names) : after.Reports field names := by
  refine checkFields_induction
    (J := fun _ found p => ∀ other listed, found.get? other = some listed → p.Reports other listed)
    ?_ ?_ ?_ hrun ?_ field names hinvalid
  · intro _ _ _ _ _ hfound _
    exact hfound
  · intro _ _ _ _ _ _ hfound _ hc other listed hlisted
    exact (hfound other listed hlisted).of_subset (since_checkConstraints hc).subset
  · intro name _ _ found p middle failures hfound _ _ hc other listed hlisted
    show middle.Reports other listed
    rw [FieldMap.get?_insert] at hlisted
    by_cases hother : name = other
    · subst hother
      rw [if_pos rfl, Option.some.injEq] at hlisted
      rw [← hlisted]
      exact checkConstraints_reports hc
    · rw [if_neg hother] at hlisted
      exact (hfound other listed hlisted).of_subset (since_checkConstraints hc).subset
  · intro other listed hlisted
    cases hlisted

/-! ## Values without writes -/

/-- Every value that stands is the one its field had at the start; the elements of an untainted field may be others. -/
def KeepsValues (untaint : UntaintPolicy) (start working : Record) : Prop :=
  ∀ field value, working.get? field = some value → ∃ old, start.get? field = some old ∧
    value.isList = old.isList ∧ value.length = old.length ∧ (untaint.applies field = false → value = old)

/-- Setting an element keeps the shape of the value. -/
theorem FieldValue.isList_setElement (value : FieldValue) (index : Nat) (text : String) :
    (value.setElement index text).isList = value.isList := by
  cases value with
  | scalar old => cases index <;> rfl
  | list texts => rfl

/-- A visit that writes nothing is one of a call that writes nothing. -/
theorem Progress.writes_eq_nil {p : Progress} {site : CheckSite} {c : CompiledConstraint} {index : Nat}
    {element : String} (h : (p.visit site c index element).WritesNothing) : p.writes site c element = [] := by
  unfold Progress.visit Visit.WritesNothing at h
  unfold Progress.writes
  by_cases hempty : element.isEmpty
  · simp [hempty]
  · simpa [hempty] using h

/-- A turn that writes nothing leaves every field, and every value but that of an untainted field. -/
theorem KeepsValues.turn {untaint : UntaintPolicy} {start : Record} {p : Progress}
    (h : KeepsValues untaint start p.working) {site : CheckSite} (hsite : site.untaint = untaint.applies site.field)
    {c : CompiledConstraint} {index : Nat} {element : String}
    (hsilent : (p.visit site c index element).WritesNothing) :
    KeepsValues untaint start (p.turn site c index element).working := by
  have hworking := p.turn_working site c index element
  rw [Progress.writes_eq_nil hsilent, applyWrites_nil] at hworking
  rcases hworking with hsame | ⟨huntaint, text, hset⟩
  · rw [hsame]
    exact h
  · intro field value hvalue
    rw [hset, FieldMap.get?_modify] at hvalue
    by_cases hfield : field = site.field
    · subst hfield
      simp only [if_true, Option.map_eq_some_iff] at hvalue
      obtain ⟨before, hbefore, rfl⟩ := hvalue
      obtain ⟨old, hold, hlist, hlength, -⟩ := h site.field before hbefore
      refine ⟨old, hold, ?_, ?_, fun hkeep => ?_⟩
      · rw [FieldValue.isList_setElement, hlist]
      · rw [FieldValue.length_setElement, hlength]
      · rw [← hsite, huntaint] at hkeep
        simp at hkeep
    · rw [if_neg hfield] at hvalue
      exact h field value hvalue

/-- Unless a visit wrote something, the values that stand are those from the start, now and at every visit so far. -/
def Progress.KeepsUnlessWritten (untaint : UntaintPolicy) (start : Record) (p : Progress) : Prop :=
  (∀ v ∈ p.visits, v.WritesNothing) →
    KeepsValues untaint start p.working ∧ ∀ v ∈ p.visits, KeepsValues untaint start v.working

/-- The constraints of a field keep the values, unless a visit wrote something. -/
theorem Progress.KeepsUnlessWritten.of_checkConstraints {untaint : UntaintPolicy} {start : Record}
    {p after : Progress} (h : p.KeepsUnlessWritten untaint start) {limit : Nat} {field : String} {input : Source}
    {constraints : List CompiledConstraint} {failures : List String}
    (hrun : checkConstraints limit ⟨field, untaint.applies field, input⟩ constraints [] p = (after, .ok failures)) :
    after.KeepsUnlessWritten untaint start := by
  refine checkConstraints_preserves ?_ hrun h
  -- the history grows, so what no visit does after a turn none did before
  intro c _ index q element hq _ hsilent
  rw [Progress.turn_visits] at hsilent
  obtain ⟨hnow, hearlier⟩ := hq fun v hv => hsilent v (List.mem_cons_of_mem _ hv)
  refine ⟨hnow.turn rfl (hsilent _ List.mem_cons_self), fun v hv => ?_⟩
  rw [Progress.turn_visits, List.mem_cons] at hv
  rcases hv with rfl | hv
  · exact hnow
  · exact hearlier v hv

/-- When no call wrote anything, the values that stand are those from the start, in the end and at every visit. -/
theorem checkAll_keeps_values {limit : Nat} {attached : FieldMap (List CompiledConstraint)} {untaint : UntaintPolicy}
    {classified : NameSet} {input : Source} {start : Record} {after : Progress} {invalid : FieldMap (List String)}
    (hrun : checkAll limit attached untaint classified input start = (after, .ok invalid))
    (hsilent : ∀ v ∈ after.visits, v.WritesNothing) :
    KeepsValues untaint start after.working ∧ ∀ v ∈ after.visits, KeepsValues untaint start v.working := by
  refine checkFields_induction (J := fun _ _ p => p.KeepsUnlessWritten untaint start) ?_ ?_ ?_ hrun ?_ hsilent
  · intro _ _ _ _ _ hp _
    exact hp
  · intro _ _ _ _ _ _ hp _ hc
    exact hp.of_checkConstraints hc
  · intro field _ _ _ p middle failures hp _ _ hc hvisits
    obtain ⟨hnow, hearlier⟩ := hp.of_checkConstraints hc hvisits
    refine ⟨fun other value hvalue => ?_, hearlier⟩
    rw [Progress.reject, FieldMap.get?_erase] at hvalue
    split at hvalue
    · simp at hvalue
    · exact hnow other value hvalue
  · intro _
    exact ⟨fun field value hvalue => ⟨value, hvalue, rfl, rfl, fun _ => rfl⟩, by simp⟩

/-- Where values are kept, a field that stands stood at the start. -/
theorem KeepsValues.contains {untaint : UntaintPolicy} {start working : Record}
    (h : KeepsValues untaint start working) {field : String} (hstands : working.contains field) :
    start.contains field := by
  obtain ⟨value, hvalue⟩ := FieldMap.contains_iff.1 hstands
  obtain ⟨old, hold, -⟩ := h field value hvalue
  exact FieldMap.contains_of_get? hold

end FormValidation
