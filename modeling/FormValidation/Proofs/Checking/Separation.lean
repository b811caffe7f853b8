import FormValidation.Proofs.Checking.Turn

/-!
# Rejected fields stay out

While constraints run, the values that stand as valid and the fields that are closed to writing are kept apart:
`Separated` says how, and it holds at the start, after every turn, and after every field that is found invalid. A
method may write whatever it likes in between. `Sound` adds the history, in which every call of the run met a state
that was separated by the fields found invalid until then. What a call could read and write is read off from there.
-/

set_option autoImplicit false

namespace FormValidation

/-- The call that a visit stands for sees the values and the closed fields that the visit lists. -/
def Visit.context (v : Visit) (input : Source) : Context where
  field := v.field
  value := v.element
  input := input
  valid := v.working
  closed := v.closed

/-- The context of a method after it has written values itself. -/
def Context.afterWrites (c : Context) (writes : List (String × FieldValue)) : Context :=
  writes.foldl (fun c write => c.setValid write.1 write.2) c

/-- Writes of a call open and close no field. -/
theorem Context.isOpen_afterWrites (c : Context) (writes : List (String × FieldValue)) (field : String) :
    (c.afterWrites writes).isOpen field = c.isOpen field := by
  unfold afterWrites
  induction writes generalizing c with
  | nil => rfl
  | cons write rest ih =>
    rw [List.foldl_cons, ih]
    unfold setValid
    split <;> rfl

/-- To write a field that is not open changes nothing. -/
theorem Context.setValid_of_not_isOpen {c : Context} {field : String} (h : c.isOpen field = false)
    (value : FieldValue) : c.setValid field value = c := by
  have hclosed : c.closed.contains field = true := by
    simpa [isOpen] using h
  simp [setValid, hclosed]

/-- A closed field that does not stand cannot be read by a call: not from its context, whatever the call has written by
then, and not through a parameter. -/
theorem Visit.unreadable {v : Visit} {input : Source} {other : String} (hstands : v.working.contains v.field)
    (habsent : ¬ v.working.contains other) (hclosed : v.closed.contains other) :
    (∀ writes, ((v.context input).afterWrites writes).validValue other = none) ∧
      CompiledConstraint.paramValue v.field v.element v.working (.field other) = none := by
  have hnone : v.working.get? other = none := FieldMap.get?_eq_none_iff.2 habsent
  constructor
  · intro writes
    have hvalid := applyWrites_eq_setValid (v.context input) writes
    have hkept : (applyWrites v.closed v.working writes).get? other = none := by
      rw [get?_applyWrites_of_closed hclosed, hnone]
    show ((v.context input).afterWrites writes).valid.get? other = none
    rw [Context.afterWrites, ← hvalid]
    exact hkept
  · have hne : other ≠ v.field := fun e => habsent (e ▸ hstands)
    rw [CompiledConstraint.paramValue, if_neg hne, hnone]

/-! ## Fields that stand and fields that are closed -/

/-- The values that stand and the closed fields, when checking began with the values `start` and the closed fields
`classified`, and the fields `found` were found invalid since. -/
structure Separated (classified : NameSet) (start : Record) (found : String → Prop) (working : Record)
    (closed : NameSet) : Prop where
  closed_iff (field : String) : closed.contains field ↔ classified.contains field ∨ found field
  found_absent (field : String) (h : found field) : ¬ working.contains field
  classified_absent (field : String) (h : classified.contains field) (h' : ¬ start.contains field) :
    ¬ working.contains field ∧ ¬ found field
  accounted (field : String) (h : start.contains field) : working.contains field ∨ found field

namespace Separated

variable {classified : NameSet} {start : Record} {found : String → Prop}

/-- Before the first constraint nothing was found invalid. -/
theorem initial (classified : NameSet) (start : Record) :
    Separated classified start (fun _ => False) start classified where
  closed_iff := by simp
  found_absent := by simp
  classified_absent field _ h' := ⟨h', id⟩
  accounted field h := Or.inl h

/-- Separation depends on which fields were found invalid, not on how that is said. -/
theorem congr {found' : String → Prop} {working : Record} {closed : NameSet}
    (h : Separated classified start found working closed) (hiff : ∀ field, found field ↔ found' field) :
    Separated classified start found' working closed := by
  have heq : found = found' := funext fun field => propext (hiff field)
  exact heq ▸ h

/-- A turn keeps the values that stand apart from the closed fields, whatever its call writes. -/
theorem turn {p : Progress} (h : Separated classified start found p.working p.closed) (site : CheckSite)
    (c : CompiledConstraint) (index : Nat) (element : String) :
    Separated classified start found (p.turn site c index element).working (p.turn site c index element).closed where
  closed_iff field := by
    rw [Progress.turn_closed]
    exact h.closed_iff field
  found_absent field hfound := by
    have hclosed := (h.closed_iff field).2 (Or.inr hfound)
    rw [p.contains_turn_of_closed site c index element hclosed]
    exact h.found_absent field hfound
  classified_absent field hclassified hstart := by
    have hclosed := (h.closed_iff field).2 (Or.inl hclassified)
    rw [p.contains_turn_of_closed site c index element hclosed]
    exact h.classified_absent field hclassified hstart
  accounted field hstart := by
    rcases h.accounted field hstart with hstands | hfound
    · exact Or.inl (p.contains_turn_of_contains site c index element hstands)
    · exact Or.inr hfound

/-- A field that stands is found invalid: it leaves the values and is closed. -/
theorem reject {p : Progress} (h : Separated classified start found p.working p.closed) {field : String}
    (hstands : p.working.contains field) :
    Separated classified start (fun other => field = other ∨ found other) (p.reject field).working
      (p.reject field).closed where
  closed_iff other := by
    have hclosed := h.closed_iff other
    simp only [Progress.reject, NameSet.contains_add, Bool.or_eq_true, decide_eq_true_eq]
    rw [hclosed]
    constructor
    · rintro (heq | hother | hother)
      · exact Or.inr (Or.inl heq)
      · exact Or.inl hother
      · exact Or.inr (Or.inr hother)
    · rintro (hother | heq | hother)
      · exact Or.inr (Or.inl hother)
      · exact Or.inl heq
      · exact Or.inr (Or.inr hother)
  found_absent other hfound := by
    simp only [Progress.reject, FieldMap.contains_erase, Bool.and_eq_true, Bool.not_eq_true', decide_eq_false_iff_not,
      not_and]
    intro hne
    rcases hfound with heq | hfound
    · exact absurd heq.symm hne
    · exact h.found_absent other hfound
  classified_absent other hclassified hstart := by
    obtain ⟨hgone, hfound⟩ := h.classified_absent other hclassified hstart
    constructor
    · simp [Progress.reject, hgone]
    · rintro (rfl | hother)
      · exact hgone hstands
      · exact hfound hother
  accounted other hstart := by
    -- the rejected field leaves the values and is found in the same step, so it is never lost
    by_cases heq : field = other
    · exact Or.inr (Or.inl heq)
    · rcases h.accounted other hstart with hother | hother
      · left
        have hne : ¬ other = field := fun e => heq e.symm
        simp [Progress.reject, hne, hother]
      · exact Or.inr (Or.inr hother)

end Separated

/-! ## The history of a run -/

/-- The fields that were found invalid before a field had its turn. Fields have their turns in the order of their
names, so these are the invalid ones that come before it. -/
def foundBefore (invalid : FieldMap (List String)) (field other : String) : Prop :=
  invalid.contains other ∧ other < field

/-- A visit of an element that its field has, for a constraint that is attached to the field; the answer, if there is
one, is what the constraint answers when it is called with the values and the closed fields of the visit. -/
structure Visit.Genuine (attached : FieldMap (List CompiledConstraint)) (input : Source) (v : Visit) : Prop where
  element : ∃ value, v.working.get? v.field = some value ∧ value.element? v.index = some v.element
  called : ∃ c ∈ attached.listAt v.field, v.constraint = c.name ∧
    ∀ answer, v.answer = some answer → answer = c.invoke (v.context input)

/-- The field of a genuine visit has a value. -/
theorem Visit.Genuine.contains {attached : FieldMap (List CompiledConstraint)} {input : Source} {v : Visit}
    (h : v.Genuine attached input) : v.working.contains v.field := by
  obtain ⟨value, hvalue, -⟩ := h.element
  exact FieldMap.contains_of_get? hvalue

/-- The visit of a turn is genuine. -/
theorem Progress.genuine_visit {attached : FieldMap (List CompiledConstraint)} {p : Progress} {site : CheckSite}
    {c : CompiledConstraint} {index : Nat} {element : String} (hattached : c ∈ attached.listAt site.field)
    (hpresent : p.element? site.field index = some element) :
    (p.visit site c index element).Genuine attached site.input where
  element := by
    unfold Progress.element? at hpresent
    obtain ⟨value, hvalue, helement⟩ := Option.bind_eq_some_iff.1 hpresent
    exact ⟨value, hvalue, helement⟩
  called := ⟨c, hattached, rfl, fun _ hanswer => p.eq_invoke_of_answer site c index element hanswer⟩

section History

variable (attached : FieldMap (List CompiledConstraint)) (input : Source) (classified : NameSet) (start : Record)

/-- A run up to some point, at which the fields `invalid` were found invalid: the values that stand are separated from
the closed fields now, and were at every visit, by what was found until then. -/
structure Sound (invalid : FieldMap (List String)) (p : Progress) : Prop where
  now : Separated classified start (fun field => invalid.contains field) p.working p.closed
  genuine (v : Visit) (hv : v ∈ p.visits) : v.Genuine attached input
  atVisit (v : Visit) (hv : v ∈ p.visits) :
    Separated classified start (foundBefore invalid v.field) v.working v.closed
  inOrder : p.visits.Pairwise fun later earlier => ¬ later.field < earlier.field

variable {attached input classified start}

/-- A turn of a field keeps a run sound, when no visit is of a later field and no later field is invalid. -/
theorem Sound.turn {invalid : FieldMap (List String)} {p : Progress}
    (h : Sound attached input classified start invalid p) {site : CheckSite} {c : CompiledConstraint}
    (hinput : site.input = input) (hattached : c ∈ attached.listAt site.field)
    (hearlier : ∀ other, invalid.contains other → other < site.field)
    (hlatest : ∀ v ∈ p.visits, ¬ site.field < v.field)
    {index : Nat} {element : String} (hpresent : p.element? site.field index = some element) :
    Sound attached input classified start invalid (p.turn site c index element) where
  now := h.now.turn site c index element
  genuine v hv := by
    rw [Progress.turn_visits, List.mem_cons] at hv
    rcases hv with rfl | hv
    · rw [← hinput]
      exact Progress.genuine_visit hattached hpresent
    · exact h.genuine v hv
  atVisit v hv := by
    rw [Progress.turn_visits, List.mem_cons] at hv
    rcases hv with rfl | hv
    · refine h.now.congr fun other => ?_
      exact ⟨fun hother => ⟨hother, hearlier other hother⟩, fun hother => hother.1⟩
    · exact h.atVisit v hv
  inOrder := by
    rw [Progress.turn_visits]
    exact List.pairwise_cons.2 ⟨hlatest, h.inOrder⟩

/-- A run stays sound when its latest field is found invalid. -/
theorem Sound.reject {invalid : FieldMap (List String)} {p : Progress}
    (h : Sound attached input classified start invalid p) {field : String} (hstands : p.working.contains field)
    (hlatest : ∀ v ∈ p.visits, ¬ field < v.field) (failures : List String) :
    Sound attached input classified start (invalid.insert field failures) (p.reject field) where
  now := by
    refine (h.now.reject hstands).congr fun other => ?_
    simp
  genuine v hv := h.genuine v hv
  atVisit v hv := by
    refine (h.atVisit v hv).congr fun other => ?_
    -- the new invalid field does not come before the field of any visit so far
    unfold foundBefore
    rw [FieldMap.contains_insert, Bool.or_eq_true, decide_eq_true_eq]
    constructor
    · rintro ⟨hother, hlt⟩
      exact ⟨Or.inr hother, hlt⟩
    · rintro ⟨rfl | hother, hlt⟩
      · exact absurd hlt (hlatest v hv)
      · exact ⟨hother, hlt⟩
  inOrder := h.inOrder

/-- The constraints of one field keep a run sound, and its visits are then of this field or of earlier ones. -/
theorem Sound.of_checkConstraints {invalid : FieldMap (List String)} {p after : Progress}
    (h : Sound attached input classified start invalid p) {limit : Nat} (site : CheckSite)
    (hinput : site.input = input) {constraints : List CompiledConstraint}
    (hattached : ∀ c ∈ constraints, c ∈ attached.listAt site.field)
    (hearlier : ∀ other, invalid.contains other → other < site.field)
    (hlatest : ∀ v ∈ p.visits, v.field < site.field) (hstands : p.working.contains site.field)
    {failures : List String} (hrun : checkConstraints limit site constraints [] p = (after, .ok failures)) :
    Sound attached input classified start invalid after ∧ after.working.contains site.field ∧
      ∀ v ∈ after.visits, ¬ site.field < v.field := by
  refine checkConstraints_preserves (I := fun q => Sound attached input classified start invalid q ∧
    q.working.contains site.field ∧ ∀ v ∈ q.visits, ¬ site.field < v.field) ?_ hrun ⟨h, hstands, ?_⟩
  · rintro c hc index q element ⟨hsound, hfield, hvisits⟩ hpresent
    refine ⟨hsound.turn hinput (hattached c hc) hearlier hvisits hpresent, ?_, ?_⟩
    · exact q.contains_turn_of_contains site c index element hfield
    · intro v hv
      rw [Progress.turn_visits, List.mem_cons] at hv
      rcases hv with rfl | hv
      · exact String.lt_irrefl site.field
      · exact hvisits v hv
  · intro v hv hlt
    exact String.lt_irrefl _ (String.lt_trans hlt (hlatest v hv))

variable (attached) in
/-- The fields that are left are attached ones, and come behind everything that was found invalid or visited. -/
structure Pending (rest : List (String × List CompiledConstraint)) (invalid : FieldMap (List String))
    (p : Progress) : Prop where
  mem (e : String × List CompiledConstraint) (he : e ∈ rest) : e ∈ attached.entries
  ascending : rest.Pairwise fun a b => a.1 < b.1
  found_lt (e : String × List CompiledConstraint) (he : e ∈ rest) (other : String) (h : invalid.contains other) :
    other < e.1
  visited_lt (e : String × List CompiledConstraint) (he : e ∈ rest) (v : Visit) (hv : v ∈ p.visits) : v.field < e.1

/-- When the first field that is left was found invalid or visited, the others still come behind it. -/
theorem Pending.tail {head : String × List CompiledConstraint} {rest : List (String × List CompiledConstraint)}
    {invalid found : FieldMap (List String)} {p q : Progress} (h : Pending attached (head :: rest) invalid p)
    (hfound : ∀ other, found.contains other → other = head.1 ∨ invalid.contains other)
    (hvisits : ∀ v ∈ q.visits, ¬ head.1 < v.field) : Pending attached rest found q where
  mem e he := h.mem e (List.mem_cons_of_mem _ he)
  ascending := (List.pairwise_cons.1 h.ascending).2
  found_lt e he other hother := by
    rcases hfound other hother with rfl | hother
    · exact (List.pairwise_cons.1 h.ascending).1 e he
    · exact h.found_lt e (List.mem_cons_of_mem _ he) other hother
  visited_lt e he v hv := by
    have hhead : head.1 < e.1 := (List.pairwise_cons.1 h.ascending).1 e he
    exact FieldMap.lt_of_not_lt_of_lt (hvisits v hv) hhead

/-- A whole check is sound, for the invalid fields that it ends with. -/
theorem Sound.of_checkAll {limit : Nat} {untaint : UntaintPolicy} {after : Progress}
    {invalid : FieldMap (List String)}
    (hrun : checkAll limit attached untaint classified input start = (after, .ok invalid)) :
    Sound attached input classified start invalid after := by
  have hstart : Sound attached input classified start FieldMap.empty ⟨start, classified, []⟩ :=
    ⟨(Separated.initial classified start).congr fun field => by simp, by simp, by simp, List.Pairwise.nil⟩
  have hpending : Pending attached attached.entries FieldMap.empty ⟨start, classified, []⟩ :=
    ⟨fun e he => he, attached.ascending, by simp, by simp⟩
  -- what the turns of one field make of a sound run
  have hfield : ∀ {field constraints rest found p middle failures},
      Pending attached ((field, constraints) :: rest) found p → Sound attached input classified start found p →
      p.working.contains field →
      checkConstraints limit ⟨field, untaint.applies field, input⟩ constraints [] p = (middle, .ok failures) →
      Sound attached input classified start found middle ∧ middle.working.contains field ∧
        ∀ v ∈ middle.visits, ¬ field < v.field := by
    intro field constraints rest found p middle failures hleft hsound hstands hc
    have hentry : attached.get? field = some constraints :=
      (FieldMap.mem_entries_iff attached field constraints).1 (hleft.mem _ List.mem_cons_self)
    refine hsound.of_checkConstraints ⟨field, untaint.applies field, input⟩ rfl ?_ ?_ ?_ hstands hc
    · intro c hc
      simpa [FieldMap.listAt, hentry] using hc
    · exact fun other hother => hleft.found_lt _ List.mem_cons_self other hother
    · exact fun v hv => hleft.visited_lt _ List.mem_cons_self v hv
  -- fields have their turns in the order of their names, so what was found so far comes before what is left
  have hend := checkFields_induction
    (J := fun rest found p => Pending attached rest found p ∧ Sound attached input classified start found p)
    ?_ ?_ ?_ hrun ⟨hpending, hstart⟩
  · exact hend.2
  · rintro field constraints rest found p ⟨hleft, hsound⟩ -
    refine ⟨hleft.tail (fun other hother => Or.inr hother) fun v hv => ?_, hsound⟩
    exact String.lt_asymm (hleft.visited_lt _ List.mem_cons_self v hv)
  · rintro field constraints rest found p middle ⟨hleft, hsound⟩ hstands hc
    obtain ⟨hmiddle, -, hvisits⟩ := hfield hleft hsound hstands hc
    exact ⟨hleft.tail (fun other hother => Or.inr hother) hvisits, hmiddle⟩
  · rintro field constraints rest found p middle failures ⟨hleft, hsound⟩ hstands - hc
    obtain ⟨hmiddle, hstands', hvisits⟩ := hfield hleft hsound hstands hc
    refine ⟨hleft.tail (fun other hother => ?_) hvisits, hmiddle.reject hstands' hvisits failures⟩
    rw [FieldMap.contains_insert, Bool.or_eq_true, decide_eq_true_eq] at hother
    exact hother.imp (fun h => h.symm) id

end History

/-! ## What a whole run keeps -/

/-- In a run that ends with the invalid fields `invalid`, every visit is of a field that stands. A field found invalid
by then does not stand, nor does a classified one that was absent at the start; neither can be read, by the context at
any point of the call or by a parameter. A method that writes is refused, at any point of its call and without effect, just
for the fields that were classified or found invalid by then, and what it writes is carried out accordingly. In the end
every field from the start stands or is invalid, none is both, and a classified field that was absent is neither. -/
theorem checkAll_keeps_rejected_out {limit : Nat} {attached : FieldMap (List CompiledConstraint)}
    {untaint : UntaintPolicy} {classified : NameSet} {input : Source} {start : Record} {after : Progress}
    {invalid : FieldMap (List String)}
    (hrun : checkAll limit attached untaint classified input start = (after, .ok invalid)) :
    (∀ v ∈ after.visits,
      v.Genuine attached input ∧ v.working.contains v.field ∧
      (∀ other, foundBefore invalid v.field other ∨ classified.contains other ∧ ¬ start.contains other →
        ¬ v.working.contains other ∧
        (∀ writes, ((v.context input).afterWrites writes).validValue other = none) ∧
        CompiledConstraint.paramValue v.field v.element v.working (.field other) = none) ∧
      (∀ writes other,
        (((v.context input).afterWrites writes).isOpen other = false ↔
          classified.contains other ∨ foundBefore invalid v.field other) ∧
        (((v.context input).afterWrites writes).isOpen other = false → ∀ value,
          ((v.context input).afterWrites writes).setValid other value = (v.context input).afterWrites writes)) ∧
      ∀ answer, v.answer = some answer →
        applyWrites v.closed v.working answer.writes = ((v.context input).afterWrites answer.writes).valid) ∧
    after.visits.Pairwise (fun later earlier => ¬ later.field < earlier.field) ∧
    (∀ field, start.contains field → after.working.contains field ∨ invalid.contains field) ∧
    (∀ field, ¬ (after.working.contains field ∧ invalid.contains field)) ∧
    ∀ field, classified.contains field → ¬ start.contains field →
      ¬ after.working.contains field ∧ ¬ invalid.contains field := by
  have hsound := Sound.of_checkAll hrun
  refine ⟨fun v hv => ?_, hsound.inOrder, hsound.now.accounted, ?_, hsound.now.classified_absent⟩
  · have hstands := (hsound.genuine v hv).contains
    have hseparated := hsound.atVisit v hv
    refine ⟨hsound.genuine v hv, hstands, ?_, ?_, ?_⟩
    · rintro other (hfound | ⟨hclassified, hstart⟩)
      · have habsent := hseparated.found_absent other hfound
        exact ⟨habsent, Visit.unreadable hstands habsent ((hseparated.closed_iff other).2 (Or.inr hfound))⟩
      · have habsent := (hseparated.classified_absent other hclassified hstart).1
        exact ⟨habsent, Visit.unreadable hstands habsent ((hseparated.closed_iff other).2 (Or.inl hclassified))⟩
    · intro writes other
      refine ⟨?_, fun hclosed value => Context.setValid_of_not_isOpen hclosed value⟩
      rw [Context.isOpen_afterWrites, ← hseparated.closed_iff other]
      simp [Context.isOpen, Visit.context]
    · intro answer _
      exact applyWrites_eq_setValid (v.context input) answer.writes
  · rintro field ⟨hstands, hfound⟩
    exact hsound.now.found_absent field hfound hstands

/-- A field that is always rejected, and a later one whose method writes it, a classified field, and an open one. -/
def rejectedSibling : FieldMap (List CompiledConstraint) :=
  FieldMap.ofList
    [("email", [⟨"never", .plain fun _ => { outcome := .ok .rejected }, none⟩]),
      ("name", [⟨"copy", .method fun context _ =>
        { outcome := .ok (.matched context.value)
          writes := ["email", "role", "greeting"].map fun other => (other, .scalar context.value) }, none⟩])]

/-- The rejected field is out although a later method writes it, and so is the classified one; the open field is
written. -/
theorem checkAll_keeps_rejected_out_rejectedSibling :
    ∃ after invalid,
      checkAll 3 rejectedSibling ⟨false, NameSet.ofList [], []⟩ (NameSet.ofList ["role"]) (.record FieldMap.empty)
        (FieldMap.ofList [("email", .scalar "e"), ("name", .scalar "n")]) = (after, .ok invalid) ∧
      after.working.keys = ["greeting", "name"] ∧ invalid.entries = [("email", ["never"])] ∧
      ∀ field, ¬ (after.working.contains field ∧ invalid.contains field) := by
  have hrun : checkAll 3 rejectedSibling ⟨false, NameSet.ofList [], []⟩ (NameSet.ofList ["role"])
      (.record FieldMap.empty) (FieldMap.ofList [("email", .scalar "e"), ("name", .scalar "n")]) = (_, .ok _) := rfl
  exact ⟨_, _, hrun, rfl, rfl, (checkAll_keeps_rejected_out hrun).2.2.2.1⟩

end FormValidation
