import FormValidation.Proofs.Checking.Rejections
import Mathlib.Tactic.ByContra

/-!
# The turn of one field

A check of many fields is, for a single field, one run of its own constraints, as long as no constraint of another
field writes it: the run starts from the value that the field has at the start, and what it ends with is what the whole
check ends with for this field (`exists_ownTurn`). When no other field stands at all, the run and the check are the
same (`checkAll_eq_of_only`).
-/

set_option autoImplicit false

namespace FormValidation

/-- The call that a visit stands for wrote a field, and the write was carried out. -/
def Visit.Writes (v : Visit) (field : String) : Prop :=
  ∃ answer, v.answer = some answer ∧ ∃ write ∈ answer.writes, write.1 = field ∧ ¬ v.closed.contains field

/-- A visit that writes nothing writes no field. -/
theorem Visit.WritesNothing.not_writes {v : Visit} (h : v.WritesNothing) (field : String) : ¬ v.Writes field := by
  rintro ⟨answer, hanswer, write, hwrite, -⟩
  rw [h answer hanswer] at hwrite
  cases hwrite

/-- Writes that never reach a field, or only when it is closed, leave its value as it is. -/
theorem get?_applyWrites_of_unwritten {closed : NameSet} {field : String} {writes : List (String × FieldValue)}
    (h : ∀ write ∈ writes, write.1 = field → closed.contains field) (working : Record) :
    (applyWrites closed working writes).get? field = working.get? field := by
  by_cases hclosed : closed.contains field
  · exact get?_applyWrites_of_closed hclosed working writes
  · induction writes generalizing working with
    | nil => rfl
    | cons write rest ih =>
      have hne : write.1 ≠ field := fun heq => hclosed (h write List.mem_cons_self heq)
      rw [applyWrites_cons, ih fun w hw => h w (List.mem_cons_of_mem _ hw)]
      split
      · rfl
      · rw [FieldMap.get?_insert, if_neg hne]

/-- A turn whose visit does not write a field writes it only when it is closed. -/
theorem Progress.closed_of_unwritten {p : Progress} {site : CheckSite} {c : CompiledConstraint} {index : Nat}
    {element field : String} (h : ¬ (p.visit site c index element).Writes field) :
    ∀ write ∈ p.writes site c element, write.1 = field → p.closed.contains field := by
  intro write hwrite heq
  by_contra hopen
  obtain ⟨answer, hanswer, hmem⟩ := p.exists_answer_of_mem_writes site c index element hwrite
  exact h ⟨answer, hanswer, write, hmem, heq, hopen⟩

/-- A turn of another field that does not write a field leaves its value. -/
theorem Progress.get?_turn_of_other {p : Progress} {site : CheckSite} {c : CompiledConstraint} {index : Nat}
    {element field : String} (hother : site.field ≠ field) (hunwritten : ¬ (p.visit site c index element).Writes field) :
    (p.turn site c index element).working.get? field = p.working.get? field := by
  have hkept := get?_applyWrites_of_unwritten (Progress.closed_of_unwritten hunwritten) p.working
  rcases p.turn_working site c index element with hworking | ⟨-, text, hworking⟩
  · rw [hworking, hkept]
  · rw [hworking, FieldMap.get?_modify, if_neg fun e => hother e.symm, hkept]

/-- The constraints of another field leave the value of a field that none of their calls writes. -/
theorem get?_of_checkConstraints_unwritten {limit : Nat} {site : CheckSite} {constraints : List CompiledConstraint}
    {p after : Progress} {failures : List String} {field : String} (hother : site.field ≠ field)
    (hrun : checkConstraints limit site constraints [] p = (after, .ok failures))
    (hunwritten : ∀ v ∈ after.visits, v.field ≠ field → ¬ v.Writes field) :
    after.working.get? field = p.working.get? field := by
  refine checkConstraints_preserves (I := fun q => (∀ v ∈ q.visits, v.field ≠ field → ¬ v.Writes field) →
    q.working.get? field = p.working.get? field) ?_ hrun (fun _ => rfl) hunwritten
  intro c _ index q element hq _ hvisits
  rw [Progress.turn_visits] at hvisits
  have hnow := hvisits _ List.mem_cons_self hother
  rw [Progress.get?_turn_of_other hother hnow]
  exact hq fun v hv => hvisits v (List.mem_cons_of_mem _ hv)

/-! ## The turn within a check -/

/-- A field has the names it failed under, or none when it passed or is not checked at all. -/
def failedWith (names : List String) : Option (List String) := if names = [] then none else some names

section OwnTurn

variable (limit : Nat) (attached : FieldMap (List CompiledConstraint)) (untaint : UntaintPolicy) (input : Source)
  (field : String) (value : FieldValue)

/-- A run of the constraints of a field that starts with its value and ends with the given failures; a field without
failures keeps the value that the run leaves. -/
def OwnTurn (failed : Option (List String)) (kept : Option FieldValue) : Prop :=
  ∃ before middle failures, before.working.get? field = some value ∧
    checkConstraints limit ⟨field, untaint.applies field, input⟩ (attached.listAt field) [] before =
      (middle, .ok failures) ∧
    failed = failedWith failures ∧ (failures = [] → kept = middle.working.get? field)

/-- A field in a check of which some fields are left: its turn is still to come, and it has its value; or its turn is
past, and its failures and its value are those of the turn. -/
structure OneTurn (rest : List (String × List CompiledConstraint)) (found : FieldMap (List String)) (p : Progress) :
    Prop where
  mem (e : String × List CompiledConstraint) (he : e ∈ rest) : e ∈ attached.entries
  ascending : rest.Pairwise fun a b => a.1 < b.1
  turn : ((∃ e ∈ rest, e.1 = field) ∧ p.working.get? field = some value ∧ found.get? field = none) ∨
    (∀ e ∈ rest, e.1 ≠ field) ∧ OwnTurn limit attached untaint input field value (found.get? field)
      (p.working.get? field)

variable {limit attached untaint input field value}

/-- At the start the turn of a field is still to come, and the field has its value. -/
theorem OneTurn.start {start : Record} {classified : NameSet} (hvalue : start.get? field = some value) :
    OneTurn limit attached untaint input field value attached.entries FieldMap.empty ⟨start, classified, []⟩ := by
  refine ⟨fun e he => he, attached.ascending, ?_⟩
  cases hentry : attached.get? field with
  | some constraints =>
    have hmem := (FieldMap.mem_entries_iff attached field constraints).2 hentry
    exact Or.inl ⟨⟨_, hmem, rfl⟩, hvalue, rfl⟩
  | none =>
    -- a field without constraints has an empty turn, which is past from the beginning
    have hlist : attached.listAt field = [] := by
      rw [FieldMap.listAt, hentry, Option.getD_none]
    refine Or.inr ⟨?_, ⟨start, classified, []⟩, ⟨start, classified, []⟩, [], hvalue, ?_, rfl, fun _ => rfl⟩
    · intro e he heq
      have hget := (FieldMap.mem_entries_iff attached e.1 e.2).1 he
      rw [heq, hentry] at hget
      cases hget
    · rw [hlist]
      rfl

/-- The turn of another field changes nothing, when it keeps the value and the failures of this one. -/
theorem OneTurn.other {head : String × List CompiledConstraint} {rest : List (String × List CompiledConstraint)}
    {found found' : FieldMap (List String)} {p q : Progress}
    (h : OneTurn limit attached untaint input field value (head :: rest) found p) (hother : head.1 ≠ field)
    (hvalue : q.working.get? field = p.working.get? field) (hfound : found'.get? field = found.get? field) :
    OneTurn limit attached untaint input field value rest found' q := by
  refine ⟨fun e he => h.mem e (List.mem_cons_of_mem _ he), (List.pairwise_cons.1 h.ascending).2, ?_⟩
  rw [hvalue, hfound]
  rcases h.turn with ⟨⟨e, he, hname⟩, hstands⟩ | ⟨hpast, hdone⟩
  · rcases List.mem_cons.1 he with rfl | he
    · exact absurd hname hother
    · exact Or.inl ⟨⟨e, he, hname⟩, hstands⟩
  · exact Or.inr ⟨fun e he => hpast e (List.mem_cons_of_mem _ he), hdone⟩

/-- When the field comes up, it has its value and is not found invalid yet, and its constraints are the attached ones. -/
theorem OneTurn.now {constraints : List CompiledConstraint} {rest : List (String × List CompiledConstraint)}
    {found : FieldMap (List String)} {p : Progress}
    (h : OneTurn limit attached untaint input field value ((field, constraints) :: rest) found p) :
    p.working.get? field = some value ∧ found.get? field = none ∧ attached.listAt field = constraints := by
  have hentry : attached.get? field = some constraints :=
    (FieldMap.mem_entries_iff attached field constraints).1 (h.mem _ List.mem_cons_self)
  rcases h.turn with ⟨-, hvalue, hfound⟩ | ⟨hpast, -⟩
  · exact ⟨hvalue, hfound, FieldMap.listAt_of_get? hentry⟩
  · exact absurd rfl (hpast _ List.mem_cons_self)

/-- The run of the field's own constraints makes its turn a past one. -/
theorem OneTurn.done {constraints : List CompiledConstraint} {rest : List (String × List CompiledConstraint)}
    {found found' : FieldMap (List String)} {p middle q : Progress} {failures : List String}
    (h : OneTurn limit attached untaint input field value ((field, constraints) :: rest) found p)
    (hc : checkConstraints limit ⟨field, untaint.applies field, input⟩ constraints [] p = (middle, .ok failures))
    (hfound : found'.get? field = failedWith failures)
    (hkept : failures = [] → q.working.get? field = middle.working.get? field) :
    OneTurn limit attached untaint input field value rest found' q := by
  obtain ⟨hvalue, -, hlist⟩ := h.now
  obtain ⟨hbehind, hrest⟩ := List.pairwise_cons.1 h.ascending
  refine ⟨fun e he => h.mem e (List.mem_cons_of_mem _ he), hrest, Or.inr ⟨?_, p, middle, failures, hvalue, ?_, hfound,
    hkept⟩⟩
  · intro e he heq
    have hlt : field < e.1 := hbehind e he
    rw [heq] at hlt
    exact String.lt_irrefl field hlt
  · rw [hlist]
    exact hc

/-- What a whole check does to a field that stands at the start and is written by no other field's constraints is one
run of its own constraints. -/
theorem exists_ownTurn {classified : NameSet} {start : Record} {after : Progress} {invalid : FieldMap (List String)}
    (hrun : checkAll limit attached untaint classified input start = (after, .ok invalid))
    (hvalue : start.get? field = some value) (hunwritten : ∀ v ∈ after.visits, v.field ≠ field → ¬ v.Writes field) :
    OwnTurn limit attached untaint input field value (invalid.get? field) (after.working.get? field) := by
  have hend := checkFields_induction
    (J := fun rest found p => (∀ v ∈ p.visits, v.field ≠ field → ¬ v.Writes field) →
      OneTurn limit attached untaint input field value rest found p) ?_ ?_ ?_ hrun
    (fun _ => OneTurn.start hvalue) hunwritten
  · rcases hend.turn with ⟨⟨e, he, -⟩, -⟩ | ⟨-, hdone⟩
    · simp at he
    · exact hdone
  · intro name constraints rest found p hp habsent hvisits
    have hturn := hp hvisits
    refine hturn.other (fun heq => ?_) rfl rfl
    subst heq
    exact habsent (FieldMap.contains_of_get? hturn.now.1)
  · intro name constraints rest found p middle hp _ hc hvisits
    have hturn := hp ((since_checkConstraints hc).forall_visits hvisits)
    by_cases heq : name = field
    · subst heq
      exact hturn.done hc hturn.now.2.1 fun _ => rfl
    · exact hturn.other heq (get?_of_checkConstraints_unwritten heq hc hvisits) rfl
  · intro name constraints rest found p middle failures hp _ hne hc hvisits
    have hturn := hp ((since_checkConstraints hc).forall_visits hvisits)
    by_cases heq : name = field
    · subst heq
      refine hturn.done hc ?_ fun hnil => absurd hnil hne
      rw [FieldMap.get?_insert, if_pos rfl, failedWith, if_neg hne]
    · refine hturn.other heq ?_ ?_
      · rw [Progress.reject, FieldMap.get?_erase, if_neg fun e => heq e.symm]
        exact get?_of_checkConstraints_unwritten heq hc hvisits
      · rw [FieldMap.get?_insert, if_neg heq]

/-- A field that does not stand at the start and is never written does not come to stand. -/
theorem get?_of_checkAll_unwritten {classified : NameSet} {start : Record} {after : Progress}
    {invalid : FieldMap (List String)}
    (hrun : checkAll limit attached untaint classified input start = (after, .ok invalid))
    (habsent : start.get? field = none) (hunwritten : ∀ v ∈ after.visits, v.field ≠ field → ¬ v.Writes field) :
    after.working.get? field = none := by
  -- a field that is absent when fields have their turn is not the one whose turn it is
  have hother : ∀ {name : String} {p : Progress}, p.working.get? field = none → p.working.contains name →
      name ≠ field := by
    rintro name p hnone hpresent rfl
    exact FieldMap.get?_eq_none_iff.1 hnone hpresent
  refine checkFields_induction (J := fun _ _ p => (∀ v ∈ p.visits, v.field ≠ field → ¬ v.Writes field) →
    p.working.get? field = none) ?_ ?_ ?_ hrun (fun _ => habsent) hunwritten
  · intro _ _ _ _ _ hp _ hvisits
    exact hp hvisits
  · intro name _ _ _ p middle hp hpresent hc hvisits
    have hnone := hp ((since_checkConstraints hc).forall_visits hvisits)
    rw [get?_of_checkConstraints_unwritten (hother hnone hpresent) hc hvisits, hnone]
  · intro name _ _ _ p middle failures hp hpresent _ hc hvisits
    have hnone := hp ((since_checkConstraints hc).forall_visits hvisits)
    have hne := hother hnone hpresent
    rw [Progress.reject, FieldMap.get?_erase, if_neg hne.symm,
      get?_of_checkConstraints_unwritten hne hc hvisits, hnone]

/-! ## A check of one field only -/

/-- Fields that do not stand are passed over. -/
theorem checkFields_of_absent {rest : List (String × List CompiledConstraint)} {found : FieldMap (List String)}
    {p : Progress} (h : ∀ e ∈ rest, ¬ p.working.contains e.1) :
    checkFields limit untaint input rest found p = (p, .ok found) := by
  induction rest with
  | nil => rfl
  | cons head rest ih =>
    rw [checkFields, if_neg (h head List.mem_cons_self)]
    exact ih fun e he => h e (List.mem_cons_of_mem _ he)

/-- Where a single field is present, checking all fields is checking this one. -/
theorem checkFields_of_only {rest : List (String × List CompiledConstraint)} {found : FieldMap (List String)}
    {p middle : Progress} {failures : List String} (hascending : rest.Pairwise fun a b => a.1 < b.1)
    (hfield : p.working.contains field) (honly : ∀ other, p.working.contains other → other = field)
    (hc : checkConstraints limit ⟨field, untaint.applies field, input⟩ ((FieldMap.lookup field rest).getD []) [] p =
      (middle, .ok failures))
    (hmiddle : ∀ other, middle.working.contains other → other = field) :
    checkFields limit untaint input rest found p =
      (if failures = [] then middle else middle.reject field,
        .ok (if failures = [] then found else found.insert field failures)) := by
  induction rest with
  | nil =>
    simp only [FieldMap.lookup, Option.getD_none, checkConstraints, Prod.mk.injEq, Except.ok.injEq] at hc
    obtain ⟨rfl, rfl⟩ := hc
    rfl
  | cons head rest ih =>
    obtain ⟨name, constraints⟩ := head
    obtain ⟨hbehind, hrest⟩ := List.pairwise_cons.1 hascending
    by_cases hname : name = field
    · subst hname
      simp only [FieldMap.lookup, if_true, Option.getD_some] at hc
      -- all other fields come behind this one, and none of them stands
      have hne : ∀ e ∈ rest, e.1 ≠ name := by
        intro e he heq
        have hlt : name < e.1 := hbehind e he
        rw [heq] at hlt
        exact String.lt_irrefl name hlt
      rw [checkFields, if_pos hfield, hc]
      cases failures with
      | nil => exact checkFields_of_absent fun e he hstands => hne e he (hmiddle e.1 hstands)
      | cons failure more =>
        refine checkFields_of_absent fun e he hstands => hne e he (hmiddle e.1 ?_)
        simp only [Progress.reject, FieldMap.contains_erase, Bool.and_eq_true] at hstands
        exact hstands.2
    · simp only [FieldMap.lookup, if_neg hname] at hc
      rw [checkFields, if_neg fun hstands => hname (honly name hstands)]
      exact ih hrest hc

/-- Where only one field stands, now and when its constraints have run, the check is this run. -/
theorem checkAll_eq_of_only {classified : NameSet} {start : Record} {middle : Progress} {failures : List String}
    (hfield : start.contains field) (honly : ∀ other, start.contains other → other = field)
    (hc : checkConstraints limit ⟨field, untaint.applies field, input⟩ (attached.listAt field) []
      ⟨start, classified, []⟩ = (middle, .ok failures))
    (hmiddle : ∀ other, middle.working.contains other → other = field) :
    checkAll limit attached untaint classified input start =
      (if failures = [] then middle else middle.reject field,
        .ok (if failures = [] then FieldMap.empty else FieldMap.empty.insert field failures)) :=
  checkFields_of_only attached.ascending hfield honly hc hmiddle

end OwnTurn

end FormValidation
