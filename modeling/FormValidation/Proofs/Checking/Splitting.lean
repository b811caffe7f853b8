import FormValidation.Proofs.Checking.OwnTurn
import FormValidation.Proofs.Checking.Termination

/-!
# A check up to a field

The fields of a check have their turns one after the other, so a check can be split where a field has its turn: what
comes before is a check of its own, and so is what comes behind (`checkFields_append`). In this way the turn of a field
is met together with the values of all fields that were left alone until then (`exists_turn`).
-/

set_option autoImplicit false

namespace FormValidation

section Splitting

variable {limit : Nat} {untaint : UntaintPolicy} {input : Source}

/-- A check of fields is the check of the first ones, and, unless that faults, of the others from where it ended. -/
theorem checkFields_append (front back : List (String × List CompiledConstraint)) (found : FieldMap (List String))
    (p : Progress) :
    checkFields limit untaint input (front ++ back) found p =
      match checkFields limit untaint input front found p with
      | (middle, .error fault) => (middle, .error fault)
      | (middle, .ok invalid) => checkFields limit untaint input back invalid middle := by
  induction front generalizing found p with
  | nil => rfl
  | cons head rest ih =>
    obtain ⟨field, constraints⟩ := head
    rw [List.cons_append, checkFields, checkFields]
    split
    · rcases checkConstraints limit ⟨field, untaint.applies field, input⟩ constraints [] p with
        ⟨middle, fault | failures⟩
      · rfl
      · cases failures with
        | nil => exact ih found middle
        | cons failure more => exact ih _ _
    · exact ih found p

variable {fields : List (String × List CompiledConstraint)} {found invalid : FieldMap (List String)}
  {p after : Progress} {name : String}

/-- Only fields that are checked are found invalid. -/
theorem get?_invalid_of_checkFields
    (hrun : checkFields limit untaint input fields found p = (after, .ok invalid))
    (hname : ∀ e ∈ fields, e.1 ≠ name) : invalid.get? name = found.get? name := by
  refine (checkFields_induction
    (J := fun rest so _ => (∀ e ∈ rest, e.1 ≠ name) ∧ so.get? name = found.get? name) ?_ ?_ ?_ hrun ⟨hname, rfl⟩).2
  · rintro field constraints rest so q ⟨hrest, hso⟩ -
    exact ⟨fun e he => hrest e (List.mem_cons_of_mem _ he), hso⟩
  · rintro field constraints rest so q middle ⟨hrest, hso⟩ - -
    exact ⟨fun e he => hrest e (List.mem_cons_of_mem _ he), hso⟩
  · rintro field constraints rest so q middle failures ⟨hrest, hso⟩ - - -
    refine ⟨fun e he => hrest e (List.mem_cons_of_mem _ he), ?_⟩
    rw [FieldMap.get?_insert, if_neg (hrest _ List.mem_cons_self), hso]

/-- A field keeps its value while other fields are checked, and while it is checked without constraints, when no call
writes it. -/
theorem get?_of_checkFields_unwritten
    (hrun : checkFields limit untaint input fields found p = (after, .ok invalid))
    (hunchecked : ∀ e ∈ fields, e.1 = name → e.2 = []) (hunwritten : ∀ v ∈ after.visits, ¬ v.Writes name) :
    after.working.get? name = p.working.get? name := by
  refine (checkFields_induction (J := fun rest _ q => (∀ e ∈ rest, e.1 = name → e.2 = []) ∧
    ((∀ v ∈ q.visits, ¬ v.Writes name) → q.working.get? name = p.working.get? name)) ?_ ?_ ?_ hrun
    ⟨hunchecked, fun _ => rfl⟩).2 hunwritten
  · rintro field constraints rest so q ⟨hrest, hq⟩ -
    exact ⟨fun e he => hrest e (List.mem_cons_of_mem _ he), hq⟩
  · rintro field constraints rest so q middle ⟨hrest, hq⟩ - hc
    refine ⟨fun e he => hrest e (List.mem_cons_of_mem _ he), fun hvisits => ?_⟩
    have hbefore := hq ((since_checkConstraints hc).forall_visits hvisits)
    by_cases hfield : field = name
    · obtain rfl : constraints = [] := hrest _ List.mem_cons_self hfield
      cases hc
      exact hbefore
    · rw [get?_of_checkConstraints_unwritten hfield hc fun v hv _ => hvisits v hv, hbefore]
  · rintro field constraints rest so q middle failures ⟨hrest, hq⟩ - hne hc
    refine ⟨fun e he => hrest e (List.mem_cons_of_mem _ he), fun hvisits => ?_⟩
    have hbefore := hq ((since_checkConstraints hc).forall_visits hvisits)
    by_cases hfield : field = name
    · obtain rfl : constraints = [] := hrest _ List.mem_cons_self hfield
      cases hc
      exact absurd rfl hne
    · rw [Progress.reject, FieldMap.get?_erase, if_neg fun heq => hfield heq.symm,
        get?_of_checkConstraints_unwritten hfield hc fun v hv _ => hvisits v hv, hbefore]

/-- Only fields that are checked are visited. -/
theorem exists_field_of_checkFields (hrun : checkFields limit untaint input fields found p = (after, .ok invalid)) :
    ∀ v ∈ after.visits, v ∈ p.visits ∨ ∃ e ∈ fields, e.1 = v.field := by
  have hvisited : ∀ {field : String} {constraints : List CompiledConstraint}
      {rest : List (String × List CompiledConstraint)} {q middle : Progress} {failures : List String},
      (((field, constraints) :: rest) ⊆ fields ∧ ∀ v ∈ q.visits, v ∈ p.visits ∨ ∃ e ∈ fields, e.1 = v.field) →
      checkConstraints limit ⟨field, untaint.applies field, input⟩ constraints [] q = (middle, .ok failures) →
      rest ⊆ fields ∧ ∀ v ∈ middle.visits, v ∈ p.visits ∨ ∃ e ∈ fields, e.1 = v.field := by
    rintro field constraints rest q middle failures ⟨hrest, hq⟩ hc
    obtain ⟨recent, hvisits, hfield, -⟩ := since_checkConstraints hc
    refine ⟨fun e he => hrest (List.mem_cons_of_mem _ he), fun v hv => ?_⟩
    rw [hvisits] at hv
    rcases List.mem_append.1 hv with hrecent | hbefore
    · exact Or.inr ⟨_, hrest List.mem_cons_self, (hfield v hrecent).symm⟩
    · exact hq v hbefore
  refine (checkFields_induction (J := fun rest _ q => rest ⊆ fields ∧
    ∀ v ∈ q.visits, v ∈ p.visits ∨ ∃ e ∈ fields, e.1 = v.field) ?_ ?_ ?_ hrun
    ⟨fun _ he => he, fun _ hv => Or.inl hv⟩).2
  · rintro field constraints rest so q ⟨hrest, hq⟩ -
    exact ⟨fun e he => hrest (List.mem_cons_of_mem _ he), hq⟩
  · intro field constraints rest so q middle hq _ hc
    exact hvisited hq hc
  · intro field constraints rest so q middle failures hq _ _ hc
    have hmiddle := hvisited hq hc
    exact hmiddle

end Splitting

/-- The entries of a map before and behind a name that it has. -/
theorem FieldMap.exists_split {α : Type} {m : FieldMap α} {name : String} {value : α} (h : m.get? name = some value) :
    ∃ front back, m.entries = front ++ (name, value) :: back ∧ (∀ e ∈ front, e.1 < name) ∧ ∀ e ∈ back, name < e.1 := by
  obtain ⟨front, back, hentries⟩ := List.append_of_mem ((mem_entries_iff m name value).2 h)
  have hascending := m.ascending
  rw [hentries, List.pairwise_append, List.pairwise_cons] at hascending
  exact ⟨front, back, hentries, fun e he => hascending.2.2 e he (name, value) List.mem_cons_self, hascending.2.1.1⟩

/-- When a field has its turn, it has the value that it had at the start, and so has every field without constraints,
when no call for an earlier field wrote them. The failures of its constraints are then those that it is found invalid
with. -/
theorem exists_turn {limit : Nat} {attached : FieldMap (List CompiledConstraint)} {untaint : UntaintPolicy}
    {classified : NameSet} {input : Source} {start : Record} {after : Progress} {invalid : FieldMap (List String)}
    (hrun : checkAll limit attached untaint classified input start = (after, .ok invalid)) {field : String}
    (hpresent : start.contains field) (hchecked : attached.listAt field ≠ [])
    (hunwritten : ∀ v ∈ after.visits, v.field < field → ¬ v.Writes field) :
    ∃ before middle failures,
      (∀ name, name = field ∨ attached.listAt name = [] →
        (∀ v ∈ after.visits, v.field < field → ¬ v.Writes name) → before.working.get? name = start.get? name) ∧
      checkConstraints limit ⟨field, untaint.applies field, input⟩ (attached.listAt field) [] before =
        (middle, .ok failures) ∧
      invalid.get? field = failedWith failures := by
  obtain ⟨constraints, hentry⟩ : ∃ constraints, attached.get? field = some constraints := by
    rw [← FieldMap.contains_iff]
    by_contra habsent
    exact hchecked (by rw [FieldMap.listAt, FieldMap.get?_eq_none_iff.2 habsent, Option.getD_none])
  obtain ⟨front, back, hentries, hfront, hback⟩ := FieldMap.exists_split hentry
  have hfront' : ∀ e ∈ front, e.1 ≠ field := fun e he heq => String.lt_irrefl field (heq ▸ hfront e he)
  have hback' : ∀ e ∈ back, e.1 ≠ field := fun e he heq => String.lt_irrefl field (heq ▸ hback e he)
  unfold checkAll at hrun
  rw [hentries, checkFields_append] at hrun
  rcases hfirst : checkFields limit untaint input front FieldMap.empty ⟨start, classified, []⟩ with
    ⟨before, fault | found⟩
  · rw [hfirst] at hrun
    cases hrun
  rw [hfirst] at hrun
  dsimp only at hrun
  -- all that was visited until now are visits of earlier fields
  have hvisits : ∀ v ∈ before.visits, v ∈ after.visits ∧ v.field < field := by
    have hsuffix : before.visits <:+
        (checkFields limit untaint input ((field, constraints) :: back) found before).1.visits :=
      visits_suffix_checkFields
    rw [hrun] at hsuffix
    intro v hv
    refine ⟨hsuffix.subset hv, ?_⟩
    obtain ⟨e, he, heq⟩ := (exists_field_of_checkFields hfirst v hv).resolve_left List.not_mem_nil
    exact heq ▸ hfront e he
  have hvalues : ∀ name, name = field ∨ attached.listAt name = [] →
      (∀ v ∈ after.visits, v.field < field → ¬ v.Writes name) → before.working.get? name = start.get? name := by
    intro name hname hquiet
    refine get?_of_checkFields_unwritten hfirst (fun e he heq => ?_) fun v hv =>
      hquiet v (hvisits v hv).1 (hvisits v hv).2
    rcases hname with rfl | hnone
    · exact absurd heq (hfront' e he)
    · have hmem : e ∈ attached.entries := hentries ▸ List.mem_append_left _ he
      rw [← FieldMap.listAt_of_mem hmem, heq]
      exact hnone
  have hnow : before.working.contains field := by
    unfold FieldMap.contains
    rw [hvalues field (Or.inl rfl) hunwritten]
    exact hpresent
  have hnotFound : found.get? field = none := by
    rw [get?_invalid_of_checkFields hfirst hfront']
    rfl
  rw [checkFields, if_pos hnow] at hrun
  rw [FieldMap.listAt_of_get? hentry]
  rcases hc : checkConstraints limit ⟨field, untaint.applies field, input⟩ constraints [] before with
    ⟨middle, fault | failures⟩
  · rw [hc] at hrun
    cases hrun
  · rw [hc] at hrun
    refine ⟨before, middle, failures, hvalues, hc, ?_⟩
    cases failures with
    | nil => rw [get?_invalid_of_checkFields hrun hback', hnotFound, failedWith, if_pos rfl]
    | cons failure more =>
      rw [get?_invalid_of_checkFields hrun hback', FieldMap.get?_insert, if_pos rfl, failedWith, if_neg (by simp)]

end FormValidation
