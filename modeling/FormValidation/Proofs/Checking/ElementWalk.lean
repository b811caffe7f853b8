import Mathlib.Order.Filter.AtTopBot.Basic
import FormValidation.Proofs.Checking.OwnTurn

/-!
# A walk over the elements of a field

The loop over the elements of a field reads the field anew for every element, because a method may have written it: the
list can become longer or shorter while the loop is under way, or become a scalar. A walk (`ElementWalk`) is what the
loop does when no limit cuts it off. A loop whose limit is above the number of visits of a walk does just this walk
(`ElementWalk.checkElements_eq`), and there is a walk as soon as the values that calls write to the field have a bounded
number of elements (`exists_elementWalk`): a turn moves on by one index, and neither writes nor untainting make the
field longer than the bound.
-/

set_option autoImplicit false

namespace FormValidation

/-! ## Visits -/

namespace Visit

/-- The values that the call of a visit writes to the field it is for have at most so many elements. -/
def WritesAtMost (v : Visit) (most : Nat) : Prop :=
  ∀ answer, v.answer = some answer → ∀ write ∈ answer.writes, write.1 = v.field → ¬ v.closed.contains v.field →
    write.2.length ≤ most

/-- The call of a visit was answered by a fault. -/
def FailsWith (v : Visit) (fault : Fault) : Prop := ∃ answer, v.answer = some answer ∧ answer.outcome = .error fault

end Visit

/-- A visit at which a call raises a fault fails with this fault. -/
theorem Progress.failsWith_of_fault? {p : Progress} {site : CheckSite} {c : CompiledConstraint} {index : Nat}
    {element : String} {fault : Fault} (h : p.fault? site c element = some fault) :
    (p.visit site c index element).FailsWith fault := by
  unfold fault? at h
  by_cases hempty : element.isEmpty
  · simp [hempty] at h
  · rw [if_neg hempty] at h
    refine ⟨c.invoke (p.context site element), by simp [visit, hempty], ?_⟩
    cases houtcome : (c.invoke (p.context site element)).outcome with
    | ok verdict => simp [houtcome] at h
    | error raised =>
      rw [houtcome] at h
      rw [Option.some.inj h]

/-! ## The elements that stand for a field -/

/-- The elements of a field, none when it does not stand. -/
def Record.elementsAt (working : Record) (field : String) : List String :=
  ((working.get? field).map FieldValue.elements).getD []

/-- The element at an index is that of the list of elements of the field. -/
theorem Progress.element?_eq (p : Progress) (field : String) (index : Nat) :
    p.element? field index = (p.working.elementsAt field)[index]? := by
  unfold element? Record.elementsAt
  cases p.working.get? field <;> rfl

/-- Setting an element of a field sets it in the list of its elements. -/
theorem Record.elementsAt_modify_setElement (working : Record) (field : String) (index : Nat) (text : String) :
    Record.elementsAt (working.modify field fun value => value.setElement index text) field =
      (working.elementsAt field).set index text := by
  unfold elementsAt
  rw [FieldMap.get?_modify, if_pos rfl]
  cases working.get? field with
  | none => rfl
  | some value => exact value.elements_setElement index text

/-- Writes that put in short values only leave the values of a field short. -/
theorem length_elementsAt_applyWrites_le {closed : NameSet} {working : Record} {writes : List (String × FieldValue)}
    {field : String} {most : Nat}
    (hwrites : ∀ write ∈ writes, write.1 = field → ¬ closed.contains field → write.2.length ≤ most)
    (h : (working.elementsAt field).length ≤ most) :
    (Record.elementsAt (applyWrites closed working writes) field).length ≤ most := by
  induction writes generalizing working with
  | nil => exact h
  | cons write rest ih =>
    rw [applyWrites_cons]
    refine ih (fun w hw => hwrites w (List.mem_cons_of_mem _ hw)) ?_
    split
    · exact h
    next hopen =>
      unfold Record.elementsAt
      rw [FieldMap.get?_insert]
      split
      next heq =>
        rw [heq] at hopen
        exact hwrites write List.mem_cons_self heq hopen
      next => exact h

namespace Progress

variable {p : Progress} {site : CheckSite} {c : CompiledConstraint} {index : Nat} {element : String}

/-- A turn keeps the number of elements below a bound on what its call writes. -/
theorem length_elementsAt_turn_le {most bound : Nat} (hmost : most ≤ bound)
    (hvisit : (p.visit site c index element).WritesAtMost most)
    (h : (p.working.elementsAt site.field).length ≤ bound) :
    ((p.turn site c index element).working.elementsAt site.field).length ≤ bound := by
  have hwritten : (Record.elementsAt (applyWrites p.closed p.working (p.writes site c element))
      site.field).length ≤ bound := by
    refine length_elementsAt_applyWrites_le (fun write hwrite heq hopen => ?_) h
    obtain ⟨answer, hanswer, hmem⟩ := p.exists_answer_of_mem_writes site c index element hwrite
    exact (hvisit answer hanswer write hmem heq hopen).trans hmost
  rcases p.turn_working site c index element with hworking | ⟨-, text, hworking⟩
  · rw [hworking]
    exact hwritten
  · rw [hworking, Record.elementsAt_modify_setElement, List.length_set]
    exact hwritten

/-- A turn that does not write its field leaves the elements behind the one that it was for. -/
theorem drop_elementsAt_turn (hunwritten : ¬ (p.visit site c index element).Writes site.field) :
    ((p.turn site c index element).working.elementsAt site.field).drop (index + 1) =
      (p.working.elementsAt site.field).drop (index + 1) := by
  have hkept : Record.elementsAt (applyWrites p.closed p.working (p.writes site c element)) site.field =
      p.working.elementsAt site.field := by
    unfold Record.elementsAt
    rw [get?_applyWrites_of_unwritten (closed_of_unwritten hunwritten)]
  rcases p.turn_working site c index element with hworking | ⟨-, text, hworking⟩
  · rw [hworking, hkept]
  · rw [hworking, Record.elementsAt_modify_setElement, hkept]
    exact List.drop_set_of_lt (Nat.lt_succ_self index)

end Progress

/-! ## Walks -/

/-- What the loop over the elements of a field does from an index on, without a limit: its visits, the first first, the
state in which it ends, and its outcome. -/
inductive ElementWalk (site : CheckSite) (c : CompiledConstraint) :
    Nat → Option String → Progress → List Visit → Progress → Except Fault (Option String) → Prop
  | stop {index : Nat} {failedAs : Option String} {p : Progress} (habsent : p.element? site.field index = none) :
      ElementWalk site c index failedAs p [] p (.ok failedAs)
  | fault {index : Nat} {failedAs : Option String} {p : Progress} {element : String} {fault : Fault}
      (hpresent : p.element? site.field index = some element) (hfault : p.fault? site c element = some fault) :
      ElementWalk site c index failedAs p [p.visit site c index element] (p.turn site c index element) (.error fault)
  | step {index : Nat} {failedAs : Option String} {p : Progress} {element : String} {visits : List Visit}
      {after : Progress} {outcome : Except Fault (Option String)}
      (hpresent : p.element? site.field index = some element) (hfault : p.fault? site c element = none)
      (hrest : ElementWalk site c (index + 1) (p.failure site c element failedAs) (p.turn site c index element) visits
        after outcome) :
      ElementWalk site c index failedAs p (p.visit site c index element :: visits) after outcome

namespace ElementWalk

variable {site : CheckSite} {c : CompiledConstraint} {index : Nat} {failedAs : Option String} {p after : Progress}
  {visits : List Visit} {outcome : Except Fault (Option String)}

/-- A loop whose limit is above the number of visits of a walk is not cut off. -/
theorem checkElements_eq (h : ElementWalk site c index failedAs p visits after outcome) {limit : Nat}
    (hlimit : visits.length < limit) : checkElements site c limit index failedAs p = (after, outcome) := by
  induction h generalizing limit with
  | stop habsent =>
    obtain ⟨limit, rfl⟩ := Nat.exists_eq_add_one_of_ne_zero (Nat.ne_zero_of_lt hlimit)
    exact checkElements_of_none habsent
  | fault hpresent hfault =>
    obtain ⟨limit, rfl⟩ := Nat.exists_eq_add_one_of_ne_zero (Nat.ne_zero_of_lt hlimit)
    rw [checkElements_of_some hpresent, hfault]
  | step hpresent hfault _ ih =>
    obtain ⟨limit, rfl⟩ := Nat.exists_eq_add_one_of_ne_zero (Nat.ne_zero_of_lt hlimit)
    rw [checkElements_of_some hpresent, hfault]
    exact ih (Nat.lt_of_succ_lt_succ hlimit)

/-- A walk adds its visits to the history, the last one first. -/
theorem history (h : ElementWalk site c index failedAs p visits after outcome) :
    after.visits = visits.reverse ++ p.visits := by
  induction h with
  | stop => rfl
  | fault => exact Progress.turn_visits _ _ _ _ _
  | step _ _ _ ih => rw [ih, Progress.turn_visits, List.reverse_cons, List.append_assoc, List.singleton_append]

/-- A walk visits the elements one after the other. -/
theorem indexes (h : ElementWalk site c index failedAs p visits after outcome) :
    visits.map Visit.index = List.range' index visits.length := by
  induction h with
  | stop => rfl
  | fault => rfl
  | step _ _ _ ih => rw [List.map_cons, ih, List.length_cons, List.range'_succ]; rfl

/-- Every visit of a walk is that of a turn for an element that the field has by then. -/
theorem turns (h : ElementWalk site c index failedAs p visits after outcome) :
    ∀ v ∈ visits, ∃ q : Progress, q.element? site.field v.index = some v.element ∧
      v = q.visit site c v.index v.element := by
  induction h with
  | stop => simp
  | fault hpresent => simpa using ⟨_, hpresent, rfl⟩
  | step hpresent _ _ ih => exact List.forall_mem_cons.2 ⟨⟨_, hpresent, rfl⟩, ih⟩

/-- A walk ends with an outcome at an index without an element. -/
theorem element?_of_ok (h : ElementWalk site c index failedAs p visits after outcome) {result : Option String}
    (hok : outcome = .ok result) : after.element? site.field (index + visits.length) = none := by
  induction h with
  | stop habsent => exact habsent
  | fault => cases hok
  | step _ _ _ ih =>
    have hend := ih hok
    rwa [List.length_cons, Nat.add_comm _ 1, ← Nat.add_assoc]

/-- A walk that ends with a fault ends with the visit that was answered so. -/
theorem failsWith_of_error (h : ElementWalk site c index failedAs p visits after outcome) {fault : Fault}
    (herror : outcome = .error fault) : ∃ v, visits.getLast? = some v ∧ v.FailsWith fault := by
  induction h with
  | stop => cases herror
  | fault _ hfault =>
    cases herror
    exact ⟨_, rfl, Progress.failsWith_of_fault? hfault⟩
  | step _ _ _ ih =>
    obtain ⟨v, hlast, hfails⟩ := ih herror
    refine ⟨v, ?_, hfails⟩
    rw [List.getLast?_cons, hlast, Option.getD_some]

/-- A walk has at most as many visits as its field may have elements behind the index, when that bounds both the
elements it has now and those that calls write. -/
theorem length_le (h : ElementWalk site c index failedAs p visits after outcome) {most bound : Nat}
    (hmost : most ≤ bound) (hwrites : ∀ v ∈ visits, v.WritesAtMost most)
    (hnow : (p.working.elementsAt site.field).length ≤ bound) : visits.length ≤ bound - index := by
  induction h with
  | stop => exact Nat.zero_le _
  | fault hpresent =>
    rw [Progress.element?_eq] at hpresent
    have hindex := (List.getElem?_eq_some_iff.1 hpresent).1
    simp only [List.length_singleton]
    omega
  | step hpresent _ _ ih =>
    -- the turn leaves at most `bound` elements, and the index is below that
    have hrest := ih (fun v hv => hwrites v (List.mem_cons_of_mem _ hv))
      (Progress.length_elementsAt_turn_le hmost (hwrites _ List.mem_cons_self) hnow)
    rw [Progress.element?_eq] at hpresent
    have hindex := (List.getElem?_eq_some_iff.1 hpresent).1
    simp only [List.length_cons]
    omega

/-- A walk that comes to no fault and does not write its field visits its elements in order. -/
theorem elements (h : ElementWalk site c index failedAs p visits after outcome) {result : Option String}
    (hok : outcome = .ok result) (hunwritten : ∀ v ∈ visits, ¬ v.Writes site.field) :
    visits.map Visit.element = (p.working.elementsAt site.field).drop index := by
  induction h with
  | stop habsent =>
    rw [Progress.element?_eq, List.getElem?_eq_none_iff] at habsent
    rw [List.drop_eq_nil_of_le habsent, List.map_nil]
  | fault => cases hok
  | @step index _ p element visits _ _ hpresent _ _ ih =>
    have hrest := ih hok fun v hv => hunwritten v (List.mem_cons_of_mem _ hv)
    rw [Progress.drop_elementsAt_turn (hunwritten _ List.mem_cons_self)] at hrest
    rw [Progress.element?_eq] at hpresent
    obtain ⟨hindex, hget⟩ := List.getElem?_eq_some_iff.1 hpresent
    rw [List.map_cons, hrest, List.drop_eq_getElem_cons hindex, hget]
    rfl

end ElementWalk

/-! ## There is a walk -/

/-- Checking the elements of a field keeps the visits that were made before. -/
theorem visits_suffix_checkElements {site : CheckSite} {c : CompiledConstraint} {limit index : Nat}
    {failedAs : Option String} {p : Progress} :
    p.visits <:+ (checkElements site c limit index failedAs p).1.visits := by
  refine checkElements_invariant (I := fun q => p.visits <:+ q.visits) ?_ (List.suffix_refl _)
  intro index q element hq _
  rw [Progress.turn_visits]
  exact hq.trans (List.suffix_cons _ _)

open Filter in
/-- The loop over the elements of a field has a walk, when the values that its calls write to the field have a bounded
number of elements, however far the loop is let run. -/
theorem exists_elementWalk {site : CheckSite} {c : CompiledConstraint} {most bound : Nat} (hmost : most ≤ bound)
    {index : Nat} {failedAs : Option String} {p : Progress} (hnow : (p.working.elementsAt site.field).length ≤ bound)
    (hwrites : ∀ᶠ limit in atTop, ∀ v ∈ (checkElements site c limit index failedAs p).1.visits, v.WritesAtMost most) :
    ∃ visits after outcome, ElementWalk site c index failedAs p visits after outcome := by
  -- the field has at most `bound` elements at every turn, so no more turns than that are left
  induction hleft : bound - index generalizing index failedAs p with
  | zero =>
    have habsent : p.element? site.field index = none := by
      rw [Progress.element?_eq, List.getElem?_eq_none_iff]
      omega
    exact ⟨[], p, .ok failedAs, .stop habsent⟩
  | succ left ih =>
    cases hpresent : p.element? site.field index with
    | none => exact ⟨[], p, .ok failedAs, .stop hpresent⟩
    | some element =>
      cases hfault : p.fault? site c element with
      | some fault => exact ⟨_, _, _, .fault hpresent hfault⟩
      | none =>
        have hafter : ∀ᶠ limit in atTop, ∀ v ∈ (checkElements site c limit (index + 1)
            (p.failure site c element failedAs) (p.turn site c index element)).1.visits, v.WritesAtMost most := by
          filter_upwards [(tendsto_add_atTop_nat 1).eventually hwrites] with limit hlimit
          rw [checkElements_of_some hpresent, hfault] at hlimit
          exact hlimit
        have hvisit : (p.visit site c index element).WritesAtMost most := by
          obtain ⟨limit, hlimit⟩ := hafter.exists
          refine hlimit _ (visits_suffix_checkElements.subset ?_)
          rw [Progress.turn_visits]
          exact List.mem_cons_self
        obtain ⟨visits, after, outcome, hwalk⟩ :=
          ih (Progress.length_elementsAt_turn_le hmost hvisit hnow) hafter (by omega)
        exact ⟨_, after, outcome, .step hpresent hfault hwalk⟩

end FormValidation
