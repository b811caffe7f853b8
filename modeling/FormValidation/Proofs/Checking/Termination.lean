import FormValidation.Proofs.Checking.ElementWalk

/-!
# Checks come to an end

A check without a limit need not come to an end, because a method can make its own field longer with every call. It does
when the values that calls write to the field they are for have a bounded number of elements: then the check is the same
for every limit above the number of visits of each of its loops over elements. Each of these loops visits the indexes in
order, each once, and has at most as many visits as the bound says, or as the field had elements when the loop was
begun.
-/

set_option autoImplicit false

namespace FormValidation

open Filter

/-! ## The loops of a check -/

/-- One loop over the elements of a field: what is checked, and the states in which the loop is begun and ended. -/
structure ElementLoop where
  site : CheckSite
  constraint : CompiledConstraint
  begun : Progress
  ended : Progress

/-- The visits of a loop, in order. -/
def ElementLoop.visits (loop : ElementLoop) : List Visit :=
  (loop.ended.visits.take (loop.ended.visits.length - loop.begun.visits.length)).reverse

/-- The loops into which `checkConstraints` comes. -/
def constraintLoops (limit : Nat) (site : CheckSite) : List CompiledConstraint → Progress → List ElementLoop
  | [], _ => []
  | c :: rest, p =>
    match checkElements site c limit 0 none p with
    | (after, .error _) => [⟨site, c, p, after⟩]
    | (after, .ok _) => ⟨site, c, p, after⟩ :: constraintLoops limit site rest after

/-- The loops into which `checkFields` comes. -/
def fieldLoops (limit : Nat) (untaint : UntaintPolicy) (input : Source) :
    List (String × List CompiledConstraint) → Progress → List ElementLoop
  | [], _ => []
  | (field, constraints) :: rest, p =>
    if p.working.contains field then
      constraintLoops limit { field, untaint := untaint.applies field, input } constraints p ++
        match checkConstraints limit { field, untaint := untaint.applies field, input } constraints [] p with
        | (_, .error _) => []
        | (after, .ok []) => fieldLoops limit untaint input rest after
        | (after, .ok _) => fieldLoops limit untaint input rest (after.reject field)
    else fieldLoops limit untaint input rest p

/-- The loops into which `checkAll` comes, in the order in which they are begun. -/
def checkLoops (limit : Nat) (attached : FieldMap (List CompiledConstraint)) (untaint : UntaintPolicy)
    (classified : NameSet) (input : Source) (working : Record) : List ElementLoop :=
  fieldLoops limit untaint input attached.entries ⟨working, classified, []⟩

/-! ## The visits of the loops are the history of the check -/

section History

/-- The visits of a loop are those that were added to the history, in their order. -/
theorem ElementLoop.visits_eq {loop : ElementLoop} {visits : List Visit}
    (h : loop.ended.visits = visits.reverse ++ loop.begun.visits) : loop.visits = visits := by
  unfold ElementLoop.visits
  rw [h, List.length_append, Nat.add_sub_cancel, List.take_left, List.reverse_reverse]

/-- A loop that keeps the earlier visits adds its own behind them. -/
theorem ElementLoop.history_of_suffix (site : CheckSite) (c : CompiledConstraint) {p after : Progress}
    (h : p.visits <:+ after.visits) :
    after.visits.reverse = p.visits.reverse ++ (ElementLoop.mk site c p after).visits := by
  obtain ⟨recent, hrecent⟩ := h
  have hvisits : (ElementLoop.mk site c p after).visits = recent.reverse :=
    ElementLoop.visits_eq (by rw [List.reverse_reverse, hrecent])
  rw [hvisits, ← hrecent, List.reverse_append]

variable {limit : Nat}

/-- The visits of a field are those of its loops, one after the other. -/
theorem checkConstraints_history {site : CheckSite} {constraints : List CompiledConstraint} {failures : List String}
    {p : Progress} :
    (checkConstraints limit site constraints failures p).1.visits.reverse =
      p.visits.reverse ++ (constraintLoops limit site constraints p).flatMap ElementLoop.visits := by
  induction constraints generalizing failures p with
  | nil => simp [checkConstraints, constraintLoops]
  | cons c rest ih =>
    have hsuffix : p.visits <:+ (checkElements site c limit 0 none p).1.visits := visits_suffix_checkElements
    rw [checkConstraints, constraintLoops]
    rcases hrun : checkElements site c limit 0 none p with ⟨middle, fault | failedAs⟩
    · rw [hrun] at hsuffix
      have hloop := ElementLoop.history_of_suffix site c hsuffix
      simpa using hloop
    · rw [hrun] at hsuffix
      have hloop := ElementLoop.history_of_suffix site c hsuffix
      simp only [List.flatMap_cons]
      rw [ih, hloop, List.append_assoc]

/-- Checking a field keeps the visits that were made before. -/
theorem visits_suffix_checkConstraints {site : CheckSite} {constraints : List CompiledConstraint}
    {failures : List String} {p : Progress} :
    p.visits <:+ (checkConstraints limit site constraints failures p).1.visits :=
  List.reverse_prefix.1 ⟨_, checkConstraints_history.symm⟩

/-- The visits of a list of fields are those of its loops, one after the other. -/
theorem checkFields_history {untaint : UntaintPolicy} {input : Source}
    {fields : List (String × List CompiledConstraint)} {invalid : FieldMap (List String)} {p : Progress} :
    (checkFields limit untaint input fields invalid p).1.visits.reverse =
      p.visits.reverse ++ (fieldLoops limit untaint input fields p).flatMap ElementLoop.visits := by
  induction fields generalizing invalid p with
  | nil => simp [checkFields, fieldLoops]
  | cons head rest ih =>
    obtain ⟨field, constraints⟩ := head
    rw [checkFields, fieldLoops]
    by_cases hpresent : p.working.contains field
    · have hown : (checkConstraints limit ⟨field, untaint.applies field, input⟩ constraints [] p).1.visits.reverse =
          p.visits.reverse ++ (constraintLoops limit ⟨field, untaint.applies field, input⟩ constraints p).flatMap
            ElementLoop.visits := checkConstraints_history
      rw [if_pos hpresent, if_pos hpresent, List.flatMap_append, ← List.append_assoc, ← hown]
      rcases checkConstraints limit ⟨field, untaint.applies field, input⟩ constraints [] p with
        ⟨middle, fault | failures⟩
      · simp
      · cases failures with
        | nil => exact ih
        | cons failure more => exact ih
    · rw [if_neg hpresent, if_neg hpresent]
      exact ih

/-- Checking fields keeps the visits that were made before. -/
theorem visits_suffix_checkFields {untaint : UntaintPolicy} {input : Source}
    {fields : List (String × List CompiledConstraint)} {invalid : FieldMap (List String)} {p : Progress} :
    p.visits <:+ (checkFields limit untaint input fields invalid p).1.visits :=
  List.reverse_prefix.1 ⟨_, checkFields_history.symm⟩

/-- The history of a check is made up of the visits of its loops. -/
theorem checkAll_history {attached : FieldMap (List CompiledConstraint)} {untaint : UntaintPolicy}
    {classified : NameSet} {input : Source} {start : Record} :
    (checkAll limit attached untaint classified input start).1.visits.reverse =
      (checkLoops limit attached untaint classified input start).flatMap ElementLoop.visits :=
  checkFields_history

end History

/-! ## Loops that come to an end -/

/-- A loop that no limit cut off, and what it did when the values that its calls wrote to its field had at most `most`
elements. -/
structure ElementLoop.Bounded (loop : ElementLoop) (most : Nat) : Prop where
  /-- The visits are those of turns, for the element that the field has by then at the index. -/
  turns : ∀ v ∈ loop.visits, ∃ q : Progress, q.element? loop.site.field v.index = some v.element ∧
    v = q.visit loop.site loop.constraint v.index v.element
  /-- The constraint is called for the elements that are not empty. -/
  called : ∀ v ∈ loop.visits, v.answer.isSome ↔ v.element ≠ ""
  /-- The indexes are visited in order, each once. -/
  indexes : loop.visits.map Visit.index = List.range loop.visits.length
  steps : loop.visits.length ≤ max most (loop.begun.working.elementsAt loop.site.field).length
  /-- The loop ends with a fault, or at an index without an element. -/
  ends : (∃ v fault, loop.visits.getLast? = some v ∧ v.FailsWith fault) ∨
    loop.ended.element? loop.site.field loop.visits.length = none
  /-- Without a fault and without writes to the field, the elements are visited that it had when the loop was begun. -/
  elements : (∀ v ∈ loop.visits, ¬ v.Writes loop.site.field) → (∀ v ∈ loop.visits, ∀ fault, ¬ v.FailsWith fault) →
    loop.visits.map Visit.element = loop.begun.working.elementsAt loop.site.field

/-- A visit has an answer exactly when its element is not empty. -/
theorem Progress.isSome_answer_visit (p : Progress) (site : CheckSite) (c : CompiledConstraint) (index : Nat)
    (element : String) : (p.visit site c index element).answer.isSome ↔ element ≠ "" := by
  unfold visit
  by_cases hempty : element = ""
  · simp [hempty]
  · simp [hempty]

/-- The walk over the elements of a field is a bounded loop. -/
theorem ElementWalk.bounded {site : CheckSite} {c : CompiledConstraint} {p after : Progress} {visits : List Visit}
    {outcome : Except Fault (Option String)} (h : ElementWalk site c 0 none p visits after outcome) {most : Nat}
    (hwrites : ∀ v ∈ after.visits, v.WritesAtMost most) : (ElementLoop.mk site c p after).Bounded most := by
  have hvisits : (ElementLoop.mk site c p after).visits = visits := ElementLoop.visits_eq h.history
  have hown : ∀ v ∈ visits, v.WritesAtMost most := by
    intro v hv
    refine hwrites v ?_
    rw [h.history]
    exact List.mem_append_left _ (List.mem_reverse.2 hv)
  refine ⟨?_, ?_, ?_, ?_, ?_, ?_⟩ <;> rw [hvisits]
  · exact h.turns
  · intro v hv
    obtain ⟨q, -, hturn⟩ := h.turns v hv
    rw [hturn]
    exact q.isSome_answer_visit site c v.index v.element
  · rw [h.indexes, List.range_eq_range']
  · exact h.length_le (le_max_left _ _) hown (le_max_right _ _)
  · cases outcome with
    | error fault =>
      obtain ⟨v, hlast, hfails⟩ := h.failsWith_of_error rfl
      exact Or.inl ⟨v, fault, hlast, hfails⟩
    | ok result =>
      have hend := h.element?_of_ok rfl
      rw [Nat.zero_add] at hend
      exact Or.inr hend
  · intro hunwritten hfails
    cases outcome with
    | error fault =>
      obtain ⟨v, hlast, hfault⟩ := h.failsWith_of_error rfl
      exact absurd hfault (hfails v (List.mem_of_getLast? hlast) fault)
    | ok result => exact h.elements rfl hunwritten

/-- A run is the same, and has the same loops, for every limit above the number of visits of each of its loops. A fault of
the run is that of its last call, and the loops are bounded. -/
def Ends {α : Type} (run : Nat → Progress × Except Fault α) (loops : Nat → List ElementLoop) (most : Nat) : Prop :=
  ∃ after outcome found,
    (∀ limit, (∀ loop ∈ found, loop.visits.length < limit) → run limit = (after, outcome) ∧ loops limit = found) ∧
    (∀ fault, outcome = .error fault → ∃ v, after.visits.head? = some v ∧ v.FailsWith fault) ∧
    ∀ loop ∈ found, loop.Bounded most

/-- Some limit is above the number of visits of each of a list of loops. -/
theorem eventually_forall_lt (loops : List ElementLoop) :
    ∀ᶠ limit in atTop, ∀ loop ∈ loops, loop.visits.length < limit := by
  induction loops with
  | nil => simp
  | cons loop rest ih =>
    filter_upwards [ih, eventually_gt_atTop loop.visits.length] with limit hrest hloop
    exact List.forall_mem_cons.2 ⟨hloop, hrest⟩

/-- A run that does nothing ends, without loops. -/
theorem Ends.of_ok {α : Type} (p : Progress) (a : α) (most : Nat) : Ends (fun _ => (p, .ok a)) (fun _ => []) most := by
  refine ⟨p, .ok a, [], fun _ _ => ⟨rfl, rfl⟩, ?_, ?_⟩
  · intro fault h
    cases h
  · intro loop h
    cases h

/-- A run comes to an end when a first part does and, unless that ends with a fault, the rest does. -/
theorem Ends.andThen {α β : Type} {first : Nat → Progress × Except Fault α} {firstLoops : Nat → List ElementLoop}
    {total : Nat → Progress × Except Fault β} {totalLoops : Nat → List ElementLoop} {most : Nat}
    (hfirst : Ends first firstLoops most)
    (herror : ∀ limit after fault, first limit = (after, .error fault) →
      total limit = (after, .error fault) ∧ totalLoops limit = firstLoops limit)
    (hok : ∀ middle a, (∀ᶠ limit in atTop, first limit = (middle, .ok a)) →
      ∃ rest restLoops, Ends rest restLoops most ∧ ∀ limit, first limit = (middle, .ok a) →
        total limit = rest limit ∧ totalLoops limit = firstLoops limit ++ restLoops limit) :
    Ends total totalLoops most := by
  obtain ⟨middle, outcome, found, hlimit, hfault, hfound⟩ := hfirst
  cases outcome with
  | error fault =>
    refine ⟨middle, .error fault, found, ?_, ?_, hfound⟩
    · intro limit hbelow
      obtain ⟨hrun, hloops⟩ := hlimit limit hbelow
      obtain ⟨htotal, hsame⟩ := herror limit middle fault hrun
      exact ⟨htotal, hsame.trans hloops⟩
    · intro fault' h
      cases h
      exact hfault fault rfl
  | ok a =>
    -- the rest is only known to come behind the first part for limits that do not cut that off
    have hfirst : ∀ᶠ limit in atTop, first limit = (middle, .ok a) :=
      (eventually_forall_lt found).mono fun limit hbelow => (hlimit limit hbelow).1
    obtain ⟨rest, restLoops, ⟨after, outcome, later, hrest, hlater, hbounded⟩, htotal⟩ := hok middle a hfirst
    refine ⟨after, outcome, found ++ later, ?_, hlater, ?_⟩
    · intro limit hbelow
      obtain ⟨hbelowFound, hbelowLater⟩ := List.forall_mem_append.1 hbelow
      obtain ⟨hrun, hloops⟩ := hlimit limit hbelowFound
      obtain ⟨hrunLater, hloopsLater⟩ := hrest limit hbelowLater
      obtain ⟨hsame, hsameLoops⟩ := htotal limit hrun
      rw [hsame, hsameLoops, hloops, hloopsLater]
      exact ⟨hrunLater, rfl⟩
    · exact List.forall_mem_append.2 ⟨hfound, hbounded⟩

section Ends

variable {most : Nat}

/-- Checking the elements of a field ends when the writes of its calls are bounded. -/
theorem ends_checkElements {site : CheckSite} {c : CompiledConstraint} {p : Progress}
    (hwrites : ∀ᶠ limit in atTop, ∀ v ∈ (checkElements site c limit 0 none p).1.visits, v.WritesAtMost most) :
    Ends (fun limit => checkElements site c limit 0 none p)
      (fun limit => [⟨site, c, p, (checkElements site c limit 0 none p).1⟩]) most := by
  obtain ⟨visits, after, outcome, hwalk⟩ := exists_elementWalk (le_max_left _ _) (le_max_right _ _) hwrites
  have hvisits : (ElementLoop.mk site c p after).visits = visits := ElementLoop.visits_eq hwalk.history
  have hrun : ∀ limit, visits.length < limit → checkElements site c limit 0 none p = (after, outcome) :=
    fun limit hlimit => hwalk.checkElements_eq hlimit
  refine ⟨after, outcome, [⟨site, c, p, after⟩], ?_, ?_, ?_⟩
  · intro limit hbelow
    have hlimit := hbelow _ List.mem_cons_self
    rw [hvisits] at hlimit
    refine ⟨hrun limit hlimit, ?_⟩
    simp only [hrun limit hlimit]
  · intro fault herror
    obtain ⟨v, hlast, hfails⟩ := hwalk.failsWith_of_error herror
    refine ⟨v, ?_, hfails⟩
    rw [hwalk.history, List.head?_append, List.head?_reverse, hlast]
    rfl
  · have hafter : ∀ v ∈ after.visits, v.WritesAtMost most := by
      obtain ⟨limit, hlimit, habove⟩ := (hwrites.and (eventually_gt_atTop visits.length)).exists
      rwa [hrun limit habove] at hlimit
    simpa using hwalk.bounded hafter

/-- Checking a field ends when the writes of its calls are bounded. -/
theorem ends_checkConstraints {site : CheckSite} {constraints : List CompiledConstraint} {failures : List String}
    {p : Progress}
    (hwrites : ∀ᶠ limit in atTop, ∀ v ∈ (checkConstraints limit site constraints failures p).1.visits,
      v.WritesAtMost most) :
    Ends (fun limit => checkConstraints limit site constraints failures p)
      (fun limit => constraintLoops limit site constraints p) most := by
  induction constraints generalizing failures p with
  | nil => exact .of_ok p failures most
  | cons c rest ih =>
    have hfirst : ∀ᶠ limit in atTop, ∀ v ∈ (checkElements site c limit 0 none p).1.visits, v.WritesAtMost most := by
      filter_upwards [hwrites] with limit h v hv
      refine h v ?_
      rw [checkConstraints]
      rcases hrun : checkElements site c limit 0 none p with ⟨middle, fault | failedAs⟩
      · rwa [hrun] at hv
      · rw [hrun] at hv
        exact visits_suffix_checkConstraints.subset hv
    refine (ends_checkElements hfirst).andThen ?_ ?_
    · intro limit after fault h
      simp only [checkConstraints, constraintLoops, h, and_self]
    · intro middle failedAs hmiddle
      have hrest : ∀ᶠ limit in atTop, ∀ v ∈ (checkConstraints limit site rest (failures ++ failedAs.toList)
          middle).1.visits, v.WritesAtMost most := by
        filter_upwards [hwrites, hmiddle] with limit h hrun
        rwa [checkConstraints, hrun] at h
      refine ⟨_, _, ih hrest, ?_⟩
      intro limit h
      simp only [checkConstraints, constraintLoops, h, List.singleton_append, and_self]

/-- What comes behind the constraints of a field: the fields that are left, with what was found by then. -/
theorem exists_rest_checkFields {untaint : UntaintPolicy} {input : Source} {field : String}
    {constraints : List CompiledConstraint} {p : Progress} (hpresent : p.working.contains field)
    (rest : List (String × List CompiledConstraint)) (invalid : FieldMap (List String)) (middle : Progress)
    (failures : List String) :
    ∃ found q, q.visits = middle.visits ∧ ∀ limit,
      checkConstraints limit ⟨field, untaint.applies field, input⟩ constraints [] p = (middle, .ok failures) →
        checkFields limit untaint input ((field, constraints) :: rest) invalid p =
          checkFields limit untaint input rest found q ∧
        fieldLoops limit untaint input ((field, constraints) :: rest) p =
          constraintLoops limit ⟨field, untaint.applies field, input⟩ constraints p ++
            fieldLoops limit untaint input rest q := by
  cases failures with
  | nil =>
    refine ⟨invalid, middle, rfl, fun limit h => ?_⟩
    simp only [checkFields, fieldLoops, hpresent, if_true, h, and_self]
  | cons failure more =>
    refine ⟨invalid.insert field (failure :: more), middle.reject field, rfl, fun limit h => ?_⟩
    simp only [checkFields, fieldLoops, hpresent, if_true, h, and_self]

/-- Checking a list of fields ends when the writes of its calls are bounded. -/
theorem ends_checkFields {untaint : UntaintPolicy} {input : Source}
    {fields : List (String × List CompiledConstraint)} {invalid : FieldMap (List String)} {p : Progress}
    (hwrites : ∀ᶠ limit in atTop, ∀ v ∈ (checkFields limit untaint input fields invalid p).1.visits,
      v.WritesAtMost most) :
    Ends (fun limit => checkFields limit untaint input fields invalid p)
      (fun limit => fieldLoops limit untaint input fields p) most := by
  induction fields generalizing invalid p with
  | nil => exact .of_ok p invalid most
  | cons head rest ih =>
    obtain ⟨field, constraints⟩ := head
    by_cases hpresent : p.working.contains field
    · have hfirst : ∀ᶠ limit in atTop, ∀ v ∈ (checkConstraints limit ⟨field, untaint.applies field, input⟩
          constraints [] p).1.visits, v.WritesAtMost most := by
        filter_upwards [hwrites] with limit h v hv
        refine h v ?_
        rcases hrun : checkConstraints limit ⟨field, untaint.applies field, input⟩ constraints [] p with
          ⟨middle, fault | failures⟩
        · simpa only [checkFields, hpresent, if_true, hrun] using hv
        · obtain ⟨found, q, hvisits, hrest⟩ := exists_rest_checkFields hpresent rest invalid middle failures
          rw [hrun, ← hvisits] at hv
          rw [(hrest limit hrun).1]
          exact visits_suffix_checkFields.subset hv
      refine (ends_checkConstraints hfirst).andThen ?_ ?_
      · intro limit after fault h
        simp only [checkFields, fieldLoops, hpresent, if_true, h, List.append_nil, and_self]
      · intro middle failures hmiddle
        obtain ⟨found, q, -, hrest⟩ := exists_rest_checkFields hpresent rest invalid middle failures
        have hbound : ∀ᶠ limit in atTop, ∀ v ∈ (checkFields limit untaint input rest found q).1.visits,
            v.WritesAtMost most := by
          filter_upwards [hwrites, hmiddle] with limit h hrun
          rwa [(hrest limit hrun).1] at h
        exact ⟨_, _, ih hbound, hrest⟩
    · have hbound : ∀ᶠ limit in atTop, ∀ v ∈ (checkFields limit untaint input rest invalid p).1.visits,
          v.WritesAtMost most := by
        filter_upwards [hwrites] with limit h
        rwa [checkFields, if_neg hpresent] at h
      have hskip : ∀ limit, checkFields limit untaint input ((field, constraints) :: rest) invalid p =
          checkFields limit untaint input rest invalid p := fun limit => by rw [checkFields, if_neg hpresent]
      have hloops : ∀ limit, fieldLoops limit untaint input ((field, constraints) :: rest) p =
          fieldLoops limit untaint input rest p := fun limit => by rw [fieldLoops, if_neg hpresent]
      simpa only [hskip, hloops] using ih hbound

end Ends

/-- The bound on the elements that constraints write to the field they are called for, whatever they see. -/
def CompiledConstraint.WritesAtMost (c : CompiledConstraint) (most : Nat) : Prop :=
  ∀ context : Context, ∀ write ∈ (c.invoke context).writes, write.1 = context.field → write.2.length ≤ most

/-- Where every attached constraint keeps to a bound, every visit does. -/
theorem checkAll_writesAtMost {attached : FieldMap (List CompiledConstraint)} {most : Nat}
    (h : ∀ field, ∀ c ∈ attached.listAt field, c.WritesAtMost most) {limit : Nat} {untaint : UntaintPolicy}
    {classified : NameSet} {input : Source} {start : Record} :
    ∀ v ∈ (checkAll limit attached untaint classified input start).1.visits, v.WritesAtMost most := by
  refine checkFields_invariant (I := fun p => ∀ v ∈ p.visits, v.WritesAtMost most) ?_ ?_ ?_
  · intro e he c hc index p element hp hpresent
    rw [Progress.turn_visits]
    refine List.forall_mem_cons.2 ⟨?_, hp⟩
    rintro answer hanswer write hwrite heq -
    have hattached : c ∈ attached.listAt e.1 := by rwa [FieldMap.listAt_of_mem he]
    rw [p.eq_invoke_of_answer _ c index element hanswer] at hwrite
    exact h e.1 c hattached _ write hwrite heq
  · intro field p hp
    exact hp
  · intro v hv
    cases hv

/-- A check comes to an end when there is a bound on the number of elements of the values that calls write to the field
they are for: it is the same for every limit above the number of visits of each of its loops over the elements of a
field, and these keep to the bound. So no limit is needed, and a fault is that of the last call. -/
theorem checkAll_ends {attached : FieldMap (List CompiledConstraint)} {untaint : UntaintPolicy}
    {classified : NameSet} {input : Source} {start : Record} {most : Nat}
    (hwrites : ∀ limit, ∀ v ∈ (checkAll limit attached untaint classified input start).1.visits,
      v.WritesAtMost most) :
    ∃ after outcome loops, (∀ limit, (∀ loop ∈ loops, loop.visits.length < limit) →
        checkAll limit attached untaint classified input start = (after, outcome) ∧
        checkLoops limit attached untaint classified input start = loops) ∧
      (∀ fault, outcome = .error fault → ∃ v, after.visits.head? = some v ∧ v.FailsWith fault) ∧
      after.visits.reverse = loops.flatMap ElementLoop.visits ∧
      ∀ loop ∈ loops, loop.Bounded most := by
  obtain ⟨after, outcome, loops, hlimit, hfault, hbounded⟩ := ends_checkFields (.of_forall hwrites)
  refine ⟨after, outcome, loops, hlimit, hfault, ?_, hbounded⟩
  -- the history is that of a check with any limit that is high enough
  obtain ⟨limit, hbelow⟩ := (eventually_forall_lt loops).exists
  obtain ⟨hrun, hloops⟩ : checkAll limit attached untaint classified input start = (after, outcome) ∧
    checkLoops limit attached untaint classified input start = loops := hlimit limit hbelow
  rw [← hloops, ← checkAll_history, hrun]

/-- A method that writes two elements to the field of tags, whatever it is called for. -/
def splitTags : CompiledConstraint where
  name := "split"
  callable := .method fun context _ => {
    outcome := .ok (.matched context.value)
    writes := [("tags", .list ["a", "b"])] }
  params := none

/-- The method writes two elements, so two is a bound for what it writes. -/
theorem writesAtMost_splitTags (field : String) :
    ∀ c ∈ FieldMap.listAt (FieldMap.empty.insert "tags" [splitTags]) field, c.WritesAtMost 2 := by
  intro c hc context write hwrite _
  have hsplit : c = splitTags := by
    unfold FieldMap.listAt at hc
    rw [FieldMap.get?_insert] at hc
    split at hc
    · simpa using hc
    · cases hc
  subst hsplit
  have honly : write = ("tags", .list ["a", "b"]) := by
    simpa [CompiledConstraint.invoke, splitTags] using hwrite
  rw [honly]
  exact le_rfl

/-- Checking the tags ends under every limit above two, and each of the two elements is visited once. -/
theorem checkAll_ends_splitTags :
    ∃ after loop, (∀ limit, 2 < limit →
        checkAll limit (FieldMap.empty.insert "tags" [splitTags]) ⟨true, FieldMap.empty, []⟩ FieldMap.empty
          (.texts FieldMap.empty) (FieldMap.empty.insert "tags" (.scalar "a,b")) = (after, .ok FieldMap.empty) ∧
        checkLoops limit (FieldMap.empty.insert "tags" [splitTags]) ⟨true, FieldMap.empty, []⟩ FieldMap.empty
          (.texts FieldMap.empty) (FieldMap.empty.insert "tags" (.scalar "a,b")) = [loop]) ∧
      loop.Bounded 2 ∧ loop.visits.map Visit.element = ["a,b", "b"] := by
  have hwrites : ∀ limit, ∀ v ∈ (checkAll limit (FieldMap.empty.insert "tags" [splitTags]) ⟨true, FieldMap.empty, []⟩
      FieldMap.empty (.texts FieldMap.empty) (FieldMap.empty.insert "tags" (.scalar "a,b"))).1.visits,
      v.WritesAtMost 2 := fun limit => checkAll_writesAtMost writesAtMost_splitTags
  obtain ⟨after, outcome, loops, hlimit, -, -, hbounded⟩ := checkAll_ends hwrites
  obtain ⟨enough, henough⟩ := (eventually_forall_lt loops).exists
  -- whatever is enough, with three more turns the check is a computation
  have hthree := hlimit (enough + 3) fun loop hloop => (henough loop hloop).trans_le (Nat.le_add_right enough 3)
  have hrun : checkAll (enough + 3) (FieldMap.empty.insert "tags" [splitTags]) ⟨true, FieldMap.empty, []⟩
      FieldMap.empty (.texts FieldMap.empty) (FieldMap.empty.insert "tags" (.scalar "a,b")) =
      (_, .ok FieldMap.empty) := rfl
  have hloops : checkLoops (enough + 3) (FieldMap.empty.insert "tags" [splitTags]) ⟨true, FieldMap.empty, []⟩
      FieldMap.empty (.texts FieldMap.empty) (FieldMap.empty.insert "tags" (.scalar "a,b")) = [_] := rfl
  rw [hrun, hloops, Prod.mk.injEq] at hthree
  obtain ⟨⟨rfl, rfl⟩, rfl⟩ := hthree
  refine ⟨_, _, fun limit habove => hlimit limit ?_, hbounded _ List.mem_cons_self, rfl⟩
  intro loop hloop
  rw [List.mem_singleton.1 hloop]
  exact habove

end FormValidation
