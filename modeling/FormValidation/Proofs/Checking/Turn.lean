import FormValidation.Evaluation.Checking
import FormValidation.Proofs.FieldMap

/-!
# One turn of the check, and the rules of its loops

Checking runs through fields, their constraints, and their elements. What happens to one element is a turn:
`Progress.turn` is the state after it, `Progress.failure` the name under which the constraint has failed by then,
`Progress.fault?` the fault that ends the run there, and `Progress.visit` what the history records. The loop over the
elements is told turn by turn (`checkElements_of_some`), and each of the three loops has one rule,
`checkElements_induction`, `checkConstraints_induction` and `checkFields_induction`: what every step keeps holds after a
run that came to an end.
-/

set_option autoImplicit false

namespace FormValidation

/-! ## Writes of a method -/

/-- Without writes nothing changes. -/
@[simp] theorem applyWrites_nil (closed : NameSet) (working : Record) : applyWrites closed working [] = working := rfl

/-- The first of a list of writes counts unless its field is closed, and then the others. -/
theorem applyWrites_cons (closed : NameSet) (working : Record) (write : String × FieldValue)
    (rest : List (String × FieldValue)) :
    applyWrites closed working (write :: rest) =
      applyWrites closed (if closed.contains write.1 then working else working.insert write.1 write.2) rest := rfl

/-- Carrying out the writes of a method leaves what the method would see if it wrote them itself, one by one. -/
theorem applyWrites_eq_setValid (context : Context) (writes : List (String × FieldValue)) :
    applyWrites context.closed context.valid writes =
      (writes.foldl (fun c write => c.setValid write.1 write.2) context).valid := by
  induction writes generalizing context with
  | nil => rfl
  | cons write rest ih =>
    rw [List.foldl_cons, ← ih, applyWrites_cons]
    unfold Context.setValid
    split <;> rfl

/-- Writes leave the value of a closed field as it is. -/
theorem get?_applyWrites_of_closed {closed : NameSet} {field : String} (h : closed.contains field) (working : Record)
    (writes : List (String × FieldValue)) : (applyWrites closed working writes).get? field = working.get? field := by
  induction writes generalizing working with
  | nil => rfl
  | cons write rest ih =>
    rw [applyWrites_cons, ih]
    split
    · rfl
    next hopen =>
      have hne : write.1 ≠ field := fun e => hopen (e ▸ h)
      rw [FieldMap.get?_insert, if_neg hne]

/-- Writes take no field away. -/
theorem contains_applyWrites {working : Record} {field : String} (h : working.contains field) (closed : NameSet)
    (writes : List (String × FieldValue)) : (applyWrites closed working writes).contains field := by
  induction writes generalizing working with
  | nil => exact h
  | cons write rest ih =>
    rw [applyWrites_cons]
    split
    · exact ih h
    · exact ih (by simp [h])

/-! ## One element -/

namespace Progress

/-- The state after an element was looked at: it is passed over without content, else the constraint is called for it
and the text is kept that it matched. -/
def turn (p : Progress) (site : CheckSite) (c : CompiledConstraint) (index : Nat) (element : String) : Progress :=
  if element.isEmpty then p.pass site c index element
  else
    let answer := c.invoke (p.context site element)
    match answer.outcome with
    | .ok (.matched text) => (p.afterCall site c index element answer).keep site index text
    | _ => p.afterCall site c index element answer

/-- The name under which a constraint has failed after an element was looked at, given that of the elements before. -/
def failure (p : Progress) (site : CheckSite) (c : CompiledConstraint) (element : String) (failedAs : Option String) :
    Option String :=
  if element.isEmpty then failedAs
  else
    let answer := c.invoke (p.context site element)
    match answer.outcome with
    | .ok .rejected => failedAs.or (some (answer.renamed.getD c.name))
    | _ => failedAs

/-- The fault with which the call for an element ends the run, if it does. -/
def fault? (p : Progress) (site : CheckSite) (c : CompiledConstraint) (element : String) : Option Fault :=
  if element.isEmpty then none
  else
    match (c.invoke (p.context site element)).outcome with
    | .error fault => some fault
    | .ok _ => none

/-- What the history records about an element. -/
def visit (p : Progress) (site : CheckSite) (c : CompiledConstraint) (index : Nat) (element : String) : Visit where
  field := site.field
  constraint := c.name
  index := index
  element := element
  working := p.working
  closed := p.closed
  answer := if element.isEmpty then none else some (c.invoke (p.context site element))

variable (p : Progress) (site : CheckSite) (c : CompiledConstraint) (index : Nat) (element : String)

/-- The writes of the call for an element, none where it is passed over. -/
def writes : List (String × FieldValue) :=
  if element.isEmpty then [] else (c.invoke (p.context site element)).writes

/-- The answer that a visit records is that of its call. -/
theorem eq_invoke_of_answer {answer : MethodAnswer} (h : (p.visit site c index element).answer = some answer) :
    answer = c.invoke (p.context site element) := by
  unfold visit at h
  by_cases hempty : element.isEmpty
  · simp [hempty] at h
  · simp only [hempty, Bool.false_eq_true, if_false, Option.some.injEq] at h
    exact h.symm

/-- A write of a turn is one of the answer that its visit records. -/
theorem exists_answer_of_mem_writes {write : String × FieldValue} (h : write ∈ p.writes site c element) :
    ∃ answer, (p.visit site c index element).answer = some answer ∧ write ∈ answer.writes := by
  unfold writes at h
  by_cases hempty : element.isEmpty
  · simp [hempty] at h
  · rw [if_neg hempty] at h
    exact ⟨_, by simp [visit, hempty], h⟩

/-- To keep a text closes no field. -/
@[simp] theorem keep_closed (text : String) : (p.keep site index text).closed = p.closed := by
  unfold keep
  split <;> rfl

/-- To keep a text makes no visit. -/
@[simp] theorem keep_visits (text : String) : (p.keep site index text).visits = p.visits := by
  unfold keep
  split <;> rfl

/-- A turn makes one visit. -/
@[simp] theorem turn_visits : (p.turn site c index element).visits = p.visit site c index element :: p.visits := by
  unfold turn visit
  by_cases hempty : element.isEmpty
  · simp [hempty, pass]
  · simp only [hempty, Bool.false_eq_true, if_false]
    split <;> simp [afterCall]

/-- A turn closes no field. -/
@[simp] theorem turn_closed : (p.turn site c index element).closed = p.closed := by
  unfold turn
  by_cases hempty : element.isEmpty
  · simp [hempty, pass]
  · simp only [hempty, Bool.false_eq_true, if_false]
    split <;> simp [afterCall]

/-- A turn carries out the writes of its call, and may set the element it was for, in a field that is untainted. -/
theorem turn_working :
    (p.turn site c index element).working = applyWrites p.closed p.working (p.writes site c element) ∨
      site.untaint = true ∧ ∃ text, (p.turn site c index element).working =
        (applyWrites p.closed p.working (p.writes site c element)).modify site.field
          fun value => value.setElement index text := by
  unfold turn writes
  by_cases hempty : element.isEmpty
  · simp [hempty, pass]
  · simp only [hempty, Bool.false_eq_true, if_false]
    split
    next text _ =>
      unfold keep
      by_cases huntaint : site.untaint = true
      · right
        refine ⟨huntaint, text, ?_⟩
        simp [huntaint, afterCall]
      · left
        simp [huntaint, afterCall]
    next => exact Or.inl rfl

/-- The fields that are present after a turn are those that the writes of its call leave. -/
theorem contains_turn (field : String) :
    (p.turn site c index element).working.contains field =
      (applyWrites p.closed p.working (p.writes site c element)).contains field := by
  rcases turn_working p site c index element with h | ⟨-, text, h⟩
  · rw [h]
  · rw [h, FieldMap.contains_modify]

/-- A turn takes no field away. -/
theorem contains_turn_of_contains {field : String} (h : p.working.contains field) :
    (p.turn site c index element).working.contains field := by
  rw [contains_turn]
  exact contains_applyWrites h _ _

/-- A turn does not change whether a closed field has a value. -/
theorem contains_turn_of_closed {field : String} (h : p.closed.contains field) :
    (p.turn site c index element).working.contains field = p.working.contains field := by
  rw [contains_turn]
  unfold FieldMap.contains
  rw [get?_applyWrites_of_closed h]

end Progress

/-! ## The loops -/

section Elements

variable {site : CheckSite} {c : CompiledConstraint} {limit index : Nat} {failedAs : Option String} {p : Progress}

/-- The loop over elements ends at an index without an element. -/
theorem checkElements_of_none (h : p.element? site.field index = none) :
    checkElements site c (limit + 1) index failedAs p = (p, .ok failedAs) := by
  rw [checkElements]
  simp only [h]

/-- At an element the loop takes a turn, and goes on unless the call faults. -/
theorem checkElements_of_some {element : String} (h : p.element? site.field index = some element) :
    checkElements site c (limit + 1) index failedAs p =
      match p.fault? site c element with
      | some fault => (p.turn site c index element, .error fault)
      | none =>
        checkElements site c limit (index + 1) (p.failure site c element failedAs) (p.turn site c index element) := by
  rw [checkElements]
  simp only [h]
  unfold Progress.fault? Progress.turn Progress.failure
  by_cases hempty : element.isEmpty
  · simp only [hempty, if_true]
  · simp only [hempty, Bool.false_eq_true, if_false]
    cases houtcome : (c.invoke (p.context site element)).outcome with
    | error fault => rfl
    | ok verdict => cases verdict <;> rfl

/-- The rule of the loop over elements. `J` speaks of the index that is next, the failure so far, and the state; where
every turn keeps it, it holds at the end, at an index without an element. -/
theorem checkElements_induction {J : Nat → Option String → Progress → Prop}
    (hturn : ∀ index failedAs p element, J index failedAs p → p.element? site.field index = some element →
      J (index + 1) (p.failure site c element failedAs) (p.turn site c index element))
    {result : Option String} {after : Progress}
    (hrun : checkElements site c limit index failedAs p = (after, .ok result)) (h : J index failedAs p) :
    ∃ last, J last result after ∧ after.element? site.field last = none := by
  -- the recursion is on the limit; index, failure and state are what `J` speaks of, so they stay general
  induction limit generalizing index failedAs p with
  | zero => simp [checkElements] at hrun
  | succ limit ih =>
    cases hpresent : p.element? site.field index with
    | none =>
      rw [checkElements_of_none hpresent] at hrun
      cases hrun
      exact ⟨index, h, hpresent⟩
    | some element =>
      have hnext := hturn index failedAs p element h hpresent
      rw [checkElements_of_some hpresent] at hrun
      cases hfault : p.fault? site c element with
      | some fault => simp [hfault] at hrun
      | none =>
        simp only [hfault] at hrun
        exact ih hrun hnext

/-- What every turn keeps holds when the loop is over, also when a fault or the limit ended it. -/
theorem checkElements_invariant {I : Progress → Prop}
    (hturn : ∀ index p element, I p → p.element? site.field index = some element → I (p.turn site c index element))
    (h : I p) : I (checkElements site c limit index failedAs p).1 := by
  induction limit generalizing index failedAs p with
  | zero => exact h
  | succ limit ih =>
    cases hpresent : p.element? site.field index with
    | none =>
      rw [checkElements_of_none hpresent]
      exact h
    | some element =>
      have hnext := hturn index p element h hpresent
      rw [checkElements_of_some hpresent]
      cases p.fault? site c element with
      | some fault => exact hnext
      | none => exact ih hnext

end Elements

/-- The rule of the loop over the constraints of a field. `J` speaks of the constraints that are left, the failures so
far, and the state. -/
theorem checkConstraints_induction {limit : Nat} {site : CheckSite}
    {J : List CompiledConstraint → List String → Progress → Prop}
    (hstep : ∀ c rest failures p after failedAs, J (c :: rest) failures p →
      checkElements site c limit 0 none p = (after, .ok failedAs) → J rest (failures ++ failedAs.toList) after)
    {constraints : List CompiledConstraint} {failures result : List String} {p after : Progress}
    (hrun : checkConstraints limit site constraints failures p = (after, .ok result)) (h : J constraints failures p) :
    J [] result after := by
  induction constraints generalizing failures p with
  | nil =>
    simp only [checkConstraints, Prod.mk.injEq, Except.ok.injEq] at hrun
    obtain ⟨rfl, rfl⟩ := hrun
    exact h
  | cons c rest ih =>
    rw [checkConstraints] at hrun
    split at hrun
    · simp at hrun
    next middle failedAs hc => exact ih hrun (hstep c rest failures p middle failedAs h hc)

/-- What every turn keeps holds when the constraints of a field are over, however that came about. -/
theorem checkConstraints_invariant {limit : Nat} {site : CheckSite} {I : Progress → Prop}
    {constraints : List CompiledConstraint}
    (hturn : ∀ c ∈ constraints, ∀ index p element, I p → p.element? site.field index = some element →
      I (p.turn site c index element))
    {failures : List String} {p : Progress} (h : I p) : I (checkConstraints limit site constraints failures p).1 := by
  induction constraints generalizing failures p with
  | nil => exact h
  | cons c rest ih =>
    have hc : I (checkElements site c limit 0 none p).1 := checkElements_invariant (hturn c List.mem_cons_self) h
    rw [checkConstraints]
    rcases hrun : checkElements site c limit 0 none p with ⟨middle, fault | failedAs⟩
    · rwa [hrun] at hc
    · rw [hrun] at hc
      exact ih (fun c' hc' => hturn c' (List.mem_cons_of_mem _ hc')) hc

/-- A property of the state that every turn keeps holds when the constraints of a field have been checked. -/
theorem checkConstraints_preserves {limit : Nat} {site : CheckSite} {I : Progress → Prop}
    {constraints : List CompiledConstraint}
    (hturn : ∀ c ∈ constraints, ∀ index p element, I p → p.element? site.field index = some element →
      I (p.turn site c index element))
    {failures result : List String} {p after : Progress}
    (hrun : checkConstraints limit site constraints failures p = (after, .ok result)) (h : I p) : I after := by
  have hend : I (checkConstraints limit site constraints failures p).1 := checkConstraints_invariant hturn h
  rwa [hrun] at hend

/-- The rule of the loop over fields. `J` speaks of the fields that are left, the invalid ones so far, and the state; a
field is absent when its turn comes, or passes its constraints, or fails some. -/
theorem checkFields_induction {limit : Nat} {untaint : UntaintPolicy} {input : Source}
    {J : List (String × List CompiledConstraint) → FieldMap (List String) → Progress → Prop}
    (habsent : ∀ field constraints rest invalid p, J ((field, constraints) :: rest) invalid p →
      ¬ p.working.contains field → J rest invalid p)
    (hpassed : ∀ field constraints rest invalid p after, J ((field, constraints) :: rest) invalid p →
      p.working.contains field →
      checkConstraints limit ⟨field, untaint.applies field, input⟩ constraints [] p = (after, .ok []) →
      J rest invalid after)
    (hfailed : ∀ field constraints rest invalid p after failures, J ((field, constraints) :: rest) invalid p →
      p.working.contains field → failures ≠ [] →
      checkConstraints limit ⟨field, untaint.applies field, input⟩ constraints [] p = (after, .ok failures) →
      J rest (invalid.insert field failures) (after.reject field))
    {fields : List (String × List CompiledConstraint)} {invalid result : FieldMap (List String)} {p after : Progress}
    (hrun : checkFields limit untaint input fields invalid p = (after, .ok result)) (h : J fields invalid p) :
    J [] result after := by
  induction fields generalizing invalid p with
  | nil =>
    simp only [checkFields, Prod.mk.injEq, Except.ok.injEq] at hrun
    obtain ⟨rfl, rfl⟩ := hrun
    exact h
  | cons head rest ih =>
    obtain ⟨field, constraints⟩ := head
    rw [checkFields] at hrun
    by_cases hpresent : p.working.contains field
    · rw [if_pos hpresent] at hrun
      split at hrun
      · simp at hrun
      next middle hc => exact ih hrun (hpassed field constraints rest invalid p middle h hpresent hc)
      next middle failures hne hc =>
        refine ih hrun (hfailed field constraints rest invalid p middle failures h hpresent ?_ hc)
        exact fun e => hne (by rw [e])
    · rw [if_neg hpresent] at hrun
      exact ih hrun (habsent field constraints rest invalid p h hpresent)

/-- What every turn and every finding keeps holds when the fields are over, however that came about. -/
theorem checkFields_invariant {limit : Nat} {untaint : UntaintPolicy} {input : Source} {I : Progress → Prop}
    {fields : List (String × List CompiledConstraint)}
    (hturn : ∀ e ∈ fields, ∀ c ∈ e.2, ∀ index p element, I p → p.element? e.1 index = some element →
      I (p.turn ⟨e.1, untaint.applies e.1, input⟩ c index element))
    (hreject : ∀ field p, I p → I (p.reject field)) {invalid : FieldMap (List String)} {p : Progress} (h : I p) :
    I (checkFields limit untaint input fields invalid p).1 := by
  induction fields generalizing invalid p with
  | nil => exact h
  | cons head rest ih =>
    obtain ⟨field, constraints⟩ := head
    have hrest : ∀ {found : FieldMap (List String)} {q : Progress}, I q →
        I (checkFields limit untaint input rest found q).1 :=
      ih fun e he => hturn e (List.mem_cons_of_mem _ he)
    rw [checkFields]
    by_cases hpresent : p.working.contains field
    · have hc : I (checkConstraints limit ⟨field, untaint.applies field, input⟩ constraints [] p).1 :=
        checkConstraints_invariant (hturn _ List.mem_cons_self) h
      rw [if_pos hpresent]
      rcases hrun : checkConstraints limit ⟨field, untaint.applies field, input⟩ constraints [] p with
        ⟨middle, fault | failures⟩
      · rwa [hrun] at hc
      · rw [hrun] at hc
        cases failures with
        | nil => exact hrest hc
        | cons failure more => exact hrest (hreject field middle hc)
    · rw [if_neg hpresent]
      exact hrest h

end FormValidation
