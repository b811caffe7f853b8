import FormValidation.Proofs.Checking.Confinement
import FormValidation.Proofs.Checking.OwnTurn

/-!
# Lists are checked element by element

A check calls one constraint for all elements of a field before it comes to the next constraint. A constraint that is a
pattern or a plain function, and whose parameters are fixed texts or the field itself, sees nothing but its element.
For a field with such constraints only, the order of the two loops does not matter: a list is checked as each of its
elements is when it is the only text of the field.

What such a constraint makes of one text is told by three functions, `refuses`, `leaves` and `Decides`; they are carried
from a turn over the elements of a field (`checkElements_of_local`) to its constraints (`checkConstraints_of_local`), and
from there to the whole check (`checkAll_list_pointwise`).
-/

set_option autoImplicit false

namespace FormValidation

/-! ## Constraints that see their element only -/

/-- The constraint is a pattern or a plain function, and is called with fixed texts and the checked element only. -/
structure CompiledConstraint.Local (field : String) (c : CompiledConstraint) : Prop where
  notMethod : ∀ run, c.callable ≠ .method run
  ownParams : c.OwnParams field

namespace CompiledConstraint

/-- What the constraint answers to a text that is the only one of its field. -/
def answer (c : CompiledConstraint) (field text : String) : MethodAnswer :=
  c.invoke (Context.alone field (.scalar text) text)

/-- Whether the constraint rejects a text; it is not called for the empty one. -/
def refuses (c : CompiledConstraint) (field text : String) : Bool :=
  !text.isEmpty && c.rejects field (.scalar text) text

/-- The text that the constraint leaves of a text: what it matched, in a field that is untainted. -/
def leaves (c : CompiledConstraint) (untaint : Bool) (field text : String) : String :=
  if text.isEmpty then text
  else
    match (c.answer field text).outcome with
    | .ok (.matched kept) => if untaint then kept else text
    | _ => text

/-- The constraint has a verdict about a text, or is not called for it. -/
def Decides (c : CompiledConstraint) (field text : String) : Prop :=
  text.isEmpty ∨ ∃ verdict, (c.answer field text).outcome = .ok verdict

variable {c : CompiledConstraint} {field : String}

/-- A constraint that sees its element only answers every call for a text alike, without a word more. -/
theorem Local.invoke_eq (h : c.Local field) (context : Context) (hfield : context.field = field) :
    c.invoke context = c.answer field context.value ∧ (c.invoke context).writes = [] ∧
      (c.invoke context).renamed = none := by
  have hparams := h.ownParams.paramValues_eq context.value context.valid
    (Context.alone field (.scalar context.value) context.value).valid
  unfold answer invoke
  rw [hfield, hparams]
  cases hcallable : c.callable with
  | pattern regex => exact ⟨rfl, rfl, rfl⟩
  | plain run => exact ⟨rfl, rfl, rfl⟩
  | method run => exact absurd hcallable (h.notMethod run)

/-- The answer of a local constraint has no writes. -/
theorem Local.writes_answer (h : c.Local field) (text : String) : (c.answer field text).writes = [] :=
  (h.invoke_eq (Context.alone field (.scalar text) text) rfl).2.1

/-- The answer of a local constraint gives no other name. -/
theorem Local.renamed_answer (h : c.Local field) (text : String) : (c.answer field text).renamed = none :=
  (h.invoke_eq (Context.alone field (.scalar text) text) rfl).2.2

/-- Where nothing is untainted, a constraint leaves every text as it is. -/
@[simp] theorem leaves_of_not_untaint (text : String) : c.leaves false field text = text := by
  unfold leaves
  split
  · rfl
  · split <;> rfl

/-- A constraint leaves the empty text as it is. -/
theorem leaves_empty (untaint : Bool) : c.leaves untaint field "" = "" := rfl

end CompiledConstraint

/-! ## The elements of a field -/

section Elements

variable {site : CheckSite} {c : CompiledConstraint} {p : Progress} {value : FieldValue}

/-- A call of a local constraint gives its answer for the element. -/
theorem Progress.invoke_of_local (hc : c.Local site.field) (text : String) :
    c.invoke (p.context site text) = c.answer site.field text :=
  (hc.invoke_eq (p.context site text) rfl).1

/-- A turn at an element puts in its place what the constraint leaves of it. -/
theorem Progress.get?_turn_of_local (hc : c.Local site.field) (hvalue : p.working.get? site.field = some value)
    {index : Nat} {text : String} (htext : value.element? index = some text) :
    (p.turn site c index text).working.get? site.field =
      some (value.setElement index (c.leaves site.untaint site.field text)) := by
  have hself : value.setElement index text = value := by
    apply FieldValue.eq_of_elements (FieldValue.isList_setElement value index text)
    obtain ⟨hlt, hget⟩ := List.getElem?_eq_some_iff.1 htext
    rw [FieldValue.elements_setElement, ← hget, List.set_getElem_self]
  have hwrites := hc.writes_answer text
  unfold turn CompiledConstraint.leaves
  rw [invoke_of_local hc]
  by_cases hempty : text.isEmpty
  · simp only [hempty, if_true, hself]
    exact hvalue
  · simp only [hempty, Bool.false_eq_true, if_false]
    cases houtcome : (c.answer site.field text).outcome with
    | error fault => simpa [afterCall, hwrites, hself] using hvalue
    | ok verdict =>
      cases verdict with
      | rejected => simpa [afterCall, hwrites, hself] using hvalue
      | matched kept =>
        by_cases huntaint : site.untaint
        · simp [keep, afterCall, huntaint, hwrites, FieldMap.get?_modify, hvalue]
        · simpa [keep, afterCall, huntaint, hwrites, hself] using hvalue

/-- After a turn the constraint has failed when it had before or refuses the element. -/
theorem Progress.failure_of_local (hc : c.Local site.field) (text : String) (failedAs : Option String) :
    p.failure site c text failedAs =
      if c.refuses site.field text then failedAs.or (some c.name) else failedAs := by
  unfold failure CompiledConstraint.refuses CompiledConstraint.rejects
  rw [invoke_of_local hc]
  by_cases hempty : text.isEmpty
  · simp [hempty]
  · simp only [hempty, Bool.false_eq_true, if_false, hc.renamed_answer, Option.getD_none, Bool.not_false,
      Bool.true_and]
    unfold CompiledConstraint.answer
    cases (c.invoke (Context.alone site.field (.scalar text) text)).outcome with
    | error fault => rfl
    | ok verdict => cases verdict <;> rfl

/-- The call for an element does not fault just when the constraint decides it. -/
theorem Progress.fault?_eq_none_iff (hc : c.Local site.field) (text : String) :
    p.fault? site c text = none ↔ c.Decides site.field text := by
  unfold fault? CompiledConstraint.Decides
  rw [invoke_of_local hc]
  by_cases hempty : text.isEmpty
  · simp [hempty]
  · simp only [hempty, Bool.false_eq_true, if_false, false_or]
    cases (c.answer site.field text).outcome <;> simp

/-- A constraint leaves of every element what it leaves of the text, and fails when it refuses some element. -/
theorem checkElements_of_local (hc : c.Local site.field) (hvalue : p.working.get? site.field = some value)
    {limit : Nat} {after : Progress} {result : Option String}
    (hrun : checkElements site c limit 0 none p = (after, .ok result)) :
    after.working.get? site.field = some (value.map (c.leaves site.untaint site.field)) ∧
      result.toList = if value.elements.any (c.refuses site.field) then [c.name] else [] := by
  -- the elements before the index that is next are done, those from it on are as they were
  have hend := checkElements_induction (J := fun index failedAs q => ∃ w, q.working.get? site.field = some w ∧
    w.isList = value.isList ∧
    (∀ k, w.elements[k]? = if k < index then (value.elements[k]?).map (c.leaves site.untaint site.field)
      else value.elements[k]?) ∧
    failedAs = if (value.elements.take index).any (c.refuses site.field) then some c.name else none) ?_ hrun
    ⟨value, hvalue, rfl, by simp, by simp⟩
  · obtain ⟨last, ⟨w, hw, hlist, helements, hresult⟩, hlast⟩ := hend
    have hpast : w.elements[last]? = none := by
      simpa [Progress.element?, hw, FieldValue.element?] using hlast
    have hall : value.elements.length ≤ last := by
      rw [helements last, if_neg (Nat.lt_irrefl last)] at hpast
      exact List.getElem?_eq_none_iff.1 hpast
    constructor
    · rw [hw]
      congr 1
      apply FieldValue.eq_of_elements
      · rw [hlist, FieldValue.isList_map]
      · apply List.ext_getElem?
        intro k
        rw [helements k, FieldValue.elements_map, List.getElem?_map]
        split
        · rfl
        next hge =>
          have hnone : value.elements[k]? = none := List.getElem?_eq_none (by omega)
          rw [hnone, Option.map_none]
    · rw [hresult, List.take_of_length_le hall]
      split <;> rfl
  · rintro index failedAs q text ⟨w, hw, hlist, helements, rfl⟩ hpresent
    have htext : w.elements[index]? = some text := by
      simpa [Progress.element?, hw, FieldValue.element?] using hpresent
    have horiginal : value.elements[index]? = some text := by
      rw [← htext, helements index, if_neg (Nat.lt_irrefl index)]
    refine ⟨w.setElement index (c.leaves site.untaint site.field text), ?_, ?_, ?_, ?_⟩
    · exact Progress.get?_turn_of_local hc hw htext
    · rw [FieldValue.isList_setElement, hlist]
    · intro k
      have hlt : index < w.elements.length := (List.getElem?_eq_some_iff.1 htext).1
      rw [FieldValue.elements_setElement, List.getElem?_set, helements k]
      by_cases hk : index = k
      · subst hk
        rw [if_pos rfl, if_pos hlt, if_pos (Nat.lt_succ_self index), horiginal, Option.map_some]
      · have hiff : k < index + 1 ↔ k < index := by omega
        rw [if_neg hk]
        simp only [hiff]
    · rw [Progress.failure_of_local hc, List.take_add_one, horiginal, Option.toList_some, List.any_append]
      by_cases hseen : (value.elements.take index).any (c.refuses site.field)
      · simp [hseen]
      · by_cases hrefused : c.refuses site.field text <;> simp [hseen, hrefused]

/-- The loop over the elements of a field comes to an end when the limit is beyond them, and every element from the
index on is decided. -/
theorem checkElements_ok_iff (hc : c.Local site.field) (hvalue : p.working.get? site.field = some value)
    {limit index : Nat} {failedAs : Option String} :
    (∃ after result, checkElements site c limit index failedAs p = (after, .ok result)) ↔
      value.length - index < limit ∧ ∀ k text, index ≤ k → value.elements[k]? = some text →
        c.Decides site.field text := by
  induction limit generalizing index failedAs p value with
  | zero => simp [checkElements]
  | succ limit ih =>
    have hpresent : p.element? site.field index = value.elements[index]? := by
      simp [Progress.element?, hvalue, FieldValue.element?]
    cases htext : value.elements[index]? with
    | none =>
      have hlength : value.elements.length ≤ index := List.getElem?_eq_none_iff.1 htext
      rw [checkElements_of_none (by rw [hpresent, htext])]
      refine ⟨fun _ => ⟨?_, ?_⟩, fun _ => ⟨p, failedAs, rfl⟩⟩
      · unfold FieldValue.length
        omega
      · intro k text hk hget
        have hlt := (List.getElem?_eq_some_iff.1 hget).1
        omega
    | some text =>
      have hlt : index < value.elements.length := (List.getElem?_eq_some_iff.1 htext).1
      have hfault := p.fault?_eq_none_iff hc text
      rw [checkElements_of_some (by rw [hpresent, htext])]
      cases hfaulty : p.fault? site c text with
      | some fault =>
        -- the element is not decided, so neither side holds
        rw [hfaulty] at hfault
        have hnot : ¬ c.Decides site.field text := fun hdecides => by simpa using hfault.2 hdecides
        constructor
        · rintro ⟨after, result, hrun⟩
          simp at hrun
        · rintro ⟨-, hall⟩
          exact absurd (hall index text (Nat.le_refl index) htext) hnot
      | none =>
        have hdecides := hfault.1 hfaulty
        have hnext := Progress.get?_turn_of_local hc hvalue htext
        simp only
        rw [ih hnext, FieldValue.length_setElement, FieldValue.elements_setElement]
        refine and_congr ?_ ⟨fun hrest k other hk hget => ?_, fun hall k other hk hget => ?_⟩
        · unfold FieldValue.length
          omega
        · rcases Nat.eq_or_lt_of_le hk with rfl | hk
          · rw [htext, Option.some.injEq] at hget
            rwa [← hget]
          · exact hrest k other hk (by rw [List.getElem?_set_ne (by omega), hget])
        · rw [List.getElem?_set_ne (by omega)] at hget
          exact hall k other (by omega) hget

/-- The only turn at the text of a scalar is all that a constraint does. -/
theorem checkElements_scalar (hc : c.Local site.field) {text : String}
    (hvalue : p.working.get? site.field = some (.scalar text)) {limit : Nat} {after : Progress}
    {result : Option String} (hrun : checkElements site c limit 0 none p = (after, .ok result)) :
    after = p.turn site c 0 text := by
  have hfirst : p.element? site.field 0 = some text := by
    simp [Progress.element?, hvalue, FieldValue.element?, FieldValue.elements]
  have hsecond : (p.turn site c 0 text).element? site.field 1 = none := by
    have htext : (FieldValue.scalar text).element? 0 = some text := rfl
    have hnext := Progress.get?_turn_of_local hc hvalue htext
    simp [Progress.element?, hnext, FieldValue.element?, FieldValue.elements, FieldValue.setElement]
  cases limit with
  | zero => simp [checkElements] at hrun
  | succ limit =>
    rw [checkElements_of_some hfirst] at hrun
    cases hfault : p.fault? site c text with
    | some fault => simp [hfault] at hrun
    | none =>
      simp only [hfault] at hrun
      cases limit with
      | zero => simp [checkElements] at hrun
      | succ limit =>
        rw [checkElements_of_none hsecond] at hrun
        cases hrun
        rfl

end Elements

/-! ## The constraints of a field -/

/-- The names of the constraints at selected places, in their order. -/
def namesAt : List CompiledConstraint → (Nat → Bool) → List String
  | [], _ => []
  | c :: rest, selected => (if selected 0 then [c.name] else []) ++ namesAt rest fun k => selected (k + 1)

/-- Where no place of a larger selection has a name, none of a smaller one has. -/
theorem namesAt_eq_nil_of_imp {constraints : List CompiledConstraint} {selected fewer : Nat → Bool}
    (himp : ∀ k, fewer k → selected k) (h : namesAt constraints selected = []) : namesAt constraints fewer = [] := by
  induction constraints generalizing selected fewer with
  | nil => rfl
  | cons c rest ih =>
    obtain ⟨hfirst, hrest⟩ := List.append_eq_nil_iff.1 h
    have hnot : ¬ selected 0 := by
      intro hselected
      simp [hselected] at hfirst
    have hnot' : ¬ fewer 0 := fun hfewer => hnot (himp 0 hfewer)
    rw [namesAt, if_neg hnot', List.nil_append]
    exact ih (fun k => himp (k + 1)) hrest

section Constraints

variable (untaint : Bool) (field : String)

/-- The text that constraints leave of a text, one after the other. -/
def leftBy (constraints : List CompiledConstraint) (text : String) : String :=
  constraints.foldl (fun t c => c.leaves untaint field t) text

/-- For each constraint, whether it refuses what those before it leave of a text. -/
def refusals : List CompiledConstraint → String → List Bool
  | [], _ => []
  | c :: rest, text => c.refuses field text :: refusals rest (c.leaves untaint field text)

/-- Every constraint decides what those before it leave of a text. -/
def DecidedBy : List CompiledConstraint → String → Prop
  | [], _ => True
  | c :: rest, text => c.Decides field text ∧ DecidedBy rest (c.leaves untaint field text)

/-- The names of the constraints that refuse what those before them leave of some text of a list. -/
def refusedNames (constraints : List CompiledConstraint) (texts : List String) : List String :=
  namesAt constraints fun k => texts.any fun text => (refusals untaint field constraints text).getD k false

variable {untaint field}

/-- The names that refuse some of a list of texts, the first constraint and then the others on what it left. -/
theorem refusedNames_cons (c : CompiledConstraint) (rest : List CompiledConstraint) (texts : List String) :
    refusedNames untaint field (c :: rest) texts =
      (if texts.any (c.refuses field) then [c.name] else []) ++
        refusedNames untaint field rest (texts.map (c.leaves untaint field)) := by
  unfold refusedNames
  rw [namesAt]
  simp only [refusals, List.getD_cons_zero, List.getD_cons_succ, List.any_map, Function.comp_def]

/-- What constraints leave of the empty text is empty. -/
@[simp] theorem leftBy_empty (constraints : List CompiledConstraint) : leftBy untaint field constraints "" = "" := by
  induction constraints with
  | nil => rfl
  | cons c rest ih => exact ih

/-- Where nothing is untainted, constraints leave every text as it is. -/
theorem leftBy_of_not_untaint (constraints : List CompiledConstraint) (text : String) :
    leftBy false field constraints text = text := by
  induction constraints with
  | nil => rfl
  | cons c rest ih =>
    rw [leftBy, List.foldl_cons, CompiledConstraint.leaves_of_not_untaint]
    exact ih

/-- No constraint is called for the empty text, so none refuses it. -/
theorem refusals_empty (constraints : List CompiledConstraint) (k : Nat) :
    (refusals untaint field constraints "").getD k false = false := by
  induction constraints generalizing k with
  | nil => rfl
  | cons c rest ih =>
    rw [refusals, CompiledConstraint.leaves_empty]
    cases k with
    | zero => rfl
    | succ k => exact ih k

end Constraints

section Run

variable {site : CheckSite} {constraints : List CompiledConstraint} {p : Progress} {value : FieldValue} {limit : Nat}

/-- The constraints of a field leave of every element what they leave of the text, and those fail that refuse some
element. -/
theorem checkConstraints_of_local (hlocal : ∀ c ∈ constraints, c.Local site.field)
    (hvalue : p.working.get? site.field = some value) {after : Progress} {failures : List String}
    (hrun : checkConstraints limit site constraints [] p = (after, .ok failures)) :
    after.working.get? site.field = some (value.map (leftBy site.untaint site.field constraints)) ∧
      failures = refusedNames site.untaint site.field constraints value.elements := by
  -- the failures so far, and those that the rest gives for what is left by now, make up all of them
  have hend := checkConstraints_induction (J := fun rest failures q => ∃ w, q.working.get? site.field = some w ∧
    (∀ c ∈ rest, c.Local site.field) ∧
    w.map (leftBy site.untaint site.field rest) = value.map (leftBy site.untaint site.field constraints) ∧
    failures ++ refusedNames site.untaint site.field rest w.elements =
      refusedNames site.untaint site.field constraints value.elements) ?_ hrun
    ⟨value, hvalue, hlocal, rfl, List.nil_append _⟩
  · obtain ⟨w, hw, -, hleft, hnames⟩ := hend
    have hsame : w.map (leftBy site.untaint site.field []) = w := by
      apply FieldValue.eq_of_elements (FieldValue.isList_map _ w)
      rw [FieldValue.elements_map]
      exact List.map_id' w.elements
    rw [← hleft, ← hnames, hsame]
    exact ⟨hw, (List.append_nil _).symm⟩
  · rintro c rest failures q middle failedAs ⟨w, hw, hrest, hleft, hnames⟩ hc
    obtain ⟨hmiddle, hfailed⟩ := checkElements_of_local (hrest c List.mem_cons_self) hw hc
    refine ⟨_, hmiddle, fun c' hc' => hrest c' (List.mem_cons_of_mem _ hc'), ?_, ?_⟩
    · rw [FieldValue.map_map, ← hleft]
      rfl
    · rw [hfailed, FieldValue.elements_map, List.append_assoc, ← refusedNames_cons]
      exact hnames

/-- The constraints of a field come to an end when the limit is beyond its elements, and every element is decided. So
a list is checked to the end just when each of its elements is. -/
theorem checkConstraints_ok_iff (hlocal : ∀ c ∈ constraints, c.Local site.field)
    (hvalue : p.working.get? site.field = some value) {failures : List String} :
    (∃ after result, checkConstraints limit site constraints failures p = (after, .ok result)) ↔
      (constraints ≠ [] → value.length < limit) ∧
        ∀ text ∈ value.elements, DecidedBy site.untaint site.field constraints text := by
  induction constraints generalizing failures p value with
  | nil => simp [checkConstraints, DecidedBy]
  | cons c rest ih =>
    have hc : c.Local site.field := hlocal c List.mem_cons_self
    have hrest : ∀ c ∈ rest, c.Local site.field := fun c' hc' => hlocal c' (List.mem_cons_of_mem _ hc')
    have helements : (∃ after result, checkElements site c limit 0 none p = (after, .ok result)) ↔ _ :=
      checkElements_ok_iff hc hvalue
    rw [Nat.sub_zero] at helements
    rw [checkConstraints]
    constructor
    · rintro ⟨after, result, hrun⟩
      split at hrun
      · simp at hrun
      next middle failedAs hmiddle =>
        obtain ⟨hlimit, hdecided⟩ := helements.1 ⟨middle, failedAs, hmiddle⟩
        obtain ⟨hvalue', -⟩ := checkElements_of_local hc hvalue hmiddle
        obtain ⟨-, hlater⟩ := (ih hrest hvalue').1 ⟨after, result, hrun⟩
        refine ⟨fun _ => hlimit, fun text htext => ⟨?_, ?_⟩⟩
        · obtain ⟨k, hk⟩ := List.mem_iff_getElem?.1 htext
          exact hdecided k text (Nat.zero_le k) hk
        · apply hlater
          rw [FieldValue.elements_map]
          exact List.mem_map_of_mem htext
    · rintro ⟨hlimit, hdecided⟩
      have hlimit := hlimit (List.cons_ne_nil c rest)
      have hnow : ∃ after result, checkElements site c limit 0 none p = (after, .ok result) := by
        refine helements.2 ⟨hlimit, fun k text _ hk => (hdecided text ?_).1⟩
        exact List.mem_iff_getElem?.2 ⟨k, hk⟩
      obtain ⟨middle, failedAs, hmiddle⟩ := hnow
      obtain ⟨hvalue', -⟩ := checkElements_of_local hc hvalue hmiddle
      rw [hmiddle]
      refine (ih hrest hvalue').2 ⟨fun _ => ?_, fun text htext => ?_⟩
      · rw [FieldValue.length_map]
        exact hlimit
      · rw [FieldValue.elements_map] at htext
        obtain ⟨original, horiginal, rfl⟩ := List.mem_map.1 htext
        exact (hdecided original horiginal).2

/-- The visit of a turn is rejected when the constraint refuses the element. -/
theorem Progress.rejected_visit_iff {c : CompiledConstraint} (hc : c.Local site.field) (index : Nat) (text : String) :
    (p.visit site c index text).Rejected ↔ c.refuses site.field text := by
  have hfailure := p.isSome_failure_iff site c index text none
  rw [failure_of_local hc] at hfailure
  rw [Option.isSome_none, Bool.false_eq_true, false_or] at hfailure
  rw [← hfailure]
  split <;> simp_all

/-- The constraints of a scalar have one visit each, which is rejected when the constraint refuses what is left of the
text by then. -/
theorem visits_of_checkConstraints_scalar (hlocal : ∀ c ∈ constraints, c.Local site.field) {text : String}
    (hvalue : p.working.get? site.field = some (.scalar text)) {after : Progress} {failures : List String}
    (hrun : checkConstraints limit site constraints [] p = (after, .ok failures)) :
    ∃ recent, after.visits.reverse = p.visits.reverse ++ recent ∧
      recent.map Visit.constraint = constraints.map CompiledConstraint.name ∧
      recent.map (fun v => decide v.Rejected) = refusals site.untaint site.field constraints text := by
  have hend := checkConstraints_induction (J := fun rest _ q => ∃ t recent,
    q.working.get? site.field = some (.scalar t) ∧ (∀ c ∈ rest, c.Local site.field) ∧
    q.visits.reverse = p.visits.reverse ++ recent ∧
    recent.map Visit.constraint ++ rest.map CompiledConstraint.name = constraints.map CompiledConstraint.name ∧
    recent.map (fun v => decide v.Rejected) ++ refusals site.untaint site.field rest t =
      refusals site.untaint site.field constraints text) ?_ hrun ⟨text, [], hvalue, hlocal, by simp, by simp, by simp⟩
  · obtain ⟨t, recent, -, -, hvisits, hnames, hrefusals⟩ := hend
    refine ⟨recent, hvisits, ?_, ?_⟩
    · simpa using hnames
    · simpa [refusals] using hrefusals
  · rintro c rest _ q middle failedAs ⟨t, recent, ht, hrest, hvisits, hnames, hrefusals⟩ hc
    have hlocal := hrest c List.mem_cons_self
    have hmiddle := checkElements_scalar hlocal ht hc
    have htext : (FieldValue.scalar t).element? 0 = some t := rfl
    have hturn := Progress.get?_turn_of_local hlocal ht htext
    subst hmiddle
    refine ⟨c.leaves site.untaint site.field t, recent ++ [q.visit site c 0 t], hturn,
      fun c' hc' => hrest c' (List.mem_cons_of_mem _ hc'), ?_, ?_, ?_⟩
    · rw [Progress.turn_visits, List.reverse_cons, hvisits, List.append_assoc]
    · rw [← hnames]
      simp [Progress.visit]
    · have hrejected : decide (q.visit site c 0 t).Rejected = c.refuses site.field t := by
        rw [Bool.eq_iff_iff, decide_eq_true_eq]
        exact Progress.rejected_visit_iff hlocal 0 t
      rw [← hrefusals]
      simp [hrejected, refusals]

end Run

/-! ## The whole check -/

/-- The check of a text that its field holds as a scalar, when no other field stands. -/
def checkAlone (limit : Nat) (attached : FieldMap (List CompiledConstraint)) (untaint : UntaintPolicy)
    (classified : NameSet) (input : Source) (field text : String) : Progress × Except Fault (FieldMap (List String)) :=
  checkAll limit attached untaint classified input (FieldMap.empty.insert field (.scalar text))

/-- For each visit of a run, in the order of the visits, whether it was answered by a rejection. -/
def Progress.rejections (p : Progress) : List Bool := p.visits.reverse.map fun v => decide v.Rejected

section Whole

variable {limit : Nat} {attached : FieldMap (List CompiledConstraint)} {untaint : UntaintPolicy}
  {classified : NameSet} {input : Source} {field : String}

/-- A text that is decided by all constraints of its field is checked alone by one visit of each; the field fails by the
names of those that refuse it, or keeps what they leave. -/
theorem checkAlone_of_decided (classified : NameSet) (input : Source)
    (hlocal : ∀ c ∈ attached.listAt field, c.Local field) {text : String}
    (hlimit : attached.listAt field ≠ [] → 1 < limit)
    (hdecided : DecidedBy (untaint.applies field) field (attached.listAt field) text) :
    ∃ alone found, checkAlone limit attached untaint classified input field text = (alone, .ok found) ∧
      alone.visits.reverse.map Visit.constraint = (attached.listAt field).map CompiledConstraint.name ∧
      alone.rejections = refusals (untaint.applies field) field (attached.listAt field) text ∧
      found.get? field = failedWith (refusedNames (untaint.applies field) field (attached.listAt field) [text]) ∧
      (refusedNames (untaint.applies field) field (attached.listAt field) [text] = [] →
        alone.working.get? field = some (.scalar (leftBy (untaint.applies field) field (attached.listAt field) text))) := by
  have hvalue : (FieldMap.empty.insert field (FieldValue.scalar text)).get? field = some (.scalar text) := by
    rw [FieldMap.get?_insert, if_pos rfl]
  have honly : ∀ other, (FieldMap.empty.insert field (FieldValue.scalar text)).contains other → other = field := by
    intro other hother
    simpa [eq_comm] using hother
  have hends : (∃ middle failures, checkConstraints limit ⟨field, untaint.applies field, input⟩
      (attached.listAt field) [] ⟨FieldMap.empty.insert field (.scalar text), classified, []⟩ =
        (middle, .ok failures)) ↔ _ :=
    checkConstraints_ok_iff hlocal hvalue
  obtain ⟨middle, failures, hc⟩ := hends.2 ⟨hlimit, by simpa [FieldValue.elements] using hdecided⟩
  obtain ⟨hleft, hfailures⟩ := checkConstraints_of_local hlocal hvalue hc
  obtain ⟨recent, hvisits, hnames, hrefusals⟩ := visits_of_checkConstraints_scalar hlocal hvalue hc
  -- none of these constraints writes, so no other field comes to stand
  have hmiddle : ∀ other, middle.working.contains other → other = field := by
    refine checkConstraints_preserves (I := fun q => ∀ other, q.working.contains other → other = field) ?_ hc honly
    intro c hmem index q element hq _ other hother
    have hwrites : q.writes ⟨field, untaint.applies field, input⟩ c element = [] := by
      unfold Progress.writes
      split
      · rfl
      · exact ((hlocal c hmem).invoke_eq _ rfl).2.1
    rw [Progress.contains_turn, hwrites] at hother
    exact hq other hother
  have hrun : checkAlone limit attached untaint classified input field text = _ :=
    checkAll_eq_of_only (FieldMap.contains_of_get? hvalue) honly hc hmiddle
  have hseen : middle.visits.reverse = recent := by
    simpa using hvisits
  have hafter : (if failures = [] then middle else middle.reject field).visits = middle.visits := by
    split <;> rfl
  refine ⟨_, _, hrun, ?_, ?_, ?_, fun hnone => ?_⟩
  · rw [hafter, hseen, hnames]
  · rw [Progress.rejections, hafter, hseen, hrefusals]
  · have hsame : failures = refusedNames (untaint.applies field) field (attached.listAt field) [text] := hfailures
    rw [← hsame, failedWith]
    split
    · rfl
    · rw [FieldMap.get?_insert, if_pos rfl]
  · have hnil : failures = [] := hfailures.trans hnone
    rw [if_pos hnil]
    exact hleft

/-- A list is checked element by element. Let the constraints of a field be patterns and plain functions whose
parameters are fixed texts or the field itself, and let no call for another field write the field. Then every element
can be checked alone, by one visit of each constraint in their order. The list fails by the names of the constraints
that reject some element with content when it is checked alone, in their order; and if there are none, the list that
stands in the end holds what is left of each element when it is checked alone. An empty element is left as it is, and so
is every element where the field is not untainted. -/
theorem checkAll_list_pointwise {start : Record} {after : Progress} {invalid : FieldMap (List String)}
    (hrun : checkAll limit attached untaint classified input start = (after, .ok invalid)) {texts : List String}
    (hvalue : start.get? field = some (.list texts)) (hlocal : ∀ c ∈ attached.listAt field, c.Local field)
    (hunwritten : ∀ v ∈ after.visits, ¬ v.Writes field) :
    (∀ text ∈ texts, ∃ alone found,
      checkAlone limit attached untaint classified input field text = (alone, .ok found) ∧
      alone.visits.reverse.map Visit.constraint = (attached.listAt field).map CompiledConstraint.name ∧
      found.get? field = failedWith (namesAt (attached.listAt field) fun k => alone.rejections.getD k false)) ∧
    invalid.get? field = failedWith (namesAt (attached.listAt field) fun k => texts.any fun text =>
      !text.isEmpty &&
        (checkAlone limit attached untaint classified input field text).1.rejections.getD k false) ∧
    (invalid.get? field = none → ∃ kept, after.working.get? field = some (.list kept) ∧
      List.Forall₂ (fun text left =>
        (checkAlone limit attached untaint classified input field text).1.working.get? field = some (.scalar left) ∧
        (text = "" → left = "") ∧ (untaint.applies field = false → left = text)) texts kept) := by
  obtain ⟨before, middle, failures, hbefore, hc, hfailed, hkept⟩ :=
    exists_ownTurn hrun hvalue fun v hv _ => hunwritten v hv
  obtain ⟨hlimit, hdecided⟩ := (checkConstraints_ok_iff hlocal hbefore).1 ⟨middle, failures, hc⟩
  obtain ⟨hleft, hfailures⟩ := checkConstraints_of_local hlocal hbefore hc
  have hfailures : failures = refusedNames (untaint.applies field) field (attached.listAt field) texts := hfailures
  -- the limit is beyond the list, so where there is an element it is beyond a scalar, too
  have halone := fun text (htext : text ∈ texts) => checkAlone_of_decided classified input
    hlocal (fun hne => Nat.lt_of_le_of_lt (List.length_pos_of_mem htext) (hlimit hne)) (hdecided text htext)
  refine ⟨fun text htext => ?_, ?_, fun hvalid => ?_⟩
  · obtain ⟨alone, found, hrun', hnames, hrejections, hfound, -⟩ := halone text htext
    refine ⟨alone, found, hrun', hnames, ?_⟩
    rw [hfound, hrejections]
    simp [refusedNames]
  · rw [hfailed, hfailures, refusedNames]
    congr 2
    funext k
    rw [Bool.eq_iff_iff, List.any_eq_true, List.any_eq_true]
    refine exists_congr fun text => and_congr_right fun htext => ?_
    obtain ⟨alone, found, hrun', -, hrejections, -⟩ := halone text htext
    rw [hrun', hrejections]
    by_cases hempty : text.isEmpty
    · rw [String.isEmpty_iff] at hempty
      subst hempty
      rw [refusals_empty]
      rfl
    · simp [hempty]
  · have hnone : failures = [] := by
      rw [hfailed, failedWith] at hvalid
      split at hvalid
      next hnil => exact hnil
      next => simp at hvalid
    refine ⟨texts.map (leftBy (untaint.applies field) field (attached.listAt field)), ?_, ?_⟩
    · rw [hkept hnone, hleft]
      rfl
    · rw [List.forall₂_map_right_iff, List.forall₂_same]
      intro text htext
      obtain ⟨alone, found, hrun', -, -, -, hstands⟩ := halone text htext
      have hpassed : refusedNames (untaint.applies field) field (attached.listAt field) [text] = [] := by
        rw [hfailures] at hnone
        refine namesAt_eq_nil_of_imp (fun k hk => ?_) hnone
        simp only [List.any_cons, List.any_nil, Bool.or_false] at hk
        exact List.any_eq_true.2 ⟨text, htext, hk⟩
      rw [hrun']
      refine ⟨hstands hpassed, ?_, ?_⟩
      · rintro rfl
        exact leftBy_empty _
      · intro huntaint
        rw [huntaint]
        exact leftBy_of_not_untaint _ text

/-- A pattern for numbers, and a function that accepts three characters at most. -/
def numberConstraints : List CompiledConstraint := [
  ⟨"number", .pattern ⟨"[0-9]+", .repeated true 1 none (.set (.ranges [(48, 57)]))⟩, none⟩,
  ⟨"short", .plain fun params =>
    { outcome := .ok (Verdict.check (((paramText params 0).getD "").length ≤ 3) ((paramText params 0).getD "")) },
    some [.field "codes"]⟩]

/-- Two fields for numbers, of which one takes short ones only. -/
def shortNumbers : FieldMap (List CompiledConstraint) :=
  FieldMap.ofList [("codes", numberConstraints), ("years", numberConstraints.take 1)]

/-- What the two fields hold at first. -/
def submittedNumbers : Record :=
  FieldMap.ofList [("codes", .list ["a12", "", "7b"]), ("years", .list ["1999", "", "x"])]

/-- A check of the two fields, both of which are untainted. -/
def shortNumbersRun : Progress × Except Fault (FieldMap (List String)) :=
  checkAll 4 shortNumbers ⟨true, FieldMap.empty, []⟩ FieldMap.empty (.record FieldMap.empty) submittedNumbers

/-- Of the codes the digits are kept, element by element, and the years are invalid under the name that refuses one of
them. -/
theorem checkAll_list_pointwise_shortNumbers :
    ∃ after invalid, shortNumbersRun = (after, .ok invalid) ∧
      after.working.get? "codes" = some (.list ["12", "", "7"]) ∧ invalid.get? "years" = some ["number"] := by
  have hends : shortNumbersRun.2.isOk = true := by decide +kernel
  have hcalls : (shortNumbersRun.1.visits.all fun v => v.answer.all fun answer => answer.writes.isEmpty) = true := by
    decide +kernel
  have hstart : submittedNumbers.get? "codes" = some (.list ["a12", "", "7b"]) ∧
      submittedNumbers.get? "years" = some (.list ["1999", "", "x"]) := ⟨rfl, rfl⟩
  have hnumber : ∀ field, numberConstraints[0].Local field := by
    intro field
    exact ⟨fun run => by simp [numberConstraints], fun listed hlisted => by simp [numberConstraints] at hlisted⟩
  have hshort : numberConstraints[1].Local "codes" := by
    refine ⟨fun run => by simp [numberConstraints], fun listed hlisted other hother => ?_⟩
    simp only [numberConstraints, List.getElem_cons_succ, List.getElem_cons_zero, Option.some.injEq] at hlisted
    simpa [← hlisted] using hother
  have hlocal : ∀ c ∈ shortNumbers.listAt "codes", c.Local "codes" := by
    have hlist : shortNumbers.listAt "codes" = [numberConstraints[0], numberConstraints[1]] := rfl
    rw [hlist]
    simpa using ⟨hnumber "codes", hshort⟩
  have hlocal' : ∀ c ∈ shortNumbers.listAt "years", c.Local "years" := by
    have hlist : shortNumbers.listAt "years" = [numberConstraints[0]] := rfl
    rw [hlist]
    simpa using hnumber "years"
  rcases hrun : shortNumbersRun with ⟨after, fault | invalid⟩
  · rw [hrun] at hends
    cases hends
  · have hunwritten : ∀ field, ∀ v ∈ after.visits, ¬ v.Writes field := by
      rintro field v hv ⟨answer, hanswer, write, hwrite, -⟩
      rw [hrun] at hcalls
      have hnone := List.all_eq_true.1 hcalls v hv
      simp only [hanswer, Option.all_some, List.isEmpty_iff] at hnone
      simp [hnone] at hwrite
    have hcodes := checkAll_list_pointwise hrun hstart.1 hlocal (hunwritten "codes")
    have hyears := checkAll_list_pointwise hrun hstart.2 hlocal' (hunwritten "years")
    have hvalid : invalid.get? "codes" = none := by
      rw [hcodes.2.1]
      decide +kernel
    refine ⟨after, invalid, rfl, ?_, ?_⟩
    · obtain ⟨kept, hkept, hall⟩ := hcodes.2.2 hvalid
      have halone : ∀ e ∈ [("a12", "12"), ("", ""), ("7b", "7")],
          (checkAlone 4 shortNumbers ⟨true, FieldMap.empty, []⟩ FieldMap.empty (.record FieldMap.empty) "codes"
            e.1).1.working.get? "codes" = some (.scalar e.2) := by
        decide +kernel
      rcases hall with _ | ⟨hfirst, _ | ⟨hsecond, _ | ⟨hthird, ⟨⟩⟩⟩⟩
      have h₁ := hfirst.1.symm.trans (halone ("a12", "12") (by simp))
      have h₂ := hsecond.1.symm.trans (halone ("", "") (by simp))
      have h₃ := hthird.1.symm.trans (halone ("7b", "7") (by simp))
      simp only [Option.some.injEq, FieldValue.scalar.injEq] at h₁ h₂ h₃
      rw [hkept, h₁, h₂, h₃]
    · rw [hyears.2.1]
      decide +kernel

end Whole

end FormValidation
