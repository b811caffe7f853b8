import FormValidation.Proofs.Checking.Confinement
import FormValidation.Proofs.Checking.Turn

/-!
# Untainting leaves no field empty

The text that a constraint matched takes the place of the element in an untainted field. A function may match any text:
one that it computed, one of a parameter, or that of another field. Where every text that is matched has content
(`ConstraintFunction.KeepsContent`) and nothing is written, a record in which no field holds the empty scalar is left so
by every turn, and hence by the whole check (`checkAll_holdsContent`). No pattern and no built-in function matches the
empty text, whatever it is called with.
-/

set_option autoImplicit false

namespace FormValidation

/-! ## Verdicts and functions -/

/-- The text to keep is not empty. -/
def Verdict.HasContent : Verdict → Prop
  | matched text => text ≠ ""
  | rejected => True

/-- A verdict about a text that has content where it is accepted keeps content. -/
theorem Verdict.hasContent_check {ok : Bool} {text : String} (h : ok = true → text ≠ "") :
    (check ok text).HasContent := by
  unfold check
  split
  next hok => exact h hok
  next => trivial

/-- The same of a verdict that keeps the text of a list of characters. -/
theorem Verdict.hasContent_check_ofList {ok : Bool} {kept : List Char} (h : ok = true → kept ≠ []) :
    (check ok (String.ofList kept)).HasContent :=
  hasContent_check fun hok hempty => h hok (String.ofList_eq_empty_iff.1 hempty)

/-- Of two verdicts that keep content the first that accepts keeps content. -/
theorem Verdict.hasContent_orElse {first second : Verdict} (hfirst : first.HasContent) (hsecond : second.HasContent) :
    (first.orElse second).HasContent := by
  cases first with
  | matched text => exact hfirst
  | rejected => exact hsecond

namespace ConstraintFunction

/-- The function never keeps an empty text; a method that looks at its element may rely on it that the element has
content. -/
def KeepsContent : ConstraintFunction → Prop
  | plain run => ∀ params verdict, (run params).outcome = .ok verdict → verdict.HasContent
  | method run => ∀ context params verdict, context.value ≠ "" → (run context params).outcome = .ok verdict →
    verdict.HasContent

/-- A function keeps content when its verdicts do. -/
theorem keepsContent_ofVerdict {decide : String → Verdict} (h : ∀ text, (decide text).HasContent) :
    (ofVerdict decide).KeepsContent := by
  intro params verdict houtcome
  cases houtcome
  exact h _

/-- A condition that the empty text does not satisfy. -/
theorem keepsContent_predicate {holds : String → Bool} (h : holds "" = false) : (predicate holds).KeepsContent := by
  refine keepsContent_ofVerdict fun text => Verdict.hasContent_check ?_
  rintro hholds rfl
  rw [h] at hholds
  cases hholds

/-- A method that keeps the element it was called for. -/
theorem keepsContent_ofContext {decide : Context → List ParamValue → Except Fault Verdict}
    (h : ∀ context params verdict, decide context params = .ok verdict →
      ∃ ok, verdict = Verdict.check ok context.value) : (ofContext decide).KeepsContent := by
  intro context params verdict hvalue houtcome
  obtain ⟨ok, rfl⟩ := h context params verdict houtcome
  exact Verdict.hasContent_check fun _ => hvalue

end ConstraintFunction

/-- A pattern that finds the empty text rejects. -/
theorem Regex.hasContent_verdict (regex : Regex) (text : String) : (regex.verdict text).HasContent := by
  unfold Regex.verdict
  cases regex.firstMatch text with
  | none => trivial
  | some found =>
    refine Verdict.hasContent_check ?_
    rintro hfound rfl
    cases hfound

/-! ## Built-in functions -/

namespace Region

/-- Only an empty code or name is named by an empty text. -/
theorem names_nil_iff (region : String × String) : names [] region = true ↔ region.1 = "" ∨ region.2 = "" := by
  simp [names, Text.equalIgnoringAsciiCase, Text.asciiLower]

/-- To find a text in a table whose entries have content gives a verdict that keeps content. -/
theorem hasContent_find {table : List (String × String)} (h : (table.all fun r => r.1 != "" && r.2 != "") = true)
    (text : String) : (find table text).HasContent := by
  refine Verdict.hasContent_check_ofList fun hnamed hempty => ?_
  rw [hempty] at hnamed
  obtain ⟨region, hregion, hnil⟩ := List.any_eq_true.1 hnamed
  have hboth := List.all_eq_true.1 h region hregion
  rw [Bool.and_eq_true, bne_iff_ne, bne_iff_ne] at hboth
  exact ((names_nil_iff region).1 hnil).elim hboth.1 hboth.2

/-- The verdict about a state keeps content. -/
theorem hasContent_state (text : String) : (state text).HasContent := hasContent_find (by decide) text

/-- The verdict about a province keeps content. -/
theorem hasContent_province (text : String) : (province text).HasContent := hasContent_find (by decide) text

end Region

/-- The verdict about a zip code keeps content. -/
theorem Address.hasContent_zip (text : String) : (zip text).HasContent := by
  have hnone : isZip [] = false := by decide
  refine Verdict.hasContent_check_ofList fun hcode hempty => ?_
  rw [hempty, hnone] at hcode
  cases hcode

/-- The verdict about a postal code keeps content. -/
theorem Address.hasContent_postcode (text : String) : (postcode text).HasContent := by
  unfold postcode
  split
  · show String.ofList _ ≠ ""
    simp
  · trivial

/-- The verdict about a card number keeps content. -/
theorem Card.hasContent_number (text : String) (cardType : Option String) : (number text cardType).HasContent := by
  unfold number
  dsimp only
  split
  · trivial
  next hlength =>
    -- too few digits were rejected before
    refine Verdict.hasContent_check_ofList fun _ hempty => ?_
    rw [hempty] at hlength
    exact hlength rfl

/-- The verdict about the type of a card keeps content. -/
theorem Card.hasContent_type (text : String) : (type text).HasContent := by
  unfold type
  split
  · exact Verdict.hasContent_check_ofList fun _ => List.cons_ne_nil _ _
  · trivial

/-- No built-in constraint function keeps an empty text. -/
theorem Registry.keepsContent_of_mem_builtinConstraints {today : Date} {e : String × ConstraintFunction}
    (h : e ∈ builtinConstraints today) : e.2.KeepsContent := by
  -- after its bounds have been read, a method only accepts or rejects its element
  have hbounded : ∀ {α : Type} {step : Except Fault α} {ok : α → Bool} {context : Context} {verdict : Verdict},
      (do return Method.accept context (ok (← step))) = .ok verdict →
        ∃ accepted, verdict = Verdict.check accepted context.value := by
    intro α step ok context verdict hverdict
    obtain ⟨a, -, rfl⟩ := Outcome.map_eq_ok_iff.1 hverdict
    exact ⟨ok a, rfl⟩
  unfold builtinConstraints at h
  simp only [List.mem_cons, List.not_mem_nil, or_false] at h
  rcases h with rfl | rfl | rfl | rfl | rfl | rfl | rfl | rfl | rfl | rfl | rfl | rfl | rfl | rfl | rfl | rfl | rfl |
    rfl | rfl
  all_goals dsimp only
  · exact ConstraintFunction.keepsContent_predicate rfl
  · exact ConstraintFunction.keepsContent_ofVerdict Region.hasContent_state
  · exact ConstraintFunction.keepsContent_ofVerdict Region.hasContent_province
  · exact ConstraintFunction.keepsContent_ofVerdict fun text =>
      Verdict.hasContent_orElse (Region.hasContent_state text) (Region.hasContent_province text)
  · exact ConstraintFunction.keepsContent_ofVerdict Address.hasContent_zip
  · exact ConstraintFunction.keepsContent_ofVerdict Address.hasContent_postcode
  · exact ConstraintFunction.keepsContent_ofVerdict fun text =>
      Verdict.hasContent_orElse (Address.hasContent_zip text) (Address.hasContent_postcode text)
  · exact ConstraintFunction.keepsContent_predicate rfl
  · exact ConstraintFunction.keepsContent_predicate rfl
  · intro params verdict houtcome
    cases houtcome
    exact Card.hasContent_number _ _
  · exact ConstraintFunction.keepsContent_predicate rfl
  · exact ConstraintFunction.keepsContent_ofVerdict Card.hasContent_type
  · exact ConstraintFunction.keepsContent_predicate rfl
  · exact ConstraintFunction.keepsContent_ofContext fun _ _ _ => hbounded
  · exact ConstraintFunction.keepsContent_ofContext fun _ _ _ => hbounded
  · exact ConstraintFunction.keepsContent_ofContext fun _ _ _ => hbounded
  · refine ConstraintFunction.keepsContent_ofContext fun context params verdict hverdict => ?_
    unfold Method.eqWith at hverdict
    split at hverdict
    · cases hverdict
    · cases hverdict
      exact ⟨_, rfl⟩
  · exact ConstraintFunction.keepsContent_ofContext fun _ _ _ => hbounded
  · exact ConstraintFunction.keepsContent_ofContext fun _ _ _ => hbounded

/-- The built-in functions keep content. -/
theorem Registry.keepsContent_of_builtins {today : Date} {name : String} {function : ConstraintFunction}
    (h : (builtins today).constraint name = .ok function) : function.KeepsContent :=
  keepsContent_of_mem_builtinConstraints (mem_builtinConstraints h)

/-! ## Compiled constraints -/

/-- For an element with content, the constraint keeps no empty text and writes nothing. -/
def CompiledConstraint.KeepsContent (c : CompiledConstraint) : Prop :=
  ∀ context, context.value ≠ "" → (c.invoke context).writes = [] ∧
    ∀ verdict, (c.invoke context).outcome = .ok verdict → verdict.HasContent

/-- A pattern, or a function that keeps content and writes nothing, makes a constraint that does. -/
theorem CompiledConstraint.keepsContent_of_compile {registry : Registry} {spec : ConstraintSpec}
    {c : CompiledConstraint} (h : spec.compile registry = .ok c)
    (hcalls : spec.CallsOnly registry fun function => function.WritesNothing ∧ function.KeepsContent) :
    c.KeepsContent := by
  intro context hvalue
  refine ⟨writes_eq_nil h (hcalls.imp fun _ hboth => hboth.1) context, fun verdict houtcome => ?_⟩
  unfold invoke at houtcome
  rcases ConstraintSpec.callable_of_compile h hcalls with ⟨regex, hcallable⟩ | ⟨function, hfunction, hcallable⟩
  · rw [hcallable] at houtcome
    cases houtcome
    exact Regex.hasContent_verdict _ _
  · rw [hcallable] at houtcome
    cases function with
    | plain run => exact hfunction.2 _ verdict houtcome
    | method run => exact hfunction.2 context _ verdict hvalue houtcome

/-! ## Records -/

/-- No field holds the empty scalar. -/
def Record.HoldsContent (fields : Record) : Prop := ∀ field, fields.get? field ≠ some (.scalar "")

/-- A record that holds content still does when an element is set to a text that is not empty. -/
theorem Record.HoldsContent.setElement {fields : Record} (h : fields.HoldsContent) (field : String) (index : Nat)
    {text : String} (htext : text ≠ "") :
    Record.HoldsContent (fields.modify field fun value => value.setElement index text) := by
  intro other hother
  rw [FieldMap.get?_modify] at hother
  split at hother
  · obtain ⟨value, hvalue, hset⟩ := Option.map_eq_some_iff.1 hother
    cases value with
    | list texts => cases hset
    | scalar old =>
      rw [FieldValue.setElement] at hset
      split at hset
      · exact htext (FieldValue.scalar.inj hset)
      · exact h other (hset ▸ hvalue)
  · exact h other hother

/-- A record that holds content still does when a field is erased. -/
theorem Record.HoldsContent.erase {fields : Record} (h : fields.HoldsContent) (field : String) :
    Record.HoldsContent (fields.erase field) := by
  intro other hother
  rw [FieldMap.get?_erase] at hother
  split at hother
  · cases hother
  · exact h other hother

/-! ## The check -/

/-- A turn with a constraint that keeps content leaves a record that holds content. -/
theorem Progress.holdsContent_turn {p : Progress} (h : p.working.HoldsContent) {c : CompiledConstraint}
    (hc : c.KeepsContent) (site : CheckSite) (index : Nat) (element : String) :
    (p.turn site c index element).working.HoldsContent := by
  unfold turn
  by_cases hempty : element.isEmpty = true
  · rw [if_pos hempty]
    exact h
  · rw [if_neg hempty]
    have hvalue : (p.context site element).value ≠ "" := fun heq => hempty (String.isEmpty_iff.2 heq)
    obtain ⟨hwrites, hverdict⟩ := hc _ hvalue
    have hafter : (p.afterCall site c index element (c.invoke (p.context site element))).working = p.working := by
      rw [afterCall, hwrites, applyWrites_nil]
    dsimp only
    split
    next text houtcome =>
      have htext : text ≠ "" := hverdict _ houtcome
      unfold keep
      split
      · rw [hafter]
        exact h.setElement site.field index htext
      · rw [hafter]
        exact h
    next =>
      rw [hafter]
      exact h

/-- Checking constraints that keep content leaves no field with the empty scalar. -/
theorem checkAll_holdsContent {limit : Nat} {attached : FieldMap (List CompiledConstraint)} {untaint : UntaintPolicy}
    {classified : NameSet} {input : Source} {working : Record} {after : Progress} {invalid : FieldMap (List String)}
    (hrun : checkAll limit attached untaint classified input working = (after, .ok invalid))
    (hattached : ∀ field, ∀ c ∈ attached.listAt field, c.KeepsContent) (h : working.HoldsContent) :
    after.working.HoldsContent := by
  have hconstraints : ∀ {site : CheckSite} {constraints : List CompiledConstraint} {failures result : List String}
      {p q : Progress}, (∀ c ∈ constraints, c.KeepsContent) →
      checkConstraints limit site constraints failures p = (q, .ok result) → p.working.HoldsContent →
        q.working.HoldsContent := by
    intro site constraints failures result p q hkeeps hchecked hp
    refine checkConstraints_preserves (I := fun p => p.working.HoldsContent) ?_ hchecked hp
    exact fun c hc index p element hnow _ => Progress.holdsContent_turn hnow (hkeeps c hc) site index element
  have hend := checkFields_induction
    (J := fun rest _ p => (∀ e ∈ rest, ∀ c ∈ e.2, c.KeepsContent) ∧ p.working.HoldsContent) ?_ ?_ ?_ hrun ?_
  · exact hend.2
  · rintro field constraints rest _ p ⟨hkeeps, hp⟩ -
    exact ⟨fun e he => hkeeps e (List.mem_cons_of_mem _ he), hp⟩
  · rintro field constraints rest _ p after ⟨hkeeps, hp⟩ - hchecked
    have hnow := hconstraints (hkeeps _ List.mem_cons_self) hchecked hp
    exact ⟨fun e he => hkeeps e (List.mem_cons_of_mem _ he), hnow⟩
  · rintro field constraints rest _ p after failures ⟨hkeeps, hp⟩ - - hchecked
    have hnow := hconstraints (hkeeps _ List.mem_cons_self) hchecked hp
    exact ⟨fun e he => hkeeps e (List.mem_cons_of_mem _ he), hnow.erase field⟩
  · refine ⟨fun e he c hc => hattached e.1 c ?_, h⟩
    rw [FieldMap.listAt_of_mem he]
    exact hc

end FormValidation
