import FormValidation.Proofs.Classification.Classes
import FormValidation.Proofs.Message.Content

/-!
# Messages asked for again and again

The settings of a configuration are seen one by one, the text for each constraint name as one of them. A setting of two
configurations laid over one another is that of the later one, if it is made there (`MessageConfig.setting?_merge`), so
laying over is associative and the empty configuration changes nothing. Each call for messages lays its overrides over
those of the calls before it, whether messages could be made then or not. So the answer to a call is that to a single
call with all overrides so far (`ValidationResults.messagesFor_history`).
-/

set_option autoImplicit false

namespace FormValidation

open MessageFormat

/-! ## Settings one by one -/

/-- A setting of a message configuration. -/
inductive MessageSetting where
  | keyPrefix
  | missing
  | invalid
  | invalidSeparator
  | format
  | anyErrors
  | constraint (name : String)

namespace MessageConfig

/-- What is set, if anything. -/
def setting? (c : MessageConfig) : MessageSetting → Option String
  | .keyPrefix => c.keyPrefix
  | .missing => c.missing
  | .invalid => c.invalid
  | .invalidSeparator => c.invalidSeparator
  | .format => c.format
  | .anyErrors => c.anyErrors
  | .constraint name => c.constraints.get? name

/-- Configurations with the same settings are equal. -/
theorem ext_setting? {a b : MessageConfig} (h : ∀ s, a.setting? s = b.setting? s) : a = b := by
  have hconstraints : a.constraints = b.constraints := FieldMap.ext_get? fun name => h (.constraint name)
  have hprefix : a.keyPrefix = b.keyPrefix := h .keyPrefix
  have hmissing : a.missing = b.missing := h .missing
  have hinvalid : a.invalid = b.invalid := h .invalid
  have hseparator : a.invalidSeparator = b.invalidSeparator := h .invalidSeparator
  have hformat : a.format = b.format := h .format
  have hmark : a.anyErrors = b.anyErrors := h .anyErrors
  cases a
  cases b
  simp_all

/-- The later setting counts. -/
theorem setting?_merge (a b : MessageConfig) (s : MessageSetting) :
    (a.merge b).setting? s = (b.setting? s).or (a.setting? s) := by
  cases s with
  | constraint name => exact FieldMap.get?_overlay a.constraints b.constraints name
  | keyPrefix | missing | invalid | invalidSeparator | format | anyErrors => rfl

/-- The empty configuration sets nothing. -/
theorem setting?_empty (s : MessageSetting) : empty.setting? s = none := by
  cases s <;> rfl

/-- Laying configurations over each other is associative. -/
theorem merge_assoc (a b c : MessageConfig) : (a.merge b).merge c = a.merge (b.merge c) := by
  refine ext_setting? fun s => ?_
  simp only [setting?_merge, Option.or_assoc]

/-- The empty configuration laid over another one changes nothing. -/
theorem merge_empty (c : MessageConfig) : c.merge empty = c := by
  refine ext_setting? fun s => ?_
  rw [setting?_merge, setting?_empty, Option.none_or]

/-- What is laid over the empty configuration is all there is. -/
theorem empty_merge (c : MessageConfig) : empty.merge c = c := by
  refine ext_setting? fun s => ?_
  rw [setting?_merge, setting?_empty, Option.or_none]

/-- Overrides laid over one another in their order; a call without overrides adds nothing. -/
def combined (overrides : List (Option MessageConfig)) : MessageConfig :=
  overrides.foldl (fun c o => c.merge (o.getD empty)) empty

/-- Overrides that are laid over a configuration one by one may be combined first. -/
theorem foldl_merge (c : MessageConfig) (overrides : List (Option MessageConfig)) :
    overrides.foldl (fun c o => c.merge (o.getD empty)) c = c.merge (combined overrides) := by
  induction overrides generalizing c with
  | nil => exact (merge_empty c).symm
  | cons first rest ih =>
    have hfirst : combined (first :: rest) = (empty.merge (first.getD empty)).merge (combined rest) := ih _
    rw [List.foldl_cons, ih, hfirst, empty_merge, merge_assoc]

/-- Combined overrides are the first one with the combined others over it. -/
theorem combined_cons (first : Option MessageConfig) (rest : List (Option MessageConfig)) :
    combined (first :: rest) = (first.getD empty).merge (combined rest) := by
  rw [combined, List.foldl_cons, foldl_merge, empty_merge]

/-- One more override is laid over the combined ones. -/
theorem combined_append (overrides : List (Option MessageConfig)) (last : Option MessageConfig) :
    combined (overrides ++ [last]) = (combined overrides).merge (last.getD empty) := by
  rw [combined, List.foldl_append]
  rfl

/-- Where no call has overrides, the combined ones are empty. -/
theorem combined_of_forall_none {overrides : List (Option MessageConfig)} (h : ∀ o ∈ overrides, o = none) :
    combined overrides = empty := by
  induction overrides with
  | nil => rfl
  | cons first rest ih =>
    have hfirst : first = none := h first List.mem_cons_self
    have hrest : combined rest = empty := ih fun o ho => h o (List.mem_cons_of_mem _ ho)
    rw [combined_cons, hfirst, hrest, merge_empty, Option.getD_none]

end MessageConfig

/-! ## Call after call -/

namespace ValidationResults

open Messages MessageConfig

variable {r : ValidationResults}

/-- The results after calls for messages, each with its overrides or without. -/
def afterMessages (r : ValidationResults) (earlier : List (Option MessageConfig)) : ValidationResults :=
  earlier.foldl (fun r overrides => (r.messagesFor overrides).1) r

/-- To refine results changes their message configuration only. -/
theorem refine_eq (r : ValidationResults) (overrides : Option MessageConfig) :
    r.refine overrides = { r with messages := r.messages.merge (overrides.getD empty) } := by
  cases overrides with
  | none =>
    rw [Option.getD_none, merge_empty]
    rfl
  | some config => rfl

/-- Whether its messages could be made or not, a call leaves its overrides behind. -/
theorem afterMessages_eq (r : ValidationResults) (earlier : List (Option MessageConfig)) :
    r.afterMessages earlier = { r with messages := r.messages.merge (combined earlier) } := by
  induction earlier generalizing r with
  | nil => exact refine_eq r none
  | cons first rest ih =>
    have hstep : r.afterMessages (first :: rest) = (r.refine first).afterMessages rest := rfl
    rw [hstep, ih, refine_eq, combined_cons, merge_assoc]

/-- Messages after earlier calls are those of one call with all overrides combined. -/
theorem messagesFor_after (r : ValidationResults) (earlier : List (Option MessageConfig))
    (overrides : Option MessageConfig) :
    ((r.afterMessages earlier).messagesFor overrides).2 =
      (r.messagesFor (some (combined (earlier ++ [overrides])))).2 := by
  have hlater : (r.afterMessages earlier).refine overrides = r.refine (some (combined (earlier ++ [overrides]))) := by
    rw [refine_eq, afterMessages_eq, combined_append, merge_assoc]
    rfl
  rw [messagesFor, messagesFor, hlater]

/-- Messages cannot be made when a format is set that is not well formed, and only then. -/
theorem currentMessages_eq_error_iff (r : ValidationResults) (fault : Fault) :
    r.currentMessages = .error fault ↔
      ∃ format, r.messages.format = some format ∧ ¬ WellFormed format ∧ fault = .invalidMessageFormat format := by
  rw [← checkConfig_eq_error_iff]
  cases hcheck : checkConfig r.messages with
  | error other => simp [currentMessages_of_refused hcheck]
  | ok _ => simp [currentMessages_of_accepted hcheck]

/-- An evaluation with results has accepted the configuration that they carry. -/
theorem accepted_of_outcome {registry : Registry} {profile : Profile} {input : Source} {results : ValidationResults}
    (h : (evaluate registry profile input).outcome = .ok results) : checkConfig results.messages = .ok () := by
  obtain ⟨prep, after, hevaluated⟩ := evaluated_of_ok h
  have hmessages : results.messages = profile.messages := by
    unfold evaluate evaluateWithin at h
    split at h
    · cases h
    · split at h
      · cases h
      · unfold Preparation.run at h
        dsimp only at h
        split at h
        · cases h
        · cases h
          rfl
  rw [hmessages]
  exact hevaluated.resolved.messages

/-- Laying one configuration over another is associative, the empty one changes nothing, and each setting is the later
one that is made. Every call for messages answers as a single call does with all overrides so far, and fails exactly
when the format that is set then is not well formed. So the results of an evaluation have messages as long as there are
no overrides. -/
theorem messagesFor_history :
    ((∀ a b c : MessageConfig, (a.merge b).merge c = a.merge (b.merge c)) ∧
      (∀ c : MessageConfig, MessageConfig.empty.merge c = c ∧ c.merge MessageConfig.empty = c) ∧
      ∀ (a b : MessageConfig) s, (a.merge b).setting? s = (b.setting? s).or (a.setting? s)) ∧
    (∀ (r : ValidationResults) earlier overrides,
      let answer := ((r.afterMessages earlier).messagesFor overrides).2
      let settings := combined (earlier ++ [overrides])
      answer = (r.messagesFor (some settings)).2 ∧
      ∀ fault, answer = .error fault ↔ ∃ format, (r.messages.merge settings).format = some format ∧
        ¬ WellFormed format ∧ fault = .invalidMessageFormat format) ∧
    ∀ registry profile input results earlier, (evaluate registry profile input).outcome = .ok results →
      (∀ overrides ∈ earlier, overrides = none) →
        ∃ out, ((results.afterMessages earlier).messagesFor none).2 = .ok out := by
  refine ⟨⟨merge_assoc, fun c => ⟨empty_merge c, merge_empty c⟩, setting?_merge⟩, ?_, ?_⟩
  · intro r earlier overrides answer settings
    have hanswer : answer = (r.messagesFor (some settings)).2 := messagesFor_after r earlier overrides
    refine ⟨hanswer, fun fault => ?_⟩
    rw [hanswer]
    exact currentMessages_eq_error_iff (r.refine (some settings)) fault
  · intro registry profile input results earlier houtcome hnone
    have hsame : (results.afterMessages earlier).refine none = results := by
      rw [afterMessages_eq, combined_of_forall_none hnone, merge_empty]
      rfl
    rw [messagesFor, hsame]
    exact ⟨_, currentMessages_of_accepted (accepted_of_outcome houtcome)⟩

end ValidationResults

/-- A profile with a format for its messages. -/
def newsletter : Profile where
  required := ["email"]
  messages := { format := some "[%s]" }

/-- The messages of a newsletter can be asked for again, until a format without a placeholder is laid over them. -/
theorem messagesFor_history_newsletter :
    ∃ results out,
      (evaluate (Registry.builtins ⟨2026, 1, 1⟩) newsletter (.record FieldMap.empty)).outcome = .ok results ∧
      ((results.afterMessages [none]).messagesFor none).2 = .ok out ∧
      ((results.afterMessages [some { format := some "no place" }]).messagesFor (some { missing := some "?" })).2 =
        .error (.invalidMessageFormat "no place") := by
  have houtcome : (evaluate (Registry.builtins ⟨2026, 1, 1⟩) newsletter (.record FieldMap.empty)).outcome =
      .ok { missing := NameSet.ofList ["email"], messages := newsletter.messages } := rfl
  obtain ⟨-, hcalls, hresults⟩ := ValidationResults.messagesFor_history
  obtain ⟨out, hout⟩ := hresults _ newsletter _ _ [none] houtcome (by simp)
  refine ⟨_, out, houtcome, hout, ?_⟩
  rw [(hcalls _ _ _).2]
  exact ⟨"no place", rfl, by decide, rfl⟩

end FormValidation
