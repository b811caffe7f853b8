import FormValidation.Evaluation.Evaluate
import FormValidation.Proofs.FieldMap
import FormValidation.Proofs.Message.Format
import FormValidation.Registry.Builtins

/-!
# What messages hold

Messages are put into one map: those for missing fields, then those for invalid fields, each under the prefix and the
name of its field, and last a mark under a key of its own, when anything was put in. Names with the same prefix are
different keys where they are different names, so only two things can take the place of a message: that for the same
name as an invalid field takes the place of that for a missing one, and the mark that of any, when its key is the field's
(`messagesFor_takenKeys`). All other messages are there (`ValidationResults.messagesFor_content`).
-/

set_option autoImplicit false

namespace FormValidation

open MessageFormat

namespace Messages

/-- What is said about a failure, in the format of the configuration. -/
def text (c : MessageConfig) (failure : FieldFailure) : String := fill (c.format.getD defaultFormat) (body c failure)

/-- Different names have different keys. -/
theorem key_inj {c : MessageConfig} {field other : String} : key c field = key c other ↔ field = other := by
  constructor
  · intro h
    have hlist := congrArg String.toList h
    rw [key, key, String.toList_append, String.toList_append] at hlist
    exact String.toList_injective (List.append_cancel_left hlist)
  · exact congrArg (key c)

/-- Texts are kept that were not met before, each at its first place. -/
theorem newTexts_eq (met texts : List String) :
    newTexts met texts = (texts.filter fun text => !met.contains text).eraseDups := by
  induction texts generalizing met with
  | nil => rfl
  | cons text rest ih =>
    unfold newTexts
    rw [List.filter_cons]
    cases hmet : met.contains text with
    | true =>
      rw [Bool.not_true, if_pos rfl, if_neg Bool.false_ne_true]
      exact ih met
    | false =>
      rw [Bool.not_false, if_neg Bool.false_ne_true, if_pos rfl, ih, List.eraseDups_cons, List.filter_filter]
      congr 2
      refine List.filter_congr fun other _ => ?_
      rw [List.contains_cons, Bool.not_or]

/-- Where no text was met before, each text is kept at its first place. -/
theorem newTexts_nil (texts : List String) : newTexts [] texts = texts.eraseDups := by
  rw [newTexts_eq]
  simp

end Messages

namespace ValidationResults

open Messages

variable {r : ValidationResults}

/-! ## The messages of an accepted configuration -/

/-- Where every failure is given a text, the texts are put into the map one after the other. -/
theorem formatFailures_eq {f : Formatter} (said : FieldFailure → String)
    (h : ∀ field failure, f.format field failure = .ok (said failure)) (out : FieldMap String)
    (listed : List (String × FieldFailure)) :
    formatFailures f out listed =
      .ok ((listed.map fun e => (f.key e.1, said e.2)).foldl (fun acc e => acc.insert e.1 e.2) out) := by
  induction listed generalizing out with
  | nil => rfl
  | cons e rest ih =>
    rw [formatFailures, h, List.map_cons, List.foldl_cons]
    exact ih _

/-- The messages for the fields to report, by their keys. -/
def reported (r : ValidationResults) : FieldMap String :=
  FieldMap.ofList (r.failures.map fun e => (key r.messages e.1, text r.messages e.2))

/-- The messages with the mark that there are any. -/
def content (r : ValidationResults) : FieldMap String :=
  match r.messages.anyErrors with
  | none => r.reported
  | some mark => if r.reported.isEmpty then r.reported else r.reported.insert mark "1"

/-- An accepted configuration gives the messages. -/
theorem currentMessages_of_accepted (h : checkConfig r.messages = .ok ()) : r.currentMessages = .ok r.content := by
  have hreported : formatFailures
      { format := fun _ failure => wrap r.messages (body r.messages failure), key := key r.messages,
        anyErrorsKey := r.messages.anyErrors } FieldMap.empty r.failures = .ok r.reported :=
    formatFailures_eq (text r.messages) (fun _ failure => wrap_of_accepted h _) _ _
  unfold currentMessages Formatter.ofConfig messagesWith
  rw [h]
  dsimp only
  rw [hreported]
  unfold content
  cases r.messages.anyErrors <;> rfl

/-- A refused configuration gives its fault. -/
theorem currentMessages_of_refused {fault : Fault} (h : checkConfig r.messages = .error fault) :
    r.currentMessages = .error fault := by
  unfold currentMessages Formatter.ofConfig
  rw [h]

/-! ## What is reported -/

/-- The missing names are reported as missing. -/
theorem missing_mem_failures_iff (r : ValidationResults) (field : String) :
    (field, .missing) ∈ r.failures ↔ r.missing.contains field = true := by
  rw [← FieldMap.mem_keys_iff]
  simp [failures]

/-- The invalid fields are reported with their names. -/
theorem invalid_mem_failures_iff (r : ValidationResults) (field : String) (names : List String) :
    (field, .invalid names) ∈ r.failures ↔ r.invalid.get? field = some names := by
  rw [← FieldMap.mem_entries_iff]
  simp [failures]

/-- A name is reported when it is missing or invalid. -/
theorem exists_mem_failures_iff (r : ValidationResults) (field : String) :
    (∃ failure, (field, failure) ∈ r.failures) ↔ r.missing.contains field = true ∨ r.invalid.contains field = true := by
  rw [← missing_mem_failures_iff, FieldMap.contains_iff]
  constructor
  · rintro ⟨failure, hmem⟩
    cases failure with
    | missing => exact Or.inl hmem
    | invalid names => exact Or.inr ⟨names, (invalid_mem_failures_iff r field names).1 hmem⟩
  · rintro (hmem | ⟨names, hnames⟩)
    · exact ⟨.missing, hmem⟩
    · exact ⟨.invalid names, (invalid_mem_failures_iff r field names).2 hnames⟩

/-- An evaluation is a success when nothing is missing or invalid. -/
theorem success_iff (r : ValidationResults) :
    r.success = true ↔ ∀ field, ¬ (r.missing.contains field = true ∨ r.invalid.contains field = true) := by
  rw [success, Bool.and_eq_true, FieldMap.isEmpty_iff, FieldMap.isEmpty_iff]
  simp only [not_or, forall_and]

/-- There are messages under the keys of missing and invalid names, and under no others. -/
theorem contains_reported_iff (r : ValidationResults) (name : String) :
    r.reported.contains name = true ↔ ∃ field,
      (r.missing.contains field = true ∨ r.invalid.contains field = true) ∧ name = key r.messages field := by
  rw [reported, FieldMap.contains_ofList, decide_eq_true_iff]
  simp only [← exists_mem_failures_iff]
  constructor
  · intro hmem
    obtain ⟨e, he, rfl⟩ := List.mem_map.1 hmem
    obtain ⟨⟨field, failure⟩, hfailure, rfl⟩ := List.mem_map.1 he
    exact ⟨field, ⟨failure, hfailure⟩, rfl⟩
  · rintro ⟨field, ⟨failure, hfailure⟩, rfl⟩
    exact List.mem_map.2 ⟨_, List.mem_map_of_mem hfailure, rfl⟩

/-- Nothing is reported exactly when the evaluation is a success. -/
theorem isEmpty_reported_iff (r : ValidationResults) : r.reported.isEmpty = true ↔ r.success = true := by
  rw [FieldMap.isEmpty_iff, success_iff]
  constructor
  · intro hempty field hfield
    exact hempty (key r.messages field) ((contains_reported_iff r _).2 ⟨field, hfield, rfl⟩)
  · intro hnone name hname
    obtain ⟨field, hfield, -⟩ := (contains_reported_iff r name).1 hname
    exact hnone field hfield

/-- Of a list of failures, one that alone is listed for its field has its message. -/
theorem get?_ofList_of_listed {c : MessageConfig} {listed : List (String × FieldFailure)} {field : String}
    {failure : FieldFailure} (hmem : (field, failure) ∈ listed)
    (honly : ∀ other, (field, other) ∈ listed → other = failure) :
    (FieldMap.ofList (listed.map fun e => (key c e.1, text c e.2))).get? (key c field) = some (text c failure) := by
  have hcontains : (FieldMap.ofList (listed.map fun e => (key c e.1, text c e.2))).contains (key c field) = true := by
    rw [FieldMap.contains_ofList, decide_eq_true_iff]
    exact List.mem_map.2 ⟨_, List.mem_map_of_mem hmem, rfl⟩
  obtain ⟨said, hsaid⟩ := FieldMap.contains_iff.1 hcontains
  obtain ⟨⟨field', failure'⟩, hmem', heq⟩ := List.mem_map.1 (FieldMap.mem_of_get?_ofList hsaid)
  obtain ⟨hkey, rfl⟩ := Prod.mk.inj heq
  obtain rfl := key_inj.1 hkey
  rw [hsaid, honly failure' hmem']

/-- A missing field that is not invalid as well has the message for missing fields. -/
theorem get?_reported_of_missing {field : String} (hmissing : r.missing.contains field = true)
    (hvalid : ¬ r.invalid.contains field = true) :
    r.reported.get? (key r.messages field) = some (text r.messages .missing) := by
  refine get?_ofList_of_listed ((missing_mem_failures_iff r field).2 hmissing) fun other hother => ?_
  cases other with
  | missing => rfl
  | invalid names =>
    have hnames := (invalid_mem_failures_iff r field names).1 hother
    exact absurd (FieldMap.contains_of_get? hnames) hvalid

/-- An invalid field has the message for its names, whether it is missing as well or not. -/
theorem get?_reported_of_invalid {field : String} {names : List String} (hnames : r.invalid.get? field = some names) :
    r.reported.get? (key r.messages field) = some (text r.messages (.invalid names)) := by
  have hlisted : (field, FieldFailure.invalid names) ∈ r.invalid.entries.map fun e => (e.1, .invalid e.2) :=
    List.mem_map.2 ⟨(field, names), (FieldMap.mem_entries_iff r.invalid field names).2 hnames, rfl⟩
  -- the messages for invalid fields are put in behind those for missing ones
  rw [reported, failures, List.map_append, FieldMap.get?_ofList_append,
    get?_ofList_of_listed hlisted fun other hother => ?_, Option.some_or]
  obtain ⟨⟨field', names'⟩, hmem, heq⟩ := List.mem_map.1 hother
  obtain ⟨rfl, rfl⟩ := Prod.mk.inj heq
  have hnames' := (FieldMap.mem_entries_iff r.invalid field' names').1 hmem
  rw [hnames, Option.some.injEq] at hnames'
  rw [hnames']

/-- Under the key of the mark there is the mark, when anything is reported, and otherwise what is reported. -/
theorem get?_content (r : ValidationResults) (name : String) :
    r.content.get? name =
      if r.messages.anyErrors = some name ∧ ¬ r.success = true then some "1" else r.reported.get? name := by
  have hempty := isEmpty_reported_iff r
  unfold content
  cases hmark : r.messages.anyErrors with
  | none => simp
  | some mark =>
    dsimp only
    by_cases hsuccess : r.success = true
    · rw [if_pos (hempty.2 hsuccess), if_neg fun h => h.2 hsuccess]
    · rw [if_neg fun h => hsuccess (hempty.1 h), FieldMap.get?_insert]
      simp [hsuccess]

/-- What is reported under a key other than that of the mark is kept. -/
theorem get?_content_of_ne {name : String} (hmark : r.messages.anyErrors ≠ some name) :
    r.content.get? name = r.reported.get? name := by
  rw [get?_content, if_neg fun h => hmark h.1]

/-- There are messages under the key of the mark, when anything is reported, and under the keys of what is reported. -/
theorem contains_content_iff (r : ValidationResults) (name : String) :
    r.content.contains name = true ↔
      (r.messages.anyErrors = some name ∧ ¬ r.success = true) ∨ r.reported.contains name = true := by
  rw [FieldMap.contains, get?_content]
  split
  next hmark => simp [hmark]
  next hmark => rw [or_iff_right hmark, FieldMap.contains]

/-- There are messages exactly when something is missing or invalid. -/
theorem isEmpty_content_iff (r : ValidationResults) : r.content.isEmpty = true ↔ r.success = true := by
  rw [FieldMap.isEmpty_iff]
  simp only [contains_content_iff]
  constructor
  · intro hempty
    rw [← isEmpty_reported_iff, FieldMap.isEmpty_iff]
    exact fun name hname => hempty name (Or.inr hname)
  · rintro hsuccess name (hmark | hname)
    · exact hmark.2 hsuccess
    · exact FieldMap.isEmpty_iff.1 ((isEmpty_reported_iff r).2 hsuccess) name hname

/-- For a configuration that is accepted there are messages. They hold what is said about every invalid field, and about
every missing one that is not invalid as well, unless the mark has the same key; the mark, when anything is missing or
invalid; and nothing else. -/
theorem messagesFor_content (r : ValidationResults) (overrides : Option MessageConfig)
    (haccepted : checkConfig (r.refine overrides).messages = .ok ()) :
    let c := (r.refine overrides).messages
    ∃ out, (r.messagesFor overrides).2 = .ok out ∧
      (∀ field, r.missing.contains field = true → ¬ r.invalid.contains field = true →
        c.anyErrors ≠ some (key c field) →
          out.get? (key c field) = some (fill (c.format.getD defaultFormat) (c.missing.getD defaultMissing))) ∧
      (∀ field names, r.invalid.get? field = some names → c.anyErrors ≠ some (key c field) →
          out.get? (key c field) = some (fill (c.format.getD defaultFormat)
            ((c.invalidSeparator.getD defaultSeparator).intercalate (names.map (failureText c)).eraseDups))) ∧
      (∀ mark, c.anyErrors = some mark → ¬ r.success = true → out.get? mark = some "1") ∧
      (∀ name, out.contains name = true ↔ (c.anyErrors = some name ∧ ¬ r.success = true) ∨
        ∃ field, (r.missing.contains field = true ∨ r.invalid.contains field = true) ∧ name = key c field) ∧
      (out.isEmpty = true ↔ r.success = true) := by
  intro c
  have hmissing : (r.refine overrides).missing = r.missing := by cases overrides <;> rfl
  have hinvalid : (r.refine overrides).invalid = r.invalid := by cases overrides <;> rfl
  have hsuccess : (r.refine overrides).success = r.success := by rw [success, success, hmissing, hinvalid]
  refine ⟨(r.refine overrides).content, currentMessages_of_accepted haccepted, ?_⟩
  rw [← hmissing, ← hinvalid, ← hsuccess]
  refine ⟨fun field hmissing hvalid hmark => ?_, fun field names hnames hmark => ?_, fun mark hmark hfails => ?_,
    fun name => ?_, isEmpty_content_iff _⟩
  · rw [get?_content_of_ne hmark]
    exact get?_reported_of_missing hmissing hvalid
  · rw [get?_content_of_ne hmark, ← newTexts_nil]
    exact get?_reported_of_invalid hnames
  · rw [get?_content, if_pos ⟨hmark, hfails⟩]
  · rw [contains_content_iff, contains_reported_iff]

/-- Results with a missing field, and with an invalid one whose name is that of a missing group as well. -/
def unfinishedOrder : ValidationResults where
  missing := NameSet.ofList ["email", "zip"]
  invalid := FieldMap.ofList [("zip", ["zip", "max_length", "state"])]
  messages := { format := some "* %s", constraints := FieldMap.ofList [("max_length", "Too long")] }

/-- The messages for these results under a prefix and with a mark. -/
theorem messagesFor_content_unfinishedOrder :
    ∃ out,
      (unfinishedOrder.messagesFor (some { keyPrefix := some "err_", anyErrors := some "some_errors" })).2 = .ok out ∧
      out.get? "err_email" = some "* Missing" ∧ out.get? "err_zip" = some "* Invalid Too long" ∧
      out.get? "some_errors" = some "1" ∧ ¬ out.isEmpty = true := by
  have haccepted : checkConfig (unfinishedOrder.refine
      (some { keyPrefix := some "err_", anyErrors := some "some_errors" })).messages = .ok () := rfl
  obtain ⟨out, hout, hmissing, hinvalid, hmark, -, hempty⟩ := messagesFor_content unfinishedOrder _ haccepted
  refine ⟨out, hout, hmissing "email" (by decide) (by decide) (by decide), ?_, ?_, ?_⟩
  · exact hinvalid "zip" ["zip", "max_length", "state"] (by decide) (by decide)
  · exact hmark "some_errors" (by decide) (by decide)
  · rw [hempty]
    decide

end ValidationResults

/-- A profile whose mark has the key of the message for the field that it requires. -/
def markedEmail : Profile where
  required := ["email"]
  messages := { format := some "%s", anyErrors := some "email" }

/-- A profile with a group that has the name of a field. -/
def namesakeContact : Profile where
  optional := ["contact"]
  requireSome := FieldMap.ofList [("contact", ⟨2, ["email", "phone"]⟩)]
  constraints := FieldMap.ofList [("contact", [.named "zip"])]
  messages := { format := some "%s" }

/-- The mark takes the place of a message, and so does the message for an invalid field of that for a missing group of the
same name. -/
theorem messagesFor_takenKeys :
    (∃ results out,
      (evaluate (Registry.builtins ⟨2026, 1, 1⟩) markedEmail (.record FieldMap.empty)).outcome = .ok results ∧
      Messages.checkConfig (results.refine none).messages = .ok () ∧ results.missing.contains "email" = true ∧
      (results.messagesFor none).2 = .ok out ∧
      out.get? (Messages.key (results.refine none).messages "email") = some "1" ∧
      out.get? (Messages.key (results.refine none).messages "email") ≠
        some (fill ((results.refine none).messages.format.getD Messages.defaultFormat)
          ((results.refine none).messages.missing.getD Messages.defaultMissing))) ∧
    ∃ results out,
      (evaluate (Registry.builtins ⟨2026, 1, 1⟩) namesakeContact
        (.record (FieldMap.ofList [("contact", .scalar "x")]))).outcome = .ok results ∧
      Messages.checkConfig (results.refine none).messages = .ok () ∧ results.missing.contains "contact" = true ∧
      (results.messagesFor none).2 = .ok out ∧
      out.get? (Messages.key (results.refine none).messages "contact") = some "Invalid" ∧
      out.get? (Messages.key (results.refine none).messages "contact") ≠
        some (fill ((results.refine none).messages.format.getD Messages.defaultFormat)
          ((results.refine none).messages.missing.getD Messages.defaultMissing)) := by
  have hmarked : (evaluate (Registry.builtins ⟨2026, 1, 1⟩) markedEmail (.record FieldMap.empty)).outcome =
      .ok { missing := NameSet.ofList ["email"], messages := markedEmail.messages } := rfl
  have hnamesake : (evaluate (Registry.builtins ⟨2026, 1, 1⟩) namesakeContact
      (.record (FieldMap.ofList [("contact", .scalar "x")]))).outcome =
        .ok { missing := NameSet.ofList ["contact"], invalid := FieldMap.ofList [("contact", ["zip"])],
              messages := namesakeContact.messages } := rfl
  exact ⟨⟨_, FieldMap.ofList [("email", "1")], hmarked, rfl, by decide, rfl, by decide, by decide⟩,
    _, FieldMap.ofList [("contact", "Invalid")], hnamesake, rfl, by decide, rfl, by decide, by decide⟩

end FormValidation
