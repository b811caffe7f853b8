import FormValidation.Proofs.FieldMap
import FormValidation.Report.Check

/-!
# Secrets in reports

The value of a field whose name suggests a secret is shown as a mask for each of its elements, so nothing is shown of it
but whether it is a list and how many elements it has (`redactValue_congr`). A redacted report for people therefore reads
the same whatever the secrets in it are (`CheckReport.text_ignores_secrets`).
-/

set_option autoImplicit false

namespace FormValidation

/-- Two values are both scalars or both lists, with as many elements. -/
structure FieldValue.SameShape (v w : FieldValue) : Prop where
  isList : v.isList = w.isList
  length : v.length = w.length

namespace Redaction

variable {name : String}

/-- Of a secret only the number of its elements is shown. -/
theorem elements_redactValue_of_isSensitive (h : isSensitive name) (value : FieldValue) :
    (redactValue name value).elements = List.replicate value.length mask := by
  rw [redactValue, if_pos h, FieldValue.elements_map, List.map_const']
  rfl

/-- A value keeps its shape, secret or not. -/
theorem sameShape_redactValue (name : String) (value : FieldValue) : value.SameShape (redactValue name value) where
  isList := (FieldValue.isList_map _ value).symm
  length := (FieldValue.length_map _ value).symm

/-- Of a secret nothing but the shape is shown. -/
theorem redactValue_congr (h : isSensitive name) {v w : FieldValue} (hshape : v.SameShape w) :
    redactValue name v = redactValue name w := by
  apply FieldValue.eq_of_elements
  · rw [← (sameShape_redactValue name v).isList, ← (sameShape_redactValue name w).isList, hshape.isList]
  · rw [elements_redactValue_of_isSensitive h, elements_redactValue_of_isSensitive h, hshape.length]

/-- Two records have the same fields, with the same values but for secrets, which have the same shapes. -/
structure AlikeButSecrets (r s : Record) : Prop where
  keys : r.keys = s.keys
  shown : ∀ name, isSensitive name = false → r.get? name = s.get? name
  secret : ∀ name v w, isSensitive name → r.get? name = some v → s.get? name = some w → v.SameShape w

/-- Records that are alike but for secrets are shown alike. -/
theorem AlikeButSecrets.redactRecord_eq {r s : Record} (h : AlikeButSecrets r s) : redactRecord r = redactRecord s := by
  refine FieldMap.ext_get? fun name => ?_
  rw [redactRecord, redactRecord, FieldMap.get?_mapWithKey, FieldMap.get?_mapWithKey]
  cases hsensitive : isSensitive name with
  | false => rw [h.shown name hsensitive]
  | true =>
    have hcontains : r.contains name = s.contains name := by
      rw [Bool.eq_iff_iff, ← FieldMap.mem_keys_iff, ← FieldMap.mem_keys_iff, h.keys]
    unfold FieldMap.contains at hcontains
    cases hv : r.get? name with
    | none =>
      rw [hv] at hcontains
      rw [Option.isNone_iff_eq_none.1 (Option.isSome_eq_false_iff.1 hcontains.symm)]
    | some v =>
      rw [hv] at hcontains
      obtain ⟨w, hw⟩ := Option.isSome_iff_exists.1 hcontains.symm
      rw [hw]
      exact congrArg some (redactValue_congr hsensitive (h.secret name v w hsensitive hv hw))

end Redaction

namespace CheckReport

/-- Two reports say the same but for the values of secrets, which have the same shapes. -/
structure AlikeButSecrets (a b : CheckReport) : Prop where
  profile : a.profile = b.profile
  success : a.success = b.success
  missing : a.results.missing = b.results.missing
  invalid : a.results.invalid = b.results.invalid
  unknown : a.results.unknown = b.results.unknown
  messages : a.messages = b.messages
  valid : Redaction.AlikeButSecrets a.results.valid b.results.valid

/-- Reports that are alike but for secrets have the same text. -/
theorem AlikeButSecrets.humanText_eq {a b : CheckReport} (h : AlikeButSecrets a b) (style : OutputStyle) :
    a.humanText style true = b.humanText style true := by
  have hshown : a.shownValues true = b.shownValues true := h.valid.redactRecord_eq
  have hstatus : a.statusLine style = b.statusLine style := by
    unfold statusLine
    rw [h.profile, h.success]
  unfold humanText
  dsimp only
  rw [hshown, hstatus, h.missing, h.invalid, h.unknown, h.messages]

/-- A redacted report for people reads the same whatever the secrets in it are, as long as they are scalars or lists alike
and have as many elements. What is shown of a record are all of its fields, each a scalar or a list as before and with as
many elements. -/
theorem text_ignores_secrets :
    (∀ (style : OutputStyle) (a b : CheckReport), style.format = .human → AlikeButSecrets a b →
      a.text style true = b.text style true ∧ a.output style true = b.output style true) ∧
    ∀ record : Record, (Redaction.redactRecord record).keys = record.keys ∧
      ∀ name value, record.get? name = some value →
        ∃ shown, (Redaction.redactRecord record).get? name = some shown ∧ value.SameShape shown := by
  refine ⟨fun style a b hformat h => ?_, fun record => ⟨FieldMap.keys_mapWithKey _ record, fun name value hvalue => ?_⟩⟩
  · have htext : a.text style true = b.text style true := by
      unfold text
      rw [hformat]
      exact h.humanText_eq style
    refine ⟨htext, ?_⟩
    unfold output
    rw [htext]
  · refine ⟨Redaction.redactValue name value, ?_, Redaction.sameShape_redactValue name value⟩
    rw [Redaction.redactRecord, FieldMap.get?_mapWithKey, hvalue]
    rfl

/-- A report on a password, keys and a name. -/
def accountReport (password : String) (keys : List String) : CheckReport where
  profile := "account"
  success := true
  results := {
    valid := FieldMap.ofList [("password", .scalar password), ("api_key", .list keys), ("name", .scalar "Ada")] }

/-- Reports of an account with different passwords and keys have the same text, which shows how many keys there are. -/
theorem text_ignores_secrets_account :
    (accountReport "hunter2" ["a", "b"]).output {} true =
      (accountReport "" ["4111111111111111", ""]).output {} true ∧
    ∃ shown, (Redaction.redactRecord (accountReport "hunter2" ["a", "b"]).results.valid).get? "api_key" = some shown ∧
      (FieldValue.list ["a", "b"]).SameShape shown := by
  have hget : ∀ password keys name, (accountReport password keys).results.valid.get? name =
      if "password" = name then some (.scalar password) else if "api_key" = name then some (.list keys)
      else if "name" = name then some (.scalar "Ada") else none :=
    fun password keys name => FieldMap.get?_ofList (by simp) name
  have hsecret : Redaction.isSensitive "password" ∧ Redaction.isSensitive "api_key" := by decide +kernel
  have halike : AlikeButSecrets (accountReport "hunter2" ["a", "b"]) (accountReport "" ["4111111111111111", ""]) := by
    refine ⟨rfl, rfl, rfl, rfl, rfl, rfl, by decide +kernel, fun name hopen => ?_, fun name v w hname hv hw => ?_⟩
    · have hpassword : "password" ≠ name := fun heq => by simp [← heq, hsecret.1] at hopen
      have hkey : "api_key" ≠ name := fun heq => by simp [← heq, hsecret.2] at hopen
      rw [hget, hget, if_neg hpassword, if_neg hkey, if_neg hpassword, if_neg hkey]
    · rw [hget] at hv hw
      by_cases hpassword : "password" = name
      · rw [if_pos hpassword] at hv hw
        cases hv
        cases hw
        exact ⟨rfl, rfl⟩
      · rw [if_neg hpassword] at hv hw
        by_cases hkey : "api_key" = name
        · rw [if_pos hkey] at hv hw
          cases hv
          cases hw
          exact ⟨rfl, rfl⟩
        · rw [if_neg hkey] at hv hw
          rw [hv] at hw
          cases hw
          exact ⟨rfl, rfl⟩
  exact ⟨(text_ignores_secrets.1 {} _ _ rfl halike).2, (text_ignores_secrets.2 _).2 "api_key" _ (hget _ _ _)⟩

end CheckReport

end FormValidation
