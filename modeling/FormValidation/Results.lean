import FormValidation.Message.Formatter

/-!
# Results

What an evaluation says about the fields: which are valid and with what value, which are missing, which are invalid
and by which constraints, and which the profile does not know. The results carry the message configuration of the
profile, and messages asked for with overrides refine it for later calls.
-/

set_option autoImplicit false

namespace FormValidation

/-- The classification of the fields of one evaluation. -/
structure ValidationResults where
  valid : Record := FieldMap.empty
  missing : NameSet := FieldMap.empty
  invalid : FieldMap (List String) := FieldMap.empty
  unknown : NameSet := FieldMap.empty
  messages : MessageConfig := {}
  deriving DecidableEq

namespace ValidationResults

/-- Whether nothing is missing or invalid. -/
def success (r : ValidationResults) : Bool := r.missing.isEmpty && r.invalid.isEmpty

/-- The valid value of a field. -/
def validValue (r : ValidationResults) (field : String) : Option FieldValue := r.valid.get? field

/-- The names of the valid fields. -/
def validFields (r : ValidationResults) : List String := r.valid.keys

/-- The results with a valid value written or corrected afterwards. -/
def setValid (r : ValidationResults) (field : String) (value : FieldValue) : ValidationResults :=
  { r with valid := r.valid.insert field value }

/-- Whether a field is missing. -/
def isMissing (r : ValidationResults) (field : String) : Bool := r.missing.contains field

/-- The names of the constraints that a field failed. -/
def invalidConstraints (r : ValidationResults) (field : String) : Option (List String) := r.invalid.get? field

/-- The names of the invalid fields. -/
def invalidFields (r : ValidationResults) : List String := r.invalid.keys

/-- Whether a field is unknown. -/
def isUnknown (r : ValidationResults) (field : String) : Bool := r.unknown.contains field

/-- Whether some field is valid. -/
def hasValid (r : ValidationResults) : Bool := !r.valid.isEmpty

/-- Whether some field is missing. -/
def hasMissing (r : ValidationResults) : Bool := !r.missing.isEmpty

/-- Whether some field is invalid. -/
def hasInvalid (r : ValidationResults) : Bool := !r.invalid.isEmpty

/-- Whether some field is unknown. -/
def hasUnknown (r : ValidationResults) : Bool := !r.unknown.isEmpty

/-- The fields to report, the missing ones first. -/
def failures (r : ValidationResults) : List (String × FieldFailure) :=
  r.missing.keys.map (fun field => (field, .missing)) ++
    r.invalid.entries.map (fun e => (e.1, .invalid e.2))

/-- The messages for fields to report, put into a map one after the other. -/
def formatFailures (f : Formatter) (out : FieldMap String) :
    List (String × FieldFailure) → Except Fault (FieldMap String)
  | [] => .ok out
  | (field, failure) :: rest =>
    match f.format field failure with
    | .error fault => .error fault
    | .ok text => formatFailures f (out.insert (f.key field) text) rest

/-- The messages that a formatter makes, by their keys; when there is any, the key that says so is set. -/
def messagesWith (r : ValidationResults) (f : Formatter) : Except Fault (FieldMap String) :=
  match formatFailures f FieldMap.empty r.failures with
  | .error fault => .error fault
  | .ok out =>
    match f.anyErrorsKey with
    | none => .ok out
    | some key => .ok (if out.isEmpty then out else out.insert key "1")

/-- The results with overrides laid over their message configuration. -/
def refine (r : ValidationResults) (overrides : Option MessageConfig) : ValidationResults :=
  match overrides with
  | none => r
  | some config => { r with messages := r.messages.merge config }

/-- The messages of the configuration as it stands. -/
def currentMessages (r : ValidationResults) : Except Fault (FieldMap String) :=
  match Formatter.ofConfig r.messages with
  | .error fault => .error fault
  | .ok formatter => r.messagesWith formatter

/-- The messages under overrides, and the results for later calls, which keep the overrides even when the messages
cannot be made. -/
def messagesFor (r : ValidationResults) (overrides : Option MessageConfig) :
    ValidationResults × Except Fault (FieldMap String) :=
  (r.refine overrides, (r.refine overrides).currentMessages)

/-- The classification as JSON, in the order valid, missing, invalid, unknown. -/
def toJson (r : ValidationResults) : Json :=
  .object [
    ("valid", r.valid.toJson),
    ("missing", .ofTexts r.missing.keys),
    ("invalid", .ofMap .ofTexts r.invalid),
    ("unknown", .ofTexts r.unknown.keys)]

end ValidationResults

end FormValidation
