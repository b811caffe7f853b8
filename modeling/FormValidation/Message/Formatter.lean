import FormValidation.Message.Config

/-!
# Making messages

A formatter turns every missing or invalid field into a message under a key. The usual one, `Formatter.ofConfig`,
follows a message configuration; a configuration whose format is malformed makes none.
-/

set_option autoImplicit false

namespace FormValidation

/-- Why a field is reported; an invalid one with the names of the constraints that failed, in declared order. -/
inductive FieldFailure where
  | missing
  | invalid (names : List String)
  deriving DecidableEq, Repr

/-- A way to make messages: the message for a field, its key, and the key that is set when anything is reported. -/
structure Formatter where
  format : String → FieldFailure → Except Fault String
  key : String → String := id
  anyErrorsKey : Option String := none

namespace Messages

/-- The format used when none is set. -/
def defaultFormat : String :=
  "<span style=\"color:red;font-weight:bold\" class=\"field_errors\">* %s</span>"

/-- The text for a missing field when none is set. -/
def defaultMissing : String := "Missing"

/-- The text for a failed constraint when none is set. -/
def defaultInvalid : String := "Invalid"

/-- The text between several failures when none is set. -/
def defaultSeparator : String := " "

/-- The texts that are not among those met so far, each at its first place. -/
def newTexts (met : List String) : List String → List String
  | [] => []
  | text :: rest => if met.contains text then newTexts met rest else text :: newTexts (text :: met) rest

/-- The text for a failed constraint. -/
def failureText (c : MessageConfig) (name : String) : String :=
  (c.constraints.get? name).getD (c.invalid.getD defaultInvalid)

/-- The texts of the failed constraints, every text once, put together. -/
def failureTexts (c : MessageConfig) (names : List String) : String :=
  (c.invalidSeparator.getD defaultSeparator).intercalate (newTexts [] (names.map (failureText c)))

/-- What is said about a failure, before it is put into the format. -/
def body (c : MessageConfig) : FieldFailure → String
  | .missing => c.missing.getD defaultMissing
  | .invalid names => failureTexts c names

/-- A message in the format of the configuration. -/
def wrap (c : MessageConfig) (text : String) : Except Fault String :=
  MessageFormat.apply (c.format.getD defaultFormat) text

/-- The output key of a field. -/
def key (c : MessageConfig) (field : String) : String := c.keyPrefix.getD "" ++ field

/-- Accepts a configuration unless its format is malformed. -/
def checkConfig (c : MessageConfig) : Except Fault Unit :=
  match c.format with
  | none => .ok ()
  | some format =>
    match MessageFormat.apply format "" with
    | .error fault => .error fault
    | .ok _ => .ok ()

end Messages

/-- The formatter of a configuration whose format is well formed. -/
def Formatter.ofConfig (c : MessageConfig) : Except Fault Formatter :=
  match Messages.checkConfig c with
  | .error fault => .error fault
  | .ok () => .ok {
      format := fun _ failure => Messages.wrap c (Messages.body c failure)
      key := Messages.key c
      anyErrorsKey := c.anyErrors }

end FormValidation
