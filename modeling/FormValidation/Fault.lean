import FormValidation.Pattern
import FormValidation.Input.FromJson

/-!
# Faults of an evaluation

A fault says that a profile, or a function it uses, is wrong in itself, and ends the evaluation. Fields that are
missing, invalid or unknown are never faults; they are what an evaluation reports.
-/

set_option autoImplicit false

namespace FormValidation

/-- Why data is not a profile. -/
inductive ProfileFault where
  | notMapping
  | wrongShape (option : String)
  | notScalar (option : String) (found : Json)
  | notConstraint (found : Json)
  | unknownConstraintKey (key : String)
  | twoConstraints
  | noConstraint
  | constraintNotText
  | nameNotText (found : Json)
  | methodFlagShape
  | badDefaults (fault : RecordFault)

/-- What makes an evaluation impossible. `unfinished` names a field whose constraint method kept lengthening the value
it was called for, beyond any length a value can have. -/
inductive Fault where
  | unknownOption (key : String)
  | invalidProfile (fault : ProfileFault)
  | unknownFilter (name : String)
  | unknownConstraint (name : String)
  | unknownPackage (name : String)
  | invalidPattern (pattern : String) (fault : PatternFault)
  | invalidParams (constraint message : String)
  | invalidMessageFormat (format : String)
  | invalidInput (fault : RecordFault)
  | json (fault : JsonFault)
  | unfinished (field : String)

/-- The report of a record fault on its own. -/
def RecordFault.report (fault : RecordFault) : String := "Invalid input record: " ++ fault.message

/-- The reason as it is reported. -/
def ProfileFault.message : ProfileFault → String
  | notMapping => "profile must be a mapping of options"
  | wrongShape option => "option '" ++ option ++ "' has the wrong shape"
  | notScalar option found => option ++ ": expected a string or number, found " ++ found.compact
  | notConstraint found =>
    "constraint must be a name, pattern or structured constraint, found " ++ found.compact
  | unknownConstraintKey key => "unknown structured constraint key '" ++ key ++ "'"
  | twoConstraints => "structured constraint has both 'constraint' and 'constraint_method'"
  | noConstraint => "structured constraint needs 'constraint' or 'constraint_method'"
  | constraintNotText => "'constraint' must be a name or pattern string"
  | nameNotText found => "constraint name must be a string, found " ++ found.compact
  | methodFlagShape => "is_method: expected a flag"
  | badDefaults fault => "defaults: " ++ fault.report

/-- The report of a fault. -/
def Fault.message : Fault → String
  | unknownOption key => "Invalid profile: unknown option '" ++ key ++ "'"
  | invalidProfile fault => "Invalid profile: " ++ fault.message
  | unknownFilter name => "No filter found named '" ++ name ++ "'"
  | unknownConstraint name => "No constraint found named '" ++ name ++ "'"
  | unknownPackage name => "Validator package '" ++ name ++ "' is not registered"
  | invalidPattern pattern fault => "Invalid pattern '" ++ pattern ++ "': " ++ fault.message
  | invalidParams constraint message => "Invalid params for constraint '" ++ constraint ++ "': " ++ message
  | invalidMessageFormat format => "Message format '" ++ format ++ "' must contain exactly one '%s' placeholder"
  | invalidInput fault => fault.report
  | json fault => "JSON error: " ++ fault.message
  | unfinished field => "A constraint method never stops lengthening field '" ++ field ++ "'"

/-- The compiled pattern; a pattern that cannot be compiled is named by the fault. -/
def FieldPattern.resolve (pattern : FieldPattern) : Except Fault Regex :=
  match pattern.compile with
  | .error fault => .error (.invalidPattern pattern.source fault)
  | .ok regex => .ok regex

end FormValidation
