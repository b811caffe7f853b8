import FormValidation.Profile.Reader
import FormValidation.ProfileFile.Format

/-!
# Sets of profiles

The profiles of one file by their names, with the path they came from, and the summaries by which they are listed.
-/

set_option autoImplicit false

namespace FormValidation

/-- The profiles of a file. -/
structure ProfileSet where
  source : String := ""
  profiles : FieldMap Profile := FieldMap.empty

namespace ProfileSet

/-- The set without profiles and without a file. -/
def empty : ProfileSet := {}

/-- The profiles that definitions declare; the first one, by name, that is no profile makes all fail. -/
def ofDefinitions (path : String) (definitions : FieldMap Json) : Except LoadFault ProfileSet :=
  let read := fun (name : String) (definition : Json) =>
    (Profile.ofJson definition).mapError (LoadFault.invalidProfile name path)
  match definitions.mapE read with
  | .error fault => .error fault
  | .ok profiles => .ok ⟨path, profiles⟩

/-- The profiles in a text of a format. -/
def ofText (format : ProfileFormat) (path text : String) : Except LoadFault ProfileSet :=
  match format.readDefinitions path text with
  | .error fault => .error fault
  | .ok definitions => ofDefinitions path definitions

/-- The set with a profile put under a name. -/
def insert (set : ProfileSet) (name : String) (profile : Profile) : ProfileSet :=
  { set with profiles := set.profiles.insert name profile }

/-- Whether there is a profile of a name. -/
def contains (set : ProfileSet) (name : String) : Bool := set.profiles.contains name

/-- The profile of a name. -/
def get (set : ProfileSet) (name : String) : Except LoadFault Profile :=
  match set.profiles.get? name with
  | none => .error (.profileNotFound name set.source)
  | some profile => .ok profile

/-- The names of the profiles, ascending. -/
def names (set : ProfileSet) : List String := set.profiles.keys

/-- The number of profiles. -/
def size (set : ProfileSet) : Nat := set.profiles.size

/-- Whether there is no profile. -/
def isEmpty (set : ProfileSet) : Bool := set.profiles.isEmpty

end ProfileSet

/-- What a listing tells about a profile. -/
structure ProfileSummary where
  name : String
  required : Nat
  optional : Nat
  requireSome : Nat
  dependencies : Nat
  constrainedFields : Nat
  hasPatternRules : Bool
  deriving DecidableEq, Repr

namespace ProfileSummary

/-- The summary of a profile. Dependencies and dependency groups are counted together. -/
def ofProfile (name : String) (p : Profile) : ProfileSummary where
  name
  required := p.required.length
  optional := p.optional.length
  requireSome := p.requireSome.size
  dependencies := p.dependencies.size + p.dependencyGroups.size
  constrainedFields := p.constraints.size
  hasPatternRules :=
    p.requiredPattern.isSome || p.optionalPattern.isSome || !p.patternConstraints.isEmpty || !p.patternFilters.isEmpty

/-- The summary as JSON. -/
def toJson (s : ProfileSummary) : Json :=
  .object [
    ("name", .string s.name),
    ("required", .ofNat s.required),
    ("optional", .ofNat s.optional),
    ("require_some", .ofNat s.requireSome),
    ("dependencies", .ofNat s.dependencies),
    ("constrained_fields", .ofNat s.constrainedFields),
    ("has_regexp_rules", .bool s.hasPatternRules)]

end ProfileSummary

/-- The summaries of the profiles of a set, by name. -/
def ProfileSet.summaries (set : ProfileSet) : List ProfileSummary :=
  set.profiles.entries.map fun e => ProfileSummary.ofProfile e.1 e.2

/-- What is told about a set, as data. -/
def ProfileSet.describe (set : ProfileSet) : Json :=
  .object [
    ("names", .ofTexts set.names),
    ("len", .ofNat set.size),
    ("empty", .bool set.isEmpty),
    ("source", .string set.source),
    ("summaries", .array (set.summaries.map ProfileSummary.toJson))]

end FormValidation
