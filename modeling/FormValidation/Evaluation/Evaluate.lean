import FormValidation.Evaluation.Filtering
import FormValidation.Evaluation.Requirements
import FormValidation.Evaluation.Checking
import FormValidation.Results

/-!
# Evaluation

One record is run through a profile. The packages of the profile are merged; everything that the profile refers to is
looked up and compiled; then the fields are filtered, the requirements resolved against the filtered names, empty
values dropped, dependencies followed, unknown fields set apart, defaults put in, missing fields computed, and the
constraints checked. Last, optional fields that were submitted empty are put back where the profile asks for it.

Only the check of the constraints can still fail when the data is looked at, so faults of the profile do not depend on
the data.
-/

set_option autoImplicit false

namespace FormValidation

/-- What a profile refers to, looked up and compiled. -/
structure Preparation where
  constraints : ConstraintPlan
  untaint : UntaintPolicy
  filters : FilterPlan
  requiredPattern : Option Regex
  optionalPattern : Option Regex

namespace Preparation

/-- A pattern that may be left out, compiled. -/
def resolvePattern : Option FieldPattern → Except Fault (Option Regex)
  | none => .ok none
  | some pattern =>
    match pattern.resolve with
    | .error fault => .error fault
    | .ok regex => .ok (some regex)

/-- Looks up and compiles what a profile refers to. -/
def ofProfile (registry : Registry) (profile : Profile) : Except Fault Preparation := do
  Messages.checkConfig profile.messages
  let constraints ← ConstraintPlan.ofProfile registry profile
  let untaint ← UntaintPolicy.ofProfile profile
  let filters ← FilterPlan.ofProfile registry profile
  let requiredPattern ← resolvePattern profile.requiredPattern
  let optionalPattern ← resolvePattern profile.optionalPattern
  return { constraints, untaint, filters, requiredPattern, optionalPattern }

end Preparation

/-- The state of an evaluation before constraints are checked: the requirements, the values that stand as valid, and
the fields that are unknown and missing. -/
structure Classification where
  requirements : Requirements
  working : Record
  unknown : NameSet
  missing : NameSet

/-- Filters the submitted fields and classifies them as far as that can be done without constraints. -/
def Preparation.classify (prep : Preparation) (profile : Profile) (submitted : Record) : Classification :=
  let filtered := prep.filters.apply submitted
  let declared := Requirements.declare profile prep.requiredPattern prep.optionalPattern filtered
  let present := filtered.stripEmpty
  let requirements := declared.addDependencies profile present
  let unknown := present.unknown requirements
  let working := (present.known requirements).withDefaults profile.defaults unknown
  { requirements, working, unknown, missing := requirements.missing profile working }

namespace Classification

/-- The fields that are closed to writing before the first constraint. -/
def closed (c : Classification) : NameSet := c.missing.union c.unknown

/-- Whether an optional field was submitted but is in no class. -/
def isUnclaimed (c : Classification) (working : Record) (invalid : FieldMap (List String)) (field : String) : Bool :=
  !working.contains field && !invalid.contains field && !c.missing.contains field && !c.unknown.contains field &&
    c.requirements.optional.contains field

/-- The valid values with the unclaimed ones of the submitted fields put in as empty. -/
def backfill (c : Classification) (submitted : List String) (invalid : FieldMap (List String)) (working : Record) :
    Record :=
  submitted.foldl (fun fields field =>
    if c.isUnclaimed fields invalid field then fields.insert field (.scalar "") else fields) working

end Classification

/-- Classifies the submitted fields and checks their constraints. -/
def Preparation.run (limit : Nat) (prep : Preparation) (profile : Profile) (input : Source) :
    List Visit × Except Fault ValidationResults :=
  let submitted := input.toRecord
  let c := prep.classify profile submitted
  match checkAll limit (prep.constraints.expand c.working) prep.untaint c.closed input c.working with
  | (after, .error fault) => (after.visits.reverse, .error fault)
  | (after, .ok invalid) =>
    (after.visits.reverse, .ok {
      valid :=
        if profile.missingOptionalValid then c.backfill submitted.keys invalid after.working else after.working
      missing := c.missing
      invalid
      unknown := c.unknown
      messages := profile.messages })

/-- An evaluation: the registry afterwards, with the packages of the profile merged, the visits of the constraints in
their order, and the results. -/
structure Evaluation where
  registry : Registry
  visits : List Visit
  outcome : Except Fault ValidationResults

/-- The notes of the functions that were called, in the order of the calls. -/
def Evaluation.notes (e : Evaluation) : List Json :=
  e.visits.flatMap fun visit =>
    match visit.answer with
    | none => []
    | some answer => answer.notes

/-- Evaluates a profile on an input, visiting at most `limit` elements for one constraint of one field. -/
def evaluateWithin (limit : Nat) (registry : Registry) (profile : Profile) (input : Source) : Evaluation :=
  match registry.mergePackages profile.packages with
  | (merged, .error fault) => ⟨merged, [], .error fault⟩
  | (merged, .ok ()) =>
    match Preparation.ofProfile merged profile with
    | .error fault => ⟨merged, [], .error fault⟩
    | .ok prep =>
      let (visits, outcome) := prep.run limit profile input
      ⟨merged, visits, outcome⟩

/-- Evaluates a profile on an input: classifies every field, or fails because the profile or a function it uses is
wrong. -/
def evaluate (registry : Registry) (profile : Profile) (input : Source) : Evaluation :=
  evaluateWithin visitLimit registry profile input

end FormValidation
