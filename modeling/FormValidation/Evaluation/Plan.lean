import FormValidation.Registry.Basic

/-!
# Constraint plans

The constraints of a profile are looked up and compiled before any field is looked at, so an unknown name or a
malformed pattern is a fault even when its field was never submitted. A plan is then expanded for the fields that are
present: constraints for patterns come behind those of the field itself.
-/

set_option autoImplicit false

namespace FormValidation

/-- Something that can be called for an element. -/
inductive Callable where
  | pattern (regex : Regex)
  | plain (run : List ParamValue → Answer)
  | method (run : Context → List ParamValue → MethodAnswer)

/-- A constraint with its failure name, what is called for it, and its declared parameters. -/
structure CompiledConstraint where
  name : String
  callable : Callable
  params : Option (List Param)

/-- What a constraint function is called as. -/
def Callable.ofFunction : ConstraintFunction → Callable
  | .plain run => plain run
  | .method run => method run

/-- The compiled constraint of a specification. -/
def ConstraintSpec.compile (registry : Registry) : ConstraintSpec → Except Fault CompiledConstraint
  | named name =>
    match registry.constraint name with
    | .error fault => .error fault
    | .ok function => .ok { name, callable := .ofFunction function, params := none }
  | pattern p =>
    match p.resolve with
    | .error fault => .error fault
    | .ok regex => .ok { name := p.source, callable := .pattern regex, params := none }
  | callable name function =>
    .ok { name := name.getD anonymousConstraint, callable := .ofFunction function, params := none }
  | structured base name params _ =>
    match base.compile registry with
    | .error fault => .error fault
    | .ok inner => .ok { inner with name := name.getD inner.name, params := params.or inner.params }

namespace CompiledConstraint

/-- The value of a parameter, given the field and element that are checked and the values as they stand. A parameter
that names the checked field is the element itself. -/
def paramValue (field element : String) (working : Record) : Param → ParamValue
  | .field name => if name = field then some (.scalar element) else working.get? name
  | .literal text => some (.scalar text)

/-- The parameters of a call: the declared ones, or else the element, which a method has in its context already. -/
def paramValues (c : CompiledConstraint) (field element : String) (working : Record) : List ParamValue :=
  match c.params with
  | some params => params.map (paramValue field element working)
  | none =>
    match c.callable with
    | .method _ => []
    | _ => [some (.scalar element)]

end CompiledConstraint

/-- The verdict of a pattern: what it finds is kept, and finding the empty text is as finding nothing. -/
def Regex.verdict (regex : Regex) (text : String) : Verdict :=
  match regex.firstMatch text with
  | none => .rejected
  | some found => Verdict.check (!found.isEmpty) found

/-- What a call answers. -/
def CompiledConstraint.invoke (c : CompiledConstraint) (context : Context) : MethodAnswer :=
  let params := c.paramValues context.field context.value context.valid
  match c.callable with
  | .pattern regex => { outcome := .ok (regex.verdict ((paramText params 0).getD "")) }
  | .plain run => { toAnswer := run params }
  | .method run => run context params

/-- The compiled constraints of a profile, by field and by pattern. -/
structure ConstraintPlan where
  byField : FieldMap (List CompiledConstraint)
  byPattern : List (Regex × List CompiledConstraint)

namespace ConstraintPlan

/-- The compiled constraints of a list. -/
def compileAll (registry : Registry) (specs : List ConstraintSpec) : Except Fault (List CompiledConstraint) :=
  specs.mapM fun spec => spec.compile registry

/-- The compiled constraints of a profile. -/
def ofProfile (registry : Registry) (profile : Profile) : Except Fault ConstraintPlan := do
  let byField ← profile.constraints.mapE fun _ specs => compileAll registry specs
  let byPattern ← profile.patternConstraints.mapM fun e => do
    let regex ← e.1.resolve
    let constraints ← compileAll registry e.2
    return (regex, constraints)
  return { byField, byPattern }

/-- The constraints of fields, with those of a pattern put at the end for every present field that it matches. -/
def attach (fields : Record) (attached : FieldMap (List CompiledConstraint))
    (e : Regex × List CompiledConstraint) : FieldMap (List CompiledConstraint) :=
  (e.1.matchingNames fields.keys).foldl (fun acc name => acc.extendAt name e.2) attached

/-- The constraints of each field, given the fields that are present. -/
def expand (plan : ConstraintPlan) (fields : Record) : FieldMap (List CompiledConstraint) :=
  plan.byPattern.foldl (attach fields) plan.byField

end ConstraintPlan

/-- Which fields take the text that a constraint matched. -/
structure UntaintPolicy where
  all : Bool
  fields : NameSet
  patterns : List Regex

namespace UntaintPolicy

/-- The policy of a profile. -/
def ofProfile (profile : Profile) : Except Fault UntaintPolicy := do
  let patterns ← profile.untaintPatterns.mapM FieldPattern.resolve
  return { all := profile.untaintAll, fields := NameSet.ofList profile.untaintFields, patterns }

/-- Whether a field is untainted. -/
def applies (p : UntaintPolicy) (field : String) : Bool :=
  p.all || p.fields.contains field || p.patterns.any fun regex => regex.isMatch field

end UntaintPolicy

end FormValidation
