import FormValidation.Profile.Basic

/-!
# Registries

A registry holds the filters and constraints that profiles refer to by name. Packages are bundles of further ones: a
registered package can be merged once, and then its exports are bound under names that follow from how they are
called. An export called `filter_x` that is a filter becomes the filter `x`; one called `match_x` or `valid_x` that is
a constraint becomes the constraint `x`; any other export is passed over.
-/

set_option autoImplicit false

namespace FormValidation

/-- A function that a package exports. -/
inductive Export where
  | filter (run : TextFilter)
  | constraint (function : ConstraintFunction)

/-- A named bundle of exports, in the order of their declaration. -/
structure Package where
  name : String
  exports : List (String × Export)

/-- A name with the function to be found under it. -/
inductive Binding where
  | filter (name : String) (run : TextFilter)
  | constraint (name : String) (function : ConstraintFunction)

/-- What stands behind a given beginning of a text. -/
def dropFront? : List Char → List Char → Option (List Char)
  | [], s => some s
  | _ :: _, [] => none
  | c :: front, d :: s => if c = d then dropFront? front s else none

/-- The kinds of functions that names of exports announce. -/
inductive ExportName where
  | filter (short : String)
  | constraint (short : String)
  deriving DecidableEq, Repr

/-- What the name of an export announces, and the name without the announcement. -/
def exportName? (name : String) : Option ExportName :=
  match dropFront? "filter_".toList name.toList with
  | some short => some (.filter (String.ofList short))
  | none =>
    match dropFront? "match_".toList name.toList with
    | some short => some (.constraint (String.ofList short))
    | none => (dropFront? "valid_".toList name.toList).map fun short => .constraint (String.ofList short)

/-- What an export binds, if its name announces what it is. -/
def Export.binding? (name : String) (e : Export) : Option Binding :=
  match exportName? name, e with
  | some (.filter short), .filter run => some (.filter short run)
  | some (.constraint short), .constraint function => some (.constraint short function)
  | _, _ => none

/-- Named filters and constraints, the packages that can be merged, and the names of those that have been. -/
structure Registry where
  filters : FieldMap TextFilter := FieldMap.empty
  constraints : FieldMap ConstraintFunction := FieldMap.empty
  packages : FieldMap Package := FieldMap.empty
  merged : NameSet := FieldMap.empty

namespace Registry

/-- The registry without anything. -/
def empty : Registry := {}

instance : Inhabited Registry := ⟨empty⟩

/-- The registry with a filter, instead of any of that name. -/
def registerFilter (r : Registry) (name : String) (run : TextFilter) : Registry :=
  { r with filters := r.filters.insert name run }

/-- The registry with a constraint, instead of any of that name. -/
def registerConstraint (r : Registry) (name : String) (function : ConstraintFunction) : Registry :=
  { r with constraints := r.constraints.insert name function }

/-- The registry with a package that can be merged, instead of any of that name. -/
def registerPackage (r : Registry) (package : Package) : Registry :=
  { r with packages := r.packages.insert package.name package }

/-- The registry with a binding. -/
def bind (r : Registry) : Binding → Registry
  | .filter name run => r.registerFilter name run
  | .constraint name function => r.registerConstraint name function

/-- The registry with the exports of a package bound, in order. -/
def bindExports (r : Registry) (exports : List (String × Export)) : Registry :=
  (exports.filterMap fun e => e.2.binding? e.1).foldl bind r

/-- The filter of a name. -/
def filter (r : Registry) (name : String) : Except Fault TextFilter :=
  match r.filters.get? name with
  | some run => .ok run
  | none => .error (.unknownFilter name)

/-- The constraint of a name. -/
def constraint (r : Registry) (name : String) : Except Fault ConstraintFunction :=
  match r.constraints.get? name with
  | some function => .ok function
  | none => .error (.unknownConstraint name)

/-- Whether a package has been merged. -/
def isMerged (r : Registry) (name : String) : Bool := r.merged.contains name

/-- The registry with a package merged. A package is merged once; later merges change nothing, even when another
package has been registered under its name. -/
def mergePackage (r : Registry) (name : String) : Except Fault Registry :=
  if r.isMerged name then .ok r
  else
    match r.packages.get? name with
    | none => .error (.unknownPackage name)
    | some package =>
      let bound := r.bindExports package.exports
      .ok { bound with merged := bound.merged.add name }

/-- The registry with packages merged in order, up to the first that is not registered. -/
def mergePackages (r : Registry) : List String → Registry × Except Fault Unit
  | [] => (r, .ok ())
  | name :: rest =>
    match r.mergePackage name with
    | .error fault => (r, .error fault)
    | .ok merged => merged.mergePackages rest

/-- The names of the filters, ascending. -/
def filterNames (r : Registry) : List String := r.filters.keys

/-- The names of the constraints, ascending. -/
def constraintNames (r : Registry) : List String := r.constraints.keys

end Registry

end FormValidation
