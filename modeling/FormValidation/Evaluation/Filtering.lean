import FormValidation.Registry.Basic

/-!
# Filtering

Before anything is decided, every element of every field runs through the filters that are meant for its field: those
for all fields, those for the field, and those for the patterns that match its name, in this order. All filters are
looked up first, so a name that is not registered is a fault whether or not a field would reach it.
-/

set_option autoImplicit false

namespace FormValidation

/-- The filter of a specification. -/
def FilterSpec.resolve (registry : Registry) : FilterSpec → Except Fault TextFilter
  | named name => registry.filter name
  | function run => .ok run

/-- The filters of a profile, looked up: for all fields, by field, and by pattern. -/
structure FilterPlan where
  everywhere : List TextFilter
  byField : FieldMap (List TextFilter)
  byPattern : List (Regex × List TextFilter)

namespace FilterPlan

/-- The filters of a list of specifications. -/
def resolveAll (registry : Registry) (specs : List FilterSpec) : Except Fault (List TextFilter) :=
  specs.mapM fun spec => spec.resolve registry

/-- The filters of a profile. -/
def ofProfile (registry : Registry) (profile : Profile) : Except Fault FilterPlan := do
  let everywhere ← resolveAll registry profile.filters
  let byField ← profile.fieldFilters.mapE fun _ specs => resolveAll registry specs
  let byPattern ← profile.patternFilters.mapM fun e => do
    let regex ← e.1.resolve
    let filters ← resolveAll registry e.2
    return (regex, filters)
  return { everywhere, byField, byPattern }

/-- The text that filters make of a text, one after the other. -/
def runOn (filters : List TextFilter) (text : String) : String := filters.foldl (fun t filter => filter t) text

/-- The value that filters make of a value, element by element. -/
def run (filters : List TextFilter) (value : FieldValue) : FieldValue := value.map (runOn filters)

/-- Runs filters on the fields whose names satisfy a condition. -/
def runWhere (holds : String → Bool) (filters : List TextFilter) (fields : Record) : Record :=
  fields.mapWithKey fun name value => if holds name then run filters value else value

/-- Runs all filters on the fields they are meant for. -/
def apply (plan : FilterPlan) (fields : Record) : Record :=
  let fields := fields.map (run plan.everywhere)
  let fields := plan.byField.entries.foldl (fun acc e => runWhere (fun name => name == e.1) e.2 acc) fields
  plan.byPattern.foldl (fun acc e => runWhere e.1.isMatch e.2 acc) fields

end FilterPlan

end FormValidation
