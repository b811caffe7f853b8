import FormValidation.Registry.Basic
import FormValidation.Registry.Filters
import FormValidation.Registry.Regions
import FormValidation.Registry.Addresses
import FormValidation.Registry.Cards
import FormValidation.Registry.Methods

/-!
# The built-in registry

The filters and constraints that a registry starts with. The expiry of cards is decided on a given day.
-/

set_option autoImplicit false

namespace FormValidation.Registry

/-- The built-in constraints by name. -/
def builtinConstraints (today : Date) : List (String × ConstraintFunction) := [
  ("email", .predicate Address.isEmail),
  ("state", .ofVerdict Region.state),
  ("province", .ofVerdict Region.province),
  ("state_or_province", .ofVerdict fun text => (Region.state text).orElse (Region.province text)),
  ("zip", .ofVerdict Address.zip),
  ("postcode", .ofVerdict Address.postcode),
  ("zip_or_postcode", .ofVerdict fun text => (Address.zip text).orElse (Address.postcode text)),
  ("phone", .predicate fun text => 6 ≤ Address.digitCount text),
  ("american_phone", .predicate fun text => 7 ≤ Address.digitCount text),
  ("cc_number", .plain fun params =>
    { outcome := .ok (Card.number ((paramText params 0).getD "") (paramText params 1)) }),
  ("cc_exp", .predicate fun text => Card.notExpired text today),
  ("cc_type", .ofVerdict Card.type),
  ("ip_address", .predicate Address.isInternetAddress),
  ("length_between", .ofContext Method.lengthBetween),
  ("min_length", .ofContext Method.minLength),
  ("max_length", .ofContext Method.maxLength),
  ("eq_with", .ofContext Method.eqWith),
  ("num_values", .ofContext Method.numValues),
  ("num_values_between", .ofContext Method.numValuesBetween)]

/-- The registry of the built-in filters and constraints. -/
def builtins (today : Date) : Registry where
  filters := FieldMap.ofList (TextFilter.builtins.map fun e => (e.1, TextFilter.ofChars e.2))
  constraints := FieldMap.ofList (builtinConstraints today)

end FormValidation.Registry
