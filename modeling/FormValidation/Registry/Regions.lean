import FormValidation.Constraint.Function

/-!
# Regions

The states and territories of the United States and the provinces and territories of Canada, each accepted by its
code or its name, in any case and with blanks around it.
-/

set_option autoImplicit false

namespace FormValidation.Region

/-- Codes and names of the states and territories of the United States, and of its military post. -/
def states : List (String × String) := [
  ("AL", "Alabama"), ("AK", "Alaska"), ("AZ", "Arizona"), ("AR", "Arkansas"), ("CA", "California"),
  ("CO", "Colorado"), ("CT", "Connecticut"), ("DE", "Delaware"), ("DC", "District of Columbia"), ("FL", "Florida"),
  ("GA", "Georgia"), ("HI", "Hawaii"), ("ID", "Idaho"), ("IL", "Illinois"), ("IN", "Indiana"), ("IA", "Iowa"),
  ("KS", "Kansas"), ("KY", "Kentucky"), ("LA", "Louisiana"), ("ME", "Maine"), ("MD", "Maryland"),
  ("MA", "Massachusetts"), ("MI", "Michigan"), ("MN", "Minnesota"), ("MS", "Mississippi"), ("MO", "Missouri"),
  ("MT", "Montana"), ("NE", "Nebraska"), ("NV", "Nevada"), ("NH", "New Hampshire"), ("NJ", "New Jersey"),
  ("NM", "New Mexico"), ("NY", "New York"), ("NC", "North Carolina"), ("ND", "North Dakota"), ("OH", "Ohio"),
  ("OK", "Oklahoma"), ("OR", "Oregon"), ("PA", "Pennsylvania"), ("RI", "Rhode Island"), ("SC", "South Carolina"),
  ("SD", "South Dakota"), ("TN", "Tennessee"), ("TX", "Texas"), ("UT", "Utah"), ("VT", "Vermont"), ("VA", "Virginia"),
  ("WA", "Washington"), ("WV", "West Virginia"), ("WI", "Wisconsin"), ("WY", "Wyoming"), ("AS", "American Samoa"),
  ("GU", "Guam"), ("MP", "Northern Mariana Islands"), ("PR", "Puerto Rico"), ("VI", "Virgin Islands"),
  ("FM", "Federated States of Micronesia"), ("MH", "Marshall Islands"), ("PW", "Palau"),
  ("AA", "Armed Forces Americas"), ("AE", "Armed Forces Europe"), ("AP", "Armed Forces Pacific")]

/-- Codes and names of the provinces and territories of Canada. -/
def provinces : List (String × String) := [
  ("AB", "Alberta"), ("BC", "British Columbia"), ("MB", "Manitoba"), ("NB", "New Brunswick"),
  ("NL", "Newfoundland and Labrador"), ("NF", "Newfoundland"), ("NS", "Nova Scotia"), ("NT", "Northwest Territories"),
  ("NU", "Nunavut"), ("ON", "Ontario"), ("PE", "Prince Edward Island"), ("QC", "Quebec"), ("SK", "Saskatchewan"),
  ("YT", "Yukon")]

/-- Whether a text is the code or the name of a region, but for the case of its letters. -/
def names (s : List Char) (region : String × String) : Bool :=
  Text.equalIgnoringAsciiCase region.1.toList s || Text.equalIgnoringAsciiCase region.2.toList s

/-- A text that names a region of a table; the blanks around it are not kept. -/
def find (table : List (String × String)) (text : String) : Verdict :=
  let wanted := Text.trim text.toList
  Verdict.check (table.any (names wanted)) (String.ofList wanted)

/-- A state or territory of the United States. -/
def state (text : String) : Verdict := find states text

/-- A province or territory of Canada. -/
def province (text : String) : Verdict := find provinces text

end FormValidation.Region
