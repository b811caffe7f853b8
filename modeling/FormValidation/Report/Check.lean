import FormValidation.Report.Output
import FormValidation.Report.Redaction
import FormValidation.Results

/-!
# Reports of checks

What is said about one record that was checked against a profile. As data a report holds the values as they are; for
people it is a list of sections in which secrets may be redacted.
-/

set_option autoImplicit false

namespace FormValidation

/-- The outcome of checking one record: the name of the profile, whether the record is accepted, the classification,
and the messages if they are asked for. -/
structure CheckReport where
  profile : String
  success : Bool
  results : ValidationResults
  messages : Option (FieldMap String) := none
  deriving DecidableEq

namespace CheckReport

/-- The report on results, with messages or without. -/
def ofResults (profile : String) (results : ValidationResults) (messages : Option (FieldMap String)) : CheckReport where
  profile
  success := results.success
  results
  messages

/-- The report as data. -/
def toJson (report : CheckReport) : Json :=
  let classification := match report.results.toJson with
    | .object members => members
    | _ => []
  let messages := match report.messages with
    | none => []
    | some texts => [("messages", Json.ofMap .string texts)]
  .object (("profile", .string report.profile) :: ("success", .bool report.success) :: classification ++ messages)

/-- A section: its title and its lines, or nothing if there are no lines. -/
def sectionLines (style : OutputStyle) (title : String) (lines : List String) : List String :=
  if lines.isEmpty then [] else style.ink .brightBlue ("=== " ++ title ++ " ===") :: lines.map fun line => "  " ++ line

/-- A line that says something about a name. -/
def namedLine (name text : String) : String := name ++ ": " ++ text

/-- The line that says whether the record is accepted. -/
def statusLine (style : OutputStyle) (report : CheckReport) : String :=
  let status :=
    if report.success then style.ink .green "✓ record accepted" else style.ink .red "✗ record rejected"
  "Profile '" ++ report.profile ++ "': " ++ status

/-- The valid values as they are shown. -/
def shownValues (redact : Bool) (report : CheckReport) : Record :=
  if redact then Redaction.redactRecord report.results.valid else report.results.valid

/-- The report for people, with secrets redacted or not. -/
def humanText (style : OutputStyle) (redact : Bool) (report : CheckReport) : String :=
  let results := report.results
  let messages := report.messages.getD FieldMap.empty
  "\n".intercalate (
    statusLine style report ::
    sectionLines style "Valid" ((shownValues redact report).entries.map fun e => namedLine e.1 e.2.text) ++
    sectionLines style "Missing" results.missing.keys ++
    sectionLines style "Invalid" (results.invalid.entries.map fun e => namedLine e.1 (", ".intercalate e.2)) ++
    sectionLines style "Unknown" results.unknown.keys ++
    sectionLines style "Messages" (messages.entries.map fun e => namedLine e.1 e.2))

/-- The report in the form of the output; only people need secrets redacted. -/
def text (style : OutputStyle) (redact : Bool) (report : CheckReport) : String :=
  match style.format with
  | .human => report.humanText style redact
  | format => format.write report.toJson

/-- The report as it is printed. -/
def output (style : OutputStyle) (redact : Bool) (report : CheckReport) : String :=
  style.format.endLine (report.text style redact)

end CheckReport

end FormValidation
