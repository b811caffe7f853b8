import FormValidation.Fault

/-!
# Message formats

A format is a text with one placeholder `%s` for the message; `%%` stands for a percent sign. The placeholder is
replaced by the message as it is, whatever the message contains.
-/

set_option autoImplicit false

namespace FormValidation.MessageFormat

/-- The format with every placeholder replaced by a text, and the number of placeholders. -/
def substitute (text : List Char) : List Char → List Char × Nat
  | [] => ([], 0)
  | '%' :: '%' :: rest =>
    let (out, count) := substitute text rest
    ('%' :: out, count)
  | '%' :: 's' :: rest =>
    let (out, count) := substitute text rest
    (text ++ out, count + 1)
  | c :: rest =>
    let (out, count) := substitute text rest
    (c :: out, count)

/-- The message in its format; a format must have exactly one placeholder. -/
def apply (format text : String) : Except Fault String :=
  match substitute text.toList format.toList with
  | (out, 1) => .ok (String.ofList out)
  | _ => .error (.invalidMessageFormat format)

end FormValidation.MessageFormat
