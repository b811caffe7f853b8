import FormValidation.Message.Formatter

/-!
# What a format does to a message

A format is read from left to right as pieces: characters, with `%%` for a percent sign, and places for the message
(`MessageFormat.pieces`). Reading it does not look at the message. So a format with exactly one place for the message is
accepted for every message and all others are for none (`MessageFormat.apply_eq`), and what is checked with the empty
message when a configuration is accepted holds for each message that is made later (`Messages.wrap_of_accepted`).
-/

set_option autoImplicit false

namespace FormValidation

namespace MessageFormat

/-- What a format consists of. -/
inductive Piece where
  | char (c : Char)
  | placeholder
  deriving DecidableEq, Repr

/-- The pieces of a format. -/
def pieces : List Char → List Piece
  | [] => []
  | '%' :: '%' :: rest => .char '%' :: pieces rest
  | '%' :: 's' :: rest => .placeholder :: pieces rest
  | c :: rest => .char c :: pieces rest

/-- A piece as it comes out with a message. -/
def Piece.filled (text : List Char) : Piece → List Char
  | char c => [c]
  | placeholder => text

/-- There is exactly one place for the message. -/
def WellFormed (format : String) : Prop := (pieces format.toList).count .placeholder = 1

instance (format : String) : Decidable (WellFormed format) := inferInstanceAs (Decidable (_ = _))

/-- The pieces of a format, put together with a message in its places. -/
def fill (format text : String) : String :=
  String.ofList ((pieces format.toList).flatMap (Piece.filled text.toList))

/-- Substitution fills the pieces of a format and counts its placeholders. -/
theorem substitute_eq (text format : List Char) :
    substitute text format = ((pieces format).flatMap (Piece.filled text), (pieces format).count .placeholder) := by
  fun_induction pieces format with
  | case1 => rfl
  | case2 rest ih =>
    rw [substitute, ih]
    rfl
  | case3 rest ih =>
    rw [substitute, ih]
    simp [Piece.filled]
  | case4 c rest hpercent hplace ih =>
    rw [substitute, ih]
    · simp [Piece.filled]
    · exact hpercent
    · exact hplace

/-- A format with one placeholder is filled, and any other one refused. -/
theorem apply_eq (format text : String) :
    apply format text =
      if WellFormed format then .ok (fill format text) else .error (.invalidMessageFormat format) := by
  unfold apply
  rw [substitute_eq]
  by_cases hformat : WellFormed format
  · have hone : (pieces format.toList).count .placeholder = 1 := hformat
    rw [if_pos hformat, hone]
    rfl
  · rw [if_neg hformat]
    split
    next hcount => exact absurd (Prod.mk.inj hcount).2 hformat
    next => rfl

end MessageFormat

namespace Messages

open MessageFormat

/-- The default format has one placeholder. -/
theorem wellFormed_defaultFormat : WellFormed defaultFormat := by decide

variable {c : MessageConfig}

/-- A configuration is accepted unless it sets a format that is not well formed. -/
theorem checkConfig_eq_ok_iff : checkConfig c = .ok () ↔ ∀ format, c.format = some format → WellFormed format := by
  unfold checkConfig
  cases hformat : c.format with
  | none => simp
  | some format =>
    dsimp only
    rw [apply_eq]
    by_cases hwell : WellFormed format <;> simp [hwell]

/-- A configuration is refused for a format that is not well formed. -/
theorem checkConfig_eq_error_iff (fault : Fault) :
    checkConfig c = .error fault ↔
      ∃ format, c.format = some format ∧ ¬ WellFormed format ∧ fault = .invalidMessageFormat format := by
  unfold checkConfig
  cases hformat : c.format with
  | none => simp
  | some format =>
    dsimp only
    rw [apply_eq]
    by_cases hwell : WellFormed format <;> simp [hwell, eq_comm]

/-- A configuration that is accepted has a format for every message. -/
theorem wrap_of_accepted (h : checkConfig c = .ok ()) (text : String) :
    wrap c text = .ok (fill (c.format.getD defaultFormat) text) := by
  have hwell : WellFormed (c.format.getD defaultFormat) := by
    cases hformat : c.format with
    | none => exact wellFormed_defaultFormat
    | some format => exact checkConfig_eq_ok_iff.1 h format hformat
  rw [wrap, apply_eq, if_pos hwell]

end Messages

end FormValidation
