import FormValidation.Host.Script
import FormValidation.Registry.Cards

/-!
# The day of a point in time

Days are counted from the first of March of the year 0, so that the day that a leap year adds comes last; an era of 400
years has a fixed number of days.
-/

set_option autoImplicit false

namespace FormValidation

/-- The nanoseconds of a day. -/
def dayLength : Timestamp := 86400 * 1000000000

/-- The days from the first of March of the year 0 to the first of January 1970. -/
def daysBeforeEpoch : Int := 719468

/-- The number of whole years, counted from a first of March, that a day of an era lies in. -/
def yearOfEra (day : Nat) : Nat := (day - day / 1460 + day / 36524 - day / 146096) / 365

/-- The date of a number of days since the first of March of the year 0. -/
def Date.ofDays (days : Int) : Date :=
  let era := days.fdiv 146097
  let day := (days - era * 146097).toNat
  let year := yearOfEra day
  let dayOfYear := day - (365 * year + year / 4 - year / 100)
  let month := (5 * dayOfYear + 2) / 153
  let turned := 10 ≤ month
  { year := (year : Int) + era * 400 + (if turned then 1 else 0)
    month := if turned then month - 9 else month + 3
    day := dayOfYear - (153 * month + 2) / 5 + 1 }

/-- The date of a point in time. -/
def Date.ofTimestamp (time : Timestamp) : Date := Date.ofDays (time.fdiv dayLength + daysBeforeEpoch)

end FormValidation
