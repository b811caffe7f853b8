import FormValidation.Proofs.Number.Numerals
import FormValidation.Registry.Cards

/-!
# The expiry of cards

An expiry date is a month and a year with a slash between them, and blanks are allowed around both. Which texts these
are is said by how integers are written (`ExpiryDate`), and reading takes exactly them (`readExpiry?_eq_some_iff`). A
card with such a date is good up to the end of its month, so expiry cuts time in two (`notExpired_cuts_time`).
-/

set_option autoImplicit false

namespace FormValidation

/-- Days in the order of the calendar. -/
instance : LE Date where
  le d e := d.year < e.year ∨ d.year = e.year ∧ (d.month < e.month ∨ d.month = e.month ∧ d.day ≤ e.day)

/-- Dates are ordered by year, then by month, then by day. -/
theorem Date.le_iff {d e : Date} : d ≤ e ↔
    d.year < e.year ∨ d.year = e.year ∧ (d.month < e.month ∨ d.month = e.month ∧ d.day ≤ e.day) := Iff.rfl

namespace Card

/-- A month and a year with a slash between them and nothing but blanks around them. -/
inductive Written : List Char → Nat → Int → Prop
  | mk {front back m y : List Char} {month : Nat} {year : Int} (hfront : Text.Padded front m)
      (hmonth : Number.Unsigned m month) (hback : Text.Padded back y) (hyear : Number.Signed y year) :
      Written (front ++ '/' :: back) month year

/-- A text that is an expiry date: its month is one of twelve, and its year fits into 32 bits. -/
structure ExpiryDate (text : String) (month : Nat) (year : Int) : Prop where
  written : Written text.toList month year
  first : 1 ≤ month
  last : month ≤ 12
  least : -2 ^ 31 ≤ year
  most : year < 2 ^ 31

/-! ## Reading -/

/-- There is no slash in a numeral and the blanks behind it. -/
theorem slash_not_mem {m blanks : List Char} {month : Int} (h : Number.Signed m month)
    (hblanks : ∀ c ∈ blanks, Text.isBlank c) : '/' ∉ m ++ blanks := by
  intro hmem
  rcases List.mem_append.1 hmem with hnumeral | hblank
  · rcases h.digit_or_sign hnumeral with hdigit | hplus | hminus
    · exact absurd hdigit (by decide)
    · exact absurd hplus (by decide)
    · exact absurd hminus (by decide)
  · exact absurd (hblanks '/' hblank) (by decide +kernel)

/-- What trimming leaves of a month and a year is cut at the slash between them. -/
theorem Written.exists_split {s : List Char} {month : Nat} {year : Int} (h : Written s month year) :
    ∃ front back, Text.splitAtFirst? '/' (Text.trim s) = some (front, back) ∧
      Number.Unsigned (Text.trim front) month ∧ Number.Signed (Text.trim back) year := by
  obtain @⟨_, _, m, y, month, year, hfront, hmonth, hback, hyear⟩ := h
  obtain @⟨a, _, b, ha, hb⟩ := hfront
  obtain @⟨c, _, d, hc, hd⟩ := hback
  have hsigned : Number.Signed m month := .unsigned hmonth
  have htrimmed : Text.Trimmed (m ++ (b ++ '/' :: c) ++ y) :=
    hsigned.trimmed.append hsigned.ne_nil hyear.trimmed hyear.ne_nil _
  have hpadded : Text.Padded (a ++ (m ++ (b ++ '/' :: c) ++ y) ++ d) (m ++ (b ++ '/' :: c) ++ y) := .mk ha hd
  have htrim : Text.trim (a ++ m ++ b ++ '/' :: (c ++ y ++ d)) = m ++ b ++ '/' :: (c ++ y) := by
    simpa using hpadded.trim_eq htrimmed
  refine ⟨m ++ b, c ++ y, ?_, ?_, ?_⟩
  · rw [htrim]
    exact Text.splitAtFirst?_eq_some_iff.2 ⟨rfl, slash_not_mem hsigned hb⟩
  · rwa [((Text.padded_self m).append_blank hb).trim_eq hsigned.trimmed]
  · rwa [((Text.padded_self y).blank_append hc).trim_eq hyear.trimmed]

/-- A text that splits at its first slash into two numerals is written in this way. -/
theorem written_of_split {s front back : List Char} {month : Nat} {year : Int}
    (hsplit : Text.splitAtFirst? '/' (Text.trim s) = some (front, back))
    (hmonth : Number.Unsigned (Text.trim front) month) (hyear : Number.Signed (Text.trim back) year) :
    Written s month year := by
  obtain ⟨hmiddle, -⟩ := Text.splitAtFirst?_eq_some_iff.1 hsplit
  have hpadded := Text.padded_trim s
  rw [hmiddle] at hpadded
  cases hpadded with
  | @mk before _ behind hbefore hbehind =>
    have hwritten : Written (before ++ front ++ '/' :: (back ++ behind)) month year :=
      .mk ((Text.padded_trim front).blank_append hbefore) hmonth ((Text.padded_trim back).append_blank hbehind) hyear
    simpa using hwritten

/-- Reading takes exactly the expiry dates. -/
theorem readExpiry?_eq_some_iff {text : String} {month : Nat} {year : Int} :
    readExpiry? text = some (month, year) ↔ ExpiryDate text month year := by
  unfold readExpiry?
  simp only [Option.bind_eq_bind, Option.bind_eq_some_iff, Prod.exists]
  constructor
  · rintro ⟨front, back, hsplit, m, hmonth, y, hyear, hread⟩
    split at hread
    next hbounds =>
      cases hread
      obtain ⟨hmonth, -⟩ := Number.readUnsigned?_eq_some_iff.1 hmonth
      obtain ⟨hyear, hleast, hmost⟩ := Number.readSigned?_eq_some_iff.1 hyear
      exact ⟨written_of_split hsplit hmonth hyear, hbounds.1, hbounds.2, hleast, hmost⟩
    · cases hread
  · rintro ⟨hwritten, hfirst, hlast, hleast, hmost⟩
    obtain ⟨front, back, hsplit, hmonth, hyear⟩ := hwritten.exists_split
    exact ⟨front, back, hsplit, month, Number.readUnsigned?_eq_some_iff.2 ⟨hmonth, by omega⟩, year,
      Number.readSigned?_eq_some_iff.2 ⟨hyear, hleast, hmost⟩, if_pos ⟨hfirst, hlast⟩⟩

/-! ## Expiry -/

/-- A text is accepted on a day exactly when it is the date of a month that is that of the day or later. -/
theorem notExpired_iff {text : String} {d : Date} : notExpired text d ↔ ∃ month year, ExpiryDate text month year ∧
    (d.year < fullYear year ∨ d.year = fullYear year ∧ d.month ≤ month) := by
  unfold notExpired
  split
  next hnone =>
    constructor
    · rintro ⟨⟩
    · rintro ⟨month, year, hdate, -⟩
      rw [readExpiry?_eq_some_iff.2 hdate] at hnone
      cases hnone
  next month year hread =>
    rw [Bool.or_eq_true_iff, Bool.and_eq_true_iff, decide_eq_true_eq, decide_eq_true_eq, beq_iff_eq,
      eq_comm (a := fullYear year)]
    constructor
    · exact fun h => ⟨month, year, readExpiry?_eq_some_iff.1 hread, h⟩
    · rintro ⟨m, y, hdate, h⟩
      rw [readExpiry?_eq_some_iff.2 hdate] at hread
      cases hread
      exact h

/-- What has not expired on a day had not expired before. -/
theorem notExpired_of_le {text : String} {d e : Date} (hle : d ≤ e) (h : notExpired text e) : notExpired text d := by
  obtain ⟨month, year, hdate, hexpiry⟩ := notExpired_iff.1 h
  rw [Date.le_iff] at hle
  exact notExpired_iff.2 ⟨month, year, hdate, by omega⟩

/-- Days of the same month give the same answer. -/
theorem notExpired_congr {text : String} {d e : Date} (hyear : d.year = e.year) (hmonth : d.month = e.month) :
    notExpired text d = notExpired text e := by
  rw [Bool.eq_iff_iff, notExpired_iff, notExpired_iff, hyear, hmonth]

/-- Of an expiry date, the month and the year that it means decide. -/
theorem ExpiryDate.notExpired_iff {text : String} {month : Nat} {year : Int} (h : ExpiryDate text month year)
    {d : Date} : notExpired text d ↔ d.year < fullYear year ∨ d.year = fullYear year ∧ d.month ≤ month := by
  rw [Card.notExpired_iff]
  constructor
  · rintro ⟨m, y, hdate, hexpiry⟩
    have hsame := (readExpiry?_eq_some_iff.2 h).symm.trans (readExpiry?_eq_some_iff.2 hdate)
    cases hsame
    exact hexpiry
  · exact fun hexpiry => ⟨month, year, h, hexpiry⟩

/-- The year that is meant is found by one addition, which stays within 32 bits. -/
theorem fullYear_range {year : Int} (hleast : -2 ^ 31 ≤ year) (hmost : year < 2 ^ 31) :
    -2 ^ 31 ≤ fullYear year ∧ fullYear year < 2 ^ 31 := by
  unfold fullYear
  split
  · split <;> omega
  · exact ⟨hleast, hmost⟩

/-- Expiry is a cut in time. A text that is accepted on a day is accepted on every day before it, and days of one month
are alike. An expiry date, a month from 1 to 12 and a year of 32 bits, is accepted up to its month of the year that it
means: the year itself from 100 on, and below that a year from 1970 to 1999, or one from 2069 downwards. The year that
is meant has 32 bits as well. Every other text is rejected on every day. -/
theorem notExpired_cuts_time :
    (∀ (text : String) (d e : Date), d ≤ e → notExpired text e → notExpired text d) ∧
    (∀ (text : String) (d e : Date), d.year = e.year → d.month = e.month →
      notExpired text d = notExpired text e) ∧
    (∀ (text : String) (month : Nat) (year : Int), ExpiryDate text month year → ∃ full : Int,
      (100 ≤ year → full = year) ∧ (70 ≤ year → year < 100 → full = year + 1900) ∧
      (year < 70 → full = year + 2000) ∧ (-2 ^ 31 ≤ full ∧ full < 2 ^ 31) ∧
      ∀ d, notExpired text d ↔ d.year < full ∨ d.year = full ∧ d.month ≤ month) ∧
    ∀ text : String, (∀ month year, ¬ ExpiryDate text month year) → ∀ d, notExpired text d = false := by
  refine ⟨fun text d e => notExpired_of_le, fun text d e => notExpired_congr, fun text month year hdate => ?_,
    fun text hnone d => ?_⟩
  · refine ⟨fullYear year, ?_, ?_, ?_, fullYear_range hdate.least hdate.most, fun d => hdate.notExpired_iff⟩
    · intro h
      exact if_neg (by omega)
    · intro h h'
      rw [fullYear, if_pos h', if_neg (by omega)]
    · intro h
      rw [fullYear, if_pos (by omega), if_pos h]
  · rw [Bool.eq_false_iff]
    intro haccepted
    obtain ⟨month, year, hdate, -⟩ := notExpired_iff.1 haccepted
    exact hnone month year hdate

/-- A card that ends with June is good to the last day of June, and a text without a slash never is. -/
theorem notExpired_cuts_time_june :
    notExpired " 06 / +25" ⟨2025, 6, 30⟩ ∧ notExpired " 06 / +25" ⟨2024, 12, 31⟩ ∧
    notExpired " 06 / +25" ⟨2025, 6, 1⟩ = notExpired " 06 / +25" ⟨2025, 6, 30⟩ ∧
    (∀ d, notExpired " 06 / +25" d ↔ d.year < 2025 ∨ d.year = 2025 ∧ d.month ≤ 6) ∧
    ∀ d, notExpired "0630" d = false := by
  have hjune : ExpiryDate " 06 / +25" 6 25 := readExpiry?_eq_some_iff.1 (by decide +kernel)
  have hlast : notExpired " 06 / +25" ⟨2025, 6, 30⟩ := by decide +kernel
  have hbefore : (⟨2024, 12, 31⟩ : Date) ≤ ⟨2025, 6, 30⟩ := Or.inl (by decide)
  refine ⟨hlast, notExpired_cuts_time.1 _ _ _ hbefore hlast, notExpired_cuts_time.2.1 _ _ _ rfl rfl, ?_, ?_⟩
  · obtain ⟨full, -, -, hfull, -, hverdict⟩ := notExpired_cuts_time.2.2.1 _ _ _ hjune
    rw [hfull (by decide)] at hverdict
    exact hverdict
  · have hnone : ∀ month year, ¬ ExpiryDate "0630" month year := fun month year h => by
      have hread := readExpiry?_eq_some_iff.2 h
      rw [show readExpiry? "0630" = none by decide +kernel] at hread
      cases hread
    exact notExpired_cuts_time.2.2.2 _ hnone

end Card

end FormValidation
