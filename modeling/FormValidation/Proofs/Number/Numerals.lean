import Mathlib.Algebra.Ring.Int.Defs
import Mathlib.Algebra.Ring.Nat
import FormValidation.Number.Integer
import FormValidation.Proofs.Text.Trimming

/-!
# Numerals

How integers are written: decimal digits, with a plus sign or not, and with a minus sign if they are below zero.
Reading takes exactly these texts, and of them those whose number fits into the machine word
(`readUnsigned?_eq_some_iff`, `readSigned?_eq_some_iff`). No numeral has a blank at its ends.
-/

set_option autoImplicit false

namespace FormValidation.Number

/-- A number written with decimal digits, at least one. -/
structure Digits (s : List Char) (n : Nat) : Prop where
  ne_nil : s ≠ []
  digits : ∀ c ∈ s, c.isDigit
  value : Nat.ofDigitChars 10 s 0 = n

/-- A natural number written with decimal digits, with a plus sign or not. -/
inductive Unsigned : List Char → Nat → Prop
  | bare {s : List Char} {n : Nat} (h : Digits s n) : Unsigned s n
  | plus {s : List Char} {n : Nat} (h : Digits s n) : Unsigned ('+' :: s) n

/-- An integer written with decimal digits, with a sign or not. -/
inductive Signed : List Char → Int → Prop
  | unsigned {s : List Char} {n : Nat} (h : Unsigned s n) : Signed s n
  | minus {s : List Char} {n : Nat} (h : Digits s n) : Signed ('-' :: s) (-n)

/-- The decimal text of a natural number is a numeral of it. -/
theorem digits_natText (n : Nat) : Digits (natText n).toList n := by
  have hlist : (natText n).toList = Nat.toDigits 10 n := String.toList_ofList
  rw [hlist]
  exact ⟨Nat.toDigits_ne_nil, fun c hc => Nat.isDigit_of_mem_toDigits (by decide) (by decide) hc,
    Nat.ofDigitChars_ten_toDigits⟩

/-! ## What numerals consist of -/

section Characters

variable {s : List Char} {c : Char}

/-- A digit is no blank. -/
theorem isBlank_of_isDigit (h : c.isDigit) : Text.isBlank c = false := by
  obtain ⟨hleast, hmost⟩ := Char.isDigit_iff_toNat.1 h
  have hall : ∀ n ≤ 57, 48 ≤ n → Text.inRanges n Text.Table.blank = false := by decide +kernel
  exact hall c.toNat hmost hleast

/-- A numeral is not empty. -/
theorem Signed.ne_nil {i : Int} (h : Signed s i) : s ≠ [] := by
  cases h with
  | unsigned h =>
    cases h with
    | bare h => exact h.ne_nil
    | plus h => exact List.cons_ne_nil _ _
  | minus h => exact List.cons_ne_nil _ _

/-- The characters of a numeral are digits and signs. -/
theorem Signed.digit_or_sign {i : Int} (h : Signed s i) (hc : c ∈ s) : c.isDigit ∨ c = '+' ∨ c = '-' := by
  cases h with
  | unsigned h =>
    cases h with
    | bare h => exact Or.inl (h.digits c hc)
    | plus h => exact (List.mem_cons.1 hc).symm.imp (h.digits c) Or.inl
  | minus h => exact (List.mem_cons.1 hc).symm.imp (h.digits c) Or.inr

/-- No character of a numeral is a blank. -/
theorem Signed.isBlank_eq_false {i : Int} (h : Signed s i) (hc : c ∈ s) : Text.isBlank c = false := by
  rcases h.digit_or_sign hc with hdigit | rfl | rfl
  · exact isBlank_of_isDigit hdigit
  · decide +kernel
  · decide +kernel

/-- A numeral has no blanks at its ends. -/
theorem Signed.trimmed {i : Int} (h : Signed s i) : Text.Trimmed s where
  head _ hc := h.isBlank_eq_false (List.mem_of_mem_head? hc)
  last _ hc := h.isBlank_eq_false (List.mem_of_mem_getLast? hc)

end Characters

/-! ## Reading digits -/

/-- The value of a digit is its distance from zero. -/
theorem digitValue?_eq_some_iff {c : Char} {d : Nat} :
    digitValue? c = some d ↔ c.isDigit ∧ c.toNat - '0'.toNat = d := by
  unfold digitValue?
  split
  next h => simp [h]
  next h => simp [h]

/-- Digits are read one by one, and a text with any other character is not. -/
theorem digitsFrom_eq_some_iff {value n : Nat} {s : List Char} :
    digitsFrom value s = some n ↔ (∀ c ∈ s, c.isDigit) ∧ Nat.ofDigitChars 10 s value = n := by
  induction s generalizing value with
  | nil => simp [digitsFrom]
  | cons c rest ih =>
    rw [digitsFrom, Option.bind_eq_some_iff, List.forall_mem_cons, Nat.ofDigitChars_cons]
    constructor
    · rintro ⟨d, hd, hrest⟩
      obtain ⟨hdigit, rfl⟩ := digitValue?_eq_some_iff.1 hd
      obtain ⟨hdigits, hvalue⟩ := ih.1 hrest
      exact ⟨⟨hdigit, hdigits⟩, hvalue⟩
    · rintro ⟨⟨hdigit, hdigits⟩, hvalue⟩
      exact ⟨_, digitValue?_eq_some_iff.2 ⟨hdigit, rfl⟩, ih.2 ⟨hdigits, hvalue⟩⟩

/-- What is read of digits is the number that they write. -/
theorem readDigits?_eq_some_iff {s : List Char} {n : Nat} : readDigits? s = some n ↔ Digits s n := by
  cases s with
  | nil =>
    constructor
    · rintro ⟨⟩
    · exact fun h => absurd rfl h.ne_nil
  | cons c rest =>
    have hread : readDigits? (c :: rest) = digitsFrom 0 (c :: rest) := rfl
    rw [hread, digitsFrom_eq_some_iff]
    exact ⟨fun h => ⟨List.cons_ne_nil _ _, h.1, h.2⟩, fun h => ⟨h.digits, h.value⟩⟩

/-! ## Reading integers -/

/-- What stands behind the plus sign of a number is its digits; without a plus sign, the number is. -/
theorem unsigned_iff {s : List Char} {n : Nat} :
    Unsigned s n ↔ Digits (match s with | '+' :: rest => rest | _ => s) n := by
  constructor
  · rintro (h | h)
    · split
      next rest => exact absurd (h.digits '+' List.mem_cons_self) (by decide)
      · exact h
    · exact h
  · intro h
    split at h
    · exact .plus h
    · exact .bare h

/-- An unsigned numeral is read exactly when its number fits. -/
theorem readUnsigned?_eq_some_iff {bits : Nat} {s : List Char} {n : Nat} :
    readUnsigned? bits s = some n ↔ Unsigned s n ∧ n < 2 ^ bits := by
  unfold readUnsigned?
  rw [unsigned_iff]
  simp only [Option.bind_eq_bind, Option.bind_eq_some_iff, readDigits?_eq_some_iff, Option.ite_none_right_eq_some,
    Option.some.injEq]
  constructor
  · rintro ⟨m, hdigits, hfits, rfl⟩
    exact ⟨hdigits, hfits⟩
  · rintro ⟨hdigits, hfits⟩
    exact ⟨n, hdigits, hfits, rfl⟩

/-- A number with a minus sign is read as the integer below zero, of which there is one more than above. -/
theorem readSigned?_minus_eq_some_iff {bits : Nat} {s : List Char} {i : Int} :
    readSigned? bits ('-' :: s) = some i ↔ ∃ n : Nat, Digits s n ∧ n ≤ 2 ^ (bits - 1) ∧ -(n : Int) = i := by
  have hread : readSigned? bits ('-' :: s) =
      (readDigits? s).bind fun n => if n ≤ twoTo (bits - 1) then some (-(n : Int)) else none := rfl
  simp only [hread, Option.bind_eq_some_iff, readDigits?_eq_some_iff, Option.ite_none_right_eq_some, Option.some.injEq]
  exact Iff.rfl

/-- A numeral without a minus sign is read exactly when its number fits. -/
theorem readSigned?_bare_eq_some_iff {bits : Nat} {s : List Char} {i : Int} (h : ∀ rest, s ≠ '-' :: rest) :
    readSigned? bits s = some i ↔ ∃ n : Nat, Unsigned s n ∧ n < 2 ^ (bits - 1) ∧ (n : Int) = i := by
  have hread : readSigned? bits s = (readUnsigned? (bits - 1) s).bind fun n => some (n : Int) := by
    unfold readSigned?
    split
    next rest => exact absurd rfl (h rest)
    · rfl
  simp only [hread, Option.bind_eq_some_iff, readUnsigned?_eq_some_iff, Option.some.injEq, and_assoc]

/-- An unsigned numeral does not begin with a minus sign. -/
theorem Unsigned.not_minus {s rest : List Char} {n : Nat} (h : Unsigned s n) : s ≠ '-' :: rest := by
  rintro rfl
  cases h with
  | bare h => exact absurd (h.digits '-' List.mem_cons_self) (by decide)

/-- A signed numeral is read exactly when its number fits. -/
theorem readSigned?_eq_some_iff {bits : Nat} {s : List Char} {i : Int} :
    readSigned? bits s = some i ↔ Signed s i ∧ -2 ^ (bits - 1) ≤ i ∧ i < 2 ^ (bits - 1) := by
  have hpos : (0 : Int) < 2 ^ (bits - 1) := Int.pow_pos (by decide)
  constructor
  · intro hread
    by_cases hminus : ∃ rest, s = '-' :: rest
    · obtain ⟨rest, rfl⟩ := hminus
      obtain ⟨n, hdigits, hfits, rfl⟩ := readSigned?_minus_eq_some_iff.1 hread
      have hfits' : (n : Int) ≤ 2 ^ (bits - 1) := by exact_mod_cast hfits
      exact ⟨.minus hdigits, by omega, by omega⟩
    · obtain ⟨n, hnumeral, hfits, rfl⟩ := (readSigned?_bare_eq_some_iff fun rest hs => hminus ⟨rest, hs⟩).1 hread
      have hfits' : (n : Int) < 2 ^ (bits - 1) := by exact_mod_cast hfits
      exact ⟨.unsigned hnumeral, by omega, hfits'⟩
  · rintro ⟨hsigned, hleast, hmost⟩
    cases hsigned with
    | @unsigned _ n h =>
      exact (readSigned?_bare_eq_some_iff fun rest => h.not_minus).2 ⟨n, h, by exact_mod_cast hmost, rfl⟩
    | @minus s n h =>
      have hfits : (n : Int) ≤ 2 ^ (bits - 1) := by omega
      exact readSigned?_minus_eq_some_iff.2 ⟨n, h, by exact_mod_cast hfits, rfl⟩

end FormValidation.Number
