import FormValidation.Text.Case

/-!
# Capitals of letters and digits

The tables of characters are lists of ranges of code points. That no decimal digit of any script has a capital or is a
blank follows from comparing the ranges of the tables instead of their code points (`not_inRange_of_apart`). The letters
from A to Z are few enough to be looked at one by one.
-/

set_option autoImplicit false

namespace FormValidation.Text

/-! ## Ranges -/

/-- Whether a code point lies in a range. -/
def InRange (point : Nat) (range : Nat × Nat) : Prop := range.1 ≤ point ∧ point ≤ range.2

/-- A point that is found in a table lies in one of its ranges. -/
theorem exists_range_of_inRanges {table : List (Nat × Nat)} {point : Nat} (h : inRanges point table) :
    ∃ range ∈ table, InRange point range := by
  induction table with
  | nil => cases h
  | cons range rest ih =>
    rw [inRanges] at h
    split at h
    · cases h
    next hfirst =>
      split at h
      next hlast => exact ⟨range, List.mem_cons_self, Nat.not_lt.1 hfirst, hlast⟩
      · obtain ⟨found, hfound, hin⟩ := ih h
        exact ⟨found, List.mem_cons_of_mem _ hfound, hin⟩

/-- A point that lies in none of the runs is not shifted. -/
theorem shiftedBy_eq_none {runs : List (Nat × Nat × Nat × Int)} {point : Nat}
    (h : ∀ run ∈ runs, ¬ InRange point (run.1, run.2.1)) : shiftedBy point runs = none := by
  induction runs with
  | nil => rfl
  | cons run rest ih =>
    obtain ⟨first, last, step, shift⟩ := run
    have hrun : ¬ InRange point (first, last) := h _ List.mem_cons_self
    rw [shiftedBy]
    split
    · rfl
    next hfirst =>
      have hlast : ¬ point ≤ last := fun hlast => hrun ⟨Nat.not_lt.1 hfirst, hlast⟩
      rw [if_neg (by simp [hlast])]
      exact ih fun other hother => h other (List.mem_cons_of_mem _ hother)

/-- Where the ranges of two tables do not meet, no code point of the one lies in a range of the other. -/
theorem not_inRange_of_apart {table others : List (Nat × Nat)}
    (hapart : table.all fun range => others.all fun other => other.2 < range.1 || range.2 < other.1) {point : Nat}
    (h : inRanges point table) : ∀ other ∈ others, ¬ InRange point other := by
  obtain ⟨range, hrange, hfirst, hlast⟩ := exists_range_of_inRanges h
  intro other hother ⟨hfirst', hlast'⟩
  have hdisjoint := List.all_eq_true.1 (List.all_eq_true.1 hapart range hrange) other hother
  simp only [Bool.or_eq_true, decide_eq_true_eq] at hdisjoint
  omega

/-! ## Decimal digits -/

/-- A digit is no blank. -/
theorem isBlank_of_isDecimalDigit {c : Char} (h : isDecimalDigit c) : isBlank c = false := by
  have hnot : ∀ range ∈ Table.blank, ¬ InRange c.toNat range := not_inRange_of_apart (by decide +kernel) h
  rw [Bool.eq_false_iff]
  intro hblank
  obtain ⟨range, hrange, hin⟩ := exists_range_of_inRanges hblank
  exact hnot range hrange hin

/-- A decimal digit is its own capital. -/
theorem upperChar_of_isDecimalDigit {c : Char} (h : isDecimalDigit c) : upperChar c = [c] := by
  have hruns : ∀ range ∈ Table.toUpperRuns.map fun run => (run.1, run.2.1), ¬ InRange c.toNat range :=
    not_inRange_of_apart (by decide +kernel) h
  have hlong : ∀ range ∈ Table.toUpperLong.map fun e => (e.1, e.1), ¬ InRange c.toNat range :=
    not_inRange_of_apart (by decide +kernel) h
  have hnone : shiftedBy c.toNat Table.toUpperRuns = none :=
    shiftedBy_eq_none fun run hrun => hruns _ (List.mem_map_of_mem hrun)
  have hnone' : Table.toUpperLong.find? (fun e => e.1 == c.toNat) = none := by
    refine List.find?_eq_none.2 fun e he heq => hlong (e.1, e.1) (List.mem_map_of_mem (f := fun e => (e.1, e.1)) he) ?_
    have hpoint : e.1 = c.toNat := beq_iff_eq.1 heq
    exact ⟨Nat.le_of_eq hpoint, Nat.le_of_eq hpoint.symm⟩
  rw [upperChar, mapCase, hnone, hnone']

/-! ## Letters from A to Z -/

/-- What holds of the letters among the first 128 characters holds of all letters from A to Z. -/
theorem of_isAlpha {P : Char → Prop} (hall : ∀ n < 128, (Char.ofNat n).isAlpha → P (Char.ofNat n)) {c : Char}
    (h : c.isAlpha) : P c := by
  have hsmall : c.toNat < 128 := by
    rcases Bool.or_eq_true_iff.1 h with hupper | hlower
    · have hletter : 65 ≤ c.toNat ∧ c.toNat ≤ 90 := of_decide_eq_true hupper
      omega
    · have hlast : c.toNat ≤ 122 := of_decide_eq_true (Bool.and_eq_true_iff.1 hlower).2
      omega
  have hc := hall c.toNat hsmall
  rw [Char.ofNat_toNat] at hc
  exact hc h

/-- A letter from A to Z is no blank. -/
theorem isBlank_of_isAlpha {c : Char} (h : c.isAlpha) : isBlank c = false :=
  of_isAlpha (P := fun c => isBlank c = false) (by decide +kernel) h

/-- A letter from A to Z has the usual capital. -/
theorem upperChar_of_isAlpha {c : Char} (h : c.isAlpha) : upperChar c = [c.toUpper] :=
  of_isAlpha (P := fun c => upperChar c = [c.toUpper]) (by decide +kernel) h

/-- The capital of a letter from A to Z is such a letter. -/
theorem isAlpha_toUpper {c : Char} (h : c.isAlpha) : c.toUpper.isAlpha :=
  of_isAlpha (P := fun c => c.toUpper.isAlpha) (by decide +kernel) h

/-- The capital of a capital is the capital. -/
theorem toUpper_toUpper_of_isAlpha {c : Char} (h : c.isAlpha) : c.toUpper.toUpper = c.toUpper :=
  of_isAlpha (P := fun c => c.toUpper.toUpper = c.toUpper) (by decide +kernel) h

end FormValidation.Text
