import FormValidation.Report.Redaction

/-!
# The numbers of cards in a text

What counts as the number of a card is said here without regard to how numbers are looked for: nine to fifteen digits,
each with a gap behind it or without, and four digits more (`CardNumber`). The search reads digit by digit, so what is
left to be read of a number is described as well (`Completes`), for a number of digits read and the number of them that
are joined. The search finds the longest number that starts at the front of a text and ends where no character of a word
follows (`cardLength?_eq_some_iff`), and it finds nothing only where no number starts (`cardLength?_eq_none_iff`).
-/

set_option autoImplicit false

namespace FormValidation.Redaction

/-- A number of decimal digits, each of them with a gap behind it or without. -/
inductive SpacedDigits : Nat → List Char → Prop
  | nil : SpacedDigits 0 []
  | joined {n : Nat} {d : Char} {s : List Char} (hd : Text.isDecimalDigit d) (h : SpacedDigits n s) :
      SpacedDigits (n + 1) (d :: s)
  | apart {n : Nat} {d gap : Char} {s : List Char} (hd : Text.isDecimalDigit d) (hgap : isGap gap)
      (h : SpacedDigits n s) : SpacedDigits (n + 1) (d :: gap :: s)

/-- The number of a card: 13 to 19 digits, joined or set apart by single gaps, the last four of them joined. -/
inductive CardNumber : List Char → Prop
  | mk {n : Nat} {front last : List Char} (hfront : SpacedDigits n front) (hleast : 9 ≤ n) (hmost : n ≤ 15)
      (hlength : last.length = 4) (hlast : ∀ d ∈ last, Text.isDecimalDigit d) : CardNumber (front ++ last)

/-- What completes a number of which some digits have been read, the last `joined` of them without a gap. -/
inductive Completes : Nat → Nat → List Char → Prop
  | done {count joined : Nat} (hleast : 13 ≤ count) (hmost : count ≤ 19) (hjoined : 4 ≤ joined) :
      Completes count joined []
  | joined {count joined : Nat} {d : Char} {s : List Char} (hd : Text.isDecimalDigit d)
      (h : Completes (count + 1) (joined + 1) s) : Completes count joined (d :: s)
  | apart {count joined : Nat} {gap d : Char} {s : List Char} (hgap : isGap gap) (hd : Text.isDecimalDigit d)
      (h : Completes (count + 1) 1 s) : Completes count joined (gap :: d :: s)

/-! ## Digits and gaps -/

/-- A digit is a character of a word. -/
theorem isWordChar_of_isDecimalDigit {c : Char} (h : Text.isDecimalDigit c) : Text.isWordChar c = true := by
  simp [Text.isWordChar, h]

/-- A gap is no character of a word. -/
theorem isWordChar_of_isGap {c : Char} (h : isGap c) : Text.isWordChar c = false := by
  unfold isGap at h
  rw [Bool.or_eq_true, beq_iff_eq, beq_iff_eq] at h
  rcases h with rfl | rfl <;> decide +kernel

/-- A gap is no digit. -/
theorem isDecimalDigit_of_isGap {c : Char} (h : isGap c) : Text.isDecimalDigit c = false := by
  rw [Bool.eq_false_iff]
  intro hdigit
  have hword := isWordChar_of_isDecimalDigit hdigit
  rw [isWordChar_of_isGap h] at hword
  cases hword

/-! ## What is left to be read of a number -/

/-- No number goes on behind its nineteenth digit. -/
theorem Completes.count_le {count joined : Nat} {s : List Char} (h : Completes count joined s) : count ≤ 19 := by
  induction h with
  | done _ hmost _ => exact hmost
  | joined _ _ ih => omega
  | apart _ _ _ ih => omega

/-- Behind a digit that goes on with a number there is what completes it, with one digit more read. -/
theorem Completes.tail {count joined : Nat} {d : Char} {s : List Char} (hd : Text.isDecimalDigit d)
    (h : Completes count joined (d :: s)) : Completes (count + 1) (joined + 1) s := by
  cases h with
  | joined _ h => exact h
  | apart hgap _ _ =>
    rw [isDecimalDigit_of_isGap hgap] at hd
    cases hd

/-- What completes a number are digits and gaps. -/
theorem Completes.digit_or_gap {count joined : Nat} {s : List Char} (h : Completes count joined s) :
    ∀ c ∈ s, Text.isDecimalDigit c ∨ isGap c := by
  induction h with
  | done => simp
  | joined hd _ ih => exact List.forall_mem_cons.2 ⟨Or.inl hd, ih⟩
  | apart hgap hd _ ih => exact List.forall_mem_cons.2 ⟨Or.inr hgap, List.forall_mem_cons.2 ⟨Or.inl hd, ih⟩⟩

/-- What completes a number makes nineteen digits at most. -/
theorem Completes.count_digits_le {count joined : Nat} {s : List Char} (h : Completes count joined s) :
    count + s.countP Text.isDecimalDigit ≤ 19 := by
  induction h with
  | done _ hmost _ => exact hmost
  | joined hd _ ih =>
    rw [List.countP_cons_of_pos hd]
    omega
  | apart hgap hd _ ih =>
    rw [List.countP_cons_of_neg (by simp [isDecimalDigit_of_isGap hgap]), List.countP_cons_of_pos hd]
    omega

/-- There is a digit behind every gap. -/
theorem Completes.digit_behind_gap {count joined : Nat} {s front behind : List Char} {gap : Char}
    (h : Completes count joined s) (hsplit : s = front ++ gap :: behind) (hgap : isGap gap) :
    ∃ d others, behind = d :: others ∧ Text.isDecimalDigit d := by
  induction h generalizing front with
  | done => simp at hsplit
  | @joined _ _ d s hd _ ih =>
    cases front with
    | nil =>
      obtain ⟨rfl, -⟩ := List.cons.inj hsplit
      rw [isDecimalDigit_of_isGap hgap] at hd
      cases hd
    | cons e more => exact ih (List.cons.inj hsplit).2
  | @apart _ _ other d s _ hd _ ih =>
    match front with
    | [] =>
      obtain ⟨-, rfl⟩ := List.cons.inj hsplit
      exact ⟨d, s, rfl, hd⟩
    | [e] =>
      obtain ⟨rfl, -⟩ := List.cons.inj (List.cons.inj hsplit).2
      rw [isDecimalDigit_of_isGap hgap] at hd
      cases hd
    | e :: f :: more => exact ih (List.cons.inj (List.cons.inj hsplit).2).2

/-- Joined digits complete a number when they make the right number of digits, four of them joined. -/
theorem completes_digits {last : List Char} (hlast : ∀ d ∈ last, Text.isDecimalDigit d) {count joined : Nat}
    (hleast : 13 ≤ count + last.length) (hmost : count + last.length ≤ 19) (hjoined : 4 ≤ joined + last.length) :
    Completes count joined last := by
  induction last generalizing count joined with
  | nil => exact .done hleast hmost hjoined
  | cons d rest ih =>
    simp only [List.length_cons] at hleast hmost hjoined
    refine .joined (hlast d List.mem_cons_self) (ih (fun e he => hlast e (List.mem_cons_of_mem _ he)) ?_ ?_ ?_) <;> omega

/-- The front of a number begins with a digit, and so does the rest of it behind a gap. -/
theorem SpacedDigits.exists_head {n : Nat} {front last : List Char} (hfront : SpacedDigits n front)
    (hlength : last.length = 4) (hlast : ∀ d ∈ last, Text.isDecimalDigit d) :
    ∃ d rest, front ++ last = d :: rest ∧ Text.isDecimalDigit d := by
  cases hfront with
  | nil =>
    cases last with
    | nil => cases hlength
    | cons d rest => exact ⟨d, rest, rfl, hlast d List.mem_cons_self⟩
  | joined hd _ => exact ⟨_, _, rfl, hd⟩
  | apart hd _ _ => exact ⟨_, _, rfl, hd⟩

/-- Spaced digits with four joined ones behind them complete a number when they make the right number of digits. -/
theorem SpacedDigits.completes {n : Nat} {front last : List Char} (hfront : SpacedDigits n front)
    (hlength : last.length = 4) (hlast : ∀ d ∈ last, Text.isDecimalDigit d) {count joined : Nat}
    (hleast : 13 ≤ count + n + 4) (hmost : count + n + 4 ≤ 19) : Completes count joined (front ++ last) := by
  induction hfront generalizing count joined with
  | nil =>
    rw [List.nil_append]
    exact completes_digits hlast (by omega) (by omega) (hlength ▸ Nat.le_add_left _ _)
  | joined hd _ ih => exact .joined hd (ih (by omega) (by omega))
  | apart hd hgap hrest ih =>
    -- the gap belongs to the digit behind it, which starts joined digits anew
    obtain ⟨d, rest, hsplit, hdigit⟩ := hrest.exists_head hlength hlast
    have hnext : Completes (count + 1) 0 (d :: rest) := hsplit ▸ ih (by omega) (by omega)
    rw [List.cons_append, List.cons_append, hsplit]
    exact .joined hd (.apart hgap hdigit (hnext.tail hdigit))

/-- Joined digits before spaced ones are spaced digits. -/
theorem spacedDigits_append {digits s : List Char} {n : Nat} (hdigits : ∀ d ∈ digits, Text.isDecimalDigit d)
    (h : SpacedDigits n s) : SpacedDigits (digits.length + n) (digits ++ s) := by
  induction digits with
  | nil => rwa [List.length_nil, Nat.zero_add]
  | cons d rest ih =>
    rw [List.length_cons, Nat.add_right_comm]
    exact .joined (hdigits d List.mem_cons_self) (ih fun e he => hdigits e (List.mem_cons_of_mem _ he))

/-- The gap behind joined digits belongs to the last of them. -/
theorem spacedDigits_append_gap {digits s : List Char} {n : Nat} {gap : Char}
    (hdigits : ∀ d ∈ digits, Text.isDecimalDigit d) (hne : digits ≠ []) (hgap : isGap gap) (h : SpacedDigits n s) :
    SpacedDigits (digits.length + n) (digits ++ gap :: s) := by
  induction digits with
  | nil => exact absurd rfl hne
  | cons d rest ih =>
    have hd : Text.isDecimalDigit d := hdigits d List.mem_cons_self
    rw [List.length_cons, Nat.add_right_comm]
    cases rest with
    | nil =>
      rw [List.length_nil, Nat.zero_add]
      exact .apart hd hgap h
    | cons e more => exact .joined hd (ih (fun f hf => hdigits f (List.mem_cons_of_mem _ hf)) (List.cons_ne_nil e more))

/-- What completes a number makes one of the joined digits that were read last, together with those before them. -/
theorem Completes.exists_spacedDigits {count joined before : Nat} {digits s : List Char} (h : Completes count joined s)
    (hjoined : digits.length = joined) (hcount : count = before + joined) (hdigits : ∀ d ∈ digits, Text.isDecimalDigit d)
    (hne : digits ≠ []) :
    ∃ n front last, digits ++ s = front ++ last ∧ SpacedDigits n front ∧ last.length = 4 ∧
      (∀ d ∈ last, Text.isDecimalDigit d) ∧ 13 ≤ before + n + 4 ∧ before + n + 4 ≤ 19 := by
  induction h generalizing digits before with
  | @done count joined hleast hmost hfour =>
    have hfront : SpacedDigits (joined - 4) (digits.take (joined - 4)) := by
      have hfirst : ∀ d ∈ digits.take (joined - 4), Text.isDecimalDigit d := fun d hd =>
        hdigits d (List.mem_of_mem_take hd)
      have htaken := spacedDigits_append hfirst .nil
      rwa [List.append_nil, Nat.add_zero, List.length_take, hjoined, Nat.min_eq_left (Nat.sub_le _ _)] at htaken
    refine ⟨joined - 4, digits.take (joined - 4), digits.drop (joined - 4), ?_, hfront, ?_,
      fun d hd => hdigits d (List.mem_of_mem_drop hd), by omega, by omega⟩
    · rw [List.append_nil, List.take_append_drop]
    · rw [List.length_drop, hjoined]
      omega
  | @joined count joined d s hd _ ih =>
    have hmore : ∀ e ∈ digits ++ [d], Text.isDecimalDigit e := by
      intro e he
      rcases List.mem_append.1 he with he | he
      · exact hdigits e he
      · rwa [List.mem_singleton.1 he]
    have hread : (digits ++ [d]).length = joined + 1 := by simp [hjoined]
    have hcount' : count + 1 = before + (joined + 1) := by omega
    obtain ⟨n, front, last, hsplit, hnumber⟩ := ih hread hcount' hmore (by simp)
    exact ⟨n, front, last, by rw [← hsplit, List.append_assoc, List.singleton_append], hnumber⟩
  | @apart count joined gap d s hgap hd _ ih =>
    have hread : [d].length = 1 := rfl
    obtain ⟨n, front, last, hsplit, hfront, hlength, hlast, hleast, hmost⟩ :=
      ih hread rfl (by simpa using hd) (by simp)
    refine ⟨joined + n, digits ++ gap :: front, last, ?_, ?_, hlength, hlast, by omega, by omega⟩
    · rw [List.append_assoc, List.cons_append, ← hsplit]
      rfl
    · rw [← hjoined]
      exact spacedDigits_append_gap hdigits hne hgap hfront

/-- A number is a digit and what completes it. -/
theorem cardNumber_iff {s : List Char} :
    CardNumber s ↔ ∃ d rest, s = d :: rest ∧ Text.isDecimalDigit d ∧ Completes 1 1 rest := by
  constructor
  · rintro ⟨hfront, hleast, hmost, hlength, hlast⟩
    obtain ⟨d, rest, hsplit, hd⟩ := hfront.exists_head hlength hlast
    have hcompletes : Completes 0 0 (d :: rest) :=
      hsplit ▸ hfront.completes hlength hlast (by omega) (by omega)
    exact ⟨d, rest, hsplit, hd, hcompletes.tail hd⟩
  · rintro ⟨d, rest, rfl, hd, h⟩
    have hread : [d].length = 1 := rfl
    obtain ⟨n, front, last, hsplit, hfront, hlength, hlast, hleast, hmost⟩ :=
      h.exists_spacedDigits hread (Nat.zero_add 1).symm (by simpa using hd) (by simp)
    rw [List.singleton_append] at hsplit
    rw [hsplit]
    exact .mk hfront (by omega) (by omega) hlength hlast

namespace CardNumber

variable {card : List Char}

/-- A number consists of digits and gaps. -/
theorem digit_or_gap (h : CardNumber card) : ∀ c ∈ card, Text.isDecimalDigit c ∨ isGap c := by
  obtain ⟨d, rest, rfl, hd, hcompletes⟩ := cardNumber_iff.1 h
  exact List.forall_mem_cons.2 ⟨Or.inl hd, hcompletes.digit_or_gap⟩

/-- A number has nineteen digits at most. -/
theorem count_digits_le (h : CardNumber card) : card.countP Text.isDecimalDigit ≤ 19 := by
  obtain ⟨d, rest, rfl, hd, hcompletes⟩ := cardNumber_iff.1 h
  rw [List.countP_cons_of_pos hd, Nat.add_comm]
  exact hcompletes.count_digits_le

/-- There is a digit behind every gap of a number. -/
theorem digit_behind_gap (h : CardNumber card) {front behind : List Char} {gap : Char}
    (hsplit : card = front ++ gap :: behind) (hgap : isGap gap) :
    ∃ d others, behind = d :: others ∧ Text.isDecimalDigit d := by
  obtain ⟨d, rest, rfl, hd, hcompletes⟩ := cardNumber_iff.1 h
  cases front with
  | nil =>
    obtain ⟨rfl, -⟩ := List.cons.inj hsplit
    rw [isDecimalDigit_of_isGap hgap] at hd
    cases hd
  | cons e more => exact hcompletes.digit_behind_gap (List.cons.inj hsplit).2 hgap

/-- What is shown of a number are its last four digits. -/
theorem lastFour_digits (h : CardNumber card) : ∃ front, card = front ++ lastFour card ∧ (lastFour card).length = 4 ∧
    ∀ d ∈ lastFour card, Text.isDecimalDigit d := by
  cases h with
  | @mk n front last hfront hleast hmost hlength hlast =>
    have hshown : lastFour (front ++ last) = last := by
      rw [lastFour, List.length_append, hlength, Nat.add_sub_cancel, List.drop_left]
    rw [hshown]
    exact ⟨front, rfl, hlength, hlast⟩

/-- A number ends in a digit. -/
theorem exists_last (h : CardNumber card) : ∃ front d, card = front ++ [d] ∧ Text.isDecimalDigit d := by
  obtain ⟨front, hsplit, hlength, hdigits⟩ := h.lastFour_digits
  rcases List.eq_nil_or_concat (lastFour card) with hnil | ⟨others, d, hlast⟩
  · rw [hnil] at hlength
    cases hlength
  · refine ⟨front ++ others, d, ?_, hdigits d (by simp [hlast])⟩
    rw [List.append_assoc, ← List.concat_eq_append, ← hlast]
    exact hsplit

/-- A number is not empty. -/
theorem ne_nil (h : CardNumber card) : card ≠ [] := by
  obtain ⟨d, rest, rfl, -, -⟩ := cardNumber_iff.1 h
  exact List.cons_ne_nil d rest

end CardNumber

/-- From 13 to 19 joined digits are a number. -/
theorem cardNumber_of_digits {digits : List Char} (hleast : 13 ≤ digits.length) (hmost : digits.length ≤ 19)
    (h : ∀ d ∈ digits, Text.isDecimalDigit d) : CardNumber digits := by
  cases digits with
  | nil => cases hleast
  | cons d rest =>
    simp only [List.length_cons] at hleast hmost
    exact cardNumber_iff.2 ⟨d, rest, rfl, h d List.mem_cons_self,
      completes_digits (fun e he => h e (List.mem_cons_of_mem _ he)) (by omega) (by omega) (by omega)⟩

/-! ## The search -/

/-- How far a number goes on behind a character that belongs to it. -/
def furtherEnd (count joined : Nat) (c : Char) (rest : List Char) : Option Nat :=
  if 19 ≤ count then none
  else if Text.isDecimalDigit c then (cardEnd (count + 1) (joined + 1) rest).map fun n => n + 1
  else if isGap c then
    match rest with
    | d :: behind =>
      if Text.isDecimalDigit d then (cardEnd (count + 1) 1 behind).map fun n => n + 2 else none
    | [] => none
  else none

/-- What a search finds that may go on or stop: what it finds if it goes on, if that is anything. -/
def goOn (further stop : Option Nat) : Option Nat :=
  match further with
  | some n => some n
  | none => stop

/-- At the end of a text the search stops if it may. -/
theorem cardEnd_nil (count joined : Nat) :
    cardEnd count joined [] = if 13 ≤ count ∧ 4 ≤ joined then some 0 else none := rfl

/-- The search goes on as far as it can before it considers to stop. -/
theorem cardEnd_cons (count joined : Nat) (c : Char) (rest : List Char) :
    cardEnd count joined (c :: rest) =
      (furtherEnd count joined c rest).or
        (if 13 ≤ count ∧ 4 ≤ joined ∧ !Text.isWordChar c then some 0 else none) := by
  have hcases : cardEnd count joined (c :: rest) =
      goOn (furtherEnd count joined c rest) (if 13 ≤ count ∧ 4 ≤ joined ∧ !Text.isWordChar c then some 0 else none) := by
    unfold goOn
    cases rest <;> rfl
  rw [hcases]
  cases furtherEnd count joined c rest <;> rfl

/-- A number goes on with a digit as far as behind it. -/
theorem furtherEnd_digit {count joined : Nat} {d : Char} {rest : List Char} (hd : Text.isDecimalDigit d)
    (hcount : count < 19) :
    furtherEnd count joined d rest = (cardEnd (count + 1) (joined + 1) rest).map fun n => n + 1 := by
  unfold furtherEnd
  rw [if_neg (Nat.not_le.2 hcount), if_pos hd]

/-- A number goes on with a gap and a digit as far as behind them. -/
theorem furtherEnd_gap {count joined : Nat} {gap d : Char} {behind : List Char} (hgap : isGap gap)
    (hd : Text.isDecimalDigit d) (hcount : count < 19) :
    furtherEnd count joined gap (d :: behind) = (cardEnd (count + 1) 1 behind).map fun n => n + 2 := by
  unfold furtherEnd
  rw [if_neg (Nat.not_le.2 hcount), if_neg (by simp [isDecimalDigit_of_isGap hgap]), if_pos hgap]
  exact if_pos hd

/-- The search finds a number that is at least as long as any that stands there. -/
theorem Completes.exists_cardEnd {count joined : Nat} {card rest : List Char} (h : Completes count joined card)
    (hstop : wordAhead rest = false) : ∃ n, cardEnd count joined (card ++ rest) = some n ∧ card.length ≤ n := by
  induction h with
  | done hleast _ hjoined =>
    cases rest with
    | nil => exact ⟨0, if_pos ⟨hleast, hjoined⟩, Nat.le_refl 0⟩
    | cons c behind =>
      have hword : Text.isWordChar c = false := by simpa [wordAhead] using hstop
      rw [List.nil_append, cardEnd_cons, if_pos ⟨hleast, hjoined, by simp [hword]⟩]
      cases furtherEnd _ _ c behind with
      | none => exact ⟨0, rfl, Nat.le_refl 0⟩
      | some n => exact ⟨n, rfl, Nat.zero_le n⟩
  | joined hd h ih =>
    obtain ⟨n, hn, hlength⟩ := ih
    refine ⟨n + 1, ?_, Nat.succ_le_succ hlength⟩
    rw [List.cons_append, cardEnd_cons, furtherEnd_digit hd h.count_le, hn]
    rfl
  | apart hgap hd h ih =>
    obtain ⟨n, hn, hlength⟩ := ih
    refine ⟨n + 2, ?_, Nat.add_le_add_right hlength 2⟩
    rw [List.cons_append, List.cons_append, cardEnd_cons, furtherEnd_gap hgap hd h.count_le, hn]
    rfl

/-- A number goes on with a digit, or with a gap and a digit. -/
theorem of_furtherEnd_eq_some {count joined n : Nat} {c : Char} {rest : List Char}
    (h : furtherEnd count joined c rest = some n) : count < 19 ∧
      ((Text.isDecimalDigit c ∧ ∃ m, cardEnd (count + 1) (joined + 1) rest = some m ∧ n = m + 1) ∨
        (isGap c ∧ ∃ d behind m, rest = d :: behind ∧ Text.isDecimalDigit d ∧
          cardEnd (count + 1) 1 behind = some m ∧ n = m + 2)) := by
  unfold furtherEnd at h
  split at h
  · cases h
  next hcount =>
    refine ⟨Nat.not_le.1 hcount, ?_⟩
    split at h
    next hdigit =>
      obtain ⟨m, hm, rfl⟩ := Option.map_eq_some_iff.1 h
      exact Or.inl ⟨hdigit, m, hm, rfl⟩
    · split at h
      next hgap =>
        split at h
        next d behind =>
          split at h
          next hdigit =>
            obtain ⟨m, hm, rfl⟩ := Option.map_eq_some_iff.1 h
            exact Or.inr ⟨hgap, d, behind, m, rfl, hdigit, hm, rfl⟩
          · cases h
        · cases h
      · cases h

/-- What the search finds is what completes a number, and no character of a word follows it. -/
theorem exists_completes_of_cardEnd {count joined n : Nat} {s : List Char} (hcount : count ≤ 19)
    (h : cardEnd count joined s = some n) :
    ∃ card rest, s = card ++ rest ∧ card.length = n ∧ Completes count joined card ∧ wordAhead rest = false := by
  induction hlength : s.length using Nat.strongRecOn generalizing count joined n s with
  | _ length ih =>
    cases s with
    | nil =>
      rw [cardEnd_nil] at h
      split at h
      next hend =>
        cases h
        exact ⟨[], [], rfl, rfl, .done hend.1 hcount hend.2, rfl⟩
      · cases h
    | cons c rest =>
      rw [cardEnd_cons, Option.or_eq_some_iff] at h
      rcases h with h | ⟨-, h⟩
      · obtain ⟨hless, ⟨hdigit, m, hm, rfl⟩ | ⟨hgap, d, behind, m, rfl, hdigit, hm, rfl⟩⟩ := of_furtherEnd_eq_some h
        · obtain ⟨card, after, rfl, rfl, hcompletes, hstop⟩ := ih rest.length (by simp [← hlength]) hless hm rfl
          exact ⟨c :: card, after, rfl, rfl, .joined hdigit hcompletes, hstop⟩
        · obtain ⟨card, after, rfl, rfl, hcompletes, hstop⟩ :=
            ih behind.length (by simp only [← hlength, List.length_cons]; omega) hless hm rfl
          exact ⟨c :: d :: card, after, rfl, rfl, .apart hgap hdigit hcompletes, hstop⟩
      · split at h
        next hend =>
          cases h
          exact ⟨[], c :: rest, rfl, rfl, .done hend.1 hcount hend.2.1, by simpa [wordAhead] using hend.2.2⟩
        · cases h

/-- A number of a card at the front of a text, as a word of its own: `before` tells whether a character of a word stands
before the text. -/
structure CardAhead (before : Bool) (card rest : List Char) : Prop where
  number : CardNumber card
  start : before = false
  stop : wordAhead rest = false

/-- The search finds a number when there is one, and one that is no shorter. -/
theorem CardAhead.exists_cardLength? {before : Bool} {card rest : List Char} (h : CardAhead before card rest) :
    ∃ n, cardLength? before (card ++ rest) = some n ∧ card.length ≤ n := by
  obtain ⟨d, digits, rfl, hd, hcompletes⟩ := cardNumber_iff.1 h.number
  obtain ⟨n, hn, hlength⟩ := hcompletes.exists_cardEnd h.stop
  refine ⟨n + 1, ?_, Nat.succ_le_succ hlength⟩
  rw [List.cons_append, cardLength?, if_pos (by simp [h.start, hd]), hn]
  rfl

/-- What the search finds is a number. -/
theorem exists_cardAhead_of_cardLength? {before : Bool} {n : Nat} {s : List Char} (h : cardLength? before s = some n) :
    ∃ card rest, s = card ++ rest ∧ card.length = n ∧ CardAhead before card rest := by
  cases s with
  | nil => cases h
  | cons d digits =>
    rw [cardLength?] at h
    split at h
    next hstart =>
      rw [Bool.and_eq_true, Bool.not_eq_true'] at hstart
      obtain ⟨m, hm, rfl⟩ := Option.map_eq_some_iff.1 h
      obtain ⟨card, rest, rfl, rfl, hcompletes, hstop⟩ := exists_completes_of_cardEnd (by decide) hm
      exact ⟨d :: card, rest, rfl, rfl, cardNumber_iff.2 ⟨d, card, rfl, hstart.2, hcompletes⟩, hstart.1, hstop⟩
    · cases h

/-- The longest number of a card at the front of a text, as a word of its own. -/
structure LongestCard (before : Bool) (card rest : List Char) : Prop extends CardAhead before card rest where
  longest : ∀ other behind, card ++ rest = other ++ behind → CardAhead before other behind →
    other.length ≤ card.length

/-- The search finds the longest number. -/
theorem cardLength?_eq_some_iff {before : Bool} {n : Nat} {s : List Char} :
    cardLength? before s = some n ↔
      ∃ card rest, s = card ++ rest ∧ card.length = n ∧ LongestCard before card rest := by
  constructor
  · intro h
    obtain ⟨card, rest, rfl, rfl, hcard⟩ := exists_cardAhead_of_cardLength? h
    refine ⟨card, rest, rfl, rfl, hcard, fun other behind hother hahead => ?_⟩
    obtain ⟨m, hm, hle⟩ := hahead.exists_cardLength?
    rw [← hother, h] at hm
    cases hm
    exact hle
  · rintro ⟨card, rest, rfl, rfl, hcard⟩
    obtain ⟨n, hn, hle⟩ := hcard.exists_cardLength?
    obtain ⟨other, behind, hsplit, rfl, hother⟩ := exists_cardAhead_of_cardLength? hn
    rw [hn, Nat.le_antisymm (hcard.longest other behind hsplit hother) hle]

/-- The search finds nothing where no number starts. -/
theorem cardLength?_eq_none_iff {before : Bool} {s : List Char} :
    cardLength? before s = none ↔ ∀ card rest, s = card ++ rest → ¬ CardAhead before card rest := by
  constructor
  · rintro h card rest rfl hcard
    obtain ⟨n, hn, -⟩ := hcard.exists_cardLength?
    rw [h] at hn
    cases hn
  · intro hnone
    rw [Option.eq_none_iff_forall_not_mem]
    intro n hn
    obtain ⟨card, rest, hsplit, -, hcard⟩ := exists_cardAhead_of_cardLength? hn
    exact hnone card rest hsplit hcard

end FormValidation.Redaction
