import FormValidation.Proofs.Report.Masking

/-!
# Numbers that are not shown

What is shown of a text has no run of 13 to 19 digits that is a word of its own, so no value of a field that is not
secret shows one (`redactText_hides_numbers`). Such a run of the text lies in a number that is masked, the longest one
from the place where it starts, and the last four digits of this number are shown: they are those of the run, unless
more digits follow it behind a gap. Long runs of digits that do not stand by themselves are not masked
(`asciiRun_shown`).
-/

set_option autoImplicit false

namespace FormValidation.Redaction

/-- Whether a text has a run of 13 to 19 decimal digits, of any script, that is a word of its own. -/
def ShowsNumber (text : String) : Prop :=
  ∃ front run back, text.toList = front ++ run ++ back ∧ LoneNumber false front run back

variable {front run back : List Char}

/-- A run that is a word of its own has no digits on either side. -/
theorem LoneNumber.digitRun {before : Bool} (h : LoneNumber before front run back) : DigitRun front run back where
  ne_nil := List.length_pos_iff.1 (Nat.lt_of_lt_of_le (by decide) h.least)
  digits := h.digits
  start := not_digit_of_endsInWord h.start
  stop := not_digit_of_wordAhead h.stop

/-- A long run of digits that is part of the number of a card is a word of its own. -/
theorem loneNumber_of_cardAhead {before : Bool} {joined more behind : List Char}
    (hcard : CardAhead (endsInWord before front) (joined ++ run ++ more) behind)
    (hrun : DigitRun (front ++ joined) run (more ++ behind)) (hleast : 13 ≤ run.length) :
    LoneNumber before (front ++ joined) run (more ++ behind) := by
  have hgap : ∀ c ∈ joined ++ run ++ more, Text.isDecimalDigit c = false → Text.isWordChar c = false := by
    intro c hc hdigit
    rcases hcard.number.digit_or_gap c hc with h | h
    · rw [hdigit] at h
      cases h
    · exact isWordChar_of_isGap h
  refine ⟨hleast, ?_, hrun.digits, ?_, ?_⟩
  · have hcount := hcard.number.count_digits_le
    rw [List.countP_append, List.countP_append, List.countP_eq_length.2 hrun.digits] at hcount
    omega
  · rw [endsInWord_append, hcard.start]
    rcases List.eq_nil_or_concat joined with rfl | ⟨others, c, rfl⟩
    · rfl
    · rw [List.concat_eq_append, endsInWord_append]
      exact hgap c (by simp) (hrun.start c (by simp))
  · cases more with
    | nil => exact hcard.stop
    | cons c others => simpa [wordAhead] using hgap c (by simp) (hrun.stop c rfl)

/-- The last four digits of a long run and what follows it are those of the whole number. -/
theorem lastFour_append {joined : List Char} (h : 4 ≤ run.length) : lastFour (joined ++ run) = lastFour run := by
  rw [lastFour, lastFour, List.length_append, Nat.add_sub_assoc h, List.drop_length_add_append]

/-- A text with a run of digits that is a word of its own has the number masked to which the run belongs. -/
theorem maskCards_of_loneNumber (h : LoneNumber false front run back) :
    ∃ before joined more behind, front = before ++ joined ∧ back = more ++ behind ∧
      LongestCard (endsInWord false before) (joined ++ run ++ more) behind ∧
      (more = [] ∨ ∃ gap d others, more = gap :: d :: others ∧ isGap gap ∧ Text.isDecimalDigit d) ∧
      maskCards false 0 (front ++ run ++ back) =
        maskCards false 0 before ++ (mask.toList ++ lastFour (run ++ more)) ++ maskCards false 0 behind := by
  have hcases := (masking_iff.2 rfl : Masking false (front ++ run ++ back) _).run_cases rfl h.digitRun
  generalize hmasked : maskCards false 0 (front ++ run ++ back) = t at hcases
  cases hcases with
  | shown hlone _ _ => exact absurd h hlone
  | @masked before joined more behind shown rest hcard hfront hback =>
    refine ⟨before, joined, more, behind, rfl, rfl, hcard, ?_, ?_⟩
    · cases more with
      | nil => exact Or.inl rfl
      | cons gap others =>
        have hgap : isGap gap := by
          rcases hcard.number.digit_or_gap gap (by simp) with hdigit | hgap
          · rw [h.digitRun.stop gap rfl] at hdigit
            cases hdigit
          · exact hgap
        obtain ⟨d, rest, rfl, hd⟩ := hcard.number.digit_behind_gap rfl hgap
        exact Or.inr ⟨gap, d, rest, rfl, hgap, hd⟩
    · rw [hfront.maskCards_eq, ← hback.maskCards_eq, List.append_assoc joined,
        lastFour_append (by rw [List.length_append]; have := h.least; omega),
        maskCards_congr (not_digit_of_wordAhead hcard.stop) true false]

/-- A text with another long run of digits has the run as it is. -/
theorem maskCards_of_not_loneNumber (hrun : DigitRun front run back) (hleast : 13 ≤ run.length)
    (h : ¬ LoneNumber false front run back) :
    maskCards false 0 (front ++ run ++ back) = maskCards false 0 front ++ run ++ maskCards false 0 back := by
  have hcases := (masking_iff.2 rfl : Masking false (front ++ run ++ back) _).run_cases rfl hrun
  generalize hmasked : maskCards false 0 (front ++ run ++ back) = t at hcases
  cases hcases with
  | shown _ hfront hback =>
    rw [hfront.maskCards_eq, ← hback.maskCards_eq, maskCards_congr hrun.stop true false]
  | masked hcard _ _ => exact absurd (loneNumber_of_cardAhead hcard.toCardAhead hrun hleast) h

/-- A redacted text shows no number. -/
theorem not_showsNumber_redactText (text : String) : ¬ ShowsNumber (redactText text) := by
  rintro ⟨front, run, back, hsplit, hlone⟩
  rw [redactText, String.toList_ofList] at hsplit
  exact (masking_iff.2 rfl : Masking false text.toList _).not_loneNumber hsplit hlone

/-- Redaction hides the numbers of cards. A text is read from the left: where a number starts, the longest one is masked
but for its last four digits, and all other characters are kept. So a run of 13 to 19 digits that is a word of its own
lies in a number that is masked, the longest from its start, which goes on behind the run with a gap and a digit or not
at all. A long run of digits that is no such word stays as it is. What stands before and behind is redacted as if it
stood alone. So a redacted text has no run of 13 to 19 digits that is a word of its own, and no element of a value that
is not secret has one. -/
theorem redactText_hides_numbers :
    (∀ text shown, Masking false text.toList shown ↔ (redactText text).toList = shown) ∧
    (∀ front run back, LoneNumber false front run back → ∃ before joined more behind, front = before ++ joined ∧
      back = more ++ behind ∧ LongestCard (endsInWord false before) (joined ++ run ++ more) behind ∧
      (more = [] ∨ ∃ gap d others, more = gap :: d :: others ∧ isGap gap ∧ Text.isDecimalDigit d) ∧
      redactText (String.ofList (front ++ run ++ back)) = redactText (String.ofList before) ++
        (mask ++ String.ofList (lastFour (run ++ more))) ++ redactText (String.ofList behind)) ∧
    (∀ front run back, DigitRun front run back → 13 ≤ run.length → ¬ LoneNumber false front run back →
      redactText (String.ofList (front ++ run ++ back)) =
        redactText (String.ofList front) ++ String.ofList run ++ redactText (String.ofList back)) ∧
    (∀ text, ¬ ShowsNumber (redactText text)) ∧
    ∀ record name value, (redactRecord record).get? name = some value → isSensitive name = false →
      ∀ element ∈ value.elements, ¬ ShowsNumber element := by
  refine ⟨fun text shown => ?_, fun front run back h => ?_, fun front run back hrun hleast h => ?_,
    not_showsNumber_redactText, fun record name value hvalue hopen element helement => ?_⟩
  · rw [masking_iff, redactText, String.toList_ofList]
  · obtain ⟨before, joined, more, behind, hfront, hback, hcard, hmore, hmasked⟩ := maskCards_of_loneNumber h
    refine ⟨before, joined, more, behind, hfront, hback, hcard, hmore, ?_⟩
    simp only [redactText, String.toList_ofList]
    rw [hmasked, String.ofList_append, String.ofList_append, String.ofList_append, String.ofList_toList]
  · simp only [redactText, String.toList_ofList]
    rw [maskCards_of_not_loneNumber hrun hleast h, String.ofList_append, String.ofList_append]
  · rw [redactRecord, FieldMap.get?_mapWithKey] at hvalue
    obtain ⟨original, -, rfl⟩ := Option.map_eq_some_iff.1 hvalue
    rw [redactValue, hopen, FieldValue.elements_map] at helement
    obtain ⟨text, -, rfl⟩ := List.mem_map.1 helement
    exact not_showsNumber_redactText text

/-- A number whose digits are set apart before its end is masked to its end, a number behind a letter is shown, and a
field that is not secret shows no number. -/
theorem redactText_hides_numbers_receipt :
    LoneNumber false "".toList "411111111111111".toList " 1234 paid".toList ∧
    redactText "411111111111111 1234 paid" = mask ++ "1234" ++ redactText " paid" ∧
    redactText "x4111111111111111" = redactText "x" ++ "4111111111111111" ++ redactText "" ∧
    ¬ ShowsNumber "***1111" := by
  have hlone : LoneNumber false "".toList "411111111111111".toList " 1234 paid".toList :=
    ⟨by decide, by decide, List.all_eq_true.1 (by decide +kernel), by decide +kernel, by decide +kernel⟩
  have hjoined : ¬ LoneNumber false "x".toList "4111111111111111".toList "".toList := by
    intro h
    have hstart := h.start
    revert hstart
    decide +kernel
  obtain ⟨-, hmasked, hkept, -, hrecord⟩ := redactText_hides_numbers
  have hrun : DigitRun "x".toList "4111111111111111".toList "".toList := by
    refine ⟨by decide, List.all_eq_true.1 (by decide +kernel), fun c hc => ?_, fun c hc => ?_⟩
    · cases hc
      decide +kernel
    · cases hc
  have hword := hkept _ _ _ hrun (by decide) hjoined
  rw [show String.ofList ("x".toList ++ "4111111111111111".toList ++ "".toList) = "x4111111111111111" by
    decide +kernel, String.ofList_toList, String.ofList_toList, String.ofList_toList] at hword
  refine ⟨hlone, ?_, hword, ?_⟩
  · obtain ⟨before, joined, more, behind, hfront, hback, hcard, -, htext⟩ := hmasked _ _ _ hlone
    obtain ⟨rfl, rfl⟩ := List.append_eq_nil_iff.1 hfront.symm
    -- the longest number goes on behind the run, as far as its last four digits
    have hlength := cardLength?_eq_some_iff.2 ⟨_, behind, rfl, rfl, hcard⟩
    rw [List.append_assoc, ← hback,
      show cardLength? _ ([] ++ "411111111111111".toList ++ " 1234 paid".toList) = some 20 by decide +kernel,
      Option.some.injEq, List.length_append] at hlength
    have hmore : more.length = " 1234".toList.length := Nat.add_left_cancel hlength.symm
    have hsplit : more ++ behind = " 1234".toList ++ " paid".toList := hback.symm
    obtain ⟨rfl, rfl⟩ := List.append_inj hsplit hmore
    exact htext
  · exact hrecord (FieldMap.ofList [("note", .scalar "4111111111111111")]) "note" (.scalar "***1111") (by decide +kernel)
      (by decide +kernel) "***1111" List.mem_cons_self

/-- A run of 13 to 19 digits from 0 to 9, with other characters or none on both sides. -/
structure AsciiRun (front run back : List Char) : Prop where
  least : 13 ≤ run.length
  most : run.length ≤ 19
  digits : ∀ d ∈ run, d.isDigit
  start : ∀ c ∈ front.getLast?, c.isDigit = false
  stop : ∀ c ∈ back.head?, c.isDigit = false

/-- A run of digits behind a letter is shown, and when other digits follow a run behind a blank, the last four digits
that are shown are not those of the run. -/
theorem asciiRun_shown :
    (AsciiRun "x".toList "4111111111111111".toList "".toList ∧
      (redactText "x4111111111111111").toList = "x".toList ++ "4111111111111111".toList ++ "".toList) ∧
    AsciiRun "".toList "411111111111111".toList " 1234".toList ∧
      ¬ (mask ++ "1111").toList <:+: (redactText "411111111111111 1234").toList := by
  refine ⟨⟨⟨by decide, by decide, List.all_eq_true.1 (by decide), fun c hc => ?_, fun c hc => ?_⟩, by decide +kernel⟩,
    ⟨by decide, by decide, List.all_eq_true.1 (by decide), fun c hc => ?_, fun c hc => ?_⟩, by decide +kernel⟩
  · cases hc
    rfl
  · cases hc
  · cases hc
  · cases hc
    rfl

end FormValidation.Redaction
