import FormValidation.Proofs.Report.CardNumbers

/-!
# Masking

How a text is masked is a relation between the text and what is shown of it (`Masking`): at every place where a number of
a card starts, the longest one is masked, and all other characters are shown. The relation says the same as the scan
(`masking_iff`), and it is what is reasoned about. A run of digits in a text is shown as a whole, or it is part of one
number that is masked, and what stands before and behind it is masked as if it stood alone (`Masking.run_cases`). The
former happens to no run of 13 to 19 digits that is a word of its own, so no such run is shown (`Masking.not_loneNumber`).
-/

set_option autoImplicit false

namespace FormValidation.Redaction

/-- Whether a text ends in a character of a word; of the empty text it is `before` that tells. -/
def endsInWord (before : Bool) : List Char → Bool
  | [] => before
  | c :: rest => endsInWord (Text.isWordChar c) rest

/-- How a text is masked: `before` tells whether a character of a word stands before the text. -/
inductive Masking : Bool → List Char → List Char → Prop
  | nil (before : Bool) : Masking before [] []
  | shown {before : Bool} {c : Char} {s t : List Char}
      (hnone : ∀ card rest, c :: s = card ++ rest → ¬ CardAhead before card rest)
      (h : Masking (Text.isWordChar c) s t) : Masking before (c :: s) (c :: t)
  | masked {before : Bool} {card rest t : List Char} (hcard : LongestCard before card rest)
      (h : Masking true rest t) : Masking before (card ++ rest) (mask.toList ++ lastFour card ++ t)

/-- A run of decimal digits in a text, with other characters or none on both sides. -/
structure DigitRun (front run back : List Char) : Prop where
  ne_nil : run ≠ []
  digits : ∀ d ∈ run, Text.isDecimalDigit d
  start : ∀ c ∈ front.getLast?, Text.isDecimalDigit c = false
  stop : ∀ c ∈ back.head?, Text.isDecimalDigit c = false

/-- A run of 13 to 19 decimal digits that is a word of its own. -/
structure LoneNumber (before : Bool) (front run back : List Char) : Prop where
  least : 13 ≤ run.length
  most : run.length ≤ 19
  digits : ∀ d ∈ run, Text.isDecimalDigit d
  start : endsInWord before front = false
  stop : wordAhead back = false

/-! ## Ends of words -/

/-- Of two texts one after the other it is the second that tells, unless it is empty. -/
theorem endsInWord_append (before : Bool) (s t : List Char) :
    endsInWord before (s ++ t) = endsInWord (endsInWord before s) t := by
  induction s generalizing before with
  | nil => rfl
  | cons c rest ih => exact ih (Text.isWordChar c)

/-- Digits end in a character of a word. -/
theorem endsInWord_of_digits (before : Bool) {digits : List Char} (h : ∀ d ∈ digits, Text.isDecimalDigit d)
    (hne : digits ≠ []) : endsInWord before digits = true := by
  induction digits generalizing before with
  | nil => exact absurd rfl hne
  | cons d rest ih =>
    have hword := isWordChar_of_isDecimalDigit (h d List.mem_cons_self)
    cases rest with
    | nil => exact hword
    | cons e more => exact ih true (fun f hf => h f (List.mem_cons_of_mem _ hf)) (List.cons_ne_nil e more)

/-- A text that does not end in a character of a word does not end in a digit. -/
theorem not_digit_of_endsInWord {before : Bool} {s : List Char} (h : endsInWord before s = false) :
    ∀ c ∈ s.getLast?, Text.isDecimalDigit c = false := by
  intro c hc
  obtain ⟨front, rfl⟩ := List.getLast?_eq_some_iff.1 hc
  rw [endsInWord_append] at h
  rw [Bool.eq_false_iff]
  intro hdigit
  have hword : Text.isWordChar c = false := h
  rw [isWordChar_of_isDecimalDigit hdigit] at hword
  cases hword

/-- A text that begins with a digit begins with a character of a word. -/
theorem wordAhead_of_digit {d : Char} (hd : Text.isDecimalDigit d) (rest : List Char) :
    wordAhead (d :: rest) = true := by
  simp [wordAhead, isWordChar_of_isDecimalDigit hd]

/-- A text that does not begin with a character of a word does not begin with a digit. -/
theorem not_digit_of_wordAhead {s : List Char} (h : wordAhead s = false) :
    ∀ c ∈ s.head?, Text.isDecimalDigit c = false := by
  intro c hc
  obtain ⟨rest, rfl⟩ := List.head?_eq_some_iff.1 hc
  rw [Bool.eq_false_iff]
  intro hdigit
  rw [wordAhead_of_digit hdigit] at h
  cases h

/-- A number ends in a character of a word. -/
theorem CardNumber.endsInWord {card : List Char} (h : CardNumber card) (before : Bool) :
    Redaction.endsInWord before card = true := by
  obtain ⟨front, d, rfl, hd⟩ := h.exists_last
  rw [endsInWord_append]
  exact isWordChar_of_isDecimalDigit hd

/-- A number that stands in a text by itself also stands there when more text follows, unless the text ends in a digit. -/
theorem CardAhead.append {before : Bool} {card rest : List Char} (h : CardAhead before card rest)
    (hlast : ∀ c ∈ (card ++ rest).getLast?, Text.isDecimalDigit c = false) (more : List Char) :
    CardAhead before card (rest ++ more) := by
  refine ⟨h.number, h.start, ?_⟩
  cases rest with
  | nil =>
    obtain ⟨front, d, rfl, hd⟩ := h.number.exists_last
    have hdigit : Text.isDecimalDigit d = false := hlast d (by simp)
    rw [hd] at hdigit
    cases hdigit
  | cons c behind => exact h.stop

/-! ## The scan -/

/-- The characters of a number that was masked are skipped. -/
theorem maskCards_skip (before : Bool) (skipped rest : List Char) :
    maskCards before skipped.length (skipped ++ rest) = maskCards (endsInWord before skipped) 0 rest := by
  induction skipped generalizing before with
  | nil => rfl
  | cons c more ih => exact ih (Text.isWordChar c)

/-- Where no number is found the character is shown. -/
theorem maskCards_of_none {before : Bool} {c : Char} {rest : List Char}
    (h : cardLength? before (c :: rest) = none) :
    maskCards before 0 (c :: rest) = c :: maskCards (Text.isWordChar c) 0 rest := by
  rw [maskCards, h]

/-- Where a number is found it is masked, and the scan goes on behind it. -/
theorem maskCards_of_some {before : Bool} {card rest : List Char} (hcard : CardNumber card)
    (h : cardLength? before (card ++ rest) = some card.length) :
    maskCards before 0 (card ++ rest) = mask.toList ++ lastFour card ++ maskCards true 0 rest := by
  have hword := hcard.endsInWord before
  cases card with
  | nil => exact absurd rfl hcard.ne_nil
  | cons d digits =>
    rw [List.cons_append] at h ⊢
    rw [maskCards, h]
    show mask.toList ++ lastFour ((d :: (digits ++ rest)).take (d :: digits).length) ++
      maskCards (Text.isWordChar d) digits.length (digits ++ rest) = _
    rw [maskCards_skip, ← List.cons_append, List.take_left]
    rw [show Redaction.endsInWord (Text.isWordChar d) digits = true from hword]

/-- A text is masked as the scan masks it. -/
theorem Masking.maskCards_eq {before : Bool} {s t : List Char} (h : Masking before s t) : maskCards before 0 s = t := by
  induction h with
  | nil => rfl
  | shown hnone _ ih => rw [maskCards_of_none (cardLength?_eq_none_iff.2 hnone), ih]
  | @masked before card rest t hcard _ ih =>
    rw [maskCards_of_some hcard.number (cardLength?_eq_some_iff.2 ⟨card, rest, rfl, rfl, hcard⟩), ih]

/-- Every text can be masked. -/
theorem exists_masking (before : Bool) (s : List Char) : ∃ t, Masking before s t := by
  induction hlength : s.length using Nat.strongRecOn generalizing before s with
  | _ length ih =>
    cases s with
    | nil => exact ⟨[], .nil before⟩
    | cons c rest =>
      cases hfound : cardLength? before (c :: rest) with
      | none =>
        obtain ⟨t, ht⟩ := ih rest.length (by simp [← hlength]) (Text.isWordChar c) rest rfl
        exact ⟨c :: t, .shown (cardLength?_eq_none_iff.1 hfound) ht⟩
      | some n =>
        obtain ⟨card, behind, hsplit, rfl, hcard⟩ := cardLength?_eq_some_iff.1 hfound
        have hshorter : behind.length < length := by
          have hpositive : 0 < card.length := List.length_pos_iff.2 hcard.number.ne_nil
          rw [← hlength, hsplit, List.length_append]
          omega
        obtain ⟨t, ht⟩ := ih behind.length hshorter true behind rfl
        rw [hsplit]
        exact ⟨_, .masked hcard ht⟩

/-- The relation is what the scan computes. -/
theorem masking_iff {before : Bool} {s t : List Char} : Masking before s t ↔ maskCards before 0 s = t := by
  refine ⟨Masking.maskCards_eq, fun h => ?_⟩
  obtain ⟨other, hother⟩ := exists_masking before s
  rwa [← h, hother.maskCards_eq]

/-- What stands before a text matters only when the text begins with a digit. -/
theorem maskCards_congr {s : List Char} (h : ∀ c ∈ s.head?, Text.isDecimalDigit c = false) (before other : Bool) :
    maskCards before 0 s = maskCards other 0 s := by
  cases s with
  | nil => rfl
  | cons c rest =>
    have hdigit : Text.isDecimalDigit c = false := h c rfl
    have hnone : ∀ before, cardLength? before (c :: rest) = none := fun before => by simp [cardLength?, hdigit]
    rw [maskCards_of_none (hnone before), maskCards_of_none (hnone other)]

/-! ## Runs of digits -/

/-- Behind a character of a word the next character is shown. -/
theorem Masking.after_word {before : Bool} {s t : List Char} (h : Masking before s t) (hbefore : before = true) :
    (s = [] ∧ t = []) ∨ ∃ c rest shown, s = c :: rest ∧ t = c :: shown ∧ Masking (Text.isWordChar c) rest shown := by
  cases h with
  | nil => exact Or.inl ⟨rfl, rfl⟩
  | shown _ h => exact Or.inr ⟨_, _, _, rfl, rfl, h⟩
  | masked hcard _ =>
    rw [hcard.start] at hbefore
    cases hbefore

/-- Behind a character of a word digits are shown, and what is shown of digits are the digits. -/
theorem Masking.digits_after_word {digits s t : List Char} (hdigits : ∀ d ∈ digits, Text.isDecimalDigit d)
    (h : Masking true s t) :
    (∀ back, s = digits ++ back → ∃ tail, t = digits ++ tail ∧ Masking true back tail) ∧
      ∀ tail, t = digits ++ tail → ∃ back, s = digits ++ back ∧ Masking true back tail := by
  induction digits generalizing s t with
  | nil =>
    refine ⟨?_, ?_⟩
    · rintro back rfl
      exact ⟨t, rfl, h⟩
    · rintro tail rfl
      exact ⟨s, rfl, h⟩
  | cons d rest ih =>
    have hword := isWordChar_of_isDecimalDigit (hdigits d List.mem_cons_self)
    have hrest : ∀ e ∈ rest, Text.isDecimalDigit e := fun e he => hdigits e (List.mem_cons_of_mem _ he)
    rcases h.after_word rfl with ⟨rfl, rfl⟩ | ⟨c, more, shown, rfl, rfl, hmore⟩
    · exact ⟨fun back hback => (List.cons_ne_nil _ _ hback.symm).elim,
        fun tail htail => (List.cons_ne_nil _ _ htail.symm).elim⟩
    · refine ⟨fun back hback => ?_, fun tail htail => ?_⟩
      · obtain ⟨rfl, rfl⟩ := List.cons.inj hback
        rw [hword] at hmore
        obtain ⟨tail, rfl, htail⟩ := (ih hrest hmore).1 back rfl
        exact ⟨tail, rfl, htail⟩
      · obtain ⟨rfl, rfl⟩ := List.cons.inj htail
        rw [hword] at hmore
        obtain ⟨back, rfl, hback⟩ := (ih hrest hmore).2 tail rfl
        exact ⟨back, rfl, hback⟩

/-- Behind a character of a word, what is shown begins with a word when the text does. -/
theorem Masking.wordAhead_eq {s t : List Char} (h : Masking true s t) : wordAhead t = wordAhead s := by
  rcases h.after_word rfl with ⟨rfl, rfl⟩ | ⟨c, rest, shown, rfl, rfl, -⟩ <;> rfl

/-- A run that is a word of its own does not begin in a text of fewer characters that is followed by no word. -/
theorem LoneNumber.behind_short {before : Bool} {short t front run back : List Char}
    (h : LoneNumber before front run back) (hsplit : short ++ t = front ++ run ++ back) (hshort : short.length < 13)
    (hstop : wordAhead t = false) : ∃ more, front = short ++ more ∧ t = more ++ run ++ back := by
  rw [List.append_assoc front] at hsplit
  rcases List.append_eq_append_iff.1 hsplit with ⟨more, hfront, ht⟩ | ⟨more, hends, hrun⟩
  · exact ⟨more, hfront, by rw [ht, List.append_assoc]⟩
  · -- it would go on behind the short text, and it goes on with digits only
    have hless : more.length < run.length := by
      have hleast := h.least
      rw [hends, List.length_append] at hshort
      omega
    rcases List.append_eq_append_iff.1 hrun with ⟨rest, hmore, -⟩ | ⟨rest, hdigits, ht⟩
    · rw [hmore, List.length_append] at hless
      omega
    · cases rest with
      | nil =>
        rw [hdigits, List.append_nil] at hless
        exact absurd hless (Nat.lt_irrefl _)
      | cons d digits =>
        rw [ht, List.cons_append, wordAhead_of_digit (h.digits d (by simp [hdigits]))] at hstop
        cases hstop

/-- No run of 13 to 19 digits that is a word of its own is shown. -/
theorem Masking.not_loneNumber {before : Bool} {s t : List Char} (h : Masking before s t) {front run back : List Char}
    (hsplit : t = front ++ run ++ back) : ¬ LoneNumber before front run back := by
  induction h generalizing front with
  | nil =>
    intro hlone
    have hnil : run = [] := by simp_all
    have hleast := hlone.least
    rw [hnil] at hleast
    cases hleast
  | @shown before c s t hnone h ih =>
    intro hlone
    cases front with
    | cons d more =>
      obtain ⟨rfl, hrest⟩ := List.cons.inj hsplit
      exact ih hrest ⟨hlone.least, hlone.most, hlone.digits, hlone.start, hlone.stop⟩
    | nil =>
      -- the number would start here in the text as well, and it would have been masked
      cases run with
      | nil => cases hlone.least
      | cons d digits =>
        obtain ⟨rfl, rfl⟩ := List.cons.inj hsplit
        have hdigits : ∀ e ∈ digits, Text.isDecimalDigit e := fun e he => hlone.digits e (List.mem_cons_of_mem _ he)
        rw [isWordChar_of_isDecimalDigit (hlone.digits c List.mem_cons_self)] at h
        obtain ⟨behind, rfl, hbehind⟩ := (h.digits_after_word hdigits).2 back rfl
        refine hnone (c :: digits) behind rfl ⟨cardNumber_of_digits hlone.least hlone.most hlone.digits, hlone.start, ?_⟩
        rw [← hbehind.wordAhead_eq]
        exact hlone.stop
  | @masked before card rest t hcard h ih =>
    intro hlone
    obtain ⟨-, -, hlength, hdigits⟩ := hcard.number.lastFour_digits
    have hshort : (mask.toList ++ lastFour card).length < 13 := by
      rw [List.length_append, hlength]
      decide
    -- the number stands behind what is shown of this one, which ends in a digit
    obtain ⟨more, rfl, ht⟩ := hlone.behind_short hsplit hshort (h.wordAhead_eq.trans hcard.stop)
    refine ih ht ⟨hlone.least, hlone.most, hlone.digits, ?_, hlone.stop⟩
    have hne : lastFour card ≠ [] := List.length_pos_iff.1 (by omega)
    have hstart := hlone.start
    rw [endsInWord_append, endsInWord_append, endsInWord_of_digits _ hdigits hne] at hstart
    exact hstart

/-- How a text is masked that has a run of digits between `front` and `back`: the run is shown as a whole, or it is part
of a number that is masked, the longest from its start. What stands before and behind is masked as if it stood alone. -/
inductive RunMasking (before : Bool) (run : List Char) : List Char → List Char → List Char → Prop
  | shown {front back shown rest : List Char} (hlone : ¬ LoneNumber before front run back)
      (hfront : Masking before front shown) (hback : Masking true back rest) :
      RunMasking before run front back (shown ++ run ++ rest)
  | masked {front joined more back shown rest : List Char}
      (hcard : LongestCard (endsInWord before front) (joined ++ run ++ more) back)
      (hfront : Masking before front shown) (hback : Masking true back rest) :
      RunMasking before run (front ++ joined) (more ++ back)
        (shown ++ (mask.toList ++ lastFour (joined ++ run ++ more)) ++ rest)

/-- A run of digits behind a part of the text. The part is masked as before when what follows it is cut off where no
digit ends. -/
theorem RunMasking.behind {before : Bool} {part shownPart front run back t : List Char}
    (h : RunMasking (endsInWord before part) run front back t)
    (hstart : ∀ c ∈ (part ++ front).getLast?, Text.isDecimalDigit c = false)
    (hpart : ∀ cut rest shown, front ++ run ++ back = cut ++ rest →
      (∀ c ∈ (part ++ cut).getLast?, Text.isDecimalDigit c = false) → Masking (endsInWord before part) cut shown →
      Masking before (part ++ cut) (shownPart ++ shown)) :
    RunMasking before run (part ++ front) back (shownPart ++ t) := by
  cases h with
  | @shown _ _ shown rest hlone hfront hback =>
    have hall := hpart front (run ++ back) shown (List.append_assoc _ _ _) hstart hfront
    rw [← List.append_assoc, ← List.append_assoc]
    refine .shown (fun hnumber => hlone ?_) hall hback
    refine ⟨hnumber.least, hnumber.most, hnumber.digits, ?_, hnumber.stop⟩
    rw [← endsInWord_append]
    exact hnumber.start
  | @masked front joined more back shown rest hcard hfront hback =>
    rw [← endsInWord_append] at hcard
    have hall := hpart front (joined ++ run ++ (more ++ back)) shown (by simp only [List.append_assoc])
      (not_digit_of_endsInWord hcard.start) hfront
    rw [← List.append_assoc, ← List.append_assoc, ← List.append_assoc]
    exact .masked hcard hall hback

/-- A run of digits is one also when a part before it is left out. -/
theorem DigitRun.behind {part front run back : List Char} (h : DigitRun (part ++ front) run back) :
    DigitRun front run back := by
  refine ⟨h.ne_nil, h.digits, fun c hc => h.start c ?_, h.stop⟩
  rw [List.getLast?_append, show front.getLast? = some c from hc]
  rfl

/-- A text with a run of digits in it is masked in one of the two ways. -/
theorem Masking.run_cases {before : Bool} {s t : List Char} (h : Masking before s t) {front run back : List Char}
    (hsplit : s = front ++ run ++ back) (hrun : DigitRun front run back) : RunMasking before run front back t := by
  induction h generalizing front with
  | nil => exact absurd (by simp_all) hrun.ne_nil
  | @shown before c s t hnone h ih =>
    cases front with
    | nil =>
      cases run with
      | nil => exact absurd rfl hrun.ne_nil
      | cons d digits =>
        obtain ⟨rfl, rfl⟩ := List.cons.inj hsplit
        rw [isWordChar_of_isDecimalDigit (hrun.digits c List.mem_cons_self)] at h
        obtain ⟨rest, rfl, hrest⟩ :=
          (h.digits_after_word fun e he => hrun.digits e (List.mem_cons_of_mem _ he)).1 back rfl
        refine .shown (fun hlone => ?_) (.nil before) hrest
        exact hnone (c :: digits) back rfl
          ⟨cardNumber_of_digits hlone.least hlone.most hlone.digits, hlone.start, hlone.stop⟩
    | cons d more =>
      obtain ⟨rfl, hs⟩ := List.cons.inj hsplit
      have hmore : DigitRun more run back := DigitRun.behind (show DigitRun ([c] ++ more) run back from hrun)
      show RunMasking before run ([c] ++ more) back ([c] ++ t)
      refine RunMasking.behind (ih hs hmore) hrun.start ?_
      -- a number that starts here in a front of the text would start here in the whole text
      intro cut rest shown hcut hlast hshown
      refine .shown (fun card after hcard hahead => ?_) hshown
      refine hnone card (after ++ rest) ?_ (hahead.append (hcard ▸ hlast) rest)
      calc c :: s = c :: cut ++ rest := congrArg (c :: ·) (hs.trans hcut)
        _ = card ++ after ++ rest := congrArg (· ++ rest) hcard
        _ = card ++ (after ++ rest) := List.append_assoc card after rest
  | @masked before card rest t hcard h ih =>
    rw [List.append_assoc front] at hsplit
    rcases List.append_eq_append_iff.1 hsplit with ⟨more, rfl, hrest⟩ | ⟨more, rfl, hmore⟩
    · rw [← List.append_assoc] at hrest
      have hword := hcard.number.endsInWord before
      have hmore : RunMasking (endsInWord before card) run more back t := hword.symm ▸ ih hrest hrun.behind
      show RunMasking before run (card ++ more) back (mask.toList ++ lastFour card ++ t)
      refine hmore.behind hrun.start ?_
      -- the number stands in a front of the text as well, and none that starts there is longer
      intro cut behind shown hcut hlast hshown
      rw [hword] at hshown
      have hall : rest = cut ++ behind := hrest.trans hcut
      refine .masked ⟨⟨hcard.number, hcard.start, ?_⟩, fun other after hother hahead => ?_⟩ hshown
      · cases cut with
        | nil => rfl
        | cons c _ =>
          have hstop := hcard.stop
          rwa [hall] at hstop
      · refine hcard.longest other (after ++ behind) ?_ (hahead.append (hother ▸ hlast) behind)
        rw [hall, ← List.append_assoc, hother, List.append_assoc]
    · have hinside : ∃ others, more = run ++ others ∧ back = others ++ rest := by
        rcases List.append_eq_append_iff.1 hmore with ⟨others, hothers, hback⟩ | ⟨digits, hdigits, hrest⟩
        · exact ⟨others, hothers, hback⟩
        · cases digits with
          | nil => exact ⟨[], by simpa using hdigits.symm, by simpa using hrest.symm⟩
          | cons d digits =>
            -- the number would end in the middle of the run
            have hstop := hcard.stop
            rw [hrest, List.cons_append, wordAhead_of_digit (hrun.digits d (by simp [hdigits]))] at hstop
            cases hstop
      obtain ⟨others, rfl, rfl⟩ := hinside
      rw [← List.append_assoc] at hcard ⊢
      have hfront : LongestCard (endsInWord before []) (front ++ run ++ others) rest := hcard
      exact RunMasking.masked hfront (.nil before) h

end FormValidation.Redaction
