import FormValidation.Registry.Cards

/-!
# Check digits

The last digit of a card number is there to betray typing errors. A typo is one digit in the place of another, or two
neighbouring digits in the wrong order. What a digit adds to the check sum is its weight, which depends on its place
and tells the digits apart even modulo 10 (`weight_inj`); and two neighbours in the wrong order add something else
unless they are 0 and 9 (`weight_swap`). Neither kind of typo moves a digit behind the places that it concerns to
another place, so both change the check sum modulo 10, however long the number is.
-/

set_option autoImplicit false

namespace FormValidation.Card

/-- The errors in typing a number that its check digit betrays, with anything written between the digits: a digit is
replaced by another one, or two neighbouring digits are exchanged, unless they are 0 and 9. -/
inductive Typo : List Char → List Char → Prop
  | replaced (front back : List Char) {c d : Char} (hc : c.isDigit) (hd : d.isDigit) (hne : c ≠ d) :
      Typo (front ++ c :: back) (front ++ d :: back)
  | exchanged (front between back : List Char) {a b : Char} (ha : a.isDigit) (hb : b.isDigit) (hne : a ≠ b)
      (hedges : ¬ (a = '0' ∧ b = '9' ∨ a = '9' ∧ b = '0')) (hbetween : ∀ c ∈ between, ¬ c.isDigit) :
      Typo (front ++ a :: (between ++ b :: back)) (front ++ b :: (between ++ a :: back))

/-! ## Weights -/

/-- What a digit adds to the check sum, in a doubled place or in another one. -/
def weight (second : Bool) (c : Char) : Nat := if second then doubled (digitValue c) else digitValue c

/-- A digit has a value of nine at most. -/
theorem digitValue_le {c : Char} (h : c.isDigit) : digitValue c ≤ 9 := by
  have hlast : c.toNat ≤ 57 := (Char.isDigit_iff_toNat.1 h).2
  show c.toNat - 48 ≤ 9
  omega

/-- Digits are told apart by their values. -/
theorem digitValue_inj {c d : Char} (hc : c.isDigit) (hd : d.isDigit) (h : digitValue c = digitValue d) : c = d := by
  have hc' : 48 ≤ c.toNat := (Char.isDigit_iff_toNat.1 hc).1
  have hd' : 48 ≤ d.toNat := (Char.isDigit_iff_toNat.1 hd).1
  have hvalue : c.toNat - 48 = d.toNat - 48 := h
  apply Char.toNat_inj.1
  omega

/-- A digit has a weight of nine at most, doubled or not. -/
theorem weight_le (second : Bool) {c : Char} (h : c.isDigit) : weight second c ≤ 9 := by
  have hvalue := digitValue_le h
  unfold weight doubled
  split
  · split <;> omega
  · exact hvalue

/-- Doubling permutes the digits, so the weights of a place tell digits apart, even modulo 10. -/
theorem weight_inj (second : Bool) {c d : Char} (hc : c.isDigit) (hd : d.isDigit)
    (h : weight second c % 10 = weight second d % 10) : c = d := by
  have hc' := digitValue_le hc
  have hd' := digitValue_le hd
  apply digitValue_inj hc hd
  unfold weight doubled at h
  cases second with
  | false => simpa [Nat.mod_eq_of_lt, Nat.lt_succ_of_le hc', Nat.lt_succ_of_le hd'] using h
  | true =>
    simp only [if_true] at h
    split at h <;> split at h <;> omega

/-- Two neighbouring digits add the same in both orders, modulo 10, only if they are equal, or 0 and 9. -/
theorem weight_swap (second : Bool) {a b : Char} (ha : a.isDigit) (hb : b.isDigit)
    (h : (weight second a + weight (!second) b) % 10 = (weight second b + weight (!second) a) % 10) :
    a = b ∨ a = '0' ∧ b = '9' ∨ a = '9' ∧ b = '0' := by
  have ha' := digitValue_le ha
  have hb' := digitValue_le hb
  have hvalues : digitValue a = digitValue b ∨ digitValue a = 0 ∧ digitValue b = 9 ∨
      digitValue a = 9 ∧ digitValue b = 0 := by
    unfold weight doubled at h
    cases second with
    | false =>
      simp only [Bool.false_eq_true, if_false, Bool.not_false, if_true] at h
      split at h <;> split at h <;> omega
    | true =>
      simp only [Bool.false_eq_true, if_false, Bool.not_true, if_true] at h
      split at h <;> split at h <;> omega
  rcases hvalues with hsame | ⟨hzero, hnine⟩ | ⟨hnine, hzero⟩
  · exact Or.inl (digitValue_inj ha hb hsame)
  · exact Or.inr (Or.inl ⟨digitValue_inj ha rfl hzero, digitValue_inj hb rfl hnine⟩)
  · exact Or.inr (Or.inr ⟨digitValue_inj ha rfl hnine, digitValue_inj hb rfl hzero⟩)

/-! ## Check sums -/

/-- Whether the place behind some digits is a doubled one. -/
def placeAfter (second : Bool) : List Char → Bool
  | [] => second
  | _ :: rest => placeAfter (!second) rest

/-- The check sum is the weight of the first digit and the check sum of the others. -/
theorem checkSum_cons (second : Bool) (c : Char) (rest : List Char) :
    checkSum second (c :: rest) = weight second c + checkSum (!second) rest := rfl

/-- The check sum of two texts one after the other is the sum of theirs, from the place where the second begins. -/
theorem checkSum_append (second : Bool) (front back : List Char) :
    checkSum second (front ++ back) = checkSum second front + checkSum (placeAfter second front) back := by
  induction front generalizing second with
  | nil => exact (Nat.zero_add _).symm
  | cons c rest ih => rw [List.cons_append, checkSum_cons, ih, checkSum_cons, placeAfter, Nat.add_assoc]

/-- A digit in the place of another one changes the check sum. -/
theorem checkSum_replaced (second : Bool) (front back : List Char) {c d : Char} (hc : c.isDigit) (hd : d.isDigit)
    (h : checkSum second (front ++ c :: back) % 10 = checkSum second (front ++ d :: back) % 10) : c = d := by
  rw [checkSum_append, checkSum_append, checkSum_cons, checkSum_cons] at h
  exact weight_inj (placeAfter second front) hc hd (by omega)

/-- Neighbouring digits in the wrong order change the check sum, but for 0 and 9. -/
theorem checkSum_exchanged (second : Bool) (front back : List Char) {a b : Char} (ha : a.isDigit) (hb : b.isDigit)
    (h : checkSum second (front ++ a :: b :: back) % 10 = checkSum second (front ++ b :: a :: back) % 10) :
    a = b ∨ a = '0' ∧ b = '9' ∨ a = '9' ∧ b = '0' := by
  rw [checkSum_append, checkSum_append, checkSum_cons, checkSum_cons, checkSum_cons, checkSum_cons] at h
  exact weight_swap (placeAfter second front) ha hb (by omega)

/-- The check sum of digits is at most nine for each of them. -/
theorem checkSum_le (second : Bool) {digits : List Char} (h : ∀ c ∈ digits, c.isDigit) :
    checkSum second digits ≤ 9 * digits.length := by
  induction digits generalizing second with
  | nil => exact Nat.zero_le _
  | cons c rest ih =>
    have hfirst := weight_le second (h c List.mem_cons_self)
    have hrest := ih (!second) fun d hd => h d (List.mem_cons_of_mem _ hd)
    rw [checkSum_cons, List.length_cons]
    omega

/-! ## Typing errors -/

/-- A number passes the check when the check sum from its end is divisible by ten. -/
theorem luhn_iff {digits : List Char} : luhn digits ↔ checkSum false digits.reverse % 10 = 0 := beq_iff_eq

/-- Between neighbouring digits of a text there is nothing in the string of its digits. -/
theorem Typo.filter {s t : List Char} (h : Typo s t) : Typo (s.filter Char.isDigit) (t.filter Char.isDigit) := by
  cases h with
  | replaced front back hc hd hne =>
    rw [List.filter_append, List.filter_append, List.filter_cons_of_pos hc, List.filter_cons_of_pos hd]
    exact .replaced _ _ hc hd hne
  | exchanged front between back ha hb hne hedges hbetween =>
    have hnone : between.filter Char.isDigit = [] := List.filter_eq_nil_iff.2 hbetween
    have hkept : ∀ {c d : Char}, c.isDigit → d.isDigit → (front ++ c :: (between ++ d :: back)).filter Char.isDigit =
        front.filter Char.isDigit ++ c :: ([] ++ d :: back.filter Char.isDigit) := by
      intro c d hc hd
      rw [List.filter_append, List.filter_cons_of_pos hc, List.filter_append, hnone, List.filter_cons_of_pos hd]
    rw [hkept ha hb, hkept hb ha]
    exact .exchanged _ [] _ ha hb hne hedges (by simp)

/-- A string of digits with the right check digit has a wrong one after a typo. -/
theorem Typo.not_luhn {s t : List Char} (h : Typo s t) (hdigits : ∀ c ∈ s, c.isDigit) (hs : luhn s) : ¬ luhn t := by
  intro ht
  have hsame := (luhn_iff.1 hs).trans (luhn_iff.1 ht).symm
  cases h with
  | replaced front back hc hd hne =>
    simp only [List.reverse_append, List.reverse_cons, List.append_assoc, List.singleton_append] at hsame
    exact hne (checkSum_replaced false _ _ hc hd hsame)
  | exchanged front between back ha hb hne hedges hbetween =>
    -- all characters are digits, so the two stand side by side
    have hnone : between = [] := by
      refine List.eq_nil_iff_forall_not_mem.2 fun c hc => hbetween c hc (hdigits c ?_)
      simp [hc]
    subst hnone
    simp only [List.nil_append, List.reverse_append, List.reverse_cons, List.append_assoc,
      List.singleton_append] at hsame
    rcases checkSum_exchanged false _ _ hb ha hsame with heq | hzero | hnine
    · exact hne heq.symm
    · exact hedges (Or.inr ⟨hzero.2, hzero.1⟩)
    · exact hedges (Or.inl ⟨hnine.2, hnine.1⟩)

/-- An accepted number has the right check digit, whatever the type of the card. -/
theorem luhn_of_isMatch {text : String} {cardType : Option String} (h : (number text cardType).isMatch) :
    luhn (text.toList.filter Char.isDigit) := by
  unfold number at h
  dsimp only at h
  split at h
  · cases h
  next hpassed =>
    simp only [Bool.or_eq_true, not_or, Bool.not_eq_true', Bool.not_eq_false] at hpassed
    exact hpassed.2

/-- A card number is rejected after a typo, whatever types of cards are asked for. For this the check digit is enough:
it betrays a typo in strings of digits of every length. The check sum stays far below 2^32 while it is computed, for the
lengths that card numbers have. -/
theorem number_detects_typos :
    (∀ (text other : String) (cardType otherType : Option String), (number text cardType).isMatch →
      Typo text.toList other.toList → number other otherType = .rejected) ∧
    (∀ digits other : List Char, (∀ c ∈ digits, c.isDigit) → luhn digits → Typo digits other → ¬ luhn other) ∧
    ∀ digits : List Char, (∀ c ∈ digits, c.isDigit) → digits.length ≤ 19 →
      ∀ n, checkSum false (digits.reverse.take n) < UInt32.size := by
  refine ⟨fun text other cardType otherType haccepted htypo => ?_, fun digits other hdigits hluhn htypo => ?_,
    fun digits hdigits hlength n => ?_⟩
  · have hwrong : ¬ luhn (other.toList.filter Char.isDigit) :=
      htypo.filter.not_luhn (fun c hc => (List.mem_filter.1 hc).2) (luhn_of_isMatch haccepted)
    unfold number
    rw [if_pos]
    simp [hwrong]
  · exact htypo.not_luhn hdigits hluhn
  · have htaken : ∀ c ∈ digits.reverse.take n, c.isDigit := fun c hc =>
      hdigits c (List.mem_reverse.1 (List.mem_of_mem_take hc))
    have hsum := checkSum_le false htaken
    rw [List.length_take, List.length_reverse] at hsum
    unfold UInt32.size
    omega

/-- Spaced numbers of cards, and the same with a wrong digit and with two digits exchanged. -/
theorem number_detects_typos_spacedNumbers :
    (number "4111 1111 1111 1111" (some "Visa")).isMatch ∧
      number "4111 1111 1121 1111" (some "Visa") = .rejected ∧
      (number "3782 822463 10005" none).isMatch ∧ number "3788 222463 10005" (some "A") = .rejected := by
  have hreplaced : Typo "4111 1111 1111 1111".toList "4111 1111 1121 1111".toList :=
    .replaced "4111 1111 11".toList "1 1111".toList (c := '1') (d := '2') rfl rfl (by decide)
  have hblank : ∀ c ∈ " ".toList, ¬ c.isDigit := by simp
  have hexchanged : Typo "3782 822463 10005".toList "3788 222463 10005".toList :=
    .exchanged "378".toList " ".toList "22463 10005".toList (a := '2') (b := '8') rfl rfl (by decide) (by decide)
      hblank
  have hvisa : (number "4111 1111 1111 1111" (some "Visa")).isMatch := by decide +kernel
  have hany : (number "3782 822463 10005" none).isMatch := by decide +kernel
  exact ⟨hvisa, number_detects_typos.1 _ _ _ (some "Visa") hvisa hreplaced, hany,
    number_detects_typos.1 _ _ _ (some "A") hany hexchanged⟩

end FormValidation.Card
