import FormValidation.Proofs.Number.Numerals
import FormValidation.Proofs.Registry.Builtins

/-!
# Bounds from parameters

The methods on lengths and on counts take their bounds from the text of parameters. Which texts are bounds is said here
by how integers are written (`ReadsAs`), and all five methods agree on it: a first parameter that is none makes each of
them fail. Given two bounds, the methods with two of them fail unless the bounds are in order and not negative, and
otherwise decide what the methods with one bound decide together (`bounds_agree`). There are two forms of such methods,
with one bound (`byBound`) and with a measure that has to lie between two (`between`), and what follows from the
parameters is proved once for each form.
-/

set_option autoImplicit false

namespace FormValidation

/-- A parameter reads as an integer of 64 bits: its text, or the first text of a list, is a numeral of the integer with
nothing but blanks around it. -/
def ReadsAs (params : List ParamValue) (index : Nat) (i : Int) : Prop :=
  ∃ value text numeral, params[index]? = some (some value) ∧ value.element? 0 = some text ∧
    Text.Padded text.toList numeral ∧ Number.Signed numeral i ∧ -2 ^ 63 ≤ i ∧ i < 2 ^ 63

/-- The text of a parameter is the first element of its value. -/
theorem paramText_eq_some_iff {params : List ParamValue} {index : Nat} {text : String} :
    paramText params index = some text ↔
      ∃ value, params[index]? = some (some value) ∧ value.element? 0 = some text := by
  rw [paramText, Option.bind_eq_some_iff]
  simp only [Option.join_eq_some_iff]

/-- The integer of a parameter is the one that it reads as. -/
theorem paramInt_eq_some_iff {params : List ParamValue} {index : Nat} {i : Int} :
    paramInt params index = some i ↔ ReadsAs params index i := by
  rw [paramInt, Option.bind_eq_some_iff]
  constructor
  · rintro ⟨text, htext, hread⟩
    obtain ⟨value, hvalue, helement⟩ := paramText_eq_some_iff.1 htext
    obtain ⟨hsigned, hrange⟩ := Number.readSigned?_eq_some_iff.1 hread
    exact ⟨value, text, _, hvalue, helement, Text.padded_trim text.toList, hsigned, hrange⟩
  · rintro ⟨value, text, numeral, hvalue, helement, hpadded, hsigned, hrange⟩
    refine ⟨text, paramText_eq_some_iff.2 ⟨value, hvalue, helement⟩, ?_⟩
    rw [hpadded.trim_eq hsigned.trimmed]
    exact Number.readSigned?_eq_some_iff.2 ⟨hsigned, hrange⟩

/-- What a parameter reads as is below the bound of the integers. -/
theorem ReadsAs.lt {params : List ParamValue} {index : Nat} {i : Int} (h : ReadsAs params index i) : i < 2 ^ 63 := by
  obtain ⟨_, _, _, _, _, _, _, _, hmost⟩ := h
  exact hmost

/-- The decimal text of a natural number reads as the number. -/
theorem readsAs_natText {n : Nat} (h : n < 2 ^ 63) : ReadsAs [some (.scalar (Number.natText n))] 0 n := by
  have hsigned : Number.Signed (Number.natText n).toList n := .unsigned (.bare (Number.digits_natText n))
  exact ⟨_, _, _, rfl, rfl, Text.padded_self _, hsigned, by omega, by exact_mod_cast h⟩

namespace Method

variable {constraint : String} {c : Context} {params : List ParamValue} {a b : Int}

/-- Whether an evaluation failed because of the parameters of a constraint. -/
def Fails {α : Type} (constraint : String) (result : Except Fault α) : Prop :=
  ∃ reason, result = .error (.invalidParams constraint reason)

/-- Whether an evaluation gave a verdict, and accepted the value. -/
def Accepts (result : Except Fault Verdict) : Prop := ∃ text, result = .ok (.matched text)

/-- A method that accepts by a condition accepts exactly when it holds. -/
theorem accepts_accept {ok : Bool} : Accepts (.ok (accept c ok)) ↔ ok := by
  cases ok with
  | false =>
    constructor
    · rintro ⟨text, ⟨⟩⟩
    · rintro ⟨⟩
  | true => exact ⟨fun _ => rfl, fun _ => ⟨c.value, rfl⟩⟩

/-! ## One bound -/

/-- A parameter that reads as a number that is not negative is a bound. -/
theorem bound_of_readsAs {index : Nat} (h : ReadsAs params index a) (hpos : 0 ≤ a) :
    bound constraint params index = .ok a.toNat := by
  rw [bound, paramInt_eq_some_iff.2 h]
  exact if_neg (Int.not_lt.2 hpos)

/-- A parameter that reads as a negative number is no bound. -/
theorem fails_bound (constraint : String) {index : Nat} (h : ReadsAs params index a) (hneg : a < 0) :
    Fails constraint (bound constraint params index) := by
  rw [bound, paramInt_eq_some_iff.2 h]
  exact ⟨_, if_pos hneg⟩

/-- A first parameter that reads as no integer is no bound, and the fault says so. -/
theorem bound_of_not_readsAs (h : ∀ i, ¬ ReadsAs params 0 i) :
    bound constraint params 0 = .error (.invalidParams constraint "param 1 must be an integer") := by
  have hnone : paramInt params 0 = none :=
    Option.eq_none_iff_forall_ne_some.2 fun i hi => h i (paramInt_eq_some_iff.1 hi)
  rw [bound, hnone]
  rfl

/-- The method that decides about an element and its context by one bound. -/
def byBound (constraint : String) (holds : Context → Nat → Bool) (c : Context) (params : List ParamValue) :
    Except Fault Verdict := do
  let n ← bound constraint params 0
  return accept c (holds c n)

/-- The least length is a method with one bound. -/
theorem minLength_eq : minLength c params = byBound "min_length" (fun c n => n ≤ length c) c params := rfl

/-- The greatest length is a method with one bound. -/
theorem maxLength_eq : maxLength c params = byBound "max_length" (fun c n => length c ≤ n) c params := rfl

/-- The number of values is a method with one bound. -/
theorem numValues_eq : numValues c params = byBound "num_values" (fun c n => count c == n) c params := rfl

variable {holds : Context → Nat → Bool}

/-- A method with one bound decides by it. -/
theorem byBound_of_readsAs (h : ReadsAs params 0 a) (hpos : 0 ≤ a) :
    byBound constraint holds c params = .ok (accept c (holds c a.toNat)) := by
  rw [byBound, bound_of_readsAs h hpos]
  rfl

/-- A method with one bound fails when the parameter is no integer. -/
theorem byBound_of_not_readsAs (h : ∀ i, ¬ ReadsAs params 0 i) :
    byBound constraint holds c params = .error (.invalidParams constraint "param 1 must be an integer") := by
  rw [byBound, bound_of_not_readsAs h]
  rfl

/-! ## Two bounds -/

/-- Two parameters in order, the first of which is not negative, are bounds. -/
theorem bounds_of_readsAs (ha : ReadsAs params 0 a) (hb : ReadsAs params 1 b) (hpos : 0 ≤ a) (hle : a ≤ b) :
    bounds constraint params = .ok (a.toNat, b.toNat) := by
  have horder : ¬ a.toNat > b.toNat := by omega
  rw [bounds, bound_of_readsAs ha hpos, bound_of_readsAs hb (by omega)]
  exact if_neg horder

/-- Two parameters of which one is negative, or that are out of order, are no bounds. -/
theorem fails_bounds (constraint : String) (ha : ReadsAs params 0 a) (hb : ReadsAs params 1 b)
    (h : a < 0 ∨ b < 0 ∨ b < a) : Fails constraint (bounds constraint params) := by
  by_cases haneg : a < 0
  · obtain ⟨reason, hreason⟩ := fails_bound constraint ha haneg
    rw [bounds, hreason]
    exact ⟨reason, rfl⟩
  rw [bounds, bound_of_readsAs ha (Int.not_lt.1 haneg)]
  by_cases hbneg : b < 0
  · obtain ⟨reason, hreason⟩ := fails_bound constraint hb hbneg
    rw [hreason]
    exact ⟨reason, rfl⟩
  rw [bound_of_readsAs hb (Int.not_lt.1 hbneg)]
  have horder : a.toNat > b.toNat := by omega
  exact ⟨_, if_pos horder⟩

/-- The method that accepts elements when a measure of the context lies between two bounds. -/
def between (constraint : String) (measure : Context → Nat) (c : Context) (params : List ParamValue) :
    Except Fault Verdict := do
  let (least, most) ← bounds constraint params
  return accept c (least ≤ measure c && measure c ≤ most)

/-- The length between two bounds is a method with two of them. -/
theorem lengthBetween_eq : lengthBetween c params = between "length_between" length c params := rfl

/-- The number of values between two bounds is a method with two of them. -/
theorem numValuesBetween_eq : numValuesBetween c params = between "num_values_between" count c params := rfl

variable {measure : Context → Nat}

/-- A method with two bounds accepts what lies between them. -/
theorem between_of_readsAs (ha : ReadsAs params 0 a) (hb : ReadsAs params 1 b) (hpos : 0 ≤ a) (hle : a ≤ b) :
    between constraint measure c params = .ok (accept c (a.toNat ≤ measure c && measure c ≤ b.toNat)) := by
  rw [between, bounds_of_readsAs ha hb hpos hle]
  rfl

/-- A method with two bounds fails exactly when one of them is negative, or they are in the wrong order. -/
theorem fails_between_iff (ha : ReadsAs params 0 a) (hb : ReadsAs params 1 b) :
    Fails constraint (between constraint measure c params) ↔ a < 0 ∨ b < 0 ∨ b < a := by
  constructor
  · rintro ⟨reason, hfails⟩
    by_contra hgood
    rw [between_of_readsAs ha hb (by omega) (by omega)] at hfails
    cases hfails
  · intro h
    obtain ⟨reason, hreason⟩ := fails_bounds constraint ha hb h
    rw [between, hreason]
    exact ⟨reason, rfl⟩

/-- A method with two bounds fails when the first parameter is no integer. -/
theorem between_of_not_readsAs (h : ∀ i, ¬ ReadsAs params 0 i) :
    between constraint measure c params = .error (.invalidParams constraint "param 1 must be an integer") := by
  rw [between, bounds, bound_of_not_readsAs h]
  rfl

/-! ## The methods together -/

/-- The methods that take bounds from their parameters, with the names under which they are registered. -/
def boundedMethods : List (String × (Context → List ParamValue → Except Fault Verdict)) := [
  ("length_between", lengthBetween), ("min_length", minLength), ("max_length", maxLength),
  ("num_values", numValues), ("num_values_between", numValuesBetween)]

/-- A length is between two bounds when it is at least the one and at most the other. -/
theorem accepts_lengthBetween_iff {least most : List ParamValue} (ha : ReadsAs params 0 a) (hb : ReadsAs params 1 b)
    (hpos : 0 ≤ a) (hle : a ≤ b) (hleast : ReadsAs least 0 a) (hmost : ReadsAs most 0 b) :
    Accepts (lengthBetween c params) ↔ Accepts (minLength c least) ∧ Accepts (maxLength c most) := by
  rw [lengthBetween_eq, between_of_readsAs ha hb hpos hle, minLength_eq, byBound_of_readsAs hleast hpos,
    maxLength_eq, byBound_of_readsAs hmost (by omega), accepts_accept, accepts_accept, accepts_accept]
  exact Bool.and_eq_true_iff

/-- The number of elements lies between two bounds exactly when it is one of the numbers between them. -/
theorem accepts_numValuesBetween_iff (ha : ReadsAs params 0 a) (hb : ReadsAs params 1 b) (hpos : 0 ≤ a)
    (hle : a ≤ b) : Accepts (numValuesBetween c params) ↔
      ∃ n wanted, a ≤ n ∧ n ≤ b ∧ ReadsAs wanted 0 n ∧ Accepts (numValues c wanted) := by
  have hbound := hb.lt
  rw [numValuesBetween_eq, between_of_readsAs ha hb hpos hle, accepts_accept, Bool.and_eq_true_iff,
    decide_eq_true_eq, decide_eq_true_eq]
  constructor
  · rintro ⟨hleast, hmost⟩
    have hwanted := readsAs_natText (n := count c) (by omega)
    refine ⟨count c, _, by omega, by omega, hwanted, ?_⟩
    rw [numValues_eq, byBound_of_readsAs hwanted (by omega), accepts_accept]
    exact beq_iff_eq.2 (Int.toNat_natCast _).symm
  · rintro ⟨n, wanted, hleast, hmost, hwanted, haccepts⟩
    rw [numValues_eq, byBound_of_readsAs hwanted (by omega), accepts_accept, beq_iff_eq] at haccepts
    omega

/-- Between two equal bounds lies just this number of values. -/
theorem numValuesBetween_of_same {wanted : List ParamValue} (ha : ReadsAs params 0 a) (hb : ReadsAs params 1 a)
    (hpos : 0 ≤ a) (hwanted : ReadsAs wanted 0 a) : numValuesBetween c params = numValues c wanted := by
  rw [numValuesBetween_eq, between_of_readsAs ha hb hpos (Int.le_refl a), numValues_eq,
    byBound_of_readsAs hwanted hpos]
  have hsame : (decide (a.toNat ≤ count c) && decide (count c ≤ a.toNat)) = (count c == a.toNat) := by
    rw [Bool.eq_iff_iff, Bool.and_eq_true_iff, decide_eq_true_eq, decide_eq_true_eq, beq_iff_eq]
    omega
  rw [hsame]

/-- Whatever the element is, all methods with bounds fail when the first parameter is no integer. -/
theorem boundedMethods_fail (h : ∀ i, ¬ ReadsAs params 0 i) : ∀ e ∈ boundedMethods,
    e.2 c params = .error (.invalidParams e.1 "param 1 must be an integer") := by
  intro e he
  simp only [boundedMethods, List.mem_cons, List.not_mem_nil, or_false] at he
  rcases he with rfl | rfl | rfl | rfl | rfl
  · exact lengthBetween_eq.trans (between_of_not_readsAs h)
  · exact minLength_eq.trans (byBound_of_not_readsAs h)
  · exact maxLength_eq.trans (byBound_of_not_readsAs h)
  · exact numValues_eq.trans (byBound_of_not_readsAs h)
  · exact numValuesBetween_eq.trans (between_of_not_readsAs h)

/-- The methods of the built-in registry that take bounds agree with each other, for every element and its context. Of
two parameters that read as integers both methods with two bounds make the same: they fail when one is negative or the
first is greater than the second, and otherwise give a verdict. A length lies between the bounds when it has the least
length and at most the greatest; a number of elements does when it is some number between them, and with equal bounds
the verdict is that about this number. When the first parameter is absent or no integer, all five methods fail. -/
theorem bounds_agree (today : Date) (c : Context) (params : List ParamValue) :
    (∀ e ∈ boundedMethods, (Registry.builtins today).constraint e.1 = .ok (.ofContext e.2)) ∧
    (∀ a b, ReadsAs params 0 a → ReadsAs params 1 b →
      (Fails "length_between" (lengthBetween c params) ↔ a < 0 ∨ b < 0 ∨ b < a) ∧
      (Fails "num_values_between" (numValuesBetween c params) ↔ a < 0 ∨ b < 0 ∨ b < a) ∧
      (¬ (a < 0 ∨ b < 0 ∨ b < a) →
        (∃ verdict, lengthBetween c params = .ok verdict) ∧ (∃ verdict, numValuesBetween c params = .ok verdict) ∧
        (∀ least most, ReadsAs least 0 a → ReadsAs most 0 b →
          (Accepts (lengthBetween c params) ↔ Accepts (minLength c least) ∧ Accepts (maxLength c most))) ∧
        (Accepts (numValuesBetween c params) ↔
          ∃ n wanted, a ≤ n ∧ n ≤ b ∧ ReadsAs wanted 0 n ∧ Accepts (numValues c wanted)) ∧
        (a = b → ∀ wanted, ReadsAs wanted 0 a → numValuesBetween c params = numValues c wanted))) ∧
    ((∀ i, ¬ ReadsAs params 0 i) → ∀ e ∈ boundedMethods,
      e.2 c params = .error (.invalidParams e.1 "param 1 must be an integer")) := by
  refine ⟨?_, fun a b ha hb => ⟨fails_between_iff ha hb, fails_between_iff ha hb, fun hgood => ?_⟩,
    boundedMethods_fail⟩
  · intro e he
    simp only [boundedMethods, List.mem_cons, List.not_mem_nil, or_false] at he
    rcases he with rfl | rfl | rfl | rfl | rfl <;> exact Registry.constraint_of_lookup rfl
  · have hpos : 0 ≤ a := by omega
    have hle : a ≤ b := by omega
    refine ⟨⟨_, between_of_readsAs ha hb hpos hle⟩, ⟨_, between_of_readsAs ha hb hpos hle⟩,
      fun least most hleast hmost => accepts_lengthBetween_iff ha hb hpos hle hleast hmost,
      accepts_numValuesBetween_iff ha hb hpos hle, fun hsame wanted hwanted => ?_⟩
    subst hsame
    exact numValuesBetween_of_same ha hb hpos hwanted

/-- The element in the middle of three, of which one is empty. -/
def colours : Context where
  field := "colours"
  value := "green"
  input := .record FieldMap.empty
  valid := FieldMap.ofList [("colours", .list ["red", "green", ""])]
  closed := FieldMap.empty

/-- Bounds with blanks, a plus sign or leading zeros, and in lists, are bounds; a negative one and one that is left out
are none. -/
theorem bounds_agree_colours :
    (Accepts (lengthBetween colours [some (.scalar " +2 "), some (.list ["5", "x"])]) ∧
      Accepts (minLength colours [some (.scalar "2")]) ∧ Accepts (maxLength colours [some (.scalar "5")])) ∧
    numValuesBetween colours [some (.scalar "2"), some (.scalar "02")] = numValues colours [some (.scalar "2")] ∧
    Fails "num_values_between" (numValuesBetween colours [some (.scalar "-1"), some (.scalar "3")]) ∧
    maxLength colours [none, some (.scalar "5")] =
      .error (.invalidParams "max_length" "param 1 must be an integer") := by
  have htwo : ReadsAs [some (.scalar "2")] 0 2 := paramInt_eq_some_iff.1 (by decide +kernel)
  have hfive : ReadsAs [some (.scalar "5")] 0 5 := paramInt_eq_some_iff.1 (by decide +kernel)
  refine ⟨?_, ?_, ?_, ?_⟩
  · have hfirst : ReadsAs [some (.scalar " +2 "), some (.list ["5", "x"])] 0 2 :=
      paramInt_eq_some_iff.1 (by decide +kernel)
    have hsecond : ReadsAs [some (.scalar " +2 "), some (.list ["5", "x"])] 1 5 :=
      paramInt_eq_some_iff.1 (by decide +kernel)
    have hverdict := (bounds_agree ⟨2024, 5, 1⟩ colours _).2.1 2 5 hfirst hsecond
    have haccepts := (hverdict.2.2 (by decide)).2.2.1 _ _ htwo hfive
    exact ⟨⟨"green", rfl⟩, haccepts.1 ⟨"green", rfl⟩⟩
  · have hfirst : ReadsAs [some (.scalar "2"), some (.scalar "02")] 0 2 := paramInt_eq_some_iff.1 (by decide +kernel)
    have hsecond : ReadsAs [some (.scalar "2"), some (.scalar "02")] 1 2 := paramInt_eq_some_iff.1 (by decide +kernel)
    have hverdict := (bounds_agree ⟨2024, 5, 1⟩ colours _).2.1 2 2 hfirst hsecond
    exact (hverdict.2.2 (by decide)).2.2.2.2 rfl _ htwo
  · have hfirst : ReadsAs [some (.scalar "-1"), some (.scalar "3")] 0 (-1) :=
      paramInt_eq_some_iff.1 (by decide +kernel)
    have hsecond : ReadsAs [some (.scalar "-1"), some (.scalar "3")] 1 3 := paramInt_eq_some_iff.1 (by decide +kernel)
    exact ((bounds_agree ⟨2024, 5, 1⟩ colours _).2.1 (-1) 3 hfirst hsecond).2.1.2 (by decide)
  · have hnone : ∀ i, ¬ ReadsAs [none, some (.scalar "5")] 0 i := fun i h => by
      have hread := paramInt_eq_some_iff.2 h
      cases hread
    exact (bounds_agree ⟨2024, 5, 1⟩ colours _).2.2 hnone ("max_length", maxLength) (by simp [boundedMethods])

end Method

end FormValidation
