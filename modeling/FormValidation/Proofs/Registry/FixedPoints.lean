import FormValidation.Proofs.Checking.SecondCheck
import FormValidation.Proofs.Registry.Builtins
import FormValidation.Proofs.Text.Capitals
import FormValidation.Proofs.Text.Trimming

/-!
# What built-in constraints keep

A constraint tells with its verdict what is kept of the text that it accepts: the text without blanks at its ends, the
digits of a card number, the usual form of a postal code. What is kept is a text that the constraint accepts again and
keeps as it is (`plain_constraints_settle`), so a field that was untainted by it passes it once more, unchanged. Where
two constraints are tried one after the other, the first must not accept what the second keeps, which it might keep in
another form (`Settles.orElse`).
-/

set_option autoImplicit false

namespace FormValidation

/-- What a verdict keeps of a text is kept as it is. -/
def Settles (decide : String → Verdict) : Prop :=
  ∀ text kept, decide text = .matched kept → decide kept = .matched kept

/-- A check that accepts keeps the text as it is. -/
theorem Verdict.check_eq_matched {ok : Bool} {text kept : String} (h : Verdict.check ok text = .matched kept) :
    ok = true ∧ text = kept := by
  unfold check at h
  split at h
  next hok =>
    cases h
    exact ⟨hok, rfl⟩
  · cases h

/-- A predicate settles. -/
theorem settles_predicate (holds : String → Bool) : Settles fun text => Verdict.check (holds text) text := by
  intro text kept h
  obtain ⟨-, rfl⟩ := Verdict.check_eq_matched h
  exact h

/-- A verdict about a text without the blanks at its ends, which it keeps. -/
theorem settles_trim (holds : List Char → Bool) :
    Settles fun text => Verdict.check (holds (Text.trim text.toList)) (String.ofList (Text.trim text.toList)) := by
  intro text kept h
  obtain ⟨hholds, rfl⟩ := Verdict.check_eq_matched h
  dsimp only
  rw [String.toList_ofList, Text.trim_trim, hholds]
  rfl

/-- Of two verdicts, the first that accepts counts, so the first must not accept what the second keeps. -/
theorem Settles.orElse {first second : String → Verdict} (hfirst : Settles first) (hsecond : Settles second)
    (hapart : ∀ text kept, first text = .rejected → second text = .matched kept → first kept = .rejected) :
    Settles fun text => (first text).orElse (second text) := by
  intro text kept h
  dsimp only at h ⊢
  cases hverdict : first text with
  | matched own =>
    have hown : own = kept := by
      rw [hverdict] at h
      exact Verdict.matched.inj h
    rw [hfirst text kept (hown ▸ hverdict)]
    rfl
  | rejected =>
    rw [hverdict] at h
    rw [hapart text kept hverdict h]
    exact hsecond text kept h

/-- A function settles when its verdicts do. -/
theorem plainSettles_ofVerdict {decide : String → Verdict} (h : Settles decide) :
    PlainSettles fun params => { outcome := .ok (decide ((paramText params 0).getD "")) } := by
  intro text kept more hkept
  have hverdict : decide text = .matched kept := Except.ok.inj hkept
  exact congrArg Except.ok (h text kept hverdict)

/-! ## Regions -/

namespace Region

/-- To find a text in a table settles. -/
theorem settles_find (table : List (String × String)) : Settles (find table) :=
  settles_trim fun wanted => table.any (names wanted)

/-- A table that does not name a text does not name it without the blanks at its ends either. -/
theorem find_of_find {table other : List (String × String)} {text kept : String} (h : find table text = .rejected)
    (hkept : find other text = .matched kept) : find table kept = .rejected := by
  obtain ⟨-, rfl⟩ := Verdict.check_eq_matched hkept
  have hsame : find table (String.ofList (Text.trim text.toList)) = find table text := by
    unfold find
    rw [String.toList_ofList, Text.trim_trim]
  exact hsame.trans h

/-- A state or a province settles. -/
theorem settles_stateOrProvince : Settles fun text => (state text).orElse (province text) :=
  (settles_find states).orElse (settles_find provinces) fun _ _ => find_of_find

end Region

/-! ## Postal codes -/

namespace Address

/-- A zip code settles. -/
theorem settles_zip : Settles zip := settles_trim isZip

/-- A text without the separator is one part. -/
theorem splitAll_of_not_mem {separator : Char} {s : List Char} (h : separator ∉ s) :
    Text.splitAll separator s = [s] := by
  induction s with
  | nil => rfl
  | cons c rest ih =>
    have hne : c ≠ separator := fun heq => h (heq ▸ List.mem_cons_self)
    rw [Text.splitAll, if_neg hne, ih fun hmem => h (List.mem_cons_of_mem c hmem)]

/-- The two halves of a postcode: a letter, a digit and a letter, and a digit, a letter and a digit. -/
inductive Halves : List Char → List Char → Prop
  | mk {a b c x y z : Char} (ha : isRegionLetter a) (hb : Text.isDecimalDigit b) (hc : c.isAlpha)
      (hx : Text.isDecimalDigit x) (hy : y.isAlpha) (hz : Text.isDecimalDigit z) : Halves [a, b, c] [x, y, z]

/-- What a postal code is split into are halves of one. -/
theorem halves_of_postcodeHalves? {s first second : List Char} (h : postcodeHalves? s = some (first, second)) :
    Halves first second := by
  unfold postcodeHalves? at h
  split at h
  next a b c rest =>
    split at h
    next hfirst =>
      simp only [Bool.and_eq_true] at hfirst
      split at h
      next x y z _ =>
        split at h
        next hsecond =>
          simp only [Bool.and_eq_true] at hsecond
          cases h
          exact .mk hfirst.1.1 hfirst.1.2 hfirst.2 hsecond.1.1 hsecond.1.2 hsecond.2
        · cases h
      · cases h
    · cases h
  · cases h

/-- The letters of a region are letters, and so are their capitals. -/
theorem isAlpha_of_isRegionLetter {a : Char} (h : isRegionLetter a) : a.isAlpha ∧ isRegionLetter a.toUpper := by
  have hall : "ABCEGHJKLMNPRSTVXYabceghjklmnprstvxy".toList.all (fun c => c.isAlpha && isRegionLetter c.toUpper) := by
    decide +kernel
  exact Bool.and_eq_true_iff.1 (List.all_eq_true.1 hall a (List.contains_iff_mem.1 h))

namespace Halves

variable {first second : List Char}

/-- Halves in capitals are halves, and they stay as they are. -/
theorem upper (h : Halves first second) : Halves (Text.upper first) (Text.upper second) ∧
    Text.upper (Text.upper first) = Text.upper first ∧ Text.upper (Text.upper second) = Text.upper second := by
  cases h with
  | @mk a b c x y z ha hb hc hx hy hz =>
    obtain ⟨halpha, hletter⟩ := isAlpha_of_isRegionLetter ha
    have hfirst : Text.upper [a, b, c] = [a.toUpper, b, c.toUpper] := by
      simp [Text.upper, Text.upperChar_of_isAlpha halpha, Text.upperChar_of_isDecimalDigit hb,
        Text.upperChar_of_isAlpha hc]
    have hsecond : Text.upper [x, y, z] = [x, y.toUpper, z] := by
      simp [Text.upper, Text.upperChar_of_isDecimalDigit hx, Text.upperChar_of_isAlpha hy,
        Text.upperChar_of_isDecimalDigit hz]
    have hcapital : ∀ {l : Char}, l.isAlpha → Text.upperChar l.toUpper = [l.toUpper] := fun hl => by
      rw [Text.upperChar_of_isAlpha (Text.isAlpha_toUpper hl), Text.toUpper_toUpper_of_isAlpha hl]
    rw [hfirst, hsecond]
    refine ⟨.mk hletter hb (Text.isAlpha_toUpper hc) hx (Text.isAlpha_toUpper hy) hz, ?_, ?_⟩
    · simp [Text.upper, hcapital halpha, Text.upperChar_of_isDecimalDigit hb, hcapital hc]
    · simp [Text.upper, Text.upperChar_of_isDecimalDigit hx, hcapital hy, Text.upperChar_of_isDecimalDigit hz]

/-- Two halves with a blank between them are a postcode, with no other blank and no hyphen. -/
theorem together (h : Halves first second) :
    postcodeHalves? (first ++ ' ' :: second) = some (first, second) ∧ Text.Trimmed (first ++ ' ' :: second) ∧
      '-' ∉ first ++ ' ' :: second ∧ (first ++ ' ' :: second).length = 7 := by
  have hspace : Text.isBlank ' ' = true := by decide +kernel
  have hhyphen : ∀ {c : Char}, Text.isDecimalDigit c ∨ c.isAlpha → '-' ≠ c := by
    rintro c (hc | hc) rfl
    · revert hc
      decide +kernel
    · revert hc
      decide
  cases h with
  | @mk a b c x y z ha hb hc hx hy hz =>
    have halpha := (isAlpha_of_isRegionLetter ha).1
    have hfirst : Text.isBlank a = false := Text.isBlank_of_isAlpha halpha
    have hlast : Text.isBlank z = false := Text.isBlank_of_isDecimalDigit hz
    have hsecond : secondHalf [' ', x, y, z] = [x, y, z] := by
      have hdrop : [' ', x, y, z].dropWhile Text.isBlank = [x, y, z] := by
        simp [hspace, Text.isBlank_of_isDecimalDigit hx]
      unfold secondHalf
      rw [hdrop]
      split
      next rest heq => exact absurd (List.cons.inj heq).1.symm (hhyphen (Or.inl hx))
      · rfl
    refine ⟨?_, ⟨?_, ?_⟩, ?_, rfl⟩
    · show postcodeHalves? (a :: b :: c :: [' ', x, y, z]) = _
      unfold postcodeHalves?
      simp [ha, hb, hc, hsecond, hx, hy, hz]
    · intro d hd
      cases hd
      exact hfirst
    · intro d hd
      cases hd
      exact hlast
    · simp [hhyphen (Or.inr halpha), hhyphen (Or.inl hb), hhyphen (Or.inr hc), hhyphen (Or.inl hx),
        hhyphen (Or.inr hy), hhyphen (Or.inl hz)]

end Halves

/-- What is kept of a postcode are the capitals of its halves. -/
theorem exists_halves_of_postcode {text kept : String} (h : postcode text = .matched kept) :
    ∃ first second, Halves first second ∧ kept = String.ofList (Text.upper first ++ ' ' :: Text.upper second) := by
  unfold postcode at h
  split at h
  next first second hhalves =>
    cases h
    exact ⟨first, second, halves_of_postcodeHalves? hhalves, rfl⟩
  · cases h

/-- A postal code settles. -/
theorem settles_postcode : Settles postcode := by
  intro text kept h
  obtain ⟨first, second, hhalves, rfl⟩ := exists_halves_of_postcode h
  obtain ⟨hupper, hfirst, hsecond⟩ := hhalves.upper
  obtain ⟨hread, htrimmed, -, -⟩ := hupper.together
  unfold postcode
  rw [String.toList_ofList, Text.trim_of_trimmed htrimmed, hread]
  dsimp only
  rw [hfirst, hsecond]

/-- A written postcode has a length that no zip code has. -/
theorem zip_of_postcode {text kept : String} (h : postcode text = .matched kept) : zip kept = .rejected := by
  obtain ⟨first, second, hhalves, rfl⟩ := exists_halves_of_postcode h
  obtain ⟨-, htrimmed, hhyphen, hlength⟩ := hhalves.upper.1.together
  have hzip : isZip (Text.upper first ++ ' ' :: Text.upper second) = false := by
    unfold isZip
    rw [splitAll_of_not_mem hhyphen]
    simp [isDigits, hlength]
  unfold zip
  rw [String.toList_ofList, Text.trim_of_trimmed htrimmed]
  dsimp only
  rw [hzip]
  rfl

/-- A zip code or a postal code settles. -/
theorem settles_zipOrPostcode : Settles fun text => (zip text).orElse (postcode text) :=
  settles_zip.orElse settles_postcode fun _ _ _ => zip_of_postcode

end Address

/-! ## Payment cards -/

namespace Card

/-- The number of a card settles. -/
theorem settles_number (cardType : Option String) : Settles fun text => number text cardType := by
  intro text kept h
  have hdigits : (text.toList.filter Char.isDigit).filter Char.isDigit = text.toList.filter Char.isDigit := by
    rw [List.filter_filter]
    simp
  have hkept : kept = String.ofList (text.toList.filter Char.isDigit) := by
    dsimp only [number] at h
    split at h
    · cases h
    · exact (Verdict.check_eq_matched h).2.symm
  have hsame : number kept cardType = number text cardType := by
    unfold number
    rw [hkept, String.toList_ofList, hdigits]
  exact hsame.trans h

/-- The type of a card settles. -/
theorem settles_type : Settles type := by
  intro text kept h
  unfold type at h
  split at h
  next kind _ =>
    obtain ⟨hkind, rfl⟩ := Verdict.check_eq_matched h
    have hmem : kind ∈ ['M', 'V', 'A', 'D'] := List.contains_iff_mem.1 hkind
    simp only [List.mem_cons, List.not_mem_nil, or_false] at hmem
    rcases hmem with rfl | rfl | rfl | rfl <;> decide +kernel
  · cases h

end Card

/-! ## The built-in constraints -/

/-- The built-in constraints that are plain functions. -/
def plainConstraints : List String := ["email", "state", "province", "state_or_province", "zip", "postcode",
  "zip_or_postcode", "phone", "american_phone", "cc_number", "cc_exp", "cc_type", "ip_address"]

/-- What a built-in constraint keeps of a text it keeps as it is, with the same further parameters. So a field that was
untainted by it passes it again and stays as it is. Only the constraint of card numbers reads a further parameter, the
type of the card; when that is a field, it has to be another one, with the value it had. -/
theorem plain_constraints_settle (today : Date) : ∀ name ∈ plainConstraints, ∃ run,
    (Registry.builtins today).constraint name = .ok (.plain run) ∧ PlainSettles run ∧
    ∀ (limit : Nat) (site : CheckSite) (c : CompiledConstraint) (more : List Param) (p q after : Progress),
      c.CallsForElement site.field run more → site.untaint = true → p.working.contains site.field →
      checkConstraints limit site [c] [] p = (after, .ok []) →
      q.working.get? site.field = after.working.get? site.field →
      (name = "cc_number" → Param.field site.field ∉ more ∧
        ∀ other, Param.field other ∈ more → q.working.get? other = p.working.get? other) →
      ∃ again, checkConstraints limit site [c] [] q = (again, .ok []) ∧
        again.working.get? site.field = after.working.get? site.field := by
  intro name hname
  suffices h : ∃ run, FieldMap.lookup name (Registry.builtinConstraints today) = some (.plain run) ∧ PlainSettles run ∧
      (name = "cc_number" ∨ ∀ value fixed, run (value :: fixed) = run [value]) by
    obtain ⟨run, hlookup, hrun, hread⟩ := h
    refine ⟨run, Registry.constraint_of_lookup hlookup, hrun,
      fun limit site c more p q after hc huntaint hfield hfirst hq hcard => ?_⟩
    rcases hread with hcardNumber | hread
    · obtain ⟨hown, hothers⟩ := hcard hcardNumber
      exact checkConstraints_again hrun hc hown huntaint hfield hfirst hq hothers
    · exact checkConstraints_again_of_first hrun hc hread huntaint hfield hfirst hq
  have hsettles : ∀ {decide}, FieldMap.lookup name (Registry.builtinConstraints today) = some (.ofVerdict decide) →
      Settles decide → ∃ run, FieldMap.lookup name (Registry.builtinConstraints today) = some (.plain run) ∧
        PlainSettles run ∧ (name = "cc_number" ∨ ∀ value fixed, run (value :: fixed) = run [value]) :=
    fun hlookup hdecide => ⟨_, hlookup, plainSettles_ofVerdict hdecide, Or.inr fun _ _ => rfl⟩
  simp only [plainConstraints, List.mem_cons, List.not_mem_nil, or_false] at hname
  rcases hname with rfl | rfl | rfl | rfl | rfl | rfl | rfl | rfl | rfl | rfl | rfl | rfl | rfl
  · exact hsettles rfl (settles_predicate Address.isEmail)
  · exact hsettles rfl (Region.settles_find Region.states)
  · exact hsettles rfl (Region.settles_find Region.provinces)
  · exact hsettles rfl Region.settles_stateOrProvince
  · exact hsettles rfl Address.settles_zip
  · exact hsettles rfl Address.settles_postcode
  · exact hsettles rfl Address.settles_zipOrPostcode
  · exact hsettles rfl (settles_predicate fun text => 6 ≤ Address.digitCount text)
  · exact hsettles rfl (settles_predicate fun text => 7 ≤ Address.digitCount text)
  · refine ⟨_, rfl, fun text kept more hkept => ?_, Or.inl rfl⟩
    have hverdict := Card.settles_number (paramText (some (.scalar text) :: more) 1) text kept (Except.ok.inj hkept)
    exact congrArg Except.ok hverdict
  · exact hsettles rfl (settles_predicate fun text => Card.notExpired text today)
  · exact hsettles rfl Card.settles_type
  · exact hsettles rfl (settles_predicate Address.isInternetAddress)

/-- The postcode constraint, called for the elements of a field. -/
def postcodeCheck : CompiledConstraint :=
  ⟨"postcode", .plain fun params => { outcome := .ok (Address.postcode ((paramText params 0).getD "")) }, none⟩

/-- A field of postcodes that is untainted. -/
def untaintedCodes : CheckSite := ⟨"codes", true, .record FieldMap.empty⟩

/-- Postcodes as they were submitted. -/
def submittedCodes : Progress := ⟨FieldMap.ofList [("codes", .list [" k1a-0b1", "", "H0H0h0"])], FieldMap.empty, []⟩

/-- Postal codes that are untainted pass a second time, in their usual form. -/
theorem plain_constraints_settle_postcodes :
    ∃ run, (Registry.builtins ⟨2026, 1, 1⟩).constraint "postcode" = .ok (.plain run) ∧
      (run [some (.scalar "K1A 0B1")]).outcome = .ok (.matched "K1A 0B1") ∧
      ∃ after again, checkConstraints 4 untaintedCodes [postcodeCheck] [] submittedCodes = (after, .ok []) ∧
        checkConstraints 4 untaintedCodes [postcodeCheck] [] after = (again, .ok []) ∧
        again.working.get? "codes" = some (.list ["K1A 0B1", "", "H0H 0H0"]) := by
  obtain ⟨run, hfunction, hsettles, hagain⟩ := plain_constraints_settle ⟨2026, 1, 1⟩ "postcode" (by decide)
  have hrun : run = fun params => { outcome := .ok (Address.postcode ((paramText params 0).getD "")) } := by
    have hlookup : (Registry.builtins ⟨2026, 1, 1⟩).constraint "postcode" = .ok (.ofVerdict Address.postcode) :=
      Registry.constraint_of_lookup rfl
    rw [hfunction] at hlookup
    cases hlookup
    rfl
  have hkept : Address.postcode " k1a-0b1" = .matched "K1A 0B1" := by decide +kernel
  have hends : (checkConstraints 4 untaintedCodes [postcodeCheck] [] submittedCodes).2.toOption = some [] := by
    decide +kernel
  have hvalue : (checkConstraints 4 untaintedCodes [postcodeCheck] [] submittedCodes).1.working.get? "codes" =
      some (.list ["K1A 0B1", "", "H0H 0H0"]) := by
    decide +kernel
  rcases hfirst : checkConstraints 4 untaintedCodes [postcodeCheck] [] submittedCodes with ⟨after, fault | failures⟩
  · rw [hfirst] at hends
    cases hends
  · rw [hfirst] at hends hvalue
    cases hends
    obtain ⟨again, hsecond, hsame⟩ := hagain 4 untaintedCodes postcodeCheck [] submittedCodes after after
      ⟨by rw [hrun]; rfl, Or.inl ⟨rfl, rfl⟩⟩ rfl (by decide) hfirst rfl (by simp)
    refine ⟨run, hfunction, ?_, after, again, rfl, hsecond, hsame.trans hvalue⟩
    refine hsettles " k1a-0b1" _ [] ?_
    rw [hrun]
    exact congrArg Except.ok hkept

end FormValidation
