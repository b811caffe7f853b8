import FormValidation.Proofs.Registry.Builtins
import FormValidation.Proofs.Text.Trimming

/-!
# Cleaning and extraction filters

Data that a filter has cleaned is clean: the filter leaves it alone when it is submitted again. For the filters that
extract a number this is because what they extract is a number from its first to its last character, as the filter
reads it (`NumberSyntax.Writes`), and a text that is a number as a whole is the first number in itself
(`first_of_writes`). That the first number in a text was looked for from left to right, and taken as long as it goes,
does not matter for this; what does is that there is one whenever a part of the text is a number (`first_spec`).
-/

set_option autoImplicit false

namespace FormValidation.TextFilter

/-! ## Blanks -/

/-- Of a run of blanks the first one becomes a space. -/
theorem collapse_cons_of_blank {c : Char} (inRun : Bool) (rest : List Char) (h : Text.isBlank c = true) :
    collapse inRun (c :: rest) = if inRun then collapse true rest else ' ' :: collapse true rest := by
  rw [collapse, if_pos h]

/-- What is no blank is kept. -/
theorem collapse_cons_of_not_blank {c : Char} (inRun : Bool) (rest : List Char) (h : Text.isBlank c = false) :
    collapse inRun (c :: rest) = c :: collapse false rest := by
  rw [collapse, if_neg (by simp [h])]

/-- Runs of blanks that were collapsed stay as they are. -/
theorem collapse_collapse (inRun : Bool) (s : List Char) : collapse inRun (collapse inRun s) = collapse inRun s := by
  have hspace : Text.isBlank ' ' = true := by decide +kernel
  induction s generalizing inRun with
  | nil => rfl
  | cons c rest ih =>
    cases hblank : Text.isBlank c with
    | false => rw [collapse_cons_of_not_blank _ _ hblank, collapse_cons_of_not_blank _ _ hblank, ih]
    | true =>
      rw [collapse_cons_of_blank _ _ hblank]
      cases inRun with
      | true => exact ih true
      | false =>
        show collapse false (' ' :: collapse true rest) = ' ' :: collapse true rest
        rw [collapse_cons_of_blank _ _ hspace, ih]
        rfl

/-- A text that does not end in a blank keeps its last character. -/
theorem getLast?_collapse (inRun : Bool) {s : List Char} {c : Char} (hlast : s.getLast? = some c)
    (hc : Text.isBlank c = false) : (collapse inRun s).getLast? = some c := by
  induction s generalizing inRun with
  | nil => cases hlast
  | cons d rest ih =>
    cases rest with
    | nil =>
      have hd : d = c := Option.some.inj hlast
      rw [hd, collapse_cons_of_not_blank _ _ hc]
      rfl
    | cons e more =>
      have hrest : (e :: more).getLast? = some c := hlast
      have hadd : ∀ (a : Char) (inRun : Bool), (a :: collapse inRun (e :: more)).getLast? = some c := fun a inRun =>
        List.mem_getLast?_cons (ih inRun hrest)
      cases hblank : Text.isBlank d with
      | false =>
        rw [collapse_cons_of_not_blank _ _ hblank]
        exact hadd d false
      | true =>
        rw [collapse_cons_of_blank _ _ hblank]
        cases inRun with
        | true => exact ih true hrest
        | false => exact hadd ' ' true

/-- Collapsing the blanks inside a text puts none at its ends. -/
theorem trimmed_collapse {s : List Char} (h : Text.Trimmed s) : Text.Trimmed (collapse false s) := by
  cases s with
  | nil => exact h
  | cons c rest =>
    have hfirst : Text.isBlank c = false := h.head c rfl
    obtain ⟨last, hlast⟩ : ∃ last, (c :: rest).getLast? = some last := ⟨_, List.getLast?_eq_some_getLast (by simp)⟩
    have hend := getLast?_collapse false hlast (h.last last hlast)
    refine ⟨fun d hd => ?_, fun d hd => ?_⟩
    · rw [collapse_cons_of_not_blank _ _ hfirst] at hd
      rw [← Option.some.inj hd]
      exact hfirst
    · rw [← Option.some.inj (hend.symm.trans hd)]
      exact h.last last hlast

/-- A stripped text stays as it is. -/
theorem strip_strip (s : List Char) : strip (strip s) = strip s := by
  have htrimmed : Text.Trimmed (strip s) := trimmed_collapse (Text.trimmed_trim s)
  calc strip (strip s) = collapse false (strip s) := by rw [strip, Text.trim_of_trimmed htrimmed]
    _ = strip s := collapse_collapse false (Text.trim s)

/-! ## Single characters -/

/-- Where a character does not occur, replacing it changes nothing. -/
theorem replace_of_not_mem {old new : Char} {s : List Char} (h : old ∉ s) : replace old new s = s := by
  refine (List.map_congr_left fun c hc => if_neg ?_).trans (List.map_id' s)
  rintro rfl
  exact h hc

/-- A character that was replaced does not occur any more. -/
theorem not_mem_replace {old new : Char} (hne : new ≠ old) (s : List Char) : old ∉ replace old new s := by
  intro hmem
  obtain ⟨c, -, hc⟩ := List.mem_map.1 hmem
  split at hc
  · exact hne hc
  next hother => exact hother hc

/-- Replacing a character twice is replacing it once. -/
theorem replace_replace {old new : Char} (hne : new ≠ old) (s : List Char) :
    replace old new (replace old new s) = replace old new s := replace_of_not_mem (not_mem_replace hne s)

/-! ## How numbers are written -/

/-- The texts that may stand in front of the digits of a number. -/
inductive Sign.Allows : Sign → List Char → Prop
  | absent (signs : List Char) : Sign.Allows (.optional signs) []
  | present {signs : List Char} {c : Char} (h : c ∈ signs) : Sign.Allows (.optional signs) [c]
  | needed (sign : Char) : Sign.Allows (.needed sign) [sign]

/-- The texts that may stand behind the digits of a number. -/
inductive Fraction.Allows : Fraction → List Char → Prop
  | absent (f : Fraction) : Fraction.Allows f []
  | point {limit : Option Nat} {places : List Char} (hdigits : ∀ c ∈ places, Text.isDecimalDigit c)
      (hlimit : ∀ n ∈ limit, places.length ≤ n) : Fraction.Allows (.digits limit) ('.' :: places)

namespace NumberSyntax

/-- The texts that are numbers as a whole: a sign, one digit or more, and a fraction. -/
inductive Writes (n : NumberSyntax) : List Char → Prop
  | number {sign fraction : List Char} {d : Char} {digits : List Char} (hsign : n.sign.Allows sign)
      (hfirst : Text.isDecimalDigit d) (hdigits : ∀ c ∈ digits, Text.isDecimalDigit c)
      (hfraction : n.fraction.Allows fraction) : Writes n (sign ++ (d :: digits ++ fraction))

/-- A number is written with at least one character. -/
theorem Writes.ne_nil {n : NumberSyntax} {s : List Char} (h : n.Writes s) : s ≠ [] := by
  cases h
  simp

/-- No digit is a sign that may be left out. -/
def Proper (n : NumberSyntax) : Prop := ∀ signs, n.sign = .optional signs → ∀ c ∈ signs, ¬ Text.isDecimalDigit c

end NumberSyntax

variable {n : NumberSyntax}

/-- A sign that may stand in front of a digit is taken there. -/
theorem Sign.take_of_allows (hproper : n.Proper) {front : List Char} {d : Char} (hfront : n.sign.Allows front)
    (hd : Text.isDecimalDigit d) (rest : List Char) :
    n.sign.take (front ++ d :: rest) = some (front, d :: rest) := by
  generalize hsign : n.sign = sign at hfront
  cases hfront with
  | absent signs =>
    have hnone : signs.contains d = false := by
      rw [List.contains_eq_mem, decide_eq_false_iff_not]
      exact fun hmem => hproper signs hsign d hmem hd
    rw [List.nil_append, Sign.take, hnone]
    rfl
  | present h => simp [Sign.take, h]
  | needed c => simp [Sign.take]

/-- What is taken for a sign is an allowed sign at the front. -/
theorem Sign.allows_of_take {sign : Sign} {s front rest : List Char} (h : sign.take s = some (front, rest)) :
    sign.Allows front ∧ s = front ++ rest := by
  cases sign with
  | optional signs =>
    cases s with
    | nil =>
      cases h
      exact ⟨.absent signs, rfl⟩
    | cons c more =>
      rw [Sign.take] at h
      split at h
      next hmem =>
        cases h
        exact ⟨.present (List.contains_iff_mem.1 hmem), rfl⟩
      · cases h
        exact ⟨.absent signs, rfl⟩
  | needed c =>
    cases s with
    | nil => cases h
    | cons d more =>
      rw [Sign.take] at h
      split at h
      next heq =>
        cases h
        rw [heq]
        exact ⟨.needed c, rfl⟩
      · cases h

/-! ## Taking a number -/

/-- The digits that are taken are a front of the text. -/
theorem takeDigits_prefix (limit : Option Nat) (s : List Char) : takeDigits limit s <+: s := by
  have hdigits := List.takeWhile_prefix (l := s) Text.isDecimalDigit
  cases limit with
  | none => exact hdigits
  | some n => exact (List.take_prefix n _).trans hdigits

/-- Digits are taken as a whole, up to the limit. -/
theorem takeDigits_of_digits {limit : Option Nat} {s : List Char} (hdigits : ∀ c ∈ s, Text.isDecimalDigit c)
    (hlimit : ∀ n ∈ limit, s.length ≤ n) : takeDigits limit s = s := by
  have hall : s.takeWhile Text.isDecimalDigit = s := List.takeWhile_eq_self_iff.2 hdigits
  cases limit with
  | none => exact hall
  | some n =>
    show (s.takeWhile Text.isDecimalDigit).take n = s
    rw [hall]
    exact List.take_of_length_le (hlimit n rfl)

/-- What is taken are digits. -/
theorem isDecimalDigit_of_mem_takeDigits {limit : Option Nat} {s : List Char} {c : Char} (h : c ∈ takeDigits limit s) :
    Text.isDecimalDigit c := by
  cases limit with
  | none => exact List.mem_takeWhile_imp h
  | some n => exact List.mem_takeWhile_imp (List.mem_of_mem_take h)

/-- The fraction that is taken is a front of the text. -/
theorem Fraction.take_prefix (f : Fraction) (s : List Char) : f.take s <+: s := by
  unfold Fraction.take
  split
  · exact List.cons_prefix_cons.2 ⟨rfl, takeDigits_prefix _ _⟩
  · exact List.nil_prefix

/-- The fraction that is taken is allowed. -/
theorem Fraction.allows_take (f : Fraction) (s : List Char) : f.Allows (f.take s) := by
  unfold Fraction.take
  split
  next limit rest =>
    refine .point (fun c hc => isDecimalDigit_of_mem_takeDigits hc) ?_
    rintro n rfl
    exact List.length_take_le _ _
  · exact .absent f

/-- An allowed fraction is taken as a whole. -/
theorem Fraction.take_of_allows {f : Fraction} {s : List Char} (h : f.Allows s) : f.take s = s := by
  cases h with
  | absent f => cases f <;> rfl
  | point hdigits hlimit => rw [Fraction.take, takeDigits_of_digits hdigits hlimit]

/-- The digits of a number end where its fraction starts. -/
theorem Fraction.not_digit_of_allows {f : Fraction} {s : List Char} (h : f.Allows s) :
    s.takeWhile Text.isDecimalDigit = [] ∧ s.dropWhile Text.isDecimalDigit = s := by
  have hpoint : Text.isDecimalDigit '.' = false := by decide +kernel
  cases h with
  | absent f => exact ⟨rfl, rfl⟩
  | point hdigits hlimit => simp [hpoint]

namespace NumberSyntax

/-- Behind a sign and a digit there is always a number to take. -/
theorem take_of_digit (hproper : n.Proper) {sign : List Char} {d : Char} (hsign : n.sign.Allows sign)
    (hd : Text.isDecimalDigit d) (rest : List Char) :
    n.take (sign ++ d :: rest) = some (sign ++ d :: rest.takeWhile Text.isDecimalDigit ++
      n.fraction.take (rest.dropWhile Text.isDecimalDigit)) := by
  unfold take
  rw [Sign.take_of_allows hproper hsign hd]
  simp only [List.takeWhile_cons_of_pos hd, List.dropWhile_cons_of_pos hd]

/-- What is taken of a text is a number, and stands at its front. -/
theorem writes_of_take {s number : List Char} (h : n.take s = some number) : n.Writes number ∧ number <+: s := by
  unfold take at h
  split at h
  · cases h
  next sign rest hsign =>
    obtain ⟨hallows, rfl⟩ := Sign.allows_of_take hsign
    split at h
    · cases h
    next digits hne =>
      cases h
      have hdigits : ∀ c ∈ rest.takeWhile Text.isDecimalDigit, Text.isDecimalDigit c := fun c hc =>
        List.mem_takeWhile_imp hc
      have hfront : rest.takeWhile Text.isDecimalDigit ++
          n.fraction.take (rest.dropWhile Text.isDecimalDigit) <+: rest := by
        conv_rhs => rw [← List.takeWhile_append_dropWhile (p := Text.isDecimalDigit) (l := rest)]
        exact (List.prefix_append_right_inj _).2 (Fraction.take_prefix _ _)
      rw [List.append_assoc]
      refine ⟨?_, (List.prefix_append_right_inj sign).2 hfront⟩
      cases hcase : rest.takeWhile Text.isDecimalDigit with
      | nil => exact absurd hcase hne
      | cons d more =>
        rw [hcase] at hdigits
        exact .number hallows (hdigits d List.mem_cons_self) (fun c hc => hdigits c (List.mem_cons_of_mem d hc))
          (Fraction.allows_take _ _)

/-- There is a number to take at the front of a text that begins with one. -/
theorem isSome_take_of_writes (hproper : n.Proper) {part : List Char} (h : n.Writes part) (rest : List Char) :
    (n.take (part ++ rest)).isSome := by
  cases h with
  | number hsign hfirst hdigits hfraction =>
    rw [List.append_assoc, List.append_assoc, List.cons_append, take_of_digit hproper hsign hfirst]
    rfl

/-- A number is taken as a whole. -/
theorem take_of_writes (hproper : n.Proper) {s : List Char} (h : n.Writes s) : n.take s = some s := by
  cases h with
  | @number sign fraction d digits hsign hfirst hdigits hfraction =>
    obtain ⟨htake, hdrop⟩ := Fraction.not_digit_of_allows hfraction
    have hall : (digits ++ fraction).takeWhile Text.isDecimalDigit = digits := by
      rw [List.takeWhile_append_of_pos hdigits, htake, List.append_nil]
    have hrest : (digits ++ fraction).dropWhile Text.isDecimalDigit = fraction := by
      rw [List.dropWhile_append_of_pos hdigits, hdrop]
    rw [List.cons_append, take_of_digit hproper hsign hfirst, hall, hrest, Fraction.take_of_allows hfraction,
      List.append_assoc, List.cons_append]

/-! ## The first number -/

/-- The first number in a text is a part of the text that is a number; it is empty when no part is one. -/
theorem first_spec (hproper : n.Proper) (s : List Char) :
    n.first s = [] ∧ (∀ part, part <:+: s → ¬ n.Writes part) ∨ n.Writes (n.first s) ∧ n.first s <:+: s := by
  induction s with
  | nil => exact Or.inl ⟨rfl, fun part hpart hwrites => hwrites.ne_nil (List.infix_nil.1 hpart)⟩
  | cons c rest ih =>
    rw [first]
    split
    next number hnumber =>
      obtain ⟨hwrites, hprefix⟩ := writes_of_take hnumber
      exact Or.inr ⟨hwrites, hprefix.isInfix⟩
    next hnone =>
      rcases ih with ⟨hempty, hno⟩ | ⟨hwrites, hinfix⟩
      · refine Or.inl ⟨hempty, fun part hpart hwrites => ?_⟩
        rcases List.infix_cons_iff.1 hpart with ⟨tail, htail⟩ | hinner
        · have hsome := isSome_take_of_writes hproper hwrites tail
          rw [htail, hnone] at hsome
          cases hsome
        · exact hno part hinner hwrites
      · exact Or.inr ⟨hwrites, hinfix.trans (List.suffix_cons c rest).isInfix⟩

/-- A number is the first number in itself. -/
theorem first_of_writes (hproper : n.Proper) {s : List Char} (h : n.Writes s) : n.first s = s := by
  cases s with
  | nil => rfl
  | cons c rest => rw [first, take_of_writes hproper h]

/-- The first number of the first number is this number. -/
theorem first_first (hproper : n.Proper) (s : List Char) : n.first (n.first s) = n.first s := by
  rcases first_spec hproper s with ⟨hempty, -⟩ | ⟨hwrites, -⟩
  · rw [hempty]
    rfl
  · exact first_of_writes hproper hwrites

end NumberSyntax

/-! ## The built-in filters -/

/-- The filters that clean a text. -/
def cleaningFilters : List String := ["trim", "strip", "digit", "alphanum", "phone", "sql_wildcard"]

/-- A filter that extracts the first number that is written in a certain way, and whether it reads commas as points. -/
structure NumberFilter where
  name : String
  form : NumberSyntax
  readsCommas : Bool

/-- The filters that extract numbers. -/
def numberFilters : List NumberFilter := [
  ⟨"integer", integer, false⟩,
  ⟨"pos_integer", posInteger, false⟩,
  ⟨"neg_integer", negInteger, false⟩,
  ⟨"decimal", decimal, true⟩,
  ⟨"pos_decimal", posDecimal, true⟩,
  ⟨"neg_decimal", negDecimal, true⟩,
  ⟨"dollars", dollars, true⟩]

/-- A filter on characters that settles does so on texts. -/
theorem ofChars_ofChars {f : List Char → List Char} (h : ∀ s, f (f s) = f s) (text : String) :
    ofChars f (ofChars f text) = ofChars f text := by
  rw [ofChars, ofChars, String.toList_ofList, h]

namespace NumberFilter

/-- The text in which a filter looks for numbers. -/
def reads (e : NumberFilter) (s : List Char) : List Char := if e.readsCommas then replace ',' '.' s else s

/-- What a filter extracts. -/
def extract (e : NumberFilter) (s : List Char) : List Char := e.form.first (e.reads s)

variable {e : NumberFilter}

/-- The built-in registry has the filter under its name. -/
theorem filter_eq (today : Date) (h : e ∈ numberFilters) :
    (Registry.builtins today).filter e.name = .ok (ofChars e.extract) := by
  simp only [numberFilters, List.mem_cons, List.not_mem_nil, or_false] at h
  rcases h with rfl | rfl | rfl | rfl | rfl | rfl | rfl <;> exact Registry.filter_of_lookup today rfl

/-- The number filters have proper forms. -/
theorem proper_of_mem (h : e ∈ numberFilters) : e.form.Proper := by
  have hplus : Text.isDecimalDigit '+' = false := by decide +kernel
  have hminus : Text.isDecimalDigit '-' = false := by decide +kernel
  simp only [numberFilters, List.mem_cons, List.not_mem_nil, or_false] at h
  intro signs hsigns
  rcases h with rfl | rfl | rfl | rfl | rfl | rfl | rfl <;> cases hsigns <;> simp [hplus, hminus]

/-- There are no commas in a part of a text that was read without them. -/
theorem reads_of_infix {s part : List Char} (h : part <:+: e.reads s) : e.reads part = part := by
  unfold reads at h ⊢
  split
  next hcommas =>
    rw [if_pos hcommas] at h
    exact replace_of_not_mem fun hmem => not_mem_replace (by decide) s (h.subset hmem)
  · rfl

/-- An extracted number is extracted again as it is. -/
theorem extract_extract (hproper : e.form.Proper) (s : List Char) : e.extract (e.extract s) = e.extract s := by
  have hinfix : e.extract s <:+: e.reads s := by
    rcases NumberSyntax.first_spec hproper (e.reads s) with ⟨hempty, -⟩ | ⟨-, hinfix⟩
    · rw [extract, hempty]
      exact List.nil_infix
    · exact hinfix
  calc e.extract (e.extract s) = e.form.first (e.extract s) := by rw [extract, reads_of_infix hinfix]
    _ = e.extract s := NumberSyntax.first_first hproper (e.reads s)

end NumberFilter

/-- The filters that clean a text or extract a number leave alone what they have given. What is extracted is a number,
and a part of the text that was read, and it is empty only when no part of that text is a number. -/
theorem cleaning_settles (today : Date) :
    (∀ name ∈ cleaningFilters, ∃ run, (Registry.builtins today).filter name = .ok run ∧
      ∀ text, run (run text) = run text) ∧
    ∀ e ∈ numberFilters, ∃ run, (Registry.builtins today).filter e.name = .ok run ∧ ∀ text,
      run (run text) = run text ∧
      (run text = "" ∨ e.form.Writes (run text).toList) ∧
      (run text).toList <:+: e.reads text.toList ∧
      (run text = "" → ∀ part, part <:+: e.reads text.toList → ¬ e.form.Writes part) := by
  refine ⟨fun name hname => ?_, fun e he => ⟨_, e.filter_eq today he, fun text => ?_⟩⟩
  · have hsettles : ∀ {f}, FieldMap.lookup name builtins = some f → (∀ s, f (f s) = f s) →
        ∃ run, (Registry.builtins today).filter name = .ok run ∧ ∀ text, run (run text) = run text :=
      fun hlookup hf => ⟨_, Registry.filter_of_lookup today hlookup, ofChars_ofChars hf⟩
    have hkept : ∀ (p : Char → Bool) (s : List Char), (s.filter p).filter p = s.filter p := fun p s => by
      rw [List.filter_filter]
      simp
    simp only [cleaningFilters, List.mem_cons, List.not_mem_nil, or_false] at hname
    rcases hname with rfl | rfl | rfl | rfl | rfl | rfl
    · exact hsettles rfl Text.trim_trim
    · exact hsettles rfl strip_strip
    · exact hsettles rfl (hkept Char.isDigit)
    · exact hsettles rfl (hkept Text.isAlphanumeric)
    · exact hsettles rfl (hkept isPhoneChar)
    · exact hsettles rfl (replace_replace (by decide))
  · have hproper := NumberFilter.proper_of_mem he
    have hchars : (ofChars e.extract text).toList = e.extract text.toList := String.toList_ofList
    have hempty : ofChars e.extract text = "" ↔ e.extract text.toList = [] := by
      rw [← hchars, String.toList_eq_nil_iff]
    rw [hempty, hchars]
    refine ⟨ofChars_ofChars (e.extract_extract hproper) text, ?_⟩
    rcases NumberSyntax.first_spec hproper (e.reads text.toList) with ⟨hnone, hno⟩ | ⟨hwrites, hinfix⟩
    · exact ⟨Or.inl hnone, by rw [NumberFilter.extract, hnone]; exact List.nil_infix, fun _ => hno⟩
    · refine ⟨Or.inr hwrites, hinfix, fun h => ?_⟩
      rw [show e.form.first (e.reads text.toList) = [] from h] at hwrites
      exact absurd rfl hwrites.ne_nil

/-- A price with a separator is extracted with two decimals, and stays so. -/
theorem cleaning_settles_spokenPrice :
    ∃ run, (Registry.builtins ⟨2026, 1, 1⟩).filter "dollars" = .ok run ∧
      run "about -3,755 or 4" = "3.75" ∧ run (run "about -3,755 or 4") = run "about -3,755 or 4" := by
  obtain ⟨run, hrun, hsettles⟩ := (cleaning_settles ⟨2026, 1, 1⟩).2 ⟨"dollars", dollars, true⟩ (by simp [numberFilters])
  refine ⟨run, hrun, ?_, (hsettles _).1⟩
  have hfilter := NumberFilter.filter_eq ⟨2026, 1, 1⟩ (e := ⟨"dollars", dollars, true⟩) (by simp [numberFilters])
  rw [Except.ok.inj (hrun.symm.trans hfilter)]
  decide +kernel

end FormValidation.TextFilter
