import FormValidation.Proofs.Pattern.Cutting
import Mathlib.Tactic.SplitIfs

/-!
# What delimited patterns stand for

A delimited text stands for its body, which ends at the last closing delimiter, with the flags behind that delimiter put
before it; any other text stands for itself. `FieldPattern.Translates` lists the four ways in which a text can be read,
each with the condition under which it is, and `FieldPattern.translateChars_eq_iff` says that texts are read in these
ways. A closing delimiter is never a flag, so a body that is written between delimiters comes back whatever it contains.
`FieldPattern.translate_delimited` puts this together.
-/

set_option autoImplicit false

namespace FormValidation.FieldPattern

variable {s rest body letters : List Char} {d c flag : Char}

/-! ## Flags -/

/-- The letters that may stand behind the last closing delimiter. -/
def flagLetters : List Char := ['i', 'm', 's', 'x', 'o', 'g']

/-- What is put before a body: the flags that change the matching, each once and in the order of their first use, or
nothing if there are none. -/
def flagGroup (letters : List Char) : List Char :=
  match (letters.filter fun l => l ∈ ['i', 'm', 's', 'x']).eraseDups with
  | [] => []
  | flags => '(' :: '?' :: flags ++ [')']

/-- The inline flags are four letters. -/
theorem isInlineFlag_eq (c : Char) : isInlineFlag c = decide (c ∈ ['i', 'm', 's', 'x']) := by
  simp [isInlineFlag, Bool.or_assoc, Bool.beq_eq_decide_eq]

/-- The letters of flags are those that are written into the pattern and those that have no effect. -/
theorem mem_flagLetters_iff : c ∈ flagLetters ↔ isInlineFlag c = true ∨ isIdleFlag c = true := by
  simp [flagLetters, isInlineFlag, isIdleFlag, or_assoc]

/-- Letters of flags give the inline flags among them, each once. -/
theorem inlineFlags_of_flags (found : List Char) (h : ∀ l ∈ letters, l ∈ flagLetters) :
    inlineFlags found letters =
      .ok (found ++ ((letters.filter isInlineFlag).filter fun l => !found.contains l).eraseDups) := by
  induction letters generalizing found with
  | nil => simp [inlineFlags]
  | cons l rest ih =>
    have hrest : ∀ l ∈ rest, l ∈ flagLetters := fun l hl => h l (List.mem_cons_of_mem _ hl)
    rw [inlineFlags]
    by_cases hinline : isInlineFlag l = true
    · rw [if_pos hinline, ih _ hrest, List.filter_cons_of_pos hinline]
      by_cases hfound : found.contains l = true
      · rw [if_pos hfound, List.filter_cons_of_neg (by rw [hfound]; decide)]
      · -- the flag is noted, so it is passed over from here on
        have hkept : ∀ inline : List Char, inline.filter (fun x => !(found ++ [l]).contains x) =
            (inline.filter fun x => !found.contains x).filter fun x => !x == l := by
          intro inline
          rw [List.filter_filter]
          refine List.filter_congr fun x _ => ?_
          simp [Bool.and_comm, Bool.beq_eq_decide_eq]
        rw [if_neg hfound, List.filter_cons_of_pos (by simpa using hfound), List.eraseDups_cons, hkept,
          List.append_assoc, List.singleton_append]
    · have hidle : isIdleFlag l = true := (mem_flagLetters_iff.1 (h l List.mem_cons_self)).resolve_left hinline
      rw [if_neg hinline, if_pos hidle, ih _ hrest, List.filter_cons_of_neg hinline]

/-- The first letter that is no flag is the fault. -/
theorem inlineFlags_of_other (found : List Char) (h : letters.find? (fun l => l ∉ flagLetters) = some flag) :
    inlineFlags found letters = .error (.unsupportedFlag flag) := by
  induction letters generalizing found with
  | nil => cases h
  | cons l rest ih =>
    rw [inlineFlags]
    by_cases hflag : l ∈ flagLetters
    · rw [List.find?_cons_of_neg (by simpa using hflag)] at h
      rcases mem_flagLetters_iff.1 hflag with hinline | hidle
      · rw [if_pos hinline, ih _ h]
      · rw [ih _ h, ih _ h, if_pos hidle, ite_self]
    · rw [List.find?_cons_of_pos (by simpa using hflag), Option.some.injEq] at h
      have hnot := mt mem_flagLetters_iff.2 hflag
      rw [if_neg fun hinline => hnot (Or.inl hinline), if_neg fun hidle => hnot (Or.inr hidle), h]

/-- A body whose letters are all flags has the group of these flags before it. -/
theorem withFlags_eq (h : ∀ l ∈ letters, l ∈ flagLetters) (body : List Char) :
    (inlineFlags [] letters).map (withFlags · body) = .ok (flagGroup letters ++ body) := by
  have hnone : (letters.filter isInlineFlag).filter (fun l => !([] : List Char).contains l) =
      letters.filter fun l => l ∈ ['i', 'm', 's', 'x'] := by
    simp [isInlineFlag_eq]
  rw [inlineFlags_of_flags [] h, hnone, List.nil_append, flagGroup]
  cases (letters.filter fun l => l ∈ ['i', 'm', 's', 'x']).eraseDups with
  | nil => rfl
  | cons flag flags => simp [Except.map, withFlags]

/-- Flags are letters, and no delimiter is. -/
theorem closerOf_not_mem_flagLetters (h : Opens s d rest) : closerOf d ∉ flagLetters := by
  cases h with
  | slash => decide
  | letter _ halphanumeric =>
    have hletters : ∀ l ∈ flagLetters, Text.isAlphanumeric l = true := List.all_eq_true.1 (by decide)
    unfold closerOf
    split_ifs
    · decide
    · decide
    · decide
    · decide
    · intro hmem
      rw [hletters d hmem] at halphanumeric
      cases halphanumeric

/-! ## Ways to read a text -/

/-- How a text is read. -/
inductive Translates (s : List Char) : Except PatternFault (List Char) → Prop
  | plain (h : ∀ d rest, ¬ Opens s d rest) : Translates s (.ok s)
  | unterminated {d : Char} {rest : List Char} (hopens : Opens s d rest) (hclose : closerOf d ∉ rest) :
    Translates s (.error .unterminated)
  | unsupported {d flag : Char} {body letters : List Char} (hopens : Opens s d (body ++ closerOf d :: letters))
    (hlast : closerOf d ∉ letters) (hflag : letters.find? (fun l => l ∉ flagLetters) = some flag) :
    Translates s (.error (.unsupportedFlag flag))
  | delimited {d : Char} {body letters : List Char} (hopens : Opens s d (body ++ closerOf d :: letters))
    (hlast : closerOf d ∉ letters) (hflags : ∀ l ∈ letters, l ∈ flagLetters) :
    Translates s (.ok (flagGroup letters ++ body))

/-- A pattern is cut at the last closing character, and what follows are its flags. -/
theorem translateChars_of_opens (h : Opens s d (body ++ closerOf d :: letters)) (hlast : closerOf d ∉ letters) :
    translateChars s = (inlineFlags [] letters).map (withFlags · body) := by
  rw [translateChars, opening?_eq_some_iff.2 h]
  dsimp only
  rw [splitAtLast_append body hlast]
  dsimp only
  cases inlineFlags [] letters <;> rfl

/-- The relation determines what is computed. -/
theorem Translates.eq {result : Except PatternFault (List Char)} (h : Translates s result) :
    translateChars s = result := by
  cases h with
  | plain h => rw [translateChars, opening?_eq_none_iff.2 h]
  | unterminated hopens hclose =>
    rw [translateChars, opening?_eq_some_iff.2 hopens]
    dsimp only
    rw [splitAtLast_of_not_mem hclose]
  | unsupported hopens hlast hflag =>
    rw [translateChars_of_opens hopens hlast, inlineFlags_of_other [] hflag]
    rfl
  | delimited hopens hlast hflags => rw [translateChars_of_opens hopens hlast, withFlags_eq hflags]

/-- Every text can be read. -/
theorem exists_translates (s : List Char) : ∃ result, Translates s result := by
  cases hopening : opening? s with
  | none => exact ⟨_, .plain (opening?_eq_none_iff.1 hopening)⟩
  | some opening =>
    obtain ⟨d, rest⟩ := opening
    have hopens : Opens s d rest := opening?_eq_some_iff.1 hopening
    by_cases hclose : closerOf d ∈ rest
    · obtain ⟨body, letters, rfl, hlast⟩ := exists_last_of_mem hclose
      cases hfind : letters.find? (fun l => l ∉ flagLetters) with
      | none => exact ⟨_, .delimited hopens hlast (by simpa using hfind)⟩
      | some flag => exact ⟨_, .unsupported hopens hlast hfind⟩
    · exact ⟨_, .unterminated hopens hclose⟩

/-- The translation is what the relation says. -/
theorem translateChars_eq_iff {result : Except PatternFault (List Char)} :
    translateChars s = result ↔ Translates s result := by
  constructor
  · rintro rfl
    obtain ⟨result, h⟩ := exists_translates s
    rwa [h.eq]
  · exact Translates.eq

/-! ## Results of a delimited text -/

/-- A pattern is translated exactly when it is closed and all its letters are flags. -/
theorem translates_ok_iff (h : Opens s d rest) {source : List Char} :
    Translates s (.ok source) ↔ ∃ body letters, rest = body ++ closerOf d :: letters ∧ closerOf d ∉ letters ∧
      (∀ l ∈ letters, l ∈ flagLetters) ∧ source = flagGroup letters ++ body := by
  constructor
  · intro htranslates
    cases htranslates with
    | plain hplain => exact absurd h (hplain d rest)
    | @delimited d' body letters hopens hlast hflags =>
      obtain ⟨rfl, rfl⟩ := h.unique hopens
      exact ⟨body, letters, rfl, hlast, hflags, rfl⟩
  · rintro ⟨body, letters, rfl, hlast, hflags, rfl⟩
    exact .delimited h hlast hflags

/-- A pattern is unterminated exactly when the closing character is nowhere in it. -/
theorem translates_unterminated_iff (h : Opens s d rest) :
    Translates s (.error .unterminated) ↔ closerOf d ∉ rest := by
  constructor
  · intro htranslates
    cases htranslates with
    | unterminated hopens hclose =>
      obtain ⟨rfl, rfl⟩ := h.unique hopens
      exact hclose
  · exact .unterminated h

/-- A flag is unsupported exactly when it is the first letter behind the closing character that is no flag. -/
theorem translates_unsupported_iff (h : Opens s d rest) :
    Translates s (.error (.unsupportedFlag flag)) ↔ ∃ body letters, rest = body ++ closerOf d :: letters ∧
      closerOf d ∉ letters ∧ letters.find? (fun l => l ∉ flagLetters) = some flag := by
  constructor
  · intro htranslates
    cases htranslates with
    | @unsupported d' flag body letters hopens hlast hflag =>
      obtain ⟨rfl, rfl⟩ := h.unique hopens
      exact ⟨body, letters, rfl, hlast, hflag⟩
  · rintro ⟨body, letters, rfl, hlast, hflag⟩
    exact .unsupported h hlast hflag

/-- A text is translated as its characters are. -/
theorem translate_eq_ok_iff {text source : String} :
    translate text = .ok source ↔ ∃ s, Translates text.toList (.ok s) ∧ source = String.ofList s := by
  simp only [← translateChars_eq_iff]
  unfold translate
  cases translateChars text.toList <;> simp [eq_comm]

/-- A text fails to be translated as its characters do. -/
theorem translate_eq_error_iff {text : String} {fault : PatternFault} :
    translate text = .error fault ↔ Translates text.toList (.error fault) := by
  rw [← translateChars_eq_iff]
  unfold translate
  cases translateChars text.toList <;> simp

/-- A text that is not delimited stands for itself. A delimited one stands for the body before its last closing
delimiter, behind its flags, unless there is no closing delimiter or another letter stands behind the last one; then the
first such letter is named. So a body that is written between delimiters comes back, whatever it contains. The same
comes out where the text is cut at byte offsets. -/
theorem translate_delimited (text : String) :
    (isDelimited text = true ↔ ∃ d rest, Opens text.toList d rest) ∧
    ((∀ d rest, ¬ Opens text.toList d rest) → translate text = .ok text) ∧
    (∀ d rest, Opens text.toList d rest →
      (∀ source, translate text = .ok source ↔ ∃ body letters, rest = body ++ closerOf d :: letters ∧
        closerOf d ∉ letters ∧ (∀ l ∈ letters, l ∈ flagLetters) ∧
        source = String.ofList (flagGroup letters ++ body)) ∧
      (translate text = .error .unterminated ↔ closerOf d ∉ rest) ∧
      (∀ flag, translate text = .error (.unsupportedFlag flag) ↔ ∃ body letters,
        rest = body ++ closerOf d :: letters ∧ closerOf d ∉ letters ∧
        letters.find? (fun l => l ∉ flagLetters) = some flag) ∧
      (∀ body letters, rest = body ++ closerOf d :: letters → (∀ l ∈ letters, l ∈ flagLetters) →
        translate text = .ok (String.ofList (flagGroup letters ++ body)))) ∧
    (∀ fault, translate text = .error fault →
      fault = .unterminated ∧ fault.message = "unterminated pattern" ∨
      ∃ flag, fault = .unsupportedFlag flag ∧ fault.message = "unsupported flag '" ++ flag.toString ++ "'") ∧
    translateAtOffsets text = (translate text).mapError .pattern := by
  refine ⟨isDelimited_iff text, fun hplain => ?_, fun d rest hopens => ?_, fun fault hfault => ?_,
    translateAtOffsets_eq text⟩
  · exact translate_eq_ok_iff.2 ⟨text.toList, .plain hplain, String.ofList_toList.symm⟩
  · refine ⟨fun source => ?_, ?_, fun flag => ?_, fun body letters hrest hflags => ?_⟩
    · rw [translate_eq_ok_iff]
      constructor
      · rintro ⟨s, htranslates, rfl⟩
        obtain ⟨body, letters, hrest, hlast, hflags, rfl⟩ := (translates_ok_iff hopens).1 htranslates
        exact ⟨body, letters, hrest, hlast, hflags, rfl⟩
      · rintro ⟨body, letters, hrest, hlast, hflags, rfl⟩
        exact ⟨_, (translates_ok_iff hopens).2 ⟨body, letters, hrest, hlast, hflags, rfl⟩, rfl⟩
    · rw [translate_eq_error_iff, translates_unterminated_iff hopens]
    · rw [translate_eq_error_iff, translates_unsupported_iff hopens]
    · subst hrest
      -- what closes the body is no flag, so it does not occur among them
      have hlast : closerOf d ∉ letters := fun hmem => closerOf_not_mem_flagLetters hopens (hflags _ hmem)
      exact translate_eq_ok_iff.2 ⟨_, .delimited hopens hlast hflags, rfl⟩
  · cases translate_eq_error_iff.1 hfault with
    | unterminated => exact Or.inl ⟨rfl, rfl⟩
    | unsupported => exact Or.inr ⟨_, rfl, rfl⟩

/-- The body holds the closing bracket, and one of the flags is repeated. -/
theorem translate_delimited_bracketed :
    Opens "m\x7ba\x7d\x7d+\x7dxigx".toList '\x7b' "a\x7d\x7d+\x7dxigx".toList ∧
      translate "m\x7ba\x7d\x7d+\x7dxigx" = .ok "(?xi)a\x7d\x7d+" := by
  have hopens : Opens "m\x7ba\x7d\x7d+\x7dxigx".toList '\x7b' "a\x7d\x7d+\x7dxigx".toList :=
    .letter _ (by decide) (by decide) (by decide)
  have hbody := ((translate_delimited "m\x7ba\x7d\x7d+\x7dxigx").2.2.1 _ _ hopens).2.2.2
  exact ⟨hopens, hbody "a\x7d\x7d+".toList "xigx".toList rfl (by simp [flagLetters])⟩

end FormValidation.FieldPattern
