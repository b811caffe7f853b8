import Mathlib.Data.List.DropRight
import FormValidation.Text.Class

/-!
# Trimming

What trimming leaves has no blank at either end, and a text without blanks at its ends is what trimming leaves of it.
So trimming twice is trimming once. What is taken away are blanks (`padded_trim`), and a text with nothing but blanks
around it, and none at its ends, is what trimming leaves (`Padded.trim_eq`).
-/

set_option autoImplicit false

namespace FormValidation.Text

/-- Whether there is no blank at either end of a text. -/
structure Trimmed (s : List Char) : Prop where
  head : ∀ c ∈ s.head?, isBlank c = false
  last : ∀ c ∈ s.getLast?, isBlank c = false

variable {s : List Char}

/-- A text without the blanks at its end is a front of it. -/
theorem trimEnd_prefix (s : List Char) : trimEnd s <+: s := List.rdropWhile_prefix isBlank s

/-- A text that does not begin with a blank stays as it is. -/
theorem trimStart_of_head (h : ∀ c ∈ s.head?, isBlank c = false) : trimStart s = s := by
  cases s with
  | nil => rfl
  | cons c rest =>
    have hfirst : isBlank c = false := h c rfl
    exact List.dropWhile_cons_of_neg (by simp [hfirst])

/-- A text that does not end in a blank stays as it is. -/
theorem trimEnd_of_last (h : ∀ c ∈ s.getLast?, isBlank c = false) : trimEnd s = s := by
  refine (List.rdropWhile_eq_self_iff (p := isBlank)).2 fun hne => ?_
  have hlast := h (s.getLast hne) (List.getLast?_eq_some_getLast hne)
  simp [hlast]

/-- A text without blanks at its ends stays as it is. -/
theorem trim_of_trimmed (h : Trimmed s) : trim s = s := by
  unfold trim
  rw [trimStart_of_head h.head, trimEnd_of_last h.last]

/-- The first character behind the blanks at the start of a text is no blank. -/
theorem not_isBlank_of_head_trimStart {c : Char} (h : (trimStart s).head? = some c) : isBlank c = false := by
  have hfirst := List.head?_dropWhile_not isBlank s
  rw [show (s.dropWhile isBlank).head? = some c from h] at hfirst
  simpa using hfirst

/-- A trimmed text has no blanks at its ends. -/
theorem trimmed_trim (s : List Char) : Trimmed (trim s) where
  head c hc := by
    -- what trimming takes away at the end does not concern the first character
    obtain ⟨rest, hrest⟩ := List.head?_eq_some_iff.1 hc
    obtain ⟨tail, htail⟩ := trimEnd_prefix (trimStart s)
    refine not_isBlank_of_head_trimStart (s := s) ?_
    rw [← htail, show trimEnd (trimStart s) = c :: rest from hrest]
    rfl
  last c hc := by
    refine not_isBlank_of_head_trimStart (s := (trimStart s).reverse) ?_
    rw [← List.getLast?_reverse]
    exact hc

/-- Trimming twice is trimming once. -/
theorem trim_trim (s : List Char) : trim (trim s) = trim s := trim_of_trimmed (trimmed_trim s)

/-- Two texts without blanks at their ends have none with other text between them. -/
theorem Trimmed.append {front back : List Char} (hfront : Trimmed front) (hfront_ne : front ≠ [])
    (hback : Trimmed back) (hback_ne : back ≠ []) (between : List Char) : Trimmed (front ++ between ++ back) where
  head c hc := by
    rw [List.append_assoc, List.head?_append_of_ne_nil _ hfront_ne] at hc
    exact hfront.head c hc
  last c hc := by
    rw [List.getLast?_append_of_ne_nil _ hback_ne] at hc
    exact hback.last c hc

/-! ## Blanks around a text -/

/-- A text with nothing but blanks around another one. -/
inductive Padded : List Char → List Char → Prop
  | mk {before s behind : List Char} (hbefore : ∀ c ∈ before, isBlank c) (hbehind : ∀ c ∈ behind, isBlank c) :
      Padded (before ++ s ++ behind) s

/-- A text is padded with nothing around itself. -/
theorem padded_self (s : List Char) : Padded s s := by
  simpa using Padded.mk (s := s) (List.forall_mem_nil _) (List.forall_mem_nil _)

/-- More blanks may stand before a padded text. -/
theorem Padded.blank_append {blanks t : List Char} (hblanks : ∀ c ∈ blanks, isBlank c) (h : Padded t s) :
    Padded (blanks ++ t) s := by
  cases h with
  | @mk before _ behind hbefore hbehind =>
    have hall : ∀ c ∈ blanks ++ before, isBlank c := List.forall_mem_append.2 ⟨hblanks, hbefore⟩
    simpa using Padded.mk (s := s) hall hbehind

/-- More blanks may stand behind a padded text. -/
theorem Padded.append_blank {blanks t : List Char} (h : Padded t s) (hblanks : ∀ c ∈ blanks, isBlank c) :
    Padded (t ++ blanks) s := by
  cases h with
  | @mk before _ behind hbefore hbehind =>
    have hall : ∀ c ∈ behind ++ blanks, isBlank c := List.forall_mem_append.2 ⟨hbehind, hblanks⟩
    simpa using Padded.mk (s := s) hbefore hall

/-- What is trimmed at the start are blanks. -/
theorem exists_blanks_trimStart (s : List Char) : ∃ blanks, (∀ c ∈ blanks, isBlank c) ∧ blanks ++ trimStart s = s :=
  ⟨s.takeWhile isBlank, fun _ hc => List.mem_takeWhile_imp hc, List.takeWhile_append_dropWhile⟩

/-- What is trimmed at the end are blanks. -/
theorem exists_blanks_trimEnd (s : List Char) : ∃ blanks, (∀ c ∈ blanks, isBlank c) ∧ trimEnd s ++ blanks = s := by
  obtain ⟨blanks, hblanks, hs⟩ := exists_blanks_trimStart s.reverse
  refine ⟨blanks.reverse, fun c hc => hblanks c (List.mem_reverse.1 hc), ?_⟩
  have hreverse := congrArg List.reverse hs
  rw [List.reverse_reverse, List.reverse_append] at hreverse
  exact hreverse

/-- A text is what is left of it after trimming, with nothing but blanks around it. -/
theorem padded_trim (s : List Char) : Padded s (trim s) := by
  obtain ⟨before, hbefore, hstart⟩ := exists_blanks_trimStart s
  obtain ⟨behind, hbehind, hend⟩ := exists_blanks_trimEnd (trimStart s)
  have hs : before ++ trim s ++ behind = s := by rw [List.append_assoc, trim, hend, hstart]
  have hpadded : Padded (before ++ trim s ++ behind) (trim s) := .mk hbefore hbehind
  rwa [hs] at hpadded

/-- Blanks before a text do not change what is left after trimming its start. -/
theorem trimStart_append_of_blank {blanks : List Char} (h : ∀ c ∈ blanks, isBlank c) (s : List Char) :
    trimStart (blanks ++ s) = trimStart s := List.dropWhile_append_of_pos h

/-- Blanks behind a text do not change what is left after trimming its end. -/
theorem trimEnd_append_of_blank {blanks : List Char} (h : ∀ c ∈ blanks, isBlank c) (s : List Char) :
    trimEnd (s ++ blanks) = trimEnd s := by
  have hreverse : trimStart (blanks.reverse ++ s.reverse) = trimStart s.reverse :=
    trimStart_append_of_blank (fun c hc => h c (List.mem_reverse.1 hc)) s.reverse
  rw [← List.reverse_append] at hreverse
  exact congrArg List.reverse hreverse

/-- Trimming takes away the blanks around a text, and no more if it has none at its ends. -/
theorem Padded.trim_eq {t : List Char} (h : Padded t s) (hs : Trimmed s) : trim t = s := by
  cases h with
  | @mk before _ behind hbefore hbehind =>
    rw [trim, List.append_assoc, trimStart_append_of_blank hbefore]
    cases s with
    | nil =>
      have hnone : trimStart behind = [] := List.dropWhile_eq_nil_iff.2 hbehind
      rw [List.nil_append, hnone]
      rfl
    | cons c rest =>
      have hstart : trimStart (c :: rest ++ behind) = c :: rest ++ behind :=
        trimStart_of_head fun d hd => hs.head d hd
      rw [hstart, trimEnd_append_of_blank hbehind, trimEnd_of_last hs.last]

end FormValidation.Text
