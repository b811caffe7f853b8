import FormValidation.Proofs.Message.Format
import Mathlib.Data.Finset.Card

/-!
# Putting a message into its format

A format with one place for the message puts two fixed texts around every message and changes nothing of it. Which
formats have exactly one place is said in two ways: by the scan from left to right, which takes `%%` and `%s` as pairs
(`MessageFormat.pieces`), and by what stands in the format: of a run of percent signs those are pairs that stand side by
side from its start, so an s is the end of a placeholder where an odd number of them stands directly before it
(`MessageFormat.count_placeholder_eq`). A text in which every percent sign is doubled comes out as it was
(`MessageFormat.pieces_escape_append`). `MessageFormat.apply_verbatim` is the summary.
-/

set_option autoImplicit false

namespace FormValidation.MessageFormat

/-! ## The texts around a message -/

variable {text : List Char} {ps : List Piece}

/-- Pieces without a placeholder give the same with every text. -/
theorem flatMap_filled_of_not_mem (h : Piece.placeholder ∉ ps) (text : List Char) :
    ps.flatMap (Piece.filled text) = ps.flatMap (Piece.filled []) := by
  refine List.flatMap_congr fun p hp => ?_
  cases p with
  | char c => rfl
  | placeholder => exact absurd hp h

/-- What comes out for the pieces before the place and behind it is the same for every message. -/
theorem exists_fill_eq {format : String} (h : WellFormed format) :
    ∃ before behind, ∀ text, fill format text = before ++ text ++ behind := by
  have hcount : (pieces format.toList).count .placeholder = 1 := h
  obtain ⟨front, back, hpieces⟩ := List.append_of_mem (List.count_pos_iff.1 (hcount ▸ Nat.one_pos))
  rw [hpieces, List.count_append, List.count_cons_self] at hcount
  have hfront : Piece.placeholder ∉ front := List.count_eq_zero.1 (by omega)
  have hback : Piece.placeholder ∉ back := List.count_eq_zero.1 (by omega)
  refine ⟨String.ofList (front.flatMap (Piece.filled [])), String.ofList (back.flatMap (Piece.filled [])), fun text => ?_⟩
  rw [fill, hpieces, List.flatMap_append, List.flatMap_cons, flatMap_filled_of_not_mem hfront,
    flatMap_filled_of_not_mem hback, ← List.append_assoc, String.ofList_append, String.ofList_append]
  simp [Piece.filled]

/-! ## Escaped texts -/

/-- The text with every percent sign doubled. -/
def escape (s : String) : String :=
  String.ofList (s.toList.flatMap fun c => if c = '%' then ['%', '%'] else [c])

/-- A character other than the percent sign is a piece of its own. -/
theorem pieces_cons_of_ne {c : Char} (h : c ≠ '%') (rest : List Char) : pieces (c :: rest) = .char c :: pieces rest := by
  rw [pieces]
  · exact fun _ heq _ => h heq
  · exact fun _ heq _ => h heq

/-- An escaped text is read as the characters that the text consists of, whatever stands behind it. -/
theorem pieces_escape_append (s : String) (rest : List Char) :
    pieces ((escape s).toList ++ rest) = s.toList.map Piece.char ++ pieces rest := by
  rw [escape, String.toList_ofList]
  induction s.toList with
  | nil => rfl
  | cons c s ih =>
    rw [List.flatMap_cons, List.append_assoc, List.map_cons, List.cons_append, ← ih]
    by_cases hc : c = '%'
    · rw [if_pos hc, hc]
      rfl
    · rw [if_neg hc, List.singleton_append, pieces_cons_of_ne hc]

/-- Escaped texts with a placeholder between them are read back as their characters with the placeholder between
them. -/
theorem pieces_escaped (a b : String) : pieces (escape a ++ "%s" ++ escape b).toList =
    a.toList.map Piece.char ++ .placeholder :: b.toList.map Piece.char := by
  have hback : pieces (escape b).toList = b.toList.map Piece.char := by
    simpa [pieces] using pieces_escape_append b []
  rw [String.toList_append, String.toList_append, List.append_assoc, pieces_escape_append, ← hback]
  rfl

/-- A text that is put between escaped texts stands between these texts. -/
theorem apply_escaped (a b text : String) : apply (escape a ++ "%s" ++ escape b) text = .ok (a ++ text ++ b) := by
  have hchars : ∀ s : List Char, (s.map Piece.char).flatMap (Piece.filled text.toList) = s := by
    intro s
    rw [List.flatMap_map]
    exact List.flatMap_singleton' s
  have hnone : ∀ s : List Char, (s.map Piece.char).count .placeholder = 0 := by
    intro s
    simp [List.count_eq_zero]
  have hwell : WellFormed (escape a ++ "%s" ++ escape b) := by
    rw [WellFormed, pieces_escaped, List.count_append, List.count_cons_self, hnone, hnone]
  rw [apply_eq, if_pos hwell, fill, pieces_escaped, List.flatMap_append, List.flatMap_cons, hchars, hchars]
  simp [Piece.filled, String.append_assoc]

/-! ## Runs of percent signs -/

/-- How many percent signs there are at the end of a text. -/
def percentsAtEnd (s : List Char) : Nat := (s.reverse.takeWhile (· = '%')).length

/-- The character of a number is an s with an odd number of percent signs directly before it. -/
def IsPlaceholder (format : List Char) (n : Nat) : Prop :=
  format[n]? = some 's' ∧ percentsAtEnd (format.take n) % 2 = 1

instance (format : List Char) : DecidablePred (IsPlaceholder format) :=
  fun _ => inferInstanceAs (Decidable (_ ∧ _))

/-- Percent signs at the end are counted behind the last other character. -/
theorem percentsAtEnd_append_cons {c : Char} (h : c ≠ '%') (front s : List Char) :
    percentsAtEnd (front ++ c :: s) = percentsAtEnd s := by
  have hstop : (c :: front.reverse).takeWhile (· = '%') = [] := List.takeWhile_cons_of_neg (by simpa using h)
  rw [percentsAtEnd, List.reverse_append, List.reverse_cons, List.append_assoc, List.singleton_append,
    List.takeWhile_append, hstop]
  split <;> simp [percentsAtEnd, *]

/-- A pair of percent signs does not change whether their number at the end is even. -/
theorem percentsAtEnd_pair (s : List Char) : percentsAtEnd ('%' :: '%' :: s) % 2 = percentsAtEnd s % 2 := by
  have hpair : ['%', '%'].takeWhile (fun c => decide (c = '%')) = ['%', '%'] := by decide
  have hreverse : ('%' :: '%' :: s).reverse = s.reverse ++ ['%', '%'] := by simp
  rw [percentsAtEnd, percentsAtEnd, hreverse, List.takeWhile_append, hpair]
  split
  next hall => rw [hall, List.length_append, List.length_cons, List.length_singleton, Nat.add_mod_right]
  next => rfl

/-- The number of placeholders in a text. -/
def placeholders (format : List Char) : Nat := (List.range format.length).countP fun n => IsPlaceholder format n

/-- Where a front does not change whether a run of percent signs behind it is odd, placeholders are counted apart. -/
theorem placeholders_append {front : List Char} (h : ∀ s, percentsAtEnd (front ++ s) % 2 = percentsAtEnd s % 2)
    (rest : List Char) : placeholders (front ++ rest) = placeholders front + placeholders rest := by
  rw [placeholders, List.length_append, List.range_add, List.countP_append, List.countP_map]
  congr 1
  · refine List.countP_congr fun n hn => ?_
    have hlt : n < front.length := List.mem_range.1 hn
    rw [decide_eq_true_iff, decide_eq_true_iff, IsPlaceholder, IsPlaceholder, List.getElem?_append_left hlt,
      List.take_append_of_le_length (Nat.le_of_lt hlt)]
  · refine List.countP_congr fun n _ => ?_
    rw [Function.comp_apply, decide_eq_true_iff, decide_eq_true_iff, IsPlaceholder, IsPlaceholder,
      List.getElem?_append_right (Nat.le_add_right _ _), Nat.add_sub_cancel_left, List.take_length_add_append, h]

/-- What stands before another character than a percent sign is of no account behind it. -/
theorem placeholders_append_cons {c : Char} (h : c ≠ '%') (front rest : List Char) :
    placeholders (front ++ c :: rest) = placeholders (front ++ [c]) + placeholders rest := by
  rw [← placeholders_append fun s => ?_, List.append_assoc, List.singleton_append]
  rw [List.append_assoc, List.singleton_append, percentsAtEnd_append_cons h]

/-- A single character is no placeholder. -/
theorem placeholders_singleton (c : Char) : placeholders [c] = 0 := by
  simp [placeholders, List.range_succ, IsPlaceholder, percentsAtEnd]

/-- The scan that takes `%%` and `%s` as pairs finds the placeholders. -/
theorem count_placeholder_eq (format : List Char) : (pieces format).count .placeholder = placeholders format := by
  fun_induction pieces format with
  | case1 => rfl
  | case2 rest ih =>
    have hpair : placeholders ('%' :: '%' :: rest) = placeholders ['%', '%'] + placeholders rest :=
      @placeholders_append ['%', '%'] percentsAtEnd_pair rest
    have hnone : placeholders ['%', '%'] = 0 := by decide
    rw [List.count_cons_of_ne (by decide), ih, hpair, hnone, Nat.zero_add]
  | case3 rest ih =>
    have hpair : placeholders ('%' :: 's' :: rest) = placeholders ['%', 's'] + placeholders rest :=
      placeholders_append_cons (by decide) ['%'] rest
    have hone : placeholders ['%', 's'] = 1 := by decide
    rw [List.count_cons_self, ih, hpair, hone, Nat.add_comm]
  | case4 c rest hpercent hplace ih =>
    rw [List.count_cons_of_ne (by simp), ih]
    by_cases hc : c = '%'
    · -- the percent sign stands alone: there is nothing behind it, or it is no part of a pair
      subst hc
      cases rest with
      | nil => rfl
      | cons d rest =>
        have hd : d ≠ '%' := fun heq => hpercent rest rfl (heq ▸ rfl)
        have hs : d ≠ 's' := fun heq => hplace rest rfl (heq ▸ rfl)
        have hpair : placeholders ('%' :: d :: rest) = placeholders ['%', d] + placeholders rest :=
          placeholders_append_cons hd ['%'] rest
        have hself : placeholders (d :: rest) = placeholders [d] + placeholders rest :=
          placeholders_append_cons hd [] rest
        have hnone : placeholders ['%', d] = 0 := by
          simp [placeholders, List.range_succ, IsPlaceholder, hs]
        rw [hpair, hself, hnone, placeholders_singleton]
    · have hself : placeholders (c :: rest) = placeholders [c] + placeholders rest :=
        placeholders_append_cons hc [] rest
      rw [hself, placeholders_singleton, Nat.zero_add]

/-- Two percent signs are a pair; of three the last one belongs to the placeholder. -/
example : placeholders "%%s, %%%s, %".toList = 1 := by decide

/-- A format is well formed if one of its characters ends a placeholder and no other one does. -/
theorem wellFormed_iff (format : String) : WellFormed format ↔ ∃! n, IsPlaceholder format.toList n := by
  have hcard : placeholders format.toList =
      ((Finset.range format.toList.length).filter fun n => IsPlaceholder format.toList n).card := by
    rw [placeholders, List.countP_eq_length_filter]
    rfl
  rw [WellFormed, count_placeholder_eq, hcard, Finset.card_eq_one, Finset.singleton_iff_unique_mem]
  refine existsUnique_congr fun n => ?_
  rw [Finset.mem_filter, Finset.mem_range]
  exact ⟨And.right, fun h => ⟨(List.getElem?_eq_some_iff.1 h.1).1, h⟩⟩

/-! ## Messages in a format -/

variable {c : MessageConfig} {formatter : Formatter}

/-- There is a formatter exactly for an accepted configuration. -/
theorem exists_ofConfig_iff : (∃ formatter, Formatter.ofConfig c = .ok formatter) ↔ Messages.checkConfig c = .ok () := by
  unfold Formatter.ofConfig
  cases Messages.checkConfig c <;> simp

/-- The formatter of a configuration wraps what is said about a failure. -/
theorem format_of_ofConfig (h : Formatter.ofConfig c = .ok formatter) (field : String) (failure : FieldFailure) :
    formatter.format field failure = Messages.wrap c (Messages.body c failure) := by
  unfold Formatter.ofConfig at h
  cases hcheck : Messages.checkConfig c with
  | error fault =>
    rw [hcheck] at h
    cases h
  | ok =>
    rw [hcheck] at h
    cases h
    rfl

/-- Either a format is refused for every message, or it puts two fixed texts around every message. A configuration is
accepted exactly if its format has one placeholder, as the scan by pairs counts them and as they stand in the format, and
then no message fails that is made with it. With percent signs doubled, any two texts can be put around a message. -/
theorem apply_verbatim :
    (∀ format, (∀ text, apply format text = .error (.invalidMessageFormat format)) ∨
      ∃ before behind, ∀ text, apply format text = .ok (before ++ text ++ behind)) ∧
    (∀ format text, (∃ message, apply format text = .ok message) ↔ (pieces format.toList).count .placeholder = 1) ∧
    (∀ format c, c.format = some format →
      ((∃ formatter, Formatter.ofConfig c = .ok formatter) ↔ (pieces format.toList).count .placeholder = 1)) ∧
    (∀ format : String, (pieces format.toList).count .placeholder = 1 ↔ ∃! n, IsPlaceholder format.toList n) ∧
    (∀ c formatter, Formatter.ofConfig c = .ok formatter →
      ∀ field failure, ∃ message, formatter.format field failure = .ok message) ∧
    ∀ a b text, apply (escape a ++ "%s" ++ escape b) text = .ok (a ++ text ++ b) := by
  refine ⟨fun format => ?_, fun format text => ?_, fun format c hformat => ?_, wellFormed_iff, fun c formatter h => ?_,
    apply_escaped⟩
  · by_cases hwell : WellFormed format
    · obtain ⟨before, behind, hfill⟩ := exists_fill_eq hwell
      exact Or.inr ⟨before, behind, fun text => by rw [apply_eq, if_pos hwell, hfill]⟩
    · exact Or.inl fun text => by rw [apply_eq, if_neg hwell]
  · show _ ↔ WellFormed format
    rw [apply_eq]
    by_cases hwell : WellFormed format <;> simp [hwell]
  · show _ ↔ WellFormed format
    rw [exists_ofConfig_iff, Messages.checkConfig_eq_ok_iff, hformat]
    simp
  · intro field failure
    have haccepted : Messages.checkConfig c = .ok () := exists_ofConfig_iff.1 ⟨formatter, h⟩
    exact ⟨_, (format_of_ofConfig h field failure).trans (Messages.wrap_of_accepted haccepted _)⟩

end FormValidation.MessageFormat
