/-!
# Splitting texts

Cutting a text at a separator: at its first occurrence, or at all of them.
-/

set_option autoImplicit false

namespace FormValidation.Text

/-- What stands before and behind the first occurrence of a separator. -/
def splitAtFirst? (separator : Char) : List Char → Option (List Char × List Char)
  | [] => none
  | c :: rest =>
    if c = separator then some ([], rest)
    else (splitAtFirst? separator rest).map fun (before, behind) => (c :: before, behind)

/-- A text is split into what stands before the first separator and what stands behind it. -/
theorem splitAtFirst?_eq_some_iff {separator : Char} {s front back : List Char} :
    splitAtFirst? separator s = some (front, back) ↔ s = front ++ separator :: back ∧ separator ∉ front := by
  induction s generalizing front with
  | nil => simp [splitAtFirst?]
  | cons c rest ih =>
    rw [splitAtFirst?]
    split
    next hseparator =>
      subst hseparator
      constructor
      · rintro ⟨⟩
        exact ⟨rfl, List.not_mem_nil⟩
      · rintro ⟨heq, hnot⟩
        cases front with
        | nil => rw [(List.cons.inj heq).2]
        | cons d others => exact absurd ((List.cons.inj heq).1 ▸ List.mem_cons_self) hnot
    next hne =>
      rw [Option.map_eq_some_iff]
      constructor
      · rintro ⟨⟨before, behind⟩, hsplit, hparts⟩
        cases hparts
        obtain ⟨rfl, hnot⟩ := ih.1 hsplit
        exact ⟨rfl, List.not_mem_cons_of_ne_of_not_mem (Ne.symm hne) hnot⟩
      · rintro ⟨heq, hnot⟩
        cases front with
        | nil => exact absurd (List.cons.inj heq).1 hne
        | cons d others =>
          obtain ⟨rfl, hrest⟩ := List.cons.inj heq
          exact ⟨(others, back), ih.2 ⟨hrest, List.not_mem_of_not_mem_cons hnot⟩, rfl⟩

/-- The texts between the occurrences of a separator; there is always at least one. -/
def splitAll (separator : Char) : List Char → List (List Char)
  | [] => [[]]
  | c :: rest =>
    if c = separator then [] :: splitAll separator rest
    else match splitAll separator rest with
      | [] => [[c]]
      | first :: others => (c :: first) :: others

end FormValidation.Text
