import FormValidation.Proofs.Profile.Constraints
import FormValidation.Proofs.Number.Numerals

/-!
# The groups of profile data

A group of profile data is a list of items, and its first item may be the least number of members instead of a member.
Here it is said which items are such numbers, and which number each of them is (`Json.Denotes`), without regard to how
numbers are read. A profile that was read from the data has the group with that number and the other items as members,
as long as the number fits into a word of 64 bits.
-/

set_option autoImplicit false

namespace FormValidation

/-! ## Numerals -/

/-- The text is that of a number: decimal digits, at least one. -/
def Numeral (text : String) : Prop := text ≠ "" ∧ ∀ c ∈ text.toList, c.isDigit

/-- The number that a text of decimal digits stands for. -/
def Numeral.value (text : String) : Nat := Nat.ofDigitChars 10 text.toList 0

/-- An item of profile data denotes a number when it is the text of one, or an integer that is not negative. -/
inductive Json.Denotes : Json → Nat → Prop
  | numeral {text : String} (h : Numeral text) : Denotes (.string text) (Numeral.value text)
  | integer (n : Nat) : Denotes (.number (.integer n)) n

/-- The text of a number is a numeral of it. -/
theorem numeral_natText (n : Nat) : Numeral (Number.natText n) ∧ Numeral.value (Number.natText n) = n := by
  have h := Number.digits_natText n
  exact ⟨⟨fun hempty => h.ne_nil (String.toList_eq_nil_iff.2 hempty), h.digits⟩, h.value⟩

/-- An item that denotes a number is read as a numeral of that number. -/
theorem Json.Denotes.readScalarText {item : Json} {n : Nat} (h : item.Denotes n) (option : String) :
    ∃ text, readScalarText option item = .ok text ∧ Numeral text ∧ Numeral.value text = n := by
  cases h with
  | numeral h => exact ⟨_, rfl, h, rfl⟩
  | integer =>
    obtain ⟨hnumeral, hvalue⟩ := numeral_natText n
    exact ⟨Number.natText n, rfl, hnumeral, hvalue⟩

/-! ## Reading the number of a group -/

/-- Digits are read as their number, when it fits. -/
theorem Number.readUnsigned?_of_digits (bits : Nat) {digits : List Char} (hne : digits ≠ [])
    (h : ∀ c ∈ digits, c.isDigit) :
    readUnsigned? bits digits = if Nat.ofDigitChars 10 digits 0 < twoTo bits then
      some (Nat.ofDigitChars 10 digits 0) else none := by
  have hread : readDigits? digits = some (Nat.ofDigitChars 10 digits 0) := readDigits?_eq_some_iff.2 ⟨hne, h, rfl⟩
  unfold readUnsigned?
  split
  next rest => exact absurd (h '+' List.mem_cons_self) (by decide)
  next => rw [hread]; rfl

namespace RequireSome

/-- The number of a numeral counts when it fits into 64 bits. -/
theorem count?_of_numeral {text : String} (h : Numeral text) :
    count? text = if Numeral.value text < Number.twoTo 64 then some (Numeral.value text) else none := by
  have hne : text.toList ≠ [] := fun hnil => h.1 (String.toList_eq_nil_iff.1 hnil)
  rw [count?, if_pos (List.all_eq_true.2 h.2), Number.readUnsigned?_of_digits 64 hne h.2]
  rfl

/-- What is no numeral is no count. -/
theorem count?_of_not_numeral {text : String} (h : ¬ Numeral text) : count? text = none := by
  unfold count?
  split
  next hdigits =>
    have hempty : text = "" := by
      by_contra hne
      exact h ⟨hne, List.all_eq_true.1 hdigits⟩
    rw [hempty]
    rfl
  next => rfl

end RequireSome

/-! ## The groups of a profile -/

namespace Profile

/-- A member of an option whose members were read has the value that its data is read as. -/
theorem get?_of_mapOption {α : Type} {read : Json → Option α} {data : Json} {options : FieldMap Json} {name : String}
    {m : FieldMap α} (hdata : data.members? = some options) (h : mapOption options name read = .ok m)
    (member : String) :
    ((data.membersOf name).get? member = none ∧ m.get? member = none) ∨
      ∃ value a, (data.membersOf name).get? member = some value ∧ m.get? member = some a ∧ read value = some a := by
  rw [Json.membersOf, hdata, Option.bind_some]
  unfold mapOption option mapOf? at h
  cases hvalue : options.get? name with
  | none =>
    simp only [hvalue, Except.ok.injEq] at h
    rw [← h]
    exact Or.inl ⟨rfl, rfl⟩
  | some value =>
    cases hmembers : value.members? with
    | none => simp [hvalue, hmembers, profileError] at h
    | some members =>
      simp only [hvalue, hmembers, Option.bind_some] at h ⊢
      cases hentries : members.entries.mapM (fun e => (read e.2).map fun a => (e.1, a)) with
      | none => simp [hentries, profileError] at h
      | some entries =>
        simp only [hentries, Option.map_some, Except.ok.injEq] at h
        have hall : List.Forall₂ (fun e f => e.1 = f.1 ∧ read e.2 = some f.2) members.entries entries := by
          refine (Outcome.mapM_eq_some_iff.1 hentries).imp fun e f hef => ?_
          obtain ⟨a, ha, rfl⟩ := Option.map_eq_some_iff.1 hef
          exact ⟨rfl, ha⟩
        have hm : m.entries = entries := by
          rw [← h, FieldMap.entries_ofList_of_forall₂ (R := fun _ value a => read value = some a) hall]
        rw [← hm] at hall
        exact FieldMap.get?_of_forall₂ (R := fun _ value a => read value = some a) hall member

/-- A group with an item in data is in the profile, made of the texts of its items. -/
theorem requireSome_of_ofJson {data : Json} {profile : Profile} (h : ofJson data = .ok profile) {group : String}
    {items : List Json} (hgroup : (data.membersOf "require_some").get? group = some (.array items)) :
    ∃ texts, List.Forall₂ (fun item text => readScalarText "require_some" item = .ok text) items texts ∧
      profile.requireSome.get? group = some (RequireSome.ofList texts) := by
  obtain ⟨options, hdata, -, hread⟩ := ofJson_eq_ok_iff.1 h
  obtain ⟨groups, hgroups, hrequireSome⟩ := hread.requireSome
  rcases get?_of_mapOption hdata hgroups group with ⟨hnone, -⟩ | ⟨value, read, hvalue, hread, hitems⟩
  · rw [hgroup] at hnone
    cases hnone
  · rw [hgroup] at hvalue
    cases hvalue
    cases hitems
    rcases FieldMap.get?_of_mapE hrequireSome group with ⟨hnone, -⟩ | ⟨_, spec, hsame, hspec, hreadGroup⟩
    · rw [hread] at hnone
      cases hnone
    · rw [hread] at hsame
      cases hsame
      obtain ⟨texts, htexts, rfl⟩ := Outcome.map_eq_ok_iff.1 hreadGroup
      exact ⟨texts, Outcome.mapM_eq_ok_iff.1 htexts, hspec⟩

end Profile

end FormValidation
