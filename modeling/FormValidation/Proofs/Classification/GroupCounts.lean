import Mathlib.Data.Finset.Card
import FormValidation.Proofs.Classification.Classes
import FormValidation.Proofs.Profile.Groups

/-!
# Counting the members of groups

A group asks for a least number of its members, and its name is missing when fewer are present. The members are counted
place by place: a member that is listed twice counts twice when it is present. Where no present member is listed twice,
and always where one member is enough, that is the number of distinct members that are present.
-/

set_option autoImplicit false

namespace FormValidation

/-! ## Places and members -/

namespace Reading

variable (r : Reading)

open Classical in
/-- The places of a list at which a present member stands. -/
noncomputable def presentPlaces (members : List String) : List String :=
  members.filter fun member => decide (r.Present member)

/-- The members of a list that are present, each counted once. -/
noncomputable def presentMembers (members : List String) : Finset String := (r.presentPlaces members).toFinset

/-- The field is required and not present. -/
def Absent (field : String) : Prop := r.Required field ∧ ¬ r.Present field

/-- A group has a least number and members in the profile, and its name is missing if and only if it is that of an
absent field or fewer than that many distinct members are present. -/
structure CountsMembers (missing : NameSet) (group : String) (minimum : Nat) (members : List String) : Prop where
  declared : r.profile.requireSome.get? group = some ⟨minimum, members⟩
  missing_iff : missing.contains group ↔ r.Absent group ∨ (r.presentMembers members).card < minimum

/-- A group has a least number and members in the profile, and its name is missing if and only if it is that of an
absent field or present members stand at fewer than that many places. The same can be said of members when no present
one is listed twice. -/
structure CountsPlaces (missing : NameSet) (group : String) (minimum : Nat) (members : List String) : Prop where
  declared : r.profile.requireSome.get? group = some ⟨minimum, members⟩
  missing_iff : missing.contains group ↔ r.Absent group ∨ (r.presentPlaces members).length < minimum
  countsMembers : (∀ member, r.Present member → members.count member ≤ 1) →
    r.CountsMembers missing group minimum members

variable {r}

/-- The distinct members are as many as the places, when no present member has two of them. -/
theorem card_presentMembers {members : List String} (honce : ∀ member, r.Present member → members.count member ≤ 1) :
    (r.presentMembers members).card = (r.presentPlaces members).length := by
  classical
  refine List.toFinset_card_of_nodup (List.nodup_iff_count_le_one.2 fun member => ?_)
  by_cases hpresent : r.Present member
  · exact ((List.filter_sublist).count_le member).trans (honce member hpresent)
  · have hout : member ∉ r.presentPlaces members := by
      intro hmember
      exact hpresent (of_decide_eq_true (List.mem_filter.1 hmember).2)
    rw [List.count_eq_zero_of_not_mem hout]
    exact Nat.zero_le 1

/-- No member is present exactly when no place has a present member. -/
theorem card_presentMembers_lt_one_iff {members : List String} :
    (r.presentMembers members).card < 1 ↔ (r.presentPlaces members).length < 1 := by
  rw [Nat.lt_one_iff, Nat.lt_one_iff, Finset.card_eq_zero, List.length_eq_zero_iff, presentMembers,
    List.toFinset_eq_empty_iff]

/-- A group lacks members when fewer of its places have a present one than its minimum. -/
theorem lacking_iff {group : String} {minimum : Nat} {members : List String}
    (hdeclared : r.profile.requireSome.get? group = some ⟨minimum, members⟩) :
    r.Lacking group ↔ (r.presentPlaces members).length < minimum := by
  unfold Lacking
  simp only [hdeclared, Option.some.injEq, exists_eq_left']
  rfl

end Reading

/-! ## Groups of an evaluation -/

namespace Evaluated

variable {registry : Registry} {profile : Profile} {input : Source} {results : ValidationResults}
  {prep : Preparation} {after : Progress} {group : String} {members : List String}

/-- The name of a group is missing when it is that of an absent field or too few places have a present member. -/
theorem missing_iff_places (h : Evaluated registry profile input results prep after) {minimum : Nat}
    (hdeclared : profile.requireSome.get? group = some ⟨minimum, members⟩) :
    results.missing.contains group ↔ (Reading.of registry profile input).Absent group ∨
      ((Reading.of registry profile input).presentPlaces members).length < minimum := by
  rw [h.missing_iff group, Reading.Missing, Reading.lacking_iff hdeclared]
  rfl

/-- In every evaluation a group counts places. -/
theorem countsPlaces (h : Evaluated registry profile input results prep after) {minimum : Nat}
    (hdeclared : profile.requireSome.get? group = some ⟨minimum, members⟩) :
    (Reading.of registry profile input).CountsPlaces results.missing group minimum members where
  declared := hdeclared
  missing_iff := h.missing_iff_places hdeclared
  countsMembers honce := ⟨hdeclared, by rw [h.missing_iff_places hdeclared, Reading.card_presentMembers honce]⟩

/-- A group with a minimum of one counts members. -/
theorem countsMembers_of_one (h : Evaluated registry profile input results prep after)
    (hdeclared : profile.requireSome.get? group = some ⟨1, members⟩) :
    (Reading.of registry profile input).CountsMembers results.missing group 1 members where
  declared := hdeclared
  missing_iff := by rw [h.missing_iff_places hdeclared, Reading.card_presentMembers_lt_one_iff]

end Evaluated

/-- A group that was read from data: when its first item denotes a number of 64 bits, that number of the other items
has to be present, counted place by place, and the first item is no member; when the text of the first item is no
numeral, all items are members and one of them has to be present. -/
theorem evaluate_counts_group {registry : Registry} {data : Json} {profile : Profile} {group : String} {first : Json}
    {rest : List Json} {input : Source} {results : ValidationResults} (hread : Profile.ofJson data = .ok profile)
    (hgroup : (data.membersOf "require_some").get? group = some (.array (first :: rest)))
    (hok : (evaluate registry profile input).outcome = .ok results) :
    ∃ text members, readScalarText "require_some" first = .ok text ∧
      List.Forall₂ (fun item member => readScalarText "require_some" item = .ok member) rest members ∧
      (∀ n, first.Denotes n → n < Number.twoTo 64 →
        (Reading.of registry profile input).CountsPlaces results.missing group n members) ∧
      (¬ Numeral text →
        (Reading.of registry profile input).CountsMembers results.missing group 1 (text :: members)) := by
  obtain ⟨prep, after, h⟩ := evaluated_of_ok hok
  obtain ⟨texts, htexts, hdeclared⟩ := Profile.requireSome_of_ofJson hread hgroup
  cases htexts with
  | @cons _ text _ members htext hmembers =>
    refine ⟨text, members, htext, hmembers, ?_, ?_⟩
    · intro n hdenotes hfits
      obtain ⟨text', htext', hnumeral, hvalue⟩ := hdenotes.readScalarText "require_some"
      have hsame : text' = text := Except.ok.inj (htext'.symm.trans htext)
      subst hsame
      have hcount : RequireSome.count? text' = some n := by
        rw [RequireSome.count?_of_numeral hnumeral, hvalue]
        exact if_pos hfits
      rw [RequireSome.ofList, hcount] at hdeclared
      exact h.countsPlaces hdeclared
    · intro hnumeral
      rw [RequireSome.ofList, RequireSome.count?_of_not_numeral hnumeral] at hdeclared
      exact h.countsMembers_of_one hdeclared

/-- Data with a group of which two members have to be present. -/
def reachData : Json := .object [
  ("require_some", .object [("reach", .array [.number (.integer 2), .string "email", .string "phone"])])]

/-- The profile that is read from the data. -/
def reachProfile : Profile where
  requireSome := FieldMap.ofList [("reach", ⟨2, ["email", "phone"]⟩)]

/-- A group with a minimum of two, of which one member is present. -/
theorem evaluate_counts_group_reachData :
    ∃ results, Profile.ofJson reachData = .ok reachProfile ∧
      (evaluate Registry.empty reachProfile (.texts (FieldMap.ofList [("phone", "1")]))).outcome = .ok results ∧
      (Reading.of Registry.empty reachProfile (.texts (FieldMap.ofList [("phone", "1")]))).CountsPlaces
        results.missing "reach" 2 ["email", "phone"] ∧
      results.missing.contains "reach" := by
  have hread : Profile.ofJson reachData = .ok reachProfile := rfl
  have hgroup : (reachData.membersOf "require_some").get? "reach" =
      some (.array [.number (.integer 2), .string "email", .string "phone"]) := rfl
  have hok : (evaluate Registry.empty reachProfile (.texts (FieldMap.ofList [("phone", "1")]))).outcome = .ok _ := rfl
  obtain ⟨text, members, -, hmembers, hcounts, -⟩ := evaluate_counts_group hread hgroup hok
  refine ⟨_, hread, hok, ?_, by decide⟩
  cases hmembers with
  | cons hemail hmore =>
    cases hmore with
    | cons hphone hnone =>
      cases hemail
      cases hphone
      cases hnone
      exact hcounts 2 (.integer 2) (by decide)

/-- Data with a group that lists its only member twice. -/
def twicePhoneData : Json := .object [
  ("require_some", .object [("contact", .array [.number (.integer 2), .string "phone", .string "phone"])])]

/-- The profile that is read from the data. -/
def twicePhoneProfile : Profile where
  requireSome := FieldMap.ofList [("contact", ⟨2, ["phone", "phone"]⟩)]

/-- The group is not missing, although two members are asked for and only one is present. -/
theorem twicePhone_not_missing :
    ∃ results, Profile.ofJson twicePhoneData = .ok twicePhoneProfile ∧
      (evaluate Registry.empty twicePhoneProfile
        (.texts (FieldMap.ofList [("phone", "1")]))).outcome = .ok results ∧
      ((Reading.of Registry.empty twicePhoneProfile
        (.texts (FieldMap.ofList [("phone", "1")]))).presentMembers ["phone", "phone"]).card < 2 ∧
      ¬ results.missing.contains "contact" := by
  refine ⟨_, rfl, rfl, ?_, by decide⟩
  have honly : ∀ r : Reading, r.presentMembers ["phone", "phone"] ⊆ {"phone"} := by
    intro r member hmember
    have hlisted : member ∈ ["phone", "phone"] := (List.mem_filter.1 (List.mem_toFinset.1 hmember)).1
    simpa using hlisted
  exact Nat.lt_succ_of_le (Finset.card_le_card (honly _))

end FormValidation
