import Mathlib.Data.List.Forall2

/-!
# Outcomes of computations that may fail

Looking up, compiling and reading all stop at the first fault. These lemmas take a computation that succeeded apart:
each of its steps succeeded, and the result is the one that the steps give.
-/

set_option autoImplicit false

namespace FormValidation.Outcome

universe u v w x

variable {ε : Type u} {α β : Type v} {γ : Type w}

/-- Two steps succeed when the first succeeds and the second succeeds on what the first gives. -/
theorem bind_eq_ok_iff {step : Except ε α} {next : α → Except ε β} {b : β} :
    (step >>= next) = .ok b ↔ ∃ a, step = .ok a ∧ next a = .ok b := by
  cases step with
  | error fault => simp [bind, Except.bind]
  | ok a => simp [bind, Except.bind]

/-- A step whose result is only renamed succeeds when the step does. -/
theorem map_eq_ok_iff {step : Except ε α} {f : α → β} {b : β} :
    (step >>= fun a => pure (f a)) = .ok b ↔ ∃ a, step = .ok a ∧ f a = b := by
  rw [bind_eq_ok_iff]
  simp [pure, Except.pure]

/-- A list of steps succeeds when every step does, each giving the item of the result at its place. -/
theorem mapM_eq_ok_iff {step : γ → Except ε β} {items : List γ} {results : List β} :
    items.mapM step = .ok results ↔ List.Forall₂ (fun a b => step a = .ok b) items results := by
  induction items generalizing results with
  | nil => cases results <;> simp [pure, Except.pure]
  | cons a rest ih =>
    rw [List.mapM_cons, bind_eq_ok_iff]
    constructor
    · rintro ⟨b, hb, hrest⟩
      obtain ⟨bs, hbs, rfl⟩ := map_eq_ok_iff.1 hrest
      exact List.Forall₂.cons hb (ih.1 hbs)
    · intro h
      cases h with
      | cons hb hrest => exact ⟨_, hb, map_eq_ok_iff.2 ⟨_, ih.2 hrest, rfl⟩⟩

/-- The same for steps that give no reason when they fail. -/
theorem mapM_eq_some_iff {α β : Type u} {step : α → Option β} {items : List α} {results : List β} :
    items.mapM step = some results ↔ List.Forall₂ (fun a b => step a = some b) items results := by
  induction items generalizing results with
  | nil => cases results <;> simp [pure]
  | cons a rest ih =>
    simp only [List.mapM_cons, Option.bind_eq_bind, Option.bind_eq_some_iff]
    constructor
    · rintro ⟨b, hb, bs, hbs, hresults⟩
      cases hresults
      exact List.Forall₂.cons hb (ih.1 hbs)
    · intro h
      cases h with
      | cons hb hrest => exact ⟨_, hb, _, ih.2 hrest, rfl⟩

/-- Steps that do the same for every item of a list do the same for the list. -/
theorem mapM_congr {step step' : γ → Except ε β} {items : List γ} (h : ∀ a ∈ items, step a = step' a) :
    items.mapM step = items.mapM step' := by
  induction items with
  | nil => rfl
  | cons a rest ih =>
    rw [List.mapM_cons, List.mapM_cons, h a List.mem_cons_self, ih fun a' ha' => h a' (List.mem_cons_of_mem _ ha')]

/-- Steps that do the same place by place do the same for two lists. -/
theorem mapM_eq_of_forall₂ {m : Type v → Type u} [Monad m] [LawfulMonad m] {δ : Type x} {step : γ → m β}
    {step' : δ → m β} {items : List γ} {items' : List δ} (h : List.Forall₂ (fun a b => step a = step' b) items items') :
    items.mapM step = items'.mapM step' := by
  induction h with
  | nil => rfl
  | cons hab _ ih => rw [List.mapM_cons, List.mapM_cons, hab, ih]

/-- Two steps fail for the same reason, or both succeed and what they give is related. -/
inductive Related {δ : Type v} (R : α → δ → Prop) : Except ε α → Except ε δ → Prop
  | error (fault : ε) : Related R (.error fault) (.error fault)
  | ok {a : α} {b : δ} (h : R a b) : Related R (.ok a) (.ok b)

/-- What follows on related steps is the same when it is so for all that is related. -/
theorem Related.bind_eq {δ : Type v} {R : α → δ → Prop} {step : Except ε α} {step' : Except ε δ}
    {next : α → Except ε β} {next' : δ → Except ε β} (h : Related R step step')
    (hnext : ∀ a b, R a b → next a = next' b) : (step >>= next) = (step' >>= next') := by
  cases h with
  | error fault => rfl
  | ok hab => exact hnext _ _ hab

/-- Each of the results is that of some item. -/
theorem exists_of_forall₂_of_mem {R : γ → β → Prop} {items : List γ} {results : List β}
    (h : List.Forall₂ R items results) {b : β} (hb : b ∈ results) : ∃ a ∈ items, R a b := by
  induction h with
  | nil => simp at hb
  | @cons a _ items results hab _ ih =>
    rcases List.mem_cons.1 hb with rfl | hrest
    · exact ⟨a, List.mem_cons_self, hab⟩
    · obtain ⟨a', ha', hab'⟩ := ih hrest
      exact ⟨a', List.mem_cons_of_mem _ ha', hab'⟩

end FormValidation.Outcome
