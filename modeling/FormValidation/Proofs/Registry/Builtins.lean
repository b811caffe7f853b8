import FormValidation.Proofs.FieldMap
import FormValidation.Registry.Builtins

/-!
# What the built-in registry has

The built-in registry is made of two tables, and it has under a name what the table has there. So a fact about all
built-in constraints is one about the entries of a list (`mem_builtinConstraints`), and to find a single one is to look
it up in the list (`constraint_of_lookup`, `filter_of_lookup`).
-/

set_option autoImplicit false

namespace FormValidation.Registry

/-- What the built-in registry has under a name is listed. -/
theorem mem_builtinConstraints {today : Date} {name : String} {function : ConstraintFunction}
    (h : (builtins today).constraint name = .ok function) : (name, function) ∈ builtinConstraints today := by
  unfold Registry.constraint builtins at h
  split at h
  next found hfound =>
    simp only [Except.ok.injEq] at h
    rw [← h]
    exact FieldMap.mem_of_get?_ofList hfound
  · simp at h

/-- The built-in registry has a constraint of the table under its name. -/
theorem constraint_of_lookup {today : Date} {name : String} {function : ConstraintFunction}
    (h : FieldMap.lookup name (builtinConstraints today) = some function) :
    (builtins today).constraint name = .ok function := by
  have hnames : ((builtinConstraints ⟨0, 0, 0⟩).map (·.1)).Nodup := by decide +kernel
  have hfound : (builtins today).constraints.get? name = some function :=
    (FieldMap.get?_ofList (l := builtinConstraints today) hnames name).trans h
  rw [Registry.constraint, hfound]

/-- The built-in registry has a filter of the table under its name. -/
theorem filter_of_lookup {name : String} {f : List Char → List Char} (today : Date)
    (h : FieldMap.lookup name TextFilter.builtins = some f) :
    (builtins today).filter name = .ok (TextFilter.ofChars f) := by
  have hnames : ((TextFilter.builtins.map fun e => (e.1, TextFilter.ofChars e.2)).map (·.1)).Nodup := by
    decide +kernel
  have hfound : (builtins today).filters.get? name = some (TextFilter.ofChars f) := by
    show (FieldMap.ofList _).get? name = _
    rw [FieldMap.get?_ofList hnames, FieldMap.lookup_map (fun _ => TextFilter.ofChars), h]
    rfl
  rw [Registry.filter, hfound]

end FormValidation.Registry
