import FormValidation.Registry.Basic

/-!
# What the names of a registry are bound to

A name of a filter or of a constraint is bound by a registration, or by an export of a package that was merged. What a
look-up finds under a name is told by `Registry.bound?`. Binding the exports of a package leaves every name with the
function that the last of the exports for this name supplies, and all other names as they were (`bound?_bindExports`).
-/

set_option autoImplicit false

namespace FormValidation

/-! ## Names of exports -/

/-- Taking a front off a text gives what stands behind it. -/
theorem dropFront?_eq_some_iff {front s rest : List Char} : dropFront? front s = some rest ↔ s = front ++ rest := by
  induction front generalizing s with
  | nil => simp [dropFront?]
  | cons c front ih =>
    cases s with
    | nil => simp [dropFront?]
    | cons d s =>
      unfold dropFront?
      by_cases h : c = d
      · simp [h, ih]
      · have h' : ¬ d = c := fun e => h e.symm
        simp [h, h']

/-- What follows a given beginning of a name is the name without it. -/
theorem dropFront?_toList_iff {front name short : String} :
    dropFront? front.toList name.toList = some short.toList ↔ name = front ++ short := by
  rw [dropFront?_eq_some_iff, ← String.toList_append, String.toList_inj]

/-- A name announces a filter by `filter_`. -/
theorem exportName?_eq_filter_iff {name short : String} :
    exportName? name = some (.filter short) ↔ name = "filter_" ++ short := by
  rw [← dropFront?_toList_iff, exportName?]
  cases dropFront? "filter_".toList name.toList with
  | none => cases dropFront? "match_".toList name.toList <;> simp
  | some rest => simp [← String.toList_inj]

/-- A name announces a constraint by `match_` or by `valid_`. -/
theorem exportName?_eq_constraint_iff {name short : String} :
    exportName? name = some (.constraint short) ↔ name = "match_" ++ short ∨ name = "valid_" ++ short := by
  -- the three beginnings differ in their first letters, so a name has one of them at most
  have hnotFilter : ∀ rest, dropFront? "filter_".toList name.toList = some rest →
      ¬ (name = "match_" ++ short ∨ name = "valid_" ++ short) := by
    rintro rest hfilter (rfl | rfl) <;> simp [dropFront?] at hfilter
  have hnotMatch : ∀ rest, dropFront? "match_".toList name.toList = some rest → name ≠ "valid_" ++ short := by
    rintro rest hmatch rfl
    simp [dropFront?] at hmatch
  unfold exportName?
  cases hfilter : dropFront? "filter_".toList name.toList with
  | some rest => simp [hnotFilter rest hfilter]
  | none =>
    cases hmatch : dropFront? "match_".toList name.toList with
    | some rest =>
      rw [or_iff_left (hnotMatch rest hmatch), ← dropFront?_toList_iff, hmatch]
      simp [← String.toList_inj]
    | none =>
      have hno : name ≠ "match_" ++ short := by
        rintro rfl
        rw [dropFront?_toList_iff.2 rfl] at hmatch
        cases hmatch
      rw [or_iff_right hno, ← dropFront?_toList_iff]
      cases dropFront? "valid_".toList name.toList <;> simp [← String.toList_inj]

/-! ## Names and the functions they are bound to -/

/-- The name that a binding is for. -/
def Binding.slot : Binding → ExportName
  | filter name _ => .filter name
  | constraint name _ => .constraint name

/-- The function that a binding puts under its name. -/
def Binding.function : Binding → Export
  | filter _ run => .filter run
  | constraint _ function => .constraint function

/-- Whether an export goes under a name: a filter called `filter_x` under the filter name `x`, a constraint called
`match_x` or `valid_x` under the constraint name `x`. -/
def Export.Binds (exported : String) : Export → ExportName → Prop
  | .filter _, .filter short => exported = "filter_" ++ short
  | .constraint _, .constraint short => exported = "match_" ++ short ∨ exported = "valid_" ++ short
  | _, _ => False

instance (exported : String) (e : Export) (slot : ExportName) : Decidable (e.Binds exported slot) :=
  match e, slot with
  | .filter _, .filter short => inferInstanceAs (Decidable (exported = "filter_" ++ short))
  | .constraint _, .constraint short =>
    inferInstanceAs (Decidable (exported = "match_" ++ short ∨ exported = "valid_" ++ short))
  | .filter _, .constraint _ => inferInstanceAs (Decidable False)
  | .constraint _, .filter _ => inferInstanceAs (Decidable False)

/-- Something that binds a name: a registration, or an export of a package that is merged. -/
inductive BindingEvent where
  | registered (binding : Binding)
  | exported (name : String) (function : Export)

/-- The function that an event puts under a name, if it binds this name. -/
def BindingEvent.supplies? (slot : ExportName) : BindingEvent → Option Export
  | registered binding => if binding.slot = slot then some binding.function else none
  | exported name function => if function.Binds name slot then some function else none

/-- An export supplies what its binding puts under a name. -/
theorem BindingEvent.supplies?_exported (slot : ExportName) (name : String) (e : Export) :
    (exported name e).supplies? slot = (e.binding? name).bind fun binding => (registered binding).supplies? slot := by
  cases e with
  | filter run =>
    cases slot with
    | filter short =>
      simp only [supplies?, Export.Binds, ← exportName?_eq_filter_iff, Export.binding?]
      cases exportName? name with
      | none => simp
      | some announced => cases announced <;> simp [Binding.slot, Binding.function]
    | constraint short =>
      simp only [supplies?, Export.Binds, Export.binding?]
      cases exportName? name with
      | none => simp
      | some announced => cases announced <;> simp [Binding.slot]
  | constraint function =>
    cases slot with
    | filter short =>
      simp only [supplies?, Export.Binds, Export.binding?]
      cases exportName? name with
      | none => simp
      | some announced => cases announced <;> simp [Binding.slot]
    | constraint short =>
      simp only [supplies?, Export.Binds, ← exportName?_eq_constraint_iff, Export.binding?]
      cases exportName? name with
      | none => simp
      | some announced => cases announced <;> simp [Binding.slot, Binding.function]

namespace Registry

variable {r r' : Registry}

/-- The function that a look-up finds under a name. -/
def bound? (r : Registry) : ExportName → Option Export
  | .filter name => (r.filter name).toOption.map .filter
  | .constraint name => (r.constraint name).toOption.map .constraint

/-- What is bound to the name of a filter is the filter. -/
theorem bound?_filter (name : String) : r.bound? (.filter name) = (r.filters.get? name).map .filter := by
  simp only [bound?, filter]
  cases r.filters.get? name <;> rfl

/-- What is bound to the name of a constraint is the constraint. -/
theorem bound?_constraint (name : String) :
    r.bound? (.constraint name) = (r.constraints.get? name).map .constraint := by
  simp only [bound?, constraint]
  cases r.constraints.get? name <;> rfl

/-- Registries in which a filter name is bound to the same function answer its look-up alike. -/
theorem filter_congr {name : String} (h : r.bound? (.filter name) = r'.bound? (.filter name)) :
    r.filter name = r'.filter name := by
  have hsame : r.filters.get? name = r'.filters.get? name := by
    rw [bound?_filter, bound?_filter] at h
    exact Option.map_injective (fun _ _ e => Export.filter.inj e) h
  unfold filter
  rw [hsame]

/-- Registries in which a constraint name is bound to the same function answer its look-up alike. -/
theorem constraint_congr {name : String} (h : r.bound? (.constraint name) = r'.bound? (.constraint name)) :
    r.constraint name = r'.constraint name := by
  have hsame : r.constraints.get? name = r'.constraints.get? name := by
    rw [bound?_constraint, bound?_constraint] at h
    exact Option.map_injective (fun _ _ e => Export.constraint.inj e) h
  unfold constraint
  rw [hsame]

/-- A binding puts its function under its name and leaves all other names as they were. -/
theorem bound?_bind (binding : Binding) (slot : ExportName) :
    (r.bind binding).bound? slot = ((BindingEvent.registered binding).supplies? slot).or (r.bound? slot) := by
  cases binding with
  | filter name run =>
    cases slot with
    | filter other =>
      rw [bound?_filter, bound?_filter]
      show (FieldMap.get? (r.filters.insert name run) other).map Export.filter = _
      rw [FieldMap.get?_insert]
      by_cases h : name = other <;> simp [BindingEvent.supplies?, Binding.slot, Binding.function, h]
    | constraint other =>
      rw [bound?_constraint, bound?_constraint]
      simp [BindingEvent.supplies?, Binding.slot, bind, registerFilter]
  | constraint name function =>
    cases slot with
    | filter other =>
      rw [bound?_filter, bound?_filter]
      simp [BindingEvent.supplies?, Binding.slot, bind, registerConstraint]
    | constraint other =>
      rw [bound?_constraint, bound?_constraint]
      show (FieldMap.get? (r.constraints.insert name function) other).map Export.constraint = _
      rw [FieldMap.get?_insert]
      by_cases h : name = other <;> simp [BindingEvent.supplies?, Binding.slot, Binding.function, h]

end Registry

/-- The exports of a package as events, the last one first. -/
def Package.events (package : Package) : List BindingEvent :=
  (package.exports.map fun e => .exported e.1 e.2).reverse

/-- The function that the latest event for a name supplies, in a log with the latest event first. -/
def latest? (log : List BindingEvent) (slot : ExportName) : Option Export := log.findSome? (·.supplies? slot)

/-- Of two logs the later one counts, where it has an event for the name. -/
theorem latest?_append (log earlier : List BindingEvent) (slot : ExportName) :
    latest? (log ++ earlier) slot = (latest? log slot).or (latest? earlier slot) := by
  unfold latest?
  rw [List.findSome?_append]

/-- Once the exports of a package are bound, a name has the function that the last export for it supplies. -/
theorem Registry.bound?_bindExports (r : Registry) (package : Package) (slot : ExportName) :
    (r.bindExports package.exports).bound? slot = (latest? package.events slot).or (r.bound? slot) := by
  unfold Package.events
  generalize package.exports = exports
  induction exports generalizing r with
  | nil => rfl
  | cons e rest ih =>
    have hfirst : r.bindExports (e :: rest) = ((e.2.binding? e.1).elim r r.bind).bindExports rest := by
      unfold bindExports
      cases hbinding : e.2.binding? e.1 <;> simp [hbinding]
    have hbound : ((e.2.binding? e.1).elim r r.bind).bound? slot =
        ((BindingEvent.exported e.1 e.2).supplies? slot).or (r.bound? slot) := by
      rw [BindingEvent.supplies?_exported]
      cases e.2.binding? e.1 with
      | none => rfl
      | some binding => exact bound?_bind binding slot
    rw [hfirst, ih, hbound, List.map_cons, List.reverse_cons, latest?_append, Option.or_assoc]
    simp [latest?]

end FormValidation
