import FormValidation.Evaluation.Evaluate
import FormValidation.Proofs.Registry.Bindings
import FormValidation.Proofs.Registry.Merging
import FormValidation.Registry.Builtins

/-!
# The history of a registry

What a registry answers follows from the calls that were made to it. The calls are listed as steps: something is
registered, a package is offered, or a package is merged; an evaluation merges the packages of its profile up to the
first that is not on offer. The steps give a log of events that bind names: registrations, and the exports of each
package, as it was on offer when it was merged for the first time. A name has the function that the latest event for it
supplies (`Registry.lookup_run_eq_latest`).

The proof shows that every step keeps the registry in agreement with the log (`Registry.Follows.perform`).
-/

set_option autoImplicit false

namespace FormValidation

/-! ## Calls and steps -/

/-- A call to a registry, or to an evaluation that uses it. -/
inductive RegistryCall where
  | registerFilter (name : String) (run : TextFilter)
  | registerConstraint (name : String) (function : ConstraintFunction)
  | registerPackage (package : Package)
  | mergePackage (name : String)
  | evaluate (profile : Profile) (input : Source)

/-- The registry after a call. A merge that fails leaves it as it was. -/
def RegistryCall.perform (r : Registry) : RegistryCall → Registry
  | registerFilter name run => r.registerFilter name run
  | registerConstraint name function => r.registerConstraint name function
  | registerPackage package => r.registerPackage package
  | mergePackage name => (r.mergePackage name).toOption.getD r
  | evaluate profile input => (FormValidation.evaluate r profile input).registry

/-- The registry after calls, one after the other. -/
def Registry.run (r : Registry) (calls : List RegistryCall) : Registry := calls.foldl RegistryCall.perform r

/-- More calls go on from the registry after the others. -/
theorem Registry.run_append (r : Registry) (calls more : List RegistryCall) :
    r.run (calls ++ more) = (r.run calls).run more :=
  List.foldl_append

/-- What a call does to a registry: it binds a name, puts a package on offer, or merges what is on offer. -/
inductive RegistryStep where
  | bind (binding : Binding)
  | offer (package : Package)
  | merge (name : String)

/-- The registry after a step. -/
def RegistryStep.perform (r : Registry) : RegistryStep → Registry
  | bind binding => r.bind binding
  | offer package => r.registerPackage package
  | merge name => (r.mergePackage name).toOption.getD r

/-- The steps that were taken so far, the latest first. -/
abbrev Registry.History := List RegistryStep

namespace Registry.History

/-- The package that was put on offer last under a name. -/
def offered? : History → String → Option Package
  | [], _ => none
  | .offer package :: past, name => if package.name = name then some package else offered? past name
  | .bind _ :: past, name => offered? past name
  | .merge _ :: past, name => offered? past name

/-- Whether a package was merged while one of its name was on offer. -/
def isMerged : History → String → Bool
  | [], _ => false
  | .merge other :: past, name => (decide (other = name) && (offered? past other).isSome) || isMerged past name
  | .bind _ :: past, name => isMerged past name
  | .offer _ :: past, name => isMerged past name

/-- The events that bound names, the latest first. Only the first merge of a name counts, with the package that was then
on offer. -/
def events : History → List BindingEvent
  | [] => []
  | .bind binding :: past => .registered binding :: events past
  | .offer _ :: past => events past
  | .merge name :: past =>
    if isMerged past name then events past
    else
      match offered? past name with
      | none => events past
      | some package => package.events ++ events past

/-- A package that was merged is on offer, though it may be another one of the same name. -/
theorem offered?_of_isMerged {past : History} {name : String} (h : past.isMerged name) :
    (past.offered? name).isSome := by
  induction past with
  | nil => simp [isMerged] at h
  | cons step past ih =>
    cases step with
    | bind binding => exact ih h
    | offer package =>
      rw [offered?]
      split
      · rfl
      · exact ih h
    | merge other =>
      simp only [isMerged, Bool.or_eq_true, Bool.and_eq_true, decide_eq_true_eq] at h
      rcases h with ⟨rfl, hoffered⟩ | hbefore
      · exact hoffered
      · exact ih hbefore

/-- Events are only added. -/
theorem exists_events_append (later past : History) : ∃ log, events (later ++ past) = log ++ past.events := by
  induction later with
  | nil => exact ⟨[], rfl⟩
  | cons step later ih =>
    obtain ⟨log, hlog⟩ := ih
    cases step with
    | bind binding => exact ⟨.registered binding :: log, by rw [List.cons_append, events, hlog, List.cons_append]⟩
    | offer package => exact ⟨log, hlog⟩
    | merge name =>
      rw [List.cons_append, events, hlog]
      split
      · exact ⟨log, rfl⟩
      · cases offered? (later ++ past) name with
        | none => exact ⟨log, rfl⟩
        | some package => exact ⟨package.events ++ log, by rw [List.append_assoc]⟩

end Registry.History

open Registry (History)

/-- The steps of a call, in order. An evaluation merges packages up to the first that is not on offer. -/
def RegistryCall.steps (past : History) : RegistryCall → List RegistryStep
  | registerFilter name run => [.bind (.filter name run)]
  | registerConstraint name function => [.bind (.constraint name function)]
  | registerPackage package => [.offer package]
  | mergePackage name => [.merge name]
  | evaluate profile _ => (profile.packages.takeWhile fun name => (past.offered? name).isSome).map .merge

/-- The history after further calls. -/
def Registry.History.extend (past : History) (calls : List RegistryCall) : History :=
  calls.foldl (fun past call => (call.steps past).reverse ++ past) past

/-- The history of calls, from the first on. -/
def Registry.History.ofCalls (calls : List RegistryCall) : History := History.extend [] calls

/-- Calls add to what happened before. -/
theorem Registry.History.exists_extend_append (past : History) (calls : List RegistryCall) :
    ∃ later, past.extend calls = later ++ past := by
  induction calls generalizing past with
  | nil => exact ⟨[], rfl⟩
  | cons call rest ih =>
    obtain ⟨later, hlater⟩ := ih ((call.steps past).reverse ++ past)
    exact ⟨later ++ (call.steps past).reverse, by rw [List.append_assoc]; exact hlater⟩

/-! ## Registries that agree with their history -/

/-- An evaluation leaves the registry into which the packages of its profile were merged. -/
theorem registry_evaluate (r : Registry) (profile : Profile) (input : Source) :
    (evaluate r profile input).registry = (r.mergePackages profile.packages).1 := by
  unfold evaluate evaluateWithin
  rcases r.mergePackages profile.packages with ⟨merged, fault | ⟨⟨⟩⟩⟩
  · rfl
  · dsimp only
    cases Preparation.ofProfile merged profile <;> rfl

namespace Registry

variable {start r : Registry} {past : History}

/-- The registry answers as the history of what happened to the first registry tells. -/
structure Follows (start : Registry) (past : History) (r : Registry) : Prop where
  bound (slot : ExportName) : r.bound? slot = (latest? past.events slot).or (start.bound? slot)
  packages (name : String) : r.packages.get? name = past.offered? name
  merged (name : String) : r.isMerged name = past.isMerged name

/-- A registry in which no package has been registered or merged. -/
structure Unmerged (r : Registry) : Prop where
  packages : r.packages = FieldMap.empty
  merged : r.merged = FieldMap.empty

/-- Nothing was merged into the built-in registry. -/
theorem Unmerged.builtins (today : Date) : Unmerged (Registry.builtins today) := ⟨rfl, rfl⟩

/-- A registry without packages follows the empty history. -/
theorem Unmerged.follows (h : start.Unmerged) : Follows start [] start where
  bound _ := rfl
  packages _ := by rw [h.packages]; rfl
  merged _ := by rw [isMerged, h.merged]; rfl

namespace Follows

/-- To register a function is told by its event. -/
theorem bind (h : Follows start past r) (binding : Binding) :
    Follows start (.bind binding :: past) (r.bind binding) where
  bound slot := by
    rw [bound?_bind, h.bound, ← Option.or_assoc]
    congr 1
    cases hfirst : (BindingEvent.registered binding).supplies? slot <;> simp [latest?, History.events, hfirst]
  packages name := by
    rw [History.offered?, ← h.packages]
    cases binding <;> rfl
  merged name := by
    rw [History.isMerged, ← h.merged]
    cases binding <;> rfl

/-- To register a package is told by its event. -/
theorem offer (h : Follows start past r) (package : Package) :
    Follows start (.offer package :: past) (r.registerPackage package) where
  bound slot := by
    rw [History.events, ← h.bound]
    cases slot <;> rfl
  packages name := by
    rw [History.offered?, ← h.packages]
    exact FieldMap.get?_insert _ _ _ _
  merged name := h.merged name

/-- A package that was merged before is not merged again. -/
theorem mergePackage_of_isMerged (h : Follows start past r) {name : String} (hmerged : past.isMerged name) :
    r.mergePackage name = .ok r := by
  rw [mergePackage, if_pos (by rw [h.merged, hmerged])]

/-- A package that is not on offer cannot be merged. -/
theorem mergePackage_of_not_offered (h : Follows start past r) {name : String} (hnone : past.offered? name = none) :
    r.mergePackage name = .error (.unknownPackage name) := by
  have hmerged : ¬ past.isMerged name := by
    intro hmerged
    have hsome := History.offered?_of_isMerged hmerged
    rw [hnone] at hsome
    cases hsome
  rw [mergePackage, if_neg (by rw [h.merged]; exact hmerged), h.packages, hnone]

/-- A package on offer that was not merged binds its exports. -/
theorem mergePackage_first (h : Follows start past r) {name : String} {package : Package}
    (hmerged : ¬ past.isMerged name) (hoffered : past.offered? name = some package) :
    r.mergePackage name =
      .ok { r.bindExports package.exports with merged := (r.bindExports package.exports).merged.add name } := by
  rw [mergePackage, if_neg (by rw [h.merged]; exact hmerged), h.packages, hoffered]

/-- What is on offer can be merged. -/
theorem exists_mergePackage (h : Follows start past r) {name : String} {package : Package}
    (hoffered : past.offered? name = some package) : ∃ merged, r.mergePackage name = .ok merged := by
  by_cases hmerged : past.isMerged name
  · exact ⟨r, h.mergePackage_of_isMerged hmerged⟩
  · exact ⟨_, h.mergePackage_first hmerged hoffered⟩

/-- Merging binds the exports of the package on offer the first time, and nothing later on. -/
theorem merge (h : Follows start past r) (name : String) :
    Follows start (.merge name :: past) ((r.mergePackage name).toOption.getD r) := by
  by_cases hmerged : past.isMerged name
  · -- what was on offer at the first merge does not matter any more
    rw [h.mergePackage_of_isMerged hmerged]
    show Follows start (.merge name :: past) r
    refine ⟨fun slot => ?_, h.packages, fun other => ?_⟩
    · rw [History.events, if_pos hmerged]
      exact h.bound slot
    · rw [h.merged]
      by_cases hother : name = other
      · subst hother
        simp [History.isMerged, hmerged]
      · simp [History.isMerged, hother]
  · cases hoffered : past.offered? name with
    | none =>
      rw [h.mergePackage_of_not_offered hoffered]
      show Follows start (.merge name :: past) r
      refine ⟨fun slot => ?_, h.packages, fun other => ?_⟩
      · simp only [History.events, hmerged, hoffered]
        exact h.bound slot
      · simp [History.isMerged, hoffered, h.merged]
    | some package =>
      have hkeeps := bindExports_keeps (r := r) package.exports
      rw [h.mergePackage_first hmerged hoffered]
      refine ⟨fun slot => ?_, fun other => ?_, fun other => ?_⟩
      · have hevents : History.events (.merge name :: past) = package.events ++ past.events := by
          simp [History.events, hmerged, hoffered]
        rw [hevents, latest?_append, Option.or_assoc, ← h.bound, ← bound?_bindExports]
        cases slot <;> rfl
      · rw [History.offered?, ← h.packages]
        exact congrArg (FieldMap.get? · other) hkeeps.1
      · show (NameSet.add (r.bindExports package.exports).merged name).contains other = _
        rw [NameSet.contains_add, hkeeps.2, History.isMerged, hoffered, ← h.merged]
        simp [isMerged]

/-- Every step keeps the registry in agreement with its history. -/
theorem perform (h : Follows start past r) (step : RegistryStep) : Follows start (step :: past) (step.perform r) := by
  cases step with
  | bind binding => exact h.bind binding
  | offer package => exact h.offer package
  | merge name => exact h.merge name

/-- A list of packages is merged up to the first that is not on offer. -/
theorem mergePackages (h : Follows start past r) (names : List String) :
    Follows start (((names.takeWhile fun name => (past.offered? name).isSome).map RegistryStep.merge).reverse ++ past)
      (r.mergePackages names).1 := by
  induction names generalizing past r with
  | nil => exact h
  | cons name rest ih =>
    have hfirst := h.merge name
    rw [Registry.mergePackages]
    cases hoffered : past.offered? name with
    | none =>
      rw [List.takeWhile_cons_of_neg (by rw [hoffered]; exact Bool.false_ne_true),
        h.mergePackage_of_not_offered hoffered]
      exact h
    | some package =>
      -- a merge puts nothing on offer, so the rest of the list is cut off at the same place
      obtain ⟨merged, hmerge⟩ := h.exists_mergePackage hoffered
      rw [hmerge] at hfirst ⊢
      rw [List.takeWhile_cons_of_pos (by rw [hoffered]; rfl), List.map_cons, List.reverse_cons, List.append_assoc]
      exact ih hfirst

/-- A call takes its steps. -/
theorem call (h : Follows start past r) (call : RegistryCall) :
    Follows start ((call.steps past).reverse ++ past) (call.perform r) := by
  cases call with
  | registerFilter name run => exact h.perform (.bind (.filter name run))
  | registerConstraint name function => exact h.perform (.bind (.constraint name function))
  | registerPackage package => exact h.perform (.offer package)
  | mergePackage name => exact h.perform (.merge name)
  | evaluate profile input =>
    rw [RegistryCall.perform, registry_evaluate]
    exact h.mergePackages profile.packages

/-- After any calls the registry is what the history tells. -/
theorem run (h : Follows start past r) (calls : List RegistryCall) :
    Follows start (past.extend calls) (r.run calls) := by
  induction calls generalizing past r with
  | nil => exact h
  | cons call rest ih => exact ih (h.call call)

end Follows

/-- After any calls to a registry into which nothing was merged before, a name is bound to the function that the latest
event for it supplies, or as it was in the beginning. A package can be merged just when it is on offer; a merge of one
that is not on offer or that was merged before changes nothing; and a name that is bound stays bound. -/
theorem lookup_run_eq_latest (hstart : start.Unmerged) (calls : List RegistryCall) :
    (∀ slot, (start.run calls).bound? slot =
      (latest? (History.ofCalls calls).events slot).or (start.bound? slot)) ∧
    (∀ name, (start.run calls).mergePackage name = .error (.unknownPackage name) ↔
      (History.ofCalls calls).offered? name = none) ∧
    (∀ name, (History.ofCalls calls).offered? name = none ∨ (History.ofCalls calls).isMerged name →
      start.run (calls ++ [.mergePackage name]) = start.run calls) ∧
    ∀ slot more, ((start.run calls).bound? slot).isSome → ((start.run (calls ++ more)).bound? slot).isSome := by
  have h : Follows start (History.ofCalls calls) (start.run calls) := hstart.follows.run calls
  refine ⟨h.bound, fun name => ⟨fun hfails => ?_, h.mergePackage_of_not_offered⟩, fun name hname => ?_,
    fun slot more hbound => ?_⟩
  · cases hoffered : (History.ofCalls calls).offered? name with
    | none => rfl
    | some package =>
      obtain ⟨merged, hok⟩ := h.exists_mergePackage hoffered
      rw [hok] at hfails
      cases hfails
  · rw [run_append]
    show ((start.run calls).mergePackage name).toOption.getD (start.run calls) = start.run calls
    rcases hname with hnone | hmerged
    · rw [h.mergePackage_of_not_offered hnone]
      rfl
    · rw [h.mergePackage_of_isMerged hmerged]
      rfl
  · have hmore : Follows start ((History.ofCalls calls).extend more) (start.run (calls ++ more)) := by
      rw [run_append]
      exact h.run more
    obtain ⟨later, hlater⟩ := History.exists_extend_append (History.ofCalls calls) more
    obtain ⟨log, hlog⟩ := History.exists_events_append later (History.ofCalls calls)
    rw [h.bound] at hbound
    rw [hmore.bound, hlater, hlog, latest?_append, Option.or_assoc, Option.isSome_or, hbound, Bool.or_true]

/-- A package that brings two filters and a constraint, and something that is neither. -/
def shop : Package where
  name := "shop"
  exports := [("filter_trim", .filter fun text => text ++ "."), ("filter_sku", .filter fun text => text ++ "!"),
    ("match_sku", .constraint (.predicate fun text => text ≠ "x")), ("sku", .filter id)]

/-- The package replaces a filter when an evaluation merges it, which stops at a package that is not on offer. Another
package of the same name comes too late. -/
def shopCalls : List RegistryCall := [
  .registerPackage shop, .registerPackage ⟨"other", [("filter_other", .filter id)]⟩, .registerFilter "trim" id,
  .evaluate { packages := ["shop", "tools", "other"] } (.texts FieldMap.empty), .registerFilter "sku" id,
  .registerPackage ⟨"shop", [("filter_trim", .filter id)]⟩, .mergePackage "shop"]

/-- A filter of the merged package counts where none was registered later, and packages behind one that is not on offer
are not merged. -/
theorem lookup_run_eq_latest_shop :
    Unmerged (builtins ⟨2025, 6, 15⟩) ∧
      ((builtins ⟨2025, 6, 15⟩).run shopCalls).bound? (.filter "trim") = some (.filter fun text => text ++ ".") ∧
      ((builtins ⟨2025, 6, 15⟩).run shopCalls).bound? (.filter "sku") = some (.filter id) ∧
      ((builtins ⟨2025, 6, 15⟩).run shopCalls).bound? (.filter "other") = none ∧
      ((builtins ⟨2025, 6, 15⟩).run shopCalls).mergePackage "tools" = .error (.unknownPackage "tools") := by
  have hstart : Unmerged (builtins ⟨2025, 6, 15⟩) := Unmerged.builtins _
  obtain ⟨hbound, hmerge, -⟩ := lookup_run_eq_latest hstart shopCalls
  refine ⟨hstart, ?_, ?_, ?_, (hmerge "tools").2 rfl⟩
  · rw [hbound]
    rfl
  · rw [hbound]
    rfl
  · rw [hbound]
    rfl

end Registry

end FormValidation
