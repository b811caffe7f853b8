import FormValidation.Proofs.Checking.Pointwise

/-!
# Constraints that read fields which nothing writes

A constraint may read other fields, by its parameters or as a method. While those keep their values and the constraint
writes nothing, it answers as a constraint would that sees its element only (`CompiledConstraint.ActsAs`). The check of
its field is then that of this other constraint (`checkElements_eq_of_actsAs`), of which it is known what it makes of
every element.
-/

set_option autoImplicit false

namespace FormValidation

/-- Two records hold the same under some names. -/
def Record.SameAt (names : List String) (fields other : Record) : Prop :=
  ∀ name ∈ names, fields.get? name = other.get? name

/-- As long as some other fields hold what they hold in a record, a constraint answers as another one does, which sees
its element only. -/
structure CompiledConstraint.ActsAs (c c' : CompiledConstraint) (site : CheckSite) (names : List String)
    (start : Record) : Prop where
  name : c.name = c'.name
  seesElement : c'.Local site.field
  others : site.field ∉ names
  invoke (p : Progress) (h : p.working.SameAt names start) (text : String) :
    c.invoke (p.context site text) = c'.invoke (p.context site text)

section ActsAs

variable {site : CheckSite} {c c' : CompiledConstraint} {names : List String} {start : Record} {p : Progress}

/-- A turn of a constraint that sees its element only leaves all other fields. -/
theorem Progress.sameAt_turn (hc : c.Local site.field) (hnames : site.field ∉ names)
    (hp : p.working.SameAt names start) (index : Nat) (element : String) :
    (p.turn site c index element).working.SameAt names start := by
  intro name hname
  rw [← hp name hname]
  refine Progress.get?_turn_of_other (fun heq => hnames (heq ▸ hname)) ?_
  rintro ⟨answer, hanswer, write, hwrite, -⟩
  rw [p.eq_invoke_of_answer site c index element hanswer, (hc.invoke_eq (p.context site element) rfl).2.1] at hwrite
  cases hwrite

/-- The check of the elements is the same for both constraints. -/
theorem checkElements_eq_of_actsAs (h : c.ActsAs c' site names start) (hp : p.working.SameAt names start)
    (limit index : Nat) (failedAs : Option String) :
    checkElements site c limit index failedAs p = checkElements site c' limit index failedAs p := by
  induction limit generalizing index failedAs p with
  | zero => rfl
  | succ limit ih =>
    cases hpresent : p.element? site.field index with
    | none => rw [checkElements_of_none hpresent, checkElements_of_none hpresent]
    | some element =>
      have hinvoke := h.invoke p hp element
      have hturn : p.turn site c index element = p.turn site c' index element := by
        unfold Progress.turn Progress.pass Progress.afterCall
        rw [hinvoke, h.name]
      have hfailure : p.failure site c element failedAs = p.failure site c' element failedAs := by
        unfold Progress.failure
        rw [hinvoke, h.name]
      have hfault : p.fault? site c element = p.fault? site c' element := by
        unfold Progress.fault?
        rw [hinvoke]
      rw [checkElements_of_some hpresent, checkElements_of_some hpresent, hturn, hfailure, hfault]
      rw [ih (Progress.sameAt_turn h.seesElement h.others hp index element)]

/-- A constraint may be replaced by one that acts as it does while certain fields stay the same. -/
theorem checkConstraints_eq_of_actsAs (h : c.ActsAs c' site names start) (hp : p.working.SameAt names start)
    (limit : Nat) (failures : List String) :
    checkConstraints limit site [c] failures p = checkConstraints limit site [c'] failures p := by
  rw [checkConstraints, checkConstraints, checkElements_eq_of_actsAs h hp]

end ActsAs

end FormValidation
