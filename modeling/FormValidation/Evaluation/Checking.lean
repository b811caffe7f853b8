import FormValidation.Evaluation.Plan

/-!
# Checking constraints

Every constraint of a field is called for each of its elements that has content. The field is read anew for every
element, because a method may have written it. A field that fails a constraint leaves the values that stand as valid,
and it is closed from then on: no method can write it again.

A method that makes its own field longer with every call would never come to an end. The number of elements that are
visited for one constraint is therefore bounded by a limit, and reaching it is the fault `Fault.unfinished`. The usual
limit, `visitLimit`, is beyond the length that a value can have.

The history of a run lists every visit with the state it met. It says in which order functions were called and what
they could see.
-/

set_option autoImplicit false

namespace FormValidation

/-- One element that is looked at for one constraint, the values and closed fields it meets, and the answer of the
call; an element without content is passed over without one. -/
structure Visit where
  field : String
  constraint : String
  index : Nat
  element : String
  working : Record
  closed : NameSet
  answer : Option MethodAnswer

/-- The state of a run: the values that stand as valid, the fields closed to writing, and the visits so far, the
latest first. -/
structure Progress where
  working : Record
  closed : NameSet
  visits : List Visit

/-- Carries out the writes of a method, in order; a closed field is not written. -/
def applyWrites (closed : NameSet) (working : Record) (writes : List (String × FieldValue)) : Record :=
  writes.foldl (fun fields write => if closed.contains write.1 then fields else fields.insert write.1 write.2) working

/-- What stays the same while one constraint of one field is checked. -/
structure CheckSite where
  field : String
  untaint : Bool
  input : Source

namespace Progress

/-- The element of a field at an index, as it stands. -/
def element? (p : Progress) (field : String) (index : Nat) : Option String :=
  (p.working.get? field).bind fun value => value.element? index

/-- The state with an element passed over. -/
def pass (p : Progress) (site : CheckSite) (c : CompiledConstraint) (index : Nat) (element : String) : Progress :=
  { p with visits := ⟨site.field, c.name, index, element, p.working, p.closed, none⟩ :: p.visits }

/-- The context of a call. -/
def context (p : Progress) (site : CheckSite) (element : String) : Context :=
  { field := site.field, value := element, input := site.input, valid := p.working, closed := p.closed }

/-- The state after a call, with its writes carried out. -/
def afterCall (p : Progress) (site : CheckSite) (c : CompiledConstraint) (index : Nat) (element : String)
    (answer : MethodAnswer) : Progress :=
  { p with
    working := applyWrites p.closed p.working answer.writes
    visits := ⟨site.field, c.name, index, element, p.working, p.closed, some answer⟩ :: p.visits }

/-- The state after an element was matched: an untainted field takes the text that was matched. -/
def keep (p : Progress) (site : CheckSite) (index : Nat) (text : String) : Progress :=
  if site.untaint then { p with working := p.working.modify site.field fun value => value.setElement index text }
  else p

/-- The state after a field was found invalid. -/
def reject (p : Progress) (field : String) : Progress :=
  { p with working := p.working.erase field, closed := p.closed.add field }

end Progress

/-- The most elements that are visited for one constraint of one field. A list of this length does not fit into the
memory of a machine of 64 bits. -/
def visitLimit : Nat := Number.twoTo 60

/-- Calls a constraint for the elements of a field from an index on; `failedAs` is the name under which an earlier
element failed. The result is the name under which the constraint failed, if it did. -/
def checkElements (site : CheckSite) (c : CompiledConstraint) :
    Nat → Nat → Option String → Progress → Progress × Except Fault (Option String)
  | 0, _, _, p => (p, .error (.unfinished site.field))
  | limit + 1, index, failedAs, p =>
    match p.element? site.field index with
    | none => (p, .ok failedAs)
    | some element =>
      if element.isEmpty then checkElements site c limit (index + 1) failedAs (p.pass site c index element)
      else
        let answer := c.invoke (p.context site element)
        let after := p.afterCall site c index element answer
        match answer.outcome with
        | .error fault => (after, .error fault)
        | .ok (.matched text) => checkElements site c limit (index + 1) failedAs (after.keep site index text)
        | .ok .rejected =>
          checkElements site c limit (index + 1) (failedAs.or (some (answer.renamed.getD c.name))) after

/-- Checks the constraints of a field one after the other; the result lists the names of those that failed behind the
failures so far. -/
def checkConstraints (limit : Nat) (site : CheckSite) :
    List CompiledConstraint → List String → Progress → Progress × Except Fault (List String)
  | [], failures, p => (p, .ok failures)
  | c :: rest, failures, p =>
    match checkElements site c limit 0 none p with
    | (after, .error fault) => (after, .error fault)
    | (after, .ok failedAs) => checkConstraints limit site rest (failures ++ failedAs.toList) after

/-- Checks fields one after the other, those that are present when their turn comes; the result adds the failures of
each field that failed to the invalid fields so far. -/
def checkFields (limit : Nat) (untaint : UntaintPolicy) (input : Source) :
    List (String × List CompiledConstraint) → FieldMap (List String) → Progress →
      Progress × Except Fault (FieldMap (List String))
  | [], invalid, p => (p, .ok invalid)
  | (field, constraints) :: rest, invalid, p =>
    if p.working.contains field then
      match checkConstraints limit { field, untaint := untaint.applies field, input } constraints [] p with
      | (after, .error fault) => (after, .error fault)
      | (after, .ok []) => checkFields limit untaint input rest invalid after
      | (after, .ok failures) =>
        checkFields limit untaint input rest (invalid.insert field failures) (after.reject field)
    else checkFields limit untaint input rest invalid p

/-- Checks every attached constraint, fields in the order of their names. The fields of `classified` are closed from
the beginning. -/
def checkAll (limit : Nat) (attached : FieldMap (List CompiledConstraint)) (untaint : UntaintPolicy)
    (classified : NameSet) (input : Source) (working : Record) :
    Progress × Except Fault (FieldMap (List String)) :=
  checkFields limit untaint input attached.entries FieldMap.empty ⟨working, classified, []⟩

end FormValidation
