import FormValidation.Host.Script

/-!
# What scripts ask

A script that is run from a moment on asks its questions one after the other, each at the moment after the one before
it. So a run ends as many moments later as questions were asked (`HostScript.snd_runFrom`), and a script that is put
together from two asks the questions of the first and then those of the second (`HostScript.asked_seq`).
-/

set_option autoImplicit false

namespace FormValidation

universe u

/-- What a script wants to know. -/
inductive Question where
  | place (path : String)
  | change (path : String)
  | text (path : String)
  | input
  | time
  deriving DecidableEq, Repr

namespace HostScript

variable {α β : Type u} {views : Nat → HostView}

/-- The questions that a script asks when it is run from a moment on, each with its moment. -/
def asked (views : Nat → HostView) : Nat → HostScript α → List (Nat × Question)
  | _, done _ => []
  | moment, resolve path next => (moment, .place path) :: asked views (moment + 1) (next ((views moment).resolve path))
  | moment, modified path next =>
    (moment, .change path) :: asked views (moment + 1) (next ((views moment).modified path))
  | moment, read path next => (moment, .text path) :: asked views (moment + 1) (next ((views moment).read path))
  | moment, readInput next => (moment, .input) :: asked views (moment + 1) (next (views moment).input)
  | moment, now next => (moment, .time) :: asked views (moment + 1) (next (views moment).now)

/-- A script that asks nothing gives its result at once. -/
theorem runFrom_pure (moment : Nat) (result : α) :
    (pure result : HostScript α).runFrom views moment = (result, moment) := rfl

/-- A script that asks nothing asks no question. -/
theorem asked_pure (moment : Nat) (result : α) : (pure result : HostScript α).asked views moment = [] := rfl

/-- To ask for a text is answered by the host at that moment and takes one. -/
theorem runFrom_askText (path : String) (moment : Nat) :
    (askText path).runFrom views moment = ((views moment).read path, moment + 1) := rfl

/-- To ask for a text is one question. -/
theorem asked_askText (path : String) (moment : Nat) : (askText path).asked views moment = [(moment, .text path)] := rfl

/-- To ask for the time is answered by the host at that moment and takes one. -/
theorem runFrom_askTime (moment : Nat) : askTime.runFrom views moment = ((views moment).now, moment + 1) := rfl

/-- To ask for the time is one question. -/
theorem asked_askTime (moment : Nat) : askTime.asked views moment = [(moment, .time)] := rfl

/-- A script that goes on with another one runs this from where it ended. -/
theorem runFrom_seq (script : HostScript α) (f : α → HostScript β) (moment : Nat) :
    (script >>= f).runFrom views moment =
      (f (script.runFrom views moment).1).runFrom views (script.runFrom views moment).2 :=
  runFrom_bind views script f moment

/-- A script that goes on with another one asks its questions and then those of the other. -/
theorem asked_seq (script : HostScript α) (f : α → HostScript β) (moment : Nat) :
    (script >>= f).asked views moment =
      script.asked views moment ++ (f (script.runFrom views moment).1).asked views (script.runFrom views moment).2 := by
  show (script.andThen f).asked views moment = _
  induction script generalizing moment with
  | done result => rfl
  | resolve path next ih | modified path next ih | read path next ih => exact congrArg _ (ih _ _)
  | readInput next ih | now next ih => exact congrArg _ (ih _ _)

/-- To change the result of a script changes nothing of its run. -/
theorem runFrom_seq_pure (script : HostScript α) (f : α → β) (moment : Nat) :
    (do return f (← script) : HostScript β).runFrom views moment =
      (f (script.runFrom views moment).1, (script.runFrom views moment).2) := by
  rw [runFrom_seq, runFrom_pure]

/-- To change the result of a script changes no question. -/
theorem asked_seq_pure (script : HostScript α) (f : α → β) (moment : Nat) :
    (do return f (← script) : HostScript β).asked views moment = script.asked views moment := by
  rw [asked_seq, asked_pure, List.append_nil]

/-- A moment goes by with each question. -/
theorem snd_runFrom (script : HostScript α) (moment : Nat) :
    (script.runFrom views moment).2 = moment + (script.asked views moment).length := by
  induction script generalizing moment with
  | done result => rfl
  | resolve path next ih | modified path next ih | read path next ih =>
    rw [runFrom, asked, ih, List.length_cons, Nat.add_right_comm, Nat.add_assoc]
  | readInput next ih | now next ih =>
    rw [runFrom, asked, ih, List.length_cons, Nat.add_right_comm, Nat.add_assoc]

/-- No script ends before it began. -/
theorem le_snd_runFrom (script : HostScript α) (moment : Nat) : moment ≤ (script.runFrom views moment).2 := by
  rw [snd_runFrom]
  exact Nat.le_add_right _ _

/-- The questions are asked between the moment at which the run starts and the one at which it ends. -/
theorem bounds_of_mem_asked {script : HostScript α} {moment k : Nat} {question : Question}
    (h : (k, question) ∈ script.asked views moment) : moment ≤ k ∧ k < (script.runFrom views moment).2 := by
  induction script generalizing moment with
  | done result => cases h
  | resolve path next ih | modified path next ih | read path next ih =>
    rcases List.mem_cons.1 h with hfirst | hrest
    · cases hfirst
      exact ⟨Nat.le_refl _, le_snd_runFrom _ _⟩
    · have hlater := ih _ hrest
      exact ⟨Nat.le_of_succ_le hlater.1, hlater.2⟩
  | readInput next ih | now next ih =>
    rcases List.mem_cons.1 h with hfirst | hrest
    · cases hfirst
      exact ⟨Nat.le_refl _, le_snd_runFrom _ _⟩
    · have hlater := ih _ hrest
      exact ⟨Nat.le_of_succ_le hlater.1, hlater.2⟩

end HostScript

end FormValidation
