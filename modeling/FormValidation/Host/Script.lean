/-!
# Asking the host

Programs that read files are written as scripts. A script asks its host one question after another and goes on with
the answer: where a path leads, when a file was changed last, what a file or the standard input contains, and what
time it is. Running a script against a view of the host for each question says what happens when the host changes
while the script runs; running it against a single view is the case in which nothing changes.
-/

set_option autoImplicit false

namespace FormValidation

universe u v

/-- A point in time, in nanoseconds. -/
abbrev Timestamp := Int

/-- Why a file cannot be used. -/
inductive FileFault where
  | notFound
  | notDirectory
  | isDirectory
  | notText
  | other (message : String)
  deriving DecidableEq, Repr

/-- The reason as the system words it. -/
def FileFault.message : FileFault → String
  | notFound => "No such file or directory (os error 2)"
  | notDirectory => "Not a directory (os error 20)"
  | isDirectory => "Is a directory (os error 21)"
  | notText => "stream did not contain valid UTF-8"
  | other message => message

/-- A computation that asks its host questions. -/
inductive HostScript (α : Type u) where
  | done (result : α)
  | resolve (path : String) (next : Except FileFault String → HostScript α)
  | modified (path : String) (next : Except FileFault Timestamp → HostScript α)
  | read (path : String) (next : Except FileFault String → HostScript α)
  | readInput (next : Except FileFault String → HostScript α)
  | now (next : Timestamp → HostScript α)

namespace HostScript

variable {α : Type u} {β : Type v}

/-- One script after another. -/
def andThen (f : α → HostScript β) : HostScript α → HostScript β
  | done result => f result
  | resolve path next => resolve path fun answer => (next answer).andThen f
  | modified path next => modified path fun answer => (next answer).andThen f
  | read path next => read path fun answer => (next answer).andThen f
  | readInput next => readInput fun answer => (next answer).andThen f
  | now next => now fun answer => (next answer).andThen f

instance : Monad HostScript where
  pure := done
  bind script f := script.andThen f

/-- Asks for the canonical path of a file. -/
def askPath (path : String) : HostScript (Except FileFault String) := resolve path done

/-- Asks when a file was changed last. -/
def askModified (path : String) : HostScript (Except FileFault Timestamp) := modified path done

/-- Asks for the text of a file. -/
def askText (path : String) : HostScript (Except FileFault String) := read path done

/-- Asks for the text of the standard input. -/
def askInput : HostScript (Except FileFault String) := readInput done

/-- Asks for the time. -/
def askTime : HostScript Timestamp := now done

/-- Asks whether there is something at a path. -/
def askExists (path : String) : HostScript Bool := do
  return (← askModified path).toBool

end HostScript

/-- What a host answers at one moment. -/
structure HostView where
  resolve : String → Except FileFault String
  modified : String → Except FileFault Timestamp
  read : String → Except FileFault String
  input : Except FileFault String
  now : Timestamp

namespace HostScript

variable {α : Type u} {β : Type v}

/-- Runs a script whose questions are answered by one view after another, from a view on; the result comes with the
number of the next view. -/
def runFrom (views : Nat → HostView) : Nat → HostScript α → α × Nat
  | moment, done result => (result, moment)
  | moment, resolve path next => runFrom views (moment + 1) (next ((views moment).resolve path))
  | moment, modified path next => runFrom views (moment + 1) (next ((views moment).modified path))
  | moment, read path next => runFrom views (moment + 1) (next ((views moment).read path))
  | moment, readInput next => runFrom views (moment + 1) (next (views moment).input)
  | moment, now next => runFrom views (moment + 1) (next (views moment).now)

/-- Runs a script on a host that does not change. -/
def run (view : HostView) (script : HostScript α) : α := (script.runFrom (fun _ => view) 0).1

/-- Running one script after another is running the second from where the first ended. -/
theorem runFrom_bind (views : Nat → HostView) (script : HostScript α) (f : α → HostScript β) (moment : Nat) :
    (script.andThen f).runFrom views moment =
      (f (script.runFrom views moment).1).runFrom views (script.runFrom views moment).2 := by
  induction script generalizing moment with
  | done result => rfl
  | resolve path next ih => exact ih _ _
  | modified path next ih => exact ih _ _
  | read path next ih => exact ih _ _
  | readInput next ih => exact ih _ _
  | now next ih => exact ih _ _

end HostScript

end FormValidation
