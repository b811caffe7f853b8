import FormValidation.Host.Tree

/-!
# Simulated hosts

A host made of a file tree, a standard input and a clock. Scripts are run on it one after the other; while a script
runs the files stay as they are and the clock goes on with every question. Between two scripts files may be written
and deleted.
-/

set_option autoImplicit false

namespace FormValidation

/-- A host with its files, its standard input and its clock. -/
structure SimulatedHost where
  tree : FileTree
  input : Except FileFault String := .ok ""
  now : Timestamp

namespace SimulatedHost

universe u

/-- How far the clock goes on with every question. -/
def tick : Timestamp := 1000

/-- The host that answers the question of a number. -/
def viewAt (host : SimulatedHost) (moment : Nat) : HostView := host.tree.view host.input (host.now + moment * tick)

/-- The result of a script, and the host after it. -/
def run {α : Type u} (host : SimulatedHost) (script : HostScript α) : SimulatedHost × α :=
  let (result, moment) := script.runFrom host.viewAt 0
  ({ host with now := host.now + (moment + 1) * tick }, result)

/-- The host with a file written, and the directories above it. -/
def write (host : SimulatedHost) (path content : String) (time : Timestamp) : SimulatedHost :=
  { host with tree := host.tree.write path content time }

/-- The host with a directory. -/
def makeDirectory (host : SimulatedHost) (path : String) : SimulatedHost :=
  { host with tree := host.tree.makeDirectory path host.now }

/-- The host without what is at a path. -/
def delete (host : SimulatedHost) (path : String) : SimulatedHost := { host with tree := host.tree.delete path }

end SimulatedHost

end FormValidation
