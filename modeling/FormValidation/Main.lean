import Std.Time.DateTime.Timestamp
import FormValidation.CommandLine.Run
import FormValidation.Host.Calendar
import FormValidation.Registry.Builtins

/-!
# The program

Runs the script of the program on the machine: its questions are answered from the files, the clock, the standard input
and the environment of the process, and what it leaves behind is printed. Nothing is decided here.
-/

set_option autoImplicit false

namespace FormValidation.Machine

/-- The fault that an error of the system stands for. -/
def faultOf (error : IO.Error) : FileFault :=
  match error with
  | .noFileOrDirectory _ _ _ => .notFound
  | .inappropriateType _ code _ => if code = 21 then .isDirectory else .notDirectory
  | .permissionDenied _ _ _ => .other "Permission denied (os error 13)"
  | other => .other other.toString

/-- The outcome of an action on the system. -/
def attempt {α : Type} (action : IO α) : IO (Except FileFault α) := do
  match ← action.toBaseIO with
  | .ok result => return .ok result
  | .error error => return .error (faultOf error)

/-- The text of bytes. -/
def textOf (bytes : ByteArray) : Except FileFault String :=
  match String.fromUTF8? bytes with
  | some text => .ok text
  | none => .error .notText

/-- The time on the clock. -/
def now : IO Timestamp := do
  return (← Std.Time.Timestamp.now).toNanosecondsSinceUnixEpoch.val

/-- When the file at a path was changed last. -/
def lastChange (path : String) : IO Timestamp := do
  let time := (← (System.mkFilePath [path]).metadata).modified
  return time.sec * second + time.nsec.toNat

/-- The canonical path of the file at a path. -/
def resolve (path : String) : IO String := do
  let _ ← lastChange path
  return (← IO.FS.realPath path).toString

/-- The text of the file at a path. -/
def readFile (path : String) : IO (Except FileFault String) := do
  return (← attempt (IO.FS.readBinFile path)).bind textOf

/-- The text of the standard input. -/
def readInput : IO (Except FileFault String) := do
  return (← attempt (do (← IO.getStdin).readBinToEnd)).bind textOf

/-- Runs a script on the machine. -/
def run {α : Type} : HostScript α → IO α
  | .done result => return result
  | .resolve path next => do run (next (← attempt (resolve path)))
  | .modified path next => do run (next (← attempt (lastChange path)))
  | .read path next => do run (next (← readFile path))
  | .readInput next => do run (next (← readInput))
  | .now next => do run (next (← now))

/-- The variables of the environment that the program looks at. -/
def variableNames : List String :=
  ["HOME", "XDG_CONFIG_HOME", "RUST_LOG", "FORMCHECK_CONFIG", "FORMCHECK_LOG_FORMAT", "FORMCHECK_LOG_CONSOLE"]

/-- The environment of the process. -/
def environment : IO Environment := do
  let values ← variableNames.mapM fun name => do return (name, ← IO.getEnv name)
  return fun name => (values.lookup name).join

end FormValidation.Machine

open FormValidation in
/-- Runs the program with its arguments. -/
def main (arguments : List String) : IO UInt32 := do
  let registry := Registry.builtins (Date.ofTimestamp (← Machine.now))
  let terminal ← (← IO.getStdout).isTty
  let result ← Machine.run (Program.run registry (← Machine.environment) terminal arguments)
  (← IO.getStdout).putStr result.output
  (← IO.getStderr).putStr result.errors
  return result.exitCode.toUInt32
