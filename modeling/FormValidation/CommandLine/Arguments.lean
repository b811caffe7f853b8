import FormValidation.Report.Output
import FormValidation.Settings.Environment

/-!
# Arguments of the program

The arguments are options that every command takes, a command, and the options and names that belong to it. Options
that every command takes may stand before the command or behind it; behind it they count more. An option has a long
name and may have a letter; letters of options without a value can be joined behind one hyphen. Behind two hyphens
alone everything is a name.
-/

set_option autoImplicit false

namespace FormValidation

/-- Why arguments are refused, or what is asked for instead of a command. -/
inductive ArgumentFault where
  | helpRequested
  | versionRequested
  | unknownArgument (argument : String)
  | missingValue (option : String)
  | unexpectedValue (option : String)
  | invalidValue (option value : String)
  | usedTwice (option : String)
  | conflict (first second : String)
  | missingCommand
  deriving DecidableEq, Repr

/-- The reason as it is reported. -/
def ArgumentFault.message : ArgumentFault → String
  | helpRequested => "help is requested"
  | versionRequested => "the version is requested"
  | unknownArgument argument => "unexpected argument '" ++ argument ++ "' found"
  | missingValue option => "a value is required for '" ++ option ++ "' but none was supplied"
  | unexpectedValue option => "no value is expected for '" ++ option ++ "'"
  | invalidValue option value => "invalid value '" ++ value ++ "' for '" ++ option ++ "'"
  | usedTwice option => "the argument '" ++ option ++ "' cannot be used multiple times"
  | conflict first second => "the argument '" ++ first ++ "' cannot be used with '" ++ second ++ "'"
  | missingCommand => "a command is required: check or profiles"

/-! ## Options and names -/

/-- An option. -/
inductive ArgumentOption where
  | verbose
  | quiet
  | config
  | output
  | noColor
  | profiles
  | profile
  | query
  | messages
  | help
  | version
  deriving DecidableEq, Repr

namespace ArgumentOption

/-- The long name. -/
def name : ArgumentOption → String
  | verbose => "--verbose"
  | quiet => "--quiet"
  | config => "--config"
  | output => "--output"
  | noColor => "--no-color"
  | profiles => "--profiles"
  | profile => "--profile"
  | query => "--query"
  | messages => "--messages"
  | help => "--help"
  | version => "--version"

/-- The letter. -/
def letter? : ArgumentOption → Option Char
  | verbose => some 'v'
  | quiet => some 'q'
  | config => some 'c'
  | output => some 'o'
  | noColor => none
  | profiles => some 'p'
  | profile => some 'n'
  | query => none
  | messages => some 'm'
  | help => some 'h'
  | version => some 'V'

/-- Whether the option has a value. -/
def takesValue : ArgumentOption → Bool
  | config => true
  | output => true
  | profiles => true
  | profile => true
  | query => true
  | _ => false

/-- The options that every command takes. -/
def general : List ArgumentOption := [verbose, quiet, config, output, noColor, help, version]

/-- The options of the command that checks a record. -/
def ofCheck : List ArgumentOption := general ++ [profiles, profile, query, messages]

end ArgumentOption

/-- An argument that has been understood: an option, with its value if it has one, or a name. -/
inductive Argument where
  | chosen (option : ArgumentOption) (value : String)
  | named (text : String)
  deriving DecidableEq, Repr

namespace Argument

/-- What one argument says: arguments that are complete, and an option whose value is the next argument. -/
structure Reading where
  complete : List Argument := []
  pending : Option ArgumentOption := none

/-- Reads letters behind a hyphen. What stands behind the letter of an option with a value is the value, with an equals
sign before it or without. -/
def readLetters (options : List ArgumentOption) : List Char → Except ArgumentFault Reading
  | [] => .ok {}
  | c :: rest =>
    match options.find? fun option => option.letter? == some c with
    | none => .error (.unknownArgument (String.ofList ['-', c]))
    | some option =>
      if option.takesValue then
        match rest with
        | [] => .ok { pending := some option }
        | '=' :: value => .ok { complete := [.chosen option (String.ofList value)] }
        | value => .ok { complete := [.chosen option (String.ofList value)] }
      else do
        let reading ← readLetters options rest
        return { reading with complete := .chosen option "" :: reading.complete }

/-- Reads a long name behind its hyphens; a value may stand behind an equals sign. -/
def readLong (options : List ArgumentOption) (s : List Char) : Except ArgumentFault Reading :=
  let written := "--" ++ String.ofList (s.takeWhile (· != '='))
  match options.find? fun option => option.name == written with
  | none => .error (.unknownArgument written)
  | some option =>
    match s.dropWhile (· != '='), option.takesValue with
    | _ :: value, true => .ok { complete := [.chosen option (String.ofList value)] }
    | _ :: _, false => .error (.unexpectedValue written)
    | [], true => .ok { pending := some option }
    | [], false => .ok { complete := [.chosen option ""] }

/-- Reads arguments up to the name of a command, if there are commands, else to the end. Gives the arguments read and,
from the name of a command on, those left. An option whose value is to follow may not be followed by an option. -/
def readAll (options : List ArgumentOption) (commands : List String) :
    Option ArgumentOption → List String → Except ArgumentFault (List Argument × List String)
  | some option, [] => .error (.missingValue option.name)
  | none, [] => .ok ([], [])
  | pending, argument :: rest =>
    match pending, argument.toList with
    | some option, '-' :: _ :: _ => .error (.missingValue option.name)
    | some option, _ => do
      let (others, left) ← readAll options commands none rest
      return (.chosen option argument :: others, left)
    | none, ['-', '-'] => .ok (rest.map .named, [])
    | none, '-' :: c :: s => do
      let reading ← if c = '-' then readLong options s else readLetters options (c :: s)
      let (others, left) ← readAll options commands reading.pending rest
      return (reading.complete ++ others, left)
    | none, _ =>
      if commands.contains argument then .ok ([], argument :: rest)
      else do
        let (others, left) ← readAll options commands none rest
        return (.named argument :: others, left)

/-- The values of an option, in order. -/
def valuesOf (option : ArgumentOption) (arguments : List Argument) : List String :=
  arguments.filterMap fun argument =>
    match argument with
    | .chosen other value => if other = option then some value else none
    | .named _ => none

/-- The names, in order. -/
def names (arguments : List Argument) : List String :=
  arguments.filterMap fun argument =>
    match argument with
    | .chosen _ _ => none
    | .named text => some text

/-- The value of an option, which may be used once. -/
def single (option : ArgumentOption) (arguments : List Argument) : Except ArgumentFault (Option String) :=
  match valuesOf option arguments with
  | [] => .ok none
  | [value] => .ok (some value)
  | _ => .error (.usedTwice option.name)

/-- A path that has to lead somewhere. -/
def path (option : String) : Option String → Except ArgumentFault (Option String)
  | none => .ok none
  | some value => if value.isEmpty then .error (.missingValue option) else .ok (some value)

/-- The only name, if there is one. -/
def onlyName (arguments : List Argument) : Except ArgumentFault (Option String) :=
  match names arguments with
  | [] => .ok none
  | [text] => .ok (some text)
  | _ :: second :: _ => .error (.unknownArgument second)

end Argument

/-! ## Commands -/

/-- The options that every command takes, as they stand before the command or behind it. -/
structure GeneralOptions where
  verbose : Nat := 0
  quiet : Bool := false
  config : Option String := none
  output : Option OutputFormat := none
  noColor : Bool := false
  deriving DecidableEq, Repr

/-- The variable of the environment with the path of the settings. -/
def configVariable : String := "FORMCHECK_CONFIG"

namespace GeneralOptions

/-- The form of output that an argument names. -/
def outputFormat : Option String → Except ArgumentFault (Option OutputFormat)
  | none => .ok none
  | some name =>
    match OutputFormat.ofName? name with
    | none => .error (.invalidValue ArgumentOption.output.name name)
    | some format => .ok (some format)

/-- The options among arguments. Where no path of settings is given, the one of the environment may not be empty. -/
def ofArguments (environment : Environment) (arguments : List Argument) : Except ArgumentFault GeneralOptions := do
  if !(Argument.valuesOf .help arguments).isEmpty then .error .helpRequested
  if !(Argument.valuesOf .version arguments).isEmpty then .error .versionRequested
  let verbose := min 255 (Argument.valuesOf .verbose arguments).length
  let quiet ← Argument.single .quiet arguments
  let noColor ← Argument.single .noColor arguments
  let config ← Argument.path ArgumentOption.config.name (← Argument.single .config arguments)
  let output ← outputFormat (← Argument.single .output arguments)
  let _ ← Argument.path ArgumentOption.config.name (config.or (environment configVariable))
  if quiet.isSome && verbose != 0 then .error (.conflict ArgumentOption.quiet.name ArgumentOption.verbose.name)
  return { verbose, quiet := quiet.isSome, config, output, noColor := noColor.isSome }

/-- The options before a command with those behind it, which count more. -/
def behind (before after : GeneralOptions) : GeneralOptions where
  verbose := if after.verbose = 0 then before.verbose else after.verbose
  quiet := before.quiet || after.quiet
  config := after.config.or before.config
  output := after.output.or before.output
  noColor := before.noColor || after.noColor

end GeneralOptions

/-- What the command that checks a record is told: the path of the record, the file and the name of the profile, the
record as a query, and whether messages are asked for. -/
structure CheckArguments where
  input : Option String := none
  profiles : Option String := none
  profile : Option String := none
  query : Option String := none
  messages : Bool := false
  deriving DecidableEq, Repr

/-- A command: to check a record, or to list the profiles of a file. -/
inductive Command where
  | check (arguments : CheckArguments)
  | profiles (file : Option String)
  deriving DecidableEq, Repr

/-- What the program is asked to do. -/
structure Invocation where
  options : GeneralOptions
  command : Command
  deriving DecidableEq, Repr

namespace Invocation

/-- The command that checks a record, from the arguments behind its name. -/
def checkCommand (arguments : List Argument) : Except ArgumentFault Command := do
  let input ← Argument.path "INPUT" (← Argument.onlyName arguments)
  let profiles ← Argument.path ArgumentOption.profiles.name (← Argument.single .profiles arguments)
  let profile ← Argument.single .profile arguments
  let query ← Argument.single .query arguments
  let messages ← Argument.single .messages arguments
  if input.isSome && query.isSome then .error (.conflict "INPUT" ArgumentOption.query.name)
  return .check { input, profiles, profile, query, messages := messages.isSome }

/-- The command that lists profiles, from the arguments behind its name. -/
def profilesCommand (arguments : List Argument) : Except ArgumentFault Command := do
  return .profiles (← Argument.path "FILE" (← Argument.onlyName arguments))

/-- The names of the commands. -/
def commandNames : List String := ["check", "profiles", "help"]

/-- Reads a command behind its name. -/
def readCommand (environment : Environment) (name : String) (rest : List String) :
    Except ArgumentFault (GeneralOptions × Command) :=
  if name = "check" then do
    let (arguments, _) ← Argument.readAll ArgumentOption.ofCheck [] none rest
    return (← GeneralOptions.ofArguments environment arguments, ← checkCommand arguments)
  else if name = "profiles" then do
    let (arguments, _) ← Argument.readAll ArgumentOption.general [] none rest
    return (← GeneralOptions.ofArguments environment arguments, ← profilesCommand arguments)
  else .error .helpRequested

/-- What the arguments of the program ask for. The path of the settings may also come from the environment. -/
def read (environment : Environment) (arguments : List String) : Except ArgumentFault Invocation := do
  let (before, left) ← Argument.readAll ArgumentOption.general commandNames none arguments
  match Argument.names before, left with
  | unknown :: _, _ => .error (.unknownArgument unknown)
  | [], [] =>
    let _ ← GeneralOptions.ofArguments environment before
    .error .missingCommand
  | [], name :: rest =>
    let (after, command) ← readCommand environment name rest
    let options := (← GeneralOptions.ofArguments environment before).behind after
    return { options := { options with config := options.config.or (environment configVariable) }, command }

/-- How much is to be logged. -/
def verbosity (invocation : Invocation) : Nat := if invocation.options.quiet then 0 else invocation.options.verbose

/-- The form of output: the one that is asked for, or the configured one, or the one for people. -/
def outputFormat (invocation : Invocation) (configured : Option String) : OutputFormat :=
  (invocation.options.output.or (configured.bind OutputFormat.ofConfigured?)).getD .human

end Invocation

end FormValidation
