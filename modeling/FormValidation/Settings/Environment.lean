import FormValidation.Host.Path

/-!
# The environment

The variables of the environment in which the program is started, and the directories that they name.
-/

set_option autoImplicit false

namespace FormValidation

/-- The values of the variables by their names. -/
abbrev Environment := String → Option String

namespace Environment

/-- The home directory of the user. -/
def home? (environment : Environment) : Option String := (environment "HOME").filter fun path => !path.isEmpty

/-- The directory for settings of the user: one that is named with its path from the root, or else a directory in the
home directory. -/
def configDirectory? (environment : Environment) : Option String :=
  match (environment "XDG_CONFIG_HOME").filter fun path => path.toList.head? == some '/' with
  | some path => some path
  | none => environment.home?.map fun home => Path.join home ".config"

/-- The paths at which settings are looked for when no path is given, in this order. -/
def settingsPaths (environment : Environment) : List String :=
  let inDirectory := fun (directory : Option String) (name : String) (extensions : List String) =>
    match directory with
    | none => []
    | some directory => extensions.map fun extension => Path.join directory (name ++ "." ++ extension)
  (["yaml", "yml", "json", "toml"].map fun extension => ".formcheck." ++ extension) ++
    inDirectory environment.configDirectory? "formcheck/config" ["yaml", "json", "toml"] ++
    inDirectory environment.home? ".formcheck" ["yaml", "json", "toml"]

end Environment

end FormValidation
