import FormValidation.Text.Split

/-!
# Paths

Paths as texts: the parts between slashes, the name of the file a path leads to, and its extension. Empty parts and
single points say nothing about where a path leads.
-/

set_option autoImplicit false

namespace FormValidation.Path

/-- The parts of a path that lead somewhere. -/
def parts (path : String) : List (List Char) :=
  (Text.splitAll '/' path.toList).filter fun part => part ≠ [] ∧ part ≠ ['.']

/-- The name of the file that a path leads to; a path that ends by going up has none. -/
def fileName? (path : String) : Option (List Char) :=
  match (parts path).getLast? with
  | some ['.', '.'] => none
  | other => other

/-- The part of a name behind its last point, unless the point begins the name. -/
def extensionOf? (name : List Char) : Option (List Char) :=
  match (Text.splitAll '.' name).reverse with
  | [] => none
  | [_] => none
  | [_, []] => none
  | last :: _ => some last

/-- The extension of the file that a path leads to. -/
def extension? (path : String) : Option String :=
  ((fileName? path).bind extensionOf?).map String.ofList

/-- A path below a directory. -/
def join (directory name : String) : String := directory ++ "/" ++ name

end FormValidation.Path
