import FormValidation.FieldMap
import FormValidation.Host.Path
import FormValidation.Host.Script

/-!
# File trees

The files of a host as a value: what is at each canonical path, and the directory from which relative paths start. A
tree answers the questions of scripts, and it can be written to.
-/

set_option autoImplicit false

namespace FormValidation

/-- What is at a path. -/
inductive FileNode where
  | file (content : String) (modified : Timestamp)
  | directory (modified : Timestamp)
  deriving DecidableEq, Repr

/-- Files and directories by canonical path, and the parts of the path of the working directory. The root is always a
directory. -/
structure FileTree where
  nodes : FieldMap FileNode
  workingDirectory : List (List Char)

namespace FileTree

/-- The path of parts that lead from the root. -/
def canonical (parts : List (List Char)) : String :=
  match parts with
  | [] => "/"
  | _ => String.ofList (parts.flatMap fun part => '/' :: part)

/-- What is at the end of parts that lead from the root. -/
def node? (tree : FileTree) (parts : List (List Char)) : Option FileNode :=
  if parts.isEmpty then some (.directory 0) else tree.nodes.get? (canonical parts)

/-- Follows the parts of a path from a place on. -/
def walk (tree : FileTree) : List (List Char) → List (List Char) → Except FileFault (List (List Char))
  | place, [] => .ok place
  | place, part :: rest =>
    match tree.node? place with
    | none => .error .notFound
    | some (.file _ _) => .error .notDirectory
    | some (.directory _) =>
      if part = [] ∨ part = ['.'] then tree.walk place rest
      else if part = ['.', '.'] then tree.walk place.dropLast rest
      else
        let next := place ++ [part]
        match tree.node? next with
        | none => .error .notFound
        | some _ => tree.walk next rest

/-- The place from which a path starts. -/
def start (tree : FileTree) (path : String) : List (List Char) :=
  if path.toList.head? = some '/' then [] else tree.workingDirectory

/-- The place that a path leads to. -/
def locate (tree : FileTree) (path : String) : Except FileFault (List (List Char)) :=
  if path.isEmpty then .error .notFound else tree.walk (tree.start path) (Text.splitAll '/' path.toList)

/-- What is at a path. -/
def find (tree : FileTree) (path : String) : Except FileFault FileNode :=
  match tree.locate path with
  | .error fault => .error fault
  | .ok place =>
    match tree.node? place with
    | none => .error .notFound
    | some node => .ok node

/-- The canonical path of a path. -/
def resolve (tree : FileTree) (path : String) : Except FileFault String :=
  match tree.locate path with
  | .error fault => .error fault
  | .ok place => .ok (canonical place)

/-- When the file at a path was changed last. -/
def modified (tree : FileTree) (path : String) : Except FileFault Timestamp :=
  match tree.find path with
  | .error fault => .error fault
  | .ok (.file _ time) => .ok time
  | .ok (.directory time) => .ok time

/-- The text of the file at a path. -/
def read (tree : FileTree) (path : String) : Except FileFault String :=
  match tree.find path with
  | .error fault => .error fault
  | .ok (.file content _) => .ok content
  | .ok (.directory _) => .error .isDirectory

/-- The answers of a host with these files, a standard input, and a time. -/
def view (tree : FileTree) (input : Except FileFault String) (now : Timestamp) : HostView where
  resolve := tree.resolve
  modified := tree.modified
  read := tree.read
  input
  now

/-- The parts of a path from the root, taken as they are written. -/
def targetParts (tree : FileTree) (path : String) : List (List Char) := tree.start path ++ Path.parts path

/-- The tree with directories along parts, from a place on. -/
def makeDirectories (tree : FileTree) (time : Timestamp) : List (List Char) → List (List Char) → FileTree
  | _, [] => tree
  | place, part :: rest =>
    let next := place ++ [part]
    match tree.node? next with
    | some _ => tree.makeDirectories time next rest
    | none =>
      { tree with nodes := tree.nodes.insert (canonical next) (.directory time) }.makeDirectories time next rest

/-- The tree with a directory at a path. -/
def makeDirectory (tree : FileTree) (path : String) (time : Timestamp) : FileTree :=
  tree.makeDirectories time [] (tree.targetParts path)

/-- The tree with a file at a path, and the directories above it. -/
def write (tree : FileTree) (path content : String) (time : Timestamp) : FileTree :=
  let parts := tree.targetParts path
  let above := tree.makeDirectories time [] parts.dropLast
  { above with nodes := above.nodes.insert (canonical parts) (.file content time) }

/-- The tree without what is at a path. -/
def delete (tree : FileTree) (path : String) : FileTree :=
  { tree with nodes := tree.nodes.erase (canonical (tree.targetParts path)) }

/-- The tree in which there is only a working directory. -/
def empty (workingDirectory : String) : FileTree :=
  let parts := Path.parts workingDirectory
  FileTree.makeDirectories ⟨FieldMap.empty, parts⟩ 0 [] parts

end FileTree

end FormValidation
