import Explainer.Load.Source

/-!
# Resources in files

A directory tree, seen from one directory of it, and what is found at a path. A path is followed
name by name, and the first name that leads nowhere decides the error. The tree knows nothing of
what lies outside its directory, except that there are directories there.
-/

namespace Explainer.Load

/-- What a name in a directory stands for. -/
inductive Entry where
  | file (content : ByteArray)
  | directory

/-- A directory with everything below it. Places are lists of names, starting at the directory. -/
structure Files where
  files : List (List Text × ByteArray)
  directories : List (List Text)

/-- A directory that has been reached: one of the tree, or one outside. -/
inductive Place where
  | inside (names : List Text)
  | outside

/-- The directory that holds the place. -/
def Place.parent : Place → Place
  | inside (name :: names) => inside (name :: names).dropLast
  | _ => outside

namespace Files

/-- The names in a path that say where it leads: all but the empty ones and single dots. -/
def namesOf (path : Text) : List Text :=
  (path.splitOn '/').filter fun name => !name.isEmpty && name != ['.']

/-- The tree with the given files and directories, and the directories that they need. -/
def ofPaths (files : List (Text × ByteArray)) (directories : List Text) : Files where
  files := files.map fun (path, content) => (namesOf path, content)
  directories := directories.map namesOf

/-- What stands at a place of the tree. -/
def entry? (f : Files) (names : List Text) : Option Entry :=
  match f.files.find? (·.1 = names) with
  | some (_, content) => some (.file content)
  | none =>
    if names.isEmpty || (f.files.map (·.1) ++ f.directories).any names.isPrefixOf then
      some .directory
    else none

/-- What a name stands for in a directory. -/
def child? (f : Files) (name : Text) : Place → Option Entry
  | .inside names => f.entry? (names ++ [name])
  | .outside => none

/-- The directory of that name in a directory. -/
def enter (name : Text) : Place → Place
  | .inside names => .inside (names ++ [name])
  | .outside => .outside

/-- The longest name that an entry can have, in bytes. -/
def maxName : Nat := 255

/-- The longest path that can be followed, in bytes. -/
def maxPath : Nat := 4095

/-- Follows names from a directory. -/
def walk (f : Files) (place : Place) : List Text → Except IoCause Entry
  | [] => .ok .directory
  | name :: rest =>
    if name.isEmpty || name = ['.'] then f.walk place rest
    else if name = ['.', '.'] then f.walk place.parent rest
    else if maxName < name.utf8Length then .error .nameTooLong
    else match f.child? name place with
      | none => .error .notFound
      | some .directory => f.walk (enter name place) rest
      | some (.file content) =>
        if rest.isEmpty then .ok (.file content) else .error .notADirectory

/-- What stands at a path. -/
def find (f : Files) (path : Text) : Except IoCause Entry :=
  if path.contains '\x00' then .error .nulInName
  else if maxPath < path.utf8Length then .error .nameTooLong
  else match path with
    | '/' :: _ => f.walk .outside (path.splitOn '/')
    | _ => f.walk (.inside []) (path.splitOn '/')

/-- The text at a path. An empty path is the directory itself. -/
def read (f : Files) (path : Text) : Except IoCause Text :=
  match f.find path with
  | .error cause => .error cause
  | .ok .directory => .error .isADirectory
  | .ok (.file content) =>
    match String.fromUTF8? content with
    | some s => .ok s.toList
    | none => .error .invalidUtf8

/-- The answer to a path. `rooted` says that paths are joined to the name of the directory; then
an empty path is the directory, and otherwise it leads nowhere. -/
def fetch (f : Files) (rooted : Bool) (path : Text) : Answer :=
  let found := if path.isEmpty && !rooted then .error .notFound else f.read path
  match found with
  | .ok text => .ok text
  | .error .notFound => .error (.notFound path)
  | .error cause => .error (.io path cause)

def source (f : Files) (rooted : Bool) : Source := fun path => ⟨0, .returns (f.fetch rooted path)⟩

end Files

end Explainer.Load
