/-
A working directory with files in it: the text that a path leads to, or why none can be read there.

A path is followed name by name. An empty name or a dot stays where it is and two dots go up, but only from a
directory; every other name is looked up in the directory reached so far. Outside of the working directory nothing
is known but that its parents are directories and that the null device is an empty file.
`Surroundings.ofDirectory` are the surroundings of a run in such a directory.
-/
import ScopedStore.CommandLine.Session

namespace ScopedStore

/-- why no text can be read where a path leads -/
inductive PathError where
  | missing
  | notDirectory
  | isDirectory
  | nameTooLong
  deriving DecidableEq

/-- the wording of an error -/
def PathError.message : PathError → String
  | .missing => "No such file or directory (os error 2)"
  | .notDirectory => "Not a directory (os error 20)"
  | .isDirectory => "Is a directory (os error 21)"
  | .nameTooLong => "File name too long (os error 36)"

/-- the files of a directory: the names that lead to each one, and its text -/
structure Directory where
  files : List (List String × String)

/-- where the first names of a path lead to; names are listed from the outside to the inside -/
inductive Place where
  /-- at or below the working directory -/
  | within (names : List String)
  /-- a directory that holds the working directory -/
  | above
  /-- at or below the root of all directories -/
  | absolute (names : List String)
  deriving DecidableEq

namespace Directory

/-- the files under their names, which may have directories in front -/
def ofFiles (files : List (String × String)) : Directory :=
  ⟨files.map fun (path, text) => ((Text.pieces '/' path.toList).map String.ofList, text)⟩

/-- how many octets a name may have -/
def nameLimit : Nat := 255

/-- how many octets a path may have -/
def pathLimit : Nat := 4095

/-- some files lie below that place -/
def hasBelow (d : Directory) (names : List String) : Bool :=
  d.files.any fun (file, _) => names.isPrefixOf file && names.length < file.length

/-- what is known outside of the working directory -/
def systemFiles : Directory := ⟨[(["dev", "null"], "")]⟩

/-- the text at a place; the inner option is none for a directory -/
def content? (d : Directory) (names : List String) : Option (Option String) :=
  match d.files.lookup names with
  | some text => some (some text)
  | none => if names.isEmpty || d.hasBelow names then some none else none

/-- the text at a place; the inner option is none for a directory -/
def textAt? (d : Directory) : Place → Option (Option String)
  | .within names => d.content? names
  | .above => some none
  | .absolute names => systemFiles.content? names

/-- the directory that holds a directory -/
def parent : Place → Place
  | .within [] => .above
  | .within names => .within names.dropLast
  | .above => .above
  | .absolute names => .absolute names.dropLast

/-- the place with that name in a directory, where the directory's contents are known -/
def child? (name : String) : Place → Option Place
  | .within names => some (.within (names ++ [name]))
  | .above => none
  | .absolute names => some (.absolute (names ++ [name]))

/-- one name further -/
def enter (d : Directory) (place : Place) (name : String) : Except PathError Place :=
  match d.textAt? place with
  | none => .error .missing
  | some (some _) => .error .notDirectory
  | some none =>
    if name = "" || name = "." then .ok place
    else if name = ".." then .ok (parent place)
    else if nameLimit < name.utf8ByteSize then .error .nameTooLong
    else
      match child? name place with
      | some place => if (d.textAt? place).isSome then .ok place else .error .missing
      | none => .error .missing

/-- the text that a path leads to -/
def read (d : Directory) (path : String) : Except PathError String := do
  if path.isEmpty then throw .missing
  if pathLimit < path.utf8ByteSize then throw .nameTooLong
  let start := if path.toList.head? = some '/' then Place.absolute [] else .within []
  let place ← ((Text.pieces '/' path.toList).map String.ofList).foldlM d.enter start
  match d.textAt? place with
  | some (some text) => return text
  | some none => throw .isDirectory
  | none => throw .missing

end Directory

/-- a run in a directory, with that text as its standard input -/
def Surroundings.ofDirectory (d : Directory) (input : String) (configFile : Option String) : Surroundings Id where
  contentOf path := (d.read path).mapError PathError.message
  input := .ok input
  configFile := configFile

end ScopedStore
