import Adventure.Text.Sorted
import Adventure.Text.Words

/-!
# Directories

A directory holds texts in files, which may lie in folders. Files are found by paths, in which a
slash separates names, one dot stands for the folder itself and two dots for the one around it.
-/

namespace Adventure

/-- The files and folders in a directory, by the names that lead to them. -/
structure Directory where
  files : List (List String × String) := []
  folders : List (List String) := []

namespace Directory

/-- The names of a path between its slashes, without empty ones and single dots. -/
def names (path : String) : List String :=
  ((Text.splitWhen (· = '/') path.toList).map String.ofList).filter fun name =>
    name ≠ "" ∧ name ≠ "."

/-- Whether a path begins at the root of all directories. -/
def isAbsolute (path : String) : Bool := path.toList.head? == some '/'

/-- Whether a path can only lead to a folder. -/
def endsInSlash (path : String) : Bool := path.toList.getLast? == some '/'

/-- All beginnings of a list but the empty one and itself. -/
def properBeginnings (names : List String) : List (List String) :=
  (List.range names.length).drop 1 |>.map names.take

/-- The directory that holds files with the given paths. -/
def ofFiles (files : List (String × String)) : Directory where
  files := files.map fun (path, text) => (names path, text)
  folders := files.flatMap fun (path, _) => properBeginnings (names path)

/-- Whether names lead to a folder; the directory itself is one. -/
def hasFolder (d : Directory) (place : List String) : Bool :=
  place.isEmpty || d.folders.contains place

/-- Where names lead from a folder, which have to exist but for the last one. -/
def walk (d : Directory) (place : List String) : List String → Option (List String)
  | [] => some place
  | name :: rest =>
    if !d.hasFolder place then none
    else if name = ".." then
      if place.isEmpty then none else d.walk place.dropLast rest
    else d.walk (place ++ [name]) rest

/-- Where a path leads. -/
def locate (d : Directory) (path : String) : Option (List String) :=
  if isAbsolute path then none else d.walk [] (names path)

/-- The text of the file that a path leads to. -/
def read? (d : Directory) (path : String) : Option String := do
  let place ← d.locate path
  if endsInSlash path then none else d.files.lookup place

/-- Whether a path leads to a folder. -/
def isFolder (d : Directory) (path : String) : Bool :=
  match d.locate path with
  | some place => d.hasFolder place
  | none => false

/-- Why a file cannot be written. -/
inductive WriteError
  /-- A folder on the way is missing and cannot be made. -/
  | folder (path : String)
  | file (path : String)
  deriving DecidableEq, Repr

/-- How it is reported. -/
def WriteError.message : WriteError → String
  | folder path => "error creating snapshot folder '" ++ path ++ "'"
  | file path => "failed to write snapshot to '" ++ path ++ "'"

/-- Goes on from a folder and makes the folders that are missing. -/
def makeFolders (d : Directory) (place : List String) :
    List String → Option (Directory × List String)
  | [] => some (d, place)
  | name :: rest =>
    if name = ".." then
      if place.isEmpty then none else d.makeFolders place.dropLast rest
    else
      let next := place ++ [name]
      if d.hasFolder next then d.makeFolders next rest
      else if (d.files.lookup next).isSome then none
      else { d with folders := d.folders ++ [next] }.makeFolders next rest

/-- The path of the folder in which a path's file lies, as it is written. -/
def parentPath (path : String) : String :=
  let trimmed := path.toList.reverse.dropWhile (· = '/')
  String.ofList (((trimmed.dropWhile (· ≠ '/')).dropWhile (· = '/')).reverse)

/-- Writes a file in the place of what it held before and makes the folders that are missing. -/
def write (d : Directory) (path text : String) : Except WriteError Directory :=
  if isAbsolute path then .error (.folder (parentPath path))
  else
    let parts := names path
    match d.makeFolders [] parts.dropLast with
    | none => .error (.folder (parentPath path))
    | some (d, place) =>
      match parts.getLast? with
      | none => .error (.file path)
      | some name =>
        let place := place ++ [name]
        if name = ".." ∨ endsInSlash path ∨ d.hasFolder place then .error (.file path)
        else .ok { d with files := d.files.filter (·.1 ≠ place) ++ [(place, text)] }

/-- The names that lie in the directory itself, in increasing order. -/
def entries (d : Directory) : List String :=
  Text.sortedSet ((d.files.map (·.1) ++ d.folders).filterMap List.head?)

end Directory

end Adventure
