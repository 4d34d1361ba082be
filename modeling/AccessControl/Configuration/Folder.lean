/-!
# Folders

The folder in which the program works: texts of files by their paths.
-/

namespace AccessControl.Configuration

/-- files by their paths from the folder, and their texts -/
abbrev Folder := List (String × String)

/-- what a path leads to -/
inductive Place where
  | file (name text : String)
  | folder
  deriving DecidableEq

namespace Folder

/-- the steps of a path that lead on; a point stays where it is -/
def steps (path : String) : List String :=
  (path.splitOn "/").filter fun step => step ≠ "" ∧ step ≠ "."

def file? (f : Folder) (here : List String) : Option String :=
  (f.find? fun (path, _) => steps path = here).map (·.2)

def isFolder (f : Folder) (here : List String) : Bool :=
  f.any fun (path, _) => here.isPrefixOf (steps path) && here ≠ steps path

/-- follows the steps of a path.  Nothing is known outside of the folder, and a file leads
nowhere. -/
def follow? (f : Folder) (here : List String) : List String → Option Place
  | [] =>
    if here = [] ∨ f.isFolder here then some .folder
    else do return .file (← here.getLast?) (← f.file? here)
  | step :: rest =>
    if here ≠ [] ∧ !f.isFolder here then none
    else if step = "" ∨ step = "." then follow? f here rest
    else if step = ".." then if here = [] then none else follow? f here.dropLast rest
    else follow? f (here ++ [step]) rest

/-- what a path leads to; an absolute path and an empty one lead nowhere -/
def locate? (f : Folder) (path : String) : Option Place :=
  if path.toList.head?.all (· = '/') then none else f.follow? [] (path.splitOn "/")

/-- what follows the last point of a name, unless the name starts with it -/
def extension (name : String) : String :=
  let reversed := name.toList.reverse
  let tail := reversed.takeWhile (· ≠ '.')
  if tail.length + 1 < reversed.length then String.ofList tail.reverse else ""

end Folder
end AccessControl.Configuration
