import AccessControl.Configuration.Environment
import AccessControl.Configuration.Folder
import AccessControl.Configuration.Toml.Document
import AccessControl.Json.Text

/-!
# Loading a configuration

A configuration comes from a file, if there is one, and from the environment, which is laid over the
file.  What neither says has its default.  The result is validated, so a configuration that was
loaded is always valid.
-/

namespace AccessControl.Configuration

/-! ## files -/

mutual

/-- a JSON value; one that is not readable has none -/
def Value.ofJson : Json → Value
  | .null | .unreadable => .null
  | .bool b => .flag b
  | .integer n => .whole n
  | .real d => .real d
  | .string s => .text s
  | .array xs => .list (ofJsonItems xs)
  | .object ms => .table (ofJsonMembers ms [])

def ofJsonItems : List Json → List Value
  | [] => []
  | x :: xs => .ofJson x :: ofJsonItems xs

/-- of a repeated member the last counts -/
def ofJsonMembers : List (String × Json) → List (String × Value) → List (String × Value)
  | [], done => done
  | (name, x) :: ms, done => ofJsonMembers ms (Value.alter name (fun _ => .ofJson x) done)

end

/-- how deep a JSON file may be nested -/
def jsonDepth : Nat := 127

def readJson? (text : String) : Option Value := do
  let j ← Json.parse? text
  if j.isReadable jsonDepth then some (.ofJson j) else none

/-- a byte order mark in front does not count -/
def dropMark (text : String) : String :=
  match text.toList with
  | '\uFEFF' :: cs => String.ofList cs
  | _ => text

/-- the extension of a file says how it is read.  It has to hold a table. -/
def readFile? (name text : String) : Option (List (String × Value)) := do
  let text := dropMark text
  let v ← match Folder.extension name with
    | "toml" => Toml.parse? text
    | "json" => readJson? text
    | _ => none
  match v with
  | .table ms => some ms
  | _ => none

/-- lays the members of a file over a value.  Their names are paths. -/
def overlay (ms : List (String × Value)) (under : Value) : Value :=
  ms.foldl (fun v (name, member) => member.put (Path.ofText name) v) under

/-- the members of the file at a path; a path that leads nowhere has none -/
def source? (f : Folder) (path : String) : Option (List (String × Value)) :=
  match f.locate? path with
  | none => some []
  | some (.file name text) => readFile? name text
  | some .folder => none

/-! ## loading -/

def defaultPath : String := "octoacs.toml"

/-- what the sources say together -/
def gather? (f : Folder) (env : Environment) (path : String) : Option Value := do
  return env.overlay (overlay (← source? f path) (.table []))

def load (f : Folder) (env : Environment) (path : Option String) :
    Except ConfigurationError Configuration := do
  let some c := (gather? f env (path.getD defaultPath)).bind ofValue? | throw .unreadable
  c.validate
  return c

/-- what is told about a loaded configuration -/
def loadedNote (c : Configuration) : Diagnostic :=
  { level := .debug, target := Diagnostic.configuration, message := "Configuration loaded",
    fields := [("default_token_lifetime", .number c.tokenLifetime.seconds.toNat),
      ("level", .text c.level)] }

end AccessControl.Configuration
