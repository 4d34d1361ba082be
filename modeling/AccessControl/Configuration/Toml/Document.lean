import AccessControl.Configuration.Toml.Scalar
import AccessControl.Configuration.Toml.Table
import AccessControl.Configuration.Toml.Text

/-!
# TOML documents

A document is a list of statements, one a line: headers of tables, headers of rows, and keys with
their values.  A value may go on over several lines inside its brackets.  Lists and tables in braces
are nested at most 80 deep.
-/

namespace AccessControl.Configuration.Toml

/-! ## values -/

/-- how deep brackets may be nested -/
def depthLimit : Nat := 80

/-- the table of these keys and values -/
def table? (assignments : List (List String × Value)) : Option Value := do
  let ms ← assignments.foldlM (fun ms (key, v) => Members.assign? v key ms) []
  return .table (finishMembers ms)

mutual

/-- one value.  Each call works on a shorter text than its caller, so the length of the whole text is
fuel enough; `depth` is how many more brackets may open. -/
def value? : Nat → Nat → List Char → Option (Value × List Char)
  | 0, _, _ => none
  | fuel + 1, depth, cs =>
    match cs with
    | '"' :: _ | '\'' :: _ => (string? cs).map fun (s, rest) => (.text (String.ofList s), rest)
    | '[' :: rest => do
      if depth = 0 then none
      let (xs, rest) ← items? fuel (depth - 1) rest
      return (.list xs, rest)
    | '{' :: rest => do
      if depth = 0 then none
      let (assignments, rest) ← assignments? fuel (depth - 1) rest
      return (← table? assignments, rest)
    | _ =>
      let (word, rest) := run cs
      (scalarValue? word).map fun v => (v, rest)

/-- the items of a list after its bracket or after a comma -/
def items? : Nat → Nat → List Char → Option (List Value × List Char)
  | 0, _, _ => none
  | fuel + 1, depth, cs => do
    match ← skipLines? cs.length cs with
    | ']' :: rest => return ([], rest)
    | cs =>
      let (v, cs) ← value? fuel depth cs
      match ← skipLines? cs.length cs with
      | ',' :: rest =>
        let (vs, rest) ← items? fuel depth rest
        return (v :: vs, rest)
      | ']' :: rest => return ([v], rest)
      | _ => none

/-- the keys and values of a table after its brace or after a comma -/
def assignments? : Nat → Nat → List Char → Option (List (List String × Value) × List Char)
  | 0, _, _ => none
  | fuel + 1, depth, cs => do
    match ← skipLines? cs.length cs with
    | '}' :: rest => return ([], rest)
    | cs =>
      let (a, cs) ← assignment? fuel depth cs
      match ← skipLines? cs.length cs with
      | ',' :: rest =>
        let (as, rest) ← assignments? fuel depth rest
        return (a :: as, rest)
      | '}' :: rest => return ([a], rest)
      | _ => none

/-- a key and its value -/
def assignment? : Nat → Nat → List Char → Option ((List String × Value) × List Char)
  | 0, _, _ => none
  | fuel + 1, depth, cs => do
    let (key, cs) ← key? (cs.length + 1) cs
    let '=' :: cs := cs | none
    let (v, cs) ← value? fuel depth (skipBlanks cs)
    return ((key, v), cs)

end

/-! ## statements -/

inductive Statement where
  | table (path : List String)
  | row (path : List String)
  | assign (key : List String) (v : Value)

/-- the statement at the front of a line, and what follows it -/
def statement? (cs : List Char) : Option (Statement × List Char) := do
  match cs with
  | '[' :: '[' :: rest =>
    let (path, rest) ← key? (rest.length + 1) rest
    let ']' :: ']' :: rest := rest | none
    return (.row path, rest)
  | '[' :: rest =>
    let (path, rest) ← key? (rest.length + 1) rest
    let ']' :: rest := rest | none
    return (.table path, rest)
  | _ =>
    let ((key, v), rest) ← assignment? (2 * cs.length + 2) depthLimit cs
    return (.assign key v, rest)

/-- the statements of a text.  Each takes a line, so the length of the text is fuel enough. -/
def statements? : Nat → List Char → Option (List Statement)
  | 0, _ => none
  | fuel + 1, cs => do
    match ← skipLines? cs.length cs with
    | [] => return []
    | cs =>
      let (s, rest) ← statement? cs
      return s :: (← statements? fuel (← endLine? rest))

/-- a document up to a statement: what was defined, and the table that keys are added to -/
structure Draft where
  members : Members := []
  path : List String := []

/-- applies a change at the end of a path -/
def Draft.define? (d : Draft) (path : List String) (f : String → Members → Option Members) :
    Option Draft := do
  return ⟨← Members.within? (f (← path.getLast?)) path.dropLast d.members, path⟩

def Draft.add? (d : Draft) : Statement → Option Draft
  | .table path => d.define? path Members.head?
  | .row path => d.define? path Members.addRow?
  | .assign key v => do
    return { d with members := ← Members.within? (Members.assign? v key) d.path d.members }

/-- the table that a text defines; a byte order mark in front does not count -/
def parse? (text : String) : Option Value := do
  let cs := match text.toList with
    | '\uFEFF' :: cs => cs
    | cs => cs
  let cs := joinBreaks cs
  let d ← (← statements? (cs.length + 1) cs).foldlM Draft.add? {}
  return .table (finishMembers d.members)

end AccessControl.Configuration.Toml
