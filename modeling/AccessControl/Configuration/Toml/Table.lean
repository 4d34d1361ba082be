import AccessControl.Configuration.Value

/-!
# TOML: tables in the making

A table may be made in pieces, by headers and by keys with points in them, but nothing may be defined
twice.  Each table therefore remembers how it came about:

* `implied`  by a longer header, so that its own header may still come;
* `headed`   by its own header;
* `dotted`   by keys with points, which may add to it.

A header leads through all kinds of tables, and through the last row of a list of tables.
-/

namespace AccessControl.Configuration.Toml

inductive Origin where
  | implied
  | headed
  | dotted
  deriving DecidableEq

inductive Entry where
  | value (v : Value)
  | table (origin : Origin) (members : List (String × Entry))
  /-- a list of tables, to which headers add rows -/
  | rows (tables : List (List (String × Entry)))

abbrev Members := List (String × Entry)

namespace Members

/-- replaces the member of this name, or adds one at the end -/
def set (name : String) (e : Entry) : Members → Members
  | [] => [(name, e)]
  | (n, old) :: ms => if n = name then (n, e) :: ms else (n, old) :: set name e ms

/-- changes the last row -/
def inLast? (f : Members → Option Members) (tables : List Members) : Option (List Members) := do
  return tables.dropLast ++ [← f (← tables.getLast?)]

/-- changes the table that the names of a header lead to; the tables on the way that do not exist yet
are implied -/
def within? (f : Members → Option Members) : List String → Members → Option Members
  | [], ms => f ms
  | name :: names, ms => do
    let e ← match ms.lookup name with
      | none => (within? f names []).map (Entry.table .implied)
      | some (.table origin inner) => (within? f names inner).map (Entry.table origin)
      | some (.rows tables) => (inLast? (within? f names) tables).map Entry.rows
      | some (.value _) => none
    return set name e ms

/-- defines a table by its header -/
def head? (name : String) (ms : Members) : Option Members :=
  match ms.lookup name with
  | none => some (set name (.table .headed []) ms)
  | some (.table .implied inner) => some (set name (.table .headed inner) ms)
  | _ => none

/-- adds a row to a list of tables -/
def addRow? (name : String) (ms : Members) : Option Members :=
  match ms.lookup name with
  | none => some (set name (.rows [[]]) ms)
  | some (.rows tables) => some (set name (.rows (tables ++ [[]])) ms)
  | _ => none

/-- defines a value by its key.  The names before the last lead through tables that have no header of
their own, and end in a dotted one. -/
def assign? (v : Value) : List String → Members → Option Members
  | [], _ => none
  | [name], ms => if (ms.lookup name).isSome then none else some (set name (.value v) ms)
  | name :: names, ms => do
    let isEnd := names.length = 1
    let e ← match ms.lookup name with
      | none => (assign? v names []).map (Entry.table .dotted)
      | some (.table origin inner) =>
        if origin = .headed ∨ (isEnd ∧ origin ≠ .dotted) then none
        else (assign? v names inner).map (Entry.table origin)
      | some (.rows tables) =>
        if isEnd then none else (inLast? (assign? v names) tables).map Entry.rows
      | some (.value _) => none
    return set name e ms

end Members

/-! ## finished tables -/

mutual

def Entry.finish : Entry → Value
  | .value v => v
  | .table _ ms => .table (finishMembers ms)
  | .rows tables => .list (finishRows tables)

def finishMembers : List (String × Entry) → List (String × Value)
  | [] => []
  | (name, e) :: ms => (name, e.finish) :: finishMembers ms

def finishRows : List (List (String × Entry)) → List Value
  | [] => []
  | ms :: rows => .table (finishMembers ms) :: finishRows rows

end

end AccessControl.Configuration.Toml
