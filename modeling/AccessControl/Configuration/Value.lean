import AccessControl.Configuration.Basic

/-!
# Values of configuration sources

What a file or the environment says, before it is known to be a configuration: scalars, lists and
tables.  Sources are laid over each other with `merge`, and the result is read with
`Configuration.ofValue?`.

Reading is generous: a scalar that should be a text stands for its text, a list may give the fields
of a section in order, and what is not asked for does not count.
-/

namespace AccessControl.Configuration

inductive Value where
  | null
  | text (s : String)
  | flag (b : Bool)
  | whole (n : Int)
  | real (d : Decimal)
  | list (items : List Value)
  | table (members : List (String × Value))
  deriving Inhabited

namespace Value

/-- the members of a table; another value has none -/
def members : Value → List (String × Value)
  | .table ms => ms
  | _ => []

/-- the items of a list; another value has none -/
def items : Value → List Value
  | .list xs => xs
  | _ => []

/-- changes one member; an absent one starts as `null` -/
def alter (name : String) (f : Value → Value) : List (String × Value) → List (String × Value)
  | [] => [(name, f .null)]
  | (n, v) :: ms => if n = name then (n, f v) :: ms else (n, v) :: alter name f ms

/-! ## laying over -/

mutual

/-- lays the first value over the second.  Tables are merged, everything else is replaced. -/
def merge : Value → Value → Value
  | .table ms, under => .table (mergeMembers ms under.members)
  | v, _ => v

def mergeMembers : List (String × Value) → List (String × Value) → List (String × Value)
  | [], under => under
  | (name, v) :: ms, under => mergeMembers ms (alter name (merge v) under)

end

/-! ## reading -/

/-- the text of a scalar -/
def text? : Value → Option String
  | .text s => some s
  | .flag b => some (if b then "true" else "false")
  | .whole n => some (toString n)
  | .real d => some d.text
  | _ => none

/-- one slot per field: the members of these names, or the items at their places -/
def fields? (names : List String) : Value → Option (List (Option Value))
  | .table ms => some (names.map fun name => ms.lookup name)
  | .list xs => some ((List.range names.length).map fun i => xs[i]?)
  | _ => none

/-- the only field of a section -/
def only? {α : Type} (name : String) (read : Value → Option α) (default : α) (v : Value) :
    Option α := do
  match ← v.fields? [name] with
  | [some field] => read field
  | _ => some default

end Value

def ofValue? (v : Value) : Option Configuration := do
  let lifetime := Value.only? lifetimeName (fun v => v.text?.bind Duration.ofText?)
    standard.tokenLifetime
  let level := Value.only? levelName Value.text? standard.level
  match ← v.fields? [lifetimeSection, levelSection] with
  | [first, second] =>
    return {
      tokenLifetime := ← first.elim (some standard.tokenLifetime) lifetime
      level := ← second.elim (some standard.level) level }
  | _ => none

end AccessControl.Configuration
