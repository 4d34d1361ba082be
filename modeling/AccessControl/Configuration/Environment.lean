import AccessControl.Configuration.Path

/-!
# Configuration in the environment

A variable whose name starts with `OCTOACS__` sets a value.  The rest of its name is the path, with
`__` between the steps: `OCTOACS__LOGGING__LEVEL`.  Letters of the name may have any case.

Variables are taken in the order of their names.
-/

namespace AccessControl.Configuration

/-- variables by their names, and their values -/
abbrev Environment := List (String × String)

namespace Environment

/-! ## names -/

def start : List Char := "octoacs__".toList

/-- the only letters outside ASCII that have small forms in ASCII are the sign of the kelvin and the
capital I with a dot, which keeps its dot as a mark of its own -/
def lower (c : Char) : List Char :=
  if c = '\u212A' then ['k'] else if c = '\u0130' then ['i', '\u0307'] else [c.toLower]

/-- two underscores, taken from the front, become a point -/
def joinSteps : List Char → List Char
  | '_' :: '_' :: cs => '.' :: joinSteps cs
  | c :: cs => c :: joinSteps cs
  | [] => []

/-- the text of the path that a variable sets; `none` if the variable is about something else -/
def pathText? (name : String) : Option String :=
  let cs := name.toList.flatMap lower
  if start.isPrefixOf cs then some (String.ofList (joinSteps (cs.drop start.length))) else none

/-! ## values -/

/-- whether there is a minus sign, and what follows the sign -/
def sign : List Char → Bool × List Char
  | '-' :: cs => (true, cs)
  | '+' :: cs => (false, cs)
  | cs => (false, cs)

/-- digits alone, with or without a sign -/
def signed? (cs : List Char) : Option Int :=
  let (negative, ds) := sign cs
  if ds.isEmpty || !ds.all Digits.isDigit then none
  else some (if negative then -Digits.value ds else Digits.value ds)

/-- an integer of 64 bits -/
def integer? (cs : List Char) : Option Value := do
  let n ← signed? cs
  if Int64.minValue.toInt ≤ n ∧ n ≤ Int64.maxValue.toInt then some (.whole n) else none

/-- a fraction after its point, or nothing -/
def fraction : List Char → List Char × List Char
  | '.' :: cs => Digits.split cs
  | cs => ([], cs)

/-- an exponent after its letter, or nothing -/
def exponent? : List Char → Option Int
  | [] => some 0
  | c :: cs => if c = 'e' ∨ c = 'E' then signed? cs else none

/-- a decimal with a digit before or after its point, and maybe an exponent.  One that is too large
for a double stays a text. -/
def decimal? (cs : List Char) : Option Value := do
  let (negative, cs) := sign cs
  let (whole, cs) := Digits.split cs
  let (fraction, cs) := fraction cs
  if whole.isEmpty && fraction.isEmpty then none
  let d : Decimal :=
    ⟨negative, Digits.value (whole ++ fraction), (← exponent? cs) - fraction.length⟩
  if d.overflows then none else some (.real d)

/-- the value that a text spells: a flag, an integer, a decimal, or else the text -/
def value (text : String) : Value :=
  match text.map Char.toLower with
  | "true" => .flag true
  | "false" => .flag false
  | _ => ((integer? text.toList).orElse fun _ => decimal? text.toList).getD (.text text)

/-! ## overlays -/

/-- lays the variables over a value -/
def overlay (env : Environment) (under : Value) : Value :=
  (env.mergeSort fun a b => a.1 ≤ b.1).foldl (fun v (name, text) =>
    match pathText? name with
    | none => v
    | some path => (value text).put (Path.ofText path) v) under

end Environment
end AccessControl.Configuration
