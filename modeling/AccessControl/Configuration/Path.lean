import AccessControl.Configuration.Value
import AccessControl.Digits

/-!
# Paths in configuration values

`logging.level` is the member `level` of the member `logging`; `servers[0]` is the first item of a
list, and `servers[-1]` its last.  What is no path in this form is the name of one member.

Putting a value at a path makes room for it: whatever is in the way is replaced by a table or a list,
and lists are filled up with `null`.
-/

namespace AccessControl.Configuration

inductive Step where
  | member (name : String)
  /-- from the end if negative -/
  | item (index : Int)
  deriving DecidableEq

abbrev Path := List Step

namespace Path

/-! ## reading -/

def isNameChar (c : Char) : Bool := c.isAlphanum || c = '_' || c = '-'

def name? (cs : List Char) : Option (String × List Char) :=
  let name := cs.takeWhile isNameChar
  if name.isEmpty then none else some (String.ofList name, cs.dropWhile isNameChar)

def isBlank (c : Char) : Bool := c = ' ' || c = '\t'

/-- an index up to its closing bracket.  It fits in 64 bits with its sign. -/
def index? (cs : List Char) : Option (Int × List Char) :=
  let (negative, cs) := match cs.dropWhile isBlank with
    | '-' :: r => (true, r)
    | r => (false, r)
  let (ds, cs) := Digits.split cs
  let n : Int := if negative then -Digits.value ds else Digits.value ds
  match cs.dropWhile isBlank with
  | ']' :: rest =>
    if ds.isEmpty || n < Int64.minValue.toInt || Int64.maxValue.toInt < n then none
    else some (n, rest)
  | _ => none

/-- the steps after the first name.  Every step is a character at least, so the length of the text is
fuel enough. -/
def steps? : Nat → List Char → Option Path
  | 0, _ => none
  | _ + 1, [] => some []
  | fuel + 1, '.' :: cs => do
    let (name, cs) ← name? cs
    return .member name :: (← steps? fuel cs)
  | fuel + 1, '[' :: cs => do
    let (index, cs) ← index? cs
    return .item index :: (← steps? fuel cs)
  | _ + 1, _ => none

def parse? (text : String) : Option Path := do
  let (name, cs) ← name? text.toList
  return .member name :: (← steps? (cs.length + 1) cs)

def ofText (text : String) : Path := (parse? text).getD [.member text]

end Path

namespace Value

/-- changes the item at an index, after filling the list up with `null` at the end that is too
short -/
def alterItem (index : Int) (f : Value → Value) (xs : List Value) : List Value :=
  let fromStart := if index < 0 then index + xs.length else index
  let xs := List.replicate (-fromStart).toNat Value.null ++ xs
  (xs ++ List.replicate (fromStart.toNat + 1 - xs.length) Value.null).modify fromStart.toNat f

/-- lays a value over what is found at a path -/
def put (v : Value) : Path → Value → Value
  | [], under => v.merge under
  | .member name :: path, under => .table (alter name (v.put path) under.members)
  | .item index :: path, under => .list (alterItem index (v.put path) under.items)

end Value
end AccessControl.Configuration
