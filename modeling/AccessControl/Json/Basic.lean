import AccessControl.Decimal

/-!
# JSON values

The value of a JSON text.  Members keep their order and their repetitions, because a reader of
records refuses a repeated member.

Some texts are well formed and still have no value: a number that is too large, half of a surrogate
pair.  They are `unreadable`.  Whoever asks for their value refuses them, and whoever skips them
does not notice, so a record may carry them in a member that nobody reads.
-/

namespace AccessControl

inductive Json where
  | null
  | bool (b : Bool)
  | integer (n : Int)
  | real (d : Decimal)
  | string (s : String)
  | array (items : List Json)
  | object (members : List (String × Json))
  | unreadable
  deriving Inhabited

namespace Json

/-- the value has no unreadable part and is nested at most `depth` deep -/
def isReadable : Nat → Json → Bool
  | _, .unreadable => false
  | 0, .array _ => false
  | 0, .object _ => false
  | depth + 1, .array items => items.all (isReadable depth)
  | depth + 1, .object members => members.all fun m => isReadable depth m.2
  | _, _ => true

/-! ## scalars and lists -/

def string? : Json → Option String
  | .string s => some s
  | _ => none

def bool? : Json → Option Bool
  | .bool b => some b
  | _ => none

/-- an integer from `0` to `bound - 1` -/
def below? (bound : Nat) : Json → Option Nat
  | .integer n => if 0 ≤ n ∧ n < bound then some n.toNat else none
  | _ => none

def byte? (j : Json) : Option UInt8 := (j.below? UInt8.size).map UInt8.ofNat

def word32? (j : Json) : Option UInt32 := (j.below? UInt32.size).map UInt32.ofNat

/-- a list whose every item can be read -/
def list? {α : Type} (item : Json → Option α) : Json → Option (List α)
  | .array items => items.mapM item
  | _ => none

/-- nothing is `null` -/
def option? {α : Type} (value : Json → Option α) : Json → Option (Option α)
  | .null => some none
  | j => (value j).map some

/-- the first member of this name -/
def member? (name : String) : Json → Option Json
  | .object members => members.lookup name
  | _ => none

def ofOption {α : Type} (value : α → Json) : Option α → Json
  | none => .null
  | some a => value a

def ofList {α : Type} (item : α → Json) (xs : List α) : Json := .array (xs.map item)

def ofNat (n : Nat) : Json := .integer n

def ofBytes (bytes : List UInt8) : Json := ofList (fun b => ofNat b.toNat) bytes

def bytes? : Json → Option (List UInt8) := list? byte?

end Json
end AccessControl
