import AccessControl.Json.Basic

/-!
# Records in JSON

A record is an object with named members or, in short form, the list of its members in order.  In an
object the order is free, unknown members are skipped and a known member may stand only once.  A
list may end early, but never be too long.

`Record.ofJson?` brings both forms to one slot per field.  The three kinds of field differ in what
they make of a slot that is not given:

* `required`   refuses it;
* `optional`   takes it for `null` in an object, and refuses it at the end of a list;
* `defaulted`  takes its default in both forms.
-/

namespace AccessControl

/-- what a record says about one of its fields -/
inductive Slot where
  | given (j : Json)
  /-- an object without this member -/
  | absent
  /-- a list that ends before this field -/
  | cut

/-- the slots of a record, by field name -/
abbrev Record := List (String × Slot)

namespace Record

def ofMember (members : List (String × Json)) (name : String) : Slot :=
  (members.lookup name).elim .absent .given

/-- a known member stands twice -/
def repeats (names : List String) (members : List (String × Json)) : Bool :=
  names.any fun name => 1 < (members.map (·.1)).count name

/-- the fields of a list in order, those past its end cut -/
def ofItems : List String → List Json → Record
  | [], _ => []
  | name :: names, [] => (name, .cut) :: ofItems names []
  | name :: names, x :: xs => (name, .given x) :: ofItems names xs

def ofJson? (names : List String) : Json → Option Record
  | .object members =>
    if repeats names members then none
    else some (names.map fun name => (name, ofMember members name))
  | .array items => if names.length < items.length then none else some (ofItems names items)
  | _ => none

def slot (r : Record) (name : String) : Slot := (r.lookup name).getD .absent

variable {α : Type}

def required (r : Record) (name : String) (read : Json → Option α) : Option α :=
  match r.slot name with
  | .given j => read j
  | _ => none

def optional (r : Record) (name : String) (read : Json → Option α) : Option (Option α) :=
  match r.slot name with
  | .given j => j.option? read
  | .absent => some none
  | .cut => none

def defaulted (r : Record) (name : String) (default : α) (read : Json → Option α) : Option α :=
  match r.slot name with
  | .given j => read j
  | _ => some default

end Record
end AccessControl
