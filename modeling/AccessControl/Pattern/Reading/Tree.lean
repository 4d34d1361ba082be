import AccessControl.Pattern.Reading.Class
import AccessControl.Pattern.Reading.Group
import AccessControl.Pattern.Reading.Repetition

/-!
# Reading patterns

The reader keeps the groups that are open, the innermost first; the last of them is the pattern as a
whole.  One `step` reads one item and adds it to the innermost group, or opens or closes a group.

`Tree.ofText?` is the tree of a pattern, or nothing if the text is none or nests too deep.
-/

namespace AccessControl.Pattern

/-- a group that is open.  Branches and items stand with the last one first. -/
structure OpenGroup where
  kind : GroupKind
  /-- was the pattern extended before the group? -/
  extended : Bool
  branches : List Tree := []
  items : List Tree := []

namespace OpenGroup

def branch (g : OpenGroup) : Tree := Tree.ofItems g.items.reverse

def tree (g : OpenGroup) : Tree :=
  if g.branches.isEmpty then g.branch else .alternation (g.branches.reverse ++ [g.branch])

def add (g : OpenGroup) (t : Tree) : OpenGroup := { g with items := t :: g.items }

/-- repeats the last item; a directive cannot be repeated -/
def repeatLast? (g : OpenGroup) (least : Nat) (most : Option Nat) : Option OpenGroup :=
  match g.items with
  | [] => none
  | .directive _ :: _ => none
  | t :: ts => some { g with items := .repeated t least most :: ts }

end OpenGroup

structure Reader where
  extended : Bool
  /-- the names of groups so far -/
  names : List (List Char)
  group : OpenGroup
  outer : List OpenGroup

namespace Reader

def start : Reader := ⟨false, [], { kind := .whole, extended := false }, []⟩

def add (r : Reader) (t : Tree) : Reader := { r with group := r.group.add t }

def repeatLast? (r : Reader) (least : Nat) (most : Option Nat) : Option Reader :=
  (r.group.repeatLast? least most).map fun g => { r with group := g }

def enter (r : Reader) (kind : GroupKind) (extended : Bool) : Reader :=
  { r with
    extended := extended
    group := { kind := kind, extended := r.extended }
    outer := r.group :: r.outer }

def leave? (r : Reader) : Option Reader :=
  match r.outer with
  | [] => none
  | parent :: outer =>
    some { r with
      extended := r.group.extended
      group := parent.add (.group r.group.kind r.group.tree)
      outer := outer }

def nextBranch (r : Reader) : Reader :=
  { r with group := { r.group with branches := r.group.branch :: r.group.branches, items := [] } }

def openGroup (r : Reader) (cs : List Char) : Option (Reader × List Char) := do
  match ← opening r.extended cs with
  | (.directive flags, rest) =>
    let r := r.add (.directive flags)
    return ({ r with extended := (flags.value? .extended).getD r.extended }, rest)
  | (.group (.plain flags), rest) =>
    return (r.enter (.plain flags) ((flags.value? .extended).getD r.extended), rest)
  | (.group kind, rest) => return (r.enter kind r.extended, rest)
  | (.named name, rest) =>
    if r.names.contains name then none
    else return ({ r with names := name :: r.names }.enter .capture r.extended, rest)

def addAtom (r : Reader) : Atom → Reader
  | .literal l => r.add (.literal l)
  | .assertion a => r.add (.assertion a)
  | .short c negated => r.add (.short c negated)
  | .property p negated => r.add (.property p negated)

/-- reads the item that starts with the character `c` -/
def step (r : Reader) (c : Char) (cs : List Char) : Option (Reader × List Char) :=
  match c with
  | '(' => r.openGroup cs
  | ')' => r.leave?.map (·, cs)
  | '|' => some (r.nextBranch, cs)
  | '[' => (classTree r.extended cs).map fun (t, rest) => (r.add t, rest)
  | '?' => (r.repeatLast? 0 (some 1)).map (·, dropLazyMark cs)
  | '*' => (r.repeatLast? 0 none).map (·, dropLazyMark cs)
  | '+' => (r.repeatLast? 1 none).map (·, dropLazyMark cs)
  | '{' => do
    let ((least, most), rest) ← bounds r.extended cs
    return (← r.repeatLast? least most, dropLazyMark (skip r.extended rest))
  | '\\' => (escaped r.extended cs).map fun (a, rest) => (r.addAtom a, rest)
  | '.' => some (r.add .dot, cs)
  | '^' => some (r.add (.assertion .lineStart), cs)
  | '$' => some (r.add (.assertion .lineEnd), cs)
  | c => some (r.add (.literal ⟨c, false⟩), cs)

/-- the tree of what has been read, if no group is open -/
def finish? (r : Reader) : Option Tree := if r.outer.isEmpty then some r.group.tree else none

/-- reads to the end.  Every step reads a character, so the length of the text is fuel enough. -/
def run : Nat → Reader → List Char → Option Tree
  | 0, _, _ => none
  | fuel + 1, r, cs =>
    match skip r.extended cs with
    | [] => r.finish?
    | c :: rest => (r.step c rest).bind fun (r, rest) => run fuel r rest

end Reader

/-- how deep a pattern may nest -/
def greatestHeight : Nat := 250

def Tree.ofText? (cs : List Char) : Option Tree :=
  (Reader.start.run (cs.length + 1) cs).filter fun t => t.height ≤ greatestHeight

end AccessControl.Pattern
