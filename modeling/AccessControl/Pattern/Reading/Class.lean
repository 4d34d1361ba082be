import AccessControl.Pattern.Reading.Literal

/-!
# Reading classes in brackets

Brackets nest, and the operations `&&`, `--` and `~~` group from the left.  The reader keeps the
brackets that are open as a list of `OpenClass`, the innermost first.
-/

namespace AccessControl.Pattern

/-! ## items -/

def AsciiClass.ofName? : String → Option AsciiClass
  | "alnum" => some .alnum
  | "alpha" => some .alpha
  | "ascii" => some .ascii
  | "blank" => some .blank
  | "cntrl" => some .cntrl
  | "digit" => some .digit
  | "graph" => some .graph
  | "lower" => some .lower
  | "print" => some .print
  | "punct" => some .punct
  | "space" => some .space
  | "upper" => some .upper
  | "word" => some .word
  | "xdigit" => some .xdigit
  | _ => none

/-- a class with a name, such as `[:alpha:]` or `[:^alpha:]`, whose bracket the text follows -/
def asciiClass? (cs : List Char) : Option (ClassTree × List Char) :=
  match cs with
  | ':' :: cs =>
    let (negated, cs) := match cs with
      | '^' :: rest => (true, rest)
      | _ => (false, cs)
    match cs.dropWhile (· ≠ ':') with
    | ':' :: ']' :: rest =>
      (AsciiClass.ofName? (String.ofList (cs.takeWhile (· ≠ ':')))).map fun c =>
        (.ascii c negated, rest)
    | _ => none
  | _ => none

/-- one character or escape, which may be the end of a range -/
def classAtom (extended : Bool) : List Char → Option (Atom × List Char)
  | [] => none
  | '\\' :: cs => escaped extended cs
  | c :: cs => some (.literal ⟨c, false⟩, cs)

def Atom.item? : Atom → Option ClassTree
  | .literal l => some (.literal l)
  | .short c negated => some (.short c negated)
  | .property p negated => some (.property p negated)
  | .assertion _ => none

def Atom.literal? : Atom → Option Literal
  | .literal l => some l
  | _ => none

/-- a range, or one item; a hyphen before a bracket or another hyphen makes no range -/
def classItem (extended : Bool) (cs : List Char) : Option (ClassTree × List Char) := do
  let (first, rest) ← classAtom extended cs
  match skip extended rest with
  | [] => none
  | c :: after =>
    let next := skip extended after
    if c ≠ '-' ∨ next.head? = some ']' ∨ next.head? = some '-' then
      return (← first.item?, c :: after)
    else
      let (last, rest) ← classAtom extended next
      let first ← first.literal?
      let last ← last.literal?
      if last.char < first.char then none
      return (.range first last, rest)

/-! ## brackets -/

/-- brackets that are open: the items since the last operation, the last one first, and the
operation that waits for them -/
structure OpenClass where
  negated : Bool
  items : List ClassTree
  waiting : Option (ClassOperation × ClassTree)

namespace OpenClass

/-- the items as one tree, joined to what waits for them -/
def tree (c : OpenClass) : ClassTree :=
  let right := ClassTree.ofItems c.items.reverse
  match c.waiting with
  | none => right
  | some (op, left) => .operation op left right

def add (c : OpenClass) (item : ClassTree) : OpenClass := { c with items := item :: c.items }

def operate (c : OpenClass) (op : ClassOperation) : OpenClass :=
  { c with items := [], waiting := some (op, c.tree) }

end OpenClass

/-- leading hyphens, which stand for themselves -/
def hyphens (extended : Bool) : List Char → Nat × List Char
  | '-' :: cs =>
    have := length_skip_le extended cs
    let (n, rest) := hyphens extended (skip extended cs)
    (n + 1, rest)
  | cs => (0, cs)
termination_by cs => cs.length
decreasing_by simp only [List.length_cons]; omega

/-- what follows an opening bracket: a caret that negates, then hyphens, or else a closing bracket,
that stand for themselves -/
def openClass (extended : Bool) (cs : List Char) : Option (OpenClass × List Char) :=
  let cs := skip extended cs
  let (negated, cs) := match cs with
    | '^' :: rest => (true, skip extended rest)
    | _ => (false, cs)
  let (n, cs) := hyphens extended cs
  let items := List.replicate n (ClassTree.literal ⟨'-', false⟩)
  match cs with
  | [] => none
  | ']' :: rest =>
    if n = 0 then
      match skip extended rest with
      | [] => none
      | rest => some (⟨negated, [.literal ⟨']', false⟩], none⟩, rest)
    else some (⟨negated, items, none⟩, cs)
  | _ => some (⟨negated, items, none⟩, cs)

/-- the rest of a class whose brackets `current` and `outer` are open.  Every round but the last
reads a character, so the length of the text is fuel enough. -/
def classRest (extended : Bool) :
    Nat → OpenClass → List OpenClass → List Char → Option (Tree × List Char)
  | 0, _, _, _ => none
  | fuel + 1, current, outer, cs =>
    match skip extended cs with
    | [] => none
    | '[' :: rest =>
      match asciiClass? rest with
      | some (item, rest) => classRest extended fuel (current.add item) outer rest
      | none => do
        let (inner, rest) ← openClass extended rest
        classRest extended fuel inner (current :: outer) rest
    | ']' :: rest =>
      match outer with
      | [] => some (.brackets current.negated current.tree, rest)
      | parent :: outer =>
        classRest extended fuel (parent.add (.nested current.negated current.tree)) outer rest
    | '&' :: '&' :: rest => classRest extended fuel (current.operate .intersection) outer rest
    | '-' :: '-' :: rest => classRest extended fuel (current.operate .difference) outer rest
    | '~' :: '~' :: rest =>
      classRest extended fuel (current.operate .symmetricDifference) outer rest
    | cs => do
      let (item, rest) ← classItem extended cs
      classRest extended fuel (current.add item) outer rest

/-- a class whose opening bracket the text follows -/
def classTree (extended : Bool) (cs : List Char) : Option (Tree × List Char) := do
  let (first, rest) ← openClass extended cs
  classRest extended (rest.length + 1) first [] rest

end AccessControl.Pattern
