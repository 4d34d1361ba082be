/-!
# Patterns as they are written

`Tree` is the form of a pattern before its flags take effect: a directive such as `(?i)` stands in it
where it was written.  `ClassTree` is what stands between brackets.

`Tree.height` counts how deep a pattern nests; groups, repetitions, alternations, sequences and
brackets count.
-/

namespace AccessControl.Pattern

inductive Flag where
  | ignoreCase
  | multiLine
  /-- a dot matches line ends too -/
  | dotAll
  /-- repetitions take as little as they can; matching at all does not depend on it -/
  | swapGreed
  | unicode
  /-- lines end with carriage return, line feed or both -/
  | crlf
  /-- blanks and comments do not count -/
  | extended
  deriving DecidableEq

/-- flags that are switched on or off -/
abbrev FlagSet := List (Flag × Bool)

/-- a character, and whether it was written as the number of a byte -/
structure Literal where
  char : Char
  isByte : Bool := false

/-- classes with a letter of their own -/
inductive ShortClass where
  | digit
  | space
  | word
  deriving DecidableEq

/-- classes of ASCII with a name in brackets -/
inductive AsciiClass where
  | alnum
  | alpha
  | ascii
  | blank
  | cntrl
  | digit
  | graph
  | lower
  | print
  | punct
  | space
  | upper
  | word
  | xdigit
  deriving DecidableEq

/-- how a property of characters is named -/
inductive PropertyName where
  | name (text : List Char)
  | value (property text : List Char)

inductive ClassOperation where
  | intersection
  | difference
  | symmetricDifference
  deriving DecidableEq

inductive ClassTree where
  | empty
  | literal (l : Literal)
  | range (first last : Literal)
  | ascii (c : AsciiClass) (negated : Bool)
  | short (c : ShortClass) (negated : Bool)
  | property (p : PropertyName) (negated : Bool)
  | nested (negated : Bool) (inner : ClassTree)
  /-- two items or more -/
  | union (items : List ClassTree)
  | operation (op : ClassOperation) (left right : ClassTree)

inductive Assertion where
  | lineStart
  | lineEnd
  | textStart
  | textEnd
  | wordBoundary
  | notWordBoundary
  | wordStart
  | wordEnd
  | wordStartHalf
  | wordEndHalf
  deriving DecidableEq

inductive GroupKind where
  /-- the pattern as a whole, which is no group -/
  | whole
  | capture
  | plain (flags : FlagSet)

inductive Tree where
  | empty
  | directive (flags : FlagSet)
  | literal (l : Literal)
  | dot
  | assertion (a : Assertion)
  | short (c : ShortClass) (negated : Bool)
  | property (p : PropertyName) (negated : Bool)
  | brackets (negated : Bool) (inner : ClassTree)
  | repeated (sub : Tree) (least : Nat) (most : Option Nat)
  | group (kind : GroupKind) (sub : Tree)
  /-- two branches or more -/
  | alternation (branches : List Tree)
  /-- two items or more -/
  | sequence (items : List Tree)

/-! ## one item is itself -/

def ClassTree.ofItems : List ClassTree → ClassTree
  | [] => .empty
  | [item] => item
  | items => .union items

def Tree.ofItems : List Tree → Tree
  | [] => .empty
  | [item] => item
  | items => .sequence items

/-! ## height -/

mutual

def ClassTree.height : ClassTree → Nat
  | .nested _ inner => inner.height + 1
  | .union items => ClassTree.heights items + 1
  | .operation _ left right => max left.height right.height + 1
  | _ => 0

/-- the greatest height -/
def ClassTree.heights : List ClassTree → Nat
  | [] => 0
  | t :: ts => max t.height (ClassTree.heights ts)

end

mutual

def Tree.height : Tree → Nat
  | .brackets _ inner => inner.height + 1
  | .repeated sub _ _ => sub.height + 1
  | .group _ sub => sub.height + 1
  | .alternation branches => Tree.heights branches + 1
  | .sequence items => Tree.heights items + 1
  | _ => 0

/-- the greatest height -/
def Tree.heights : List Tree → Nat
  | [] => 0
  | t :: ts => max t.height (Tree.heights ts)

end

end AccessControl.Pattern
