import AccessControl.Pattern.Node
import AccessControl.Pattern.Tree

/-!
# The meaning of flags

`Tree.node?` resolves the flags of a pattern.  A directive takes effect from where it stands to the end
of its group, also in later branches.

A pattern matches text, so nothing in it may stand for a part of a character.  Without the Unicode flag
classes hold ASCII characters only; a dot, a negated class, a property, or a class with another
character in it is then refused.
-/

namespace AccessControl.Pattern

/-- the flags on which the meaning of an item depends -/
structure Mode where
  ignoreCase : Bool := false
  multiLine : Bool := false
  dotAll : Bool := false
  unicode : Bool := true
  crlf : Bool := false

def Mode.set (m : Mode) : Flag × Bool → Mode
  | (.ignoreCase, on) => { m with ignoreCase := on }
  | (.multiLine, on) => { m with multiLine := on }
  | (.dotAll, on) => { m with dotAll := on }
  | (.unicode, on) => { m with unicode := on }
  | (.crlf, on) => { m with crlf := on }
  | (.swapGreed, _) => m
  | (.extended, _) => m

def Mode.apply (m : Mode) (flags : FlagSet) : Mode := flags.foldl Mode.set m

/-! ## classes -/

def AsciiClass.set : AsciiClass → CharSet
  | .alnum => .ofRanges [(0x30, 0x39), (0x41, 0x5a), (0x61, 0x7a)]
  | .alpha => .ofRanges [(0x41, 0x5a), (0x61, 0x7a)]
  | .ascii => .ofRanges [(0x00, 0x7f)]
  | .blank => .ofRanges [(0x09, 0x09), (0x20, 0x20)]
  | .cntrl => .ofRanges [(0x00, 0x1f), (0x7f, 0x7f)]
  | .digit => .ofRanges [(0x30, 0x39)]
  | .graph => .ofRanges [(0x21, 0x7e)]
  | .lower => .ofRanges [(0x61, 0x7a)]
  | .print => .ofRanges [(0x20, 0x7e)]
  | .punct => .ofRanges [(0x21, 0x2f), (0x3a, 0x40), (0x5b, 0x60), (0x7b, 0x7e)]
  | .space => .ofRanges [(0x09, 0x0d), (0x20, 0x20)]
  | .upper => .ofRanges [(0x41, 0x5a)]
  | .word => asciiWord
  | .xdigit => .ofRanges [(0x30, 0x39), (0x41, 0x46), (0x61, 0x66)]

def ShortClass.set (unicode : Bool) : ShortClass → CharSet
  | .digit => if unicode then CharSet.digits else AsciiClass.digit.set
  | .space => if unicode then CharSet.spaces else AsciiClass.space.set
  | .word => if unicode then CharSet.wordCharacters else asciiWord

def PropertyName.set? : PropertyName → Option CharSet
  | .name text => CharSet.ofName? text
  | .value property text => CharSet.ofValue? property text

namespace Mode

/-- adds the other case where case does not count -/
def fold (m : Mode) (s : CharSet) : CharSet :=
  if !m.ignoreCase then s else if m.unicode then s.fold else s.foldAscii

/-- the complement of a negated class, which only Unicode has -/
def negate? (m : Mode) (negated : Bool) (s : CharSet) : Option CharSet :=
  if !negated then some s else if m.unicode then some s.compl else none

/-- a character of a class; without Unicode it is an ASCII character -/
def classChar? (m : Mode) (l : Literal) : Option Char :=
  if m.unicode || l.char.toNat < 0x80 then some l.char else none

def property? (m : Mode) (p : PropertyName) (negated : Bool) : Option CharSet :=
  if m.unicode then p.set?.bind fun s => m.negate? negated (m.fold s) else none

def combine (op : ClassOperation) (left right : CharSet) : CharSet :=
  match op with
  | .intersection => left ∩ right
  | .difference => left \ right
  | .symmetricDifference => left.symmDiff right

end Mode

mutual

def ClassTree.set? (m : Mode) : ClassTree → Option CharSet
  | .empty => some .empty
  | .literal l => (m.classChar? l).map CharSet.singleton
  | .range first last => do return CharSet.range (← m.classChar? first) (← m.classChar? last)
  | .ascii c negated => m.negate? negated (m.fold c.set)
  | .short c negated => m.negate? negated (c.set m.unicode)
  | .property p negated => m.property? p negated
  | .nested negated inner => (inner.set? m).bind fun s => m.negate? negated (m.fold s)
  | .union items => (ClassTree.sets? m items).map CharSet.unions
  | .operation op left right => do
    return Mode.combine op (m.fold (← left.set? m)) (m.fold (← right.set? m))

def ClassTree.sets? (m : Mode) : List ClassTree → Option (List CharSet)
  | [] => some []
  | t :: ts => do return (← t.set? m) :: (← ClassTree.sets? m ts)

end

/-! ## items -/

/-- a character outside of classes.  Without Unicode a byte above ASCII is no character. -/
def Mode.literal? (m : Mode) (l : Literal) : Option CharSet :=
  if !m.unicode && l.isByte && 0x7f < l.char.toNat then none
  else some (m.fold (.singleton l.char))

/-- all characters, or all but line ends -/
def Mode.dot? (m : Mode) : Option CharSet :=
  if !m.unicode then none
  else if m.dotAll then some (CharSet.empty.compl)
  else if m.crlf then some (CharSet.ofCodes [0x0a, 0x0d]).compl
  else some (CharSet.ofCodes [0x0a]).compl

def Mode.look (m : Mode) : Assertion → Look
  | .lineStart => if !m.multiLine then .textStart else if m.crlf then .crlfLineStart else .lineStart
  | .lineEnd => if !m.multiLine then .textEnd else if m.crlf then .crlfLineEnd else .lineEnd
  | .textStart => .textStart
  | .textEnd => .textEnd
  | .wordBoundary => .boundary m.unicode
  | .notWordBoundary => .notBoundary m.unicode
  | .wordStart => .wordStart m.unicode
  | .wordEnd => .wordEnd m.unicode
  | .wordStartHalf => .wordStartHalf m.unicode
  | .wordEndHalf => .wordEndHalf m.unicode

/-- the mode inside a group -/
def GroupKind.mode (m : Mode) : GroupKind → Mode
  | .plain flags => m.apply flags
  | _ => m

def GroupKind.node (sub : Node) : GroupKind → Node
  | .capture => .capture sub
  | _ => sub

mutual

/-- the node of a tree, and the mode for what comes after it -/
def Tree.node? (m : Mode) : Tree → Option (Node × Mode)
  | .empty => some (.empty, m)
  | .directive flags => some (.empty, m.apply flags)
  | .literal l => (m.literal? l).map fun s => (.chars s, m)
  | .dot => m.dot?.map fun s => (.chars s, m)
  | .assertion a => some (.look (m.look a), m)
  | .short c negated => (m.negate? negated (c.set m.unicode)).map fun s => (.chars s, m)
  | .property p negated => (m.property? p negated).map fun s => (.chars s, m)
  | .brackets negated inner =>
    (inner.set? m).bind fun s => (m.negate? negated (m.fold s)).map fun s => (.chars s, m)
  | .repeated sub least most => (sub.node? m).map fun (n, m) => (.repeated n least most, m)
  | .group kind sub => (sub.node? (kind.mode m)).map fun (n, _) => (kind.node n, m)
  | .alternation branches => (Tree.nodes? m branches).map fun (ns, m) => (.choice ns, m)
  | .sequence items => (Tree.nodes? m items).map fun (ns, m) => (.sequence ns, m)

/-- the nodes of trees one after the other -/
def Tree.nodes? (m : Mode) : List Tree → Option (List Node × Mode)
  | [] => some ([], m)
  | t :: ts => do
    let (first, m) ← t.node? m
    let (rest, m) ← Tree.nodes? m ts
    return (first :: rest, m)

end

end AccessControl.Pattern
