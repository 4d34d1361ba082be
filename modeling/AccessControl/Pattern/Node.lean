import AccessControl.Unicode.Lookup

/-!
# Matching

A `Node` is a pattern with its flags resolved.  Positions in a text count its characters; `ends` takes
the positions where a match may begin to those where it may end, and a pattern is found in a text if
it can end anywhere after beginning anywhere.

Lists of positions are in order and without repetitions.
-/

namespace AccessControl.Pattern

/-- conditions on a position -/
inductive Look where
  | textStart
  | textEnd
  | lineStart
  | lineEnd
  | crlfLineStart
  | crlfLineEnd
  | boundary (unicode : Bool)
  | notBoundary (unicode : Bool)
  | wordStart (unicode : Bool)
  | wordEnd (unicode : Bool)
  | wordStartHalf (unicode : Bool)
  | wordEndHalf (unicode : Bool)
  deriving DecidableEq

inductive Node where
  | empty
  | chars (set : CharSet)
  | look (l : Look)
  /-- a group that is numbered; it matches what is in it -/
  | capture (sub : Node)
  | seq (first second : Node)
  | alt (left right : Node)
  | repeated (sub : Node) (least : Nat) (most : Option Nat)

namespace Node

/-- the nodes in pairs from the right -/
def join (pair : Node → Node → Node) : List Node → Node
  | [] => .empty
  | [n] => n
  | n :: ns => pair n (join pair ns)

def isEmpty : Node → Bool
  | .empty => true
  | _ => false

def set? : Node → Option CharSet
  | .chars set => some set
  | _ => none

/-- the nodes one after the other -/
def sequence (nodes : List Node) : Node := join .seq (nodes.filter fun n => !n.isEmpty)

/-- one of the nodes.  Single characters make up one class, and so do classes; a choice that has both
stays as it is. -/
def choice (nodes : List Node) : Node :=
  match nodes.mapM set? with
  | none => join .alt nodes
  | some sets =>
    if sets.all (·.code?.isSome) || sets.all (·.code?.isNone) then .chars (.unions sets)
    else join .alt nodes

end Node

/-- letters, digits and the underscore -/
def asciiWord : CharSet := CharSet.ofRanges [(0x30, 0x39), (0x41, 0x5a), (0x5f, 0x5f), (0x61, 0x7a)]

def isWordAt (unicode : Bool) (c : Option Char) : Bool :=
  match c with
  | none => false
  | some c => if unicode then CharSet.wordCharacters.contains c else asciiWord.contains c

/-- the condition, given the characters before and after the position -/
def Look.between (before after : Option Char) : Look → Bool
  | .textStart => before.isNone
  | .textEnd => after.isNone
  | .lineStart => before.isNone || before = some '\n'
  | .lineEnd => after.isNone || after = some '\n'
  | .crlfLineStart =>
    before.isNone || before = some '\n' || (before = some '\r' && after ≠ some '\n')
  | .crlfLineEnd =>
    after.isNone || after = some '\r' || (after = some '\n' && before ≠ some '\r')
  | .boundary u => isWordAt u before != isWordAt u after
  | .notBoundary u => isWordAt u before == isWordAt u after
  | .wordStart u => !isWordAt u before && isWordAt u after
  | .wordEnd u => isWordAt u before && !isWordAt u after
  | .wordStartHalf u => !isWordAt u before
  | .wordEndHalf u => !isWordAt u after

def Look.holds (text : Array Char) (l : Look) (i : Nat) : Bool :=
  l.between (if i = 0 then none else text[i - 1]?) text[i]?

/-! ## sets of positions -/

/-- both lists in order, equal positions once -/
def mergePositions (as bs : List Nat) : List Nat :=
  as.merge (bs.filter fun b => !as.contains b) fun a b => a ≤ b

/-- takes the step `n` times, or until it changes nothing -/
def stepTimes (step : List Nat → List Nat) : Nat → List Nat → List Nat
  | 0, s => s
  | n + 1, s => let next := step s; if next = s then s else stepTimes step n next

/-- what is reached in at most `n` steps -/
def stepsUpTo (step : List Nat → List Nat) : Nat → List Nat → List Nat
  | 0, s => s
  | n + 1, s => let next := mergePositions s (step s); if next = s then s else stepsUpTo step n next

/-! ## matching -/

/-- where a match may end that begins at one of the positions.  Without an upper bound on a repetition
one more step than there are characters reaches all that any number of steps does. -/
def Node.ends (text : Array Char) : Node → List Nat → List Nat
  | .empty, s => s
  | .chars set, s => (s.filter fun i => (text[i]?).any set.contains).map (· + 1)
  | .look l, s => s.filter (l.holds text)
  | .capture sub, s => sub.ends text s
  | .seq first second, s => second.ends text (first.ends text s)
  | .alt left right, s => mergePositions (left.ends text s) (right.ends text s)
  | .repeated sub least most, s =>
    stepsUpTo (sub.ends text) ((most.map (· - least)).getD (text.size + 1))
      (stepTimes (sub.ends text) least s)

/-- the pattern is found somewhere in the text -/
def Node.isFoundIn (n : Node) (text : Array Char) : Bool :=
  !(n.ends text (List.range (text.size + 1))).isEmpty

end AccessControl.Pattern
