import AccessControl.Digits
import AccessControl.Hex

/-!
# Sets of characters

A set of characters is a list of ranges of code points.  Every operation gives its ranges in order,
disjoint, and with gaps between them.

* `ofRanges`       puts any ranges into that form;
* `union`, `inter`, `diff`, `symmDiff`, `compl`   are the operations of sets;
* `ofHex`          reads the ranges of a table: `41-5a 61-7a aa`.
-/

namespace AccessControl

structure CharSet where
  ranges : List (Nat × Nat)
  deriving DecidableEq, Inhabited

namespace CharSet

def empty : CharSet := ⟨[]⟩

def singleton (c : Char) : CharSet := ⟨[(c.toNat, c.toNat)]⟩

def range (first last : Char) : CharSet := ⟨[(first.toNat, last.toNat)]⟩

def contains (s : CharSet) (c : Char) : Bool :=
  s.ranges.any fun r => r.1 ≤ c.toNat && c.toNat ≤ r.2

/-! ## normal form -/

/-- joins ranges that overlap or touch; the list is sorted and starts after the range `lo`, `hi` -/
def coalesce (lo hi : Nat) : List (Nat × Nat) → List (Nat × Nat)
  | [] => [(lo, hi)]
  | (a, b) :: rest =>
    if a ≤ hi + 1 then coalesce lo (max hi b) rest else (lo, hi) :: coalesce a b rest

def ofSorted : List (Nat × Nat) → CharSet
  | [] => ⟨[]⟩
  | (a, b) :: rest => ⟨coalesce a b rest⟩

def ofRanges (rs : List (Nat × Nat)) : CharSet := ofSorted (rs.mergeSort fun a b => a.1 ≤ b.1)

def ofCodes (codes : List Nat) : CharSet := ofRanges (codes.map fun c => (c, c))

/-! ## operations -/

/-- the last code point -/
def lastCode : Nat := 0x10ffff

def union (s t : CharSet) : CharSet := ofSorted (s.ranges.merge t.ranges fun a b => a.1 ≤ b.1)

/-- what lies between the ranges, from `next` on -/
def gaps (next : Nat) : List (Nat × Nat) → List (Nat × Nat)
  | [] => if next ≤ lastCode then [(next, lastCode)] else []
  | (a, b) :: rest => if next < a then (next, a - 1) :: gaps (b + 1) rest else gaps (b + 1) rest

def compl (s : CharSet) : CharSet := ⟨gaps 0 s.ranges⟩

def inter (s t : CharSet) : CharSet := (s.compl.union t.compl).compl

def diff (s t : CharSet) : CharSet := (s.compl.union t).compl

def symmDiff (s t : CharSet) : CharSet := (s.diff t).union (t.diff s)

instance : Union CharSet := ⟨union⟩
instance : Inter CharSet := ⟨inter⟩
instance : SDiff CharSet := ⟨diff⟩

def unions (sets : List CharSet) : CharSet := ofRanges (sets.flatMap (·.ranges))

/-- the only code point of the set, if it has no other -/
def code? (s : CharSet) : Option Nat :=
  match s.ranges with
  | [(first, last)] => if first = last then some first else none
  | _ => none

/-- no character above U+007F -/
def isAscii (s : CharSet) : Bool := s.ranges.all fun r => r.2 < 0x80

/-! ## tables -/

/-- one range of a table: two hexadecimal numbers with a hyphen, or one -/
def rangeOfHex? (token : String) : Option (Nat × Nat) := do
  let cs := token.toList
  let first ← Hex.value? (cs.takeWhile (· ≠ '-'))
  match cs.dropWhile (· ≠ '-') with
  | [] => return (first, first)
  | _ :: rest => return (first, ← Hex.value? rest)

def ofHex (lines : List String) : CharSet :=
  ofRanges (lines.flatMap fun line => (line.splitOn " ").filterMap rangeOfHex?)

end CharSet
end AccessControl
