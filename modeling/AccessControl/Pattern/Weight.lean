import AccessControl.Pattern.Node

/-!
# The weight of a pattern

A pattern is refused when the program for it would take more than ten megabytes.  The program reads
UTF-8 bytes: a state takes 32 bytes, a choice four more per branch and a set of bytes eight more per
range.  A class is a tree of byte ranges, a choice between words a tree of bytes, and a counted
repetition repeats what it counts.
-/

namespace AccessControl.Pattern

/-- the bytes of a code point -/
def utf8Bytes (code : Nat) : List Nat :=
  if code < 0x80 then [code]
  else if code < 0x800 then [0xc0 + code / 0x40, 0x80 + code % 0x40]
  else if code < 0x10000 then
    [0xe0 + code / 0x1000, 0x80 + code / 0x40 % 0x40, 0x80 + code % 0x40]
  else
    [0xf0 + code / 0x40000, 0x80 + code / 0x1000 % 0x40, 0x80 + code / 0x40 % 0x40,
      0x80 + code % 0x40]

/-- the first code point after `first` at which a range up to `last` has to be cut, so that its bytes
are ranges on their own: where the number of bytes changes, and where a byte does while those after it
do not run through all their values -/
def cut? (first last : Nat) : Option Nat :=
  let byLength := [0x80, 0x800, 0x10000].find? fun bound => first < bound && bound ≤ last
  let byByte := [0x40, 0x1000, 0x40000].findSome? fun block =>
    if first / block = last / block then none
    else if first % block ≠ 0 then some ((first / block + 1) * block)
    else if last % block ≠ block - 1 then some (last / block * block)
    else none
  byLength.orElse fun _ => if last < 0x80 then none else byByte

/-- the byte ranges of a range of code points, one list per piece.  No range is cut more than 32 times
in a row. -/
def byteRanges : Nat → Nat → Nat → List (List (Nat × Nat))
  | 0, _, _ => []
  | fuel + 1, first, last =>
    match cut? first last with
    | some bound => byteRanges fuel first (bound - 1) ++ byteRanges fuel bound last
    | none => [(utf8Bytes first).zip (utf8Bytes last)]

/-- how many items two lists share at their beginning -/
def sharedCount (as bs : List (Nat × Nat)) : Nat := ((as.zip bs).takeWhile fun p => p.1 = p.2).length

/-- the nodes of the tree of sorted lists, with `before` as the list before them -/
def treeSize (before : List (Nat × Nat)) : List (List (Nat × Nat)) → Nat
  | [] => 0
  | bytes :: rest => bytes.length - sharedCount before bytes + treeSize bytes rest

def stateSize : Nat := 32

/-- a choice between so many branches -/
def unionSize (branches : Nat) : Nat := stateSize + 4 * branches

/-- surrogates are no characters -/
def withoutSurrogates (s : CharSet) : CharSet := s \ CharSet.ofRanges [(0xd800, 0xdfff)]

def classWeight (s : CharSet) : Nat :=
  match s.code? with
  | some code => stateSize * (utf8Bytes code).length
  | none =>
    if s.isAscii then 2 * stateSize + 8 * s.ranges.length
    else
      let pieces := (withoutSurrogates s).ranges.flatMap fun r => byteRanges 32 r.1 r.2
      stateSize * (treeSize [] pieces + 2) + 4 * pieces.length

/-! ## words -/

/-- the bytes of the only text that the node matches, if it is written with characters alone -/
def Node.word? : Node → Option (List Nat)
  | .chars set => set.code?.map utf8Bytes
  | .seq first second => do return (← first.word?) ++ (← second.word?)
  | _ => none

/-- the words of a choice between words; a choice in a choice is a part of it -/
def Node.words? : Node → Option (List (List Nat))
  | .alt left right => do return (← left.words?) ++ (← right.words?)
  | n => n.word?.map fun word => [word]

/-- what comes after a first byte -/
def afterByte? (byte : Nat) : List Nat → Option (List Nat)
  | [] => none
  | b :: word => if b = byte then some word else none

/-- the weight of the tree of words, of which none is longer than `depth`.  Words that begin alike share
that part, but not across a word that ends with it: a match prefers the earlier of the words. -/
def wordsWeight : Nat → List (List Nat) → Nat
  | 0, _ => 0
  | depth + 1, words =>
    if words.all (·.isEmpty) then 0
    else
      let runs := words.splitBy fun v w => v.isEmpty == w.isEmpty
      unionSize runs.length + (runs.map fun run =>
        let bytes := (run.filterMap (·.head?)).eraseDups
        bytesSize bytes.length
          + (bytes.map fun byte => wordsWeight depth (run.filterMap (afterByte? byte))).sum).sum
where
  /-- a step by one byte of so many -/
  bytesSize : Nat → Nat
  | 0 => 0
  | 1 => stateSize
  | count => stateSize + 8 * count

/-! ## repetitions -/

/-- the node matches the empty text and no other -/
def Node.isBlank : Node → Bool
  | .empty => true
  | .look _ => true
  | .chars _ => false
  | .capture sub => sub.isBlank
  | .seq first second => first.isBlank && second.isBlank
  | .alt left right => left.isBlank && right.isBlank
  | .repeated sub _ most => sub.isBlank || most = some 0

/-- the node does not match the empty text -/
def Node.consumes : Node → Bool
  | .empty => false
  | .look _ => false
  | .chars _ => true
  | .capture sub => sub.consumes
  | .seq first second => first.consumes || second.consumes
  | .alt left right => left.consumes && right.consumes
  | .repeated sub least _ => sub.consumes && 0 < least

/-- so many times the same in a row; nothing at all takes a state -/
def rowWeight (once : Nat) : Nat → Nat
  | 0 => stateSize
  | count => count * once

/-- `least` times, and then up to `most` times or without an end -/
def timesWeight (once : Nat) (consumes : Bool) (least : Nat) : Option Nat → Nat
  | none =>
    if least = 0 && !consumes then once + unionSize 2 + unionSize 2 + stateSize
    else max least 1 * once + unionSize 2
  | some most =>
    if least = most then rowWeight once least
    else if most = 1 then once + unionSize 2 + stateSize
    else rowWeight once least + (most - least) * (once + unionSize 2) + stateSize

/-! ## nodes -/

def Node.branchCount : Node → Nat
  | .alt left right => left.branchCount + right.branchCount
  | _ => 1

/-- the weight of a node.  A choice between words is their tree. -/
def Node.weight : Node → Nat := weigh false
where
  /-- the weight of a node, which may be a branch of a choice -/
  weigh (isBranch : Bool) : Node → Nat
  | .empty => stateSize
  | .look _ => stateSize
  | .chars set => classWeight set
  | .capture sub => weigh false sub + 2 * stateSize
  | .seq first second => weigh false first + weigh false second
  | .alt left right =>
    let branches := weigh true left + weigh true right
    if isBranch then branches
    else
      match (Node.alt left right).words? with
      | some words => wordsWeight (longest words) words + stateSize
      | none => unionSize (Node.alt left right).branchCount + branches + stateSize
  | .repeated sub least most =>
    -- what takes nothing is not taken again
    if sub.isBlank then timesWeight (weigh false sub) false (min least 1) (some (min (most.getD 1) 1))
    else timesWeight (weigh false sub) sub.consumes least most
  longest (words : List (List Nat)) : Nat := (words.map (·.length)).foldl max 0

/-- ten megabytes -/
def weightLimit : Nat := 10 * 1024 * 1024

end AccessControl.Pattern
