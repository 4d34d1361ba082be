import AccessControl.Digits
import AccessControl.Hex
import AccessControl.Json.Basic

/-!
# JSON text

`Json.parse?` reads a whole text, `Json.render` writes a value without spaces.

A number is an integer if it has no fraction and no exponent and fits in 64 bits, signed or not;
`-0` and everything else is a decimal.  A decimal that overflows is unreadable.  A string may not
hold a control character; an escape of one half of a surrogate pair makes it unreadable.
-/

namespace AccessControl.Json

/-! ## reading strings -/

/-- what one step of a string denotes: a character, or a 16 bit unit given by its number -/
inductive Piece where
  | char (c : Char)
  | unit (u : Nat)

def isHighSurrogate (u : Nat) : Bool := 0xD800 ≤ u && u ≤ 0xDBFF
def isLowSurrogate (u : Nat) : Bool := 0xDC00 ≤ u && u ≤ 0xDFFF

/-- the characters of a string; a high unit needs a low unit right after it, and a low unit a high
one before it -/
def joinPieces? : List Piece → Option (List Char)
  | [] => some []
  | .char c :: rest => (joinPieces? rest).map (c :: ·)
  | .unit u :: .unit v :: rest =>
    if isHighSurrogate u && isLowSurrogate v then
      (joinPieces? rest).map (Char.ofNat (0x10000 + (u - 0xD800) * 0x400 + (v - 0xDC00)) :: ·)
    else if isHighSurrogate u || isLowSurrogate u then none
    else (joinPieces? (.unit v :: rest)).map (Char.ofNat u :: ·)
  | .unit u :: rest =>
    if isHighSurrogate u || isLowSurrogate u then none
    else (joinPieces? rest).map (Char.ofNat u :: ·)

def shortEscape? : Char → Option Char
  | '"' => some '"'
  | '\\' => some '\\'
  | '/' => some '/'
  | 'b' => some '\x08'
  | 'f' => some '\x0c'
  | 'n' => some '\n'
  | 'r' => some '\r'
  | 't' => some '\t'
  | _ => none

/-- the pieces up to the closing quote, and what follows it -/
def pieces? : List Char → Option (List Piece × List Char)
  | [] => none
  | '"' :: rest => some ([], rest)
  | '\\' :: 'u' :: a :: b :: c :: d :: rest => do
    let u ← Hex.value? [a, b, c, d]
    let (ps, rest) ← pieces? rest
    return (.unit u :: ps, rest)
  | '\\' :: e :: rest => do
    let c ← shortEscape? e
    let (ps, rest) ← pieces? rest
    return (.char c :: ps, rest)
  | c :: rest => do
    if c = '\\' ∨ c.toNat < 0x20 then none
    let (ps, rest) ← pieces? rest
    return (.char c :: ps, rest)

/-- a string after its opening quote; `none` inside for one that has no value -/
def quoted? (cs : List Char) : Option (Option String × List Char) := do
  let (ps, rest) ← pieces? cs
  return ((joinPieces? ps).map String.ofList, rest)

/-! ## reading numbers -/

/-- a whole part: a single zero, or digits that do not start with one -/
def wholeDigits? (cs : List Char) : Option (List Char × List Char) :=
  match cs with
  | '0' :: rest => if (rest.head?.map Digits.isDigit).getD false then none else some (['0'], rest)
  | _ =>
    let (ds, rest) := Digits.split cs
    if ds.isEmpty then none else some (ds, rest)

/-- the digits after a point, if there is one -/
def fractionDigits? : List Char → Option (List Char × List Char)
  | '.' :: rest =>
    let (ds, rest) := Digits.split rest
    if ds.isEmpty then none else some (ds, rest)
  | cs => some ([], cs)

/-- the exponent, if there is one -/
def exponent? : List Char → Option (Option Int × List Char)
  | e :: rest =>
    if e = 'e' ∨ e = 'E' then
      let (negative, rest) := match rest with
        | '+' :: r => (false, r)
        | '-' :: r => (true, r)
        | r => (false, r)
      let (ds, rest) := Digits.split rest
      if ds.isEmpty then none
      else
        let n : Int := Digits.value ds
        some (some (if negative then -n else n), rest)
    else some (none, e :: rest)
  | [] => some (none, [])

def ofDecimal (d : Decimal) : Json := if d.overflows then .unreadable else .real d

/-- an integer that fits in 64 bits; others, and `-0`, count as decimals -/
def ofWhole (negative : Bool) (n : Nat) : Json :=
  if negative then
    if n = 0 ∨ -n < Int64.minValue.toInt then ofDecimal ⟨true, n, 0⟩ else .integer (-n)
  else if n < UInt64.size then .integer n else ofDecimal ⟨false, n, 0⟩

def number? (cs : List Char) : Option (Json × List Char) := do
  let (negative, cs) := match cs with
    | '-' :: r => (true, r)
    | r => (false, r)
  let (whole, cs) ← wholeDigits? cs
  let (fraction, cs) ← fractionDigits? cs
  let (exponent, cs) ← exponent? cs
  if fraction.isEmpty && exponent.isNone then
    return (ofWhole negative (Digits.value whole), cs)
  else
    return (ofDecimal ⟨negative, Digits.value (whole ++ fraction),
      exponent.getD 0 - fraction.length⟩, cs)

/-! ## reading values -/

def isBlank (c : Char) : Bool := c = ' ' || c = '\t' || c = '\n' || c = '\r'

def skipBlanks (cs : List Char) : List Char := cs.dropWhile isBlank

mutual

/-- one value.  Each call works on a shorter text than its caller, so the length of the whole text
is fuel enough. -/
def value? : Nat → List Char → Option (Json × List Char)
  | 0, _ => none
  | fuel + 1, cs =>
    match skipBlanks cs with
    | 'n' :: 'u' :: 'l' :: 'l' :: rest => some (.null, rest)
    | 't' :: 'r' :: 'u' :: 'e' :: rest => some (.bool true, rest)
    | 'f' :: 'a' :: 'l' :: 's' :: 'e' :: rest => some (.bool false, rest)
    | '"' :: rest => (quoted? rest).map fun (s, rest) => (s.elim .unreadable .string, rest)
    | '[' :: rest =>
      match skipBlanks rest with
      | ']' :: rest => some (.array [], rest)
      | _ => (items? fuel rest).map fun (xs, rest) => (.array xs, rest)
    | '{' :: rest =>
      match skipBlanks rest with
      | '}' :: rest => some (.object [], rest)
      | _ => (members? fuel rest).map fun (ms, rest) => (ms.elim .unreadable .object, rest)
    | cs => number? cs

/-- the items of an array after its bracket, at least one -/
def items? : Nat → List Char → Option (List Json × List Char)
  | 0, _ => none
  | fuel + 1, cs => do
    let (x, cs) ← value? fuel cs
    match skipBlanks cs with
    | ',' :: rest =>
      let (xs, rest) ← items? fuel rest
      return (x :: xs, rest)
    | ']' :: rest => return ([x], rest)
    | _ => none

/-- the members of an object after its brace, at least one; `none` inside if a name has no value -/
def members? : Nat → List Char → Option (Option (List (String × Json)) × List Char)
  | 0, _ => none
  | fuel + 1, cs => do
    let '"' :: cs := skipBlanks cs | none
    let (name, cs) ← quoted? cs
    let ':' :: cs := skipBlanks cs | none
    let (x, cs) ← value? fuel cs
    let member := name.map (·, x)
    match skipBlanks cs with
    | ',' :: rest =>
      let (ms, rest) ← members? fuel rest
      return (member.bind fun m => ms.map (m :: ·), rest)
    | '}' :: rest => return (member.map ([·]), rest)
    | _ => none

end

/-- the value of a whole text; blanks may stand around it, nothing else -/
def parse? (text : String) : Option Json := do
  let cs := text.toList
  let (j, rest) ← value? (cs.length + 1) cs
  if (skipBlanks rest).isEmpty then some j else none

/-! ## writing -/

/-- quotes, backslashes and control characters are escaped, everything else stands for itself -/
def escapeChar (c : Char) : List Char :=
  match c with
  | '"' => ['\\', '"']
  | '\\' => ['\\', '\\']
  | '\x08' => ['\\', 'b']
  | '\x0c' => ['\\', 'f']
  | '\n' => ['\\', 'n']
  | '\r' => ['\\', 'r']
  | '\t' => ['\\', 't']
  | c =>
    if c.toNat < 0x20 then '\\' :: 'u' :: Hex.padded 4 c.toNat
    else [c]

def quote (s : String) : String :=
  "\"" ++ String.ofList (s.toList.flatMap escapeChar) ++ "\""

mutual

/-- the text of a value without spaces; what has no value is written as nothing is -/
def render : Json → String
  | .null => "null"
  | .unreadable => "null"
  | .bool true => "true"
  | .bool false => "false"
  | .integer n => toString n
  | .real d => d.text
  | .string s => quote s
  | .array items => "[" ++ ",".intercalate (renderItems items) ++ "]"
  | .object members => "\x7b" ++ ",".intercalate (renderMembers members) ++ "\x7d"

def renderItems : List Json → List String
  | [] => []
  | x :: xs => render x :: renderItems xs

def renderMembers : List (String × Json) → List String
  | [] => []
  | (name, x) :: ms => (quote name ++ ":" ++ render x) :: renderMembers ms

end

end AccessControl.Json
