import AccessControl.Hex

/-!
# TOML: lines and strings

Line breaks of two characters are joined first, so that all that follows knows only `\n`; a carriage
return that is left over counts as a control character.  Controls other than the tab stand nowhere.

Strings have two forms, each on one line or on several:

* basic, in double quotes, with escapes;
* literal, in single quotes, without.
-/

namespace AccessControl.Configuration.Toml

/-! ## lines -/

/-- every line break as one character -/
def joinBreaks : List Char → List Char
  | '\r' :: '\n' :: cs => '\n' :: joinBreaks cs
  | c :: cs => c :: joinBreaks cs
  | [] => []

def isBlank (c : Char) : Bool := c = ' ' || c = '\t'

def skipBlanks (cs : List Char) : List Char := cs.dropWhile isBlank

def isControl (c : Char) : Bool := (c.toNat < 0x20 && c ≠ '\t') || c.toNat = 0x7f

/-- what follows a comment, if there is one, on its line -/
def skipComment? (cs : List Char) : Option (List Char) :=
  match cs with
  | '#' :: rest =>
    if (rest.takeWhile (· ≠ '\n')).any isControl then none else some (rest.dropWhile (· ≠ '\n'))
  | _ => some cs

/-- what follows the line, on which only blanks and a comment are left -/
def endLine? (cs : List Char) : Option (List Char) := do
  match ← skipComment? (skipBlanks cs) with
  | [] => some []
  | '\n' :: rest => some rest
  | _ => none

/-- skips blanks, comments and line breaks.  Every round skips a line, so the length of the text is
fuel enough. -/
def skipLines? : Nat → List Char → Option (List Char)
  | 0, cs => some cs
  | fuel + 1, cs => do
    match ← skipComment? (skipBlanks cs) with
    | '\n' :: rest => skipLines? fuel rest
    | rest => some rest

/-! ## strings -/

def scalar? (digits : List Char) : Option Char := do
  let n ← Hex.value? digits
  if n.isValidChar then some (Char.ofNat n) else none

def shortEscape? : Char → Option Char
  | 'b' => some '\x08'
  | 't' => some '\t'
  | 'n' => some '\n'
  | 'f' => some '\x0c'
  | 'r' => some '\r'
  | 'e' => some '\x1b'
  | '"' => some '"'
  | '\\' => some '\\'
  | _ => none

/-- a character before a text that may fail -/
def andThen? (c : Option Char) (rest : Option (List Char × List Char)) :
    Option (List Char × List Char) := do
  let c ← c
  let (cs, rest) ← rest
  return (c :: cs, rest)

/-- a basic string after its opening quote, and what follows it -/
def basic? : List Char → Option (List Char × List Char)
  | [] => none
  | '"' :: rest => some ([], rest)
  | '\\' :: 'x' :: a :: b :: rest => andThen? (scalar? [a, b]) (basic? rest)
  | '\\' :: 'u' :: a :: b :: c :: d :: rest => andThen? (scalar? [a, b, c, d]) (basic? rest)
  | '\\' :: 'U' :: a :: b :: c :: d :: e :: f :: g :: h :: rest =>
    andThen? (scalar? [a, b, c, d, e, f, g, h]) (basic? rest)
  | '\\' :: e :: rest => andThen? (shortEscape? e) (basic? rest)
  | c :: rest => if c = '\\' || isControl c then none else andThen? (some c) (basic? rest)

/-- only blanks are left on the line -/
def endsLine (cs : List Char) : Bool := (skipBlanks cs).head? = some '\n'

/-- a basic string on several lines, after its opening quotes.  A backslash at the end of a line skips
to the next visible character.  One or two quotes may stand before the three that close. -/
def basicLines? (skipping : Bool) : List Char → Option (List Char × List Char)
  | [] => none
  | '"' :: '"' :: '"' :: '"' :: '"' :: rest => some (['"', '"'], rest)
  | '"' :: '"' :: '"' :: '"' :: rest => some (['"'], rest)
  | '"' :: '"' :: '"' :: rest => some ([], rest)
  | '\\' :: 'x' :: a :: b :: rest => andThen? (scalar? [a, b]) (basicLines? false rest)
  | '\\' :: 'u' :: a :: b :: c :: d :: rest =>
    andThen? (scalar? [a, b, c, d]) (basicLines? false rest)
  | '\\' :: 'U' :: a :: b :: c :: d :: e :: f :: g :: h :: rest =>
    andThen? (scalar? [a, b, c, d, e, f, g, h]) (basicLines? false rest)
  | '\\' :: e :: rest =>
    if endsLine (e :: rest) then basicLines? true rest
    else andThen? (shortEscape? e) (basicLines? false rest)
  | c :: rest =>
    if skipping && (isBlank c || c = '\n') then basicLines? true rest
    else if c = '\\' || (isControl c && c ≠ '\n') then none
    else andThen? (some c) (basicLines? false rest)

/-- a literal string after its opening quote -/
def literal? (cs : List Char) : Option (List Char × List Char) :=
  let body := cs.takeWhile (· ≠ '\'')
  match cs.dropWhile (· ≠ '\'') with
  | _ :: rest => if body.any isControl then none else some (body, rest)
  | [] => none

/-- a literal string on several lines, after its opening quotes -/
def literalLines? : List Char → Option (List Char × List Char)
  | [] => none
  | '\'' :: '\'' :: '\'' :: '\'' :: '\'' :: rest => some (['\'', '\''], rest)
  | '\'' :: '\'' :: '\'' :: '\'' :: rest => some (['\''], rest)
  | '\'' :: '\'' :: '\'' :: rest => some ([], rest)
  | c :: rest => if isControl c && c ≠ '\n' then none else andThen? (some c) (literalLines? rest)

/-- a line break right after the opening quotes does not count -/
def dropBreak : List Char → List Char
  | '\n' :: cs => cs
  | cs => cs

/-- a string on one line -/
def line? : List Char → Option (List Char × List Char)
  | '"' :: rest => basic? rest
  | '\'' :: rest => literal? rest
  | _ => none

def string? : List Char → Option (List Char × List Char)
  | '"' :: '"' :: '"' :: rest => basicLines? false (dropBreak rest)
  | '\'' :: '\'' :: '\'' :: rest => literalLines? (dropBreak rest)
  | cs => line? cs

/-! ## keys -/

def isBareKeyChar (c : Char) : Bool := c.isAlphanum || c = '_' || c = '-'

def simpleKey? (cs : List Char) : Option (String × List Char) :=
  match cs with
  | '"' :: _ | '\'' :: _ => (line? cs).map fun (key, rest) => (String.ofList key, rest)
  | _ =>
    let key := cs.takeWhile isBareKeyChar
    if key.isEmpty then none else some (String.ofList key, cs.dropWhile isBareKeyChar)

/-- names with points between them; blanks may stand around each.  The length of the text is fuel
enough. -/
def key? : Nat → List Char → Option (List String × List Char)
  | 0, _ => none
  | fuel + 1, cs => do
    let (name, cs) ← simpleKey? (skipBlanks cs)
    match skipBlanks cs with
    | '.' :: rest =>
      let (names, rest) ← key? fuel rest
      return (name :: names, rest)
    | rest => return ([name], rest)

end AccessControl.Configuration.Toml
