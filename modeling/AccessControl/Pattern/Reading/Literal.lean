import AccessControl.Pattern.Escape
import AccessControl.Pattern.Tree
import AccessControl.Unicode.Lookup

/-!
# Reading escapes

What may follow a backslash, inside and outside of brackets.  In an extended pattern blanks and
comments do not count; `skip` passes over them.

Every reader takes the text from its first character on and gives what it has read with the rest,
or nothing where the text is no pattern.
-/

namespace AccessControl.Pattern

/-! ## blanks and comments -/

def isBlank (c : Char) : Bool := CharSet.spaces.contains c

/-- drops blanks and comments; a comment goes from `#` to the end of its line -/
def dropBlanks (inComment : Bool) : List Char → List Char
  | [] => []
  | c :: cs =>
    if inComment then dropBlanks (c ≠ '\n') cs
    else if isBlank c then dropBlanks false cs
    else if c = '#' then dropBlanks true cs
    else c :: cs

def skip (extended : Bool) (cs : List Char) : List Char :=
  if extended then dropBlanks false cs else cs

theorem length_dropBlanks_le (inComment : Bool) (cs : List Char) :
    (dropBlanks inComment cs).length ≤ cs.length := by
  induction cs generalizing inComment with
  | nil => simp [dropBlanks]
  | cons c cs ih =>
    unfold dropBlanks
    have h₁ := ih (c ≠ '\n')
    have h₂ := ih false
    have h₃ := ih true
    simp only [List.length_cons]
    split
    · omega
    · split
      · omega
      · split
        · omega
        · simp

theorem length_skip_le (extended : Bool) (cs : List Char) :
    (skip extended cs).length ≤ cs.length := by
  unfold skip
  split
  · exact length_dropBlanks_le false cs
  · exact Nat.le_refl _

/-- the characters before a closing brace, and what follows the brace -/
def untilBrace (extended : Bool) : List Char → Option (List Char × List Char)
  | [] => none
  | '}' :: cs => some ([], cs)
  | c :: cs =>
    have := length_skip_le extended cs
    (untilBrace extended (skip extended cs)).map fun (inner, rest) => (c :: inner, rest)
termination_by cs => cs.length
decreasing_by simp only [List.length_cons]; omega

/-! ## characters by number -/

def charOfCode? (n : Nat) : Option Char := if h : n.isValidChar then some (Char.ofNatAux n h) else none

/-- exactly `n` hexadecimal digits -/
def hexDigits (extended : Bool) : Nat → List Char → Option (List Char × List Char)
  | 0, cs => some ([], cs)
  | n + 1, c :: cs =>
    if (Hex.digit? c).isSome then
      (hexDigits extended n (skip extended cs)).map fun (ds, rest) => (c :: ds, rest)
    else none
  | _ + 1, [] => none

/-- the text starts after the letter, which says how many digits there are without braces -/
def numbered (extended : Bool) (width : Nat) (cs : List Char) : Option (Literal × List Char) :=
  match skip extended cs with
  | [] => none
  | '{' :: rest => do
    let (ds, rest) ← untilBrace extended (skip extended rest)
    if ds.isEmpty then none
    let c ← charOfCode? (← Hex.value? ds)
    return (⟨c, false⟩, skip extended rest)
  | rest => do
    let (ds, rest) ← hexDigits extended width rest
    let c ← charOfCode? (← Hex.value? ds)
    return (⟨c, width = 2⟩, rest)

/-! ## properties -/

/-- what stands before the first `separator`, and what follows it -/
def cutAt? (separator : List Char) : List Char → Option (List Char × List Char)
  | [] => none
  | c :: cs =>
    if separator.isPrefixOf (c :: cs) then some ([], (c :: cs).drop separator.length)
    else (cutAt? separator cs).map fun (before, after) => (c :: before, after)

/-- a property and its value are parted by `!=`, `:` or `=`, which all mean the same -/
def propertyName (text : List Char) : PropertyName :=
  match (cutAt? ['!', '='] text).orElse fun _ =>
      (cutAt? [':'] text).orElse fun _ => cutAt? ['='] text with
  | some (property, value) => .value property value
  | none => .name text

/-- the text starts after the letter -/
def property (extended : Bool) (cs : List Char) : Option (PropertyName × List Char) :=
  match skip extended cs with
  | [] => none
  | '{' :: rest =>
    (untilBrace extended (skip extended rest)).map fun (text, rest) => (propertyName text, rest)
  | c :: rest => if c = '\\' then none else some (.name [c], skip extended rest)

/-! ## escapes -/

/-- what one escape or one plain character stands for -/
inductive Atom where
  | literal (l : Literal)
  | assertion (a : Assertion)
  | short (c : ShortClass) (negated : Bool)
  | property (p : PropertyName) (negated : Bool)

/-- the letter of a word boundary in braces, or the hyphen in its name -/
def isBoundaryChar (c : Char) : Bool := c.isAlpha || c = '-'

def boundaryNamed? : String → Option Assertion
  | "start" => some .wordStart
  | "end" => some .wordEnd
  | "start-half" => some .wordStartHalf
  | "end-half" => some .wordEndHalf
  | _ => none

/-- a word boundary, whose letter the text follows.  Braces that do not start with a name belong to a
repetition of the boundary. -/
def wordBoundary (extended : Bool) (cs : List Char) : Option (Assertion × List Char) :=
  match cs with
  | '{' :: inner =>
    match skip extended inner with
    | [] => none
    | c :: rest =>
      if isBoundaryChar c then do
        let (name, rest) ← untilBrace extended (c :: rest)
        return (← boundaryNamed? (String.ofList name), rest)
      else some (.wordBoundary, cs)
  | _ => some (.wordBoundary, cs)

/-- ASCII characters that are no letters and no digits stand for themselves after a backslash, with
the exception of angle brackets -/
def isEscapable (c : Char) : Bool :=
  c.toNat < 0x80 && !c.isAlphanum && c ≠ '<' && c ≠ '>'

/-- what follows a backslash -/
def escaped (extended : Bool) : List Char → Option (Atom × List Char)
  | [] => none
  | c :: cs =>
    let literal (code : Nat) : Option (Atom × List Char) := some (.literal ⟨Char.ofNat code, false⟩, cs)
    let number (width : Nat) : Option (Atom × List Char) :=
      (numbered extended width cs).map fun (l, rest) => (.literal l, rest)
    let named (negated : Bool) : Option (Atom × List Char) :=
      (property extended cs).map fun (p, rest) => (.property p negated, rest)
    match c with
    | 'x' => number 2
    | 'u' => number 4
    | 'U' => number 8
    | 'p' => named false
    | 'P' => named true
    | 'd' => some (.short .digit false, cs)
    | 'D' => some (.short .digit true, cs)
    | 's' => some (.short .space false, cs)
    | 'S' => some (.short .space true, cs)
    | 'w' => some (.short .word false, cs)
    | 'W' => some (.short .word true, cs)
    | 'a' => literal 0x07
    | 'f' => literal 0x0c
    | 't' => literal 0x09
    | 'n' => literal 0x0a
    | 'r' => literal 0x0d
    | 'v' => literal 0x0b
    | 'A' => some (.assertion .textStart, cs)
    | 'z' => some (.assertion .textEnd, cs)
    | 'B' => some (.assertion .notWordBoundary, cs)
    | 'b' => (wordBoundary extended cs).map fun (a, rest) => (.assertion a, rest)
    | '<' => some (.assertion .wordStart, cs)
    | '>' => some (.assertion .wordEnd, cs)
    | _ => if isEscapable c then some (.literal ⟨c, false⟩, cs) else none

end AccessControl.Pattern
