import AccessControl.Pattern.Reading.Literal

/-!
# Reading repetitions

A repetition is `?`, `*`, `+` or a count in braces, and may be followed by a `?` that makes it take as
little as it can.
-/

namespace AccessControl.Pattern

/-- digits, between which blanks do not count in an extended pattern -/
def spacedDigits (extended : Bool) : List Char → List Char × List Char
  | [] => ([], [])
  | c :: cs =>
    if Digits.isDigit c then
      have := length_skip_le extended cs
      let (ds, rest) := spacedDigits extended (skip extended cs)
      (c :: ds, rest)
    else ([], c :: cs)
termination_by cs => cs.length
decreasing_by simp only [List.length_cons]; omega

/-- blanks after a number; in an extended pattern comments too, but not as the first thing -/
def afterDigits (extended : Bool) : List Char → List Char
  | [] => []
  | c :: cs =>
    if isBlank c then
      have := length_skip_le extended cs
      afterDigits extended (skip extended cs)
    else c :: cs
termination_by cs => cs.length
decreasing_by simp only [List.length_cons]; omega

/-- a number of 32 bits with blanks around it -/
def number (extended : Bool) (cs : List Char) : Option (Nat × List Char) :=
  let (ds, rest) := spacedDigits extended (cs.dropWhile isBlank)
  if ds.isEmpty ∨ UInt32.size ≤ Digits.value ds then none
  else some (Digits.value ds, afterDigits extended rest)

/-- the bounds of a count, whose opening brace the text follows; the rest starts after the closing
brace -/
def bounds (extended : Bool) (cs : List Char) : Option ((Nat × Option Nat) × List Char) := do
  let (least, rest) ← number extended (skip extended cs)
  match rest with
  | '}' :: rest => return ((least, some least), rest)
  | ',' :: rest =>
    match skip extended rest with
    | '}' :: rest => return ((least, none), rest)
    | rest =>
      let (most, rest) ← number extended rest
      match rest with
      | '}' :: rest => if most < least then none else return ((least, some most), rest)
      | _ => none
  | _ => none

/-- drops the mark of a repetition that takes as little as it can -/
def dropLazyMark : List Char → List Char
  | '?' :: cs => cs
  | cs => cs

end AccessControl.Pattern
