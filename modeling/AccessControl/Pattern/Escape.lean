/-!
# Escaping names in patterns

The characters that have a meaning in a pattern lose it after a backslash.  `Pattern.exactly` is the
pattern that matches one name and nothing else.
-/

namespace AccessControl.Pattern

def isMeta (c : Char) : Bool :=
  ['\\', '.', '+', '*', '?', '(', ')', '|', '[', ']', '{', '}', '^', '$', '#', '&', '-', '~'].contains c

def escapeChar (c : Char) : List Char := if isMeta c then ['\\', c] else [c]

def escape (cs : List Char) : List Char := cs.flatMap escapeChar

def exactly (name : String) : String := String.ofList ('^' :: escape name.toList ++ ['$'])

end AccessControl.Pattern
