import AccessControl.Pattern.Reading.Literal

/-!
# Reading what opens a group

After an opening parenthesis stands a name, a row of flags or the group itself.  Flags that end with
the parenthesis are a directive for what follows.
-/

namespace AccessControl.Pattern

def Flag.ofChar? : Char → Option Flag
  | 'i' => some .ignoreCase
  | 'm' => some .multiLine
  | 's' => some .dotAll
  | 'U' => some .swapGreed
  | 'u' => some .unicode
  | 'R' => some .crlf
  | 'x' => some .extended
  | _ => none

/-- what the flags say about one of them, if anything -/
def FlagSet.value? (flags : FlagSet) (f : Flag) : Option Bool := flags.lookup f

/-- flags up to a colon or a closing parenthesis, which is given too.  A hyphen switches to flags that
are off; it stands at most once and not at the end. -/
def flagSet (on dangling : Bool) (flags : FlagSet) :
    List Char → Option (FlagSet × Char × List Char)
  | [] => none
  | c :: cs =>
    if c = ':' ∨ c = ')' then
      if dangling then none else some (flags, c, cs)
    else if c = '-' then
      if on then flagSet false true flags cs else none
    else
      match Flag.ofChar? c with
      | none => none
      | some f =>
        if (flags.value? f).isSome then none else flagSet on false (flags ++ [(f, on)]) cs

def isNameStart (c : Char) : Bool := c = '_' || Property.alphabetic.contains c

def isNameChar (c : Char) : Bool :=
  c = '_' || c = '.' || c = '[' || c = ']' || CharSet.alphanumeric.contains c

/-- the name of a group, up to its closing angle bracket -/
def groupName (cs : List Char) : Option (List Char × List Char) :=
  match cs.takeWhile (· ≠ '>'), cs.dropWhile (· ≠ '>') with
  | c :: name, _ :: rest => if isNameStart c && name.all isNameChar then some (c :: name, rest) else none
  | _, _ => none

inductive Opening where
  | group (kind : GroupKind)
  | named (name : List Char)
  | directive (flags : FlagSet)

/-- what follows an opening parenthesis; groups that look around are refused -/
def opening (extended : Bool) (cs : List Char) : Option (Opening × List Char) :=
  match skip extended cs with
  | '?' :: '=' :: _ => none
  | '?' :: '!' :: _ => none
  | '?' :: '<' :: '=' :: _ => none
  | '?' :: '<' :: '!' :: _ => none
  | '?' :: 'P' :: '<' :: rest => (groupName rest).map fun (name, rest) => (.named name, rest)
  | '?' :: '<' :: rest => (groupName rest).map fun (name, rest) => (.named name, rest)
  | '?' :: rest =>
    match flagSet true false [] rest with
    | none => none
    | some (flags, ':', rest) => some (.group (.plain flags), rest)
    | some ([], _, _) => none
    | some (flags, _, rest) => some (.directive flags, rest)
  | rest => some (.group .capture, rest)

end AccessControl.Pattern
