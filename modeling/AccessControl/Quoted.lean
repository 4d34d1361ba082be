import AccessControl.Hex
import AccessControl.Unicode.Property

/-!
# Quoted text

Text between quotes in which every character can be seen.  Quotes, backslashes and the common
controls have short escapes; marks that extend the character before them, and characters without a
shape of their own, are written by number: `\u{301}`.
-/

namespace AccessControl.Quoted

/-- controls, formats, unassigned characters and separators other than the space -/
def invisible : CharSet :=
  CharSet.unions [GeneralCategory.ofCode "C", GeneralCategory.ofCode "Z"]
    \ CharSet.ofCodes [0x20]

def char (c : Char) : List Char :=
  match c with
  | '\x00' => ['\\', '0']
  | '\t' => ['\\', 't']
  | '\n' => ['\\', 'n']
  | '\r' => ['\\', 'r']
  | '"' => ['\\', '"']
  | '\\' => ['\\', '\\']
  | c =>
    if Property.graphemeExtend.contains c || invisible.contains c then
      ['\\', 'u', '\x7b'] ++ Hex.digits c.toNat ++ ['\x7d']
    else [c]

def text (s : String) : String := String.ofList ('"' :: s.toList.flatMap char ++ ['"'])

end AccessControl.Quoted
