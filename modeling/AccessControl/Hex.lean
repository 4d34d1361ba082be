/-!
# Hexadecimal digits

Reading takes both cases, writing uses lower case.
-/

namespace AccessControl.Hex

def digit? (c : Char) : Option Nat :=
  if '0' ≤ c ∧ c ≤ '9' then some (c.toNat - '0'.toNat)
  else if 'a' ≤ c ∧ c ≤ 'f' then some (c.toNat - 'a'.toNat + 10)
  else if 'A' ≤ c ∧ c ≤ 'F' then some (c.toNat - 'A'.toNat + 10)
  else none

/-- the number that a row of digits writes -/
def value? (cs : List Char) : Option Nat :=
  (cs.mapM digit?).map (·.foldl (fun n d => 16 * n + d) 0)

/-- the digits of a number -/
def digits (n : Nat) : List Char := Nat.toDigits 16 n

/-- the digits of a number, at least `width` of them -/
def padded (width n : Nat) : List Char :=
  List.replicate (width - (digits n).length) '0' ++ digits n

end AccessControl.Hex
