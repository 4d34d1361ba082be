/-!
# Decimal digits
-/

namespace AccessControl.Digits

def isDigit (c : Char) : Bool := '0' ≤ c && c ≤ '9'

/-- the number that a row of digits writes; no digits write zero -/
def value (ds : List Char) : Nat := ds.foldl (fun n d => 10 * n + (d.toNat - '0'.toNat)) 0

/-- the digits at the front, and what follows them -/
def split (cs : List Char) : List Char × List Char := (cs.takeWhile isDigit, cs.dropWhile isDigit)

/-- exactly `n` digits, and what follows them -/
def exactly? (n : Nat) (cs : List Char) : Option (Nat × List Char) :=
  let ds := cs.take n
  if ds.length = n ∧ ds.all isDigit then some (value ds, cs.drop n) else none

/-- the digits of a number, at least `width` of them -/
def padded (width n : Nat) : List Char :=
  List.replicate (width - (Nat.toDigits 10 n).length) '0' ++ Nat.toDigits 10 n

/-- the digits without the zeros at their end -/
def dropTrailingZeros (ds : List Char) : List Char := (ds.reverse.dropWhile (· = '0')).reverse

end AccessControl.Digits
