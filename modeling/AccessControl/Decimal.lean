import AccessControl.Digits

/-!
# Decimal numbers as they are written

A number with a fraction or an exponent is kept as the decimal that its text denotes, so nothing is
lost by reading it.  What a binary double would make of it is asked only at the two ends of the
range:

* `overflows`   no finite double is nearest: the number is refused;
* `vanishes`    zero is the nearest double: the number is written `0` or `-0`.
-/

namespace AccessControl

/-- the number `mantissa * 10 ^ exponent`, with its sign kept apart so that `-0` is a number -/
structure Decimal where
  negative : Bool
  mantissa : Nat
  exponent : Int
  deriving DecidableEq, Repr

namespace Decimal

/-- how many decimal digits a number has; zero has none -/
def digitCount (n : Nat) : Nat := if n = 0 then 0 else (Nat.toDigits 10 n).length

/-- compares `mantissa * 10 ^ exponent` with `bound`, by clearing the negative power -/
def atLeast (mantissa : Nat) (exponent : Int) (bound : Nat) : Bool :=
  decide (bound * Nat.pow 10 (-exponent).toNat ≤ mantissa * Nat.pow 10 exponent.toNat)

/-- the least number that is nearer to the next power of two than to the largest double -/
def overflowBound : Nat := Nat.pow 2 1024 - Nat.pow 2 970

/-- the number is too large for a double.  The first two tests settle exponents far away from the
bound without computing their powers. -/
def overflows (d : Decimal) : Bool :=
  let magnitude := d.exponent + digitCount d.mantissa
  if d.mantissa = 0 then false
  else if 400 < magnitude then true
  else if magnitude < 300 then false
  else atLeast d.mantissa d.exponent overflowBound

/-- the number is at most half of the least positive double, hence zero when rounded to even -/
def vanishes (d : Decimal) : Bool :=
  let magnitude := d.exponent + digitCount d.mantissa
  if d.mantissa = 0 then true
  else if magnitude < -400 then true
  else if -300 < magnitude then false
  else decide (d.mantissa * Nat.pow 2 1075 * Nat.pow 10 d.exponent.toNat
      ≤ Nat.pow 10 (-d.exponent).toNat)

/-- the digits of a positive number with the point put `places` digits from the right, trailing
zeros of the fraction dropped -/
def positional (mantissa places : Nat) : String :=
  let digits := Digits.padded (places + 1) mantissa
  let whole := digits.take (digits.length - places)
  let fraction := Digits.dropTrailingZeros (digits.drop (digits.length - places))
  String.ofList (if fraction.isEmpty then whole else whole ++ '.' :: fraction)

/-- positional notation without an exponent; a number that vanishes is written as a zero -/
def text (d : Decimal) : String :=
  let magnitude :=
    if d.vanishes then "0"
    else if 0 ≤ d.exponent then toString (d.mantissa * Nat.pow 10 d.exponent.toNat)
    else positional d.mantissa (-d.exponent).toNat
  if d.negative then "-" ++ magnitude else magnitude

end Decimal
end AccessControl
