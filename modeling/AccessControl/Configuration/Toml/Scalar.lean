import AccessControl.Configuration.Value
import AccessControl.Timestamp.Basic

/-!
# TOML: numbers, dates and words

A scalar that is no string is one run of characters.  Underscores may stand between digits.  Dates and
times stand for their text, and so do infinities and what is not a number.
-/

namespace AccessControl.Configuration.Toml

/-! ## numbers -/

/-- the digits without the underscores, each of which must stand between two digits -/
def digits? (isDigit : Char → Bool) (cs : List Char) : Option (List Char) :=
  let apart := (cs.zip cs.tail).all fun (a, b) => isDigit a || isDigit b
  if cs.head?.any isDigit && cs.getLast?.any isDigit && apart
      && cs.all (fun c => isDigit c || c = '_') then
    some (cs.filter isDigit)
  else none

/-- a number in a base that is a power of two; it fits in 63 bits -/
def based? (base : Nat) (cs : List Char) : Option Value := do
  let isDigit (c : Char) : Bool := (Hex.digit? c).any (· < base)
  let ds ← digits? isDigit cs
  let n := ds.foldl (fun n d => base * n + (Hex.digit? d).getD 0) 0
  if n ≤ Int64.maxValue.toInt then some (.whole n) else none

def sign : List Char → Bool × List Char
  | '-' :: cs => (true, cs)
  | '+' :: cs => (false, cs)
  | cs => (false, cs)

/-- digits that start with a zero only if it is all there is -/
def wholeDigits? (cs : List Char) : Option (List Char) := do
  let ds ← digits? Digits.isDigit cs
  if ds.head? = some '0' && ds.length ≠ 1 then none else some ds

/-- an integer of 64 bits -/
def integer? (cs : List Char) : Option Value := do
  let (negative, cs) := sign cs
  let ds ← wholeDigits? cs
  let n : Int := if negative then -Digits.value ds else Digits.value ds
  if Int64.minValue.toInt ≤ n ∧ n ≤ Int64.maxValue.toInt then some (.whole n) else none

/-- the fraction after a point, or nothing -/
def fraction? : List Char → Option (List Char)
  | [] => some []
  | '.' :: cs => digits? Digits.isDigit cs
  | _ => none

/-- the exponent after its letter, or nothing -/
def exponent? : List Char → Option Int
  | [] => some 0
  | _ :: cs => do
    let (negative, cs) := sign cs
    let n : Int := Digits.value (← digits? Digits.isDigit cs)
    return if negative then -n else n

/-- a number with a point or an exponent, not too large for a double -/
def decimal? (cs : List Char) : Option Value := do
  let (negative, cs) := sign cs
  let isMark (c : Char) : Bool := c = 'e' || c = 'E'
  if cs.all fun c => c ≠ '.' && !isMark c then none
  let number := cs.takeWhile (!isMark ·)
  let whole ← wholeDigits? (number.takeWhile (· ≠ '.'))
  let fraction ← fraction? (number.dropWhile (· ≠ '.'))
  let exponent ← exponent? (cs.dropWhile (!isMark ·))
  let d : Decimal := ⟨negative, Digits.value (whole ++ fraction), exponent - fraction.length⟩
  if d.overflows then none else some (.real d)

/-! ## dates and times -/

def datePart? (cs : List Char) : Option (List Char) := do
  let (year, cs) ← Digits.exactly? 4 cs
  let '-' :: cs := cs | none
  let (month, cs) ← Digits.exactly? 2 cs
  let '-' :: cs := cs | none
  let (day, cs) ← Digits.exactly? 2 cs
  if 1 ≤ month ∧ month ≤ 12 ∧ 1 ≤ day ∧ day ≤ ClockReading.monthLength year month then some cs
  else none

def hourAndMinute? (cs : List Char) : Option (List Char) := do
  let (hour, cs) ← Digits.exactly? 2 cs
  let ':' :: cs := cs | none
  let (minute, cs) ← Digits.exactly? 2 cs
  if hour < 24 ∧ minute < 60 then some cs else none

/-- seconds with their fraction, which may be left out -/
def secondPart? : List Char → Option (List Char)
  | ':' :: cs => do
    let (second, cs) ← Digits.exactly? 2 cs
    if 60 < second then none
    match cs with
    | '.' :: cs =>
      let (ds, cs) := Digits.split cs
      if ds.isEmpty then none else some cs
    | cs => some cs
  | cs => some cs

def timePart? (cs : List Char) : Option (List Char) := (hourAndMinute? cs).bind secondPart?

def isOffset : List Char → Bool
  | [] | ['Z'] | ['z'] => true
  | '+' :: cs | '-' :: cs => hourAndMinute? cs = some []
  | _ => false

/-- a date, a time, or a date and a time with or without an offset -/
def isDateOrTime (cs : List Char) : Bool :=
  timePart? cs = some [] ||
    match datePart? cs with
    | none => false
    | some [] => true
    | some (c :: cs) => (c = 'T' || c = 't' || c = ' ') && (timePart? cs).any isOffset

/-! ## scalars -/

def isScalarChar (c : Char) : Bool :=
  c.isAlphanum || c = '+' || c = '-' || c = '_' || c = '.' || c = ':'

/-- the characters of a scalar, and what follows it.  One space may stand between a date and a
time. -/
def run (cs : List Char) : List Char × List Char :=
  let word := cs.takeWhile isScalarChar
  match cs.dropWhile isScalarChar with
  | ' ' :: rest =>
    if datePart? word = some [] && rest.head?.any Digits.isDigit then
      (word ++ ' ' :: rest.takeWhile isScalarChar, rest.dropWhile isScalarChar)
    else (word, ' ' :: rest)
  | rest => (word, rest)

def word? : String → Option Value
  | "true" => some (.flag true)
  | "false" => some (.flag false)
  | "inf" | "+inf" => some (.text "inf")
  | "-inf" => some (.text "-inf")
  | "nan" | "+nan" | "-nan" => some (.text "NaN")
  | _ => none

def scalarValue? (cs : List Char) : Option Value :=
  match cs with
  | '0' :: 'x' :: ds => based? 16 ds
  | '0' :: 'o' :: ds => based? 8 ds
  | '0' :: 'b' :: ds => based? 2 ds
  | _ =>
    if isDateOrTime cs then some (.text (String.ofList cs))
    else (word? (String.ofList cs)).orElse fun _ => (integer? cs).orElse fun _ => decimal? cs

end AccessControl.Configuration.Toml
