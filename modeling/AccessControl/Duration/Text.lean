import AccessControl.Digits
import AccessControl.Duration.Basic
import AccessControl.Unicode.Property

/-!
# Durations as text

`1h 30m`, `1year 2months`, `1s 500ms`.

Read is a sum of spans, each a number and a unit.  Blanks may stand between spans, around the text
and between the digits of a number.  A number may have a fraction: of a second or a minute it counts
in nanoseconds, of an hour or a longer unit in whole seconds, both rounded down.  A lone `0` needs no
unit.

Written are the years, months and days with their full names, then hours to nanoseconds, those that
are not zero.  A month is 30.44 days and a year 365.25 days.
-/

namespace AccessControl.Duration

/-! ## units -/

/-- how long a unit is: so many seconds, or so many nanoseconds -/
inductive Unit where
  | seconds (n : Nat)
  | nanoseconds (n : Nat)

namespace Unit

def minute : Nat := 60
def hour : Nat := 60 * minute
def day : Nat := 24 * hour
def month : Nat := 2630016
def year : Nat := 31557600

def ofName? : String → Option Unit
  | "nanos" | "nsec" | "ns" => some (.nanoseconds 1)
  | "usec" | "us" | "µs" => some (.nanoseconds 1000)
  | "millis" | "msec" | "ms" => some (.nanoseconds 1000000)
  | "seconds" | "second" | "secs" | "sec" | "s" => some (.seconds 1)
  | "minutes" | "minute" | "mins" | "min" | "m" => some (.seconds minute)
  | "hours" | "hour" | "hrs" | "hr" | "h" => some (.seconds hour)
  | "days" | "day" | "d" => some (.seconds day)
  | "weeks" | "week" | "wks" | "wk" | "w" => some (.seconds (7 * day))
  | "months" | "month" | "M" => some (.seconds month)
  | "years" | "year" | "yrs" | "yr" | "y" => some (.seconds year)
  | _ => none

/-- what a fraction of the unit is counted in; nothing is smaller than a nanosecond -/
def divided? : Unit → Option Unit
  | .nanoseconds n => if n = 1 then none else some (.nanoseconds n)
  | .seconds n => some (if n ≤ minute then .nanoseconds (n * 1000000000) else .seconds n)

end Unit

/-! ## reading -/

/-- fits in 64 bits -/
def word? (n : Nat) : Option Nat := if n < UInt64.size then some n else none

/-- the sum, if the nanoseconds on their way and the whole seconds fit -/
def add? (d : Duration) (seconds nanoseconds : Nat) : Option Duration := do
  let nanoseconds ← word? (d.nanoseconds.val + nanoseconds)
  ofParts? (d.seconds.toNat + seconds) nanoseconds

/-- adds `n / parts` of a unit -/
def addUnits? (d : Duration) (n parts : Nat) : Unit → Option Duration
  | .seconds k => do d.add? ((← word? (n * k)) / parts) 0
  | .nanoseconds k => do d.add? 0 ((← word? (n * k)) / parts)

/-- a number with the digits of its fraction, and the name of a unit -/
structure Span where
  whole : List Char
  fraction : Option (List Char)
  unit : List Char

def addSpan? (d : Duration) (s : Span) : Option Duration := do
  let unit ← Unit.ofName? (String.ofList s.unit)
  let d ← d.addUnits? (← word? (Digits.value s.whole)) 1 unit
  match s.fraction with
  | none => return d
  | some ds =>
    let parts ← word? (Nat.pow 10 ds.length)
    d.addUnits? (Digits.value ds) parts (← unit.divided?)

def isBlank (c : Char) : Bool := Property.whiteSpace.contains c

def isUnitLetter (c : Char) : Bool := c.isAlpha || c = 'µ'

/-- the digits at the front with the blanks between them left out, and what follows -/
def numeral (cs : List Char) : List Char × List Char :=
  let inside (c : Char) : Bool := Digits.isDigit c || isBlank c
  ((cs.takeWhile inside).filter Digits.isDigit, cs.dropWhile inside)

/-- the span that starts with the digit at the front, and what follows it -/
def span? (cs : List Char) : Option (Span × List Char) := do
  let (whole, cs) := numeral cs
  let (fraction, cs) ← match cs with
    | '.' :: rest =>
      let (ds, rest) := numeral rest
      if ds.isEmpty then none else some (some ds, rest)
    | _ => some (none, cs)
  return (⟨whole, fraction, cs.takeWhile isUnitLetter⟩, cs.dropWhile isUnitLetter)

/-- the spans of a text.  Every span has a digit, so the length of the text is fuel enough. -/
def spans? : Nat → List Char → Option (List Span)
  | 0, _ => none
  | fuel + 1, cs =>
    match cs.dropWhile isBlank with
    | [] => some []
    | c :: cs => do
      if !Digits.isDigit c then none
      let (s, rest) ← span? (c :: cs)
      return s :: (← spans? fuel rest)

def ofText? (text : String) : Option Duration := do
  if text = "0" then return zero
  let cs := text.toList
  let spans ← spans? (cs.length + 1) cs
  if spans.isEmpty then none else spans.foldlM addSpan? zero

/-! ## writing -/

/-- how many there are of each unit, the largest unit first -/
def breakdown : List Nat → Nat → List Nat
  | [], _ => []
  | unit :: units, n => n / unit :: breakdown units (n % unit)

/-- nothing for zero; a full name is put in the plural -/
def item (name : String) (n : Nat) : List String :=
  if n = 0 then []
  else
    let isFull := 2 < name.length
    [toString n ++ name ++ (if isFull && n ≠ 1 then "s" else "")]

def items (units : List (Nat × String)) (n : Nat) : List String :=
  (List.zipWith item (units.map (·.2)) (breakdown (units.map (·.1)) n)).flatten

def text (d : Duration) : String :=
  let written :=
    items [(Unit.year, "year"), (Unit.month, "month"), (Unit.day, "day"), (Unit.hour, "h"),
      (Unit.minute, "m"), (1, "s")] d.seconds.toNat
    ++ items [(1000000, "ms"), (1000, "us"), (1, "ns")] d.nanoseconds.val
  if written.isEmpty then "0s" else " ".intercalate written

end AccessControl.Duration
