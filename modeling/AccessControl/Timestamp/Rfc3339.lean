import AccessControl.Digits
import AccessControl.Timestamp.Basic
import AccessControl.Json.Basic

/-!
# RFC 3339 text of timestamps

`2026-01-01T00:00:00.5+05:30`.  Any one ASCII character may stand between date and time, and the
letters may be small.  Digits of the fraction past the ninth are dropped.

A leap second, `:60`, can only be the last second of a month in universal time.  It is taken for the
last nanosecond before it.

Written are the years 0 to 9999 and offsets of whole minutes below 24 hours; other timestamps have
no such text.
-/

namespace AccessControl.Timestamp

/-! ## reading -/

def literal? (c : Char) : List Char → Option (List Char)
  | d :: rest => if d = c then some rest else none
  | [] => none

def separator? : List Char → Option (List Char)
  | c :: rest => if c.toNat < 0x80 then some rest else none
  | [] => none

/-- nanoseconds, from a point and digits or from nothing -/
def fraction? : List Char → Option (Nat × List Char)
  | '.' :: rest =>
    let (ds, rest) := Digits.split rest
    if ds.isEmpty then none
    else some (Digits.value ((ds ++ List.replicate 9 '0').take 9), rest)
  | cs => some (0, cs)

def sign? : List Char → Option (Int × List Char)
  | '+' :: rest => some (1, rest)
  | '-' :: rest => some (-1, rest)
  | _ => none

/-- the offset in seconds -/
def offset? : List Char → Option (Int × List Char)
  | 'Z' :: rest => some (0, rest)
  | 'z' :: rest => some (0, rest)
  | cs => do
    let (sign, cs) ← sign? cs
    let (hours, cs) ← Digits.exactly? 2 cs
    let cs ← literal? ':' cs
    let (minutes, cs) ← Digits.exactly? 2 cs
    if hours < 24 ∧ minutes < 60 then
      some (sign * ((hours * 60 + minutes) * 60), cs)
    else none

/-- seconds run to 60; the last one stands for the end of the second before -/
def ofFields? (c : ClockReading) : Option Timestamp :=
  if c.second = 60 then
    let stand := { c with second := 59, nanosecond := 999999999 }
    if stand.endsMonth then ofReading? stand else none
  else ofReading? c

def ofText? (s : String) : Option Timestamp := do
  let (year, cs) ← Digits.exactly? 4 s.toList
  let cs ← literal? '-' cs
  let (month, cs) ← Digits.exactly? 2 cs
  let cs ← literal? '-' cs
  let (day, cs) ← Digits.exactly? 2 cs
  let cs ← separator? cs
  let (hour, cs) ← Digits.exactly? 2 cs
  let cs ← literal? ':' cs
  let (minute, cs) ← Digits.exactly? 2 cs
  let cs ← literal? ':' cs
  let (second, cs) ← Digits.exactly? 2 cs
  let (nanosecond, cs) ← fraction? cs
  let (offset, cs) ← offset? cs
  if cs.isEmpty then ofFields? ⟨year, month, day, hour, minute, second, nanosecond, offset⟩
  else none

/-! ## writing -/

/-- the shortest fraction with its point; nothing for zero -/
def fractionText (nanosecond : Nat) : List Char :=
  if nanosecond = 0 then []
  else '.' :: Digits.dropTrailingZeros (Digits.padded 9 nanosecond)

def twoDigits (n : Nat) : List Char := Digits.padded 2 n

def offsetText (offset : Int) : List Char :=
  if offset = 0 then ['Z']
  else
    let minutes := offset.natAbs / 60
    (if offset < 0 then '-' else '+') :: twoDigits (minutes / 60) ++ ':' :: twoDigits (minutes % 60)

/-- year and offset can be written -/
def IsWritable (t : Timestamp) : Prop :=
  0 ≤ t.reading.year ∧ t.reading.offset.natAbs < 86400 ∧ t.reading.offset % 60 = 0

instance (t : Timestamp) : Decidable t.IsWritable := by unfold IsWritable; infer_instance

def text? (t : Timestamp) : Option String :=
  let c := t.reading
  if t.IsWritable then
    some (String.ofList (
      Digits.padded 4 c.year.toNat ++ '-' :: twoDigits c.month ++ '-' :: twoDigits c.day
      ++ 'T' :: twoDigits c.hour ++ ':' :: twoDigits c.minute ++ ':' :: twoDigits c.second
      ++ fractionText c.nanosecond ++ offsetText c.offset))
  else none

/-! ## JSON -/

def encode? (t : Timestamp) : Option Json := t.text?.map .string

def decode? (j : Json) : Option Timestamp := j.string?.bind ofText?

end AccessControl.Timestamp
