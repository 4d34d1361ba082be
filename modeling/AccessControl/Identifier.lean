import AccessControl.Hex
import AccessControl.Json.Basic

/-!
# Identities of stored records

An identity is a number.  A store hands them out in order, `Id.nth 1`, `Id.nth 2`, ..., so the order
of identities is the order of creation.  Numbers of up to 128 bits have a text: 32 hexadecimal
digits in groups of 8, 4, 4, 4 and 12.

`Id.ofText?` reads that text in either case, also without its hyphens, in braces, or after
`urn:uuid:`.
-/

namespace AccessControl

structure Id where
  number : Nat
  deriving DecidableEq, Inhabited, Repr

namespace Id

/-- the identity that stands for none -/
def nil : Id := ⟨0⟩

/-- the number below the first identity: the version digit 4 and the variant bits 10 are set, the
rest is left for counting -/
def base : Nat := 0x00000000000040008000000000000000

/-- the `n`-th identity that a store hands out -/
def nth (n : Nat) : Id := ⟨base + n⟩

def le (a b : Id) : Bool := a.number ≤ b.number

/-! ## text -/

/-- a hyphen after the digits 8, 12, 16 and 20 -/
def hyphenated (ds : List Char) : List Char :=
  ds.take 8 ++ '-' :: (ds.drop 8).take 4 ++ '-' :: (ds.drop 12).take 4
    ++ '-' :: (ds.drop 16).take 4 ++ '-' :: ds.drop 20

def text (id : Id) : String := String.ofList (hyphenated (Hex.padded 32 id.number))

instance : ToString Id := ⟨text⟩

/-- the digits between hyphens at their fixed places -/
def hyphensRemoved? (cs : List Char) : Option (List Char) :=
  if cs.length = 36 ∧ cs[8]? = some '-' ∧ cs[13]? = some '-' ∧ cs[18]? = some '-'
      ∧ cs[23]? = some '-' then
    some (cs.take 8 ++ (cs.drop 9).take 4 ++ (cs.drop 14).take 4 ++ (cs.drop 19).take 4
      ++ cs.drop 24)
  else none

/-- the 32 digits of an identity in any of its forms -/
def digits? (cs : List Char) : Option (List Char) :=
  match cs with
  | 'u' :: 'r' :: 'n' :: ':' :: 'u' :: 'u' :: 'i' :: 'd' :: ':' :: rest => hyphensRemoved? rest
  | '{' :: rest => if rest.getLast? = some '}' then hyphensRemoved? rest.dropLast else none
  | cs => if cs.length = 32 then some cs else hyphensRemoved? cs

def ofText? (s : String) : Option Id := do
  let n ← Hex.value? (← digits? s.toList)
  return ⟨n⟩

/-! ## JSON -/

def encode (id : Id) : Json := .string id.text

def decode? (j : Json) : Option Id := j.string?.bind ofText?

end Id
end AccessControl
