import AccessControl.Unicode.Age
import AccessControl.Unicode.Segmentation

/-!
# Properties by name

A set of characters is named by one name, such as `Greek`, `Lu` or `Uppercase`, or by a property and
its value, such as `Script=Greek`.  Case, spaces, underscores and hyphens do not count in a name, nor
does an `is` in front.
-/

namespace AccessControl

/-- a name in lower case, without separators and without an `is` in front -/
def Property.plain (name : List Char) : String :=
  let isSeparator (c : Char) : Bool := c = ' ' || c = '_' || c = '-'
  let lower (cs : List Char) : List Char :=
    (cs.filter fun c => !isSeparator c && c.toNat < 0x80).map Char.toLower
  match name with
  | i :: s :: rest =>
    if i.toLower = 'i' ∧ s.toLower = 's' then
      let plain := String.ofList (lower rest)
      if plain = "c" then "isc" else plain
    else String.ofList (lower name)
  | _ => String.ofList (lower name)

/-- names that stand for a general category although a property has them too -/
def Property.yieldsToCategory (name : String) : Bool := ["cf", "sc", "lc"].contains name

/-- a property, a general category or a script, in this order -/
def CharSet.ofName? (name : List Char) : Option CharSet :=
  let plain := Property.plain name
  let property := if Property.yieldsToCategory plain then none else Property.ofName? plain
  property.orElse fun _ => (GeneralCategory.ofName? plain).orElse fun _ => Script.ofName? plain

/-- the characters that have this value of a property -/
def CharSet.ofValue? (property value : List Char) : Option CharSet :=
  let value := Property.plain value
  match Property.plain property with
  | "gc" | "generalcategory" => GeneralCategory.ofName? value
  | "sc" | "script" => Script.ofName? value
  | "scx" | "scriptextensions" => Script.extensionsOfName? value
  | "age" => Age.ofName? value
  | "gcb" | "graphemeclusterbreak" => Segmentation.lookup? Segmentation.grapheme value
  | "wb" | "wordbreak" => Segmentation.lookup? Segmentation.word value
  | "sb" | "sentencebreak" => Segmentation.lookup? Segmentation.sentence value
  | _ => none

/-! ## classes with short names -/

namespace CharSet

def digits : CharSet := GeneralCategory.ofCode "Nd"

def spaces : CharSet := Property.whiteSpace

def wordCharacters : CharSet :=
  unions [Property.alphabetic, GeneralCategory.ofCode "M", digits, GeneralCategory.ofCode "Pc",
    Property.joinControl]

def alphanumeric : CharSet := Property.alphabetic ∪ GeneralCategory.ofCode "N"

end CharSet

end AccessControl
