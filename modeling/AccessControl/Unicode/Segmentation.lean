import AccessControl.Unicode.Property
import AccessControl.Unicode.Script

/-!
# Segmentation classes

The classes of characters by which text is cut into graphemes, words and sentences.  Each class has
a short and a long name, lower case and without separators.
-/

namespace AccessControl.Segmentation
open GeneralCategory (ofCode)
open Property

def carriageReturn : CharSet := CharSet.ofCodes [0x0d]
def lineFeed : CharSet := CharSet.ofCodes [0x0a]

/-- joiners, which keep what they join in one piece -/
def joiner : CharSet := CharSet.ofCodes [0x200d]

def lookup? (classes : List (List String × CharSet)) (name : String) : Option CharSet :=
  (classes.find? (·.1.contains name)).map (·.2)

/-! ## graphemes -/

def graphemeMark : CharSet := graphemeExtend ∪ emojiModifier

/-- marks of Myanmar, Tai Tham and others that do not extend a grapheme -/
def detachedMark : CharSet := CharSet.ofHex [
  "102b-102c 1038 1062-1064 1067-106d 1083 1087-108c 108f 109a-109c 1a61 1a63-1a64 aa7b aa7d",
  "1171e 11720-11721"]

def graphemeSpacing : CharSet :=
  (ofCode "Mc" \ (graphemeMark ∪ detachedMark)) ∪ CharSet.ofCodes [0xe33, 0xeb3]

def graphemePrepend : CharSet :=
  prependedConcatenationMark ∪ CharSet.ofHex [
    "d4e 111c2-111c3 113d1 1193f 11941 11a3a 11a84-11a89 11d46 11f02"]

def graphemeControl : CharSet :=
  CharSet.unions [ofCode "Zl", ofCode "Zp", ofCode "Cc", ofCode "Cf",
    ofCode "Cn" ∩ defaultIgnorable]
    \ CharSet.unions [carriageReturn, lineFeed, joiner, graphemeMark, graphemePrepend]

/-- syllables of a consonant and a vowel: every 28th from the first on -/
def syllable : CharSet := CharSet.ofCodes ((List.range 399).map fun i => 0xac00 + 28 * i)

def syllables : CharSet := CharSet.ofRanges [(0xac00, 0xd7a3)]

def grapheme : List (List String × CharSet) := [
  (["cn", "control"], graphemeControl),
  (["cr"], carriageReturn),
  (["ex", "extend"], graphemeMark),
  (["l"], CharSet.ofHex ["1100-115f a960-a97c"]),
  (["lf"], lineFeed),
  (["lv"], syllable),
  (["lvt"], syllables \ syllable),
  (["pp", "prepend"], graphemePrepend),
  (["ri", "regionalindicator"], regionalIndicator),
  (["sm", "spacingmark"], graphemeSpacing),
  (["t"], CharSet.ofHex ["11a8-11ff d7cb-d7fb"]),
  (["v"], CharSet.ofHex ["1160-11a7 d7b0-d7c6"]),
  (["zwj"], joiner)]

/-! ## words -/

def mark : CharSet := graphemeMark ∪ ofCode "Mc"

def script (name : String) : CharSet := (Script.ofName? name).getD .empty

/-- scripts whose words are not parted by spaces -/
def unspaced : CharSet :=
  CharSet.unions (["thai", "lao", "myanmar", "khmer", "taile", "newtailue", "taitham", "taiviet",
    "ahom"].map script)

def wordFormat : CharSet := ofCode "Cf" \ (mark ∪ CharSet.ofHex ["200b-200d"])

def wordHebrew : CharSet := script "hebrew" ∩ ofCode "Lo"

def wordKatakana : CharSet :=
  script "katakana" ∪ CharSet.ofHex ["3031-3035 309b-309c 30a0 30fc ff70"]

def wordLetter : CharSet :=
  (alphabetic \ CharSet.unions [ideographic, wordKatakana, wordHebrew, mark, script "hiragana",
    unspaced])
    ∪ CharSet.ofHex [
      "2c2-2c5 2d2-2d7 2de-2df 2e5-2eb 2ed 2ef-2ff 55a-55c 55e 58a 5f3 a708-a716 a720-a721",
      "a789-a78a ab5b"]

def word : List (List String × CharSet) := [
  (["le", "aletter"], wordLetter),
  (["cr"], carriageReturn),
  (["dq", "doublequote"], CharSet.ofHex ["22"]),
  (["extend"], mark),
  (["ex", "extendnumlet"], ofCode "Pc" ∪ CharSet.ofHex ["202f"]),
  (["fo", "format"], wordFormat),
  (["hl", "hebrewletter"], wordHebrew),
  (["ka", "katakana"], wordKatakana),
  (["lf"], lineFeed),
  (["ml", "midletter"], CharSet.ofHex ["3a b7 387 55f 5f4 2027 fe13 fe55 ff1a"]),
  (["mn", "midnum"], CharSet.ofHex [
    "2c 3b 37e 589 60c-60d 66c 7f8 2044 fe10 fe14 fe50 fe54 ff0c ff1b"]),
  (["mb", "midnumlet"], CharSet.ofHex ["2e 2018-2019 2024 fe52 ff07 ff0e"]),
  (["nl", "newline"], CharSet.ofHex ["b-c 85 2028-2029"]),
  (["nu", "numeric"], ofCode "Nd" ∪ CharSet.ofHex ["66b"]),
  (["ri", "regionalindicator"], regionalIndicator),
  (["sq", "singlequote"], CharSet.ofHex ["27"]),
  (["wsegspace"], ofCode "Zs" \ CharSet.ofHex ["a0 2007 202f"]),
  (["zwj"], joiner)]

/-! ## sentences -/

/-- letters of Georgian, which have case but no capitals in text -/
def georgian : CharSet := CharSet.ofHex ["10d0-10fa 10fd-10ff 1c90-1cba 1cbd-1cbf"]

def sentenceMark : CharSet := CharSet.unions [graphemeExtend, ofCode "Mc", joiner]

def sentenceLower : CharSet := lowercase \ (graphemeExtend ∪ georgian)

def sentenceUpper : CharSet := (uppercase ∪ ofCode "Lt") \ georgian

def sentenceLetter : CharSet :=
  (alphabetic \ CharSet.unions [sentenceLower, sentenceUpper, sentenceMark])
    ∪ CharSet.ofHex ["5f3"]

/-- ends of sentences and of abbreviations -/
def fullStop : CharSet := CharSet.ofHex ["2e 2024 fe52 ff0e"]

def sentence : List (List String × CharSet) := [
  (["at", "aterm"], fullStop),
  (["cr"], carriageReturn),
  (["cl", "close"], CharSet.unions [ofCode "Ps", ofCode "Pe", ofCode "Pi", ofCode "Pf",
    CharSet.ofHex ["22 27 275b-2760 2e00-2e01 2e06-2e08 2e0b 1f676-1f678"]]),
  (["ex", "extend"], sentenceMark),
  (["fo", "format"], ofCode "Cf" \ sentenceMark),
  (["lf"], lineFeed),
  (["lo", "lower"], sentenceLower),
  (["nu", "numeric"], ofCode "Nd" ∪ CharSet.ofHex ["66b-66c"]),
  (["le", "oletter"], sentenceLetter),
  (["sc", "scontinue"], CharSet.ofHex [
    "2c-2d 3a-3b 37e 55d 60c-60d 7f8 1802 1808 2013-2014 3001 fe10-fe11 fe13-fe14 fe31-fe32",
    "fe50-fe51 fe54-fe55 fe58 fe63 ff0c-ff0d ff1a-ff1b ff64"]),
  (["se", "sep"], CharSet.ofHex ["85 2028-2029"]),
  (["sp"], whiteSpace \ CharSet.ofHex ["a d 85 2028-2029"]),
  (["st", "sterm"], sentenceTerminal \ fullStop),
  (["up", "upper"], sentenceUpper)]

end AccessControl.Segmentation
