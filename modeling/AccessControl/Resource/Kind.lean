import AccessControl.Json.Basic

/-!
# Kinds of resources, tokens and keys

Each kind has one name, which is also its form in JSON.
-/

namespace AccessControl

inductive ResourceKind where
  | relyingParty
  | ruleGroup
  | rule
  | relyingPartyKey
  | ruleGroupLink
  deriving DecidableEq, Repr

/-- the format of issued tokens -/
inductive TokenType where
  | saml2
  | swt
  deriving DecidableEq, Repr

inductive KeyType where
  | symmetric
  | x509Certificate
  deriving DecidableEq, Repr

/-- what a key is for -/
inductive KeyUsage where
  | signing
  | encrypting
  deriving DecidableEq, Repr

/-- SAML tokens unless said otherwise -/
instance : Inhabited TokenType := ⟨.saml2⟩

/-! ## names -/

def ResourceKind.name : ResourceKind → String
  | .relyingParty => "RelyingParty"
  | .ruleGroup => "RuleGroup"
  | .rule => "Rule"
  | .relyingPartyKey => "RelyingPartyKey"
  | .ruleGroupLink => "RuleGroupLink"

def TokenType.name : TokenType → String
  | .saml2 => "SAML_2_0"
  | .swt => "SWT"

def KeyType.name : KeyType → String
  | .symmetric => "symmetric"
  | .x509Certificate => "x509_certificate"

def KeyUsage.name : KeyUsage → String
  | .signing => "signing"
  | .encrypting => "encrypting"

instance : ToString ResourceKind := ⟨ResourceKind.name⟩
instance : ToString TokenType := ⟨TokenType.name⟩

def ResourceKind.all : List ResourceKind :=
  [.relyingParty, .ruleGroup, .rule, .relyingPartyKey, .ruleGroupLink]

def ResourceKind.ofName? (s : String) : Option ResourceKind := all.find? (·.name = s)

def TokenType.ofName? (s : String) : Option TokenType := [saml2, swt].find? (·.name = s)

def KeyType.ofName? (s : String) : Option KeyType := [symmetric, x509Certificate].find? (·.name = s)

def KeyUsage.ofName? (s : String) : Option KeyUsage := [signing, encrypting].find? (·.name = s)

/-! ## JSON -/

/-- a name, or an object with the name as its only member and nothing in it -/
def Json.variant? (isNothing : Json → Bool) : Json → Option String
  | .string s => some s
  | .object [(s, j)] => if isNothing j then some s else none
  | _ => none

def Json.isNull : Json → Bool
  | .null => true
  | _ => false

/-- either `null` or an object without members -/
def Json.isNullOrEmpty : Json → Bool
  | .null => true
  | .object [] => true
  | _ => false

def ResourceKind.encode (k : ResourceKind) : Json := .string k.name
def TokenType.encode (t : TokenType) : Json := .string t.name
def KeyType.encode (t : KeyType) : Json := .string t.name
def KeyUsage.encode (u : KeyUsage) : Json := .string u.name

def ResourceKind.decode? (j : Json) : Option ResourceKind := (j.variant? Json.isNull).bind ofName?
def TokenType.decode? (j : Json) : Option TokenType := (j.variant? Json.isNull).bind ofName?
def KeyType.decode? (j : Json) : Option KeyType := (j.variant? Json.isNull).bind ofName?
def KeyUsage.decode? (j : Json) : Option KeyUsage := (j.variant? Json.isNull).bind ofName?

/-- as a part of a value that was read whole before it was told apart, where an empty object also
counts as nothing -/
def TokenType.decodeWhole? (j : Json) : Option TokenType :=
  (j.variant? Json.isNullOrEmpty).bind ofName?

end AccessControl
