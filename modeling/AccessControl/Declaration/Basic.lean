import AccessControl.Resource.Basic

/-!
# Declarations

What somebody wants to hold in a namespace: relying parties, rule groups with their rules, and
removals.  Nothing is checked here; a missing name shows when the declaration is carried out.

A declaration is written as a list of clauses, each of which changes one field.  `ofClauses` applies
them in order to the empty declaration.  A clause for a field that is a single value replaces it, a
clause for a list adds to its end.
-/

namespace AccessControl

/-! ## rules and rule groups -/

structure Rule.Declaration where
  description : Option String := none
  identityProvider : Option String := none
  inputClaimType : Option String := none
  inputClaimValue : Option String := none
  outputClaimType : Option String := none
  outputClaimValue : Option String := none
  passthrough : Bool := false
  deriving DecidableEq

inductive Rule.Clause where
  | description (s : String)
  | identityProvider (s : String)
  | inputClaimType (s : String)
  | inputClaimValue (s : String)
  | outputClaimType (s : String)
  | outputClaimValue (s : String)
  | passthrough
  deriving DecidableEq

namespace Rule.Declaration

def add (d : Declaration) : Clause → Declaration
  | .description s => { d with description := some s }
  | .identityProvider s => { d with identityProvider := some s }
  | .inputClaimType s => { d with inputClaimType := some s }
  | .inputClaimValue s => { d with inputClaimValue := some s }
  | .outputClaimType s => { d with outputClaimType := some s }
  | .outputClaimValue s => { d with outputClaimValue := some s }
  | .passthrough => { d with passthrough := true }

def ofClauses (cs : List Clause) : Declaration := cs.foldl add {}

end Rule.Declaration

structure RuleGroup.Declaration where
  name : Option String := none
  rules : List Rule.Declaration := []
  deriving DecidableEq

inductive RuleGroup.Clause where
  | name (s : String)
  | rule (cs : List Rule.Clause)
  deriving DecidableEq

namespace RuleGroup.Declaration

def add (d : Declaration) : Clause → Declaration
  | .name s => { d with name := some s }
  | .rule cs => { d with rules := d.rules ++ [Rule.Declaration.ofClauses cs] }

def ofClauses (cs : List Clause) : Declaration := cs.foldl add {}

end RuleGroup.Declaration

/-! ## relying parties -/

structure SigningCertificate where
  bytes : Option (List UInt8) := none
  password : Option String := none
  startDate : Option Timestamp := none
  endDate : Option Timestamp := none
  deriving DecidableEq

inductive SigningCertificate.Clause where
  | bytes (bs : List UInt8)
  | password (s : String)
  | startDate (t : Timestamp)
  | endDate (t : Timestamp)
  deriving DecidableEq

namespace SigningCertificate

def add (c : SigningCertificate) : Clause → SigningCertificate
  | .bytes bs => { c with bytes := some bs }
  | .password s => { c with password := some s }
  | .startDate t => { c with startDate := some t }
  | .endDate t => { c with endDate := some t }

def ofClauses (cs : List Clause) : SigningCertificate := cs.foldl add {}

end SigningCertificate

structure RelyingParty.Declaration where
  name : Option String := none
  realmAddress : Option String := none
  replyAddress : Option String := none
  symmetricKey : Option (List UInt8) := none
  tokenType : TokenType := .saml2
  /-- seconds; zero leaves the choice to the settings -/
  tokenLifetime : UInt32 := 0
  encryptionCertificate : Option (List UInt8) := none
  signingCertificate : Option SigningCertificate := none
  identityProviders : List String := []
  /-- rule groups to link, each given by a pattern for their names -/
  patterns : List String := []
  /-- the rule groups linked to a replaced relying party go with it -/
  removeRelatedRuleGroups : Bool := false
  /-- rule groups that are created ahead of the relying party and linked to it -/
  ruleGroups : List RuleGroup.Declaration := []
  deriving DecidableEq

inductive RelyingParty.Clause where
  | name (s : String)
  | realmAddress (s : String)
  | replyAddress (s : String)
  | symmetricKey (bs : List UInt8)
  | tokenType (t : TokenType)
  | tokenLifetime (seconds : UInt32)
  | encryptionCertificate (bs : List UInt8)
  | signingCertificate (cs : List SigningCertificate.Clause)
  | allowIdentityProvider (s : String)
  | linkTo (pattern : String)
  | removeRelatedRuleGroups
  | ruleGroup (cs : List RuleGroup.Clause)
  deriving DecidableEq

namespace RelyingParty.Declaration

/-- adds to the end what is not there yet -/
def allow (providers : List String) (s : String) : List String :=
  if providers.contains s then providers else providers ++ [s]

def add (d : Declaration) : Clause → Declaration
  | .name s => { d with name := some s }
  | .realmAddress s => { d with realmAddress := some s }
  | .replyAddress s => { d with replyAddress := some s }
  | .symmetricKey bs => { d with symmetricKey := some bs }
  | .tokenType t => { d with tokenType := t }
  | .tokenLifetime n => { d with tokenLifetime := n }
  | .encryptionCertificate bs => { d with encryptionCertificate := some bs }
  | .signingCertificate cs => { d with signingCertificate := some (.ofClauses cs) }
  | .allowIdentityProvider s => { d with identityProviders := allow d.identityProviders s }
  | .linkTo p => { d with patterns := d.patterns ++ [p] }
  | .removeRelatedRuleGroups => { d with removeRelatedRuleGroups := true }
  | .ruleGroup cs => { d with ruleGroups := d.ruleGroups ++ [.ofClauses cs] }

def ofClauses (cs : List Clause) : Declaration := cs.foldl add {}

end RelyingParty.Declaration

/-! ## namespaces -/

inductive NamespaceEntry where
  | relyingParty (d : RelyingParty.Declaration)
  | ruleGroup (d : RuleGroup.Declaration)
  | removeRelyingParty (name : String) (withRuleGroups : Bool)
  | removeRuleGroup (name : String)
  deriving DecidableEq

/-- the entries of a namespace in the order of their declaration -/
structure NamespaceDeclaration where
  entries : List NamespaceEntry := []
  deriving DecidableEq

inductive NamespaceClause where
  | relyingParty (cs : List RelyingParty.Clause)
  | ruleGroup (cs : List RuleGroup.Clause)
  | removeRuleGroup (name : String)
  | removeRelyingParty (name : String)
  | removeRelyingPartyWithRuleGroups (name : String)
  deriving DecidableEq

def NamespaceClause.entry : NamespaceClause → NamespaceEntry
  | .relyingParty cs => .relyingParty (.ofClauses cs)
  | .ruleGroup cs => .ruleGroup (.ofClauses cs)
  | .removeRuleGroup name => .removeRuleGroup name
  | .removeRelyingParty name => .removeRelyingParty name false
  | .removeRelyingPartyWithRuleGroups name => .removeRelyingParty name true

namespace NamespaceDeclaration

def ofClauses (cs : List NamespaceClause) : NamespaceDeclaration := ⟨cs.map (·.entry)⟩

def isEmpty (d : NamespaceDeclaration) : Bool := d.entries.isEmpty

end NamespaceDeclaration
end AccessControl
