import AccessControl.Declaration.Basic
import AccessControl.Pattern.Escape

/-!
# Commands

A declaration compiles to a list of commands, the steps that carry it out.  Commands are plain data:
they can be written down and run without the declaration that they came from.

* A rule group compiles to its creation, then its rules in order.
* A relying party compiles to its rule groups, then its own creation.
* A namespace compiles entry by entry.
-/

namespace AccessControl

/-- the fields of a relying party that is to replace the one of its name -/
structure AddRelyingParty where
  name : Option String := none
  realmAddress : Option String := none
  replyAddress : Option String := none
  symmetricKey : Option (List UInt8) := none
  tokenType : TokenType := .saml2
  tokenLifetime : UInt32 := 0
  encryptionCertificate : Option (List UInt8) := none
  signingCertificate : Option SigningCertificate := none
  identityProviders : List String := []
  patterns : List String := []
  removeRelatedRuleGroups : Bool := false
  deriving DecidableEq

inductive Command where
  /-- replace a relying party and link it anew -/
  | addRelyingParty (new : AddRelyingParty)
  /-- remove a relying party if there is one -/
  | removeRelyingParty (name : String) (removeRelatedRuleGroups : Bool)
  /-- replace a rule group by an empty one -/
  | addRuleGroup (name : Option String)
  /-- add a rule to the rule group of this name -/
  | addRule (ruleGroup : Option String) (rule : Rule.Declaration)
  /-- remove a rule group if there is one -/
  | removeRuleGroup (name : String)
  deriving DecidableEq

namespace Command

def kind : Command → String
  | .addRelyingParty _ => "add_relying_party"
  | .removeRelyingParty _ _ => "remove_relying_party"
  | .addRuleGroup _ => "add_rule_group"
  | .addRule _ _ => "add_rule"
  | .removeRuleGroup _ => "remove_rule_group"

/-- the name that the command is about; for a rule that of its rule group -/
def target : Command → Option String
  | .addRelyingParty new => new.name
  | .removeRelyingParty name _ => some name
  | .addRuleGroup name => name
  | .addRule ruleGroup _ => ruleGroup
  | .removeRuleGroup name => some name

def text (c : Command) : String := c.kind ++ " '" ++ c.target.getD "<unnamed>" ++ "'"

end Command

/-! ## equality up to the offset of dates -/

/-- both unset, or the same instant -/
def Timestamp.agree : Option Timestamp → Option Timestamp → Bool
  | none, none => true
  | some a, some b => a.instant = b.instant
  | _, _ => false

def SigningCertificate.agrees (a b : SigningCertificate) : Bool :=
  a.bytes = b.bytes && a.password = b.password
    && Timestamp.agree a.startDate b.startDate && Timestamp.agree a.endDate b.endDate

/-- equal commands, where dates of the same instant count as equal -/
def Command.agrees : Command → Command → Bool
  | .addRelyingParty a, .addRelyingParty b =>
    decide ({ a with signingCertificate := none } = { b with signingCertificate := none })
      && match a.signingCertificate, b.signingCertificate with
        | none, none => true
        | some s, some t => s.agrees t
        | _, _ => false
  | a, b => a = b

def Command.listsAgree : List Command → List Command → Bool
  | [], [] => true
  | a :: as, b :: bs => a.agrees b && listsAgree as bs
  | _, _ => false

/-! ## compiling declarations -/

def RuleGroup.Declaration.commands (d : RuleGroup.Declaration) : List Command :=
  .addRuleGroup d.name :: d.rules.map (.addRule d.name)

namespace RelyingParty.Declaration

/-- adds the exact pattern of a name, unless it is there verbatim -/
def addExact (patterns : List String) (name : String) : List String :=
  if patterns.contains (Pattern.exactly name) then patterns
  else patterns ++ [Pattern.exactly name]

/-- the declared patterns, then one exact pattern per rule group that has a name -/
def allPatterns (d : RelyingParty.Declaration) : List String :=
  (d.ruleGroups.filterMap (·.name)).foldl addExact d.patterns

def command (d : RelyingParty.Declaration) : Command :=
  .addRelyingParty {
    name := d.name
    realmAddress := d.realmAddress
    replyAddress := d.replyAddress
    symmetricKey := d.symmetricKey
    tokenType := d.tokenType
    tokenLifetime := d.tokenLifetime
    encryptionCertificate := d.encryptionCertificate
    signingCertificate := d.signingCertificate
    identityProviders := d.identityProviders
    patterns := d.allPatterns
    removeRelatedRuleGroups := d.removeRelatedRuleGroups }

def commands (d : RelyingParty.Declaration) : List Command :=
  d.ruleGroups.flatMap (·.commands) ++ [d.command]

end RelyingParty.Declaration

def NamespaceEntry.commands : NamespaceEntry → List Command
  | .relyingParty d => d.commands
  | .ruleGroup d => d.commands
  | .removeRelyingParty name withRuleGroups => [.removeRelyingParty name withRuleGroups]
  | .removeRuleGroup name => [.removeRuleGroup name]

def NamespaceDeclaration.commands (d : NamespaceDeclaration) : List Command :=
  d.entries.flatMap (·.commands)

end AccessControl
