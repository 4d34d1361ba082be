import AccessControl.Identifier
import AccessControl.Resource.Kind
import AccessControl.Timestamp.Basic

/-!
# Resources of a management store

A relying party consumes issued tokens.  It holds keys and is linked to rule groups; a rule group is
a named list of rules, and a rule maps an input claim to an output claim.

What a store shows of a resource has an identity.  What it takes to create one is a `Draft`.  Both
share the fields that do not depend on the store: `RelyingParty.Profile` and `Rule.Body`.
-/

namespace AccessControl

/-- unset output fields keep what the input claim has, an unset input value matches any value -/
structure Rule.Body where
  description : Option String
  identityProvider : Option String
  inputClaimType : String
  inputClaimValue : Option String
  outputClaimType : Option String
  outputClaimValue : Option String
  /-- copy the input claim through unchanged -/
  passthrough : Bool
  deriving DecidableEq

structure Rule.Draft extends Rule.Body where
  ruleGroup : Id
  deriving DecidableEq

structure Rule extends Rule.Draft where
  id : Id
  deriving DecidableEq

structure RuleGroup.Draft where
  name : String
  deriving DecidableEq

structure RuleGroup where
  id : Id
  name : String
  deriving DecidableEq

/-- both ends of a link -/
structure Link.Draft where
  relyingParty : Id
  ruleGroup : Id
  deriving DecidableEq

/-- a link as it is shown, with the name that the rule group has at that time -/
structure Link extends Link.Draft where
  id : Id
  ruleGroupName : String
  deriving DecidableEq

structure Key where
  id : Id
  relyingParty : Id
  displayName : String
  type : KeyType
  usage : KeyUsage
  startDate : Option Timestamp
  endDate : Option Timestamp
  deriving DecidableEq

structure RelyingParty.Profile where
  name : String
  realmAddress : String
  replyAddress : Option String
  tokenType : TokenType
  /-- seconds -/
  tokenLifetime : UInt32
  identityProviders : List String
  deriving DecidableEq

/-- the key material travels with the draft and only leaves keys behind -/
structure RelyingParty.Draft extends RelyingParty.Profile where
  symmetricKey : Option (List UInt8)
  signingCertificate : Option (List UInt8)
  signingCertificatePassword : Option String
  signingCertificateStart : Option Timestamp
  signingCertificateEnd : Option Timestamp
  encryptionCertificate : Option (List UInt8)
  deriving DecidableEq

structure RelyingParty extends RelyingParty.Profile where
  id : Id
  links : List Link
  keys : List Key
  deriving DecidableEq

/-- the type of the claim that the rule emits -/
def Rule.Body.emittedType (r : Rule.Body) : String := r.outputClaimType.getD r.inputClaimType

/-- marks where the next page of a listing starts; only the store that made it can tell more -/
structure ContinuationToken where
  text : String
  deriving DecidableEq

/-- one page of a listing; the last one has no continuation -/
structure Page (α : Type) where
  items : List α
  continuation : Option ContinuationToken
  deriving DecidableEq

def Page.hasMore {α : Type} (p : Page α) : Bool := p.continuation.isSome

end AccessControl
