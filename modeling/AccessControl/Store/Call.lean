import AccessControl.Diagnostic.Basic
import AccessControl.Resource.Basic
import AccessControl.Store.Error

/-!
# The contract of a management store

A store answers calls.  `Call.Answer` is the type of what a call gets when it succeeds.  Additions
and the removal of a relying party take effect at once; `delete` and `link` are queued until
`saveChanges` commits them as one batch.

A `Backend σ` is any machine with states `σ` that answers every call with a result or an error and
a next state.  Whatever runs against a store is written over an arbitrary backend.
-/

namespace AccessControl

inductive Call where
  | findRelyingParties (name : String)
  | findRuleGroups (name : String)
  | findKeys (displayName : String)
  | rules (ruleGroup : Id)
  | listRuleGroups (start : Option ContinuationToken)
  | addRelyingParty (new : RelyingParty.Draft)
  | removeRelyingParty (id : Id)
  | addRuleGroup (new : RuleGroup.Draft)
  | addRule (new : Rule.Draft)
  | delete (kind : ResourceKind) (id : Id)
  | link (new : Link.Draft)
  | saveChanges
  deriving DecidableEq

namespace Call

/-- lists for lookups, identities for additions, the number of committed changes for a commit -/
abbrev Answer : Call → Type
  | .findRelyingParties _ => List RelyingParty
  | .findRuleGroups _ => List RuleGroup
  | .findKeys _ => List Key
  | .rules _ => List Rule
  | .listRuleGroups _ => Page RuleGroup
  | .addRelyingParty _ => Id
  | .removeRelyingParty _ => Unit
  | .addRuleGroup _ => Id
  | .addRule _ => Id
  | .delete _ _ => Unit
  | .link _ => Unit
  | .saveChanges => Nat

def method : Call → String
  | .findRelyingParties _ => "find_relying_parties"
  | .findRuleGroups _ => "find_rule_groups"
  | .findKeys _ => "find_keys"
  | .rules _ => "rules"
  | .listRuleGroups _ => "list_rule_groups"
  | .addRelyingParty _ => "add_relying_party"
  | .removeRelyingParty _ => "remove_relying_party"
  | .addRuleGroup _ => "add_rule_group"
  | .addRule _ => "add_rule"
  | .delete _ _ => "delete"
  | .link _ => "link"
  | .saveChanges => "save_changes"

end Call

structure Backend (σ : Type) where
  name : String
  answer : (c : Call) → σ → Except StoreError c.Answer × σ
  /-- what the backend tells about a call that it has answered -/
  notes : (c : Call) → c.Answer → List Diagnostic := fun _ _ => []
  /-- a bound on the pages of a listing that starts in this state -/
  longestListing : σ → Nat

/-- the same backend, which also keeps every call made to it -/
def Backend.recorded {σ : Type} (b : Backend σ) : Backend (σ × List Call) where
  name := b.name
  answer c s :=
    let (result, next) := b.answer c s.1
    (result, next, s.2 ++ [c])
  notes := b.notes
  longestListing s := b.longestListing s.1

end AccessControl
