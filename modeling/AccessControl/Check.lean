import AccessControl.Store.Client

/-!
# Checks

Questions about what a store holds, asked by name.  They never write.
-/

namespace AccessControl.Backend
variable {σ : Type} (b : Backend σ)

/-- is there a relying party of this name? -/
def relyingPartyExists (name : String) : Client σ Bool := do
  let found : List RelyingParty ← b.ask (.findRelyingParties name)
  return !found.isEmpty

/-- is there a rule group of this name? -/
def ruleGroupExists (name : String) : Client σ Bool := do
  let found : List RuleGroup ← b.ask (.findRuleGroups name)
  return !found.isEmpty

/-- is a relying party of the one name linked to a rule group of the other? -/
def isLinked (relyingParty ruleGroup : String) : Client σ Bool := do
  let found : List RelyingParty ← b.ask (.findRelyingParties relyingParty)
  return found.any fun p => p.links.any (·.ruleGroupName = ruleGroup)

/-- the rules of these rule groups, in order -/
def rulesOfAll : List RuleGroup → Client σ (List Rule)
  | [] => return []
  | group :: groups => do
    let rules : List Rule ← b.ask (.rules group.id)
    return rules ++ (← rulesOfAll groups)

/-- the rules of all rule groups of this name -/
def rulesNamed (ruleGroup : String) : Client σ (List Rule) := do
  let found : List RuleGroup ← b.ask (.findRuleGroups ruleGroup)
  b.rulesOfAll found

/-- has a rule group of this name a rule with this description? -/
def hasRuleDescribed (ruleGroup description : String) : Client σ Bool := do
  let rules ← b.rulesNamed ruleGroup
  return rules.any (·.description = some description)

/-- how many keys the relying parties of this name hold -/
def keyCount (relyingParty : String) : Client σ Nat := do
  let found : List RelyingParty ← b.ask (.findRelyingParties relyingParty)
  return (found.flatMap (·.keys)).length

end AccessControl.Backend
