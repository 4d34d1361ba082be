import AccessControl.Command.Basic
import AccessControl.Reconcile.Run

/-!
# Commands about rule groups

A rule group is replaced: the old one is deleted in a batch of its own, with its rules and links, and
an empty one is created.  Rules are added to the only rule group of a name.
-/

namespace AccessControl.Reconciler
variable {σ : Type} (r : Reconciler σ)

/-- deletes the rule group of a name, if there is one; answers whether there was -/
def removeRuleGroupNamed (name : String) : Run σ Bool := do
  let found : List RuleGroup ← r.ask (.findRuleGroups name)
  match ← atMostOne .ruleGroup name found with
  | none => return false
  | some group =>
    r.ask (.delete .ruleGroup group.id)
    r.emit (.removingRuleGroup name)
    recordDeleted (resourceLabel .ruleGroup name)
    r.saveChanges
    return true

def addRuleGroup (name : Option String) : Run σ Unit := do
  let name ← requiredField name "rule group" "name"
  discard (r.removeRuleGroupNamed name)
  let _id : Id ← r.ask (.addRuleGroup ⟨name⟩)
  r.emit (.addingRuleGroup name)
  r.emit .changesSaved
  recordCreated (resourceLabel .ruleGroup name)

/-- a rule without description is reported by the type of its input claim -/
def addRule (ruleGroup : Option String) (rule : Rule.Declaration) : Run σ Unit := do
  let name ← requiredField ruleGroup "rule" "rule_group"
  let inputClaimType ← requiredField rule.inputClaimType "rule" "input_claim_type"
  let found : List RuleGroup ← r.ask (.findRuleGroups name)
  let group ← exactlyOne .ruleGroup name found
  let _id : Id ← r.ask (.addRule {
    ruleGroup := group.id
    description := rule.description
    identityProvider := rule.identityProvider
    inputClaimType := inputClaimType
    inputClaimValue := rule.inputClaimValue
    outputClaimType := rule.outputClaimType
    outputClaimValue := rule.outputClaimValue
    passthrough := rule.passthrough })
  let description := rule.description.getD inputClaimType
  r.emit (.addingRule name description)
  r.emit .changesSaved
  recordCreated (resourceLabel .rule (name ++ "/" ++ description))

def removeRuleGroup (name : String) : Run σ Unit := do
  let name ← requiredField (some name) "rule group" "name"
  if !(← r.removeRuleGroupNamed name) then
    note {
      level := .debug
      target := Diagnostic.executorRuleGroup
      message := "Rule group absent, nothing to remove"
      fields := [("name", .text name)] }

end AccessControl.Reconciler
