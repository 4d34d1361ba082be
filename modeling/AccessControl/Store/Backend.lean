import AccessControl.Store.Write

/-!
# The store in memory as a backend
-/

namespace AccessControl.Store

/-- the result, and the next store: the old one if the call was refused -/
def settle {α : Type} (s : Store) :
    Except StoreError (α × Store) → Except StoreError α × Store
  | .ok (a, next) => (.ok a, next)
  | .error e => (.error e, s)

def answer : (c : Call) → Store → Except StoreError c.Answer × Store
  | .findRelyingParties name, s => (.ok (s.relyingPartiesNamed name), s)
  | .findRuleGroups name, s => (.ok (s.ruleGroupsNamed name), s)
  | .findKeys displayName, s => (.ok (s.keysNamed displayName), s)
  | .rules ruleGroup, s => (.ok (s.rulesOf ruleGroup), s)
  | .listRuleGroups start, s => (s.listRuleGroups start, s)
  | .addRelyingParty new, s => settle s (s.addRelyingParty new)
  | .removeRelyingParty id, s => settle s (s.removeRelyingParty id)
  | .addRuleGroup new, s => settle s (s.addRuleGroup new)
  | .addRule new, s => settle s (s.addRule new)
  | .delete kind id, s => settle s (s.delete kind id)
  | .link new, s => settle s (s.link new)
  | .saveChanges, s => s.saveChanges

/-- the store tells of the pages it lists and of the writes it commits, not of queued changes -/
def notes : (c : Call) → c.Answer → List Diagnostic
  | .listRuleGroups start, (page : Page RuleGroup) =>
    [{ level := .trace, target := Diagnostic.store, message := "Listed rule group page",
       fields := [("offset", .number ((start.bind offset?).getD 0)),
         ("returned", .number page.items.length)] }]
  | .addRelyingParty new, (id : Id) =>
    [{ level := .debug, target := Diagnostic.store, message := "Relying party added",
       fields := [("name", .text new.name), ("id", .text id.text)] }]
  | .removeRelyingParty id, _ =>
    [{ level := .debug, target := Diagnostic.store, message := "Relying party removed",
       fields := [("id", .text id.text)] }]
  | .addRuleGroup new, (id : Id) =>
    [{ level := .debug, target := Diagnostic.store, message := "Rule group added",
       fields := [("name", .text new.name), ("id", .text id.text)] }]
  | .addRule new, (id : Id) =>
    [{ level := .debug, target := Diagnostic.store, message := "Rule added",
       fields := [("rule_group_id", .text new.ruleGroup.text), ("id", .text id.text)] }]
  | .saveChanges, (committed : Nat) =>
    [{ level := .debug, target := Diagnostic.store, message := "Batch committed",
       fields := [("committed", .number committed)] }]
  | _, _ => []

/-- a page holds at least one rule group, except the only page of an empty listing -/
def backend : Backend Store where
  name := "memory"
  answer := answer
  notes := notes
  longestListing s := s.ruleGroups.length + 1

end AccessControl.Store
