import AccessControl.Store.Call

/-!
# Scripted stores

A script holds the answers of a store, per method and in order.  A method without answers left finds
nothing, lists an empty last page, hands out the identity of nothing, commits nothing, or succeeds.
-/

namespace AccessControl

/-- answers to one method, the next one first -/
abbrev Script.Answers (α : Type) := List (Except StoreError α)

structure Script where
  findRelyingParties : Script.Answers (List RelyingParty) := []
  findRuleGroups : Script.Answers (List RuleGroup) := []
  findKeys : Script.Answers (List Key) := []
  rules : Script.Answers (List Rule) := []
  listRuleGroups : Script.Answers (Page RuleGroup) := []
  addRelyingParty : Script.Answers Id := []
  removeRelyingParty : Script.Answers Unit := []
  addRuleGroup : Script.Answers Id := []
  addRule : Script.Answers Id := []
  delete : Script.Answers Unit := []
  link : Script.Answers Unit := []
  saveChanges : Script.Answers Nat := []

namespace Script

/-- the next answer, or the default, with the answers after it -/
def next {α : Type} (default : α) : Answers α → Except StoreError α × Answers α
  | [] => (.ok default, [])
  | a :: rest => (a, rest)

def answer : (c : Call) → Script → Except StoreError c.Answer × Script
  | .findRelyingParties _, s =>
    let (a, rest) := next [] s.findRelyingParties
    (a, { s with findRelyingParties := rest })
  | .findRuleGroups _, s =>
    let (a, rest) := next [] s.findRuleGroups
    (a, { s with findRuleGroups := rest })
  | .findKeys _, s =>
    let (a, rest) := next [] s.findKeys
    (a, { s with findKeys := rest })
  | .rules _, s =>
    let (a, rest) := next [] s.rules
    (a, { s with rules := rest })
  | .listRuleGroups _, s =>
    let (a, rest) := next ⟨[], none⟩ s.listRuleGroups
    (a, { s with listRuleGroups := rest })
  | .addRelyingParty _, s =>
    let (a, rest) := next Id.nil s.addRelyingParty
    (a, { s with addRelyingParty := rest })
  | .removeRelyingParty _, s =>
    let (a, rest) := next () s.removeRelyingParty
    (a, { s with removeRelyingParty := rest })
  | .addRuleGroup _, s =>
    let (a, rest) := next Id.nil s.addRuleGroup
    (a, { s with addRuleGroup := rest })
  | .addRule _, s =>
    let (a, rest) := next Id.nil s.addRule
    (a, { s with addRule := rest })
  | .delete _ _, s =>
    let (a, rest) := next () s.delete
    (a, { s with delete := rest })
  | .link _, s =>
    let (a, rest) := next () s.link
    (a, { s with link := rest })
  | .saveChanges, s =>
    let (a, rest) := next 0 s.saveChanges
    (a, { s with saveChanges := rest })

/-- every scripted page may be followed by another, the default page by none -/
def backend : Backend Script where
  name := "scripted"
  answer := answer
  longestListing s := s.listRuleGroups.length + 1

end Script
end AccessControl
