import AccessControl.Command.Basic
import AccessControl.Pattern.Basic
import AccessControl.Reconcile.Run
import AccessControl.Store.Listing

/-!
# Commands about relying parties

A relying party is replaced: everything in the command is checked, the old one is torn down, the new
one is created and linked to the rule groups that match its patterns.

* `tearDown`     deletes the linked rule groups if asked to, in one batch, then the keys, in another,
                 then the relying party;
* `linkAll`      queues a link for every rule group that matches, once each, and commits them together.
-/

namespace AccessControl.Reconciler
variable {σ : Type} (r : Reconciler σ)

/-! ## checks before the first call -/

/-- the bytes of a signing certificate, which may not be empty -/
def certificateBytes (c : SigningCertificate) : Except ReconcileError (List UInt8) :=
  match c.bytes with
  | some (b :: bs) => .ok (b :: bs)
  | _ => .error (.missingField "signing certificate" "bytes")

/-- what the store needs to create the relying party -/
def draft (settings : Settings) (new : AddRelyingParty) :
    Except ReconcileError RelyingParty.Draft := do
  let name ← requiredField new.name "relying party" "name"
  let realmAddress ← requiredField new.realmAddress "relying party" "realm_address"
  let bytes ← new.signingCertificate.mapM certificateBytes
  return {
    name := name
    realmAddress := realmAddress
    replyAddress := new.replyAddress
    tokenType := new.tokenType
    tokenLifetime := settings.tokenLifetime new.tokenLifetime
    identityProviders := new.identityProviders
    symmetricKey := new.symmetricKey
    signingCertificate := bytes
    signingCertificatePassword := new.signingCertificate.bind (·.password)
    signingCertificateStart := new.signingCertificate.bind (·.startDate)
    signingCertificateEnd := new.signingCertificate.bind (·.endDate)
    encryptionCertificate := new.encryptionCertificate }

def compilePattern (text : String) : Except ReconcileError Pattern :=
  match Pattern.ofText? text with
  | some p => .ok p
  | none => .error (.invalidPattern text)

/-! ## tearing down -/

/-- queues the deletion of linked rule groups, each found by its name; those in `seen` are queued
already -/
def deleteLinkedGroups (seen : List Id) : List Link → Run σ Unit
  | [] => return
  | link :: links => do
    if seen.contains link.ruleGroup then deleteLinkedGroups seen links
    else
      let name := link.ruleGroupName
      let found : List RuleGroup ← r.ask (.findRuleGroups name)
      let group ← exactlyOne .ruleGroup name found
      r.ask (.delete .ruleGroup group.id)
      r.emit (.removingRuleGroup name)
      recordDeleted (resourceLabel .ruleGroup name)
      deleteLinkedGroups (link.ruleGroup :: seen) links

/-- queues the deletion of keys, each found by its display name -/
def deleteKeys : List Key → Run σ Unit
  | [] => return
  | key :: keys => do
    let name := key.displayName
    let found : List Key ← r.ask (.findKeys name)
    let key ← exactlyOne .relyingPartyKey name found
    r.ask (.delete .relyingPartyKey key.id)
    r.emit (.removingKey name)
    recordDeleted (resourceLabel .relyingPartyKey name)
    deleteKeys keys

def tearDown (old : RelyingParty) (withRuleGroups : Bool) : Run σ Unit := do
  if withRuleGroups && !old.links.isEmpty then
    r.deleteLinkedGroups [] old.links
    r.saveChanges
  if !old.keys.isEmpty then
    r.deleteKeys old.keys
    r.saveChanges
  r.ask (.removeRelyingParty old.id)
  r.emit (.removingRelyingParty old.name)
  r.emit .changesSaved
  recordDeleted (resourceLabel .relyingParty old.name)

/-! ## linking -/

/-- queues links to rule groups; answers `linked` with those added to it -/
def linkGroups (name : String) (relyingParty : Id) (linked : List Id) :
    List RuleGroup → Run σ (List Id)
  | [] => return linked
  | group :: groups => do
    if linked.contains group.id then linkGroups name relyingParty linked groups
    else
      r.ask (.link ⟨relyingParty, group.id⟩)
      r.emit (.linking name group.name)
      recordLinked (name ++ " -> " ++ group.name)
      linkGroups name relyingParty (group.id :: linked) groups

/-- queues the links for one pattern after another -/
def linkPatterns (name : String) (linked : List Id) : List Pattern → Run σ (List Id)
  | [] => return linked
  | pattern :: patterns => do
    let found : List RelyingParty ← r.ask (.findRelyingParties name)
    let relyingParty ← exactlyOne .relyingParty name found
    let groups ← remote r.backend.ruleGroups
    note {
      level := .trace
      target := Diagnostic.executorRelyingParty
      message := "Matching rule groups"
      fields := [("pattern", .text pattern.text), ("listed", .number groups.length)] }
    let matching := groups.filter fun group => pattern.isFoundIn group.name
    let linked ← r.linkGroups name relyingParty.id linked matching
    linkPatterns name linked patterns

def linkAll (name : String) (patterns : List Pattern) : Run σ Unit := do
  let linked ← r.linkPatterns name [] patterns
  if !linked.isEmpty then r.saveChanges

/-! ## commands -/

def addRelyingParty (new : AddRelyingParty) : Run σ Unit := do
  let draft ← draft r.settings new
  let patterns ← new.patterns.mapM fun text => liftM (compilePattern text)
  let found : List RelyingParty ← r.ask (.findRelyingParties draft.name)
  if let some old ← atMostOne .relyingParty draft.name found then
    r.tearDown old new.removeRelatedRuleGroups
  let _id : Id ← r.ask (.addRelyingParty draft)
  r.emit (.addingRelyingParty draft.name)
  r.emit .changesSaved
  recordCreated (resourceLabel .relyingParty draft.name)
  r.linkAll draft.name patterns

def removeRelyingParty (name : String) (withRuleGroups : Bool) : Run σ Unit := do
  let name ← requiredField (some name) "relying party" "name"
  let found : List RelyingParty ← r.ask (.findRelyingParties name)
  match ← atMostOne .relyingParty name found with
  | some old => r.tearDown old withRuleGroups
  | none =>
    note {
      level := .debug
      target := Diagnostic.executorRelyingParty
      message := "Relying party absent, nothing to remove"
      fields := [("name", .text name)] }

end AccessControl.Reconciler
