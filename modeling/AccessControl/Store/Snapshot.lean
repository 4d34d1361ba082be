import AccessControl.Json.Text
import AccessControl.Store.Basic

/-!
# Snapshots

A snapshot shows what a store holds without any identity: relying parties with the names of their
linked rule groups and of their keys, rule groups with their rules as text.  Lists of names are
sorted, entries are sorted by name, and entries of one name by their JSON text, so two stores with
the same entries have the same snapshot.
-/

namespace AccessControl

structure RelyingParty.Snapshot extends RelyingParty.Profile where
  /-- names of linked rule groups, sorted -/
  ruleGroups : List String
  /-- display names of keys, sorted -/
  keys : List String
  deriving DecidableEq

structure RuleGroup.Snapshot where
  name : String
  /-- input and emitted claim type of each rule, sorted -/
  rules : List String
  deriving DecidableEq

structure Snapshot where
  relyingParties : List RelyingParty.Snapshot
  ruleGroups : List RuleGroup.Snapshot
  deriving DecidableEq

/-! ## JSON, with members in alphabetical order -/

def RelyingParty.Snapshot.encode (p : RelyingParty.Snapshot) : Json :=
  .object [
    ("identity_providers", Json.ofList .string p.identityProviders),
    ("keys", Json.ofList .string p.keys),
    ("name", .string p.name),
    ("realm_address", .string p.realmAddress),
    ("reply_address", Json.ofOption .string p.replyAddress),
    ("rule_groups", Json.ofList .string p.ruleGroups),
    ("token_lifetime", Json.ofNat p.tokenLifetime.toNat),
    ("token_type", p.tokenType.encode)]

def RuleGroup.Snapshot.encode (g : RuleGroup.Snapshot) : Json :=
  .object [("name", .string g.name), ("rules", Json.ofList .string g.rules)]

def Snapshot.encode (s : Snapshot) : Json :=
  .object [
    ("relying_parties", Json.ofList RelyingParty.Snapshot.encode s.relyingParties),
    ("rule_groups", Json.ofList RuleGroup.Snapshot.encode s.ruleGroups)]

/-! ## taking a snapshot -/

def sortNames (names : List String) : List String := names.mergeSort fun a b => a ≤ b

def Rule.Body.arrow (r : Rule.Body) : String := r.inputClaimType ++ " -> " ++ r.emittedType

/-- by name, then by text -/
def nameThenText (a b : String × String) : Bool :=
  decide (a.1 < b.1) || (decide (a.1 = b.1) && decide (a.2 ≤ b.2))

namespace Store

def snapshotRelyingParty (s : Store) (p : RelyingParty.Stored) : RelyingParty.Snapshot where
  toProfile := p.toProfile
  ruleGroups := sortNames ((s.linksOf p.id).map (·.ruleGroupName))
  keys := sortNames ((s.keysOf p.id).map (·.displayName))

def snapshotRuleGroup (s : Store) (g : RuleGroup) : RuleGroup.Snapshot where
  name := g.name
  rules := sortNames ((s.rulesOf g.id).map (·.arrow))

def snapshot (s : Store) : Snapshot where
  relyingParties := (s.relyingParties.map s.snapshotRelyingParty).mergeSort fun a b =>
    nameThenText (a.name, a.encode.render) (b.name, b.encode.render)
  ruleGroups := (s.ruleGroups.map s.snapshotRuleGroup).mergeSort fun a b =>
    nameThenText (a.name, a.encode.render) (b.name, b.encode.render)

end Store

namespace Snapshot

def relyingPartiesNamed (s : Snapshot) (name : String) : List RelyingParty.Snapshot :=
  s.relyingParties.filter (·.name = name)

def ruleGroup? (s : Snapshot) (name : String) : Option RuleGroup.Snapshot :=
  s.ruleGroups.find? (·.name = name)

end Snapshot
end AccessControl
