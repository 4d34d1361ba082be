import AccessControl.Digits
import AccessControl.Store.Call

/-!
# The store in memory

A store is a plain value: its records in the order of their creation, the changes that wait for a
commit, the journal of successful writes, and the operations that are made to fail.  Identities are
handed out in order, so lists in the order of creation are in the order of identities.

This file holds the type, lookups, insertions and removals.  Insertions and removals check nothing;
the checks are in `Store.Write` and `Store.Batch`.
-/

namespace AccessControl

/-- a relying party as it is stored; its keys and links are stored apart -/
structure RelyingParty.Stored extends RelyingParty.Profile where
  id : Id
  deriving DecidableEq

/-- a link as it is stored, without the name of its rule group -/
structure Link.Stored extends Link.Draft where
  id : Id
  deriving DecidableEq

/-- the operations that write -/
inductive Operation where
  | addRelyingParty
  | removeRelyingParty
  | addRuleGroup
  | addRule
  | delete
  | link
  | saveChanges
  deriving DecidableEq

def Operation.name : Operation → String
  | .addRelyingParty => "AddRelyingParty"
  | .removeRelyingParty => "RemoveRelyingParty"
  | .addRuleGroup => "AddRuleGroup"
  | .addRule => "AddRule"
  | .delete => "Delete"
  | .link => "Link"
  | .saveChanges => "SaveChanges"

def Operation.all : List Operation :=
  [.addRelyingParty, .removeRelyingParty, .addRuleGroup, .addRule, .delete, .link, .saveChanges]

def Operation.ofName? (s : String) : Option Operation := all.find? (·.name = s)

/-- an entry of the journal: a write that succeeded -/
inductive JournalEntry where
  | addRelyingParty (new : RelyingParty.Draft)
  | removeRelyingParty (id : Id)
  | addRuleGroup (new : RuleGroup.Draft)
  | addRule (new : Rule.Draft)
  | delete (kind : ResourceKind) (id : Id)
  | link (new : Link.Draft)
  | saveChanges (committed : Nat)
  deriving DecidableEq

def JournalEntry.operation : JournalEntry → Operation
  | .addRelyingParty _ => .addRelyingParty
  | .removeRelyingParty _ => .removeRelyingParty
  | .addRuleGroup _ => .addRuleGroup
  | .addRule _ => .addRule
  | .delete _ _ => .delete
  | .link _ => .link
  | .saveChanges _ => .saveChanges

/-- a change that waits for a commit -/
inductive Change where
  | delete (kind : ResourceKind) (id : Id)
  | link (new : Link.Draft)
  deriving DecidableEq

structure Store where
  /-- rule groups on a page; zero counts as one -/
  pageSize : Nat := 50
  /-- how many identities have been handed out -/
  created : Nat := 0
  relyingParties : List RelyingParty.Stored := []
  ruleGroups : List RuleGroup := []
  rules : List Rule := []
  keys : List Key := []
  links : List Link.Stored := []
  queue : List Change := []
  journal : List JournalEntry := []
  failing : List Operation := []
  deriving DecidableEq

namespace Store

/-! ## lookups -/

def keysOf (s : Store) (relyingParty : Id) : List Key :=
  s.keys.filter (·.relyingParty = relyingParty)

def rulesOf (s : Store) (ruleGroup : Id) : List Rule := s.rules.filter (·.ruleGroup = ruleGroup)

def keysNamed (s : Store) (displayName : String) : List Key :=
  s.keys.filter (·.displayName = displayName)

def ruleGroup? (s : Store) (id : Id) : Option RuleGroup := s.ruleGroups.find? (·.id = id)

/-- the name of a rule group; that of a missing one is empty -/
def ruleGroupName (s : Store) (id : Id) : String := ((s.ruleGroup? id).map (·.name)).getD ""

def showLink (s : Store) (l : Link.Stored) : Link :=
  { l with ruleGroupName := s.ruleGroupName l.ruleGroup }

/-- the links of a relying party by the names of their rule groups -/
def linksOf (s : Store) (relyingParty : Id) : List Link :=
  ((s.links.filter (·.relyingParty = relyingParty)).map s.showLink).mergeSort
    fun a b => a.ruleGroupName ≤ b.ruleGroupName

/-- a relying party with its links and keys, keys by display name -/
def view (s : Store) (p : RelyingParty.Stored) : RelyingParty where
  toProfile := p.toProfile
  id := p.id
  links := s.linksOf p.id
  keys := (s.keysOf p.id).mergeSort fun a b => a.displayName ≤ b.displayName

def relyingPartiesNamed (s : Store) (name : String) : List RelyingParty :=
  (s.relyingParties.filter (·.name = name)).map s.view

/-- by name, then by identity -/
def ruleGroupLe (a b : RuleGroup) : Bool :=
  decide (a.name < b.name) || (decide (a.name = b.name) && a.id.le b.id)

def sortedRuleGroups (s : Store) : List RuleGroup := s.ruleGroups.mergeSort ruleGroupLe

def ruleGroupsNamed (s : Store) (name : String) : List RuleGroup :=
  s.sortedRuleGroups.filter (·.name = name)

def exists? (s : Store) (kind : ResourceKind) (id : Id) : Bool :=
  match kind with
  | .relyingParty => s.relyingParties.any (·.id = id)
  | .ruleGroup => s.ruleGroups.any (·.id = id)
  | .rule => s.rules.any (·.id = id)
  | .relyingPartyKey => s.keys.any (·.id = id)
  | .ruleGroupLink => s.links.any (·.id = id)

def isLinked (s : Store) (l : Link.Draft) : Bool := s.links.any (·.toDraft = l)

/-! ## pages -/

/-- the offset that a token stands for: digits, maybe after a plus sign, that fit in 64 bits -/
def offset? (t : ContinuationToken) : Option Nat :=
  let ds := match t.text.toList with
    | '+' :: rest => rest
    | cs => cs
  if ds.isEmpty || !ds.all Digits.isDigit then none
  else if Digits.value ds < UInt64.size then some (Digits.value ds) else none

/-- the rule groups from an offset on, in sorted order -/
def page (s : Store) (offset : Nat) : Page RuleGroup :=
  let groups := s.sortedRuleGroups
  let stop := min (offset + max 1 s.pageSize) groups.length
  { items := (groups.drop offset).take (stop - offset)
    continuation := if stop < groups.length then some ⟨toString stop⟩ else none }

/-! ## insertions -/

/-- the identity that is handed out next -/
def nextId (s : Store) : Id := Id.nth (s.created + 1)

def insertKey (s : Store) (relyingParty : Id) (displayName : String) (type : KeyType)
    (usage : KeyUsage) (startDate endDate : Option Timestamp) : Store :=
  { s with
    created := s.created + 1
    keys := s.keys ++ [⟨s.nextId, relyingParty, displayName, type, usage, startDate, endDate⟩] }

/-- one key for each kind of key material in the draft; an empty list of bytes is material -/
def insertKeys (s : Store) (id : Id) (new : RelyingParty.Draft) : Store :=
  let s := if new.symmetricKey.isSome then
      s.insertKey id (new.name ++ "-symmetric-key") .symmetric .signing none none
    else s
  let s := if new.signingCertificate.isSome then
      s.insertKey id (new.name ++ "-signing-certificate") .x509Certificate .signing
        new.signingCertificateStart new.signingCertificateEnd
    else s
  if new.encryptionCertificate.isSome then
    s.insertKey id (new.name ++ "-encryption-certificate") .x509Certificate .encrypting none none
  else s

def insertRelyingParty (s : Store) (new : RelyingParty.Draft) : Id × Store :=
  (s.nextId, insertKeys
    { s with
      created := s.created + 1
      relyingParties := s.relyingParties ++ [⟨new.toProfile, s.nextId⟩] }
    s.nextId new)

def insertRuleGroup (s : Store) (new : RuleGroup.Draft) : Id × Store :=
  (s.nextId,
    { s with created := s.created + 1, ruleGroups := s.ruleGroups ++ [⟨s.nextId, new.name⟩] })

def insertRule (s : Store) (new : Rule.Draft) : Id × Store :=
  (s.nextId, { s with created := s.created + 1, rules := s.rules ++ [⟨new, s.nextId⟩] })

def insertLink (s : Store) (new : Link.Draft) : Id × Store :=
  (s.nextId, { s with created := s.created + 1, links := s.links ++ [⟨new, s.nextId⟩] })

/-! ## removals -/

/-- removes a resource and all that belongs to it: keys and links of a relying party, rules and
links of a rule group -/
def remove (s : Store) (kind : ResourceKind) (id : Id) : Store :=
  match kind with
  | .relyingParty =>
    { s with
      relyingParties := s.relyingParties.filter (·.id ≠ id)
      keys := s.keys.filter (·.relyingParty ≠ id)
      links := s.links.filter (·.relyingParty ≠ id) }
  | .ruleGroup =>
    { s with
      ruleGroups := s.ruleGroups.filter (·.id ≠ id)
      rules := s.rules.filter (·.ruleGroup ≠ id)
      links := s.links.filter (·.ruleGroup ≠ id) }
  | .rule => { s with rules := s.rules.filter (·.id ≠ id) }
  | .relyingPartyKey => { s with keys := s.keys.filter (·.id ≠ id) }
  | .ruleGroupLink => { s with links := s.links.filter (·.id ≠ id) }

/-- as `remove`, if the resource exists; what belongs to a missing resource stays -/
def removeIfPresent (s : Store) (kind : ResourceKind) (id : Id) : Store :=
  if s.exists? kind id then s.remove kind id else s

/-! ## failures and the journal -/

/-- makes every later write of this kind fail -/
def failOn (s : Store) (op : Operation) : Store :=
  if s.failing.contains op then s else { s with failing := s.failing ++ [op] }

def clearFailures (s : Store) : Store := { s with failing := [] }

def clearJournal (s : Store) : Store := { s with journal := [] }

/-- how many writes of this kind are in the journal -/
def journalCount (s : Store) (op : Operation) : Nat := s.journal.countP (·.operation = op)

end Store
end AccessControl
