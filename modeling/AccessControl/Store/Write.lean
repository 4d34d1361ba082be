import AccessControl.Store.Batch

/-!
# Writes of the store in memory

Every write first asks whether its operation is made to fail, then checks, then changes the store
and adds itself to the journal.  A write that fails changes nothing, except that a rejected batch
leaves the queue.
-/

namespace AccessControl.Store

def record (s : Store) (e : JournalEntry) : Store := { s with journal := s.journal ++ [e] }

def enqueue (s : Store) (c : Change) : Store := { s with queue := s.queue ++ [c] }

/-- refuses an operation that is made to fail -/
def guardFailure (s : Store) (op : Operation) : Except StoreError Unit :=
  if s.failing.contains op then .error (.connection ("injected failure on " ++ op.name)) else .ok ()

/-- refuses unless the condition holds -/
def require (condition : Bool) (e : StoreError) : Except StoreError Unit :=
  if condition then .ok () else .error e

def addRelyingParty (s : Store) (new : RelyingParty.Draft) : Except StoreError (Id × Store) := do
  s.guardFailure .addRelyingParty
  require (!new.name.isEmpty) (.invalidResource "relying party name is empty")
  require (!new.realmAddress.isEmpty) (.invalidResource "relying party realm address is empty")
  require (!s.relyingParties.any (·.name = new.name)) (.alreadyExists .relyingParty new.name)
  let (id, s) := s.insertRelyingParty new
  return (id, s.record (.addRelyingParty new))

def removeRelyingParty (s : Store) (id : Id) : Except StoreError (Unit × Store) := do
  s.guardFailure .removeRelyingParty
  require (s.exists? .relyingParty id) (.notFound .relyingParty id.text)
  return ((), (s.remove .relyingParty id).record (.removeRelyingParty id))

def addRuleGroup (s : Store) (new : RuleGroup.Draft) : Except StoreError (Id × Store) := do
  s.guardFailure .addRuleGroup
  require (!new.name.isEmpty) (.invalidResource "rule group name is empty")
  require (!s.ruleGroups.any (·.name = new.name)) (.alreadyExists .ruleGroup new.name)
  let (id, s) := s.insertRuleGroup new
  return (id, s.record (.addRuleGroup new))

def addRule (s : Store) (new : Rule.Draft) : Except StoreError (Id × Store) := do
  s.guardFailure .addRule
  require (s.exists? .ruleGroup new.ruleGroup) (.notFound .ruleGroup new.ruleGroup.text)
  require (!new.inputClaimType.isEmpty) (.invalidResource "rule input claim type is empty")
  let (id, s) := s.insertRule new
  return (id, s.record (.addRule new))

def delete (s : Store) (kind : ResourceKind) (id : Id) : Except StoreError (Unit × Store) := do
  s.guardFailure .delete
  return ((), (s.enqueue (.delete kind id)).record (.delete kind id))

def link (s : Store) (new : Link.Draft) : Except StoreError (Unit × Store) := do
  s.guardFailure .link
  return ((), (s.enqueue (.link new)).record (.link new))

/-- commits the queue and answers its length.  The queue is empty afterwards, unless the operation
is made to fail. -/
def saveChanges (s : Store) : Except StoreError Nat × Store :=
  match s.guardFailure .saveChanges with
  | .error e => (.error e, s)
  | .ok () =>
    let batch := s.queue
    let s := { s with queue := [] }
    match s.checkBatch batch with
    | .error fault => (.error fault.error, s)
    | .ok () => (.ok batch.length, (s.applyBatch batch).record (.saveChanges batch.length))

def listRuleGroups (s : Store) (start : Option ContinuationToken) :
    Except StoreError (Page RuleGroup) :=
  match start with
  | none => .ok (s.page 0)
  | some token =>
    match offset? token with
    | some offset => .ok (s.page offset)
    | none => .error (.invalidResource ("invalid continuation token '" ++ token.text ++ "'"))

end AccessControl.Store
