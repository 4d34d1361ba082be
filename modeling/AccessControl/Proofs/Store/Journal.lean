import AccessControl.Proofs.Store.Integrity
import AccessControl.Reconcile.Run
import Mathlib.Algebra.Group.Defs

/-!
# What the journal tells

A journal entry is a write that succeeded, so the entries made since some store was seen lead from that
store to the present one (`answer_ok`).  Along this way every entry has something to tell, with the names
that identities have in the store at that point.

* `Account`          what is told: events in order, and what a report adds up to;
* `Store.account`    what one entry tells of the store that it was written to;
* `Store.redo`       what the entry makes of that store;
* `Store.story`      what some entries tell, one after another (`story_append`).
-/

namespace AccessControl

/-! ## accounts -/

/-- reports add up: what the second one lists comes after what the first one lists -/
def Report.add (a b : Report) : Report where
  commands := a.commands + b.commands
  created := a.created ++ b.created
  deleted := a.deleted ++ b.deleted
  linked := a.linked ++ b.linked
  batches := a.batches + b.batches

instance : Zero Report := ⟨{}⟩

instance : Add Report := ⟨Report.add⟩

theorem Report.add_def (a b : Report) : a + b = ⟨a.commands + b.commands, a.created ++ b.created,
    a.deleted ++ b.deleted, a.linked ++ b.linked, a.batches + b.batches⟩ := rfl

instance : AddMonoid Report where
  add_assoc a b c := by simp [Report.add_def, Nat.add_assoc]
  zero_add a := by
    show (⟨0 + a.commands, a.created, a.deleted, a.linked, 0 + a.batches⟩ : Report) = a
    rw [Nat.zero_add, Nat.zero_add]
  add_zero a := by
    show (⟨a.commands, a.created ++ [], a.deleted ++ [], a.linked ++ [], a.batches⟩ : Report) = a
    rw [List.append_nil, List.append_nil, List.append_nil]
  nsmul := nsmulRec

structure Account where
  events : List Event := []
  report : Report := {}
  deriving DecidableEq

instance : Zero Account := ⟨{}⟩

instance : Add Account := ⟨fun a b => ⟨a.events ++ b.events, a.report + b.report⟩⟩

theorem Account.add_def (a b : Account) : a + b = ⟨a.events ++ b.events, a.report + b.report⟩ := rfl

instance : AddMonoid Account where
  add_assoc a b c := by simp [Account.add_def, add_assoc]
  zero_add a := by
    show (⟨a.events, 0 + a.report⟩ : Account) = a
    rw [zero_add]
  add_zero a := by
    show (⟨a.events ++ [], a.report + 0⟩ : Account) = a
    rw [List.append_nil, add_zero]
  nsmul := nsmulRec

/-- runs delete rule groups and keys only; entries for other deletions tell nothing -/
def JournalEntry.IsTold (e : JournalEntry) : Prop :=
  ∀ kind id, e = .delete kind id → kind = .ruleGroup ∨ kind = .relyingPartyKey

/-- the journal entry that a call leaves if it succeeds -/
def Call.entries (s : Store) : Call → List JournalEntry
  | .addRelyingParty new => [.addRelyingParty new]
  | .removeRelyingParty id => [.removeRelyingParty id]
  | .addRuleGroup new => [.addRuleGroup new]
  | .addRule new => [.addRule new]
  | .delete kind id => [.delete kind id]
  | .link new => [.link new]
  | .saveChanges => [.saveChanges s.queue.length]
  | _ => []

namespace Store

/-! ## names -/

/-- the name of a relying party; that of a missing one is empty -/
def relyingPartyName (s : Store) (id : Id) : String :=
  ((s.relyingParties.find? (·.id = id)).map (·.name)).getD ""

def keyName (s : Store) (id : Id) : String :=
  ((s.keys.find? (·.id = id)).map (·.displayName)).getD ""

theorem relyingPartyName_of_mem {s : Store} (hs : s.Sound) {p : RelyingParty.Stored}
    (hp : p ∈ s.relyingParties) : s.relyingPartyName p.id = p.name := by
  unfold relyingPartyName
  rw [indexed_of_nodup hs.relyingPartyIds p hp]
  rfl

theorem keyName_of_mem {s : Store} (hs : s.Sound) {k : Key} (hk : k ∈ s.keys) :
    s.keyName k.id = k.displayName := by
  unfold keyName
  rw [indexed_of_nodup hs.keyIds k hk]
  rfl

/-! ## entries -/

def account (s : Store) : JournalEntry → Account
  | .addRelyingParty new =>
    { events := [.addingRelyingParty new.name, .changesSaved]
      report := { created := [resourceLabel .relyingParty new.name] } }
  | .removeRelyingParty id =>
    { events := [.removingRelyingParty (s.relyingPartyName id), .changesSaved]
      report := { deleted := [resourceLabel .relyingParty (s.relyingPartyName id)] } }
  | .addRuleGroup new =>
    { events := [.addingRuleGroup new.name, .changesSaved]
      report := { created := [resourceLabel .ruleGroup new.name] } }
  | .addRule new =>
    let group := s.ruleGroupName new.ruleGroup
    let description := new.description.getD new.inputClaimType
    { events := [.addingRule group description, .changesSaved]
      report := { created := [resourceLabel .rule (group ++ "/" ++ description)] } }
  | .delete .ruleGroup id =>
    { events := [.removingRuleGroup (s.ruleGroupName id)]
      report := { deleted := [resourceLabel .ruleGroup (s.ruleGroupName id)] } }
  | .delete .relyingPartyKey id =>
    { events := [.removingKey (s.keyName id)]
      report := { deleted := [resourceLabel .relyingPartyKey (s.keyName id)] } }
  | .delete _ _ => 0
  | .link new =>
    let relyingParty := s.relyingPartyName new.relyingParty
    let group := s.ruleGroupName new.ruleGroup
    { events := [.linking relyingParty group]
      report := { linked := [relyingParty ++ " -> " ++ group] } }
  | .saveChanges _ => { events := [.changesSaved], report := { batches := 1 } }

section
variable {s : Store} (hs : s.Sound)
include hs

theorem account_removeRelyingParty {p : RelyingParty.Stored} (hp : p ∈ s.relyingParties) :
    s.account (.removeRelyingParty p.id) = ⟨[.removingRelyingParty p.name, .changesSaved],
      { deleted := [resourceLabel .relyingParty p.name] }⟩ := by
  simp only [account, relyingPartyName_of_mem hs hp]

theorem account_deleteRuleGroup {g : RuleGroup} (hg : g ∈ s.ruleGroups) :
    s.account (.delete .ruleGroup g.id) = ⟨[.removingRuleGroup g.name],
      { deleted := [resourceLabel .ruleGroup g.name] }⟩ := by
  simp only [account, ruleGroupName_of_mem hs hg]

theorem account_deleteKey {k : Key} (hk : k ∈ s.keys) :
    s.account (.delete .relyingPartyKey k.id) = ⟨[.removingKey k.displayName],
      { deleted := [resourceLabel .relyingPartyKey k.displayName] }⟩ := by
  simp only [account, keyName_of_mem hs hk]

theorem account_addRule {g : RuleGroup} (hg : g ∈ s.ruleGroups) {new : Rule.Draft}
    (hnew : new.ruleGroup = g.id) {description : String}
    (hdescription : new.description.getD new.inputClaimType = description) :
    s.account (.addRule new) = ⟨[.addingRule g.name description, .changesSaved],
      { created := [resourceLabel .rule (g.name ++ "/" ++ description)] }⟩ := by
  simp only [account, hnew, ruleGroupName_of_mem hs hg, hdescription]

theorem account_link {p : RelyingParty.Stored} (hp : p ∈ s.relyingParties) {g : RuleGroup}
    (hg : g ∈ s.ruleGroups) : s.account (.link ⟨p.id, g.id⟩) = ⟨[.linking p.name g.name],
      { linked := [p.name ++ " -> " ++ g.name] }⟩ := by
  simp only [account, relyingPartyName_of_mem hs hp, ruleGroupName_of_mem hs hg]

end

def redo (s : Store) : JournalEntry → Store
  | .addRelyingParty new => (s.insertRelyingParty new).2.record (.addRelyingParty new)
  | .removeRelyingParty id => (s.remove .relyingParty id).record (.removeRelyingParty id)
  | .addRuleGroup new => (s.insertRuleGroup new).2.record (.addRuleGroup new)
  | .addRule new => (s.insertRule new).2.record (.addRule new)
  | .delete kind id => s.queueAll [.delete kind id]
  | .link new => s.queueAll [.link new]
  | .saveChanges _ => s.committed

def redoAll (s : Store) (entries : List JournalEntry) : Store := entries.foldl redo s

def story (s : Store) : List JournalEntry → Account
  | [] => 0
  | e :: entries => s.account e + (s.redo e).story entries

theorem redoAll_append (s : Store) (as bs : List JournalEntry) :
    s.redoAll (as ++ bs) = (s.redoAll as).redoAll bs := by
  unfold redoAll
  rw [List.foldl_append]

theorem story_append (s : Store) (as bs : List JournalEntry) :
    s.story (as ++ bs) = s.story as + (s.redoAll as).story bs := by
  induction as generalizing s with
  | nil => rw [List.nil_append, story, zero_add, redoAll, List.foldl_nil]
  | cons e as ih =>
    rw [List.cons_append, story, ih, ← add_assoc]
    rfl

theorem story_singleton (s : Store) (e : JournalEntry) : s.story [e] = s.account e :=
  add_zero (s.account e)

/-- entries tell of no commands, and of one batch whenever the queue was committed -/
theorem account_counts (s : Store) (e : JournalEntry) : (s.account e).report.commands = 0
    ∧ (s.account e).report.batches = if e.operation = .saveChanges then 1 else 0 := by
  cases e with
  | delete kind id => cases kind <;> exact ⟨rfl, rfl⟩
  | addRelyingParty new => exact ⟨rfl, rfl⟩
  | removeRelyingParty id => exact ⟨rfl, rfl⟩
  | addRuleGroup new => exact ⟨rfl, rfl⟩
  | addRule new => exact ⟨rfl, rfl⟩
  | link new => exact ⟨rfl, rfl⟩
  | saveChanges committed => exact ⟨rfl, rfl⟩

theorem story_counts (s : Store) (entries : List JournalEntry) :
    (s.story entries).report.commands = 0
      ∧ (s.story entries).report.batches = entries.countP (·.operation = .saveChanges) := by
  induction entries generalizing s with
  | nil => exact ⟨rfl, rfl⟩
  | cons e entries ih =>
    obtain ⟨hcommands, hbatches⟩ := s.account_counts e
    obtain ⟨hcommands', hbatches'⟩ := ih (s.redo e)
    constructor
    · show (s.account e).report.commands + _ = 0
      rw [hcommands, hcommands']
    · show (s.account e).report.batches + _ = _
      rw [hbatches, hbatches', List.countP_cons, Nat.add_comm]
      simp only [decide_eq_true_eq]

/-! ## calls -/

theorem applyBatch_journal (s : Store) (batch : List Change) :
    (s.applyBatch batch).journal = s.journal :=
  applyBatch_induction (P := fun t => t.journal = s.journal)
    (fun t kind id h => by rw [remove_eq, h]) (fun _ _ h => h) rfl batch

theorem committed_journal (s : Store) :
    s.committed.journal = s.journal ++ [.saveChanges s.queue.length] := by
  show (({ s with queue := [] } : Store).applyBatch s.queue).journal ++ _ = _
  rw [applyBatch_journal]

theorem settle_ok {α : Type} {s t : Store} {x : Except StoreError (α × Store)} {a : α}
    (h : settle s x = (.ok a, t)) : x = .ok (a, t) := by
  cases x with
  | ok r =>
    cases h
    rfl
  | error e => cases h

theorem settle_error {α : Type} {s t : Store} {x : Except StoreError (α × Store)} {e : StoreError}
    (h : settle s x = (.error e, t)) : t = s := by
  cases x with
  | ok r => cases h
  | error e =>
    cases h
    rfl

/-- a call that succeeds leads to what its entry leads to -/
theorem answer_ok {s t : Store} {c : Call} {a : c.Answer} (h : answer c s = (.ok a, t)) :
    t = s.redoAll (c.entries s) ∧ t.journal = s.journal ++ c.entries s := by
  have unchanged (u : Store) (hu : u = s) : u = s ∧ u.journal = s.journal ++ [] := by
    rw [hu, List.append_nil]
    exact ⟨rfl, rfl⟩
  cases c with
  | findRelyingParties name => cases h; exact unchanged _ rfl
  | findRuleGroups name => cases h; exact unchanged _ rfl
  | findKeys displayName => cases h; exact unchanged _ rfl
  | rules ruleGroup => cases h; exact unchanged _ rfl
  | listRuleGroups start => exact unchanged _ (Prod.mk.inj h).2.symm
  | addRelyingParty new =>
    obtain ⟨-, -, -, -, -, rfl⟩ := addRelyingParty_eq_ok.mp (settle_ok h)
    obtain ⟨keys, heq, -⟩ := s.insertRelyingParty_frame new
    refine ⟨rfl, ?_⟩
    rw [heq]
    rfl
  | removeRelyingParty id =>
    obtain ⟨-, -, rfl⟩ := removeRelyingParty_eq_ok.mp (settle_ok h)
    exact ⟨rfl, rfl⟩
  | addRuleGroup new =>
    obtain ⟨-, -, -, -, rfl⟩ := addRuleGroup_eq_ok.mp (settle_ok h)
    exact ⟨rfl, rfl⟩
  | addRule new =>
    obtain ⟨-, -, -, -, rfl⟩ := addRule_eq_ok.mp (settle_ok h)
    exact ⟨rfl, rfl⟩
  | delete kind id =>
    obtain ⟨-, rfl⟩ := delete_eq_ok.mp (settle_ok h)
    exact ⟨rfl, rfl⟩
  | link new =>
    obtain ⟨-, rfl⟩ := link_eq_ok.mp (settle_ok h)
    exact ⟨rfl, rfl⟩
  | saveChanges =>
    obtain ⟨-, -, -, rfl⟩ := saveChanges_eq_ok.mp h
    exact ⟨rfl, s.committed_journal⟩

/-- a call that is refused leaves the store as it is; only a rejected batch is lost -/
theorem answer_refused {s t : Store} {c : Call} {e : StoreError}
    (h : answer c s = (.error e, t)) :
    t = s ∨ c = .saveChanges ∧ t = { s with queue := [] }
      ∧ ∃ fault : BatchFault, e = fault.error := by
  cases c with
  | findRelyingParties name => cases h
  | findRuleGroups name => cases h
  | findKeys displayName => cases h
  | rules ruleGroup => cases h
  | listRuleGroups start => exact .inl (Prod.mk.inj h).2.symm
  | addRelyingParty new => exact .inl (settle_error h)
  | removeRelyingParty id => exact .inl (settle_error h)
  | addRuleGroup new => exact .inl (settle_error h)
  | addRule new => exact .inl (settle_error h)
  | delete kind id => exact .inl (settle_error h)
  | link new => exact .inl (settle_error h)
  | saveChanges =>
    rcases saveChanges_eq_error h with rfl | ⟨rfl, hfault⟩
    · exact .inl rfl
    · exact .inr ⟨rfl, rfl, hfault⟩

/-- a call that is refused leaves no entry -/
theorem answer_error {s t : Store} {c : Call} {e : StoreError} (h : answer c s = (.error e, t)) :
    t.journal = s.journal := by
  rcases answer_refused h with rfl | ⟨-, rfl, -⟩
  · rfl
  · rfl

end Store
end AccessControl
