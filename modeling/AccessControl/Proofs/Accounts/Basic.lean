import AccessControl.Proofs.Narration

/-!
# Accounts of commands

What a command has to tell if it comes to its end can be read off a snapshot of the store: which rule
groups and keys go with a relying party, in the order of their names, and which rule groups the new one
is linked to.

* `Account.batch`      what changes tell that are queued and committed together;
* `Command.account`    what a command has to tell;
* `Run.Accounts`       a step that comes to its end has told this;
* `Run.Silent`         a step tells nothing.
-/

namespace AccessControl

/-! ## accounts of changes -/

namespace Account

def removedRuleGroup (name : String) : Account :=
  ⟨[.removingRuleGroup name], { deleted := [resourceLabel .ruleGroup name] }⟩

def removedKey (displayName : String) : Account :=
  ⟨[.removingKey displayName], { deleted := [resourceLabel .relyingPartyKey displayName] }⟩

def removedRelyingParty (name : String) : Account :=
  ⟨[.removingRelyingParty name, .changesSaved],
    { deleted := [resourceLabel .relyingParty name] }⟩

def createdRelyingParty (name : String) : Account :=
  ⟨[.addingRelyingParty name, .changesSaved], { created := [resourceLabel .relyingParty name] }⟩

def createdRuleGroup (name : String) : Account :=
  ⟨[.addingRuleGroup name, .changesSaved], { created := [resourceLabel .ruleGroup name] }⟩

def createdRule (ruleGroup description : String) : Account :=
  ⟨[.addingRule ruleGroup description, .changesSaved],
    { created := [resourceLabel .rule (ruleGroup ++ "/" ++ description)] }⟩

def linked (relyingParty ruleGroup : String) : Account :=
  ⟨[.linking relyingParty ruleGroup], { linked := [relyingParty ++ " -> " ++ ruleGroup] }⟩

def committed : Account := ⟨[.changesSaved], { batches := 1 }⟩

/-- changes that are queued and committed together, if there are any -/
def batch (changes : List Account) : Account :=
  if changes.isEmpty then 0 else changes.sum + committed

end Account

/-! ## accounts of commands -/

/-- the names that patterns are found in: one pattern after another, and each name once -/
def Pattern.picks : List Pattern → List String → List String
  | [], _ => []
  | pattern :: patterns, names =>
    names.filter pattern.isFoundIn ++ picks patterns (names.filter fun g => !pattern.isFoundIn g)

def RelyingParty.Snapshot.tornDown (p : RelyingParty.Snapshot) (withRuleGroups : Bool) : Account :=
  Account.batch ((if withRuleGroups then p.ruleGroups else []).map .removedRuleGroup)
    + (Account.batch (p.keys.map .removedKey) + .removedRelyingParty p.name)

namespace Snapshot

def tornDown (X : Snapshot) (name : String) (withRuleGroups : Bool) : Account :=
  ((X.relyingPartiesNamed name).map (·.tornDown withRuleGroups)).sum

/-- the rule groups that do not go with the relying parties of a name -/
def spared (X : Snapshot) (name : String) (withRuleGroups : Bool) : List String :=
  (X.ruleGroups.map (·.name)).filter fun g =>
    !(withRuleGroups && (X.relyingPartiesNamed name).any fun p => p.ruleGroups.contains g)

def removedRuleGroups (X : Snapshot) (name : String) : Account :=
  Account.batch (((X.ruleGroups.map (·.name)).filter (· = name)).map .removedRuleGroup)

end Snapshot

def Command.account (X : Snapshot) : Command → Account
  | .addRelyingParty new =>
    let name := new.name.getD ""
    let patterns := new.patterns.filterMap Pattern.ofText?
    let links := Pattern.picks patterns (X.spared name new.removeRelatedRuleGroups)
    X.tornDown name new.removeRelatedRuleGroups
      + (.createdRelyingParty name + Account.batch (links.map (.linked name)))
  | .removeRelyingParty name withRuleGroups => X.tornDown name withRuleGroups
  | .addRuleGroup name =>
    X.removedRuleGroups (name.getD "") + .createdRuleGroup (name.getD "")
  | .addRule ruleGroup rule =>
    .createdRule (ruleGroup.getD "") (rule.description.getD (rule.inputClaimType.getD ""))
  | .removeRuleGroup name => X.removedRuleGroups name

/-! ## steps that tell something -/

namespace Run
variable {α β : Type}

/-- if the step comes to its end it has told this, and the result and the store are `good` -/
def Accounts (m : Run Store α) (s : Store) (told : Account) (good : α → Store → Prop) : Prop :=
  ∀ p : Progress Store, p.session.store = s → ∀ a q, m p = (.ok a, q) →
    good a q.session.store ∧ q.events = p.events ++ told.events
      ∧ q.report = p.report + told.report

/-- a step that tells nothing -/
def Silent (m : Run Store α) : Prop :=
  ∀ p, (m p).2.events = p.events ∧ (m p).2.report = p.report

namespace Silent

theorem pure (a : α) : (Pure.pure a : Run Store α).Silent := fun _ => ⟨rfl, rfl⟩

theorem lift (x : Except ReconcileError α) : (liftM x : Run Store α).Silent := by
  intro p
  cases x with
  | ok a => exact ⟨rfl, rfl⟩
  | error e => exact ⟨rfl, rfl⟩

theorem remote (client : Client Store α) : (Reconciler.remote client).Silent := by
  intro p
  unfold Reconciler.remote
  cases client p.session with
  | mk r session =>
    cases r with
    | ok a => exact ⟨rfl, rfl⟩
    | error e => exact ⟨rfl, rfl⟩

theorem bind {m : Run Store α} {f : α → Run Store β} (hm : m.Silent) (hf : ∀ a, (f a).Silent) :
    (m >>= f).Silent := by
  intro p
  have hp := hm p
  cases hrun : m p with
  | mk r q =>
    rw [hrun] at hp
    cases r with
    | error e =>
      rw [bind_of_error hrun]
      exact hp
    | ok a =>
      rw [bind_of_ok hrun]
      have hq := hf a q
      exact ⟨hq.1.trans hp.1, hq.2.trans hp.2⟩

theorem mapM {f : α → Run Store β} (hf : ∀ a, (f a).Silent) (l : List α) : (l.mapM f).Silent := by
  induction l with
  | nil =>
    rw [List.mapM_nil]
    exact pure []
  | cons a l ih =>
    rw [List.mapM_cons]
    exact (hf a).bind fun b => ih.bind fun bs => pure (b :: bs)

end Silent

namespace Accounts
variable {m : Run Store α} {f : α → Run Store β} {s : Store} {a b : Account}
  {good good' : α → Store → Prop} {next : β → Store → Prop} {bad : ReconcileError → Store → Prop}

theorem bind (hm : m.Accounts s a good) (hf : ∀ x t, good x t → (f x).Accounts t b next) :
    (m >>= f).Accounts s (a + b) next := by
  intro p hp y q hq
  cases hrun : m p with
  | mk r t =>
    cases r with
    | error e =>
      rw [bind_of_error hrun] at hq
      cases hq
    | ok x =>
      rw [bind_of_ok hrun] at hq
      obtain ⟨hgood, hevents, hreport⟩ := hm p hp x t hrun
      obtain ⟨hnext, hevents', hreport'⟩ := hf x _ hgood t rfl y q hq
      refine ⟨hnext, ?_, ?_⟩
      · rw [hevents', hevents, List.append_assoc]
        rfl
      · rw [hreport', hreport, add_assoc]
        rfl

/-- what is known of the end anyway -/
theorem and_ends (h : m.Accounts s a good) (hends : m.Ends s good' bad) :
    m.Accounts s a fun x t => good x t ∧ good' x t := by
  intro p hp x q hq
  obtain ⟨hgood, htold⟩ := h p hp x q hq
  have hend := hends p hp
  rw [hq] at hend
  exact ⟨⟨hgood, hend⟩, htold⟩

theorem mono (h : m.Accounts s a good) (hgood : ∀ x t, good x t → good' x t) :
    m.Accounts s a good' := by
  intro p hp x q hq
  obtain ⟨hx, htold⟩ := h p hp x q hq
  exact ⟨hgood x _ hx, htold⟩

theorem silent (hm : m.Silent) (hends : m.Ends s good bad) : m.Accounts s 0 good := by
  intro p hp x q hq
  have hend := hends p hp
  have hsilent := hm p
  rw [hq] at hend hsilent
  refine ⟨hend, ?_, ?_⟩
  · rw [hsilent.1]
    exact (List.append_nil _).symm
  · rw [hsilent.2]
    exact (add_zero p.report).symm

theorem pure {x : α} (h : good x s) : (Pure.pure x : Run Store α).Accounts s 0 good := by
  have hends : (Pure.pure x : Run Store α).Ends s good fun _ _ => True := .pure h
  exact silent (.pure x) hends

/-- a step that tells nothing, and what is known after it -/
theorem silent_bind (hm : m.Silent) (hends : m.Ends s good bad)
    (hf : ∀ x t, good x t → (f x).Accounts t b next) : (m >>= f).Accounts s b next := by
  have h := (silent hm hends).bind hf
  rw [zero_add] at h
  exact h

theorem check {x : Except ReconcileError α} (hf : ∀ a, x = .ok a → (f a).Accounts s b next) :
    ((liftM x : Run Store α) >>= f).Accounts s b next := by
  have hends : (liftM x : Run Store α).Ends s (fun a t => x = .ok a ∧ t = s) fun _ _ => True :=
    .lift (fun _ hx => ⟨hx, rfl⟩) fun _ _ => trivial
  refine silent_bind (.lift x) hends ?_
  rintro a t ⟨hx, rfl⟩
  exact hf a hx

/-- noting an error tells nothing of a step that comes to its end -/
theorem tryCatch_note {d : ReconcileError → Diagnostic} (h : m.Accounts s a good) :
    (tryCatch m fun e => do
      Reconciler.note (d e)
      throw e).Accounts s a good := by
  intro p hp x q hq
  rw [tryCatch_eq] at hq
  cases hrun : m p with
  | mk r t =>
    rw [hrun] at hq
    cases r with
    | ok a =>
      cases hq
      exact h p hp x t hrun
    | error e => cases hq

end Accounts

namespace Tells
variable {m : Run Store Unit} {f : Unit → Run Store β} {s : Store} {a b told : Account}
  {good : Unit → Store → Prop} {next : β → Store → Prop}

theorem accounts (h : m.Tells a) (hgood : good () s) : m.Accounts s a good := by
  intro p hp x q hq
  obtain ⟨q', hrun, hstore, htold⟩ := h p
  rw [hrun] at hq
  cases hq
  rw [hstore, hp]
  exact ⟨hgood, htold⟩

theorem accounts_bind (h : m.Tells a) (hf : (f ()).Accounts s b next) (htold : told = a + b) :
    (m >>= f).Accounts s told next := by
  rw [htold]
  have hm : m.Accounts s a fun _ t => t = s := h.accounts rfl
  refine hm.bind fun _ t ht => ?_
  rw [ht]
  exact hf

end Tells
end Run

end AccessControl
