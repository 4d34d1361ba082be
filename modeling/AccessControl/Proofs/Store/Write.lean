import AccessControl.Store.Backend

/-!
# Writes that succeed

For every write the exact condition of its success, and the store that it leaves.  A write that fails
leaves the store as it is (`settle`), except that a rejected batch is lost (`saveChanges_rejected`).

* `Store.queueAll`    the store after queueing some changes one after another;
* `Store.committed`   the store after a commit of its queue;
* `Store.Step`        all that a call can do to a store (`step_answer`).
-/

namespace AccessControl

def Change.entry : Change → JournalEntry
  | .delete kind id => .delete kind id
  | .link new => .link new

namespace Store

/-- is this operation made to fail? -/
def Fails (s : Store) (op : Operation) : Prop := s.failing.contains op = true

theorem guardFailure_of_fails {s : Store} {op : Operation} (h : s.Fails op) :
    s.guardFailure op = .error (.connection ("injected failure on " ++ op.name)) :=
  if_pos h

theorem guardFailure_of_not_fails {s : Store} {op : Operation} (h : ¬ s.Fails op) :
    s.guardFailure op = .ok () :=
  if_neg h

instance (s : Store) (op : Operation) : Decidable (s.Fails op) :=
  inferInstanceAs (Decidable (_ = true))

theorem not_fails_of_failing_nil {s : Store} (h : s.failing = []) (op : Operation) :
    ¬ s.Fails op := by
  unfold Fails
  rw [h]
  exact Bool.false_ne_true

/-! ## guards -/

theorem require_bind_eq_ok {β : Type} {condition : Bool} {e : StoreError}
    {k : Unit → Except StoreError β} {b : β} :
    (require condition e >>= k) = .ok b ↔ condition = true ∧ k () = .ok b := by
  cases condition with
  | true => exact ⟨fun h => ⟨rfl, h⟩, And.right⟩
  | false =>
    constructor
    · intro h
      cases h
    · rintro ⟨h, -⟩
      cases h

theorem guardFailure_bind_eq_ok {β : Type} {s : Store} {op : Operation}
    {k : Unit → Except StoreError β} {b : β} :
    (s.guardFailure op >>= k) = .ok b ↔ ¬ s.Fails op ∧ k () = .ok b := by
  unfold guardFailure Fails
  cases s.failing.contains op with
  | true =>
    constructor
    · intro h
      cases h
    · rintro ⟨h, -⟩
      exact absurd rfl h
  | false => exact ⟨fun h => ⟨Bool.false_ne_true, h⟩, And.right⟩

theorem pure_pair_eq_ok {α : Type} {a b : α} {s t : Store} :
    (pure (a, s) : Except StoreError (α × Store)) = .ok (b, t) ↔ b = a ∧ t = s := by
  constructor
  · intro h
    cases h
    exact ⟨rfl, rfl⟩
  · rintro ⟨rfl, rfl⟩
    rfl

/-! ## writes that take effect at once -/

section
variable {s t : Store} {id : Id}

theorem addRelyingParty_eq_ok {new : RelyingParty.Draft} :
    s.addRelyingParty new = .ok (id, t) ↔ ¬ s.Fails .addRelyingParty ∧ new.name ≠ ""
      ∧ new.realmAddress ≠ "" ∧ (∀ p ∈ s.relyingParties, p.name ≠ new.name) ∧ id = s.nextId
      ∧ t = (s.insertRelyingParty new).2.record (.addRelyingParty new) := by
  unfold addRelyingParty
  rw [guardFailure_bind_eq_ok, require_bind_eq_ok, require_bind_eq_ok, require_bind_eq_ok]
  refine and_congr_right' (and_congr (by simp) (and_congr (by simp) (and_congr (by simp) ?_)))
  exact pure_pair_eq_ok

theorem removeRelyingParty_eq_ok {u : Unit} :
    s.removeRelyingParty id = .ok (u, t) ↔ ¬ s.Fails .removeRelyingParty
      ∧ (∃ p ∈ s.relyingParties, p.id = id)
      ∧ t = (s.remove .relyingParty id).record (.removeRelyingParty id) := by
  unfold removeRelyingParty
  rw [guardFailure_bind_eq_ok, require_bind_eq_ok]
  refine and_congr_right' (and_congr (by simp [exists?]) ?_)
  exact pure_pair_eq_ok.trans (and_iff_right rfl)

theorem addRuleGroup_eq_ok {new : RuleGroup.Draft} :
    s.addRuleGroup new = .ok (id, t) ↔ ¬ s.Fails .addRuleGroup ∧ new.name ≠ ""
      ∧ (∀ g ∈ s.ruleGroups, g.name ≠ new.name) ∧ id = s.nextId
      ∧ t = (s.insertRuleGroup new).2.record (.addRuleGroup new) := by
  unfold addRuleGroup
  rw [guardFailure_bind_eq_ok, require_bind_eq_ok, require_bind_eq_ok]
  refine and_congr_right' (and_congr (by simp) (and_congr (by simp) ?_))
  exact pure_pair_eq_ok

theorem addRule_eq_ok {new : Rule.Draft} :
    s.addRule new = .ok (id, t) ↔ ¬ s.Fails .addRule ∧ (∃ g ∈ s.ruleGroups, g.id = new.ruleGroup)
      ∧ new.inputClaimType ≠ "" ∧ id = s.nextId
      ∧ t = (s.insertRule new).2.record (.addRule new) := by
  unfold addRule
  rw [guardFailure_bind_eq_ok, require_bind_eq_ok, require_bind_eq_ok]
  refine and_congr_right' (and_congr (by simp [exists?]) (and_congr (by simp) ?_))
  exact pure_pair_eq_ok

/-! ## queued changes -/

theorem delete_eq_ok {kind : ResourceKind} {u : Unit} :
    s.delete kind id = .ok (u, t) ↔ ¬ s.Fails .delete
      ∧ t = (s.enqueue (.delete kind id)).record (.delete kind id) := by
  unfold delete
  rw [guardFailure_bind_eq_ok]
  exact and_congr_right' (pure_pair_eq_ok.trans (and_iff_right rfl))

theorem link_eq_ok {new : Link.Draft} {u : Unit} :
    s.link new = .ok (u, t) ↔ ¬ s.Fails .link ∧ t = (s.enqueue (.link new)).record (.link new) := by
  unfold link
  rw [guardFailure_bind_eq_ok]
  exact and_congr_right' (pure_pair_eq_ok.trans (and_iff_right rfl))

end

/-- queues changes in order -/
def queueAll (s : Store) (changes : List Change) : Store :=
  { s with queue := s.queue ++ changes, journal := s.journal ++ changes.map (·.entry) }

theorem queueAll_nil (s : Store) : s.queueAll [] = s := by
  simp [queueAll]

theorem queueAll_append (s : Store) (a b : List Change) :
    s.queueAll (a ++ b) = (s.queueAll a).queueAll b := by
  simp [queueAll]

/-! ## commits -/

/-- the store after its queue has been applied -/
def committed (s : Store) : Store :=
  (({ s with queue := [] } : Store).applyBatch s.queue).record (.saveChanges s.queue.length)

/-- a batch is judged by the records alone -/
theorem checkChanges_congr {s t : Store} (h : t = { s with
      pageSize := t.pageSize, queue := t.queue, journal := t.journal, failing := t.failing })
    (deleted : List Id) (linked : List Link.Draft) (batch : List Change) :
    t.checkChanges deleted linked batch = s.checkChanges deleted linked batch := by
  rw [h]
  induction batch generalizing deleted linked with
  | nil => rfl
  | cons c batch ih =>
    cases c with
    | delete kind id =>
      have he : exists? { s with
          pageSize := t.pageSize, queue := t.queue, journal := t.journal, failing := t.failing }
          kind id = s.exists? kind id := by
        cases kind <;> rfl
      unfold checkChanges
      rw [he, ih]
    | link l =>
      unfold checkChanges
      rw [ih]
      rfl

theorem checkBatch_clearQueue (s : Store) (batch : List Change) :
    ({ s with queue := [] } : Store).checkBatch batch = s.checkBatch batch :=
  checkChanges_congr rfl [] [] batch

theorem saveChanges_fails {s : Store} (h : s.Fails .saveChanges) :
    s.saveChanges = (.error (.connection "injected failure on SaveChanges"), s) := by
  unfold saveChanges
  rw [guardFailure_of_fails h]
  rfl

theorem saveChanges_rejected {s : Store} (h : ¬ s.Fails .saveChanges) {fault : BatchFault}
    (hc : s.checkBatch s.queue = .error fault) :
    s.saveChanges = (.error fault.error, { s with queue := [] }) := by
  unfold saveChanges
  rw [guardFailure_of_not_fails h]
  simp only [checkBatch_clearQueue, hc]

theorem saveChanges_accepted {s : Store} (h : ¬ s.Fails .saveChanges)
    (hc : s.checkBatch s.queue = .ok ()) :
    s.saveChanges = (.ok s.queue.length, s.committed) := by
  unfold saveChanges committed
  rw [guardFailure_of_not_fails h]
  simp only [checkBatch_clearQueue, hc]

theorem saveChanges_eq_ok {s t : Store} {n : Nat} :
    s.saveChanges = (.ok n, t) ↔ ¬ s.Fails .saveChanges ∧ s.checkBatch s.queue = .ok ()
      ∧ n = s.queue.length ∧ t = s.committed := by
  by_cases hf : s.Fails .saveChanges
  · rw [saveChanges_fails hf]
    constructor
    · intro h
      cases h
    · intro h
      exact absurd hf h.1
  · cases hc : s.checkBatch s.queue with
    | error fault =>
      rw [saveChanges_rejected hf hc]
      constructor
      · intro h
        cases h
      · intro h
        cases h.2.1
    | ok u =>
      rw [saveChanges_accepted hf hc]
      constructor
      · intro h
        cases h
        exact ⟨hf, rfl, rfl, rfl⟩
      · rintro ⟨-, -, rfl, rfl⟩
        rfl

/-- a refused commit leaves the store as it is, unless the batch was at fault -/
theorem saveChanges_eq_error {s t : Store} {e : StoreError} (h : s.saveChanges = (.error e, t)) :
    t = s ∨ t = { s with queue := [] } ∧ ∃ fault : BatchFault, e = fault.error := by
  by_cases hf : s.Fails .saveChanges
  · rw [saveChanges_fails hf] at h
    cases h
    exact .inl rfl
  · cases hc : s.checkBatch s.queue with
    | error fault =>
      rw [saveChanges_rejected hf hc] at h
      cases h
      exact .inr ⟨rfl, fault, rfl⟩
    | ok u =>
      rw [saveChanges_accepted hf hc] at h
      cases h

/-! ## what a call can do -/

inductive Step (s : Store) : Store → Prop where
  | none : Step s s
  | addRelyingParty (new : RelyingParty.Draft) (hname : new.name ≠ "")
      (hnew : ∀ p ∈ s.relyingParties, p.name ≠ new.name) (hrealm : new.realmAddress ≠ "") :
    Step s ((s.insertRelyingParty new).2.record (.addRelyingParty new))
  | removeRelyingParty (id : Id) :
    Step s ((s.remove .relyingParty id).record (.removeRelyingParty id))
  | addRuleGroup (new : RuleGroup.Draft) (hname : new.name ≠ "")
      (hnew : ∀ g ∈ s.ruleGroups, g.name ≠ new.name) :
    Step s ((s.insertRuleGroup new).2.record (.addRuleGroup new))
  | addRule (new : Rule.Draft) (hgroup : ∃ g ∈ s.ruleGroups, g.id = new.ruleGroup)
      (htype : new.inputClaimType ≠ "") :
    Step s ((s.insertRule new).2.record (.addRule new))
  | queue (c : Change) : Step s (s.queueAll [c])
  | reject : Step s { s with queue := [] }
  | commit (hc : s.checkBatch s.queue = .ok ()) : Step s s.committed

theorem step_settle {α : Type} {s : Store} {e : Except StoreError (α × Store)}
    (h : ∀ a t, e = .ok (a, t) → s.Step t) : s.Step (settle s e).2 := by
  cases e with
  | error e => exact .none
  | ok r => exact h r.1 r.2 rfl

theorem step_answer (c : Call) (s : Store) : s.Step (answer c s).2 := by
  cases c with
  | findRelyingParties name => exact .none
  | findRuleGroups name => exact .none
  | findKeys displayName => exact .none
  | rules ruleGroup => exact .none
  | listRuleGroups start => exact .none
  | addRelyingParty new =>
    refine step_settle fun id t h => ?_
    obtain ⟨-, hname, hrealm, hnew, -, rfl⟩ := addRelyingParty_eq_ok.mp h
    exact .addRelyingParty new hname hnew hrealm
  | removeRelyingParty id =>
    refine step_settle fun _ t h => ?_
    obtain ⟨-, -, rfl⟩ := removeRelyingParty_eq_ok.mp h
    exact .removeRelyingParty id
  | addRuleGroup new =>
    refine step_settle fun id t h => ?_
    obtain ⟨-, hname, hnew, -, rfl⟩ := addRuleGroup_eq_ok.mp h
    exact .addRuleGroup new hname hnew
  | addRule new =>
    refine step_settle fun id t h => ?_
    obtain ⟨-, hgroup, htype, -, rfl⟩ := addRule_eq_ok.mp h
    exact .addRule new hgroup htype
  | delete kind id =>
    refine step_settle fun _ t h => ?_
    rw [(delete_eq_ok.mp h).2]
    exact .queue (.delete kind id)
  | link new =>
    refine step_settle fun _ t h => ?_
    rw [(link_eq_ok.mp h).2]
    exact .queue (.link new)
  | saveChanges =>
    show s.Step s.saveChanges.2
    by_cases hf : s.Fails .saveChanges
    · rw [saveChanges_fails hf]
      exact .none
    · cases hc : s.checkBatch s.queue with
      | error fault =>
        rw [saveChanges_rejected hf hc]
        exact .reject
      | ok u =>
        rw [saveChanges_accepted hf hc]
        exact .commit hc

end Store
end AccessControl
