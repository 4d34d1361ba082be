import AccessControl.Proofs.Contents.Meaning
import AccessControl.Proofs.Reconcile.Ends
import AccessControl.Proofs.Store.Queue

/-!
# Calls of a run

For every call that a run makes: what it leaves when it succeeds, and why it fails.  Lookups always
succeed, and how many resources they find is a matter of the contents (`length_ruleGroupsNamed`,
`length_relyingPartiesNamed`).
-/

namespace AccessControl

/-! ## lookups -/

/-- a list without repetition that only has one element -/
theorem eq_singleton_of_nodup {α : Type} {l : List α} {a : α} (hl : l.Nodup) (ha : a ∈ l)
    (hall : ∀ b ∈ l, b = a) : l = [a] := by
  have hrep := List.eq_replicate_of_mem hall
  have hle : l.length ≤ 1 := List.nodup_replicate.mp (hrep ▸ hl)
  have hpos := List.length_pos_of_mem ha
  rw [hrep, show l.length = 1 by omega]
  rfl

namespace Store
variable {s : Store} {name : String}

theorem mem_ruleGroupsNamed {g : RuleGroup} :
    g ∈ s.ruleGroupsNamed name ↔ g ∈ s.ruleGroups ∧ g.name = name := by
  unfold ruleGroupsNamed sortedRuleGroups
  rw [List.mem_filter, (List.mergeSort_perm _ _).mem_iff, decide_eq_true_iff]

theorem length_ruleGroupsNamed (s : Store) (name : String) :
    (s.ruleGroupsNamed name).length = s.contents.count (.ruleGroup name) := by
  unfold ruleGroupsNamed sortedRuleGroups
  rw [count_ruleGroup, ← List.countP_eq_length_filter]
  exact (List.mergeSort_perm _ _).countP_eq _

theorem length_relyingPartiesNamed (s : Store) (name : String) :
    (s.relyingPartiesNamed name).length = s.contents.count (.relyingParty name) := by
  unfold relyingPartiesNamed
  rw [count_relyingParty, List.length_map, ← List.countP_eq_length_filter]

/-- the only rule group of a name -/
theorem ruleGroupsNamed_eq_singleton {g : RuleGroup} (h : s.ruleGroupsNamed name = [g]) :
    g ∈ s.ruleGroups ∧ g.name = name ∧ ∀ g' ∈ s.ruleGroups, g'.name = name → g' = g := by
  have hg : g ∈ s.ruleGroupsNamed name := by
    rw [h]
    exact List.mem_singleton.mpr rfl
  obtain ⟨hg, hn⟩ := mem_ruleGroupsNamed.mp hg
  refine ⟨hg, hn, fun g' hg' hn' => ?_⟩
  have hg' : g' ∈ s.ruleGroupsNamed name := mem_ruleGroupsNamed.mpr ⟨hg', hn'⟩
  rw [h] at hg'
  exact List.mem_singleton.mp hg'

theorem ruleGroupsNamed_eq_nil (h : s.ruleGroupsNamed name = []) :
    ∀ g ∈ s.ruleGroups, g.name ≠ name := fun g hg hn => by
  have hg : g ∈ s.ruleGroupsNamed name := mem_ruleGroupsNamed.mpr ⟨hg, hn⟩
  rw [h] at hg
  exact absurd hg List.not_mem_nil

theorem relyingPartiesNamed_eq_singleton {v : RelyingParty} (h : s.relyingPartiesNamed name = [v]) :
    ∃ p ∈ s.relyingParties, v = s.view p ∧ p.name = name
      ∧ ∀ p' ∈ s.relyingParties, p'.name = name → p' = p := by
  obtain ⟨p, hf, hv⟩ := List.map_eq_singleton_iff.mp h
  have hp : p ∈ s.relyingParties.filter (·.name = name) := by
    rw [hf]
    exact List.mem_singleton.mpr rfl
  obtain ⟨hp, hn⟩ := List.mem_filter.mp hp
  refine ⟨p, hp, hv.symm, of_decide_eq_true hn, fun p' hp' hn' => ?_⟩
  have hp' : p' ∈ s.relyingParties.filter (·.name = name) :=
    List.mem_filter.mpr ⟨hp', decide_eq_true hn'⟩
  rw [hf] at hp'
  exact List.mem_singleton.mp hp'

theorem relyingPartiesNamed_of_sole (hs : s.Sound) {p : RelyingParty.Stored}
    (hp : p ∈ s.relyingParties) (hone : ∀ p' ∈ s.relyingParties, p'.name = p.name → p' = p) :
    s.relyingPartiesNamed p.name = [s.view p] := by
  unfold relyingPartiesNamed
  refine List.map_eq_singleton_iff.mpr ⟨p, eq_singleton_of_nodup ?_ ?_ ?_, rfl⟩
  · exact (List.Nodup.of_map _ hs.relyingPartyIds).filter _
  · exact List.mem_filter.mpr ⟨hp, decide_eq_true rfl⟩
  · intro p' hp'
    obtain ⟨hp', hname⟩ := List.mem_filter.mp hp'
    exact hone p' hp' (of_decide_eq_true hname)

theorem relyingPartiesNamed_eq_nil (h : s.relyingPartiesNamed name = []) :
    ∀ p ∈ s.relyingParties, p.name ≠ name := fun p hp hn => by
  have hf := List.map_eq_nil_iff.mp h
  have hp : p ∈ s.relyingParties.filter (·.name = name) :=
    List.mem_filter.mpr ⟨hp, decide_eq_true hn⟩
  rw [hf] at hp
  exact absurd hp List.not_mem_nil

end Store

section
variable {α : Type} {kind : ResourceKind} {name : String} {found : List α}

theorem exactlyOne_eq_ok {a : α} : exactlyOne kind name found = .ok a ↔ found = [a] := by
  unfold exactlyOne
  split
  · simp
  · rename_i h
    constructor
    · intro h'
      cases h'
    · exact fun h' => absurd h' (h a)

theorem exactlyOne_eq_error {e : ReconcileError} (h : exactlyOne kind name found = .error e) :
    found.length ≠ 1 := by
  intro hl
  obtain ⟨a, rfl⟩ := List.length_eq_one_iff.mp hl
  cases h

theorem exactlyOne_error {e : ReconcileError} (h : exactlyOne kind name found = .error e) :
    e = .preconditionViolation kind name found.length := by
  unfold exactlyOne at h
  split at h
  · cases h
  · cases h
    rfl

theorem atMostOne_of_ne_nil (h : found ≠ []) :
    atMostOne kind name found = (exactlyOne kind name found).map some := by
  cases found with
  | nil => exact absurd rfl h
  | cons a as => rfl

theorem atMostOne_eq_none (h : atMostOne kind name found = .ok none) : found = [] := by
  by_contra hne
  rw [atMostOne_of_ne_nil hne] at h
  cases hone : exactlyOne kind name found with
  | ok a =>
    rw [hone] at h
    cases h
  | error e =>
    rw [hone] at h
    cases h

theorem atMostOne_eq_some {a : α} (h : atMostOne kind name found = .ok (some a)) :
    found = [a] := by
  have hne : found ≠ [] := fun hnil => by
    rw [hnil] at h
    cases h
  rw [atMostOne_of_ne_nil hne] at h
  cases hone : exactlyOne kind name found with
  | ok b =>
    rw [hone] at h
    cases h
    exact exactlyOne_eq_ok.mp hone
  | error e =>
    rw [hone] at h
    cases h

theorem atMostOne_isSome {o : Option α} (h : atMostOne kind name found = .ok o) :
    o.isSome = !found.isEmpty := by
  cases o with
  | none =>
    rw [atMostOne_eq_none h]
    rfl
  | some a =>
    rw [atMostOne_eq_some h]
    rfl

theorem atMostOne_eq_error {e : ReconcileError} (h : atMostOne kind name found = .error e) :
    1 < found.length := by
  have hne : found ≠ [] := fun hnil => by
    rw [hnil] at h
    cases h
  rw [atMostOne_of_ne_nil hne] at h
  cases hone : exactlyOne kind name found with
  | ok b =>
    rw [hone] at h
    cases h
  | error e' =>
    have hlength := exactlyOne_eq_error hone
    have hpos := List.length_pos_of_ne_nil hne
    omega

theorem atMostOne_error {e : ReconcileError} (h : atMostOne kind name found = .error e) :
    e = .preconditionViolation kind name found.length := by
  cases found with
  | nil => cases h
  | cons a as =>
    cases as with
    | nil => cases h
    | cons b bs =>
      cases h
      rfl

end

/-! ## calls and what comes after them -/

namespace Reconciler
variable {β : Type} {sink : Sink} {settings : Settings} {s : Store} {good : β → Store → Prop}
  {bad : ReconcileError → Store → Prop}

theorem ask_bind {c : Call} {f : c.Answer → Run Store β}
    (hf : ∀ a t, Store.answer c s = (.ok a, t) → (f a).Ends t good bad)
    (hbad : ∀ e t, Store.answer c s = (.error e, t) → bad (.remote e) t) :
    ((inMemory sink settings).ask c >>= f).Ends s good bad := by
  have h : ((inMemory sink settings).ask c).Ends s
      (fun a t => Store.answer c s = (.ok a, t)) bad := ask_ends (fun _ _ ha => ha) hbad
  exact h.bind hf

theorem findRuleGroups_bind {name : String} {f : List RuleGroup → Run Store β}
    (hf : (f (s.ruleGroupsNamed name)).Ends s good bad) :
    ((inMemory sink settings).ask (.findRuleGroups name) >>= f).Ends s good bad := by
  refine ask_bind (fun a t ha => ?_) (fun e t he => ?_)
  · cases ha
    exact hf
  · cases he

theorem findRelyingParties_bind {name : String} {f : List RelyingParty → Run Store β}
    (hf : (f (s.relyingPartiesNamed name)).Ends s good bad) :
    ((inMemory sink settings).ask (.findRelyingParties name) >>= f).Ends s good bad := by
  refine ask_bind (fun a t ha => ?_) (fun e t he => ?_)
  · cases ha
    exact hf
  · cases he

theorem findKeys_bind {name : String} {f : List Key → Run Store β}
    (hf : (f (s.keysNamed name)).Ends s good bad) :
    ((inMemory sink settings).ask (.findKeys name) >>= f).Ends s good bad := by
  refine ask_bind (fun a t ha => ?_) (fun e t he => ?_)
  · cases ha
    exact hf
  · cases he

/-- a write fails for a reason and leaves the store alone, or does what it says -/
theorem write_bind {c : Call} {x : Except StoreError (c.Answer × Store)} {f : c.Answer → Run Store β}
    (hc : Store.answer c s = Store.settle s x) (hf : ∀ a t, x = .ok (a, t) → (f a).Ends t good bad)
    (hbad : (∀ a t, x ≠ .ok (a, t)) → ∀ e, bad (.remote e) s) :
    ((inMemory sink settings).ask c >>= f).Ends s good bad := by
  refine ask_bind (fun a t ha => ?_) (fun e t he => ?_)
  · rw [hc] at ha
    cases x with
    | error e => cases ha
    | ok r =>
      cases ha
      exact hf r.1 r.2 rfl
  · rw [hc] at he
    cases x with
    | error e' =>
      cases he
      exact hbad (fun a t h => by cases h) _
    | ok r => cases he

theorem delete_bind {kind : ResourceKind} {id : Id} {f : Unit → Run Store β}
    (hf : ¬ s.Fails .delete → (f ()).Ends (s.queueAll [.delete kind id]) good bad)
    (hbad : s.Fails .delete → ∀ e, bad (.remote e) s) :
    ((inMemory sink settings).ask (.delete kind id) >>= f).Ends s good bad := by
  refine write_bind (c := .delete kind id) (x := s.delete kind id) rfl (fun a t h => ?_)
    (fun h => hbad ?_)
  · obtain ⟨hnot, rfl⟩ := Store.delete_eq_ok.mp h
    exact hf hnot
  · by_contra hnot
    exact h () _ (Store.delete_eq_ok.mpr ⟨hnot, rfl⟩)

theorem link_bind {new : Link.Draft} {f : Unit → Run Store β}
    (hf : ¬ s.Fails .link → (f ()).Ends (s.queueAll [.link new]) good bad)
    (hbad : s.Fails .link → ∀ e, bad (.remote e) s) :
    ((inMemory sink settings).ask (.link new) >>= f).Ends s good bad := by
  refine write_bind (c := .link new) (x := s.link new) rfl (fun a t h => ?_) (fun h => hbad ?_)
  · obtain ⟨hnot, rfl⟩ := Store.link_eq_ok.mp h
    exact hf hnot
  · by_contra hnot
    exact h () _ (Store.link_eq_ok.mpr ⟨hnot, rfl⟩)

theorem addRuleGroup_bind {new : RuleGroup.Draft} {f : Id → Run Store β}
    (hf : new.name ≠ "" → (∀ g ∈ s.ruleGroups, g.name ≠ new.name) →
      ∀ id, (f id).Ends ((s.insertRuleGroup new).2.record (.addRuleGroup new)) good bad)
    (hbad : (¬ s.Fails .addRuleGroup → new.name ≠ "" →
      ¬ ∀ g ∈ s.ruleGroups, g.name ≠ new.name) → ∀ e, bad (.remote e) s) :
    ((inMemory sink settings).ask (.addRuleGroup new) >>= f).Ends s good bad := by
  refine write_bind (c := .addRuleGroup new) (x := s.addRuleGroup new) rfl (fun a t h => ?_)
    (fun h => hbad ?_)
  · obtain ⟨-, hname, hnew, -, rfl⟩ := Store.addRuleGroup_eq_ok.mp h
    exact hf hname hnew a
  · exact fun hnot hname hnew => h _ _ (Store.addRuleGroup_eq_ok.mpr ⟨hnot, hname, hnew, rfl, rfl⟩)

theorem addRule_bind {new : Rule.Draft} {f : Id → Run Store β}
    (hf : ∀ id, (f id).Ends ((s.insertRule new).2.record (.addRule new)) good bad)
    (hbad : (¬ s.Fails .addRule → (∃ g ∈ s.ruleGroups, g.id = new.ruleGroup) →
      new.inputClaimType = "") → ∀ e, bad (.remote e) s) :
    ((inMemory sink settings).ask (.addRule new) >>= f).Ends s good bad := by
  refine write_bind (c := .addRule new) (x := s.addRule new) rfl (fun a t h => ?_) (fun h => hbad ?_)
  · obtain ⟨-, -, -, -, rfl⟩ := Store.addRule_eq_ok.mp h
    exact hf a
  · intro hnot hgroup
    by_contra htype
    exact h _ _ (Store.addRule_eq_ok.mpr ⟨hnot, hgroup, htype, rfl, rfl⟩)

theorem addRelyingParty_bind {new : RelyingParty.Draft} {f : Id → Run Store β}
    (hf : (∀ p ∈ s.relyingParties, p.name ≠ new.name) →
      ∀ id, (f id).Ends ((s.insertRelyingParty new).2.record (.addRelyingParty new)) good bad)
    (hbad : (¬ s.Fails .addRelyingParty → new.name ≠ "" → new.realmAddress ≠ "" →
      ¬ ∀ p ∈ s.relyingParties, p.name ≠ new.name) → ∀ e, bad (.remote e) s) :
    ((inMemory sink settings).ask (.addRelyingParty new) >>= f).Ends s good bad := by
  refine write_bind (c := .addRelyingParty new) (x := s.addRelyingParty new) rfl (fun a t h => ?_)
    (fun h => hbad ?_)
  · obtain ⟨-, -, -, hnew, -, rfl⟩ := Store.addRelyingParty_eq_ok.mp h
    exact hf hnew a
  · exact fun hnot hname hrealm hnew =>
      h _ _ (Store.addRelyingParty_eq_ok.mpr ⟨hnot, hname, hrealm, hnew, rfl, rfl⟩)

theorem removeRelyingParty_bind {id : Id} {f : Unit → Run Store β}
    (hf : (f ()).Ends ((s.remove .relyingParty id).record (.removeRelyingParty id)) good bad)
    (hbad : (¬ s.Fails .removeRelyingParty → ¬ ∃ p ∈ s.relyingParties, p.id = id) →
      ∀ e, bad (.remote e) s) :
    ((inMemory sink settings).ask (.removeRelyingParty id) >>= f).Ends s good bad := by
  refine write_bind (c := .removeRelyingParty id) (x := s.removeRelyingParty id) rfl
    (fun a t h => ?_) (fun h => hbad ?_)
  · obtain ⟨-, -, rfl⟩ := Store.removeRelyingParty_eq_ok.mp h
    exact hf
  · exact fun hnot hp => h () _ (Store.removeRelyingParty_eq_ok.mpr ⟨hnot, hp, rfl⟩)

/-- a commit is made, fails, or is rejected with its batch -/
theorem saveChanges_ends {good : Unit → Store → Prop}
    (hgood : s.checkBatch s.queue = .ok () → good () s.committed)
    (hfail : s.Fails .saveChanges → ∀ e, bad (.remote e) s)
    (hreject : ∀ fault : BatchFault, s.checkBatch s.queue = .error fault →
      bad (.remote fault.error) { s with queue := [] }) :
    (inMemory sink settings).saveChanges.Ends s good bad := by
  have hask : ((inMemory sink settings).ask .saveChanges).Ends s (fun _ t => good () t) bad := by
    refine ask_ends (fun a t ha => ?_) (fun e t he => ?_)
    · have ha : s.saveChanges = (.ok a, t) := ha
      by_cases hf : s.Fails .saveChanges
      · rw [Store.saveChanges_fails hf] at ha
        cases ha
      · cases hc : s.checkBatch s.queue with
        | error fault =>
          rw [Store.saveChanges_rejected hf hc] at ha
          cases ha
        | ok u =>
          rw [Store.saveChanges_accepted hf hc] at ha
          cases ha
          exact hgood hc
    · have he : s.saveChanges = (.error e, t) := he
      by_cases hf : s.Fails .saveChanges
      · rw [Store.saveChanges_fails hf] at he
        cases he
        exact hfail hf _
      · cases hc : s.checkBatch s.queue with
        | error fault =>
          rw [Store.saveChanges_rejected hf hc] at he
          cases he
          exact hreject fault hc
        | ok u =>
          rw [Store.saveChanges_accepted hf hc] at he
          cases he
  exact hask.bind fun _ t ht => (recordReport_quiet _).bind ((note_quiet _).bind
    ((emit_quiet _ _).ends ht))

end Reconciler
end AccessControl
