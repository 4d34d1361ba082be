import AccessControl.Proofs.Store.Steps
import Mathlib.Data.List.Induction

/-!
# The integrity of a store in use

A store that has only been used through its calls never holds a dangling reference, an empty name or a
name twice, however the calls follow one another and whichever of them are made to fail.

* `Action`              what a user of a store can do, seeding apart;
* `Store.after`         the store after some actions, fresh at first;
* `Store.Tidy`          names, claim types and links are as the checks of the calls demand; every step
                        keeps this (`Tidy.step`);
* `Store.Consistent`    nothing dangles, nothing is nameless or there twice, and every record is found
                        under its identity; this holds after any actions (`consistent_after`).
-/

namespace AccessControl

/-- a lookup by the identity of a record finds that record -/
def Indexed {α : Type} (id : α → Id) (records : List α) : Prop :=
  ∀ a ∈ records, records.find? (id · = id a) = some a

theorem indexed_of_nodup {α : Type} {id : α → Id} {records : List α}
    (h : (records.map id).Nodup) : Indexed id records := by
  intro a ha
  cases hf : records.find? (id · = id a) with
  | none => exact absurd (List.find?_eq_none.mp hf a ha) (by simp)
  | some b =>
    have hid : id b = id a := by simpa using List.find?_some hf
    rw [List.inj_on_of_nodup_map h (List.mem_of_find?_eq_some hf) ha hid]

/-- a new value at the end of a list without repetition -/
theorem nodup_map_append {α β : Type} {l : List α} {f : α → β} {a : α} (h : (l.map f).Nodup)
    (hnew : ∀ b ∈ l, f b ≠ f a) : ((l ++ [a]).map f).Nodup := by
  rw [List.map_append, List.map_singleton, List.nodup_append]
  refine ⟨h, List.nodup_singleton _, fun b hb c hc => ?_⟩
  obtain ⟨b', hb', rfl⟩ := List.mem_map.mp hb
  rw [List.mem_singleton.mp hc]
  exact hnew b' hb'

theorem forall_mem_append_singleton {α : Type} {l : List α} {a : α} {P : α → Prop}
    (h : ∀ b ∈ l, P b) (ha : P a) : ∀ b ∈ l ++ [a], P b := by
  intro b hb
  rcases List.mem_append.mp hb with hb | hb
  · exact h b hb
  · rw [List.mem_singleton.mp hb]
    exact ha

inductive Action where
  | call (c : Call)
  | failOn (op : Operation)
  | clearFailures
  deriving DecidableEq

namespace Store

def perform (s : Store) : Action → Store
  | .call c => (answer c s).2
  | .failOn op => s.failOn op
  | .clearFailures => s.clearFailures

/-- the store that a fresh one has become -/
def after (pageSize : Nat) (actions : List Action) : Store :=
  actions.foldl perform { pageSize := pageSize }

structure Tidy (s : Store) : Prop where
  relyingPartyNames : (s.relyingParties.map (·.name)).Nodup
  relyingPartyFilled : ∀ p ∈ s.relyingParties, p.name ≠ "" ∧ p.realmAddress ≠ ""
  ruleGroupNames : (s.ruleGroups.map (·.name)).Nodup
  ruleGroupFilled : ∀ g ∈ s.ruleGroups, g.name ≠ ""
  ruleFilled : ∀ r ∈ s.rules, r.inputClaimType ≠ ""
  linkPairs : (s.links.map (·.toDraft)).Nodup

structure Consistent (s : Store) : Prop extends s.Closed, s.Tidy where
  relyingPartyIndexed : Indexed (·.id) s.relyingParties
  ruleGroupIndexed : Indexed (·.id) s.ruleGroups
  ruleIndexed : Indexed (·.id) s.rules
  keyIndexed : Indexed (·.id) s.keys
  linkIndexed : Indexed (·.id) s.links

/-! ## what steps keep -/

theorem rules_remove (s : Store) (kind : ResourceKind) (id : Id) :
    (s.remove kind id).rules.Sublist s.rules := by
  cases kind with
  | ruleGroup => exact List.filter_sublist
  | rule => exact List.filter_sublist
  | relyingParty => exact .refl _
  | relyingPartyKey => exact .refl _
  | ruleGroupLink => exact .refl _

namespace Tidy
variable {s t u : Store}

theorem fresh (pageSize : Nat) : Tidy { pageSize := pageSize } where
  relyingPartyNames := List.nodup_nil
  relyingPartyFilled := fun _ h => absurd h List.not_mem_nil
  ruleGroupNames := List.nodup_nil
  ruleGroupFilled := fun _ h => absurd h List.not_mem_nil
  ruleFilled := fun _ h => absurd h List.not_mem_nil
  linkPairs := List.nodup_nil

/-- keys, the queue, the journal and the injected failures do not matter -/
theorem congr (h : s.Tidy) (heq : t = { s with
    keys := t.keys, created := t.created, queue := t.queue, journal := t.journal,
    failing := t.failing, pageSize := t.pageSize }) : t.Tidy := by
  rw [heq]
  exact ⟨h.1, h.2, h.3, h.4, h.5, h.6⟩

theorem remove (h : s.Tidy) (kind : ResourceKind) (id : Id) : (s.remove kind id).Tidy where
  relyingPartyNames := h.relyingPartyNames.sublist ((s.remove_relyingParties kind id).map _)
  relyingPartyFilled := fun p hp => h.relyingPartyFilled p ((s.remove_relyingParties kind id).subset hp)
  ruleGroupNames := h.ruleGroupNames.sublist ((s.remove_ruleGroups kind id).map _)
  ruleGroupFilled := fun g hg => h.ruleGroupFilled g ((s.remove_ruleGroups kind id).subset hg)
  ruleFilled := fun r hr => h.ruleFilled r ((s.rules_remove kind id).subset hr)
  linkPairs := h.linkPairs.sublist ((s.links_remove kind id).map _)

theorem removeIfPresent (h : s.Tidy) (kind : ResourceKind) (id : Id) :
    (s.removeIfPresent kind id).Tidy := by
  unfold Store.removeIfPresent
  split
  · exact h.remove kind id
  · exact h

theorem insertRelyingParty (h : s.Tidy) {new : RelyingParty.Draft} (hname : new.name ≠ "")
    (hrealm : new.realmAddress ≠ "") (hnew : ∀ p ∈ s.relyingParties, p.name ≠ new.name) :
    (s.insertRelyingParty new).2.Tidy := by
  obtain ⟨keys, heq, -⟩ := s.insertRelyingParty_frame new
  rw [heq]
  exact ⟨nodup_map_append h.relyingPartyNames hnew,
    forall_mem_append_singleton h.relyingPartyFilled ⟨hname, hrealm⟩, h.ruleGroupNames,
    h.ruleGroupFilled, h.ruleFilled, h.linkPairs⟩

theorem insertRuleGroup (h : s.Tidy) {new : RuleGroup.Draft} (hname : new.name ≠ "")
    (hnew : ∀ g ∈ s.ruleGroups, g.name ≠ new.name) : (s.insertRuleGroup new).2.Tidy :=
  ⟨h.relyingPartyNames, h.relyingPartyFilled, nodup_map_append h.ruleGroupNames hnew,
    forall_mem_append_singleton h.ruleGroupFilled hname, h.ruleFilled, h.linkPairs⟩

theorem insertRule (h : s.Tidy) {new : Rule.Draft} (htype : new.inputClaimType ≠ "") :
    (s.insertRule new).2.Tidy :=
  ⟨h.relyingPartyNames, h.relyingPartyFilled, h.ruleGroupNames, h.ruleGroupFilled,
    forall_mem_append_singleton h.ruleFilled htype, h.linkPairs⟩

theorem insertLink (h : s.Tidy) {l : Link.Draft} (hnew : ∀ l' ∈ s.links, l'.toDraft ≠ l) :
    (s.insertLink l).2.Tidy :=
  ⟨h.relyingPartyNames, h.relyingPartyFilled, h.ruleGroupNames, h.ruleGroupFilled, h.ruleFilled,
    nodup_map_append h.linkPairs hnew⟩

/-- `u` is what the first changes of an accepted batch have made of `s`: every link that it holds is
known to the check, as one of `s` or as one of the batch -/
theorem applyBatch {deleted : List Id} {linked : List Link.Draft} {batch : List Change}
    (h : u.Tidy) (hlinks : ∀ l ∈ u.links, s.isLinked l.toDraft = true ∨ l.toDraft ∈ linked)
    (hc : s.checkChanges deleted linked batch = .ok ()) : (u.applyBatch batch).Tidy := by
  induction batch generalizing u deleted linked with
  | nil => exact h
  | cons c batch ih =>
    cases c with
    | delete kind id =>
      have hsub := u.links_removeIfPresent kind id
      exact ih (h.removeIfPresent kind id) (fun l hl => hlinks l (hsub.subset hl))
        (checkChanges_delete.mp hc).2.2
    | link l =>
      obtain ⟨-, -, ⟨hunlinked, hnew⟩, hrest⟩ := checkChanges_link.mp hc
      have hfresh : ∀ l' ∈ u.links, l'.toDraft ≠ l := by
        intro l' hl' heq
        rcases hlinks l' hl' with hold | hmem
        · rw [heq, hunlinked] at hold
          cases hold
        · exact hnew (heq ▸ hmem)
      refine ih (u := (u.insertLink l).2) (h.insertLink hfresh) ?_ hrest
      refine forall_mem_append_singleton (fun l' hl' => ?_) (.inr List.mem_cons_self)
      exact (hlinks l' hl').imp_right (List.mem_cons_of_mem _)

theorem committed (h : s.Tidy) (hc : s.checkBatch s.queue = .ok ()) : s.committed.Tidy := by
  have hq : ({ s with queue := [] } : Store).Tidy := h.congr rfl
  have hlinks : ∀ l ∈ s.links, s.isLinked l.toDraft = true ∨ l.toDraft ∈ [] := by
    intro l hl
    exact .inl (List.any_eq_true.mpr ⟨l, hl, decide_eq_true rfl⟩)
  exact (hq.applyBatch (s := s) hlinks hc).congr rfl

theorem step (h : s.Tidy) (hstep : s.Step t) : t.Tidy := by
  cases hstep with
  | none => exact h
  | addRelyingParty new hname hnew hrealm =>
    exact (h.insertRelyingParty hname hrealm hnew).congr rfl
  | removeRelyingParty id => exact (h.remove .relyingParty id).congr rfl
  | addRuleGroup new hname hnew => exact (h.insertRuleGroup hname hnew).congr rfl
  | addRule new hgroup htype => exact (h.insertRule htype).congr rfl
  | queue c => exact h.congr rfl
  | reject => exact h.congr rfl
  | commit hc => exact h.committed hc

end Tidy

theorem Sound.ruleIds {s : Store} (hs : s.Sound) : (s.rules.map (·.id)).Nodup :=
  (List.nodup_append.mp (List.nodup_append.mp (List.nodup_append.mp hs.distinct).2.1).2.1).1

theorem Sound.linkIds {s : Store} (hs : s.Sound) : (s.links.map (·.id)).Nodup :=
  (List.nodup_append.mp (List.nodup_append.mp (List.nodup_append.mp
    (List.nodup_append.mp hs.distinct).2.1).2.1).2.1).2.1

/-! ## after any actions -/

/-- all that an action can do, apart from the injected failures, is a step -/
theorem perform_induction {P : Store → Prop} (hstep : ∀ s t, s.Step t → P s → P t)
    (hfailing : ∀ s failing, P s → P { s with failing := failing }) {s : Store} (hs : P s)
    (a : Action) : P (s.perform a) := by
  cases a with
  | call c => exact hstep s _ (step_answer c s) hs
  | failOn op =>
    show P (s.failOn op)
    unfold failOn
    split
    · exact hs
    · exact hfailing s _ hs
  | clearFailures => exact hfailing s [] hs

theorem after_induction {P : Store → Prop} (hstep : ∀ s t, s.Step t → P s → P t)
    (hfailing : ∀ s failing, P s → P { s with failing := failing }) {pageSize : Nat}
    (hfresh : P { pageSize := pageSize }) (actions : List Action) : P (after pageSize actions) := by
  induction actions using List.reverseRecOn with
  | nil => exact hfresh
  | append_singleton actions a ih =>
    unfold after at ih ⊢
    rw [List.foldl_append]
    exact perform_induction hstep hfailing ih a

theorem consistent_after (pageSize : Nat) (actions : List Action) :
    (after pageSize actions).Consistent := by
  have hsound : (after pageSize actions).Sound :=
    after_induction (fun _ _ h hs => hs.step h) (fun _ _ hs => hs.congr rfl)
      (Reachable.fresh pageSize).sound actions
  have hclosed : (after pageSize actions).Closed :=
    after_induction (fun _ _ h hs => hs.step h) (fun _ _ hs => hs.congr rfl) (.fresh pageSize) actions
  have htidy : (after pageSize actions).Tidy :=
    after_induction (fun _ _ h hs => hs.step h) (fun _ _ hs => hs.congr rfl) (.fresh pageSize) actions
  exact {
    toClosed := hclosed
    toTidy := htidy
    relyingPartyIndexed := indexed_of_nodup hsound.relyingPartyIds
    ruleGroupIndexed := indexed_of_nodup hsound.ruleGroupIds
    ruleIndexed := indexed_of_nodup hsound.ruleIds
    keyIndexed := indexed_of_nodup hsound.keyIds
    linkIndexed := indexed_of_nodup hsound.linkIds }

end Store
end AccessControl
