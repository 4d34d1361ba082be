import AccessControl.Check
import AccessControl.Proofs.Reconcile.Ends
import AccessControl.Proofs.Store.Snapshot

/-!
# Checks and snapshots

A check asks a store by name, and a snapshot shows everything without identities.  They agree on every
store, whatever names are shared and wherever links lead (`Store.checks_shown`).

* `Client.Reads`                   a client that gets an answer and leaves the session alone;
* `snapshot_relyingParties_shown`  a snapshot has the relying parties that are found by a name;
* `snapshot_ruleGroups_shown`      the same for rule groups, and `rules_shown` for their rules.
-/

namespace AccessControl

/-! ## reading -/

/-- the client gets this answer, the store stays as it is, and nothing is told -/
def Client.Reads {α : Type} (m : Client Store α) (s : Store) (a : α) : Prop :=
  ∀ notes, m ⟨s, notes⟩ = (.ok a, ⟨s, notes⟩)

namespace Client.Reads
variable {α β : Type} {m : Client Store α} {f : α → Client Store β} {s : Store} {a : α} {b : β}

theorem pure (a : α) : (Pure.pure a : Client Store α).Reads s a := fun _ => rfl

theorem bind (hm : m.Reads s a) (hf : (f a).Reads s b) : (m >>= f).Reads s b := fun notes =>
  (bind_of_ok (hm notes)).trans (hf notes)

end Client.Reads

namespace Store
variable (s : Store)

theorem ask_reads {c : Call} {a : c.Answer} (h : answer c s = (.ok a, s)) (hnotes : notes c a = []) :
    (backend.ask c).Reads s a := by
  intro told
  have hanswer : backend.answer c s = (.ok a, s) := h
  unfold Backend.ask Backend.settle
  rw [hanswer]
  show (Except.ok a, (⟨s, told ++ notes c a⟩ : Session Store)) = _
  rw [hnotes, List.append_nil]

theorem findRelyingParties_reads (name : String) :
    (backend.ask (.findRelyingParties name)).Reads s (s.relyingPartiesNamed name) :=
  s.ask_reads rfl rfl

theorem findRuleGroups_reads (name : String) :
    (backend.ask (.findRuleGroups name)).Reads s (s.ruleGroupsNamed name) :=
  s.ask_reads rfl rfl

theorem rules_reads (id : Id) : (backend.ask (.rules id)).Reads s (s.rulesOf id) :=
  s.ask_reads rfl rfl

theorem rulesOfAll_reads (groups : List RuleGroup) :
    (backend.rulesOfAll groups).Reads s (groups.flatMap fun g => s.rulesOf g.id) := by
  induction groups with
  | nil => exact .pure []
  | cons group groups ih => exact (s.rules_reads group.id).bind (ih.bind (.pure _))

end Store

/-! ## what a snapshot shows -/

/-- the relying party as a snapshot shows it -/
def RelyingParty.shown (p : RelyingParty) : RelyingParty.Snapshot :=
  ⟨p.toProfile, p.links.map (·.ruleGroupName), p.keys.map (·.displayName)⟩

namespace Store
variable (s : Store)

theorem snapshot_relyingParties_shown (name : String) :
    (s.snapshot.relyingPartiesNamed name).Perm ((s.relyingPartiesNamed name).map (·.shown)) := by
  refine (s.snapshot_relyingPartiesNamed name).trans (.of_eq ?_)
  unfold relyingPartiesNamed
  rw [List.map_map]
  exact List.map_congr_left fun p _ => s.snapshotRelyingParty_view p

theorem snapshot_ruleGroups_shown (name : String) :
    (s.snapshot.ruleGroups.filter (·.name = name)).Perm
      ((s.ruleGroupsNamed name).map s.snapshotRuleGroup) := by
  have hsorted : (s.ruleGroupsNamed name).Perm (s.ruleGroups.filter (·.name = name)) :=
    (List.mergeSort_perm _ _).filter _
  refine (((List.mergeSort_perm _ _).filter _).trans (.of_eq ?_)).trans (hsorted.map _).symm
  rw [List.filter_map]
  rfl

/-- the rules of some rule groups, in another order within each of them -/
theorem rules_shown (groups : List RuleGroup) :
    ((groups.flatMap fun g => s.rulesOf g.id).map (·.arrow)).Perm
      ((groups.map s.snapshotRuleGroup).flatMap (·.rules)) := by
  rw [List.map_flatMap, List.flatMap_map]
  exact List.Perm.flatMap_left _ fun g _ => (sortNames_perm _).symm

/-! ## what checks answer -/

/-- a lookup finds nothing if nothing is shown -/
theorem not_isEmpty_of_shown {α β : Type} {f : α → β} {found : List α} {shown : List β}
    (h : shown.Perm (found.map f)) : (!found.isEmpty) = true ↔ ∃ b, b ∈ shown := by
  rw [Bool.not_eq_true', List.isEmpty_eq_false_iff, ← List.length_pos_iff, ← List.length_map f,
    ← h.length_eq, List.length_pos_iff_exists_mem]

theorem relyingPartyExists_shown (name : String) :
    ∃ found, (backend.relyingPartyExists name).Reads s found
      ∧ (found = true ↔ ∃ p ∈ s.snapshot.relyingParties, p.name = name) := by
  refine ⟨_, (s.findRelyingParties_reads name).bind (.pure _), ?_⟩
  calc (!(s.relyingPartiesNamed name).isEmpty) = true
      ↔ ∃ p, p ∈ s.snapshot.relyingPartiesNamed name :=
        not_isEmpty_of_shown (s.snapshot_relyingParties_shown name)
    _ ↔ ∃ p ∈ s.snapshot.relyingParties, p.name = name := by
        simp [Snapshot.relyingPartiesNamed]

theorem ruleGroupExists_shown (name : String) :
    (backend.ruleGroupExists name).Reads s (s.snapshot.ruleGroup? name).isSome := by
  have hfound : (!(s.ruleGroupsNamed name).isEmpty) = (s.snapshot.ruleGroup? name).isSome := by
    rw [Bool.eq_iff_iff, not_isEmpty_of_shown (s.snapshot_ruleGroups_shown name)]
    simp [Snapshot.ruleGroup?]
  rw [← hfound]
  exact (s.findRuleGroups_reads name).bind (.pure _)

theorem isLinked_shown (relyingParty ruleGroup : String) :
    ∃ linked, (backend.isLinked relyingParty ruleGroup).Reads s linked
      ∧ (linked = true ↔ ∃ p ∈ s.snapshot.relyingPartiesNamed relyingParty,
        ruleGroup ∈ p.ruleGroups) := by
  refine ⟨_, (s.findRelyingParties_reads relyingParty).bind (.pure _), ?_⟩
  have hshown := s.snapshot_relyingParties_shown relyingParty
  calc ((s.relyingPartiesNamed relyingParty).any fun p =>
        p.links.any (·.ruleGroupName = ruleGroup)) = true
      ↔ ∃ p ∈ s.relyingPartiesNamed relyingParty, ruleGroup ∈ p.shown.ruleGroups := by
        simp [RelyingParty.shown]
    _ ↔ ∃ p ∈ (s.relyingPartiesNamed relyingParty).map (·.shown), ruleGroup ∈ p.ruleGroups := by
        simp
    _ ↔ ∃ p ∈ s.snapshot.relyingPartiesNamed relyingParty, ruleGroup ∈ p.ruleGroups := by
        simp only [hshown.mem_iff]

theorem keyCount_shown (name : String) : (backend.keyCount name).Reads s
    ((s.snapshot.relyingPartiesNamed name).flatMap (·.keys)).length := by
  have hshown := (s.snapshot_relyingParties_shown name).flatMap_right (·.keys)
  have hcount : ((s.relyingPartiesNamed name).flatMap (·.keys)).length
      = ((s.snapshot.relyingPartiesNamed name).flatMap (·.keys)).length := by
    rw [hshown.length_eq, List.flatMap_map, List.length_flatMap, List.length_flatMap]
    simp [RelyingParty.shown]
  rw [← hcount]
  exact (s.findRelyingParties_reads name).bind (.pure _)

theorem rulesNamed_shown (name : String) : ∃ rules, (backend.rulesNamed name).Reads s rules
    ∧ (rules.map (·.arrow)).Perm
      ((s.snapshot.ruleGroups.filter (·.name = name)).flatMap (·.rules)) := by
  refine ⟨_, (s.findRuleGroups_reads name).bind (s.rulesOfAll_reads _), ?_⟩
  exact (s.rules_shown _).trans ((s.snapshot_ruleGroups_shown name).flatMap_right _).symm

/-- Every check answers what the snapshot shows, on every store and for all names.  A name may be shared,
and a link that leads nowhere shows the empty name. -/
theorem checks_shown (relyingParty ruleGroup : String) :
    (∃ found, (backend.relyingPartyExists relyingParty).Reads s found
      ∧ (found = true ↔ ∃ p ∈ s.snapshot.relyingParties, p.name = relyingParty))
    ∧ (backend.ruleGroupExists ruleGroup).Reads s (s.snapshot.ruleGroup? ruleGroup).isSome
    ∧ (∃ linked, (backend.isLinked relyingParty ruleGroup).Reads s linked
      ∧ (linked = true ↔ ∃ p ∈ s.snapshot.relyingPartiesNamed relyingParty,
        ruleGroup ∈ p.ruleGroups))
    ∧ (backend.keyCount relyingParty).Reads s
      ((s.snapshot.relyingPartiesNamed relyingParty).flatMap (·.keys)).length
    ∧ ∃ rules, (backend.rulesNamed ruleGroup).Reads s rules
      ∧ (rules.map (·.arrow)).Perm
        ((s.snapshot.ruleGroups.filter (·.name = ruleGroup)).flatMap (·.rules)) :=
  ⟨s.relyingPartyExists_shown relyingParty, s.ruleGroupExists_shown ruleGroup,
    s.isLinked_shown relyingParty ruleGroup, s.keyCount_shown relyingParty,
    s.rulesNamed_shown ruleGroup⟩

end Store
end AccessControl
