import AccessControl.Proofs.Contents.Snapshot
import AccessControl.Proofs.Store.Contents

/-!
# Snapshots and contents

A snapshot of a store is that of its contents (`snapshot_eq`).  So stores with the same contents have the
same snapshot (`snapshot_congr`).

* `snapshotRelyingParty_view`   a snapshot lists what belongs to a relying party as the store shows it;
* `sortedRuleGroups_names`      a listing has the names in the order in which a snapshot has them.
-/

namespace AccessControl.Store

/-! ## records -/

/-- links in the order of the names that they show -/
theorem linksOf_names (s : Store) (id : Id) :
    (s.linksOf id).map (·.ruleGroupName) = sortNames (s.linkedIn id) := by
  unfold linksOf sortNames linkedIn
  rw [List.map_mergeSort (s := fun a b => decide (a ≤ b)) fun _ _ _ _ => rfl, List.map_map]
  rfl

theorem snapshotRuleGroup_eq (s : Store) (g : RuleGroup) :
    s.snapshotRuleGroup g = (s.ruleGroupContent g).snapshot := by
  unfold snapshotRuleGroup RuleGroup.Content.snapshot ruleGroupContent rulesIn
  rw [List.map_map]
  rfl

theorem snapshotRelyingParty_eq (s : Store) (p : RelyingParty.Stored) :
    s.snapshotRelyingParty p = (s.relyingPartyContent p).snapshot := by
  have hkeys : (s.keysOf p.id).map (·.displayName)
      = (s.keysIn p.id).map (·.displayName) := by
    unfold keysIn
    rw [List.map_map]
    rfl
  unfold snapshotRelyingParty
  rw [linksOf_names, sortNames_congr (sortNames_perm _), hkeys]
  rfl

/-- a snapshot lists the links and the keys of a relying party in the order in which they are torn
down -/
theorem snapshotRelyingParty_view (s : Store) (p : RelyingParty.Stored) :
    s.snapshotRelyingParty p = ⟨p.toProfile, (s.view p).links.map (·.ruleGroupName),
      (s.view p).keys.map (·.displayName)⟩ := by
  have hlinks : sortNames ((s.linksOf p.id).map (·.ruleGroupName))
      = (s.linksOf p.id).map (·.ruleGroupName) := by
    rw [linksOf_names, sortNames_congr (sortNames_perm _)]
  have hkeys : (s.view p).keys.map (·.displayName)
      = sortNames ((s.keysOf p.id).map (·.displayName)) := by
    unfold view sortNames
    rw [List.map_mergeSort (s := fun a b => decide (a ≤ b)) fun _ _ _ _ => rfl]
  unfold snapshotRelyingParty
  rw [hlinks, ← hkeys]
  rfl

/-! ## snapshots -/

theorem snapshot_eq (s : Store) : s.snapshot = s.contents.snapshot := by
  have hparties : s.relyingParties.map s.snapshotRelyingParty
      = s.contents.relyingParties.map (·.snapshot) := by
    show _ = (s.relyingParties.map s.relyingPartyContent).map _
    rw [List.map_map]
    exact List.map_congr_left fun p _ => s.snapshotRelyingParty_eq p
  have hgroups : s.ruleGroups.map s.snapshotRuleGroup
      = s.contents.ruleGroups.map (·.snapshot) := by
    show _ = (s.ruleGroups.map s.ruleGroupContent).map _
    rw [List.map_map]
    exact List.map_congr_left fun g _ => s.snapshotRuleGroup_eq g
  unfold snapshot Contents.snapshot
  rw [hparties, hgroups]

theorem snapshot_congr {s t : Store} (h : s.contents = t.contents) : s.snapshot = t.snapshot := by
  rw [snapshot_eq, snapshot_eq, h]

/-! ## what a snapshot has in order -/

theorem snapshot_relyingPartiesNamed (s : Store) (name : String) :
    (s.snapshot.relyingPartiesNamed name).Perm
      ((s.relyingParties.filter (·.name = name)).map s.snapshotRelyingParty) := by
  unfold Snapshot.relyingPartiesNamed snapshot
  refine ((List.mergeSort_perm _ _).filter _).trans (.of_eq ?_)
  rw [List.filter_map]
  rfl

theorem length_snapshot (s : Store) : s.snapshot.ruleGroups.length = s.ruleGroups.length :=
  (List.length_mergeSort _).trans (List.length_map _)

theorem contents_names (s : Store) :
    s.contents.ruleGroups.map (·.name) = s.ruleGroups.map (·.name) :=
  List.map_map ..

theorem sortNames_ruleGroups (s : Store) :
    sortNames (s.ruleGroups.map (·.name)) = s.snapshot.ruleGroups.map (·.name) := by
  rw [s.snapshot_eq, Contents.sortNames_snapshot, contents_names]

theorem ruleGroupLe_iff (a b : RuleGroup) : ruleGroupLe a b = true
    ↔ toLex (a.name, a.id.number) ≤ toLex (b.name, b.id.number) := by
  rw [Prod.Lex.toLex_le_toLex]
  simp [ruleGroupLe, Id.le]

/-- identities only tell rule groups of one name apart -/
theorem sortedRuleGroups_names (s : Store) :
    s.sortedRuleGroups.map (·.name) = sortNames (s.ruleGroups.map (·.name)) := by
  apply eq_sortNames ((List.mergeSort_perm _ _).map _)
  rw [List.pairwise_map]
  refine (pairwise_mergeSort_key ruleGroupLe_iff s.ruleGroups).imp ?_
  exact fun h => Prod.Lex.monotone_fst _ _ h

end AccessControl.Store
