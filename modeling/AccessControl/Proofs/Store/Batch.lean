import AccessControl.Proofs.Store.Reachable

/-!
# Accepted batches

A batch that passes the check can be applied change by change: what it deletes is there and what it
links is not deleted before.  So a commit keeps the references of a store whole (`Closed.committed`),
and with it every call does (`Closed.step`).
-/

namespace AccessControl.Store

theorem exists?_relyingParty {s : Store} {id : Id} :
    s.exists? .relyingParty id = true ↔ ∃ p ∈ s.relyingParties, p.id = id := by
  simp [exists?]

theorem exists?_ruleGroup {s : Store} {id : Id} :
    s.exists? .ruleGroup id = true ↔ ∃ g ∈ s.ruleGroups, g.id = id := by
  simp [exists?]

theorem exists?_relyingPartyKey {s : Store} {id : Id} :
    s.exists? .relyingPartyKey id = true ↔ ∃ k ∈ s.keys, k.id = id := by
  simp [exists?]

/-! ## what the check demands -/

section
variable {s : Store} {deleted : List Id} {linked : List Link.Draft} {batch : List Change}

theorem checkChanges_delete {kind : ResourceKind} {id : Id} :
    s.checkChanges deleted linked (.delete kind id :: batch) = .ok () ↔
      id ∉ deleted ∧ s.exists? kind id = true
        ∧ s.checkChanges (id :: deleted) linked batch = .ok () := by
  rw [checkChanges]
  split
  · grind
  · grind

theorem checkChanges_link {l : Link.Draft} :
    s.checkChanges deleted linked (.link l :: batch) = .ok () ↔
      (s.exists? .relyingParty l.relyingParty = true ∧ l.relyingParty ∉ deleted)
        ∧ (s.exists? .ruleGroup l.ruleGroup = true ∧ l.ruleGroup ∉ deleted)
        ∧ (s.isLinked l = false ∧ l ∉ linked)
        ∧ s.checkChanges deleted (l :: linked) batch = .ok () := by
  rw [checkChanges]
  split
  · grind
  · split
    · grind
    · grind

/-- things that exist can be deleted, each of them once -/
theorem checkChanges_deletes {kind : ResourceKind} {ids : List Id}
    (hexists : ∀ id ∈ ids, s.exists? kind id = true) (hids : ids.Nodup)
    (hdeleted : ∀ id ∈ ids, id ∉ deleted) :
    s.checkChanges deleted linked (ids.map (.delete kind)) = .ok () := by
  induction ids generalizing deleted with
  | nil => rfl
  | cons id ids ih =>
    obtain ⟨hid, hids⟩ := List.nodup_cons.mp hids
    refine checkChanges_delete.mpr ⟨hdeleted id List.mem_cons_self,
      hexists id List.mem_cons_self, ih (fun i hi => hexists i (List.mem_cons_of_mem _ hi)) hids ?_⟩
    intro i hi hmem
    rcases List.mem_cons.mp hmem with rfl | hmem
    · exact hid hi
    · exact hdeleted i (List.mem_cons_of_mem _ hi) hmem

theorem checkBatch_deletes {kind : ResourceKind} {ids : List Id}
    (hexists : ∀ id ∈ ids, s.exists? kind id = true) (hids : ids.Nodup) :
    s.checkBatch (ids.map (.delete kind)) = .ok () :=
  checkChanges_deletes hexists hids fun _ _ => List.not_mem_nil

/-- a relying party without links can be linked to rule groups that exist, to each of them once -/
theorem checkChanges_links {relyingParty : Id} {ids : List Id}
    (hparty : s.exists? .relyingParty relyingParty = true) (hkept : relyingParty ∉ deleted)
    (hfree : ∀ l ∈ s.links, l.relyingParty ≠ relyingParty)
    (hexists : ∀ id ∈ ids, s.exists? .ruleGroup id = true ∧ id ∉ deleted) (hids : ids.Nodup)
    (hlinked : ∀ id ∈ ids, ⟨relyingParty, id⟩ ∉ linked) :
    s.checkChanges deleted linked (ids.map fun id => .link ⟨relyingParty, id⟩) = .ok () := by
  induction ids generalizing linked with
  | nil => rfl
  | cons id ids ih =>
    obtain ⟨hid, hids⟩ := List.nodup_cons.mp hids
    have hunlinked : s.isLinked ⟨relyingParty, id⟩ = false := by
      refine List.any_eq_false.mpr fun l hl h => hfree l hl ?_
      rw [show l.relyingParty = l.toDraft.relyingParty from rfl, of_decide_eq_true h]
    refine checkChanges_link.mpr ⟨⟨hparty, hkept⟩, hexists id List.mem_cons_self,
      ⟨hunlinked, hlinked id List.mem_cons_self⟩,
      ih (fun i hi => hexists i (List.mem_cons_of_mem _ hi)) hids ?_⟩
    intro i hi hmem
    rcases List.mem_cons.mp hmem with heq | hmem
    · cases heq
      exact hid hi
    · exact hlinked i (List.mem_cons_of_mem _ hi) hmem

end

/-! ## applying an accepted batch -/

theorem mem_relyingParties_removeIfPresent {s : Store} {kind : ResourceKind} {id : Id}
    {p : RelyingParty.Stored} (hp : p ∈ s.relyingParties) (hid : p.id ≠ id) :
    p ∈ (s.removeIfPresent kind id).relyingParties := by
  unfold removeIfPresent
  split
  · cases kind with
    | relyingParty => exact List.mem_filter.mpr ⟨hp, decide_eq_true hid⟩
    | ruleGroup => exact hp
    | rule => exact hp
    | relyingPartyKey => exact hp
    | ruleGroupLink => exact hp
  · exact hp

theorem mem_ruleGroups_removeIfPresent {s : Store} {kind : ResourceKind} {id : Id}
    {g : RuleGroup} (hg : g ∈ s.ruleGroups) (hid : g.id ≠ id) :
    g ∈ (s.removeIfPresent kind id).ruleGroups := by
  unfold removeIfPresent
  split
  · cases kind with
    | ruleGroup => exact List.mem_filter.mpr ⟨hg, decide_eq_true hid⟩
    | relyingParty => exact hg
    | rule => exact hg
    | relyingPartyKey => exact hg
    | ruleGroupLink => exact hg
  · exact hg

/-- `s` is the store that the batch was checked against, `u` what has become of it by now: the
records that no earlier change deletes are still there -/
structure Remains (s : Store) (deleted : List Id) (u : Store) : Prop where
  relyingParty : ∀ p ∈ s.relyingParties, p.id ∉ deleted → p ∈ u.relyingParties
  ruleGroup : ∀ g ∈ s.ruleGroups, g.id ∉ deleted → g ∈ u.ruleGroups

theorem Remains.delete {s u : Store} {deleted : List Id} (h : s.Remains deleted u)
    (kind : ResourceKind) (id : Id) : s.Remains (id :: deleted) (u.removeIfPresent kind id) where
  relyingParty := fun p hp hd => by
    rw [List.mem_cons, not_or] at hd
    exact mem_relyingParties_removeIfPresent (h.relyingParty p hp hd.2) hd.1
  ruleGroup := fun g hg hd => by
    rw [List.mem_cons, not_or] at hd
    exact mem_ruleGroups_removeIfPresent (h.ruleGroup g hg hd.2) hd.1

theorem Remains.link {s u : Store} {deleted : List Id} (h : s.Remains deleted u)
    (l : Link.Draft) : s.Remains deleted (u.insertLink l).2 :=
  ⟨h.relyingParty, h.ruleGroup⟩

/-- the ends of a link that passes the check are still there when the link is made -/
theorem Remains.ends {s u : Store} {deleted : List Id} (h : s.Remains deleted u) {l : Link.Draft}
    (hp : s.exists? .relyingParty l.relyingParty = true ∧ l.relyingParty ∉ deleted)
    (hg : s.exists? .ruleGroup l.ruleGroup = true ∧ l.ruleGroup ∉ deleted) :
    (∃ p ∈ u.relyingParties, p.id = l.relyingParty) ∧ ∃ g ∈ u.ruleGroups, g.id = l.ruleGroup := by
  obtain ⟨p, hps, hpl⟩ := exists?_relyingParty.mp hp.1
  obtain ⟨g, hgs, hgl⟩ := exists?_ruleGroup.mp hg.1
  exact ⟨⟨p, h.relyingParty p hps (hpl ▸ hp.2), hpl⟩, ⟨g, h.ruleGroup g hgs (hgl ▸ hg.2), hgl⟩⟩

/-- after the first changes of an accepted batch the check of the others still stands -/
theorem Remains.applyBatch {s u : Store} {deleted : List Id} {linked : List Link.Draft}
    {batch rest : List Change} (hr : s.Remains deleted u)
    (hc : s.checkChanges deleted linked (batch ++ rest) = .ok ()) :
    ∃ deleted' linked', s.Remains deleted' (u.applyBatch batch)
      ∧ s.checkChanges deleted' linked' rest = .ok () := by
  induction batch generalizing u deleted linked with
  | nil => exact ⟨deleted, linked, hr, hc⟩
  | cons c batch ih =>
    cases c with
    | delete kind id => exact ih (hr.delete kind id) (checkChanges_delete.mp hc).2.2
    | link l => exact ih (hr.link l) (checkChanges_link.mp hc).2.2.2

theorem Closed.applyBatch {s u : Store} {deleted : List Id} {linked : List Link.Draft}
    {batch : List Change} (hu : u.Closed) (hr : s.Remains deleted u)
    (hc : s.checkChanges deleted linked batch = .ok ()) : (u.applyBatch batch).Closed := by
  induction batch generalizing u deleted linked with
  | nil => exact hu
  | cons c batch ih =>
    cases c with
    | delete kind id =>
      exact ih (hu.removeIfPresent kind id) (hr.delete kind id) (checkChanges_delete.mp hc).2.2
    | link l =>
      obtain ⟨hp, hg, -, hrest⟩ := checkChanges_link.mp hc
      obtain ⟨hpu, hgu⟩ := hr.ends hp hg
      exact ih (hu.insertLink hpu hgu) (hr.link l) hrest

theorem Closed.committed {s : Store} (hs : s.Closed) (hc : s.checkBatch s.queue = .ok ()) :
    s.committed.Closed := by
  have hq : ({ s with queue := [] } : Store).Closed := hs.congr rfl
  have h : (({ s with queue := [] } : Store).applyBatch s.queue).Closed :=
    Closed.applyBatch (s := s) hq ⟨fun _ h _ => h, fun _ h _ => h⟩ hc
  exact h.congr rfl

theorem Closed.step {s t : Store} (hs : s.Closed) (h : s.Step t) : t.Closed := by
  cases h with
  | none => exact hs
  | addRelyingParty new => exact (hs.insertRelyingParty new).congr rfl
  | removeRelyingParty id => exact (hs.remove .relyingParty id).congr rfl
  | addRuleGroup new => exact (hs.insertRuleGroup new).congr rfl
  | addRule new hgroup => exact (hs.insertRule hgroup).congr rfl
  | queue c => exact hs.congr rfl
  | reject => exact hs.congr rfl
  | commit hc => exact hs.committed hc

end AccessControl.Store
