import AccessControl.Proofs.Store.Batch

/-!
# The contents of a store

`Store.contents` forgets identities.  An insertion shows in the contents as one change
(`contents_insertRuleGroup`, `contents_insertRule`, `contents_insertRelyingParty`,
`contents_insertLink`); a removal or a new link does not show where the resource that it belongs to
is hidden (`hide_remove_ruleGroup` and its companions).
-/

namespace AccessControl
open Classical

namespace Store

def rulesIn (s : Store) (ruleGroup : Id) : List Rule.Body :=
  (s.rulesOf ruleGroup).map (·.toBody)

def keysIn (s : Store) (relyingParty : Id) : List Key.Content :=
  (s.keysOf relyingParty).map (·.content)

/-- the names of the linked rule groups, in the order of the links -/
def linkedIn (s : Store) (relyingParty : Id) : List String :=
  (s.links.filter (·.relyingParty = relyingParty)).map fun l => s.ruleGroupName l.ruleGroup

def ruleGroupContent (s : Store) (g : RuleGroup) : RuleGroup.Content := ⟨g.name, s.rulesIn g.id⟩

def relyingPartyContent (s : Store) (p : RelyingParty.Stored) : RelyingParty.Content :=
  ⟨p.toProfile, s.keysIn p.id, s.linkedIn p.id⟩

def contents (s : Store) : Contents where
  ruleGroups := s.ruleGroups.map s.ruleGroupContent
  relyingParties := s.relyingParties.map s.relyingPartyContent

/-! ## names -/

theorem ruleGroup?_of_mem {s : Store} (hs : s.Sound) {g : RuleGroup} (hg : g ∈ s.ruleGroups) :
    s.ruleGroup? g.id = some g := by
  unfold ruleGroup?
  cases h : s.ruleGroups.find? (·.id = g.id) with
  | none => exact absurd (List.find?_eq_none.mp h g hg) (by simp)
  | some g' =>
    have hid : g'.id = g.id := by simpa using List.find?_some h
    rw [hs.ruleGroup_eq (List.mem_of_find?_eq_some h) hg hid]

theorem ruleGroupName_of_mem {s : Store} (hs : s.Sound) {g : RuleGroup} (hg : g ∈ s.ruleGroups) :
    s.ruleGroupName g.id = g.name := by
  unfold ruleGroupName
  rw [ruleGroup?_of_mem hs hg]
  rfl

/-- the name of a rule group depends on the rule groups of its identity alone -/
theorem ruleGroupName_congr {s t : Store} {id : Id}
    (h : t.ruleGroups.find? (·.id = id) = s.ruleGroups.find? (·.id = id)) :
    t.ruleGroupName id = s.ruleGroupName id := by
  unfold ruleGroupName ruleGroup?
  rw [h]

theorem mem_linkedIn {s : Store} {id : Id} {name : String} : name ∈ s.linkedIn id ↔
    ∃ l ∈ s.links, l.relyingParty = id ∧ s.ruleGroupName l.ruleGroup = name := by
  simp [linkedIn, and_assoc]

/-- in a closed store every link leads to a rule group that is there -/
theorem linkedIn_exists {s : Store} (hs : s.Sound) (hc : s.Closed) {id : Id} {name : String}
    (h : name ∈ s.linkedIn id) : ∃ g ∈ s.ruleGroups, g.name = name := by
  obtain ⟨l, hl, -, rfl⟩ := mem_linkedIn.mp h
  obtain ⟨g, hg, hgl⟩ := hc.linkRuleGroup l hl
  refine ⟨g, hg, ?_⟩
  rw [← hgl, ruleGroupName_of_mem hs hg]

/-! ## what is hidden does not show -/

/-- two stores with the same contents outside `o`, record by record -/
theorem hide_congr {s t : Store} {o : Set Subject}
    (hgroups : t.ruleGroups.filter (fun g => .ruleGroup g.name ∉ o)
      = s.ruleGroups.filter (fun g => .ruleGroup g.name ∉ o))
    (hrules : ∀ g ∈ s.ruleGroups, .ruleGroup g.name ∉ o → t.rulesIn g.id = s.rulesIn g.id)
    (hparties : t.relyingParties.filter (fun p => .relyingParty p.name ∉ o)
      = s.relyingParties.filter (fun p => .relyingParty p.name ∉ o))
    (hkeys : ∀ p ∈ s.relyingParties, .relyingParty p.name ∉ o → t.keysIn p.id = s.keysIn p.id)
    (hlinks : ∀ p ∈ s.relyingParties, .relyingParty p.name ∉ o →
      (t.linkedIn p.id).filter (fun g => .ruleGroup g ∉ o)
        = (s.linkedIn p.id).filter (fun g => .ruleGroup g ∉ o)) :
    t.contents.hide o = s.contents.hide o := by
  unfold contents Contents.hide
  congr 1
  · rw [List.filter_map, List.filter_map]
    show (t.ruleGroups.filter fun g => .ruleGroup g.name ∉ o).map _
      = (s.ruleGroups.filter fun g => .ruleGroup g.name ∉ o).map _
    rw [hgroups]
    refine List.map_congr_left fun g hg => ?_
    obtain ⟨hg, hgo⟩ := List.mem_filter.mp hg
    unfold ruleGroupContent
    rw [hrules g hg (of_decide_eq_true hgo)]
  · rw [List.filter_map, List.filter_map, List.map_map, List.map_map]
    show (t.relyingParties.filter fun p => .relyingParty p.name ∉ o).map _
      = (s.relyingParties.filter fun p => .relyingParty p.name ∉ o).map _
    rw [hparties]
    refine List.map_congr_left fun p hp => ?_
    obtain ⟨hp, hpo⟩ := List.mem_filter.mp hp
    have hpo := of_decide_eq_true hpo
    show RelyingParty.Content.unlink ⟨_, t.keysIn p.id, t.linkedIn p.id⟩ o
      = RelyingParty.Content.unlink ⟨_, s.keysIn p.id, s.linkedIn p.id⟩ o
    unfold RelyingParty.Content.unlink
    rw [Multiset.filter_coe, Multiset.filter_coe, hkeys p hp hpo, hlinks p hp hpo]

/-- a filter that only takes away hidden elements -/
theorem filter_filter_hidden {α : Type} {l : List α} {keep visible : α → Bool}
    (h : ∀ a ∈ l, visible a = true → keep a = true) :
    (l.filter keep).filter visible = l.filter visible := by
  rw [List.filter_filter]
  refine List.filter_congr fun a ha => ?_
  rw [Bool.and_eq_left_iff_imp]
  exact h a ha

theorem map_filter_congr {α β : Type} {l : List α} {p q : α → Bool} {f g : α → β}
    (hpq : ∀ a ∈ l, p a = q a) (hfg : ∀ a ∈ l, q a = true → f a = g a) :
    (l.filter p).map f = (l.filter q).map g := by
  rw [List.filter_congr hpq]
  refine List.map_congr_left fun a ha => ?_
  obtain ⟨ha, hq⟩ := List.mem_filter.mp ha
  exact hfg a ha hq

theorem linkedIn_filter (s : Store) (id : Id) (visible : String → Bool) :
    (s.linkedIn id).filter visible
      = (s.links.filter fun l => visible (s.ruleGroupName l.ruleGroup)
          && decide (l.relyingParty = id)).map fun l => s.ruleGroupName l.ruleGroup := by
  unfold linkedIn
  rw [List.filter_map, List.filter_filter]
  rfl

theorem hide_remove_ruleGroup {s : Store} (hs : s.Sound) {o : Set Subject} {id : Id}
    (hid : ∃ g ∈ s.ruleGroups, g.id = id ∧ .ruleGroup g.name ∈ o) :
    (s.remove .ruleGroup id).contents.hide o = s.contents.hide o := by
  obtain ⟨g₀, hg₀, rfl, hgo⟩ := hid
  have apart {g : RuleGroup} (hg : g ∈ s.ruleGroups) (hv : .ruleGroup g.name ∉ o) :
      g.id ≠ g₀.id := fun h => hv (hs.ruleGroup_eq hg hg₀ h ▸ hgo)
  have other {i : Id} (hi : i ≠ g₀.id) :
      (s.remove .ruleGroup g₀.id).ruleGroupName i = s.ruleGroupName i := by
    refine ruleGroupName_congr ?_
    show (s.ruleGroups.filter (·.id ≠ g₀.id)).find? (·.id = i) = _
    rw [List.find?_filter]
    congr 1
    funext g
    grind
  refine hide_congr ?_ ?_ rfl (fun _ _ _ => rfl) ?_
  · refine filter_filter_hidden fun g hg hv => decide_eq_true ?_
    exact apart hg (of_decide_eq_true hv)
  · intro g hg hv
    unfold rulesIn rulesOf
    refine congrArg _ (filter_filter_hidden fun r _ hr => decide_eq_true ?_)
    rw [of_decide_eq_true hr]
    exact apart hg hv
  · intro p _ _
    rw [linkedIn_filter, linkedIn_filter]
    show ((s.links.filter (·.ruleGroup ≠ g₀.id)).filter _).map _ = _
    rw [List.filter_filter]
    refine map_filter_congr (fun l _ => ?_) (fun l _ hv => ?_)
    · by_cases hl : l.ruleGroup = g₀.id
      · rw [hl, ruleGroupName_of_mem hs hg₀]
        simp [hgo]
      · simp [hl, other hl]
    · refine other fun hl => ?_
      rw [hl, ruleGroupName_of_mem hs hg₀] at hv
      simp [hgo] at hv

theorem hide_remove_relyingParty {s : Store} (hs : s.Sound) {o : Set Subject} {id : Id}
    (hid : ∃ p ∈ s.relyingParties, p.id = id ∧ .relyingParty p.name ∈ o) :
    (s.remove .relyingParty id).contents.hide o = s.contents.hide o := by
  obtain ⟨p₀, hp₀, rfl, hpo⟩ := hid
  have apart {p : RelyingParty.Stored} (hp : p ∈ s.relyingParties) (hv : .relyingParty p.name ∉ o) :
      p.id ≠ p₀.id := fun h => hv (hs.relyingParty_eq hp hp₀ h ▸ hpo)
  refine hide_congr rfl (fun _ _ _ => rfl) ?_ ?_ ?_
  · refine filter_filter_hidden fun p hp hv => decide_eq_true ?_
    exact apart hp (of_decide_eq_true hv)
  · intro p hp hv
    unfold keysIn keysOf
    refine congrArg _ (filter_filter_hidden fun k _ hk => decide_eq_true ?_)
    rw [of_decide_eq_true hk]
    exact apart hp hv
  · intro p hp hv
    unfold linkedIn
    refine congrArg _ (congrArg _ (filter_filter_hidden fun l _ hl => decide_eq_true ?_))
    rw [of_decide_eq_true hl]
    exact apart hp hv

theorem hide_remove_key {s : Store} (hs : s.Sound) {o : Set Subject} {k : Key} (hk : k ∈ s.keys)
    (hown : ∃ p ∈ s.relyingParties, p.id = k.relyingParty ∧ .relyingParty p.name ∈ o) :
    (s.remove .relyingPartyKey k.id).contents.hide o = s.contents.hide o := by
  obtain ⟨p₀, hp₀, hpk, hpo⟩ := hown
  refine hide_congr rfl (fun _ _ _ => rfl) rfl ?_ (fun _ _ _ => rfl)
  intro p hp hv
  unfold keysIn keysOf
  refine congrArg _ (filter_filter_hidden fun k' hk' hown => decide_eq_true ?_)
  -- a visible relying party does not have the removed key
  intro h
  have hpp : p = p₀ := by
    refine hs.relyingParty_eq hp hp₀ ?_
    rw [hpk, ← hs.key_eq hk' hk h]
    exact (of_decide_eq_true hown).symm
  exact hv (hpp ▸ hpo)

theorem hide_insertLink (s : Store) {o : Set Subject} {l : Link.Draft}
    (hown : ∀ p ∈ s.relyingParties, p.id = l.relyingParty → .relyingParty p.name ∈ o) :
    (s.insertLink l).2.contents.hide o = s.contents.hide o := by
  refine hide_congr rfl (fun _ _ _ => rfl) rfl (fun _ _ _ => rfl) ?_
  intro p hp hv
  have hne : l.relyingParty ≠ p.id := fun h => hv (hown p hp h.symm)
  unfold linkedIn
  show ((s.links ++ [_]).filter _ |>.map _).filter _ = _
  rw [List.filter_append, List.filter_cons_of_neg (by simpa using hne), List.filter_nil,
    List.append_nil]
  rfl

/-! ## insertions -/

theorem contents_congr {s t : Store} (h : t = { s with
    queue := t.queue, journal := t.journal, failing := t.failing, pageSize := t.pageSize,
    created := t.created }) : t.contents = s.contents := by
  rw [h]
  rfl

theorem contents_insertRuleGroup {s : Store} (hs : s.Sound) (hc : s.Closed)
    (new : RuleGroup.Draft) :
    (s.insertRuleGroup new).2.contents = s.contents.addRuleGroup new.name := by
  have hrules : s.rulesIn s.nextId = [] := by
    unfold rulesIn rulesOf
    rw [List.filter_eq_nil_iff.mpr]
    · rfl
    · intro r hr h
      obtain ⟨g, hg, hgr⟩ := hc.rule r hr
      refine hs.nextId_not_mem ?_
      rw [← of_decide_eq_true h, ← hgr]
      exact ruleGroup_mem_identities hg
  have hname {l : Link.Stored} (hl : l ∈ s.links) :
      (s.insertRuleGroup new).2.ruleGroupName l.ruleGroup = s.ruleGroupName l.ruleGroup := by
    obtain ⟨g, hg, hgl⟩ := hc.linkRuleGroup l hl
    refine ruleGroupName_congr ?_
    show (s.ruleGroups ++ [_]).find? _ = _
    rw [List.find?_append, ← hgl]
    have h := ruleGroup?_of_mem hs hg
    unfold ruleGroup? at h
    rw [h]
    rfl
  unfold contents Contents.addRuleGroup
  congr 1
  · show (s.ruleGroups ++ [_]).map _ = _
    rw [List.map_append]
    refine congrArg _ ?_
    show [(⟨new.name, s.rulesIn s.nextId⟩ : RuleGroup.Content)] = _
    rw [hrules]
  · refine List.map_congr_left fun p _ => ?_
    unfold relyingPartyContent linkedIn
    refine congrArg _ (congrArg _ (List.map_congr_left fun l hl => ?_))
    exact hname (List.mem_filter.mp hl).1

/-- a rule goes to the only rule group of its name -/
theorem contents_insertRule {s : Store} {g : RuleGroup} (hg : g ∈ s.ruleGroups)
    (hs : s.Sound) (hone : ∀ g' ∈ s.ruleGroups, g'.name = g.name → g' = g) {new : Rule.Draft}
    (hnew : new.ruleGroup = g.id) :
    (s.insertRule new).2.contents = s.contents.addRule g.name new.toBody := by
  unfold contents Contents.addRule
  congr 1
  rw [List.map_map]
  refine List.map_congr_left fun g' hg' => ?_
  unfold ruleGroupContent rulesIn rulesOf
  show (⟨g'.name, ((s.rules ++ [(⟨new, s.nextId⟩ : Rule)]).filter _).map _⟩ : RuleGroup.Content) = _
  rw [List.filter_append, List.map_append, Function.comp_apply]
  by_cases h : g'.name = g.name
  · have hid : new.ruleGroup = g'.id := by rw [hone g' hg' h, hnew]
    rw [if_pos h, List.filter_cons_of_pos (by simpa using hid)]
    rfl
  · have hid : new.ruleGroup ≠ g'.id := by
      rw [hnew]
      exact fun heq => h (by rw [hs.ruleGroup_eq hg hg' heq])
    rw [if_neg h, List.filter_cons_of_neg (by simpa using hid)]
    simp

/-- the keys of a new relying party come after all others, and their identities are new -/
theorem insertContents_eq (s : Store) (id : Id) (ks : List Key.Content) :
    ∃ new : List Key, s.insertContents id ks
        = { s with created := s.created + ks.length, keys := s.keys ++ new }
      ∧ new.map (·.content) = ks ∧ ∀ k ∈ new, k.relyingParty = id ∧ ¬ s.Used k.id := by
  induction ks generalizing s with
  | nil => exact ⟨[], by simp [insertContents], rfl, fun k hk => absurd hk List.not_mem_nil⟩
  | cons k ks ih =>
    obtain ⟨new, heq, hcontent, hnew⟩ := ih (s.insertContent id k)
    let first : Key := ⟨s.nextId, id, k.displayName, k.type, k.usage, k.startDate, k.endDate⟩
    refine ⟨first :: new, ?_, ?_, ?_⟩
    · show (s.insertContent id k).insertContents id ks = _
      rw [heq]
      show ({ s with created := s.created + 1 + ks.length, keys := s.keys ++ [first] ++ new } : Store)
        = _
      rw [List.append_assoc, Nat.add_assoc, Nat.add_comm 1]
      rfl
    · rw [List.map_cons, hcontent]
      rfl
    · intro k' hk'
      rcases List.mem_cons.mp hk' with rfl | hk'
      · exact ⟨rfl, s.not_used_nextId⟩
      · exact ⟨(hnew k' hk').1, fun h => (hnew k' hk').2 (h.mono (Nat.le_succ _))⟩

theorem contents_insertRelyingParty {s : Store} (hs : s.Sound) (hc : s.Closed)
    (new : RelyingParty.Draft) : (s.insertRelyingParty new).2.contents
      = s.contents.addRelyingParty new.toProfile new.keys 0 := by
  rw [insertRelyingParty_eq]
  obtain ⟨keys, heq, hcontent, hnew⟩ :=
    insertContents_eq (s.insertBare new.toProfile) s.nextId new.keys
  rw [heq]
  unfold contents Contents.addRelyingParty
  congr 1
  show (s.relyingParties ++ [_]).map _ = _
  rw [List.map_append]
  have unknown {id : Id} (h : ∃ p ∈ s.relyingParties, p.id = id) : s.nextId ≠ id := by
    obtain ⟨p, hp, rfl⟩ := h
    exact fun h => hs.nextId_not_mem (h ▸ relyingParty_mem_identities hp)
  congr 1
  · refine List.map_congr_left fun p hp => ?_
    unfold relyingPartyContent keysIn keysOf
    show (⟨_, ((s.keys ++ keys).filter _).map _, _⟩ : RelyingParty.Content) = _
    have hother : keys.filter (·.relyingParty = p.id) = [] :=
      List.filter_eq_nil_iff.mpr fun k hk h =>
        unknown ⟨p, hp, rfl⟩ ((hnew k hk).1.symm.trans (of_decide_eq_true h))
    rw [List.filter_append, hother, List.append_nil]
    rfl
  · show [(⟨new.toProfile, ((s.keys ++ keys).filter (·.relyingParty = s.nextId)).map _,
      s.linkedIn s.nextId⟩ : RelyingParty.Content)] = _
    have hold : s.keys.filter (·.relyingParty = s.nextId) = [] :=
      List.filter_eq_nil_iff.mpr fun k hk h =>
        unknown (hc.key k hk) (of_decide_eq_true h).symm
    have hlinks : s.linkedIn s.nextId = [] := by
      unfold linkedIn
      rw [List.filter_eq_nil_iff.mpr]
      · rfl
      · exact fun l hl h => unknown (hc.linkRelyingParty l hl) (of_decide_eq_true h).symm
    have hall : keys.filter (·.relyingParty = s.nextId) = keys :=
      List.filter_eq_self.mpr fun k hk => decide_eq_true (hnew k hk).1
    rw [List.filter_append, hold, hall, hlinks, List.nil_append, hcontent]
    rfl

/-- a link goes to the only relying party of its name -/
theorem contents_insertLink {s : Store} (hs : s.Sound) {p : RelyingParty.Stored}
    (hp : p ∈ s.relyingParties) (hone : ∀ p' ∈ s.relyingParties, p'.name = p.name → p' = p)
    {g : RuleGroup} (hg : g ∈ s.ruleGroups) :
    (s.insertLink ⟨p.id, g.id⟩).2.contents = s.contents.link p.name [g.name] := by
  unfold contents Contents.link
  congr 1
  rw [List.map_map]
  refine List.map_congr_left fun p' hp' => ?_
  unfold relyingPartyContent
  have hlinked : (s.insertLink ⟨p.id, g.id⟩).2.linkedIn p'.id
      = s.linkedIn p'.id ++ if p'.name = p.name then [g.name] else [] := by
    unfold linkedIn
    show ((s.links ++ [(⟨⟨p.id, g.id⟩, s.nextId⟩ : Link.Stored)]).filter _).map (fun l => s.ruleGroupName l.ruleGroup) = _
    rw [List.filter_append, List.map_append]
    by_cases h : p'.name = p.name
    · have hid : p.id = p'.id := by rw [hone p' hp' h]
      rw [if_pos h, List.filter_cons_of_pos (by simpa using hid), ← ruleGroupName_of_mem hs hg]
      rfl
    · have hid : p.id ≠ p'.id := fun heq => h (by rw [hs.relyingParty_eq hp hp' heq])
      rw [if_neg h, List.filter_cons_of_neg (by simpa using hid)]
      rfl
  rw [hlinked, Function.comp_apply]
  split
  · rw [← Multiset.coe_add]
    rfl
  · rw [List.append_nil]
    rfl

end Store
end AccessControl
