import AccessControl.Proofs.Reconcile.Lookups
import Mathlib.Data.List.Pairwise

/-!
# Tearing down a relying party

A tear-down has three phases: linked rule groups go if the command takes them, then the keys, then the
relying party itself.  After it all that the command clears is gone (`tearDown_ends`).

* `deleteKeys_ends`           the deletions that are queued for keys;
* `deleteLinkedGroups_ends`   the deletions that are queued for linked rule groups, one for each.
-/

namespace AccessControl

namespace Store
variable {s : Store}

/-! ## links and keys of one relying party -/

/-- every link leads to a rule group that is there -/
def LinksLead (s : Store) : Prop := ∀ l ∈ s.links, ∃ g ∈ s.ruleGroups, g.id = l.ruleGroup

theorem mem_linksOf {id : Id} {l : Link} :
    l ∈ s.linksOf id ↔ ∃ l' ∈ s.links, l'.relyingParty = id ∧ s.showLink l' = l := by
  unfold linksOf
  rw [(List.mergeSort_perm _ _).mem_iff]
  simp [and_assoc]

/-- the name that a link shows is that of its rule group -/
theorem linksOf_ruleGroup (hs : s.Sound) (hlinks : s.LinksLead) {id : Id} {l : Link}
    (hl : l ∈ s.linksOf id) : s.Leads l := by
  obtain ⟨l', hl', -, rfl⟩ := mem_linksOf.mp hl
  obtain ⟨g, hg, hid⟩ := hlinks l' hl'
  refine ⟨g, hg, hid, ?_⟩
  show g.name = s.ruleGroupName l'.ruleGroup
  rw [← hid, ruleGroupName_of_mem hs hg]

theorem mem_linkedIn_iff {id : Id} {name : String} :
    name ∈ s.linkedIn id ↔ ∃ l ∈ s.linksOf id, l.ruleGroupName = name := by
  rw [mem_linkedIn]
  constructor
  · rintro ⟨l, hl, hid, hname⟩
    exact ⟨s.showLink l, mem_linksOf.mpr ⟨l, hl, hid, rfl⟩, hname⟩
  · rintro ⟨l, hl, hname⟩
    obtain ⟨l', hl', hid, rfl⟩ := mem_linksOf.mp hl
    exact ⟨l', hl', hid, hname⟩

/-- no other key has the name of a key of `p`, if no other relying party has the name of `p` -/
theorem keysNamed_eq_singleton (hs : s.Sound) {p : RelyingParty.Stored} (hp : p ∈ s.relyingParties)
    (hone : ∀ p' ∈ s.relyingParties, p'.name = p.name → p' = p) {k : Key} (hk : k ∈ s.keysOf p.id) :
    s.keysNamed k.displayName = [k] := by
  obtain ⟨hk, hown⟩ := List.mem_filter.mp hk
  have hown := of_decide_eq_true hown
  have hname : k.displayName ∈ Key.names p.name := by
    obtain ⟨p', hp', hid, hname⟩ := hs.keyOwner k hk
    rw [← hs.relyingParty_eq hp' hp (hid.trans hown)]
    exact hname
  have hall : ∀ k' ∈ s.keysNamed k.displayName, k' = k := by
    intro k' hk'
    obtain ⟨hk', hd⟩ := List.mem_filter.mp hk'
    have hd := of_decide_eq_true hd
    obtain ⟨p', hp', hid, hname'⟩ := hs.keyOwner k' hk'
    have hpp : p' = p := hone p' hp' (Key.names_injective (hd ▸ hname') hname)
    by_contra hne
    have : Std.Symm fun a b : Key => a.relyingParty = b.relyingParty → a.displayName ≠ b.displayName :=
      ⟨fun a b h hid hd => h hid.symm hd.symm⟩
    exact hs.keysDistinct.forall hk' hk hne (by rw [← hid, hpp, hown]) hd
  have hnodup : (s.keysNamed k.displayName).Nodup := (List.Nodup.of_map _ hs.keyIds).filter _
  exact eq_singleton_of_nodup hnodup (List.mem_filter.mpr ⟨hk, decide_eq_true rfl⟩) hall

/-- deletions of rule groups leave keys and relying parties alone -/
theorem applyBatch_deleteRuleGroups (s : Store) (ids : List Id) :
    (s.applyBatch (ids.map (.delete .ruleGroup))).keys = s.keys
      ∧ (s.applyBatch (ids.map (.delete .ruleGroup))).relyingParties = s.relyingParties := by
  induction ids generalizing s with
  | nil => exact ⟨rfl, rfl⟩
  | cons id ids ih =>
    have h : (s.removeIfPresent .ruleGroup id).keys = s.keys
        ∧ (s.removeIfPresent .ruleGroup id).relyingParties = s.relyingParties := by
      unfold removeIfPresent
      split
      · exact ⟨rfl, rfl⟩
      · exact ⟨rfl, rfl⟩
    obtain ⟨hk, hp⟩ := ih (s.removeIfPresent .ruleGroup id)
    exact ⟨hk.trans h.1, hp.trans h.2⟩

theorem committed_deleteRuleGroups {ids : List Id} (h : s.queue = ids.map (.delete .ruleGroup)) :
    s.committed.keys = s.keys ∧ s.committed.relyingParties = s.relyingParties := by
  unfold committed
  rw [h]
  exact applyBatch_deleteRuleGroups { s with queue := [] } ids

end Store

namespace Reconciler
open Classical

variable {sink : Sink} {settings : Settings} {s w : Store} {o q : Set Subject} {fair taking : Prop}

/-! ## queueing deletions -/

/-- the keys are deleted by their names, and only a refused call can stop this -/
theorem deleteKeys_ends {keys : List Key} (hkeys : ∀ k ∈ keys, w.keysNamed k.displayName = [k]) :
    ((inMemory sink settings).deleteKeys keys).Ends w
      (fun _ t => t = w.queueAll (keys.map fun k => .delete .relyingPartyKey k.id))
      (fun _ t => t = w ∧ w.Fails .delete) := by
  refine (deleteKeys_resolves fun k hk => .inl (hkeys k hk)).mono (fun _ _ h => h) ?_
  rintro e t ⟨done, k, rest, rfl, rfl, ⟨-, hfails, rfl⟩ | ⟨-, hnone⟩⟩
  · exact ⟨w.queueAll_nil, hfails⟩
  · have hk := hkeys k (List.mem_append_right done List.mem_cons_self)
    exact absurd (hk.symm.trans hnone) (List.cons_ne_nil _ _)

/-- `ids` are the rule groups of the links, each of them once, and none of them shares its name -/
structure Targets (w : Store) (links : List Link) (ids : List Id) : Prop where
  nodup : ids.Nodup
  covers : ∀ l ∈ links, l.ruleGroup ∈ ids
  sole : ∀ id ∈ ids, ∃ g, w.ruleGroupsNamed g.name = [g] ∧ g.id = id ∧ ∃ l ∈ links, l.ruleGroup = id

/-- `ids` are rule groups of some of the links, and if nothing is made to fail the name of one is
shared -/
structure Interrupted (w : Store) (links : List Link) (ids : List Id) : Prop where
  linked : ∀ id ∈ ids, ∃ l ∈ links, l.ruleGroup = id
  shared : w.failing = [] → ∃ l ∈ links, (w.ruleGroupsNamed l.ruleGroupName).length ≠ 1

section
variable {links : List Link}

theorem Targets.of_resolves (hlinks : ∀ l ∈ links, w.Leads l)
    (hall : ∀ l ∈ firstLinks [] links, w.Resolves l) :
    Targets w links ((firstLinks [] links).map (·.ruleGroup)) where
  nodup := (firstLinks_nodup [] links).1
  covers := fun l hl => (firstLinks_covers [] links l hl).resolve_left List.not_mem_nil
  sole := fun id hid => by
    obtain ⟨l, hl, rfl⟩ := List.mem_map.mp hid
    have hlink := firstLinks_subset [] links hl
    obtain ⟨g, hg, hgid, hname⟩ := hlinks l hlink
    exact ⟨g, hname ▸ (hall l hl).eq_singleton hg hname, hgid, l, hlink, rfl⟩

/-- linked rule groups are deleted by their names, each of them once -/
theorem deleteLinkedGroups_ends (hlinks : ∀ l ∈ links, w.Leads l) :
    ((inMemory sink settings).deleteLinkedGroups [] links).Ends w
      (fun _ t => ∃ ids, Targets w links ids ∧ t = w.queueAll (ids.map (.delete .ruleGroup)))
      (fun _ t => ∃ ids, Interrupted w links ids ∧ t = w.queueAll (ids.map (.delete .ruleGroup))) := by
  have hfirst : firstLinks [] links ⊆ links := firstLinks_subset [] links
  refine (deleteLinkedGroups_resolves [] links).mono ?_ ?_
  · rintro - t ⟨hall, rfl⟩
    refine ⟨_, .of_resolves hlinks hall, ?_⟩
    rw [Store.groupDeletions_of_resolves (fun l hl => hlinks l (hfirst hl)) hall]
  · rintro e t ⟨done, l, rest, hsplit, hdone, rfl, he⟩
    rw [hsplit] at hfirst
    have hlinked : done ⊆ links := List.Subset.trans (List.subset_append_left ..) hfirst
    refine ⟨done.map (·.ruleGroup), ⟨fun id hid => ?_, fun hfailing => ?_⟩, ?_⟩
    · obtain ⟨l', hl', rfl⟩ := List.mem_map.mp hid
      exact ⟨l', hlinked hl', rfl⟩
    · have hfound := he.resolve_left fun h => Store.not_fails_of_failing_nil hfailing .delete h.2
      exact ⟨l, hfirst (List.mem_append_right done List.mem_cons_self), hfound.2⟩
    · rw [Store.groupDeletions_of_resolves (fun l hl => hlinks l (hlinked hl)) hdone]

end

/-! ## the phases -/

/-- deletions of linked rule groups concern what the links lead to -/
theorem deletesGroups_within (hs : s.Sound) (hlinks : s.LinksLead) {p : RelyingParty.Stored}
    (hlinked : ∀ g ∈ s.linkedIn p.id, .ruleGroup g ∈ q) {ids : List Id}
    (hids : ∀ id ∈ ids, ∃ l ∈ s.linksOf p.id, l.ruleGroup = id) :
    ∀ c ∈ ids.map (Change.delete .ruleGroup), c.Within s q := by
  intro c hmem
  obtain ⟨id, hid, rfl⟩ := List.mem_map.mp hmem
  obtain ⟨l, hl, rfl⟩ := hids id hid
  obtain ⟨g, hg, hgid, hname⟩ := Store.linksOf_ruleGroup hs hlinks hl
  refine .ruleGroup (hgid ▸ hs.used _ (Store.ruleGroup_mem_identities hg)) fun g' hg' hid' => ?_
  rw [hs.ruleGroup_eq hg' hg (hid'.trans hgid.symm), hname]
  exact hlinked _ (Store.mem_linkedIn_iff.mpr ⟨l, hl, rfl⟩)

/-- after a commit of the deletions no rule group has the name of a linked one -/
theorem Targets.gone (hs : s.Sound) (hlinks : s.LinksLead) {p : RelyingParty.Stored}
    {ids : List Id} (h : Targets s (s.linksOf p.id) ids) (hqueue : s.queue = []) {name : String}
    (hname : name ∈ s.linkedIn p.id) : s.contents.count (.ruleGroup name) = 1
      ∧ ∀ g ∈ (s.queueAll (ids.map (.delete .ruleGroup))).committed.ruleGroups, g.name ≠ name := by
  let w := s.queueAll (ids.map (.delete .ruleGroup))
  obtain ⟨l, hl, rfl⟩ := Store.mem_linkedIn_iff.mp hname
  obtain ⟨g, hg, hgid, hgname⟩ := Store.linksOf_ruleGroup hs hlinks hl
  have hid : g.id ∈ ids := hgid ▸ h.covers l hl
  -- no other rule group has its name
  obtain ⟨g', hg', hid', -⟩ := h.sole g.id hid
  obtain ⟨hmem, -, hone⟩ := Store.ruleGroupsNamed_eq_singleton hg'
  rw [hs.ruleGroup_eq hmem hg hid', hgname] at hg' hone
  constructor
  · rw [← Store.length_ruleGroupsNamed, hg']
    rfl
  · intro g₁ hg₁ hn
    have hg₁g : g₁ = g := hone g₁ ((Store.committed_ruleGroups w).subset hg₁) hn
    have hqueued : .delete .ruleGroup g.id ∈ w.queue := by
      show _ ∈ s.queue ++ _
      rw [hqueue, List.nil_append]
      exact List.mem_map_of_mem hid
    exact Store.committed_deleted hqueued g₁ hg₁ (by rw [hg₁g])

/-- the phase for linked rule groups: they are gone if they are to be taken -/
theorem deleteGroups_ends (hs : s.Sound) (hlinks : s.LinksLead) {p : RelyingParty.Stored}
    {withRuleGroups : Bool} (hidle : withRuleGroups = true → s.queue = [])
    (hq : s.QueueWithin q)
    (hlinked : withRuleGroups = true → ∀ g ∈ s.linkedIn p.id, .ruleGroup g ∈ q)
    (hfair : fair → withRuleGroups = true →
      ∀ g ∈ s.linkedIn p.id, s.contents.count (.ruleGroup g) = 1) :
    ((inMemory sink settings).deleteGroups (s.view p) withRuleGroups).Ends s
      (fun _ u => Intact q s u ∧ u.relyingParties = s.relyingParties ∧ u.keys = s.keys
        ∧ (withRuleGroups = true → ∀ g ∈ s.linkedIn p.id,
            s.contents.count (.ruleGroup g) = 1 ∧ ∀ g' ∈ u.ruleGroups, g'.name ≠ g))
      (fun e t => Stopped q fair (withRuleGroups = true) e s t) := by
  unfold deleteGroups
  split
  · rename_i hflag
    have hw : withRuleGroups = true := (Bool.and_eq_true_iff.mp hflag).1
    have hfound := fun l (hl : l ∈ s.linksOf p.id) => Store.linksOf_ruleGroup hs hlinks hl
    refine ((deleteLinkedGroups_ends hfound).mono (fun _ _ h => h) ?_).bind ?_
    · rintro e t ⟨ids, hids, rfl⟩
      refine .queued hs hq (deletesGroups_within hs hlinks (hlinked hw) hids.linked)
        (fun _ _ h => absurd hw h) fun hf hfailing _ => ?_
      obtain ⟨l, hl, hne⟩ := hids.shared hfailing
      rw [Store.length_ruleGroupsNamed] at hne
      exact hne (hfair hf hw _ (Store.mem_linkedIn_iff.mpr ⟨l, hl, rfl⟩))
    · rintro - t ⟨ids, hids, rfl⟩
      have hwithin : ∀ c ∈ ids.map (Change.delete .ruleGroup), c.Within s q := by
        refine deletesGroups_within hs hlinks (hlinked hw) fun id hid => ?_
        obtain ⟨-, -, -, hl⟩ := hids.sole id hid
        exact hl
      refine commit_ends hs hq hwithin (fun _ _ => ?_) fun _ hsteps => ?_
      · refine Store.checkBatch_deletes (fun id hid => ?_) hids.nodup
        obtain ⟨g, hg, hgid, -⟩ := hids.sole id hid
        exact Store.exists?_ruleGroup.mpr ⟨g, (Store.ruleGroupsNamed_eq_singleton hg).1, hgid⟩
      · have hqueue : (s.queueAll (ids.map (.delete .ruleGroup))).queue = ids.map (.delete .ruleGroup) := by
          show s.queue ++ _ = _
          rw [hidle hw, List.nil_append]
        obtain ⟨hkeys, hparties⟩ := Store.committed_deleteRuleGroups hqueue
        exact ⟨.committed hs hq hwithin hsteps, hparties, hkeys, fun _ g hg =>
          hids.gone hs hlinks (hidle hw) hg⟩
  · rename_i hflag
    refine .pure ⟨.refl hq, rfl, rfl, fun hw g hg => ?_⟩
    obtain ⟨l, hl, -⟩ := Store.mem_linkedIn_iff.mp hg
    have hempty : (s.view p).links.isEmpty = true := by
      cases h : (s.view p).links.isEmpty with
      | true => rfl
      | false => exact absurd (by rw [hw, h]; rfl) hflag
    have hl : l ∈ (s.view p).links := hl
    rw [List.isEmpty_iff.mp hempty] at hl
    exact absurd hl List.not_mem_nil

/-- the phase for keys, which the relying party is seen with as they are -/
theorem deleteAllKeys_ends (hs : s.Sound) {p : RelyingParty.Stored} (hp : p ∈ s.relyingParties)
    (hone : ∀ p' ∈ s.relyingParties, p'.name = p.name → p' = p) {old : RelyingParty}
    (hkeys : old.keys.Perm (s.keysOf p.id)) (hq : s.QueueWithin q)
    (hpq : .relyingParty p.name ∈ q) :
    ((inMemory sink settings).deleteAllKeys old).Ends s
      (fun _ u => Intact q s u ∧ u.relyingParties = s.relyingParties)
      (fun e t => Stopped q fair taking e s t) := by
  have hsub : ∀ k ∈ old.keys, k ∈ s.keysOf p.id := fun k hk => hkeys.mem_iff.mp hk
  let changes : List Change := old.keys.map fun k => .delete .relyingPartyKey k.id
  have hwithin : ∀ c ∈ changes, c.Within s q := by
    intro c hmem
    obtain ⟨k, hk, rfl⟩ := List.mem_map.mp hmem
    obtain ⟨hk, hown⟩ := List.mem_filter.mp (hsub k hk)
    refine .key (hs.used _ (Store.key_mem_identities hk)) fun k' hk' hid p' hp' hpk => ?_
    rw [hs.key_eq hk' hk hid, of_decide_eq_true hown] at hpk
    rw [hs.relyingParty_eq hp' hp hpk]
    exact hpq
  unfold deleteAllKeys
  split
  · refine ((deleteKeys_ends fun k hk => Store.keysNamed_eq_singleton hs hp hone (hsub k hk)).mono
      (fun _ _ h => h) ?_).bind ?_
    · rintro e t ⟨rfl, hfails⟩
      exact .refused hq fun _ hfailing _ => Store.not_fails_of_failing_nil hfailing .delete hfails
    · rintro - t rfl
      refine commit_ends hs hq hwithin (fun _ _ => ?_) fun _ hsteps => ?_
      · have hids : changes = (old.keys.map (·.id)).map (.delete .relyingPartyKey) := by
          rw [List.map_map]
          rfl
        rw [hids]
        refine Store.checkBatch_deletes (fun id hid => ?_) ?_
        · obtain ⟨k, hk, rfl⟩ := List.mem_map.mp hid
          exact Store.exists?_relyingPartyKey.mpr ⟨k, (List.mem_filter.mp (hsub k hk)).1, rfl⟩
        · exact (hkeys.map _).nodup_iff.mpr (hs.keyIds.sublist (List.filter_sublist.map _))
      · exact ⟨.committed hs hq hwithin hsteps,
          Store.committed_relyingParties_eq (hq.queueAll hs hwithin)⟩
  · exact .pure ⟨.refl hq, rfl⟩

/-- the last phase, after which the relying party is gone -/
theorem removeParty_ends (hs : s.Sound) {p : RelyingParty.Stored} (hp : p ∈ s.relyingParties)
    (hone : ∀ p' ∈ s.relyingParties, p'.name = p.name → p' = p) {old : RelyingParty}
    (hid : old.id = p.id) (hq : s.QueueWithin q) (hpq : .relyingParty p.name ∈ q) :
    ((inMemory sink settings).removeParty old).Ends s
      (fun _ u => Intact q s u ∧ u.contents.Lacks (.relyingParty p.name))
      (fun e t => Stopped q fair taking e s t) := by
  refine removeRelyingParty_bind ?_ (fun hrefused e => ?_)
  · refine (emit_quiet _ _).bind ((emit_quiet _ _).bind ((recordDeleted_quiet _).ends ?_))
    rw [hid]
    let u := (s.remove .relyingParty p.id).record (.removeRelyingParty p.id)
    have hu : u.contents = (s.remove .relyingParty p.id).contents := Store.contents_congr rfl
    have hinherits : s.Inherits u := (Store.Inherits.remove s .relyingParty p.id).congr rfl
    refine ⟨⟨(Store.Step.removeRelyingParty p.id).steps, ?_, hq.inherits hs hinherits rfl,
      fun h => h, .refl _⟩, Store.lacks_relyingParty fun p' hp' hname => ?_⟩
    · rw [hu]
      exact Store.hide_remove_relyingParty hs ⟨p, hp, rfl, hpq⟩
    · obtain ⟨hp', hne⟩ := List.mem_filter.mp hp'
      exact of_decide_eq_true hne (by rw [hone p' hp' hname])
  · refine .refused hq fun _ hfailing _ => ?_
    exact hrefused (Store.not_fails_of_failing_nil hfailing _) ⟨p, hp, hid.symm⟩

/-! ## the whole tear-down -/

theorem takes_iff {p : RelyingParty.Stored} {c : Command} (hp : p ∈ s.relyingParties)
    (hone : ∀ p' ∈ s.relyingParties, p'.name = p.name → p' = p)
    (hsubject : c.subject? = some (.relyingParty p.name)) {g : String} :
    c.Takes s.contents g ↔ c.takesRuleGroups = true ∧ g ∈ s.linkedIn p.id := by
  constructor
  · rintro ⟨hw, v, hv, hname, hg⟩
    obtain ⟨p', hp', rfl⟩ := List.mem_map.mp hv
    rw [hsubject] at hname
    have hpp : p' = p := hone p' hp' (Subject.relyingParty.inj (Option.some.inj hname)).symm
    rw [hpp] at hg
    exact ⟨hw, Multiset.mem_coe.mp hg⟩
  · rintro ⟨hw, hg⟩
    exact ⟨hw, s.relyingPartyContent p, List.mem_map_of_mem hp, hsubject, Multiset.mem_coe.mpr hg⟩

theorem tearDown_ends (hs : s.Sound) (hc : s.Closed) {c : Command} {p : RelyingParty.Stored}
    (hp : p ∈ s.relyingParties) (hone : ∀ p' ∈ s.relyingParties, p'.name = p.name → p' = p)
    (hsubject : c.subject? = some (.relyingParty p.name))
    (hidle : c.takesRuleGroups = true → s.queue = [])
    (hq : s.QueueWithin (o ∪ c.clears s.contents)) (hfair : fair → c.Ready s.contents) :
    ((inMemory sink settings).tearDown (s.view p) c.takesRuleGroups).Ends s
      (fun _ u => (∀ g, c.Takes s.contents g → s.contents.count (.ruleGroup g) = 1)
        ∧ Cleared o (c.clears s.contents) s u)
      (fun e t => Stopped (o ∪ c.clears s.contents) fair (c.takesRuleGroups = true) e s t) := by
  have htakes {g : String} := takes_iff (c := c) (g := g) hp hone hsubject
  have hpq : .relyingParty p.name ∈ o ∪ c.clears s.contents := .inr (.inl hsubject)
  rw [tearDown_eq]
  refine (deleteGroups_ends hs hc.linkRuleGroup hidle hq (fun hw g hg => ?_) fun hf hw g hg => ?_).bind ?_
  · exact .inr (.inr ⟨g, htakes.mpr ⟨hw, hg⟩, rfl⟩)
  · exact (hfair hf).taken g (htakes.mpr ⟨hw, hg⟩)
  · rintro - u ⟨hu, hparties, hkeys, htaken⟩
    have hus := hu.steps.sound hs
    have hperm : (s.view p).keys.Perm (u.keysOf p.id) := by
      unfold Store.keysOf
      rw [hkeys]
      exact List.mergeSort_perm _ _
    refine ((deleteAllKeys_ends hus (hparties ▸ hp) (hparties ▸ hone) hperm hu.within hpq).mono
      (fun _ _ h => h) fun _ _ h => hu.stopped h).bind ?_
    rintro - v ⟨hv, hvparties⟩
    rw [hparties] at hvparties
    refine (removeParty_ends (hv.steps.sound hus) (hvparties ▸ hp) (hvparties ▸ hone) rfl hv.within
      hpq).mono ?_ fun _ _ h => hu.stopped (hv.stopped h)
    rintro - w ⟨hw, hlacks⟩
    have hall := (hu.trans hv).trans hw
    refine ⟨fun g hg => ?_, ⟨hall, ?_⟩⟩
    · obtain ⟨htaking, hg⟩ := htakes.mp hg
      exact (htaken htaking g hg).1
    · rintro x (hx | ⟨g, hg, rfl⟩)
      · rw [hsubject] at hx
        cases hx
        exact hlacks
      · obtain ⟨htaking, hg⟩ := htakes.mp hg
        refine Store.lacks_ruleGroup (hall.steps.sound hs) (hall.steps.closed hc) fun g' hg' hname => ?_
        -- no rule group comes back after the first phase
        have hg'u := hv.groups.subset (hw.groups.subset hg')
        exact (htaken htaking g hg).2 g' hg'u hname

theorem not_extended {c : Command} {x : Subject} (h : c.subject? = some x) (g : String) :
    c.extended? ≠ some g := by
  cases c with
  | addRule ruleGroup rule => cases h
  | addRelyingParty new => exact fun h => by cases h
  | removeRelyingParty name withRuleGroups => exact fun h => by cases h
  | addRuleGroup name => exact fun h => by cases h
  | removeRuleGroup name => exact fun h => by cases h

/-- a tear-down of what was found under a name, if anything was -/
theorem tearDownAny_ends (hs : s.Sound) (hc : s.Closed) {c : Command} {name : String}
    {old : Option RelyingParty} (hsubject : c.subject? = some (.relyingParty name))
    (hold : atMostOne .relyingParty name (s.relyingPartiesNamed name) = .ok old)
    (hidle : c.takesRuleGroups = true → s.queue = [])
    (hq : s.QueueWithin (o ∪ c.clears s.contents)) (hfair : fair → c.Ready s.contents) :
    ((inMemory sink settings).tearDownAny old c.takesRuleGroups).Ends s
      (fun _ u => c.Ready s.contents ∧ Cleared o (c.clears s.contents) s u)
      (fun e t => Stopped (o ∪ c.clears s.contents) fair (c.takesRuleGroups = true) e s t) := by
  have hready (hcount : s.contents.count (.relyingParty name) ≤ 1)
      (htaken : ∀ g, c.Takes s.contents g → s.contents.count (.ruleGroup g) = 1) :
      c.Ready s.contents := by
    refine ⟨fun x hx => ?_, fun g hg => absurd hg (not_extended hsubject g), htaken⟩
    rw [hsubject] at hx
    cases hx
    exact hcount
  have hcount := s.length_relyingPartiesNamed name
  cases old with
  | none =>
    have hnil := atMostOne_eq_none hold
    have hnone := Store.relyingPartiesNamed_eq_nil hnil
    have htakes : ∀ g, ¬ c.Takes s.contents g := by
      rintro g ⟨-, v, hv, hname, -⟩
      obtain ⟨p, hp, rfl⟩ := List.mem_map.mp hv
      rw [hsubject] at hname
      exact hnone p hp (Subject.relyingParty.inj (Option.some.inj hname)).symm
    refine .pure ⟨hready ?_ fun g hg => absurd hg (htakes g), .of_lacks hq ?_⟩
    · rw [← hcount, hnil]
      exact Nat.zero_le 1
    · rintro x (hx | ⟨g, hg, -⟩)
      · rw [hsubject] at hx
        cases hx
        exact Store.lacks_relyingParty hnone
      · exact absurd hg (htakes g)
  | some v =>
    have hsingle := atMostOne_eq_some hold
    obtain ⟨p, hp, rfl, rfl, hone⟩ := Store.relyingPartiesNamed_eq_singleton hsingle
    refine (tearDown_ends hs hc hp hone hsubject hidle hq hfair).mono ?_ fun _ _ h => h
    rintro - u ⟨htaken, hu⟩
    refine ⟨hready ?_ htaken, hu⟩
    rw [← hcount, hsingle]
    exact Nat.le_refl 1

end Reconciler
end AccessControl
