import AccessControl.Proofs.Reconcile.Runs
import AccessControl.Proofs.Store.Records

/-!
# Replacing a relying party, record by record

A tear-down that comes to its end has taken away the relying party and, if asked to, the rule groups
that it was linked to, with all that belongs to them.  A creation that comes to its end has added one
relying party with its keys and links.  All other records are as before, with their identities.

* `Removes`             what is taken away (`tearDownAny_removes`);
* `Creation`            what is added (`createParty_linkAll_creates`);
* `Replaced`            both, from the start of a command to its end (`addRelyingParty_replaces`,
                        `removeRelyingParty_replaces`).
-/

namespace AccessControl

/-- what comes in the place of all records of its name is the only one of its name -/
theorem sole_of_replaced {α : Type} {id : α → Id} {name : α → String} {n : String} {l : List α} {a : α}
    (ha : name a = n) : (l.filter (fun b => id b ∉ (l.filter (name · = n)).map id)
      ++ [a]).filter (name · = n) = [a] := by
  rw [List.filter_append, List.filter_eq_nil_iff.mpr, List.nil_append, List.filter_singleton,
    decide_eq_true ha]
  · rfl
  · intro b hb hname
    obtain ⟨hb, hkept⟩ := List.mem_filter.mp hb
    exact of_decide_eq_true hkept (List.mem_map_of_mem (List.mem_filter.mpr ⟨hb, hname⟩))

namespace Store
variable {s : Store}

/-- the identities of the relying parties of a name -/
def partiesNamed (s : Store) (name : String) : List Id :=
  (s.relyingParties.filter (·.name = name)).map (·.id)

/-- the rule groups that relying parties of a name are linked to, once for each link -/
def linkedTo (s : Store) (name : String) : List Id :=
  (s.links.filter (·.relyingParty ∈ s.partiesNamed name)).map (·.ruleGroup)

/-- the rule groups whose names some pattern is found in -/
def matching (s : Store) (patterns : List String) : List Id :=
  (s.ruleGroups.filter fun g => patterns.any (Pattern.finds · g.name)).map (·.id)

theorem partiesNamed_sole {name : String} {v : RelyingParty} (h : s.relyingPartiesNamed name = [v]) :
    ∃ p ∈ s.relyingParties, v = s.view p ∧ p.name = name ∧ s.partiesNamed name = [p.id]
      ∧ ∀ p' ∈ s.relyingParties, p'.name = p.name → p' = p := by
  obtain ⟨p, hp, hv, hname, hone⟩ := relyingPartiesNamed_eq_singleton h
  refine ⟨p, hp, hv, hname, ?_, fun p' hp' hn => hone p' hp' (hn.trans hname)⟩
  obtain ⟨p', hfilter, -⟩ := List.map_eq_singleton_iff.mp h
  have hp' : p ∈ s.relyingParties.filter (·.name = name) :=
    List.mem_filter.mpr ⟨hp, decide_eq_true hname⟩
  rw [hfilter] at hp'
  unfold partiesNamed
  rw [hfilter, List.mem_singleton.mp hp']
  rfl

theorem partiesNamed_eq_nil {name : String} (h : ∀ p ∈ s.relyingParties, p.name ≠ name) :
    s.partiesNamed name = [] := by
  unfold partiesNamed
  rw [List.filter_eq_nil_iff.mpr fun p hp hn => h p hp (of_decide_eq_true hn)]
  rfl

theorem linkedTo_eq_nil {name : String} (h : s.partiesNamed name = []) : s.linkedTo name = [] := by
  unfold linkedTo
  rw [h, List.filter_eq_nil_iff.mpr fun l _ => by simp]
  rfl

theorem mem_linkedTo {name : String} {p : Id} (h : s.partiesNamed name = [p]) {id : Id} :
    id ∈ s.linkedTo name ↔ ∃ l ∈ s.links, l.relyingParty = p ∧ l.ruleGroup = id := by
  unfold linkedTo
  rw [h]
  simp [and_assoc]

end Store

namespace Reconciler

variable {sink : Sink} {settings : Settings} {s t u : Store} {name : String}

/-! ## what is taken away -/

/-- from `s` to `u` these relying parties and rule groups have gone, the rule groups by one deletion
each, and nothing waits -/
structure Removes (s : Store) (relyingParties ruleGroups : List Id) (u : Store) : Prop where
  steps : s.Steps u
  records : u.records = s.records.without relyingParties ruleGroups
  deleted : u.deletedRuleGroups = s.deletedRuleGroups ++ ruleGroups
  idle : u.queue = []

theorem Removes.refl (hq : s.queue = []) : Removes s [] [] s :=
  ⟨.refl, s.records.without_nil.symm, (List.append_nil _).symm, hq⟩

theorem Removes.trans {ps gs ps' gs' : List Id} (h : Removes s ps gs u) (h' : Removes u ps' gs' t) :
    Removes s (ps ++ ps') (gs ++ gs') t where
  steps := h.steps.trans h'.steps
  records := by rw [h'.records, h.records, Records.without_without]
  deleted := by rw [h'.deleted, h.deleted, List.append_assoc]
  idle := h'.idle

/-- a commit of deletions of rule groups -/
theorem Removes.committed (hc : s.Closed) (hq : s.queue = []) {ids : List Id}
    (hcheck : (s.queueAll (ids.map (.delete .ruleGroup))).checkBatch
      (s.queueAll (ids.map (.delete .ruleGroup))).queue = .ok ()) :
    Removes s [] ids (s.queueAll (ids.map (.delete .ruleGroup))).committed where
  steps := (queueAll_steps s _).tail (.commit hcheck)
  records := by
    let w : Store := { s.queueAll (ids.map (.delete .ruleGroup)) with queue := [] }
    have hw : w.Closed := hc.congr rfl
    show (w.applyBatch (s.queue ++ _)).records = _
    rw [hq, List.nil_append, Store.records_deleteRuleGroups hw]
    rfl
  deleted := by
    rw [Store.deletedRuleGroups_committed, Store.deletedRuleGroups_queueAll, List.filterMap_map]
    exact congrArg _ (List.filterMap_some ..)
  idle := Store.committed_queue _

/-- the phase for linked rule groups -/
theorem deleteGroups_removes (hs : s.Sound) (hc : s.Closed) (hq : s.queue = [])
    (p : RelyingParty.Stored) (withRuleGroups : Bool) :
    ((inMemory sink settings).deleteGroups (s.view p) withRuleGroups).Ends s
      (fun _ u => ∃ taken : List Id, taken.Nodup ∧ (∀ id, id ∈ taken ↔ withRuleGroups = true
          ∧ ∃ l ∈ s.links, l.relyingParty = p.id ∧ l.ruleGroup = id) ∧ Removes s [] taken u)
      (fun _ _ => True) := by
  have hstored (id : Id) : (∃ l ∈ s.linksOf p.id, l.ruleGroup = id)
      ↔ ∃ l ∈ s.links, l.relyingParty = p.id ∧ l.ruleGroup = id := by
    constructor
    · rintro ⟨l, hl, rfl⟩
      obtain ⟨l', hl', hown, rfl⟩ := Store.mem_linksOf.mp hl
      exact ⟨l', hl', hown, rfl⟩
    · rintro ⟨l, hl, hown, rfl⟩
      exact ⟨s.showLink l, Store.mem_linksOf.mpr ⟨l, hl, hown, rfl⟩, rfl⟩
  unfold deleteGroups
  split
  · rename_i hflag
    have hw : withRuleGroups = true := (Bool.and_eq_true_iff.mp hflag).1
    have hfound := fun l (hl : l ∈ s.linksOf p.id) =>
      Store.linksOf_ruleGroup hs hc.linkRuleGroup hl
    refine ((deleteLinkedGroups_ends hfound).mono (fun _ _ h => h) fun _ _ _ => trivial).bind ?_
    rintro - t ⟨ids, hids, rfl⟩
    refine saveChanges_ends (fun hcheck => ?_) (fun _ _ => trivial) fun _ _ => trivial
    refine ⟨ids, hids.nodup, fun id => ?_, .committed hc hq hcheck⟩
    rw [and_iff_right hw, ← hstored]
    constructor
    · intro hid
      obtain ⟨-, -, -, hl⟩ := hids.sole id hid
      exact hl
    · rintro ⟨l, hl, rfl⟩
      exact hids.covers l hl
  · rename_i hflag
    refine .pure ⟨[], List.nodup_nil, fun id => ?_, .refl hq⟩
    refine iff_of_false List.not_mem_nil ?_
    rintro ⟨hw, hl⟩
    obtain ⟨l, hl, -⟩ := (hstored id).mpr hl
    refine hflag (Bool.and_eq_true_iff.mpr ⟨hw, ?_⟩)
    have hne : (s.view p).links ≠ [] := List.ne_nil_of_mem hl
    rw [Bool.not_eq_true', List.isEmpty_eq_false_iff]
    exact hne

/-- the phases for the keys and for the relying party itself -/
theorem removeParty_removes (hs : s.Sound) (hq : s.queue = []) {p : RelyingParty.Stored}
    (hp : p ∈ s.relyingParties) (hone : ∀ p' ∈ s.relyingParties, p'.name = p.name → p' = p)
    {old : RelyingParty} (hid : old.id = p.id) (hkeys : old.keys.Perm (s.keysOf p.id)) :
    ((inMemory sink settings).deleteAllKeys old >>= fun _ =>
        (inMemory sink settings).removeParty old).Ends s
      (fun _ u => Removes s [p.id] [] u) (fun _ _ => True) := by
  have hsub : ∀ k ∈ old.keys, k ∈ s.keysOf p.id := fun k hk => hkeys.mem_iff.mp hk
  let ids := old.keys.map (·.id)
  have howned : ∀ k ∈ s.records.keys, k.id ∈ ids → k.relyingParty = p.id := by
    intro k hk hmem
    obtain ⟨k', hk', hid'⟩ := List.mem_map.mp hmem
    obtain ⟨hk', hown⟩ := List.mem_filter.mp (hsub k' hk')
    rw [← hs.key_eq hk' hk hid']
    exact of_decide_eq_true hown
  -- the keys are gone, or there were none
  have hphase : ((inMemory sink settings).deleteAllKeys old).Ends s
      (fun _ u => s.Steps u ∧ u.records.without [p.id] [] = s.records.without [p.id] []
        ∧ u.deletedRuleGroups = s.deletedRuleGroups ∧ u.queue = []) (fun _ _ => True) := by
    unfold deleteAllKeys
    split
    · refine ((deleteKeys_ends fun k hk => Store.keysNamed_eq_singleton hs hp hone (hsub k hk)).mono
        (fun _ _ h => h) fun _ _ _ => trivial).bind ?_
      rintro - t rfl
      refine saveChanges_ends (fun hcheck => ?_) (fun _ _ => trivial) fun _ _ => trivial
      refine ⟨(queueAll_steps s _).tail (.commit hcheck), ?_, ?_, Store.committed_queue _⟩
      · let changes : List Change := old.keys.map fun k => .delete .relyingPartyKey k.id
        have hchanges : changes = ids.map (.delete .relyingPartyKey) := by
          rw [List.map_map]
          rfl
        have hcommitted : (s.queueAll changes).committed.records = s.records.withoutKeys ids := by
          show (({ s.queueAll changes with queue := [] } : Store).applyBatch (s.queue ++ changes)).records
            = _
          rw [hq, List.nil_append, hchanges, Store.records_deleteKeys]
          rfl
        rw [hcommitted, Records.without_withoutKeys howned]
      · refine s.deletedRuleGroups_unchanged fun c hc => ?_
        obtain ⟨k, -, rfl⟩ := List.mem_map.mp hc
        rfl
    · exact .pure ⟨.refl, rfl, rfl, hq⟩
  refine hphase.bind ?_
  rintro - u ⟨hsteps, hrecords, hdeleted, hidle⟩
  refine removeRelyingParty_bind ?_ fun _ _ => trivial
  refine (emit_quiet _ _).bind ((emit_quiet _ _).bind ((recordDeleted_quiet _).ends ?_))
  rw [hid]
  refine ⟨hsteps.tail (.removeRelyingParty p.id), ?_, ?_, ?_⟩
  · show (u.remove .relyingParty p.id).records = _
    rw [Store.records_remove_relyingParty, hrecords]
  · rw [Store.deletedRuleGroups_record _ rfl, List.append_nil]
    exact hdeleted
  · exact hidle

/-- `taken` are the rule groups that go with the relying party of a name, each of them once -/
structure Taken (s : Store) (name : String) (withRuleGroups : Bool) (taken : List Id) : Prop where
  sole : (s.partiesNamed name).length ≤ 1
  once : taken.Nodup
  mem_iff : ∀ id, id ∈ taken ↔ withRuleGroups = true ∧ id ∈ s.linkedTo name

/-- a tear-down of what was found under a name, if anything was -/
theorem tearDownAny_removes (hs : s.Sound) (hc : s.Closed) (hq : s.queue = [])
    {old : Option RelyingParty} {withRuleGroups : Bool}
    (hold : atMostOne .relyingParty name (s.relyingPartiesNamed name) = .ok old) :
    ((inMemory sink settings).tearDownAny old withRuleGroups).Ends s
      (fun _ u => ∃ taken, Taken s name withRuleGroups taken
        ∧ Removes s (s.partiesNamed name) taken u) (fun _ _ => True) := by
  cases old with
  | none =>
    have hnone := Store.partiesNamed_eq_nil (Store.relyingPartiesNamed_eq_nil (atMostOne_eq_none hold))
    refine .pure ⟨[], ⟨?_, List.nodup_nil, fun id => ?_⟩, ?_⟩
    · rw [hnone]
      exact Nat.zero_le 1
    · rw [Store.linkedTo_eq_nil hnone]
      exact iff_of_false List.not_mem_nil fun h => List.not_mem_nil h.2
    · rw [hnone]
      exact .refl hq
  | some v =>
    obtain ⟨p, hp, rfl, rfl, hids, hone⟩ := Store.partiesNamed_sole (atMostOne_eq_some hold)
    show ((inMemory sink settings).tearDown (s.view p) withRuleGroups).Ends s _ _
    rw [tearDown_eq, hids]
    refine (deleteGroups_removes hs hc hq p withRuleGroups).bind ?_
    rintro - u ⟨taken, honce, htaken, hu⟩
    have hparties : u.relyingParties = s.relyingParties := by
      show u.records.relyingParties = _
      rw [hu.records]
      exact List.filter_eq_self.mpr fun _ _ => rfl
    have hkeys : (s.view p).keys.Perm (u.keysOf p.id) := by
      have hkeys : u.keys = s.keys := by
        show u.records.keys = _
        rw [hu.records]
        exact List.filter_eq_self.mpr fun _ _ => rfl
      unfold Store.keysOf
      rw [hkeys]
      exact List.mergeSort_perm _ _
    refine (removeParty_removes (hu.steps.sound hs) hu.idle (hparties ▸ hp) (hparties ▸ hone) rfl
      hkeys).mono ?_ fun _ _ _ => trivial
    intro _ t ht
    refine ⟨taken, ⟨by rw [hids]; exact Nat.le_refl 1, honce, fun id => ?_⟩, ?_⟩
    · rw [htaken, Store.mem_linkedTo hids]
    · have hall := hu.trans ht
      rw [List.append_nil, List.nil_append] at hall
      exact hall

/-! ## what is added -/

/-- a new relying party with its keys, and with one link to each of these rule groups; `s` is a store
from before -/
structure Creation (s : Store) (d : RelyingParty.Draft) (groups : List Id)
    (p : RelyingParty.Stored) (created : Records) : Prop where
  profile : p.toProfile = d.toProfile
  relyingParties : created.relyingParties = [p]
  ruleGroups : created.ruleGroups = []
  rules : created.rules = []
  keys : created.keys.map (·.content) = d.keys
  owned : ∀ k ∈ created.keys, k.relyingParty = p.id
  links : (created.links.map (·.toDraft)).Perm (groups.map fun id => ⟨p.id, id⟩)
  fresh : ∀ id ∈ created.identities, ¬ s.Used id

theorem Creation.owned_links {d : RelyingParty.Draft} {groups : List Id} {p : RelyingParty.Stored}
    {created : Records} (h : Creation s d groups p created) :
    ∀ l ∈ created.links, l.relyingParty = p.id := by
  intro l hl
  have hmem := h.links.mem_iff.mp (List.mem_map_of_mem hl)
  obtain ⟨id, -, hid⟩ := List.mem_map.mp hmem
  show l.toDraft.relyingParty = p.id
  rw [← hid]

/-- the new relying party is none from before -/
theorem Creation.ne {d : RelyingParty.Draft} {groups : List Id} {p : RelyingParty.Stored}
    {created : Records} (h : Creation s d groups p created) (hs : s.Sound) :
    ∀ q ∈ s.relyingParties, q.id ≠ p.id := by
  intro q hq hid
  have hp : p ∈ created.relyingParties := by
    rw [h.relyingParties]
    exact List.mem_singleton.mpr rfl
  refine h.fresh p.id (Records.relyingParty_mem_identities hp) ?_
  exact hid ▸ hs.used q.id (Store.relyingParty_mem_identities hq)

theorem Creation.since {d : RelyingParty.Draft} {groups : List Id} {p : RelyingParty.Stored}
    {created : Records} (h : Creation u d groups p created) (hsteps : s.Steps u) :
    Creation s d groups p created :=
  { h with fresh := fun id hid hused => h.fresh id hid (hused.mono hsteps.inherits.created) }

theorem createParty_creates (u : Store) (d : RelyingParty.Draft) :
    ((inMemory sink settings).createParty d).Ends u
      (fun _ v => (∀ p ∈ u.relyingParties, p.name ≠ d.name)
        ∧ v = (u.insertRelyingParty d).2.record (.addRelyingParty d))
      (fun e _ => e.isRemote = true) :=
  addRelyingParty_bind (fun hnew _ => (emit_quiet _ _).bind ((emit_quiet _ _).bind
    ((recordCreated_quiet _).ends ⟨hnew, rfl⟩))) fun _ _ => rfl

/-- links to all rule groups that match -/
theorem linkAll_links (hs : s.Sound) (hq : s.queue = []) {p : RelyingParty.Stored}
    (hp : p ∈ s.relyingParties) (hone : ∀ p' ∈ s.relyingParties, p'.name = p.name → p' = p)
    {texts : List String} {patterns : List Pattern}
    (hpatterns : texts.map Pattern.ofText? = patterns.map some) :
    ((inMemory sink settings).linkAll p.name patterns).Ends s
      (fun _ t => ∃ links : List Link.Stored, t.records = s.records ++ { links := links }
        ∧ (links.map (·.toDraft)).Perm ((s.matching texts).map fun id => ⟨p.id, id⟩)
        ∧ (∀ l ∈ links, ¬ s.Used l.id) ∧ t.queue = [] ∧ t.deletedRuleGroups = s.deletedRuleGroups)
      (fun _ _ => True) := by
  refine ((linkPatterns_ends (Store.relyingPartiesNamed_of_sole hs hp hone)).mono (fun _ _ h => h)
    fun _ _ _ => trivial).bind ?_
  rintro linked t ⟨new, hnew⟩
  have hmatching : (new.map fun g => (⟨p.id, g.id⟩ : Link.Draft)).Perm
      ((s.matching texts).map fun id => ⟨p.id, id⟩) := by
    have hperm := (hnew.toPicks.perm hs).map fun g => (⟨p.id, g.id⟩ : Link.Draft)
    unfold Store.matching
    rw [List.map_map, List.filter_congr fun g _ => any_finds hpatterns g.name]
    exact hperm
  split
  · rw [hnew.queue]
    refine saveChanges_ends (fun _ => ?_) (fun _ _ => trivial) fun _ _ => trivial
    let w : Store := { s.queueAll (linksTo p.id new) with queue := [] }
    obtain ⟨links, hrecords, hdrafts, hfresh⟩ :=
      w.records_applyLinks (new.map fun g => ⟨p.id, g.id⟩)
    refine ⟨links, ?_, hdrafts ▸ hmatching, hfresh, Store.committed_queue _, ?_⟩
    · show (w.applyBatch (s.queue ++ linksTo p.id new)).records = _
      have hlinks : linksTo p.id new = (new.map fun g => (⟨p.id, g.id⟩ : Link.Draft)).map .link := by
        rw [List.map_map]
        rfl
      rw [hq, List.nil_append, hlinks, hrecords]
      rfl
    · refine s.deletedRuleGroups_unchanged fun c hc => ?_
      obtain ⟨g, -, rfl⟩ := List.mem_map.mp hc
      rfl
  · rename_i hempty
    have hnil := hnew.eq_nil hempty
    have ht : t = s := by
      rw [hnew.queue, hnil]
      exact s.queueAll_nil
    rw [hnil] at hmatching
    rw [ht]
    refine .pure ⟨[], s.records.append_empty.symm, hmatching, fun l hl => ?_, hq, rfl⟩
    exact absurd hl List.not_mem_nil

/-- the new relying party is the only one of its name, and links go from there -/
theorem createParty_linkAll_creates (hus : u.Sound) (hq : u.queue = []) {d : RelyingParty.Draft}
    {texts : List String} {patterns : List Pattern}
    (hpatterns : texts.map Pattern.ofText? = patterns.map some) :
    ((inMemory sink settings).createParty d >>= fun _ =>
        (inMemory sink settings).linkAll d.name patterns).Ends u
      (fun _ t => ∃ p created, t.records = u.records ++ created
        ∧ t.deletedRuleGroups = u.deletedRuleGroups ∧ Creation u d (t.matching texts) p created)
      (fun _ _ => True) := by
  refine ((createParty_creates u d).mono (fun _ _ h => h) fun _ _ _ => trivial).bind ?_
  rintro - v ⟨hnew, hv⟩
  obtain ⟨keys, hrecords, hkeys, howned⟩ := u.records_insertRelyingParty d
  obtain ⟨_, hframe, -⟩ := u.insertRelyingParty_frame d
  let p : RelyingParty.Stored := ⟨d.toProfile, u.nextId⟩
  have hvs : v.Sound := hv ▸ (hus.insertRelyingParty d).congr rfl
  have hvrecords : v.records = u.records ++ { relyingParties := [p], keys := keys } := hv ▸ hrecords
  have hparties : v.relyingParties = u.relyingParties ++ [p] :=
    congrArg Records.relyingParties hvrecords
  have hp : p ∈ v.relyingParties := hparties ▸ List.mem_append_right _ (List.mem_singleton.mpr rfl)
  have hone : ∀ p' ∈ v.relyingParties, p'.name = p.name → p' = p := by
    rw [hparties]
    intro p' hp' hn
    rcases List.mem_append.mp hp' with hp' | hp'
    · exact absurd hn (hnew p' hp')
    · exact List.mem_singleton.mp hp'
  have hvq : v.queue = [] := by
    rw [hv, hframe]
    exact hq
  have hvdeleted : v.deletedRuleGroups = u.deletedRuleGroups := by
    rw [hv, Store.deletedRuleGroups_record _ rfl, hframe]
    rfl
  have husedv {id : Id} (h : u.Used id) : v.Used id := by
    rw [hv]
    exact h.mono (Store.Inherits.insertRelyingParty u d).created
  refine (linkAll_links hvs hvq hp hone hpatterns).mono ?_ fun _ _ _ => trivial
  rintro - t ⟨links, htrecords, hlinks, hfresh, -, hdeleted⟩
  have hgroups : t.ruleGroups = v.ruleGroups :=
    (congrArg Records.ruleGroups htrecords).trans (List.append_nil _)
  have hmatching : t.matching texts = v.matching texts := by
    unfold Store.matching
    rw [hgroups]
  refine ⟨p, { relyingParties := [p], keys := keys, links := links }, ?_, hdeleted.trans hvdeleted,
    { profile := rfl, relyingParties := rfl, ruleGroups := rfl, rules := rfl, keys := hkeys
      owned := fun k hk => (howned k hk).1, links := hmatching ▸ hlinks, fresh := ?_ }⟩
  · rw [htrecords, hvrecords, Records.append_assoc]
    show _ ++ Records.append _ _ = _
    simp [Records.append]
  · intro id hid hused
    rcases List.mem_cons.mp hid with rfl | hid
    · exact u.not_used_nextId hused
    · have hid : id ∈ keys.map (·.id) ++ links.map (·.id) := hid
      rcases List.mem_append.mp hid with hid | hid
      · obtain ⟨k, hk, rfl⟩ := List.mem_map.mp hid
        exact (howned k hk).2 hused
      · obtain ⟨l, hl, rfl⟩ := List.mem_map.mp hid
        exact hfresh l hl (husedv hused)

/-! ## commands -/

/-- what a command about the relying parties of a name has made of `s` -/
structure Replaced (s : Store) (name : String) (taken : List Id) (created : Records) (t : Store) :
    Prop where
  records : t.records = s.records.without (s.partiesNamed name) taken ++ created
  deleted : t.deletedRuleGroups = s.deletedRuleGroups ++ taken

namespace Replaced
variable {taken : List Id} {created : Records} (h : Replaced s name taken created t)
include h

theorem relyingParties : t.relyingParties
    = s.relyingParties.filter (·.id ∉ s.partiesNamed name) ++ created.relyingParties :=
  congrArg Records.relyingParties h.records

theorem ruleGroups : t.ruleGroups = s.ruleGroups.filter (·.id ∉ taken) ++ created.ruleGroups :=
  congrArg Records.ruleGroups h.records

theorem keys :
    t.keys = s.keys.filter (·.relyingParty ∉ s.partiesNamed name) ++ created.keys :=
  congrArg Records.keys h.records

theorem links : t.links = (s.links.filter fun l => l.relyingParty ∉ s.partiesNamed name
    ∧ l.ruleGroup ∉ taken) ++ created.links :=
  congrArg Records.links h.records

end Replaced

theorem addRelyingParty_replaces (hs : s.Sound) (hc : s.Closed) (hq : s.queue = [])
    (new : AddRelyingParty) : ((inMemory sink settings).addRelyingParty new).Ends s
      (fun _ t => ∃ d taken p created, draft settings new = .ok d
        ∧ Taken s d.name new.removeRelatedRuleGroups taken ∧ Replaced s d.name taken created t
        ∧ Creation s d (t.matching new.patterns) p created) (fun _ _ => True) := by
  rw [addRelyingParty_eq]
  refine .check (fun _ _ => trivial) fun d hd => ?_
  refine ((compilePatterns_ends new.patterns).mono (fun _ _ h => h) fun _ _ _ => trivial).bind ?_
  rintro patterns s' ⟨hs', hpatterns⟩
  rw [hs']
  refine findRelyingParties_bind (.check (fun _ _ => trivial) fun old hold => ?_)
  refine (tearDownAny_removes hs hc hq hold).bind ?_
  rintro - u ⟨taken, htaken, hu⟩
  have hus : u.Sound := hu.steps.sound hs
  refine (createParty_linkAll_creates hus hu.idle hpatterns).mono ?_ fun _ _ _ => trivial
  rintro - t ⟨p, created, hrecords, hdeleted, hcreation⟩
  refine ⟨d, taken, p, created, hd, htaken, ⟨?_, ?_⟩, hcreation.since hu.steps⟩
  · rw [hrecords, hu.records]
  · rw [hdeleted, hu.deleted]

theorem removeRelyingParty_replaces (hs : s.Sound) (hc : s.Closed) (hq : s.queue = [])
    (name : String) (withRuleGroups : Bool) :
    ((inMemory sink settings).removeRelyingParty name withRuleGroups).Ends s
      (fun _ t => ∃ taken, Taken s name withRuleGroups taken ∧ Replaced s name taken {} t)
      (fun _ _ => True) := by
  refine .check (fun _ _ => trivial) fun g hg => ?_
  obtain ⟨hg, -⟩ := requiredField_eq_ok.mp hg
  cases hg
  refine findRelyingParties_bind (.check (fun _ _ => trivial) fun old hold => ?_)
  have htear : ((inMemory sink settings).tearDownAny old withRuleGroups).Ends s
      (fun _ u => ∃ taken, Taken s name withRuleGroups taken
        ∧ Removes s (s.partiesNamed name) taken u) (fun _ _ => True) :=
    tearDownAny_removes hs hc hq hold
  have hreplaced (u : Store) (h : ∃ taken, Taken s name withRuleGroups taken
      ∧ Removes s (s.partiesNamed name) taken u) :
      ∃ taken, Taken s name withRuleGroups taken ∧ Replaced s name taken {} u := by
    obtain ⟨taken, htaken, hu⟩ := h
    exact ⟨taken, htaken, hu.records.trans (Records.append_empty _).symm, hu.deleted⟩
  cases old with
  | none => exact htear.bind fun _ u hu => (note_quiet _).ends (hreplaced u hu)
  | some old => exact htear.mono (fun _ u hu => hreplaced u hu) fun _ _ h => h

end Reconciler
end AccessControl
