import AccessControl.Proofs.Reconcile.Outcome

/-!
# Linking a relying party

A run queues links pattern by pattern and commits them together.  A rule group that several patterns
are found in is linked once.

* `Picks`            a choice of rule groups, each of them once and none that was linked before;
* `linkPatterns_ends`   the links that are queued go to the rule groups that some pattern is found in;
* `linkAll_ends`     what becomes of them.
-/

namespace AccessControl.Reconciler
open Classical

variable {sink : Sink} {settings : Settings} {s w v t : Store} {o q : Set Subject}
  {fair taking : Prop}

/-- `new` are those of the wanted rule groups that are not `linked` yet, each of them once -/
structure Picks (linked : List Id) (wanted : Set RuleGroup) (new : List RuleGroup) : Prop where
  nodup : (new.map (·.id)).Nodup
  fresh : ∀ g ∈ new, g.id ∉ linked
  covers : ∀ g ∈ wanted, g.id ∈ linked ∨ g.id ∈ new.map (·.id)
  wanted : ∀ g ∈ new, g ∈ wanted

def linksTo (relyingParty : Id) (groups : List RuleGroup) : List Change :=
  groups.map fun g => .link ⟨relyingParty, g.id⟩

/-- from `w` to `t` links to `new` were queued, and the run knows `linked` and them as linked -/
structure Queued (w : Store) (relyingParty : Id) (linked : List Id) (wanted : Set RuleGroup)
    (linked' : List Id) (t : Store) (new : List RuleGroup) : Prop
    extends Picks linked wanted new where
  known : linked' = (new.map (·.id)).reverse ++ linked
  queue : t = w.queueAll (linksTo relyingParty new)
  able : w.Fails .link → new = []

/-! ## queueing links -/

section
variable {relyingParty : Id} {linked linked' linked'' : List Id} {wanted wanted' : Set RuleGroup}
  {new new' : List RuleGroup} {g : RuleGroup}

theorem Picks.nil (h : ∀ g ∈ wanted, g.id ∈ linked) : Picks linked wanted [] where
  nodup := List.nodup_nil
  fresh := fun _ hg => absurd hg List.not_mem_nil
  covers := fun g hg => .inl (h g hg)
  wanted := fun _ hg => absurd hg List.not_mem_nil

theorem Picks.one (h : g.id ∉ linked) : Picks linked {g} [g] where
  nodup := List.nodup_singleton _
  fresh := fun g' hg' => by
    rw [List.mem_singleton.mp hg']
    exact h
  covers := fun g' hg' => .inr (List.mem_map_of_mem (List.mem_singleton.mpr hg'))
  wanted := fun g' hg' => List.mem_singleton.mp hg'

theorem Picks.append (h : Picks linked wanted new)
    (h' : Picks ((new.map (·.id)).reverse ++ linked) wanted' new') :
    Picks linked (wanted ∪ wanted') (new ++ new') where
  nodup := by
    rw [List.map_append]
    refine List.nodup_append.mpr ⟨h.nodup, h'.nodup, fun id hid id' hid' heq => ?_⟩
    obtain ⟨g', hg', rfl⟩ := List.mem_map.mp hid'
    exact h'.fresh g' hg' (List.mem_append_left _ (List.mem_reverse.mpr (heq ▸ hid)))
  fresh := fun g hg => by
    rcases List.mem_append.mp hg with hg | hg
    · exact h.fresh g hg
    · exact fun hl => h'.fresh g hg (List.mem_append_right _ hl)
  covers := fun g hg => by
    rw [List.map_append, List.mem_append]
    rcases hg with hg | hg
    · exact (h.covers g hg).imp_right .inl
    · rcases h'.covers g hg with hl | hn
      · rcases List.mem_append.mp hl with hl | hl
        · exact .inr (.inl (List.mem_reverse.mp hl))
        · exact .inl hl
      · exact .inr (.inr hn)
  wanted := fun g hg => by
    rcases List.mem_append.mp hg with hg | hg
    · exact .inl (h.wanted g hg)
    · exact .inr (h'.wanted g hg)

theorem Queued.nil (h : ∀ g ∈ wanted, g.id ∈ linked) :
    Queued w relyingParty linked wanted linked w [] where
  toPicks := .nil h
  known := rfl
  queue := w.queueAll_nil.symm
  able := fun _ => rfl

theorem Queued.one (h : g.id ∉ linked) (hable : ¬ w.Fails .link) :
    Queued w relyingParty linked {g} (g.id :: linked) (w.queueAll [.link ⟨relyingParty, g.id⟩])
      [g] where
  toPicks := .one h
  known := rfl
  queue := rfl
  able := fun hfails => absurd hfails hable

theorem Queued.append (h : Queued w relyingParty linked wanted linked' v new)
    (h' : Queued v relyingParty linked' wanted' linked'' t new') :
    Queued w relyingParty linked (wanted ∪ wanted') linked'' t (new ++ new') where
  toPicks := h.toPicks.append (h.known ▸ h'.toPicks)
  known := by
    rw [h'.known, h.known, List.map_append, List.reverse_append, List.append_assoc]
  queue := by
    rw [h'.queue, h.queue, ← Store.queueAll_append, linksTo, linksTo, linksTo, List.map_append]
  able := fun hfails => by
    have hv : v.Fails .link := by
      rw [h.queue]
      exact hfails
    rw [h.able hfails, h'.able hv, List.append_nil]

/-- nothing is queued if nothing is known as linked -/
theorem Queued.eq_nil (h : Queued w relyingParty [] wanted linked t new)
    (hempty : ¬ (!linked.isEmpty) = true) : new = [] := by
  have hlinked : linked = [] := by simpa using hempty
  rw [h.known, List.append_nil] at hlinked
  exact List.map_eq_nil_iff.mp (List.reverse_eq_nil_iff.mp hlinked)

/-- only a refused call can stop this -/
theorem linkGroups_ends {name : String} {groups : List RuleGroup} :
    ((inMemory sink settings).linkGroups name relyingParty linked groups).Ends w
      (fun linked' t => ∃ new, Queued w relyingParty linked {g | g ∈ groups} linked' t new)
      (fun e t => e.isRemote = true ∧ t = w ∧ w.Fails .link) := by
  induction groups generalizing w linked with
  | nil => exact .pure ⟨[], .nil fun _ hg => absurd hg List.not_mem_nil⟩
  | cons g groups ih =>
    have hcons : {g' | g' ∈ g :: groups} = {g} ∪ {g' | g' ∈ groups} := by
      ext g'
      simp
    rw [hcons]
    unfold linkGroups
    split
    · rename_i hlinked
      have hlinked : ∀ g' ∈ ({g} : Set RuleGroup), g'.id ∈ linked := by
        rintro g' rfl
        exact List.contains_iff_mem.mp hlinked
      refine ih.mono ?_ fun _ _ h => h
      rintro linked' t ⟨new, h⟩
      exact ⟨new, (Queued.nil hlinked).append h⟩
    · rename_i hlinked
      have hlinked : g.id ∉ linked := fun h => hlinked (List.contains_iff_mem.mpr h)
      refine link_bind (fun hable => ?_) fun hfails _ => ⟨rfl, rfl, hfails⟩
      refine (emit_quiet _ _).bind ((recordLinked_quiet _).bind (ih.mono ?_ ?_))
      · rintro linked' t ⟨new, h⟩
        exact ⟨g :: new, (Queued.one hlinked hable).append h⟩
      · exact fun _ _ h => absurd h.2.2 hable

end

/-- the rule groups that some pattern is found in -/
def matched (w : Store) (patterns : List Pattern) : Set RuleGroup :=
  {g | g ∈ w.ruleGroups ∧ ∃ pattern ∈ patterns, pattern.isFoundIn g.name = true}

theorem matched_cons (w : Store) (pattern : Pattern) (patterns : List Pattern) :
    matched w (pattern :: patterns)
      = {g | g ∈ w.sortedRuleGroups.filter fun group => pattern.isFoundIn group.name}
        ∪ matched w patterns := by
  ext g
  have hmem : g ∈ w.sortedRuleGroups ↔ g ∈ w.ruleGroups := (List.mergeSort_perm _ _).mem_iff
  simp [matched, hmem, and_or_left]

/-- only a refused call can stop this; links that wait then were queued although a listing has no
end -/
theorem linkPatterns_ends {name : String} {linked : List Id} {patterns : List Pattern}
    {view : RelyingParty} (hfound : w.relyingPartiesNamed name = [view]) :
    ((inMemory sink settings).linkPatterns name linked patterns).Ends w
      (fun linked' t => ∃ new, Queued w view.id linked (matched w patterns) linked' t new)
      (fun e t => e.isRemote = true ∧ ∃ new : List RuleGroup, (∀ g ∈ new, g ∈ w.ruleGroups)
        ∧ t = w.queueAll (linksTo view.id new) ∧ (w.Listable → new = [] ∧ w.Fails .link)) := by
  induction patterns generalizing w linked with
  | nil =>
    refine .pure ⟨[], .nil fun g hg => ?_⟩
    obtain ⟨-, pattern, hp, -⟩ := hg
    exact absurd hp List.not_mem_nil
  | cons pattern patterns ih =>
    have hnone : ∀ g ∈ ([] : List RuleGroup), g ∈ w.ruleGroups := fun _ h => absurd h List.not_mem_nil
    rw [matched_cons]
    refine findRelyingParties_bind (.check (fun e he => ?_) fun p hp => ?_)
    · exact absurd (by rw [hfound]; rfl) (exactlyOne_eq_error he)
    · have hp := exactlyOne_eq_ok.mp hp
      rw [hfound] at hp
      cases hp
      let bad (e : ReconcileError) (t : Store) : Prop :=
        e.isRemote = true ∧ ∃ new : List RuleGroup, (∀ g ∈ new, g ∈ w.ruleGroups)
          ∧ t = w.queueAll (linksTo view.id new) ∧ (w.Listable → new = [] ∧ w.Fails .link)
      have hlisted : (remote Store.backend.ruleGroups).Ends w
          (fun groups t => groups = w.sortedRuleGroups ∧ t = w) bad := by
        refine ruleGroups_listed ⟨rfl, rfl⟩ fun hlarge e => ⟨rfl, [], hnone, w.queueAll_nil.symm, ?_⟩
        exact fun hlist => absurd hlarge (Nat.not_le_of_lt hlist)
      refine hlisted.bind ?_
      · intro groups u ⟨hgroups, hu⟩
        rw [hgroups, hu]
        refine (note_quiet _).bind ((linkGroups_ends.mono (fun _ _ h => h) ?_).bind ?_)
        · rintro e t ⟨he, ht, hfails⟩
          exact ⟨he, [], hnone, ht.trans w.queueAll_nil.symm, fun _ => ⟨rfl, hfails⟩⟩
        · rintro linked' v ⟨new, hnew⟩
          have hv := hnew.queue
          subst hv
          refine (ih (w := w.queueAll (linksTo view.id new)) hfound).mono ?_ ?_
          · exact fun _ _ ⟨new', hnew'⟩ => ⟨new ++ new', hnew.append hnew'⟩
          · rintro e t ⟨he, new', hnew', ht, hwhy⟩
            refine ⟨he, new ++ new', fun g hg => ?_, ?_, fun hlist => ?_⟩
            · rcases List.mem_append.mp hg with hg | hg
              · have hg : g ∈ w.sortedRuleGroups :=
                  (List.mem_filter.mp (hnew.wanted g hg)).1
                exact (List.mergeSort_perm _ _).mem_iff.mp hg
              · exact hnew' g hg
            · rw [ht, ← Store.queueAll_append, linksTo, linksTo, linksTo, List.map_append]
            · obtain ⟨hnil, hfails⟩ := hwhy hlist
              exact ⟨by rw [hnew.able hfails, hnil, List.append_nil], hfails⟩

/-! ## committing links -/

theorem linksTo_within (hs : s.Sound) {p : RelyingParty.Stored} (hp : p ∈ s.relyingParties)
    (hpq : .relyingParty p.name ∈ q) (groups : List RuleGroup) :
    ∀ c ∈ linksTo p.id groups, c.Within s q := by
  intro c hc
  obtain ⟨g, -, rfl⟩ := List.mem_map.mp hc
  refine .link (hs.used _ (Store.relyingParty_mem_identities hp)) fun p' hp' hid => ?_
  rw [hs.relyingParty_eq hp' hp hid]
  exact hpq

/-- all rule groups that some pattern is found in are picked -/
theorem Picks.perm (hs : s.Sound) {patterns : List Pattern} {new : List RuleGroup}
    (h : Picks [] (matched s patterns) new) :
    new.Perm (s.ruleGroups.filter fun g => patterns.any fun p => p.isFoundIn g.name) := by
  refine (List.perm_ext_iff_of_nodup (List.Nodup.of_map _ h.nodup)
    ((List.Nodup.of_map _ hs.ruleGroupIds).filter _)).mpr fun g => ?_
  rw [List.mem_filter, List.any_eq_true]
  constructor
  · exact fun hg => h.wanted g hg
  · rintro ⟨hg, hfound⟩
    have hid := (h.covers g ⟨hg, hfound⟩).resolve_left List.not_mem_nil
    obtain ⟨g', hg', hid⟩ := List.mem_map.mp hid
    rw [← hs.ruleGroup_eq (h.wanted g' hg').1 hg hid]
    exact hg'

theorem Picks.names (hs : s.Sound) {patterns : List Pattern} {new : List RuleGroup}
    (h : Picks [] (matched s patterns) new) :
    (new.map (·.name)).Perm
      ((s.ruleGroups.map (·.name)).filter fun g => patterns.any fun p => p.isFoundIn g) := by
  rw [List.filter_map]
  exact (h.perm hs).map _

/-- a relying party without links is linked to all rule groups that match, or the links are lost or
wait -/
theorem linkAll_ends (hs : s.Sound) {p : RelyingParty.Stored} (hp : p ∈ s.relyingParties)
    (hone : ∀ p' ∈ s.relyingParties, p'.name = p.name → p' = p)
    (hfree : ∀ l ∈ s.links, l.relyingParty ≠ p.id) (patterns : List Pattern)
    (ho : s.QueueWithin o) (hq : s.QueueWithin q) (hpq : .relyingParty p.name ∈ q) :
    ((inMemory sink settings).linkAll p.name patterns).Ends s
      (fun _ t => ∃ names : List String,
        names.Perm ((s.ruleGroups.map (·.name)).filter fun g => patterns.any fun p => p.isFoundIn g)
          ∧ t.contents.hide o = (s.contents.link p.name names).hide o ∧ t.QueueWithin o
          ∧ (s.queue = [] → t.queue = []) ∧ t.ruleGroups.length ≤ s.ruleGroups.length)
      (fun e t => Stopped q fair taking e s t) := by
  have hwithin := linksTo_within hs hp hpq
  refine ((linkPatterns_ends (Store.relyingPartiesNamed_of_sole hs hp hone)).mono (fun _ _ h => h)
    ?_).bind ?_
  · rintro e t ⟨-, new, -, rfl, hwhy⟩
    refine .queued hs hq (hwithin new) (fun _ _ _ hlist => ?_) fun _ hfailing hlist => ?_
    · rw [(hwhy hlist).1]
      rfl
    · exact Store.not_fails_of_failing_nil hfailing .link (hwhy hlist).2
  · rintro linked t ⟨new, hnew⟩
    have hgroups : ∀ g ∈ new, g ∈ s.ruleGroups := fun g hg => (hnew.wanted g hg).1
    have hnames := hnew.toPicks.names hs
    split
    · rw [hnew.queue]
      refine commit_ends hs hq (hwithin new) (fun _ _ => ?_) fun hc _ => ?_
      · have hids : linksTo p.id new = (new.map (·.id)).map fun id => .link ⟨p.id, id⟩ := by
          rw [List.map_map]
          rfl
        rw [hids]
        refine Store.checkChanges_links (Store.exists?_relyingParty.mpr ⟨p, hp, rfl⟩)
          List.not_mem_nil hfree (fun id hid => ?_) hnew.nodup fun _ _ => List.not_mem_nil
        obtain ⟨g, hg, rfl⟩ := List.mem_map.mp hid
        exact ⟨Store.exists?_ruleGroup.mpr ⟨g, hgroups g hg, rfl⟩, List.not_mem_nil⟩
      · refine ⟨_, hnames, ?_, .nil (Store.committed_queue _), fun _ => Store.committed_queue _,
          (Store.committed_ruleGroups (s.queueAll (linksTo p.id new))).length_le⟩
        exact Store.hide_committed_links hs ho hp hone hgroups rfl hc
    · rename_i hempty
      have hnil := hnew.eq_nil hempty
      have ht := hnew.queue
      rw [hnil] at hnames ht
      have ht : t = s := ht.trans s.queueAll_nil
      subst ht
      refine .pure ⟨[], hnames, ?_, ho, fun h => h, Nat.le_refl _⟩
      rw [Contents.link_nil]

end AccessControl.Reconciler
