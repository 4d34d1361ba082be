import AccessControl.Proofs.Store.Steps

/-!
# Queued changes

A change waits in the queue until the next commit, whoever commits.  `Store.QueueWithin s o` says that
what waits in `s` deletes and links only resources named in `o`.  A commit of such a queue does not
show outside `o` (`hide_committed`), and if nothing of a name is left the queue does not concern it any
more (`QueueWithin.shrink`).
-/

namespace AccessControl
open Classical

/-- the change deletes a rule group or a key, or links a relying party, and its name is in `o` -/
inductive Change.Within (s : Store) (o : Set Subject) : Change → Prop where
  | ruleGroup {id : Id} (used : s.Used id)
      (named : ∀ g ∈ s.ruleGroups, g.id = id → .ruleGroup g.name ∈ o) :
    Within s o (.delete .ruleGroup id)
  | key {id : Id} (used : s.Used id)
      (named : ∀ k ∈ s.keys, k.id = id → ∀ p ∈ s.relyingParties, p.id = k.relyingParty →
        .relyingParty p.name ∈ o) :
    Within s o (.delete .relyingPartyKey id)
  | link {l : Link.Draft} (used : s.Used l.relyingParty)
      (named : ∀ p ∈ s.relyingParties, p.id = l.relyingParty → .relyingParty p.name ∈ o) :
    Within s o (.link l)

namespace Change.Within
variable {s t : Store} {o q : Set Subject} {c : Change}

theorem mono (h : c.Within s o) (hoq : o ⊆ q) : c.Within s q := by
  cases h with
  | ruleGroup hu hn => exact .ruleGroup hu fun g hg hid => hoq (hn g hg hid)
  | key hu hn => exact .key hu fun k hk hid p hp hpk => hoq (hn k hk hid p hp hpk)
  | link hu hn => exact .link hu fun p hp hid => hoq (hn p hp hid)

/-- the resource is either gone or still the same -/
theorem inherits (hs : s.Sound) (h : c.Within s o) (hst : s.Inherits t) : c.Within t o := by
  cases h with
  | ruleGroup hu hn =>
    refine .ruleGroup (hu.mono hst.created) fun g hg hid => ?_
    exact hn g (hst.ruleGroup g hg (hid ▸ hu)) hid
  | key hu hn =>
    refine .key (hu.mono hst.created) fun k hk hid p hp hpk => ?_
    have hk := hst.key k hk (hid ▸ hu)
    obtain ⟨p', hp', hpk', -⟩ := hs.keyOwner k hk
    have hpu : s.Used p.id := by
      rw [hpk, ← hpk']
      exact hs.used _ (Store.relyingParty_mem_identities hp')
    exact hn k hk hid p (hst.relyingParty p hp hpu) hpk
  | link hu hn =>
    refine .link (hu.mono hst.created) fun p hp hid => ?_
    exact hn p (hst.relyingParty p hp (hid ▸ hu)) hid

theorem shrink (h : c.Within s (o ∪ q)) (hq : ∀ x ∈ q, s.contents.Lacks x) : c.Within s o := by
  have hgroup {g : RuleGroup} (hg : g ∈ s.ruleGroups) : .ruleGroup g.name ∉ q := fun hgq =>
    (hq _ hgq).1 (s.ruleGroupContent g) (List.mem_map_of_mem hg) rfl
  have hparty {p : RelyingParty.Stored} (hp : p ∈ s.relyingParties) : .relyingParty p.name ∉ q :=
    fun hpq => hq _ hpq (s.relyingPartyContent p) (List.mem_map_of_mem hp) rfl
  cases h with
  | ruleGroup hu hn =>
    exact .ruleGroup hu fun g hg hid => (hn g hg hid).resolve_right (hgroup hg)
  | key hu hn =>
    exact .key hu fun k hk hid p hp hpk => (hn k hk hid p hp hpk).resolve_right (hparty hp)
  | link hu hn =>
    exact .link hu fun p hp hid => (hn p hp hid).resolve_right (hparty hp)

end Change.Within

namespace Store

def QueueWithin (s : Store) (o : Set Subject) : Prop := ∀ c ∈ s.queue, c.Within s o

namespace QueueWithin
variable {s t : Store} {o q : Set Subject}

theorem nil (h : s.queue = []) : s.QueueWithin o := fun c hc => by
  rw [h] at hc
  exact absurd hc List.not_mem_nil

theorem mono (h : s.QueueWithin o) (hoq : o ⊆ q) : s.QueueWithin q :=
  fun c hc => (h c hc).mono hoq

theorem inherits (hs : s.Sound) (h : s.QueueWithin o) (hst : s.Inherits t)
    (hqueue : t.queue = s.queue) : t.QueueWithin o := fun c hc =>
  (h c (hqueue ▸ hc)).inherits hs hst

theorem shrink (h : s.QueueWithin (o ∪ q)) (hq : ∀ x ∈ q, s.contents.Lacks x) : s.QueueWithin o :=
  fun c hc => (h c hc).shrink hq

theorem queueAll (hs : s.Sound) (h : s.QueueWithin o) {changes : List Change}
    (hc : ∀ c ∈ changes, c.Within s o) : (s.queueAll changes).QueueWithin o := by
  have hst : s.Inherits (s.queueAll changes) := (Inherits.refl s).congr rfl
  intro c hmem
  rcases List.mem_append.mp hmem with hmem | hmem
  · exact (h c hmem).inherits hs hst
  · exact (hc c hmem).inherits hs hst

end QueueWithin

/-! ## commits -/

theorem hide_applyChange {s : Store} (hs : s.Sound) {o : Set Subject} {c : Change}
    (h : c.Within s o) : (s.applyChange c).contents.hide o = s.contents.hide o := by
  cases h with
  | @ruleGroup id hu hn =>
    show (s.removeIfPresent .ruleGroup id).contents.hide o = _
    unfold removeIfPresent
    split
    · rename_i hex
      obtain ⟨g, hg, hid⟩ := exists?_ruleGroup.mp hex
      exact hide_remove_ruleGroup hs ⟨g, hg, hid, hn g hg hid⟩
    · rfl
  | @key id hu hn =>
    show (s.removeIfPresent .relyingPartyKey id).contents.hide o = _
    unfold removeIfPresent
    split
    · rename_i hex
      obtain ⟨k, hk, rfl⟩ := exists?_relyingPartyKey.mp hex
      obtain ⟨p, hp, hpk, -⟩ := hs.keyOwner k hk
      exact hide_remove_key hs hk ⟨p, hp, hpk, hn k hk rfl p hp hpk⟩
    · rfl
  | link hu hn => exact hide_insertLink s hn

theorem hide_applyBatch {s : Store} (hs : s.Sound) {o : Set Subject} {batch : List Change}
    (h : ∀ c ∈ batch, c.Within s o) : (s.applyBatch batch).contents.hide o = s.contents.hide o := by
  induction batch generalizing s with
  | nil => rfl
  | cons c batch ih =>
    have hst : s.Inherits (s.applyChange c) := Inherits.applyBatch s [c]
    have hrest : ∀ c' ∈ batch, c'.Within (s.applyChange c) o := fun c' hc' =>
      (h c' (List.mem_cons_of_mem _ hc')).inherits hs hst
    calc ((s.applyChange c).applyBatch batch).contents.hide o
        = (s.applyChange c).contents.hide o := ih (hs.applyChange c) hrest
      _ = s.contents.hide o := hide_applyChange hs (h c List.mem_cons_self)

theorem clearQueue_within {s : Store} (hs : s.Sound) {o : Set Subject} {batch : List Change}
    (h : ∀ c ∈ batch, c.Within s o) : ∀ c ∈ batch, c.Within { s with queue := [] } o := fun c hc =>
  (h c hc).inherits hs ((Inherits.refl s).congr rfl)

theorem hide_committed {s : Store} (hs : s.Sound) {o : Set Subject} (h : s.QueueWithin o) :
    s.committed.contents.hide o = s.contents.hide o := by
  have hq : ({ s with queue := [] } : Store).Sound := hs.congr rfl
  calc s.committed.contents.hide o
      = (({ s with queue := [] } : Store).applyBatch s.queue).contents.hide o := by
        rw [contents_congr (t := s.committed) (s := applyBatch { s with queue := [] } s.queue) rfl]
    _ = ({ s with queue := [] } : Store).contents.hide o := hide_applyBatch hq (clearQueue_within hs h)
    _ = s.contents.hide o := by rw [contents_congr (t := { s with queue := [] }) (s := s) rfl]

/-- such a batch removes no relying party -/
theorem applyBatch_relyingParties_eq {s u : Store} {o : Set Subject} {batch : List Change}
    (h : ∀ c ∈ batch, c.Within s o) : (u.applyBatch batch).relyingParties = u.relyingParties := by
  induction batch generalizing u with
  | nil => rfl
  | cons c batch ih =>
    have hc : (u.applyChange c).relyingParties = u.relyingParties := by
      cases h c List.mem_cons_self with
      | @ruleGroup id =>
        show (u.removeIfPresent .ruleGroup id).relyingParties = _
        unfold removeIfPresent
        split <;> rfl
      | @key id =>
        show (u.removeIfPresent .relyingPartyKey id).relyingParties = _
        unfold removeIfPresent
        split <;> rfl
      | link hu hn => rfl
    exact (ih fun c' hc' => h c' (List.mem_cons_of_mem _ hc')).trans hc

theorem committed_relyingParties_eq {s : Store} {o : Set Subject} (h : s.QueueWithin o) :
    s.committed.relyingParties = s.relyingParties :=
  applyBatch_relyingParties_eq (u := { s with queue := [] }) h

/-- what a batch deletes is gone after it, since no batch adds a rule group -/
theorem ruleGroup_deleted {s : Store} {batch : List Change} {id : Id}
    (h : .delete .ruleGroup id ∈ batch) : ∀ g ∈ (s.applyBatch batch).ruleGroups, g.id ≠ id := by
  induction batch generalizing s with
  | nil => exact absurd h List.not_mem_nil
  | cons c batch ih =>
    rcases List.mem_cons.mp h with rfl | h
    · intro g hg
      have hg := (applyBatch_ruleGroups (s.removeIfPresent .ruleGroup id) batch).subset hg
      unfold removeIfPresent at hg
      split at hg
      · exact of_decide_eq_true (List.mem_filter.mp hg).2
      · rename_i hex
        exact fun hid => hex (exists?_ruleGroup.mpr ⟨g, hg, hid⟩)
    · exact ih h

theorem committed_deleted {s : Store} {id : Id} (h : .delete .ruleGroup id ∈ s.queue) :
    ∀ g ∈ s.committed.ruleGroups, g.id ≠ id :=
  ruleGroup_deleted (s := { s with queue := [] }) h

/-! ## commits of links -/

/-- links from the only relying party of its name to rule groups that exist -/
theorem contents_applyLinks {s : Store} (hs : s.Sound) {p : RelyingParty.Stored}
    (hp : p ∈ s.relyingParties) (hone : ∀ p' ∈ s.relyingParties, p'.name = p.name → p' = p)
    {groups : List RuleGroup} (hgroups : ∀ g ∈ groups, g ∈ s.ruleGroups) :
    (s.applyBatch (groups.map fun g => .link ⟨p.id, g.id⟩)).contents
      = s.contents.link p.name (groups.map (·.name)) := by
  induction groups generalizing s with
  | nil => exact (Contents.link_nil s.contents p.name).symm
  | cons g groups ih =>
    have hrest : ∀ g' ∈ groups, g' ∈ (s.insertLink ⟨p.id, g.id⟩).2.ruleGroups := fun g' hg' =>
      hgroups g' (List.mem_cons_of_mem _ hg')
    calc ((s.insertLink ⟨p.id, g.id⟩).2.applyBatch _).contents
        = (s.insertLink ⟨p.id, g.id⟩).2.contents.link p.name (groups.map (·.name)) :=
          ih (hs.insertLink _) hp hone hrest
      _ = (s.contents.link p.name [g.name]).link p.name (groups.map (·.name)) := by
          rw [contents_insertLink hs hp hone (hgroups g List.mem_cons_self)]
      _ = s.contents.link p.name ((g :: groups).map (·.name)) := Contents.link_link ..

/-- what the check says of links that come last in a batch -/
theorem remains_links {s u : Store} {deleted : List Id} {linked : List Link.Draft}
    {relyingParty : Id} {groups : List RuleGroup} (hr : s.Remains deleted u)
    (hgroups : ∀ g ∈ groups, g ∈ s.ruleGroups)
    (hc : s.checkChanges deleted linked (groups.map fun g => .link ⟨relyingParty, g.id⟩) = .ok ()) :
    ∀ g ∈ groups, g ∈ u.ruleGroups := by
  induction groups generalizing linked with
  | nil => exact fun g hg => absurd hg List.not_mem_nil
  | cons g groups ih =>
    obtain ⟨-, hg, -, hrest⟩ := checkChanges_link.mp hc
    intro g' hg'
    rcases List.mem_cons.mp hg' with rfl | hg'
    · exact hr.ruleGroup g' (hgroups g' List.mem_cons_self) hg.2
    · exact ih (fun g hg => hgroups g (List.mem_cons_of_mem _ hg)) hrest g' hg'

/-- links that are committed after changes of hidden resources show as links alone -/
theorem hide_committed_links {s t : Store} (hs : s.Sound) {o : Set Subject} (hq : s.QueueWithin o)
    {p : RelyingParty.Stored} (hp : p ∈ s.relyingParties)
    (hone : ∀ p' ∈ s.relyingParties, p'.name = p.name → p' = p) {groups : List RuleGroup}
    (hgroups : ∀ g ∈ groups, g ∈ s.ruleGroups)
    (ht : t = s.queueAll (groups.map fun g => .link ⟨p.id, g.id⟩))
    (hc : s.checkBatch t.queue = .ok ()) :
    t.committed.contents.hide o = (s.contents.link p.name (groups.map (·.name))).hide o := by
  subst ht
  let links : List Change := groups.map fun g => .link ⟨p.id, g.id⟩
  let u : Store := { s.queueAll links with queue := [] }
  have hu : u.Sound := hs.congr rfl
  have hremains : s.Remains [] u := ⟨fun _ h _ => h, fun _ h _ => h⟩
  have hwithin : ∀ c ∈ s.queue, c.Within u o := fun c h =>
    (hq c h).inherits hs ((Inherits.refl s).congr rfl)
  -- the store between the changes that waited before and the links
  let v := u.applyBatch s.queue
  have hvo : v.contents.hide o = s.contents.hide o := by
    rw [hide_applyBatch hu hwithin, contents_congr (t := u) (s := s) rfl]
  have hvp : v.relyingParties = s.relyingParties := applyBatch_relyingParties_eq hq
  obtain ⟨deleted, linked, hr, hlinks⟩ := hremains.applyBatch hc
  have hvg : ∀ g ∈ groups, g ∈ v.ruleGroups := remains_links hr hgroups hlinks
  have hcommitted : (s.queueAll links).committed
      = (v.applyBatch links).record (.saveChanges (s.queue ++ links).length) := by
    show (u.applyBatch (s.queue ++ links)).record _ = _
    unfold applyBatch
    rw [List.foldl_append]
    rfl
  rw [hcommitted, contents_congr (s := v.applyBatch links) rfl,
    contents_applyLinks (hu.applyBatch s.queue) (hvp ▸ hp) (hvp ▸ hone) hvg, Contents.hide_link, hvo,
    ← Contents.hide_link]

/-! ## names that are gone -/

theorem lacks_ruleGroup {s : Store} (hs : s.Sound) (hc : s.Closed) {name : String}
    (h : ∀ g ∈ s.ruleGroups, g.name ≠ name) : s.contents.Lacks (.ruleGroup name) := by
  constructor
  · intro g hg
    obtain ⟨g', hg', rfl⟩ := List.mem_map.mp hg
    exact h g' hg'
  · intro p hp hn
    obtain ⟨p', -, rfl⟩ := List.mem_map.mp hp
    obtain ⟨g, hg, hgn⟩ := linkedIn_exists hs hc (Multiset.mem_coe.mp hn)
    exact h g hg hgn

theorem lacks_relyingParty {s : Store} {name : String}
    (h : ∀ p ∈ s.relyingParties, p.name ≠ name) : s.contents.Lacks (.relyingParty name) := by
  intro p hp
  obtain ⟨p', hp', rfl⟩ := List.mem_map.mp hp
  exact h p' hp'

end Store
end AccessControl
