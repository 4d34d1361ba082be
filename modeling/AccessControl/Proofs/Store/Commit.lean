import AccessControl.Proofs.Store.Records

/-!
# What a commit leaves

Changes of a batch are applied one after another, and a deletion takes along what belongs to the
resource.  Of an accepted batch the outcome does not depend on the order: it is told by which resources
the batch deletes and which links it makes.

* `Records.spared`       the old records that a batch leaves;
* `lastingLinks`         the links of a batch that it does not undo itself;
* `applyBatch_records`   the records after some changes that pass the check;
* `saveChanges_commits`  the outcome of a commit, for every order of the changes that is accepted.
-/

namespace AccessControl

/-! ## formulas without an order -/

namespace Records

/-- what a batch neither deletes nor takes along with what it deletes -/
def spared (r : Records) (batch : List Change) : Records where
  relyingParties := r.relyingParties.filter fun p => .delete .relyingParty p.id ∉ batch
  ruleGroups := r.ruleGroups.filter fun g => .delete .ruleGroup g.id ∉ batch
  rules := r.rules.filter fun x =>
    .delete .rule x.id ∉ batch ∧ .delete .ruleGroup x.ruleGroup ∉ batch
  keys := r.keys.filter fun k =>
    .delete .relyingPartyKey k.id ∉ batch ∧ .delete .relyingParty k.relyingParty ∉ batch
  links := r.links.filter fun l => .delete .ruleGroupLink l.id ∉ batch
    ∧ .delete .relyingParty l.relyingParty ∉ batch ∧ .delete .ruleGroup l.ruleGroup ∉ batch

/-- only what is deleted matters -/
theorem spared_congr (r : Records) {a b : List Change}
    (h : ∀ kind id, .delete kind id ∈ a ↔ .delete kind id ∈ b) : r.spared a = r.spared b := by
  unfold spared
  simp only [h]

theorem spared_nil (r : Records) : r.spared [] = r := by
  simp [spared]

theorem spared_spared (r : Records) (a b : List Change) :
    (r.spared a).spared b = r.spared (a ++ b) := by
  unfold spared
  simp only [List.filter_filter, List.mem_append, not_or]
  congr 1
  all_goals
    refine List.filter_congr fun x _ => ?_
    grind

theorem spared_append (r r' : Records) (batch : List Change) :
    (r ++ r').spared batch = r.spared batch ++ r'.spared batch := by
  show (append r r').spared batch = append _ _
  simp [spared, append]

end Records

def Change.link? : Change → Option Link.Draft
  | .delete _ _ => none
  | .link l => some l

/-- the batch deletes neither end of the link -/
abbrev Lasts (batch : List Change) (l : Link.Draft) : Prop :=
  .delete .relyingParty l.relyingParty ∉ batch ∧ .delete .ruleGroup l.ruleGroup ∉ batch

/-- the links that a batch makes, wherever they stand in it, without those that do not last -/
def lastingLinks (batch : List Change) : List Link.Draft :=
  (batch.filterMap (·.link?)).filter fun l => Lasts batch l

theorem lastingLinks_perm {a b : List Change} (h : a.Perm b) :
    (lastingLinks a).Perm (lastingLinks b) := by
  unfold lastingLinks Lasts
  simp only [h.mem_iff]
  exact (h.filterMap _).filter _

namespace Store

/-! ## what the check tells of later changes -/

section
variable {s : Store} {deleted : List Id} {linked : List Link.Draft} {batch : List Change}

/-- no link is made to what was deleted before -/
theorem checkChanges_ends (hc : s.checkChanges deleted linked batch = .ok ()) {l : Link.Draft}
    (hl : .link l ∈ batch) : l.relyingParty ∉ deleted ∧ l.ruleGroup ∉ deleted := by
  induction batch generalizing deleted linked with
  | nil => exact absurd hl List.not_mem_nil
  | cons c batch ih =>
    cases c with
    | delete kind id =>
      have h := ih (checkChanges_delete.mp hc).2.2 ((List.mem_cons.mp hl).resolve_left nofun)
      exact ⟨fun hd => h.1 (List.mem_cons_of_mem _ hd), fun hd => h.2 (List.mem_cons_of_mem _ hd)⟩
    | link l' =>
      obtain ⟨hparty, hgroup, -, hrest⟩ := checkChanges_link.mp hc
      rcases List.mem_cons.mp hl with heq | hl
      · cases heq
        exact ⟨hparty.2, hgroup.2⟩
      · exact ih hrest hl

/-- what is deleted was there before the batch -/
theorem checkChanges_exists (hc : s.checkChanges deleted linked batch = .ok ())
    {kind : ResourceKind} {id : Id} (hd : .delete kind id ∈ batch) :
    s.exists? kind id = true := by
  induction batch generalizing deleted linked with
  | nil => exact absurd hd List.not_mem_nil
  | cons c batch ih =>
    cases c with
    | delete kind' id' =>
      obtain ⟨-, hexists, hrest⟩ := checkChanges_delete.mp hc
      rcases List.mem_cons.mp hd with heq | hd
      · cases heq
        exact hexists
      · exact ih hrest hd
    | link l => exact ih (checkChanges_link.mp hc).2.2.2 ((List.mem_cons.mp hd).resolve_left nofun)

theorem mem_identities_of_exists? {kind : ResourceKind} {id : Id} (h : s.exists? kind id = true) :
    id ∈ s.identities := by
  have hmem {α : Type} {l : List α} {f : α → Id} (h : l.any (f · = id) = true) : id ∈ l.map f := by
    obtain ⟨a, ha, hid⟩ := List.any_eq_true.mp h
    exact List.mem_map.mpr ⟨a, ha, of_decide_eq_true hid⟩
  unfold identities
  cases kind with
  | relyingParty => exact List.mem_append_left _ (hmem h)
  | ruleGroup => exact List.mem_append_right _ (List.mem_append_left _ (hmem h))
  | rule =>
    exact List.mem_append_right _ (List.mem_append_right _ (List.mem_append_left _ (hmem h)))
  | relyingPartyKey =>
    exact List.mem_append_right _ (List.mem_append_right _ (List.mem_append_right _
      (List.mem_append_left _ (hmem h))))
  | ruleGroupLink =>
    exact List.mem_append_right _ (List.mem_append_right _ (List.mem_append_right _
      (List.mem_append_right _ (hmem h))))

end

/-! ## one change -/

theorem records_remove (u : Store) (kind : ResourceKind) (id : Id) :
    (u.remove kind id).records = u.records.spared [.delete kind id] := by
  cases kind <;> simp [remove, records, Records.spared]

/-- a relying party or rule group that is to be deleted is there; for other resources it does not
matter, nothing belongs to them -/
theorem records_removeIfPresent_spared {u : Store} {kind : ResourceKind} {id : Id}
    (hparty : kind = .relyingParty → u.exists? kind id = true)
    (hgroup : kind = .ruleGroup → u.exists? kind id = true) :
    (u.removeIfPresent kind id).records = u.records.spared [.delete kind id] := by
  unfold removeIfPresent
  split
  · exact u.records_remove kind id
  · rename_i habsent
    have hself {α : Type} {l : List α} {f : α → Id} (h : ¬ l.any (f · = id) = true) :
        l.filter (f · ≠ id) = l := by
      refine List.filter_eq_self.mpr fun a ha => decide_eq_true fun hid => h ?_
      exact List.any_eq_true.mpr ⟨a, ha, decide_eq_true hid⟩
    rw [← records_remove]
    cases kind with
    | relyingParty => exact absurd (hparty rfl) habsent
    | ruleGroup => exact absurd (hgroup rfl) habsent
    | rule => simp only [remove, hself habsent]
    | relyingPartyKey => simp only [remove, hself habsent]
    | ruleGroupLink => simp only [remove, hself habsent]

/-- a new link lasts as the batch says that comes after it -/
theorem spared_insertLink {u : Store} {l : Link.Draft} {batch : List Change}
    (hfresh : .delete .ruleGroupLink u.nextId ∉ batch) :
    (u.insertLink l).2.records.spared batch = u.records.spared batch
      ++ { links := if Lasts batch l then [⟨l, u.nextId⟩] else [] } := by
  have hrecords : (u.insertLink l).2.records = u.records ++ { links := [⟨l, u.nextId⟩] } := by
    show _ = Records.append _ _
    simp [Records.append, records, insertLink]
  have hlink : ({ links := [⟨l, u.nextId⟩] } : Records).spared batch
      = { links := if Lasts batch l then [⟨l, u.nextId⟩] else [] } := by
    unfold Records.spared
    rw [List.filter_singleton]
    simp [hfresh]
  rw [hrecords, Records.spared_append, hlink]

/-! ## a whole batch -/

/-- `u` is what the changes before these have made of `s`, against which all of them are checked -/
theorem applyBatch_records {s u : Store} (hs : s.Sound) {deleted : List Id}
    {linked : List Link.Draft} {batch : List Change} (hr : s.Remains deleted u)
    (hcreated : s.created ≤ u.created) (hc : s.checkChanges deleted linked batch = .ok ()) :
    ∃ links : List Link.Stored, (u.applyBatch batch).records
        = u.records.spared batch ++ { links := links }
      ∧ links.map (·.toDraft) = lastingLinks batch ∧ ∀ l ∈ links, ¬ u.Used l.id := by
  induction batch generalizing u deleted linked with
  | nil =>
    refine ⟨[], ?_, rfl, fun l hl => absurd hl List.not_mem_nil⟩
    rw [Records.spared_nil, Records.append_empty]
    rfl
  | cons c batch ih =>
    cases c with
    | delete kind id =>
      obtain ⟨hid, hexists, hrest⟩ := checkChanges_delete.mp hc
      have hrecords : (u.removeIfPresent kind id).records = u.records.spared [.delete kind id] := by
        refine records_removeIfPresent_spared (fun hkind => ?_) fun hkind => ?_
        · subst hkind
          obtain ⟨p, hp, rfl⟩ := exists?_relyingParty.mp hexists
          exact exists?_relyingParty.mpr ⟨p, hr.relyingParty p hp hid, rfl⟩
        · subst hkind
          obtain ⟨g, hg, rfl⟩ := exists?_ruleGroup.mp hexists
          exact exists?_ruleGroup.mpr ⟨g, hr.ruleGroup g hg hid, rfl⟩
      have hcreated' : (u.removeIfPresent kind id).created = u.created := by
        unfold removeIfPresent
        split
        · exact u.created_remove kind id
        · rfl
      obtain ⟨links, hlinks, hdrafts, hfresh⟩ :=
        ih (hr.delete kind id) (hcreated'.symm ▸ hcreated) hrest
      refine ⟨links, ?_, ?_, fun l hl hused => hfresh l hl ?_⟩
      · show ((u.removeIfPresent kind id).applyBatch batch).records = _
        rw [hlinks, hrecords, Records.spared_spared]
        rfl
      · -- links to what is deleted first would not have passed the check
        rw [hdrafts]
        refine List.filter_congr fun l hl => ?_
        obtain ⟨c, hc, hcl⟩ := List.mem_filterMap.mp hl
        cases c with
        | delete kind' id' => cases hcl
        | link l' =>
          cases hcl
          obtain ⟨hparty, hgroup⟩ := checkChanges_ends hrest hc
          grind
      · exact hused.mono (Nat.le_of_eq hcreated'.symm)
    | link l =>
      have hrest := (checkChanges_link.mp hc).2.2.2
      have hnew : .delete .ruleGroupLink u.nextId ∉ batch := fun hd => by
        have hused := hs.used _ (mem_identities_of_exists? (checkChanges_exists hrest hd))
        exact u.not_used_nextId (hused.mono hcreated)
      obtain ⟨links, hlinks, hdrafts, hfresh⟩ :=
        ih (hr.link l) (hcreated.trans (Nat.le_succ _)) hrest
      refine ⟨(if Lasts batch l then [⟨l, u.nextId⟩] else []) ++ links, ?_, ?_, ?_⟩
      · show ((u.insertLink l).2.applyBatch batch).records = _
        rw [hlinks, spared_insertLink hnew, Records.append_assoc]
        congr 1
        exact u.records.spared_congr fun kind id => by simp
      · rw [List.map_append, hdrafts]
        unfold lastingLinks
        by_cases hl : Lasts batch l <;> simp [hl, Change.link?, Lasts]
      · intro l' hl' hused
        rcases List.mem_append.mp hl' with hl' | hl'
        · split at hl'
          · rw [List.mem_singleton.mp hl'] at hused
            exact u.not_used_nextId hused
          · exact List.not_mem_nil hl'
        · exact hfresh l' hl' (hused.mono (Nat.le_succ _))

/-! ## commits -/

/-- `t` holds what the queue of `s` spares, and `links` for the links of it that last -/
structure Commits (s : Store) (links : List Link.Stored) (t : Store) : Prop where
  records : t.records = s.records.spared s.queue ++ { links := links }
  lasting : (links.map (·.toDraft)).Perm (lastingLinks s.queue)
  fresh : ∀ l ∈ links, l.id ∉ s.identities
  distinct : (links.map (·.id)).Nodup
  idle : t.queue = []

theorem committed_commits {s : Store} (hs : s.Sound) (hc : s.checkBatch s.queue = .ok ()) :
    ∃ links, s.Commits links s.committed := by
  let u : Store := { s with queue := [] }
  have hremains : s.Remains [] u := ⟨fun _ h _ => h, fun _ h _ => h⟩
  obtain ⟨links, hrecords, hlasting, hfresh⟩ :=
    applyBatch_records hs hremains (Nat.le_refl s.created) hc
  have hrecords : s.committed.records = s.records.spared s.queue ++ { links := links } := hrecords
  have hsound : s.committed.Sound := hs.step (.commit hc)
  have hlinks : s.committed.links = (s.records.spared s.queue).links ++ links :=
    congrArg Records.links hrecords
  refine ⟨links, hrecords, .of_eq hlasting, fun l hl hid => hfresh l hl (hs.used _ hid), ?_,
    s.committed_queue⟩
  have hids := hsound.linkIds
  rw [hlinks] at hids
  exact hids.sublist ((List.sublist_append_right _ _).map _)

/-- the order of the changes does not matter, as long as they are accepted -/
theorem Commits.reorder {s t : Store} {links : List Link.Stored} {queue : List Change}
    (hperm : queue.Perm s.queue) (h : ({ s with queue := queue } : Store).Commits links t) :
    s.Commits links t where
  records := by
    rw [h.records, Records.spared_congr (b := s.queue) _ fun kind id => hperm.mem_iff]
    rfl
  lasting := h.lasting.trans (lastingLinks_perm hperm)
  fresh := h.fresh
  distinct := h.distinct
  idle := h.idle

/-- A commit that succeeds answers the length of the queue and leaves what the formulas say.  The same
changes in another order, if they are accepted too, leave the same records, with other identities for
new links. -/
theorem saveChanges_commits {s t : Store} {n : Nat} (hs : s.Reachable)
    (h : s.saveChanges = (.ok n, t)) :
    n = s.queue.length ∧ ∃ links, s.Commits links t
      ∧ ∀ queue n' t', queue.Perm s.queue →
        ({ s with queue := queue } : Store).saveChanges = (.ok n', t') →
          n' = n ∧ ∃ links', s.Commits links' t'
            ∧ (links'.map (·.toDraft)).Perm (links.map (·.toDraft)) := by
  obtain ⟨-, hc, rfl, rfl⟩ := saveChanges_eq_ok.mp h
  obtain ⟨links, hlinks⟩ := committed_commits hs.sound hc
  refine ⟨rfl, links, hlinks, fun queue n' t' hperm h' => ?_⟩
  obtain ⟨-, hc', rfl, rfl⟩ := saveChanges_eq_ok.mp h'
  have hs' : ({ s with queue := queue } : Store).Sound := hs.sound.congr rfl
  obtain ⟨links', hlinks'⟩ := committed_commits hs' hc'
  have hsame := hlinks'.reorder hperm
  exact ⟨hperm.length_eq, links', hsame, hsame.lasting.trans hlinks.lasting.symm⟩

/-- one of the two links that are queued is undone by a later deletion, which also takes the rule along
that is deleted after it -/
def mixedActions : List Action := [
  .call (.addRuleGroup ⟨"staff"⟩),
  .call (.addRuleGroup ⟨"guests"⟩),
  .call (.addRule ⟨⟨none, none, "role", none, none, none, true⟩, .nth 1⟩),
  .call (.addRelyingParty
    ⟨⟨"portal", "urn:portal", none, .saml2, 600, []⟩, some [7], none, none, none, none, none⟩),
  .call (.link ⟨.nth 4, .nth 1⟩),
  .call (.link ⟨.nth 4, .nth 2⟩),
  .call (.delete .ruleGroup (.nth 1)),
  .call (.delete .rule (.nth 3)),
  .call (.delete .relyingPartyKey (.nth 5))]

theorem saveChanges_commits_mixed :
    let s := after 50 mixedActions
    s.saveChanges = (.ok 5, s.committed) ∧ lastingLinks s.queue = [⟨.nth 4, .nth 2⟩]
      ∧ ∃ links, s.Commits links s.committed := by
  intro s
  have hs : s.Reachable := .call _ (.call _ (.call _ (.call _ (.call _ (.call _ (.call _ (.call _
    (.call _ (.fresh 50)))))))))
  have h : s.saveChanges = (.ok 5, s.committed) :=
    saveChanges_accepted (by decide) (by decide)
  obtain ⟨-, links, hlinks, -⟩ := saveChanges_commits hs h
  exact ⟨h, by decide, links, hlinks⟩

end Store
end AccessControl
