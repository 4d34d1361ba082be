import AccessControl.Proofs.Store.Journal

/-!
# Records

`Store.records` are the records of a store with their identities; the queue, the journal and all else
is left out.  A removal takes records away, and nothing else of them changes.

* `Records.without`      what is left without some relying parties and rule groups and what belongs to
                         them;
* `records_deleteRuleGroups`, `records_deleteKeys`   what batches of deletions leave;
* `records_applyLinks`   what a batch of links adds;
* `Store.deletedRuleGroups`   the deletions of rule groups that the journal tells of.
-/

namespace AccessControl

/-- in the order of creation -/
structure Records where
  relyingParties : List RelyingParty.Stored := []
  ruleGroups : List RuleGroup := []
  rules : List Rule := []
  keys : List Key := []
  links : List Link.Stored := []
  deriving DecidableEq

namespace Records

def identities (r : Records) : List Id :=
  r.relyingParties.map (·.id) ++ (r.ruleGroups.map (·.id) ++ (r.rules.map (·.id)
    ++ (r.keys.map (·.id) ++ r.links.map (·.id))))

/-- what is left without these relying parties, their keys and links, and without these rule groups,
their rules and the links to them -/
def without (r : Records) (relyingParties ruleGroups : List Id) : Records where
  relyingParties := r.relyingParties.filter (·.id ∉ relyingParties)
  ruleGroups := r.ruleGroups.filter (·.id ∉ ruleGroups)
  rules := r.rules.filter (·.ruleGroup ∉ ruleGroups)
  keys := r.keys.filter (·.relyingParty ∉ relyingParties)
  links := r.links.filter fun l => l.relyingParty ∉ relyingParties ∧ l.ruleGroup ∉ ruleGroups

def withoutKeys (r : Records) (keys : List Id) : Records :=
  { r with keys := r.keys.filter (·.id ∉ keys) }

def append (a b : Records) : Records where
  relyingParties := a.relyingParties ++ b.relyingParties
  ruleGroups := a.ruleGroups ++ b.ruleGroups
  rules := a.rules ++ b.rules
  keys := a.keys ++ b.keys
  links := a.links ++ b.links

instance : Append Records := ⟨append⟩

theorem relyingParty_mem_identities {r : Records} {p : RelyingParty.Stored}
    (h : p ∈ r.relyingParties) : p.id ∈ r.identities :=
  List.mem_append_left _ (List.mem_map_of_mem h)

theorem key_mem_identities {r : Records} {k : Key} (h : k ∈ r.keys) : k.id ∈ r.identities :=
  List.mem_append_right _ (List.mem_append_right _ (List.mem_append_right _
    (List.mem_append_left _ (List.mem_map_of_mem h))))

theorem link_mem_identities {r : Records} {l : Link.Stored} (h : l ∈ r.links) :
    l.id ∈ r.identities :=
  List.mem_append_right _ (List.mem_append_right _ (List.mem_append_right _
    (List.mem_append_right _ (List.mem_map_of_mem h))))

theorem append_empty (a : Records) : a ++ ({} : Records) = a := by
  show append a {} = a
  simp [append]

theorem append_assoc (a b c : Records) : a ++ b ++ c = a ++ (b ++ c) := by
  show append (append a b) c = append a (append b c)
  simp [append]

theorem without_nil (r : Records) : r.without [] [] = r := by
  simp [without]

/-- without what is not there -/
theorem without_eq_self {r : Records} {ps gs : List Id} (hparties : ∀ p ∈ r.relyingParties, p.id ∉ ps)
    (hgroups : ∀ g ∈ r.ruleGroups, g.id ∉ gs) (hrules : ∀ x ∈ r.rules, x.ruleGroup ∉ gs)
    (hkeys : ∀ k ∈ r.keys, k.relyingParty ∉ ps)
    (hlinks : ∀ l ∈ r.links, l.relyingParty ∉ ps ∧ l.ruleGroup ∉ gs) : r.without ps gs = r := by
  unfold without
  rw [List.filter_eq_self.mpr fun p hp => decide_eq_true (hparties p hp),
    List.filter_eq_self.mpr fun g hg => decide_eq_true (hgroups g hg),
    List.filter_eq_self.mpr fun x hx => decide_eq_true (hrules x hx),
    List.filter_eq_self.mpr fun k hk => decide_eq_true (hkeys k hk),
    List.filter_eq_self.mpr fun l hl => decide_eq_true (hlinks l hl)]

theorem without_without (r : Records) (ps gs ps' gs' : List Id) :
    (r.without ps gs).without ps' gs' = r.without (ps ++ ps') (gs ++ gs') := by
  unfold without
  simp only [List.filter_filter, List.mem_append, not_or, Bool.decide_and]
  congr 1
  all_goals
    refine List.filter_congr fun a _ => ?_
    grind

theorem withoutKeys_withoutKeys (r : Records) (as bs : List Id) :
    (r.withoutKeys as).withoutKeys bs = r.withoutKeys (as ++ bs) := by
  unfold withoutKeys
  rw [List.filter_filter]
  congr 1
  refine List.filter_congr fun k _ => ?_
  simp [Bool.and_comm]

/-- keys of a relying party that goes anyway -/
theorem without_withoutKeys {r : Records} {p : Id} {keys : List Id}
    (h : ∀ k ∈ r.keys, k.id ∈ keys → k.relyingParty = p) (gs : List Id) :
    (r.withoutKeys keys).without [p] gs = r.without [p] gs := by
  unfold without withoutKeys
  rw [List.filter_filter]
  congr 1
  refine List.filter_congr fun k hk => ?_
  rw [Bool.and_eq_left_iff_imp, decide_eq_true_iff, decide_eq_true_iff]
  exact fun hp hkeys => hp (List.mem_singleton.mpr (h k hk hkeys))

end Records

/-- the rule group that the entry deletes -/
def JournalEntry.deletedRuleGroup? : JournalEntry → Option Id
  | .delete .ruleGroup id => some id
  | _ => none

namespace Store

def records (s : Store) : Records :=
  ⟨s.relyingParties, s.ruleGroups, s.rules, s.keys, s.links⟩

/-- the rule groups whose deletion was queued, in order and as often as it was -/
def deletedRuleGroups (s : Store) : List Id := s.journal.filterMap (·.deletedRuleGroup?)

variable {s : Store}

/-! ## removals -/

theorem records_remove_relyingParty (s : Store) (id : Id) :
    (s.remove .relyingParty id).records = s.records.without [id] [] := by
  simp [remove, records, Records.without]

theorem records_remove_ruleGroup (s : Store) (id : Id) :
    (s.remove .ruleGroup id).records = s.records.without [] [id] := by
  simp [remove, records, Records.without]

/-- nothing belongs to a rule group that is not there -/
theorem records_removeIfPresent (hc : s.Closed) (id : Id) :
    (s.removeIfPresent .ruleGroup id).records = s.records.without [] [id] := by
  unfold removeIfPresent
  split
  · exact s.records_remove_ruleGroup id
  · rename_i habsent
    have hgroup : ∀ g ∈ s.ruleGroups, g.id ≠ id := fun g hg hid =>
      habsent (exists?_ruleGroup.mpr ⟨g, hg, hid⟩)
    have hrule : ∀ r ∈ s.rules, r.ruleGroup ≠ id := by
      rintro r hr rfl
      obtain ⟨g, hg, hid⟩ := hc.rule r hr
      exact hgroup g hg hid
    have hlink : ∀ l ∈ s.links, l.ruleGroup ≠ id := by
      rintro l hl rfl
      obtain ⟨g, hg, hid⟩ := hc.linkRuleGroup l hl
      exact hgroup g hg hid
    refine (Records.without_eq_self (fun _ _ => List.not_mem_nil) (fun g hg => ?_) (fun r hr => ?_)
      (fun _ _ => List.not_mem_nil) fun l hl => ⟨List.not_mem_nil, ?_⟩).symm
    · exact List.mem_singleton.not.mpr (hgroup g hg)
    · exact List.mem_singleton.not.mpr (hrule r hr)
    · exact List.mem_singleton.not.mpr (hlink l hl)

theorem records_deleteRuleGroups (hc : s.Closed) (ids : List Id) :
    (s.applyBatch (ids.map (.delete .ruleGroup))).records = s.records.without [] ids := by
  induction ids generalizing s with
  | nil => exact s.records.without_nil.symm
  | cons id ids ih =>
    have hrest := ih (hc.removeIfPresent .ruleGroup id)
    calc ((s.removeIfPresent .ruleGroup id).applyBatch (ids.map (.delete .ruleGroup))).records
        = (s.records.without [] [id]).without [] ids := by
          rw [hrest, records_removeIfPresent hc]
      _ = s.records.without [] (id :: ids) := s.records.without_without [] [id] [] ids

theorem records_deleteKeys (s : Store) (ids : List Id) :
    (s.applyBatch (ids.map (.delete .relyingPartyKey))).records = s.records.withoutKeys ids := by
  induction ids generalizing s with
  | nil => simp [applyBatch, Records.withoutKeys]
  | cons id ids ih =>
    have hfirst : (s.removeIfPresent .relyingPartyKey id).records = s.records.withoutKeys [id] := by
      unfold removeIfPresent
      split
      · simp [remove, records, Records.withoutKeys]
      · rename_i habsent
        have hkeys : ∀ k ∈ s.records.keys, k.id ∉ [id] := fun k hk hid =>
          habsent (exists?_relyingPartyKey.mpr ⟨k, hk, List.mem_singleton.mp hid⟩)
        unfold Records.withoutKeys
        rw [List.filter_eq_self.mpr fun k hk => decide_eq_true (hkeys k hk)]
    calc ((s.removeIfPresent .relyingPartyKey id).applyBatch (ids.map (.delete .relyingPartyKey))).records
        = (s.records.withoutKeys [id]).withoutKeys ids := by rw [ih, hfirst]
      _ = s.records.withoutKeys (id :: ids) := s.records.withoutKeys_withoutKeys [id] ids

/-! ## deletions in the journal -/

theorem deletedRuleGroups_record (s : Store) {e : JournalEntry} (he : e.deletedRuleGroup? = none) :
    (s.record e).deletedRuleGroups = s.deletedRuleGroups := by
  show (s.journal ++ [e]).filterMap _ = _
  rw [List.filterMap_append, List.filterMap_cons_none he, List.filterMap_nil, List.append_nil]
  rfl

theorem deletedRuleGroups_queueAll (s : Store) (changes : List Change) :
    (s.queueAll changes).deletedRuleGroups
      = s.deletedRuleGroups ++ changes.filterMap (·.entry.deletedRuleGroup?) := by
  show (s.journal ++ changes.map _).filterMap _ = _
  rw [List.filterMap_append, List.filterMap_map]
  rfl

theorem deletedRuleGroups_committed (s : Store) :
    s.committed.deletedRuleGroups = s.deletedRuleGroups := by
  unfold deletedRuleGroups
  rw [committed_journal, List.filterMap_append]
  exact List.append_nil _

/-- a commit of changes of another kind -/
theorem deletedRuleGroups_unchanged (s : Store) {changes : List Change}
    (h : ∀ c ∈ changes, c.entry.deletedRuleGroup? = none) :
    (s.queueAll changes).committed.deletedRuleGroups = s.deletedRuleGroups := by
  rw [deletedRuleGroups_committed, deletedRuleGroups_queueAll, List.filterMap_eq_nil_iff.mpr h,
    List.append_nil]

/-! ## links -/

theorem records_applyLinks (s : Store) (drafts : List Link.Draft) :
    ∃ links : List Link.Stored, (s.applyBatch (drafts.map .link)).records
        = s.records ++ { links := links }
      ∧ links.map (·.toDraft) = drafts ∧ ∀ l ∈ links, ¬ s.Used l.id := by
  induction drafts generalizing s with
  | nil => exact ⟨[], s.records.append_empty.symm, rfl, fun l hl => absurd hl List.not_mem_nil⟩
  | cons draft drafts ih =>
    obtain ⟨links, hrecords, hdrafts, hfresh⟩ := ih (s.insertLink draft).2
    refine ⟨⟨draft, s.nextId⟩ :: links, ?_, ?_, ?_⟩
    · show ((s.insertLink draft).2.applyBatch (drafts.map .link)).records = _
      rw [hrecords]
      show Records.append _ _ = Records.append _ _
      simp [Records.append, records, insertLink]
    · rw [List.map_cons, hdrafts]
    · refine List.forall_mem_cons.mpr ⟨s.not_used_nextId, fun l hl h => hfresh l hl ?_⟩
      exact h.mono (Nat.le_succ _)

/-! ## new relying parties -/

theorem records_insertRelyingParty (s : Store) (new : RelyingParty.Draft) :
    ∃ keys : List Key, (s.insertRelyingParty new).2.records
        = s.records ++ { relyingParties := [⟨new.toProfile, s.nextId⟩], keys := keys }
      ∧ keys.map (·.content) = new.keys
      ∧ ∀ k ∈ keys, k.relyingParty = s.nextId ∧ ¬ s.Used k.id := by
  rw [insertRelyingParty_eq]
  obtain ⟨keys, heq, hcontent, hnew⟩ :=
    insertContents_eq (s.insertBare new.toProfile) s.nextId new.keys
  refine ⟨keys, ?_, hcontent, fun k hk => ⟨(hnew k hk).1, fun h => (hnew k hk).2 ?_⟩⟩
  · rw [heq]
    show _ = Records.append _ _
    simp [Records.append, records, insertBare]
  · exact h.mono (Nat.le_succ _)

end Store
end AccessControl
