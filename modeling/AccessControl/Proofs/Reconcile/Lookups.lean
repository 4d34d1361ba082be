import AccessControl.Proofs.Reconcile.Outcome

/-!
# Lookups of a tear-down

What a tear-down looks up before each deletion that it queues, whatever the store holds: links may lead
nowhere, names may be shared.  Both loops stop at the first name that does not stand for one resource,
and what they have queued by then are the deletions for the names before it.

* `firstLinks`                    the links that are looked up, one for each rule group;
* `deleteLinkedGroups_resolves`   one lookup for each of them;
* `deleteKeys_resolves`           one for each key.
-/

namespace AccessControl

/-- the links that are the first to their rule group, but for rule groups in `seen` -/
def firstLinks : List Id → List Link → List Link
  | _, [] => []
  | seen, l :: links =>
    if seen.contains l.ruleGroup then firstLinks seen links
    else l :: firstLinks (l.ruleGroup :: seen) links

theorem firstLinks_subset (seen : List Id) (links : List Link) : firstLinks seen links ⊆ links := by
  induction links generalizing seen with
  | nil => exact List.Subset.refl _
  | cons l links ih =>
    unfold firstLinks
    split
    · exact List.subset_cons_of_subset _ (ih seen)
    · exact List.cons_subset_cons l (ih _)

theorem firstLinks_covers (seen : List Id) (links : List Link) : ∀ l ∈ links,
    l.ruleGroup ∈ seen ∨ l.ruleGroup ∈ (firstLinks seen links).map (·.ruleGroup) := by
  induction links generalizing seen with
  | nil => exact fun _ h => absurd h List.not_mem_nil
  | cons l links ih =>
    unfold firstLinks
    split
    · rename_i hseen
      exact List.forall_mem_cons.mpr ⟨.inl (List.contains_iff_mem.mp hseen), ih seen⟩
    · refine List.forall_mem_cons.mpr ⟨.inr List.mem_cons_self, fun l' hl' => ?_⟩
      rw [List.map_cons, List.mem_cons]
      rcases ih _ l' hl' with hseen | hfirst
      · rcases List.mem_cons.mp hseen with heq | hseen
        · exact .inr (.inl heq)
        · exact .inl hseen
      · exact .inr (.inr hfirst)

theorem firstLinks_nodup (seen : List Id) (links : List Link) :
    ((firstLinks seen links).map (·.ruleGroup)).Nodup
      ∧ ∀ id ∈ (firstLinks seen links).map (·.ruleGroup), id ∉ seen := by
  induction links generalizing seen with
  | nil => exact ⟨List.nodup_nil, fun _ h => absurd h List.not_mem_nil⟩
  | cons l links ih =>
    unfold firstLinks
    split
    · exact ih seen
    · rename_i hseen
      obtain ⟨hnodup, hfresh⟩ := ih (l.ruleGroup :: seen)
      refine ⟨List.nodup_cons.mpr ⟨fun h => hfresh _ h List.mem_cons_self, hnodup⟩, ?_⟩
      refine List.forall_mem_cons.mpr ⟨fun h => hseen (List.contains_iff_mem.mpr h), fun id hid h => ?_⟩
      exact hfresh id hid (List.mem_cons_of_mem _ h)

namespace Store

/-- the link shows the name of a rule group that is there, and leads to it -/
def Leads (s : Store) (l : Link) : Prop :=
  ∃ g ∈ s.ruleGroups, g.id = l.ruleGroup ∧ g.name = l.ruleGroupName

/-- the name that the link shows is that of one rule group -/
def Resolves (s : Store) (l : Link) : Prop := (s.ruleGroupsNamed l.ruleGroupName).length = 1

/-- a deletion for each rule group that the links name -/
def groupDeletions (s : Store) (links : List Link) : List Change :=
  links.flatMap fun l => (s.ruleGroupsNamed l.ruleGroupName).map fun g => .delete .ruleGroup g.id

theorem groupDeletions_cons {s : Store} {l : Link} {g : RuleGroup}
    (h : s.ruleGroupsNamed l.ruleGroupName = [g]) (links : List Link) :
    s.groupDeletions (l :: links) = .delete .ruleGroup g.id :: s.groupDeletions links := by
  unfold groupDeletions
  rw [List.flatMap_cons, h]
  rfl

/-- a link that leads somewhere resolves to the rule group that it leads to -/
theorem Resolves.eq_singleton {s : Store} {l : Link} (h : s.Resolves l) {g : RuleGroup}
    (hg : g ∈ s.ruleGroups) (hname : g.name = l.ruleGroupName) :
    s.ruleGroupsNamed l.ruleGroupName = [g] := by
  obtain ⟨g', hg'⟩ := List.length_eq_one_iff.mp h
  rw [hg', (ruleGroupsNamed_eq_singleton hg').2.2 g hg hname]

theorem groupDeletions_of_resolves {s : Store} {links : List Link}
    (hlinks : ∀ l ∈ links, s.Leads l) (h : ∀ l ∈ links, s.Resolves l) :
    s.groupDeletions links = (links.map (·.ruleGroup)).map (.delete .ruleGroup) := by
  induction links with
  | nil => rfl
  | cons l links ih =>
    obtain ⟨⟨g, hg, hid, hname⟩, hlinks⟩ := List.forall_mem_cons.mp hlinks
    obtain ⟨hl, h⟩ := List.forall_mem_cons.mp h
    rw [groupDeletions_cons (hl.eq_singleton hg hname), ih hlinks h, hid]
    rfl

end Store

/-- the error of a lookup that does not find exactly one resource -/
def ReconcileError.Finds (e : ReconcileError) (kind : ResourceKind) (name : String) (found : Nat) :
    Prop :=
  e = .preconditionViolation kind name found ∧ found ≠ 1

/-- stopped at the first of the links whose name is not that of one rule group, with the deletions for
the links before it queued -/
def Store.Strands (s : Store) (links : List Link) (e : ReconcileError) (t : Store) : Prop :=
  ∃ done l rest, firstLinks [] links = done ++ l :: rest ∧ (∀ l ∈ done, s.Resolves l)
    ∧ e.Finds .ruleGroup l.ruleGroupName (s.ruleGroupsNamed l.ruleGroupName).length
    ∧ t = s.queueAll (s.groupDeletions done)

namespace Reconciler
variable {sink : Sink} {settings : Settings} {w : Store}

theorem deleteLinkedGroups_resolves (seen : List Id) (links : List Link) :
    ((inMemory sink settings).deleteLinkedGroups seen links).Ends w
      (fun _ t => (∀ l ∈ firstLinks seen links, w.Resolves l)
        ∧ t = w.queueAll (w.groupDeletions (firstLinks seen links)))
      (fun e t => ∃ done l rest, firstLinks seen links = done ++ l :: rest
        ∧ (∀ l ∈ done, w.Resolves l) ∧ t = w.queueAll (w.groupDeletions done)
        ∧ (e.isRemote = true ∧ w.Fails .delete
          ∨ e.Finds .ruleGroup l.ruleGroupName (w.ruleGroupsNamed l.ruleGroupName).length)) := by
  induction links generalizing seen w with
  | nil => exact .pure ⟨fun _ h => absurd h List.not_mem_nil, w.queueAll_nil.symm⟩
  | cons l links ih =>
    unfold deleteLinkedGroups firstLinks
    split
    · exact ih seen
    · -- nothing is done yet when the first of the names fails
      have hfirst {e : ReconcileError} (he : e.isRemote = true ∧ w.Fails .delete
          ∨ e.Finds .ruleGroup l.ruleGroupName (w.ruleGroupsNamed l.ruleGroupName).length) :
          ∃ done l' rest,
          l :: firstLinks (l.ruleGroup :: seen) links = done ++ l' :: rest
          ∧ (∀ l ∈ done, w.Resolves l) ∧ w = w.queueAll (w.groupDeletions done)
          ∧ (e.isRemote = true ∧ w.Fails .delete
            ∨ e.Finds .ruleGroup l'.ruleGroupName (w.ruleGroupsNamed l'.ruleGroupName).length) :=
        ⟨[], l, _, rfl, fun _ h => absurd h List.not_mem_nil, w.queueAll_nil.symm, he⟩
      refine findRuleGroups_bind (.check (fun e he => ?_) fun g hg => ?_)
      · exact hfirst (.inr ⟨exactlyOne_error he, exactlyOne_eq_error he⟩)
      · have hg := exactlyOne_eq_ok.mp hg
        have hl : w.Resolves l := congrArg List.length hg
        refine delete_bind (fun _ => ?_) fun hfails e => hfirst (.inl ⟨rfl, hfails⟩)
        let w' := w.queueAll [.delete .ruleGroup g.id]
        have hqueued (ls : List Link) : w'.queueAll (w'.groupDeletions ls)
            = w.queueAll (w.groupDeletions (l :: ls)) := by
          rw [Store.groupDeletions_cons hg]
          exact (w.queueAll_append [.delete .ruleGroup g.id] _).symm
        refine (emit_quiet _ _).bind ((recordDeleted_quiet _).bind ((ih (w := w') _).mono ?_ ?_))
        · rintro - t ⟨hall, rfl⟩
          exact ⟨List.forall_mem_cons.mpr ⟨hl, hall⟩, hqueued _⟩
        · rintro e t ⟨done, l', rest, hsplit, hall, rfl, he⟩
          exact ⟨l :: done, l', rest, by rw [hsplit, List.cons_append],
            List.forall_mem_cons.mpr ⟨hl, hall⟩, hqueued _, he⟩

/-- keys that no other key shares its name with, some of which may be gone; if deletions are refused,
the first of them is -/
theorem deleteKeys_resolves {keys : List Key}
    (hkeys : ∀ k ∈ keys, w.keysNamed k.displayName = [k] ∨ w.keysNamed k.displayName = []) :
    ((inMemory sink settings).deleteKeys keys).Ends w
      (fun _ t => t = w.queueAll (keys.map fun k => .delete .relyingPartyKey k.id))
      (fun e t => ∃ done k rest, keys = done ++ k :: rest
        ∧ t = w.queueAll (done.map fun k => .delete .relyingPartyKey k.id)
        ∧ (e.isRemote = true ∧ w.Fails .delete ∧ done = []
          ∨ e = .preconditionViolation .relyingPartyKey k.displayName 0
            ∧ w.keysNamed k.displayName = [])) := by
  induction keys generalizing w with
  | nil => exact .pure w.queueAll_nil.symm
  | cons k keys ih =>
    obtain ⟨hk, hkeys⟩ := List.forall_mem_cons.mp hkeys
    refine findKeys_bind (.check (fun e he => ?_) fun k' hk' => ?_)
    · have hnone := hk.resolve_left fun h => exactlyOne_eq_error he (congrArg List.length h)
      have he := exactlyOne_error he
      rw [hnone] at he
      exact ⟨[], k, keys, rfl, w.queueAll_nil.symm, .inr ⟨he, hnone⟩⟩
    · have hk' := exactlyOne_eq_ok.mp hk'
      obtain rfl : k = k' := by
        rcases hk with hk | hk
        · exact List.head_eq_of_cons_eq (hk.symm.trans hk')
        · cases hk.symm.trans hk'
      refine delete_bind (fun hnot => ?_) fun hfails e =>
        ⟨[], k, keys, rfl, w.queueAll_nil.symm, .inl ⟨rfl, hfails, rfl⟩⟩
      let w' := w.queueAll [.delete .relyingPartyKey k.id]
      have hqueued (ks : List Key) : w'.queueAll (ks.map fun k => .delete .relyingPartyKey k.id)
          = w.queueAll ((k :: ks).map fun k => .delete .relyingPartyKey k.id) :=
        (w.queueAll_append [.delete .relyingPartyKey k.id] _).symm
      refine (emit_quiet _ _).bind ((recordDeleted_quiet _).bind ((ih (w := w') hkeys).mono ?_ ?_))
      · rintro - t rfl
        exact hqueued keys
      · rintro e t ⟨done, k', rest, rfl, rfl, he⟩
        exact ⟨k :: done, k', rest, rfl, hqueued done, .inr (he.resolve_left fun h => hnot h.2.1)⟩

end Reconciler
end AccessControl
