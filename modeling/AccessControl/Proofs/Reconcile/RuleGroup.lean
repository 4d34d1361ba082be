import AccessControl.Proofs.Reconcile.Outcome

/-!
# Outcomes of commands about rule groups

`removeRuleGroupNamed_ends` is the argument that the commands share: the deletion of a rule group is
queued behind what waits already and committed with it.
-/

namespace AccessControl.Reconciler
open Classical

variable {sink : Sink} {settings : Settings} {s : Store} {o : Set Subject} {fair taking : Prop}

/-- what has the name of a rule group is gone if no rule group has the name -/
theorem Intact.cleared {u : Store} (hs : s.Sound) (hc : s.Closed) {name : String}
    (h : Intact (o ∪ {.ruleGroup name}) s u) (hgone : ∀ g ∈ u.ruleGroups, g.name ≠ name) :
    Cleared o {.ruleGroup name} s u := by
  refine ⟨h, ?_⟩
  rintro x rfl
  exact Store.lacks_ruleGroup (h.steps.sound hs) (h.steps.closed hc) hgone

/-- after the commit of its deletion the only rule group of a name is gone -/
theorem committed_gone {name : String} {g : RuleGroup}
    (hone : ∀ g' ∈ s.ruleGroups, g'.name = name → g' = g) :
    ∀ g' ∈ (s.queueAll [.delete .ruleGroup g.id]).committed.ruleGroups, g'.name ≠ name := by
  intro g' hg' hname
  have hsub : (s.queueAll [.delete .ruleGroup g.id]).committed.ruleGroups.Sublist s.ruleGroups :=
    Store.committed_ruleGroups _
  have hid : g'.id ≠ g.id :=
    Store.committed_deleted (s := s.queueAll [.delete .ruleGroup g.id]) (by simp [Store.queueAll])
      g' hg'
  exact hid (by rw [hone g' (hsub.subset hg') hname])

theorem removeRuleGroupNamed_ends (hs : s.Sound) {name : String}
    (hq : s.QueueWithin (o ∪ {.ruleGroup name}))
    (hfair : fair → s.contents.count (.ruleGroup name) ≤ 1) :
    ((inMemory sink settings).removeRuleGroupNamed name).Ends s
      (fun _ u => s.contents.count (.ruleGroup name) ≤ 1 ∧ Intact (o ∪ {.ruleGroup name}) s u
        ∧ ∀ g ∈ u.ruleGroups, g.name ≠ name)
      (fun e t => Stopped (o ∪ {.ruleGroup name}) fair taking e s t) := by
  have hcount := s.length_ruleGroupsNamed name
  refine findRuleGroups_bind (.check (fun e he => ?_) fun found hfound => ?_)
  · -- the name is shared
    have hmany := atMostOne_eq_error he
    exact .refused hq fun hf _ _ => absurd (hfair hf) (by omega)
  · cases found with
    | none =>
      have hnil := atMostOne_eq_none hfound
      refine .pure ⟨by rw [← hcount, hnil]; exact Nat.zero_le 1, .refl hq, ?_⟩
      exact Store.ruleGroupsNamed_eq_nil hnil
    | some g =>
      have hsingle := atMostOne_eq_some hfound
      obtain ⟨hg, hname, hone⟩ := Store.ruleGroupsNamed_eq_singleton hsingle
      have hwithin : Change.Within s (o ∪ {.ruleGroup name}) (.delete .ruleGroup g.id) := by
        refine .ruleGroup (hs.used _ (Store.ruleGroup_mem_identities hg)) fun g' hg' hid => ?_
        rw [hs.ruleGroup_eq hg' hg hid, hname]
        exact .inr rfl
      have hchanges : ∀ c ∈ [Change.delete .ruleGroup g.id],
          c.Within s (o ∪ {.ruleGroup name}) := fun c hmem => List.mem_singleton.mp hmem ▸ hwithin
      refine delete_bind (fun _ => ?_) (fun hfails e => ?_)
      · refine (emit_quiet _ _).bind ((recordDeleted_quiet _).bind (Run.Ends.bind ?_ fun _ _ h =>
          Run.Ends.pure h))
        refine commit_ends hs hq hchanges ?_ ?_
        · intro _ _
          show s.checkBatch ([g.id].map (.delete .ruleGroup)) = .ok ()
          refine Store.checkBatch_deletes (fun id hid => ?_) (List.nodup_singleton _)
          rw [List.mem_singleton.mp hid]
          exact Store.exists?_ruleGroup.mpr ⟨g, hg, rfl⟩
        · intro _ hsteps
          exact ⟨by rw [← hcount, hsingle]; exact Nat.le_refl 1,
            .committed hs hq hchanges hsteps, committed_gone hone⟩
      · exact .refused hq fun _ hfailing _ => Store.not_fails_of_failing_nil hfailing .delete hfails

theorem addRuleGroup_executes (hs : s.Sound) (hc : s.Closed) {name : Option String}
    (hq : s.QueueWithin (o ∪ (Command.addRuleGroup name).clears s.contents)) :
    Executes ((inMemory sink settings).addRuleGroup name) settings o (.addRuleGroup name) s := by
  refine .check (fun e he => ?_) fun g hg => ?_
  · refine .refused hq fun hfair _ _ => ?_
    obtain ⟨g, hg, hne⟩ := hfair.1
    exact requiredField_ne_error hg hne e he
  · obtain ⟨rfl, hne⟩ := requiredField_eq_ok.mp hg
    have hclears : (Command.addRuleGroup (some g)).clears s.contents = {.ruleGroup g} :=
      Contents.clears_singleton rfl rfl s.contents
    rw [hclears] at hq ⊢
    refine .discard_bind ((removeRuleGroupNamed_ends hs hq fun hfair => hfair.2.replaced _ rfl).bind
      fun _ u hu => ?_)
    obtain ⟨hcount, hu, hgone⟩ := hu
    have hu := hu.cleared hs hc hgone
    refine addRuleGroup_bind (fun _ _ id => ?_) (fun hrefused e => ?_)
    · refine (emit_quiet _ _).bind ((emit_quiet _ _).bind ((recordCreated_quiet _).ends ?_))
      have hinherits : u.Inherits ((u.insertRuleGroup ⟨g⟩).2.record (.addRuleGroup ⟨g⟩)) :=
        (Store.Inherits.insertRuleGroup u ⟨g⟩).congr rfl
      refine ⟨⟨g, rfl, hne⟩, ⟨?_, fun _ h => ?_, fun _ h => ?_⟩, ?_, ?_, hu.idle, ?_⟩
      · rintro x ⟨⟩
        exact hcount
      · cases h
      · exact absurd h (Command.not_takes rfl _ _)
      · refine Cleared.meaning (u := u) (hclears ▸ hu) ?_
        rw [Store.contents_congr (s := (u.insertRuleGroup ⟨g⟩).2) rfl,
          Store.contents_insertRuleGroup (hu.steps.sound hs) (hu.steps.closed hc)]
        rfl
      · exact hu.waits.inherits (hu.steps.sound hs) hinherits rfl
      · show (u.ruleGroups ++ [_]).length ≤ _
        rw [List.length_append]
        exact Nat.succ_le_succ hu.size
    · refine hu.stopped (.refused hu.within fun _ hfailing _ => ?_)
      refine hrefused (Store.not_fails_of_failing_nil hfailing _) hne fun g' hg' => ?_
      exact (hu.lacks _ rfl).1 _ (List.mem_map_of_mem hg')

theorem removeRuleGroup_executes (hs : s.Sound) (hc : s.Closed) {name : String}
    (hq : s.QueueWithin (o ∪ (Command.removeRuleGroup name).clears s.contents)) :
    Executes ((inMemory sink settings).removeRuleGroup name) settings o (.removeRuleGroup name) s := by
  refine .check (fun e he => ?_) fun g hg => ?_
  · exact .refused hq fun hfair _ _ => requiredField_ne_error rfl hfair.1 e he
  · obtain ⟨hg, hne⟩ := requiredField_eq_ok.mp hg
    cases hg
    have hclears : (Command.removeRuleGroup name).clears s.contents = {.ruleGroup name} :=
      Contents.clears_singleton rfl rfl s.contents
    rw [hclears] at hq ⊢
    refine (removeRuleGroupNamed_ends hs hq fun hfair => hfair.2.replaced _ rfl).bind
      fun found u hu => ?_
    obtain ⟨hcount, hu, hgone⟩ := hu
    have hu := hu.cleared hs hc hgone
    have hcarried : Carried settings o (.removeRuleGroup name) s u := by
      refine ⟨hne, ⟨?_, fun _ h => ?_, fun _ h => ?_⟩, ?_, hu.waits, hu.idle,
        hu.size.trans (Nat.le_succ _)⟩
      · rintro x ⟨⟩
        exact hcount
      · cases h
      · exact absurd h (Command.not_takes rfl _ _)
      · exact Cleared.meaning (u := u) (hclears ▸ hu) rfl
    split
    · exact (note_quiet _).ends hcarried
    · exact .pure hcarried

theorem addRule_executes (hs : s.Sound) {ruleGroup : Option String} {rule : Rule.Declaration}
    (hq : s.QueueWithin (o ∪ (Command.addRule ruleGroup rule).clears s.contents)) :
    Executes ((inMemory sink settings).addRule ruleGroup rule) settings o (.addRule ruleGroup rule)
      s := by
  refine .check (fun e he => ?_) fun name hname => .check (fun e he => ?_) fun type htype => ?_
  · refine .refused hq fun hfair _ _ => ?_
    obtain ⟨⟨g, hg, hne⟩, -⟩ := hfair.1
    exact requiredField_ne_error hg hne e he
  · refine .refused hq fun hfair _ _ => ?_
    obtain ⟨-, type, htype, hne⟩ := hfair.1
    exact requiredField_ne_error htype hne e he
  · obtain ⟨rfl, hne⟩ := requiredField_eq_ok.mp hname
    obtain ⟨htype, htne⟩ := requiredField_eq_ok.mp htype
    have hcount := s.length_ruleGroupsNamed name
    have hclears := Contents.clears_addRule (some name) rule s.contents
    rw [hclears, Set.union_empty] at hq
    rw [hclears, Set.union_empty]
    refine findRuleGroups_bind (.check (fun e he => ?_) fun g hg => ?_)
    · refine .refused hq fun hfair _ _ => exactlyOne_eq_error he ?_
      rw [hcount]
      exact hfair.2.extended name rfl
    · have hsingle := exactlyOne_eq_ok.mp hg
      obtain ⟨hg, hgname, hone⟩ := Store.ruleGroupsNamed_eq_singleton hsingle
      have hbody : rule.body = { rule.body with inputClaimType := type } := by
        unfold Rule.Declaration.body
        rw [htype]
        rfl
      refine addRule_bind (fun id => ?_) (fun hrefused e => ?_)
      · refine (emit_quiet _ _).bind ((emit_quiet _ _).bind ((recordCreated_quiet _).ends ?_))
        refine ⟨⟨⟨name, rfl, hne⟩, type, htype, htne⟩, ⟨fun _ h => ?_, ?_, fun _ h => ?_⟩, ?_, ?_,
          fun h => h, Nat.le_succ _⟩
        · cases h
        · rintro x ⟨⟩
          rw [← hcount, hsingle]
          rfl
        · exact absurd h (Command.not_takes rfl _ _)
        · refine Cleared.meaning (u := s) (hclears ▸ .of_lacks ?_ fun x hx => hx.elim) ?_
          · rw [Set.union_empty]
            exact hq
          · rw [Store.contents_congr (s := (s.insertRule _).2) rfl,
              Store.contents_insertRule hg hs (hgname ▸ hone) rfl, hgname]
            show (s.contents.addRule name _).hide o = (s.contents.addRule name rule.body).hide o
            rw [hbody]
            rfl
        · exact hq.inherits hs ((Store.Inherits.insertRule s _).congr rfl) rfl
      · refine .refused hq fun _ hfailing _ => htne ?_
        exact hrefused (Store.not_fails_of_failing_nil hfailing _) ⟨g, hg, rfl⟩

end AccessControl.Reconciler
