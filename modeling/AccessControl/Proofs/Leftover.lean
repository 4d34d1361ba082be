import AccessControl.Proofs.Faults
import AccessControl.Proofs.Keys
import AccessControl.Proofs.Validation

/-!
# What a failed lookup leaves

A run that stops because a name is missing or shared rolls nothing back.  Every command before the
failing one has committed what it queued, and the failing one has not queued anything yet, with one
exception: a tear-down that takes linked rule groups looks them up one by one and queues their deletions
on the way, so those before the name that fails are left waiting.

* `Command.Leaves`       what the failing command makes of the store;
* `tearDown_strands`     the exception is met whenever it can be;
* `execute_leaves`       one command that starts with an empty queue;
* `executeAll_leaves`    the commands before it come to their end;
* `reconcile_leaves`     the whole run.
-/

namespace AccessControl

/-- stopped by a check: it came before the first write, or it was the lookup of a linked rule group and
the deletions of those before it are queued -/
def Command.Leaves (c : Command) (e : ReconcileError) (s t : Store) : Prop :=
  (c.checksFor e = true ∧ t = s) ∨ ∃ name v, c.takesRuleGroups = true
    ∧ c.subject? = some (.relyingParty name) ∧ s.relyingPartiesNamed name = [v]
    ∧ s.Strands v.links e t

theorem ReconcileError.not_remote {e : ReconcileError} (h : e.isPreconditionViolation = true) :
    e.isRemote ≠ true := by
  cases e with
  | preconditionViolation kind name found => exact Bool.false_ne_true
  | remote error => cases h
  | configuration reason => cases h
  | invalidPattern pattern => cases h

/-- whatever is wrong with a command about a rule group is seen before its first write -/
theorem Command.leaves_of_forRuleGroup {c : Command} (hc : c.forRuleGroup = true) {e : ReconcileError}
    {s t : Store} (h : e.isRemote = true ∨ t = s) : e.isRemote = true ∨ c.Leaves e s t := by
  cases e with
  | remote error => exact .inl rfl
  | configuration reason => exact h.imp_right fun ht => .inl ⟨rfl, ht⟩
  | invalidPattern pattern => exact h.imp_right fun ht => .inl ⟨rfl, ht⟩
  | preconditionViolation kind name found =>
    exact h.imp_right fun ht => .inl ⟨Bool.or_eq_true_iff.mpr (.inr hc), ht⟩

namespace Reconciler
variable {sink : Sink} {settings : Settings} {s : Store} {commands : List Command}

/-! ## phases -/

theorem saveChanges_idles {bad : ReconcileError → Store → Prop}
    (hbad : ∀ e t, e.isRemote = true → bad e t) :
    (inMemory sink settings).saveChanges.Ends s (fun _ t => t.queue = []) bad :=
  saveChanges_ends (fun _ => s.committed_queue) (fun _ _ => hbad _ _ rfl) fun _ _ => hbad _ _ rfl

/-- a tear-down that takes linked rule groups is stopped by the first that cannot be told by its name -/
theorem tearDown_strands (hf : ¬ s.Fails .delete) {v : RelyingParty}
    (hl : ∃ l ∈ firstLinks [] v.links, ¬ s.Resolves l) :
    ((inMemory sink settings).tearDown v true).Ends s (fun _ _ => False)
      (fun e t => s.Strands v.links e t) := by
  obtain ⟨l, hl, hmissed⟩ := hl
  have hlinks : v.links ≠ [] := List.ne_nil_of_mem (firstLinks_subset [] v.links hl)
  have hqueued : ((inMemory sink settings).deleteLinkedGroups [] v.links).Ends s (fun _ _ => False)
      (fun e t => s.Strands v.links e t) := by
    refine (deleteLinkedGroups_resolves [] v.links).mono (fun _ _ h => hmissed (h.1 l hl)) ?_
    rintro e t ⟨done, l', rest, hsplit, hdone, ht, he⟩
    exact ⟨done, l', rest, hsplit, hdone, he.resolve_left fun h => hf h.2, ht⟩
  have hgroups : ((inMemory sink settings).deleteGroups v true).Ends s (fun _ _ => False)
      (fun e t => s.Strands v.links e t) := by
    unfold deleteGroups
    rw [if_pos (by simpa using hlinks)]
    exact hqueued.bind fun _ _ h => h.elim
  rw [tearDown_eq]
  exact hgroups.bind fun _ _ h => h.elim

theorem tearDownAny_leaves (hs : s.Sound) (hq : s.queue = []) {name : String}
    {old : Option RelyingParty}
    (hold : atMostOne .relyingParty name (s.relyingPartiesNamed name) = .ok old)
    (withRuleGroups : Bool) :
    ((inMemory sink settings).tearDownAny old withRuleGroups).Ends s (fun _ t => t.queue = [])
      (fun e t => e.isRemote = true ∨ withRuleGroups = true
        ∧ ∃ v, s.relyingPartiesNamed name = [v] ∧ s.Strands v.links e t) := by
  cases old with
  | none => exact .pure hq
  | some v =>
    have hv := atMostOne_eq_some hold
    obtain ⟨hown, hkeys⟩ := Store.keys_of_sole hs hv
    refine (tearDown_spares (fun k hk hid => (hown k).mpr ⟨hk, hid⟩) hkeys withRuleGroups).mono
      (fun _ t h => h.2 hq) fun e t h => h.2.imp_right fun ⟨hflag, h⟩ => ⟨hflag.1, v, hv, ?_⟩
    -- no deletion of a key can wait, as nothing does
    refine h.resolve_right fun ⟨k, _, _, hdoomed⟩ => ?_
    rw [Store.Doomed, hq] at hdoomed
    exact hdoomed.elim List.not_mem_nil List.not_mem_nil

/-- the relying party that was just created is found, and its links are committed -/
theorem createParty_linkAll_idles (hq : s.queue = []) (d : RelyingParty.Draft)
    (patterns : List Pattern) :
    ((inMemory sink settings).createParty d >>= fun _ =>
      (inMemory sink settings).linkAll d.name patterns).Ends s (fun _ t => t.queue = [])
      (fun e _ => e.isRemote = true) := by
  refine (createParty_creates s d).bind ?_
  rintro - t ⟨hnew, rfl⟩
  obtain ⟨view, hfound⟩ := relyingPartiesNamed_insert hnew
  obtain ⟨_, hframe, -⟩ := s.insertRelyingParty_frame d
  refine ((linkPatterns_ends hfound).mono (fun _ _ h => h) fun _ _ h => h.1).bind ?_
  rintro linked u ⟨new, hnew⟩
  split
  · exact saveChanges_idles fun _ _ h => h
  · rename_i hempty
    have hnil := hnew.eq_nil hempty
    refine .pure ?_
    rw [hnew.queue, hnil, hframe]
    exact (List.append_nil _).trans hq

theorem removeRuleGroupNamed_leaves (hq : s.queue = []) (name : String) :
    ((inMemory sink settings).removeRuleGroupNamed name).Ends s (fun _ t => t.queue = [])
      (fun e t => e.isRemote = true ∨ t = s) := by
  refine findRuleGroups_bind (.check (fun _ _ => .inr rfl) fun old _ => ?_)
  cases old with
  | none => exact .pure hq
  | some g =>
    refine delete_bind (fun _ => ?_) fun _ _ => .inl rfl
    exact (emit_quiet _ _).bind ((recordDeleted_quiet _).bind
      ((saveChanges_idles fun _ _ => .inl).bind fun _ _ ht => .pure ht))

/-! ## commands about a rule group -/

theorem addRuleGroup_leaves (hq : s.queue = []) (name : Option String) :
    ((inMemory sink settings).addRuleGroup name).Ends s (fun _ t => t.queue = [])
      (fun e t => e.isRemote = true ∨ t = s) := by
  refine .check (fun _ _ => .inr rfl) fun name _ => ?_
  rw [discard_bind_eq]
  refine (removeRuleGroupNamed_leaves hq name).bind fun _ t ht => ?_
  refine addRuleGroup_bind (fun _ _ _ => ?_) fun _ _ => .inl rfl
  exact (emit_quiet _ _).bind ((emit_quiet _ _).bind ((recordCreated_quiet _).ends ht))

theorem addRule_leaves (hq : s.queue = []) (ruleGroup : Option String) (rule : Rule.Declaration) :
    ((inMemory sink settings).addRule ruleGroup rule).Ends s (fun _ t => t.queue = [])
      (fun e t => e.isRemote = true ∨ t = s) := by
  refine .check (fun _ _ => .inr rfl) fun name _ => .check (fun _ _ => .inr rfl) fun type _ => ?_
  refine findRuleGroups_bind (.check (fun _ _ => .inr rfl) fun g _ => ?_)
  refine addRule_bind (fun _ => ?_) fun _ _ => .inl rfl
  exact (emit_quiet _ _).bind ((emit_quiet _ _).bind ((recordCreated_quiet _).ends hq))

theorem removeRuleGroup_leaves (hq : s.queue = []) (name : String) :
    ((inMemory sink settings).removeRuleGroup name).Ends s (fun _ t => t.queue = [])
      (fun e t => e.isRemote = true ∨ t = s) := by
  refine .check (fun _ _ => .inr rfl) fun name _ => ?_
  refine (removeRuleGroupNamed_leaves hq name).bind fun found t ht => ?_
  split
  · exact (note_quiet _).ends ht
  · exact .pure ht

/-! ## commands and runs -/

theorem execute_leaves (hs : s.Sound) (hq : s.queue = []) (c : Command) :
    ((inMemory sink settings).execute c).Ends s (fun _ t => t.queue = [])
      (fun e t => e.isRemote = true ∨ c.Leaves e s t) := by
  cases c with
  | addRelyingParty new =>
    show ((inMemory sink settings).addRelyingParty new).Ends s _ _
    rw [addRelyingParty_eq]
    refine .check (fun _ he => .inr (.inl ⟨?_, rfl⟩)) fun d hd => ?_
    · obtain ⟨reason, rfl⟩ := draft_error he
      rfl
    refine (((compilePatterns_ends new.patterns).and (compilePatterns_faults new.patterns)).mono
      (fun _ _ h => h) ?_).bind ?_
    · rintro e t ⟨⟨ht, -⟩, hfault⟩
      obtain ⟨text, -, rfl⟩ := Option.map_eq_some_iff.mp hfault
      exact .inr (.inl ⟨rfl, ht⟩)
    rintro patterns t ⟨⟨rfl, -⟩, -⟩
    refine findRelyingParties_bind (.check (fun _ he => .inr (.inl ⟨?_, rfl⟩)) fun old hold => ?_)
    · rw [atMostOne_error he]
      rfl
    refine ((tearDownAny_leaves hs hq hold _).mono (fun _ _ h => h) ?_).bind fun _ u hu => ?_
    · refine fun e u h => h.imp_right fun ⟨hflag, v, hv, hu⟩ => .inr ⟨d.name, v, hflag, ?_, hv, hu⟩
      show new.name.map Subject.relyingParty = _
      rw [(draft_eq_ok hd).1]
      rfl
    · exact (createParty_linkAll_idles hu d patterns).mono (fun _ _ h => h) fun _ _ => .inl
  | removeRelyingParty name withRuleGroups =>
    refine .check (fun _ he => .inr (.inl ⟨?_, rfl⟩)) fun name' hname => ?_
    · rw [requiredField_eq_error he]
      rfl
    cases (requiredField_eq_ok.mp hname).1
    refine findRelyingParties_bind (.check (fun _ he => .inr (.inl ⟨?_, rfl⟩)) fun old hold => ?_)
    · rw [atMostOne_error he]
      rfl
    cases old with
    | none => exact (note_quiet _).ends hq
    | some old =>
      refine (tearDownAny_leaves hs hq hold withRuleGroups).mono (fun _ _ h => h) ?_
      exact fun e u h => h.imp_right fun ⟨hflag, v, hv, hu⟩ => .inr ⟨name, v, hflag, rfl, hv, hu⟩
  | addRuleGroup name =>
    exact (addRuleGroup_leaves hq name).mono (fun _ _ h => h)
      fun _ _ => Command.leaves_of_forRuleGroup rfl
  | addRule ruleGroup rule =>
    exact (addRule_leaves hq ruleGroup rule).mono (fun _ _ h => h)
      fun _ _ => Command.leaves_of_forRuleGroup rfl
  | removeRuleGroup name =>
    exact (removeRuleGroup_leaves hq name).mono (fun _ _ h => h)
      fun _ _ => Command.leaves_of_forRuleGroup rfl

/-- the commands before the failing one have come to their end -/
theorem executeAll_leaves {p q : Progress Store} {e : ReconcileError} (hs : p.session.store.Sound)
    (hq : p.session.store.queue = [])
    (hrun : (inMemory sink settings).executeAll commands p = (.error e, q))
    (he : e.isPreconditionViolation = true) :
    ∃ before c after u, commands = before ++ c :: after
      ∧ (inMemory sink settings).executeAll before p = (.ok (), u) ∧ u.session.store.queue = []
      ∧ c.Leaves e u.session.store q.session.store := by
  -- between two commands the queue is empty, and that is all the next one needs
  induction commands generalizing p with
  | nil => cases hrun
  | cons c cs ih =>
    have hlater (cs : List Command) : (inMemory sink settings).executeAll (c :: cs)
        = (inMemory sink settings).executeAll [c] >>= fun _ => (inMemory sink settings).executeAll cs :=
      executeAll_append [c] cs
    rw [hlater] at hrun
    have hends : ((inMemory sink settings).execute c).Ends p.session.store _ _ :=
      (execute_leaves hs hq c).and (execute_walks c _)
    have hend := executeAll_singleton hends p rfl
    cases hc : (inMemory sink settings).executeAll [c] p with
    | mk r u =>
      rw [hc] at hend
      cases r with
      | error e' =>
        rw [bind_of_error hc] at hrun
        cases hrun
        exact ⟨[], c, cs, p, rfl, rfl, hq, hend.1.resolve_left (ReconcileError.not_remote he)⟩
      | ok a =>
        obtain ⟨hidle, hsteps⟩ := hend
        rw [bind_of_ok hc] at hrun
        obtain ⟨before, c', after, v, rfl, hbefore, hleaves⟩ := ih (hsteps.sound hs) hidle hrun
        refine ⟨c :: before, c', after, v, rfl, ?_, hleaves⟩
        rw [hlater, bind_of_ok hc]
        exact hbefore

end Reconciler

open Reconciler

/-- A run that starts with an empty queue and stops because a name is missing or shared: the commands
before the failing one have come to their end, and the queue was empty again.  It still is, and nothing
is changed, unless the failing one takes linked rule groups: then their deletions are queued, up to the
first that cannot be told by its name, and nothing else is changed. -/
theorem reconcile_leaves {sink : Sink} {settings : Settings} {s : Store} (hs : s.Reachable)
    (hq : s.queue = []) {commands : List Command} {notes : List Diagnostic} {e : ReconcileError}
    (he : ((inMemory sink settings).reconcile commands ⟨s, notes⟩).1 = .error e)
    (hviolation : e.isPreconditionViolation = true) :
    ∃ before c after p, commands = before ++ c :: after
      ∧ (inMemory sink settings).executeAll before
        { session := ⟨s, notes ++ [starting "memory" commands.length]⟩ } = (.ok (), p)
      ∧ p.session.store.queue = []
      ∧ c.Leaves e p.session.store
        ((inMemory sink settings).reconcile commands ⟨s, notes⟩).2.session.store := by
  let p : Progress Store := { session := ⟨s, notes ++ [starting "memory" commands.length]⟩ }
  have hstart : note (starting "memory" commands.length) { session := ⟨s, notes⟩ } = (.ok (), p) := rfl
  cases hrun : (inMemory sink settings).executeAll commands p with
  | mk r q =>
    have hall : (note (starting "memory" commands.length) >>= fun _ =>
        (inMemory sink settings).executeAll commands) { session := ⟨s, notes⟩ } = (r, q) := by
      rw [bind_of_ok hstart, hrun]
    cases r with
    | ok a =>
      rw [reconcile_of_ok hall] at he
      cases he
    | error e' =>
      rw [reconcile_of_error hall] at he ⊢
      cases he
      exact executeAll_leaves hs.sound hq hrun hviolation

/-- two rule groups share a name, and one linked before them is alone of its own -/
theorem reconcile_leaves_deletion :
    let portal := ({} : Store).insertRelyingParty
      ⟨⟨"portal", "urn:portal", none, .saml2, 600, []⟩, none, none, none, none, none, none⟩
    let a := portal.2.insertRuleGroup ⟨"a"⟩
    let b := a.2.insertRuleGroup ⟨"b"⟩
    let linked := ((b.2.insertRuleGroup ⟨"b"⟩).2.insertLink ⟨portal.1, a.1⟩).2
    let s := (linked.insertLink ⟨portal.1, b.1⟩).2
    let run := (inMemory .keeping {}).reconcile [.removeRelyingParty "portal" true] ⟨s, []⟩
    s.Reachable ∧ s.queue = [] ∧ s.failing = []
      ∧ run.1 = .error (.preconditionViolation .ruleGroup "b" 2)
      ∧ run.2.session.store.queue = [.delete .ruleGroup a.1] := by
  intro portal a b linked s run
  have hs : s.Reachable := .seedLink _ (.seedLink _ (.seedRuleGroup _ (.seedRuleGroup _
    (.seedRuleGroup _ (.seedRelyingParty _ (.fresh 50))))))
  refine ⟨hs, rfl, rfl, ?_⟩
  let la : Link := ⟨⟨portal.1, a.1⟩, Id.nth 5, "a"⟩
  let lb : Link := ⟨⟨portal.1, b.1⟩, Id.nth 6, "b"⟩
  have hgroups : s.sortedRuleGroups = s.ruleGroups := List.mergeSort_of_pairwise (by decide +kernel)
  have hnamed (name : String) : s.ruleGroupsNamed name = s.ruleGroups.filter (·.name = name) := by
    unfold Store.ruleGroupsNamed
    rw [hgroups]
  have ha : s.ruleGroupsNamed "a" = [⟨a.1, "a"⟩] := by
    rw [hnamed]
    decide +kernel
  have hb : (s.ruleGroupsNamed "b").length = 2 := by
    rw [hnamed]
    decide +kernel
  have hlinks : firstLinks [] (s.linksOf portal.1) = [la, lb] := by
    have hsorted : s.linksOf portal.1 = [la, lb] := List.mergeSort_of_pairwise (by decide +kernel)
    rw [hsorted]
    decide +kernel
  have hlb : ∃ l ∈ firstLinks [] (s.linksOf portal.1), ¬ s.Resolves l := by
    refine ⟨lb, hlinks ▸ List.mem_cons_of_mem _ (List.mem_singleton_self lb), fun h => ?_⟩
    exact absurd (hb.symm.trans h) (by decide)
  have hends : ((inMemory .keeping {}).executeAll [.removeRelyingParty "portal" true]).Ends s
      (fun _ _ => False) (fun e t => s.Strands (s.linksOf portal.1) e t) := by
    refine executeAll_singleton (.check (fun e he => ?_) fun name hname => ?_)
    · cases he
    · cases hname
      exact findRelyingParties_bind (tearDown_strands (by decide) hlb)
  rcases reconcile_ends hends [] with ⟨-, h⟩ | ⟨e, he, done, l, rest, hsplit, -, ⟨rfl, hfound⟩, ht⟩
  · exact h.elim
  rw [hlinks] at hsplit
  obtain ⟨rfl, rfl⟩ : done = [la] ∧ l = lb := by
    cases done with
    | nil =>
      cases hsplit
      exact absurd (congrArg List.length ha) hfound
    | cons d done =>
      cases done with
      | nil =>
        cases hsplit
        exact ⟨rfl, rfl⟩
      | cons d' done => cases done <;> cases hsplit
  constructor
  · rw [he, show lb.ruleGroupName = "b" from rfl, hb]
  · rw [ht, Store.groupDeletions_cons (l := la) ha]
    rfl

theorem reconcile_leaves_nothing :
    let portal := ({} : Store).insertRelyingParty
      ⟨⟨"portal", "urn:portal", none, .saml2, 600, []⟩, none, none, none, none, none, none⟩
    let s := (portal.2.insertLink ⟨portal.1, Id.nth 9⟩).2
    let commands := [Command.addRuleGroup (some "b"), .removeRelyingParty "portal" true]
    let e := ReconcileError.preconditionViolation .ruleGroup "" 0
    let run := (inMemory .keeping {}).reconcile commands ⟨s, []⟩
    run.1 = .error e ∧ ∃ before c after p, commands = before ++ c :: after
      ∧ (inMemory .keeping {}).executeAll before { session := ⟨s, [starting "memory" 2]⟩ } = (.ok (), p)
      ∧ p.session.store.queue = [] ∧ c.Leaves e p.session.store run.2.session.store := by
  intro portal s commands e run
  have hs : s.Reachable := .seedLink _ (.seedRelyingParty _ (.fresh 50))
  have he : run.1 = .error e := by decide +kernel
  exact ⟨he, reconcile_leaves hs rfl he rfl⟩

end AccessControl
