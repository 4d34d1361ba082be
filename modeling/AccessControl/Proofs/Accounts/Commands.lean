import AccessControl.Proofs.Accounts.Basic
import AccessControl.Proofs.Store.Integrity
import AccessControl.Proofs.Store.Snapshot

/-!
# What commands tell

A command that comes to its end has told what a snapshot of the store showed of it (`execute_accounts`).
Names tell as much as identities do, because no name is there twice and no relying party is linked to a
rule group twice.

* `tearDown_accounts`   rule groups and keys go in the order in which a snapshot lists them;
* `linkAll_accounts`    links are made pattern by pattern, each time in the order of names.
-/

namespace AccessControl

/-! ## phases -/

namespace Reconciler
variable {sink : Sink} {settings : Settings} {s u : Store} {β : Type} {told : Account}
  {next : β → Store → Prop}

/-- a call tells nothing by itself -/
theorem ask_accounts {c : Call} {f : c.Answer → Run Store β}
    (hf : ∀ a t, Store.answer c s = (.ok a, t) → (f a).Accounts t told next) :
    ((inMemory sink settings).ask c >>= f).Accounts s told next := by
  have hends : ((inMemory sink settings).ask c).Ends s (fun a t => Store.answer c s = (.ok a, t))
      fun _ _ => True := ask_ends (fun _ _ h => h) fun _ _ _ => trivial
  exact .silent_bind (.remote _) hends hf

theorem findRuleGroups_accounts {name : String} {f : List RuleGroup → Run Store β}
    (hf : (f (s.ruleGroupsNamed name)).Accounts s told next) :
    ((inMemory sink settings).ask (.findRuleGroups name) >>= f).Accounts s told next := by
  refine ask_accounts fun a t h => ?_
  cases h
  exact hf

theorem findRelyingParties_accounts {name : String} {f : List RelyingParty → Run Store β}
    (hf : (f (s.relyingPartiesNamed name)).Accounts s told next) :
    ((inMemory sink settings).ask (.findRelyingParties name) >>= f).Accounts s told next := by
  refine ask_accounts fun a t h => ?_
  cases h
  exact hf

theorem listing_accounts {f : List RuleGroup → Run Store β}
    (hf : (f s.sortedRuleGroups).Accounts s told next) :
    (remote Store.backend.ruleGroups >>= f).Accounts s told next := by
  have hends : (remote Store.backend.ruleGroups).Ends s
      (fun groups t => groups = s.sortedRuleGroups ∧ t = s) fun _ _ => True :=
    ruleGroups_listed ⟨rfl, rfl⟩ fun _ _ => trivial
  refine .silent_bind (.remote _) hends ?_
  rintro groups t ⟨rfl, rfl⟩
  exact hf

/-- a queued change is told and recorded -/
theorem queued_accounts {e : Event} {record : Run Store Unit} {report : Report}
    {f : Unit → Run Store β} (hrecord : record.Tells ⟨[], report⟩)
    (hf : (f ()).Accounts s told next) :
    ((inMemory sink settings).emit e >>= fun _ => record >>= f).Accounts s (⟨[e], report⟩ + told)
      next := by
  have hchange : (⟨[e], report⟩ : Account) = ⟨[e], 0⟩ + ⟨[], report⟩ := by
    rw [Account.add_def, zero_add]
    rfl
  rw [hchange, add_assoc]
  exact (emit_tells e).accounts_bind (hrecord.accounts_bind hf rfl) rfl

/-- a change that the store has made at once is told and recorded -/
theorem applied_accounts {e : Event} {record : Run Store Unit} {report : Report}
    {good : Unit → Store → Prop} (hrecord : record.Tells ⟨[], report⟩) (hgood : good () s) :
    ((inMemory sink settings).emit e >>= fun _ => (inMemory sink settings).emit .changesSaved
      >>= fun _ => record).Accounts s ⟨[e, .changesSaved], report⟩ good := by
  have hchange : (⟨[e, .changesSaved], report⟩ : Account)
      = ⟨[e], 0⟩ + (⟨[.changesSaved], 0⟩ + ⟨[], report⟩) := by
    rw [Account.add_def, Account.add_def, zero_add, zero_add]
    rfl
  rw [hchange]
  exact (emit_tells e).accounts_bind ((emit_tells _).accounts_bind (hrecord.accounts hgood) rfl) rfl

theorem saveChanges_accounts :
    (inMemory sink settings).saveChanges.Accounts s .committed fun _ _ => True := by
  have hcount : (recordReport (σ := Store) fun report =>
      { report with batches := report.batches + 1 }).Tells ⟨[], { batches := 1 }⟩ :=
    recordReport_tells fun r => by simp [Report.add_def]
  refine ask_accounts fun _ t _ => ?_
  exact hcount.accounts_bind ((note_tells _).accounts_bind ((emit_tells _).accounts trivial) rfl) rfl

/-! ### tearing down -/

/-- every link leads to another rule group, so none of them is passed over -/
theorem deleteLinkedGroups_accounts {seen : List Id} {links : List Link}
    (hlinks : (links.map (·.ruleGroup)).Nodup) (hseen : ∀ l ∈ links, l.ruleGroup ∉ seen) :
    ((inMemory sink settings).deleteLinkedGroups seen links).Accounts s
      ((links.map (·.ruleGroupName)).map .removedRuleGroup).sum fun _ _ => True := by
  induction links generalizing s seen with
  | nil => exact .pure trivial
  | cons l links ih =>
    obtain ⟨hl, hseen⟩ := List.forall_mem_cons.mp hseen
    rw [List.map_cons, List.nodup_cons] at hlinks
    unfold deleteLinkedGroups
    rw [if_neg (by simpa using hl)]
    refine findRuleGroups_accounts (.check fun g _ => ask_accounts fun _ t _ => ?_)
    have hrest : ∀ l' ∈ links, l'.ruleGroup ∉ l.ruleGroup :: seen := by
      intro l' hl' hmem
      rcases List.mem_cons.mp hmem with heq | hmem
      · exact hlinks.1 (heq ▸ List.mem_map_of_mem hl')
      · exact hseen l' hl' hmem
    rw [List.map_cons, List.map_cons, List.sum_cons]
    exact queued_accounts (recordDeleted_tells _) (ih hlinks.2 hrest)

theorem deleteKeys_accounts (keys : List Key) :
    ((inMemory sink settings).deleteKeys keys).Accounts s
      ((keys.map (·.displayName)).map .removedKey).sum fun _ _ => True := by
  induction keys generalizing s with
  | nil => exact .pure trivial
  | cons key keys ih =>
    refine ask_accounts fun found t _ => .check fun k _ => ask_accounts fun _ u _ => ?_
    rw [List.map_cons, List.map_cons, List.sum_cons]
    exact queued_accounts (recordDeleted_tells _) ih

theorem deleteGroups_accounts {old : RelyingParty} (hlinks : (old.links.map (·.ruleGroup)).Nodup)
    (withRuleGroups : Bool) :
    ((inMemory sink settings).deleteGroups old withRuleGroups).Accounts s
      (.batch ((if withRuleGroups then old.links.map (·.ruleGroupName) else []).map
        .removedRuleGroup)) fun _ _ => True := by
  unfold deleteGroups Account.batch
  cases withRuleGroups with
  | false => exact .pure trivial
  | true =>
    cases hempty : old.links with
    | nil => exact .pure trivial
    | cons l links =>
      rw [hempty] at hlinks
      exact (deleteLinkedGroups_accounts hlinks fun _ _ => List.not_mem_nil).bind fun _ _ _ =>
        saveChanges_accounts

theorem deleteAllKeys_accounts (old : RelyingParty) :
    ((inMemory sink settings).deleteAllKeys old).Accounts s
      (.batch ((old.keys.map (·.displayName)).map .removedKey)) fun _ _ => True := by
  unfold deleteAllKeys Account.batch
  cases old.keys with
  | nil => exact .pure trivial
  | cons key keys => exact (deleteKeys_accounts (key :: keys)).bind fun _ _ _ => saveChanges_accounts

theorem removeParty_accounts (old : RelyingParty) :
    ((inMemory sink settings).removeParty old).Accounts s (.removedRelyingParty old.name)
      fun _ _ => True :=
  ask_accounts fun _ _ _ => applied_accounts (recordDeleted_tells _) trivial

end Reconciler

namespace Store
variable {s : Store}

/-- no relying party is linked to a rule group twice -/
theorem Tidy.linksOf_nodup (h : s.Tidy) (id : Id) : ((s.linksOf id).map (·.ruleGroup)).Nodup := by
  have hperm : ((s.linksOf id).map (·.ruleGroup)).Perm
      ((s.links.filter (·.relyingParty = id)).map (·.ruleGroup)) := by
    refine ((List.mergeSort_perm _ _).map _).trans (.of_eq ?_)
    rw [List.map_map]
    rfl
  refine hperm.nodup_iff.mpr (List.Nodup.of_map (fun g => (⟨id, g⟩ : Link.Draft)) ?_)
  have hpairs : ((s.links.filter (·.relyingParty = id)).map (·.ruleGroup)).map
      (fun g => (⟨id, g⟩ : Link.Draft)) = (s.links.filter (·.relyingParty = id)).map (·.toDraft) := by
    rw [List.map_map]
    refine List.map_congr_left fun l hl => ?_
    have hid := of_decide_eq_true (List.mem_filter.mp hl).2
    rw [Function.comp_apply, ← hid]
  rw [hpairs]
  exact h.linkPairs.sublist (List.filter_sublist.map _)

end Store

namespace Reconciler
variable {sink : Sink} {settings : Settings} {s u : Store}

/-- what is told when a relying party goes is what a snapshot shows of it -/
theorem tearDown_accounts (ht : s.Tidy) (p : RelyingParty.Stored) (withRuleGroups : Bool) :
    ((inMemory sink settings).tearDown (s.view p) withRuleGroups).Accounts s
      ((s.snapshotRelyingParty p).tornDown withRuleGroups) fun _ _ => True := by
  rw [tearDown_eq, s.snapshotRelyingParty_view]
  refine (deleteGroups_accounts (ht.linksOf_nodup p.id) withRuleGroups).bind fun _ u _ => ?_
  exact (deleteAllKeys_accounts _).bind fun _ v _ => removeParty_accounts _

theorem tearDownAny_accounts (ht : s.Tidy) {name : String} {old : Option RelyingParty}
    (hold : atMostOne .relyingParty name (s.relyingPartiesNamed name) = .ok old)
    (withRuleGroups : Bool) :
    ((inMemory sink settings).tearDownAny old withRuleGroups).Accounts s
      (s.snapshot.tornDown name withRuleGroups) fun _ _ => True := by
  have hperm := s.snapshot_relyingPartiesNamed name
  unfold Snapshot.tornDown
  cases old with
  | none =>
    have hnil := List.map_eq_nil_iff.mp (atMostOne_eq_none hold)
    rw [hnil] at hperm
    rw [List.perm_nil.mp hperm]
    exact .pure trivial
  | some v =>
    obtain ⟨p, hp, rfl⟩ := List.map_eq_singleton_iff.mp (atMostOne_eq_some hold)
    rw [hp] at hperm
    rw [List.perm_singleton.mp hperm, List.map_singleton, List.sum_singleton]
    exact tearDown_accounts ht p withRuleGroups

end Reconciler

/-! ### linking -/

namespace Reconciler
variable {sink : Sink} {settings : Settings} {s u : Store} {name : String}

/-- links to those of the rule groups that are not linked yet -/
theorem linkGroups_accounts {relyingParty : Id} {linked : List Id} {groups : List RuleGroup}
    (hids : (groups.map (·.id)).Nodup) :
    ((inMemory sink settings).linkGroups name relyingParty linked groups).Accounts s
      (((groups.filter fun g => !linked.contains g.id).map (·.name)).map (.linked name)).sum
      (fun linked' t => t.ruleGroups = s.ruleGroups ∧ linked'
        = ((groups.filter fun g => !linked.contains g.id).map (·.id)).reverse ++ linked) := by
  induction groups generalizing s linked with
  | nil => exact .pure ⟨rfl, rfl⟩
  | cons g groups ih =>
    rw [List.map_cons, List.nodup_cons] at hids
    unfold linkGroups
    by_cases hg : linked.contains g.id = true
    · rw [if_pos hg, List.filter_cons_of_neg (by simpa using hg)]
      exact ih hids.2
    · rw [if_neg hg, List.filter_cons_of_pos (by simpa using hg)]
      have hrest : (groups.filter fun g' => !(g.id :: linked).contains g'.id)
          = groups.filter fun g' => !linked.contains g'.id := by
        refine List.filter_congr fun g' hg' => ?_
        have hne : g'.id ≠ g.id := fun heq => hids.1 (heq ▸ List.mem_map_of_mem hg')
        simp [hne]
      refine ask_accounts fun _ t ht => ?_
      have ht : t.ruleGroups = s.ruleGroups := by
        rw [(Store.answer_ok ht).1]
        rfl
      rw [List.map_cons, List.map_cons, List.sum_cons, ← hrest, ← ht]
      refine queued_accounts (recordLinked_tells _) ((ih hids.2).mono ?_)
      rintro linked' v ⟨hv, hlinked⟩
      refine ⟨hv, ?_⟩
      rw [hlinked, List.map_cons, List.reverse_cons, List.append_assoc]
      rfl

/-- the rule groups that are not linked when a pattern has had its turn are those that it is not found
in -/
theorem filter_linked {pattern : Pattern} {linked : List Id} {groups : List RuleGroup}
    (hids : (groups.map (·.id)).Nodup) :
    (groups.filter fun g => !((((groups.filter fun g => pattern.isFoundIn g.name).filter fun g =>
        !linked.contains g.id).map (·.id)).reverse ++ linked).contains g.id)
      = (groups.filter fun g => !linked.contains g.id).filter fun g => !pattern.isFoundIn g.name := by
  conv_rhs => rw [List.filter_filter]
  refine List.filter_congr fun g hg => ?_
  have hmem : g.id ∈ ((groups.filter fun g => pattern.isFoundIn g.name).filter fun g =>
      !linked.contains g.id).map (·.id) ↔ pattern.isFoundIn g.name = true ∧ g.id ∉ linked := by
    constructor
    · intro h
      obtain ⟨g', hg', hid⟩ := List.mem_map.mp h
      obtain ⟨hg', hlinked⟩ := List.mem_filter.mp hg'
      obtain ⟨hg', hfound⟩ := List.mem_filter.mp hg'
      rw [List.inj_on_of_nodup_map hids hg' hg hid] at hfound hlinked
      exact ⟨hfound, by simpa using hlinked⟩
    · rintro ⟨hfound, hlinked⟩
      refine List.mem_map_of_mem (List.mem_filter.mpr ⟨List.mem_filter.mpr ⟨hg, hfound⟩, ?_⟩)
      simpa using hlinked
  generalize ((groups.filter fun g => pattern.isFoundIn g.name).filter fun g =>
    !linked.contains g.id).map (·.id) = new at hmem ⊢
  by_cases hlinked : g.id ∈ linked
  · simp [hlinked]
  · by_cases hfound : pattern.isFoundIn g.name = true
    · simp [hlinked, hfound, hmem.mpr ⟨hfound, hlinked⟩]
    · have hnew : g.id ∉ new := fun h => hfound (hmem.mp h).1
      simp [hlinked, hfound, hnew]

theorem linkPatterns_accounts {linked : List Id} {patterns : List Pattern} {names : List String}
    (hids : (s.ruleGroups.map (·.id)).Nodup)
    (hnames : (s.sortedRuleGroups.filter fun g => !linked.contains g.id).map (·.name) = names) :
    ((inMemory sink settings).linkPatterns name linked patterns).Accounts s
      ((Pattern.picks patterns names).map (.linked name)).sum
      (fun linked' _ => linked'.length = linked.length + (Pattern.picks patterns names).length) := by
  induction patterns generalizing s linked names with
  | nil => exact .pure rfl
  | cons pattern patterns ih =>
    have hsorted : (s.sortedRuleGroups.map (·.id)).Nodup :=
      ((List.mergeSort_perm _ _).map _).nodup_iff.mpr hids
    refine findRelyingParties_accounts (.check fun p _ => listing_accounts ?_)
    refine (note_tells _).accounts_bind ?_ (zero_add _).symm
    have hfound : (((s.sortedRuleGroups.filter fun g => pattern.isFoundIn g.name).filter fun g =>
        !linked.contains g.id).map (·.name)) = names.filter pattern.isFoundIn := by
      rw [← hnames, List.filter_map, List.filter_filter, List.filter_filter]
      refine congrArg _ (List.filter_congr fun g _ => ?_)
      exact Bool.and_comm _ _
    have hmatching : ((s.sortedRuleGroups.filter fun g => pattern.isFoundIn g.name).map
        (·.id)).Nodup := hsorted.sublist (List.filter_sublist.map _)
    unfold Pattern.picks
    rw [List.map_append, List.sum_append, ← hfound]
    refine (linkGroups_accounts hmatching).bind ?_
    rintro linked' t ⟨ht, hlinked⟩
    have hrest : (t.sortedRuleGroups.filter fun g => !linked'.contains g.id).map (·.name)
        = names.filter fun g => !pattern.isFoundIn g := by
      unfold Store.sortedRuleGroups
      rw [ht, hlinked]
      show (s.sortedRuleGroups.filter _).map _ = _
      rw [filter_linked hsorted, ← hnames, List.filter_map]
      rfl
    refine (ih (ht ▸ hids) hrest).mono fun linked'' _ hlength => ?_
    rw [hlength, hlinked, List.length_append, List.length_append, List.length_reverse,
      List.length_map, List.length_map]
    omega

theorem linkAll_accounts (hids : (s.ruleGroups.map (·.id)).Nodup) (patterns : List Pattern) :
    ((inMemory sink settings).linkAll name patterns).Accounts s
      (.batch ((Pattern.picks patterns (sortNames (s.ruleGroups.map (·.name)))).map
        (.linked name))) fun _ _ => True := by
  have hnames : (s.sortedRuleGroups.filter fun g => !([] : List Id).contains g.id).map (·.name)
      = sortNames (s.ruleGroups.map (·.name)) := by
    rw [← s.sortedRuleGroups_names]
    exact congrArg _ (List.filter_true _)
  have hpatterns : ((inMemory sink settings).linkPatterns name [] patterns).Accounts s _ _ :=
    linkPatterns_accounts hids hnames
  generalize Pattern.picks patterns (sortNames (s.ruleGroups.map (·.name))) = picked at hpatterns
  unfold linkAll Account.batch
  cases picked with
  | nil =>
    rw [List.map_nil, List.isEmpty_nil, if_pos rfl, ← add_zero 0]
    refine hpatterns.bind fun linked t hlength => ?_
    rw [List.length_eq_zero_iff.mp hlength]
    exact .pure trivial
  | cons g picked =>
    refine hpatterns.bind fun linked t hlength => ?_
    have hsome : linked ≠ [] := by
      rintro rfl
      simp at hlength
    rw [if_pos (by simpa using hsome)]
    exact saveChanges_accounts

end Reconciler

/-! ## commands -/

/-- a text that is no pattern picks nothing -/
theorem Pattern.filterMap_eq {texts : List String} {patterns : List Pattern}
    (h : texts.map Pattern.ofText? = patterns.map some) :
    texts.filterMap Pattern.ofText? = patterns := by
  calc texts.filterMap Pattern.ofText?
      = (texts.map Pattern.ofText?).filterMap id := by
        rw [List.filterMap_map, Function.id_comp]
    _ = patterns := by
        rw [h, List.filterMap_map]
        exact List.filterMap_some

namespace Contents
open Classical

/-- what a snapshot tells of the rule groups that a command does not clear -/
theorem spared_snapshot {X : Contents} {c : Command} {name : String}
    (hsubject : c.subject? = some (.relyingParty name)) :
    sortNames ((X.hide (c.clears X)).ruleGroups.map (·.name))
      = X.snapshot.spared name c.takesRuleGroups := by
  have hnames : (X.hide (c.clears X)).ruleGroups.map (·.name)
      = (X.ruleGroups.map (·.name)).filter fun g => .ruleGroup g ∉ c.clears X := by
    rw [List.filter_map]
    rfl
  rw [hnames, sortNames_filter, ← X.sortNames_snapshot]
  refine List.filter_congr fun g _ => ?_
  have hclears : .ruleGroup g ∈ c.clears X ↔ c.Takes X g := by
    constructor
    · rintro (h | ⟨g', hg', heq⟩)
      · rw [hsubject] at h
        cases h
      · cases heq
        exact hg'
    · exact fun h => .inr ⟨g, h, rfl⟩
  rw [hclears, takes_snapshot, hsubject, Bool.eq_iff_iff]
  cases c.takesRuleGroups with
  | false => simp
  | true => simp [Snapshot.relyingPartiesNamed, eq_comm (a := name)]

end Contents

namespace Reconciler
variable {sink : Sink} {settings : Settings} {s u : Store}

theorem removeRuleGroupNamed_accounts (s : Store) (name : String) :
    ((inMemory sink settings).removeRuleGroupNamed name).Accounts s
      (s.snapshot.removedRuleGroups name) fun _ _ => True := by
  have hnames : (s.snapshot.ruleGroups.map (·.name)).filter (· = name)
      = (s.ruleGroupsNamed name).map (·.name) := by
    rw [← s.sortNames_ruleGroups, ← s.sortedRuleGroups_names, List.filter_map]
    rfl
  unfold Snapshot.removedRuleGroups
  rw [hnames]
  refine findRuleGroups_accounts (.check fun found hfound => ?_)
  cases found with
  | none =>
    rw [atMostOne_eq_none hfound]
    exact .pure trivial
  | some g =>
    have hsingle := atMostOne_eq_some hfound
    obtain ⟨-, hname, -⟩ := Store.ruleGroupsNamed_eq_singleton hsingle
    have hone : Account.batch [.removedRuleGroup name]
        = .removedRuleGroup name + (.committed + 0) := rfl
    rw [hsingle, List.map_singleton, List.map_singleton, hname, hone]
    refine ask_accounts fun _ t _ => queued_accounts (recordDeleted_tells _) ?_
    exact saveChanges_accounts.bind fun _ _ _ => .pure trivial

theorem createParty_accounts (d : RelyingParty.Draft) :
    ((inMemory sink settings).createParty d).Accounts s (.createdRelyingParty d.name)
      fun _ t => t.ruleGroups = s.ruleGroups := by
  refine ask_accounts fun id t ht => ?_
  obtain ⟨keys, heq, -⟩ := s.insertRelyingParty_frame d
  have ht : t.ruleGroups = s.ruleGroups := by
    rw [(Store.answer_ok ht).1]
    show ((s.insertRelyingParty d).2.record _).ruleGroups = _
    rw [heq]
    rfl
  exact applied_accounts (recordCreated_tells _) ht

theorem addRelyingParty_accounts (hs : s.Sound) (hc : s.Closed) (ht : s.Tidy) (hq : s.queue = [])
    (new : AddRelyingParty) :
    ((inMemory sink settings).addRelyingParty new).Accounts s
      ((Command.addRelyingParty new).account s.snapshot) fun _ _ => True := by
  rw [addRelyingParty_eq]
  refine .check fun d hd => ?_
  obtain ⟨hname, hne, hrealm⟩ := draft_eq_ok hd
  have hsubject : (Command.addRelyingParty new).subject? = some (.relyingParty d.name) := by
    show new.name.map Subject.relyingParty = _
    rw [hname]
    rfl
  refine .silent_bind (.mapM (fun _ => .lift _) _) (compilePatterns_ends new.patterns) ?_
  rintro patterns t ⟨rfl, hpatterns⟩
  have htold : (Command.addRelyingParty new).account t.snapshot
      = t.snapshot.tornDown d.name new.removeRelatedRuleGroups + (.createdRelyingParty d.name
        + Account.batch ((Pattern.picks patterns
            (t.snapshot.spared d.name new.removeRelatedRuleGroups)).map (.linked d.name))) := by
    show t.snapshot.tornDown (new.name.getD "") _ + (.createdRelyingParty (new.name.getD "")
      + Account.batch ((Pattern.picks (new.patterns.filterMap Pattern.ofText?)
          (t.snapshot.spared (new.name.getD "") _)).map (.linked (new.name.getD "")))) = _
    rw [hname, Pattern.filterMap_eq hpatterns]
    rfl
  rw [htold]
  refine findRelyingParties_accounts (.check fun old hold => ?_)
  have htear : ((inMemory sink settings).tearDownAny old new.removeRelatedRuleGroups).Ends t _
      fun e u => Stopped (∅ ∪ _) False _ e t u :=
    tearDownAny_ends (o := ∅) hs hc hsubject hold (fun _ => hq) (.nil hq) False.elim
  refine ((tearDownAny_accounts ht hold _).and_ends htear).bind ?_
  rintro - u ⟨-, -, hu⟩
  have hcontents := hu.hide
  rw [Contents.hide_empty, Set.empty_union] at hcontents
  refine (createParty_accounts d).bind fun _ v hv => ?_
  have hids := (hu.steps.sound hs).ruleGroupIds
  have hspared : sortNames (v.ruleGroups.map (·.name))
      = t.snapshot.spared d.name new.removeRelatedRuleGroups := by
    rw [hv, ← u.contents_names, hcontents, t.snapshot_eq]
    exact Contents.spared_snapshot hsubject
  rw [← hv] at hids
  rw [← hspared]
  exact linkAll_accounts hids patterns

/-- on a store without waiting changes a command that comes to its end has told what a snapshot of the
store shows of it -/
theorem execute_accounts (hs : s.Sound) (hc : s.Closed) (ht : s.Tidy) (hq : s.queue = [])
    (c : Command) :
    ((inMemory sink settings).execute c).Accounts s (c.account s.snapshot) fun _ _ => True := by
  cases c with
  | addRelyingParty new => exact addRelyingParty_accounts hs hc ht hq new
  | removeRelyingParty name withRuleGroups =>
    refine .check fun name' hname => findRelyingParties_accounts (.check fun old hold => ?_)
    obtain ⟨hname, -⟩ := requiredField_eq_ok.mp hname
    cases hname
    have htear : ((inMemory sink settings).tearDownAny old withRuleGroups).Accounts s
        (s.snapshot.tornDown name withRuleGroups) fun _ _ => True :=
      tearDownAny_accounts ht hold withRuleGroups
    cases old with
    | none =>
      show Run.Accounts _ s (s.snapshot.tornDown name withRuleGroups) _
      rw [← add_zero (s.snapshot.tornDown name withRuleGroups)]
      exact htear.bind fun _ t _ => (note_tells _).accounts True.intro
    | some old => exact htear
  | addRuleGroup name =>
    refine .check fun name' hname => ?_
    obtain ⟨rfl, -⟩ := requiredField_eq_ok.mp hname
    rw [discard_bind_eq]
    refine (removeRuleGroupNamed_accounts s name').bind fun _ t _ => ask_accounts fun _ u _ => ?_
    exact applied_accounts (recordCreated_tells _) trivial
  | addRule ruleGroup rule =>
    refine .check fun name hname => .check fun type htype => ?_
    obtain ⟨rfl, -⟩ := requiredField_eq_ok.mp hname
    obtain ⟨htype, -⟩ := requiredField_eq_ok.mp htype
    show Run.Accounts _ s (.createdRule name (rule.description.getD (rule.inputClaimType.getD ""))) _
    rw [htype]
    refine findRuleGroups_accounts (.check fun g hg => ask_accounts fun _ t _ => ?_)
    exact applied_accounts (recordCreated_tells _) trivial
  | removeRuleGroup name =>
    refine .check fun name' hname => ?_
    obtain ⟨hname, -⟩ := requiredField_eq_ok.mp hname
    cases hname
    show Run.Accounts _ s (s.snapshot.removedRuleGroups name) _
    rw [← add_zero (s.snapshot.removedRuleGroups name)]
    refine (removeRuleGroupNamed_accounts s name).bind fun found t _ => ?_
    split
    · exact (note_tells _).accounts trivial
    · exact .pure trivial

end Reconciler
end AccessControl
