import AccessControl.Proofs.Declaration
import AccessControl.Proofs.Reconcile.Runs

/-!
# What a namespace declares

A namespace mentions names in an order, and the last mention of a name counts.  After a run that went
through

* a rule group or relying party is as its last mention declares it, and gone if that removes it;
* what is never mentioned is as it was, except that links to mentioned rule groups are gone;
* a declared relying party is linked to the rule groups that match and are not mentioned after it.

`NamespaceDeclaration.Realizes` says this of two contents, `reconcile_realizes` of the stores before and
after a run.  Contents admit the commands of a namespace if no name that it mentions is there twice
(`NamespaceDeclaration.admits`).
-/

namespace AccessControl

/-! ## mentions -/

/-- a declaration or a removal in a namespace; the rule groups of a relying party come before it -/
inductive Mention where
  | relyingParty (d : RelyingParty.Declaration)
  | ruleGroup (d : RuleGroup.Declaration)
  | removal (x : Subject)
  deriving DecidableEq

namespace Mention

def subject? : Mention → Option Subject
  | .relyingParty d => d.name.map .relyingParty
  | .ruleGroup d => d.name.map .ruleGroup
  | .removal x => some x

/-- what is carried out for it; related rule groups stay -/
def commands : Mention → List Command
  | .relyingParty d => [d.command]
  | .ruleGroup d => d.commands
  | .removal (.relyingParty name) => [.removeRelyingParty name false]
  | .removal (.ruleGroup name) => [.removeRuleGroup name]

def subjects (mentions : List Mention) : Set Subject := {x | ∃ m ∈ mentions, m.subject? = some x}

/-- the last mention of a name, with the mentions after it -/
def last? (x : Subject) : List Mention → Option (Mention × List Mention)
  | [] => none
  | m :: ms => (last? x ms).or (if m.subject? = some x then some (m, ms) else none)

theorem subjects_cons (m : Mention) (ms : List Mention) :
    subjects (m :: ms) = {x | m.subject? = some x} ∪ subjects ms := by
  ext x
  simp [subjects]

theorem last?_eq_none {x : Subject} {ms : List Mention} (h : last? x ms = none) :
    x ∉ subjects ms := by
  induction ms with
  | nil => simp [subjects]
  | cons m ms ih =>
    obtain ⟨hlater, hm⟩ := Option.or_eq_none_iff.mp h
    rw [subjects_cons]
    rintro (hx | hx)
    · have hx : m.subject? = some x := hx
      rw [if_pos hx] at hm
      cases hm
    · exact ih hlater hx

theorem last?_eq_some {x : Subject} {ms later : List Mention} {m : Mention}
    (h : last? x ms = some (m, later)) :
    (∃ before, ms = before ++ m :: later) ∧ m.subject? = some x ∧ x ∉ subjects later := by
  induction ms with
  | nil => cases h
  | cons first ms ih =>
    rcases Option.or_eq_some_iff.mp h with h | ⟨hnone, h⟩
    · obtain ⟨⟨before, rfl⟩, hm⟩ := ih h
      exact ⟨⟨first :: before, rfl⟩, hm⟩
    · split at h
      · rename_i hfirst
        cases h
        exact ⟨⟨[], rfl⟩, hfirst, last?_eq_none hnone⟩
      · cases h

/-! ### their commands -/

theorem subjects_commands (m : Mention) : Command.subjects m.commands = {x | m.subject? = some x} := by
  have hone (c : Command) : Command.subjects [c] = {x | c.subject? = some x} := by
    rw [Command.subjects_cons, Command.subjects_nil, Set.union_empty]
  cases m with
  | relyingParty d => exact hone d.command
  | ruleGroup d =>
    show Command.subjects (.addRuleGroup d.name :: d.rules.map (.addRule d.name)) = _
    have hrules : Command.subjects (d.rules.map (.addRule d.name)) = ∅ := by
      refine Set.eq_empty_iff_forall_notMem.mpr ?_
      rintro x ⟨c, hc, hx⟩
      obtain ⟨rule, -, rfl⟩ := List.mem_map.mp hc
      cases hx
    rw [Command.subjects_cons, hrules, Set.union_empty]
    rfl
  | removal x =>
    cases x with
    | ruleGroup name => exact hone (.removeRuleGroup name)
    | relyingParty name => exact hone (.removeRelyingParty name false)

theorem subjects_flatMap (ms : List Mention) :
    Command.subjects (ms.flatMap (·.commands)) = subjects ms := by
  induction ms with
  | nil => simp [Command.subjects, subjects]
  | cons m ms ih =>
    rw [List.flatMap_cons, Command.subjects_append, subjects_commands, ih, subjects_cons]

theorem grounded (m : Mention) (o : Set Subject) : Command.Grounded o m.commands := by
  cases m with
  | relyingParty d => exact Command.grounded_singleton (fun g h => by cases h) o
  | ruleGroup d => exact d.grounded o
  | removal x =>
    cases x with
    | ruleGroup name => exact Command.grounded_singleton (fun g h => by cases h) o
    | relyingParty name => exact Command.grounded_singleton (fun g h => by cases h) o

/-- the commands of mentions are about what is mentioned -/
theorem confined {ms : List Mention}
    (h : ∀ c ∈ ms.flatMap (·.commands), c.takesRuleGroups = false) :
    Command.Confined (ms.flatMap (·.commands)) (subjects ms) := by
  rw [← subjects_flatMap]
  exact (Command.grounded_flatMap (fun m o => m.grounded o) ms Set.univ).confined h

end Mention

def NamespaceEntry.mentions : NamespaceEntry → List Mention
  | .relyingParty d => d.ruleGroups.map .ruleGroup ++ [.relyingParty d]
  | .ruleGroup d => [.ruleGroup d]
  | .removeRelyingParty name _ => [.removal (.relyingParty name)]
  | .removeRuleGroup name => [.removal (.ruleGroup name)]

theorem NamespaceEntry.commands_eq {e : NamespaceEntry} (h : e.keepsRelated = true) :
    e.commands = e.mentions.flatMap (·.commands) := by
  cases e with
  | relyingParty d =>
    show _ = (d.ruleGroups.map Mention.ruleGroup ++ [Mention.relyingParty d]).flatMap _
    rw [List.flatMap_append, List.flatMap_map]
    rfl
  | ruleGroup d => exact (List.append_nil _).symm
  | removeRelyingParty name withRuleGroups =>
    cases withRuleGroups with
    | false => rfl
    | true => cases h
  | removeRuleGroup name => rfl

def NamespaceDeclaration.mentions (d : NamespaceDeclaration) : List Mention :=
  d.entries.flatMap (·.mentions)

theorem NamespaceDeclaration.commands_eq {d : NamespaceDeclaration} (h : d.keepsRelated = true) :
    d.commands = d.mentions.flatMap (·.commands) := by
  unfold NamespaceDeclaration.commands NamespaceDeclaration.mentions
  rw [List.flatMap_assoc]
  exact List.flatMap_congr fun e he => e.commands_eq (List.all_eq_true.mp h e he)

/-! ## what the mentions make of contents -/

open Classical

/-- the new relying party that a declaration asks for -/
def RelyingParty.Declaration.addition (d : RelyingParty.Declaration) : AddRelyingParty :=
  match d.command with
  | .addRelyingParty new => new
  | _ => {}

/-- all rule groups of a name, if the namespace is declared upon `X` -/
def NamespaceDeclaration.ruleGroupsNamed (d : NamespaceDeclaration) (X : Contents) (name : String) :
    List RuleGroup.Content :=
  match Mention.last? (.ruleGroup name) d.mentions with
  | none => X.ruleGroups.filter (·.name = name)
  | some (.ruleGroup g, _) => [⟨name, g.rules.map (·.body)⟩]
  | some _ => []

/-- all relying parties of a name, if the namespace is declared upon `X` and `Z` has the rule groups
that there are in the end.  None can be created without a realm address. -/
noncomputable def NamespaceDeclaration.relyingPartiesNamed (settings : Settings)
    (d : NamespaceDeclaration) (X Z : Contents) (name : String) : List RelyingParty.Content :=
  match Mention.last? (.relyingParty name) d.mentions with
  | none => (X.relyingParties.filter (·.name = name)).map (·.unlink (Mention.subjects d.mentions))
  | some (.relyingParty p, later) =>
    p.realmAddress.toList.map fun realmAddress => p.addition.content settings name realmAddress
      ((Z.matching p.allPatterns).filter fun g => .ruleGroup g ∉ Mention.subjects later)
  | some _ => []

/-- the contents `Z` are what the namespace makes of the contents `X` -/
structure NamespaceDeclaration.Realizes (settings : Settings) (d : NamespaceDeclaration)
    (X Z : Contents) : Prop where
  ruleGroups : ∀ name, Z.ruleGroups.filter (·.name = name) = d.ruleGroupsNamed X name
  relyingParties : ∀ name,
    Z.relyingParties.filter (·.name = name) = d.relyingPartiesNamed settings X Z name

namespace Contents
variable {settings : Settings} {X : Contents}

/-- rules that are added one after another -/
theorem after_addRules {name : String} {rules : List Rule.Declaration} {bodies : List Rule.Body}
    (h : X.ruleGroups.filter (·.name = name) = [⟨name, bodies⟩]) :
    (X.after settings (rules.map (.addRule (some name)))).ruleGroups.filter (·.name = name)
      = [⟨name, bodies ++ rules.map (·.body)⟩] := by
  induction rules generalizing X bodies with
  | nil =>
    show X.ruleGroups.filter _ = [⟨name, bodies ++ []⟩]
    rw [List.append_nil]
    exact h
  | cons rule rules ih =>
    have hnext : (X.next settings (.addRule (some name) rule)).ruleGroups.filter (·.name = name)
        = [⟨name, bodies ++ [rule.body]⟩] := by
      unfold next
      rw [clears_addRule, hide_empty]
      show (X.addRule name rule.body).ruleGroups.filter (·.name = name) = _
      rw [addRule_ruleGroups, h]
      rfl
    rw [List.map_cons, after_cons, ih hnext, List.append_assoc]
    rfl

/-- a rule group replaces all of its name, and has no rules at first -/
theorem next_addRuleGroup (X : Contents) (name : String) :
    (X.next settings (.addRuleGroup (some name))).ruleGroups.filter (·.name = name)
      = [⟨name, []⟩] := by
  have hname : .ruleGroup name ∈ (Command.addRuleGroup (some name)).clears X := .inl rfl
  unfold next
  show ((X.hide _).ruleGroups ++ [(⟨name, []⟩ : RuleGroup.Content)]).filter _ = _
  rw [List.filter_append, filter_hidden hname]
  simp

theorem after_ruleGroup {d : RuleGroup.Declaration} {name : String} (h : d.name = some name) :
    (X.after settings d.commands).ruleGroups.filter (·.name = name)
      = [⟨name, d.rules.map (·.body)⟩] := by
  unfold RuleGroup.Declaration.commands
  rw [h, after_cons]
  exact after_addRules (X.next_addRuleGroup name)

theorem matching_hide_eq {o : Set Subject} (h : ∀ g, .ruleGroup g ∉ o) {patterns : List String} :
    (X.hide o).matching patterns = X.matching patterns := by
  rw [matching_hide]
  exact Multiset.filter_eq_self.mpr fun g _ => h g

/-- a new relying party is linked to what there is -/
theorem next_relyingParty {p : RelyingParty.Declaration} {new : RelyingParty.Draft}
    (hkeeps : p.command.takesRuleGroups = false)
    (hdraft : Reconciler.draft settings p.addition = .ok new) :
    (X.next settings p.command).relyingParties.filter (·.name = new.name)
        = [⟨new.toProfile, new.keys, X.matching p.allPatterns⟩]
      ∧ (X.next settings p.command).matching p.allPatterns = X.matching p.allPatterns := by
  have hsubject : p.command.subject? = some (.relyingParty new.name) := by
    show p.addition.name.map Subject.relyingParty = _
    rw [(draft_eq_ok hdraft).1]
    rfl
  have hnext : X.next settings p.command = (X.hide {.relyingParty new.name}).addRelyingParty
      new.toProfile new.keys ((X.hide {.relyingParty new.name}).matching p.allPatterns) := by
    unfold next
    rw [clears_singleton hkeeps hsubject]
    exact change_addRelyingParty hdraft _
  have hmatching : (X.hide {.relyingParty new.name}).matching p.allPatterns
      = X.matching p.allPatterns :=
    matching_hide_eq fun g h => by cases h
  rw [hmatching] at hnext
  rw [hnext]
  refine ⟨?_, hmatching⟩
  show ((X.hide _).relyingParties ++ [_]).filter _ = _
  rw [List.filter_append, filter_hidden_relyingParty (Set.mem_singleton _)]
  simp

end Contents

/-! ## what a namespace makes of contents -/

namespace Mention
variable {settings : Settings} {X : Contents} {ms later : List Mention} {m : Mention} {x : Subject}

/-- a run up to the last mention of a name, and what follows it -/
theorem after_split (hkeeps : ∀ c ∈ ms.flatMap (·.commands), c.takesRuleGroups = false)
    (hlast : last? x ms = some (m, later)) :
    m ∈ ms ∧ m.subject? = some x ∧ x ∉ subjects later
      ∧ Command.Confined (later.flatMap (·.commands)) (subjects later)
      ∧ ∃ W : Contents, X.after settings (ms.flatMap (·.commands))
          = (W.after settings m.commands).after settings (later.flatMap (·.commands)) := by
  obtain ⟨⟨before, rfl⟩, hm, hx⟩ := last?_eq_some hlast
  rw [List.flatMap_append, List.flatMap_cons] at hkeeps ⊢
  refine ⟨List.mem_append_right _ List.mem_cons_self, hm, hx, confined fun c hc => ?_,
    X.after settings (before.flatMap (·.commands)), ?_⟩
  · exact hkeeps c (List.mem_append_right _ (List.mem_append_right _ hc))
  · rw [Contents.after_append, Contents.after_append]

theorem after_relyingParties (hconfined : Command.Confined (ms.flatMap (·.commands)) (subjects ms))
    {name : String} (hname : .relyingParty name ∉ subjects ms) :
    (X.after settings (ms.flatMap (·.commands))).relyingParties.filter (·.name = name)
      = (X.relyingParties.filter (·.name = name)).map (·.unlink (subjects ms)) := by
  rw [← subjects_flatMap] at hconfined hname ⊢
  exact Contents.after_relyingParties hconfined hname

end Mention

namespace NamespaceDeclaration
variable {settings : Settings} {d : NamespaceDeclaration} {X : Contents}

theorem after_ruleGroups (hd : d.keepsRelated = true) (name : String) :
    (X.after settings d.commands).ruleGroups.filter (·.name = name) = d.ruleGroupsNamed X name := by
  have hkeeps := d.takes_not hd
  rw [d.commands_eq hd] at hkeeps ⊢
  unfold ruleGroupsNamed
  cases hlast : Mention.last? (.ruleGroup name) d.mentions with
  | none => exact Contents.after_ruleGroups (Mention.confined hkeeps) (Mention.last?_eq_none hlast)
  | some found =>
    obtain ⟨m, later⟩ := found
    obtain ⟨-, hm, hlater, hconfined, W, hW⟩ := Mention.after_split hkeeps hlast
    rw [hW, Contents.after_ruleGroups hconfined hlater]
    cases m with
    | ruleGroup g =>
      obtain ⟨_, hname, hx⟩ := Option.map_eq_some_iff.mp hm
      cases hx
      exact Contents.after_ruleGroup hname
    | relyingParty p =>
      obtain ⟨_, -, hx⟩ := Option.map_eq_some_iff.mp hm
      cases hx
    | removal x =>
      cases hm
      exact Contents.filter_hidden (.inl rfl)

/-- a declared relying party is linked to what matches and is not mentioned after it -/
theorem after_declared {p : RelyingParty.Declaration} {later : List Mention} {W Z : Contents}
    {new : RelyingParty.Draft} (hkeeps : p.command.takesRuleGroups = false)
    (hdraft : Reconciler.draft settings p.addition = .ok new)
    (hconfined : Command.Confined (later.flatMap (·.commands)) (Mention.subjects later))
    (hlater : .relyingParty new.name ∉ Mention.subjects later)
    (hZ : Z = (W.next settings p.command).after settings (later.flatMap (·.commands))) :
    Z.relyingParties.filter (·.name = new.name)
      = [p.addition.content settings new.name new.realmAddress
        ((Z.matching p.allPatterns).filter fun g => .ruleGroup g ∉ Mention.subjects later)] := by
  obtain ⟨hparty, hmatching⟩ := Contents.next_relyingParty (X := W) hkeeps hdraft
  rw [← draft_content hdraft, hZ, Mention.after_relyingParties hconfined hlater, hparty, Contents.matching_after hconfined,
    hmatching]
  rfl

theorem after_relyingParties (hd : d.keepsRelated = true)
    (hcomplete : ∀ c ∈ d.commands, c.Complete settings) (name : String) :
    (X.after settings d.commands).relyingParties.filter (·.name = name)
      = d.relyingPartiesNamed settings X (X.after settings d.commands) name := by
  have hkeeps := d.takes_not hd
  rw [d.commands_eq hd] at hkeeps hcomplete ⊢
  unfold relyingPartiesNamed
  cases hlast : Mention.last? (.relyingParty name) d.mentions with
  | none =>
    exact Mention.after_relyingParties (Mention.confined hkeeps) (Mention.last?_eq_none hlast)
  | some found =>
    obtain ⟨m, later⟩ := found
    obtain ⟨hmem, hm, hlater, hconfined, W, hW⟩ := Mention.after_split (X := X) hkeeps hlast
    cases m with
    | ruleGroup g =>
      obtain ⟨_, -, hx⟩ := Option.map_eq_some_iff.mp hm
      cases hx
    | removal x =>
      cases hm
      rw [hW, Mention.after_relyingParties hconfined hlater]
      show ((W.hide _).relyingParties.filter _).map _ = []
      rw [Contents.filter_hidden_relyingParty (.inl rfl)]
      rfl
    | relyingParty p =>
      have hp : p.command ∈ d.mentions.flatMap (·.commands) :=
        List.mem_flatMap.mpr ⟨_, hmem, List.mem_singleton.mpr rfl⟩
      obtain ⟨⟨new, hdraft⟩, -⟩ := hcomplete _ hp
      have hdraft : Reconciler.draft settings p.addition = .ok new := hdraft
      obtain ⟨_, hname, hx⟩ := Option.map_eq_some_iff.mp hm
      cases hx
      have hnew : new.name = name :=
        Option.some.inj ((draft_eq_ok hdraft).1.symm.trans hname)
      have hrealm : p.realmAddress = some new.realmAddress := (draft_profile hdraft).2.1
      simp only [hrealm]
      rw [← hnew] at hlater ⊢
      exact after_declared (hkeeps _ hp) hdraft hconfined hlater hW

theorem after_realizes (hd : d.keepsRelated = true)
    (hcomplete : ∀ c ∈ d.commands, c.Complete settings) :
    d.Realizes settings X (X.after settings d.commands) where
  ruleGroups := after_ruleGroups hd
  relyingParties := after_relyingParties hd hcomplete

end NamespaceDeclaration

/-! ## names that are there once -/

theorem Contents.admits_rules {settings : Settings} {X : Contents} {name : Option String}
    (h : ∀ g, name = some g → X.count (.ruleGroup g) = 1) (rules : List Rule.Declaration) :
    X.Admits settings (rules.map (.addRule name)) := by
  induction rules generalizing X with
  | nil => trivial
  | cons rule rules ih =>
    refine ⟨⟨fun x hx => ?_, h, fun g hg => absurd hg (Command.not_takes rfl X g)⟩, ?_⟩
    · cases hx
    · apply ih
      intro g hg
      unfold next
      rw [clears_addRule, hide_empty, count_change (by simp [Command.subject?])]
      exact h g hg

/-- a command that only replaces is ready if what it replaces is there once at most -/
theorem Command.ready_of_count {c : Command} {X : Contents} (hkeeps : c.takesRuleGroups = false)
    (hextends : c.extended? = none) (h : ∀ x, c.subject? = some x → X.count x ≤ 1) : c.Ready X where
  replaced := h
  extended := fun g hg => by
    rw [hextends] at hg
    cases hg
  taken := fun g hg => absurd hg (Command.not_takes hkeeps X g)

theorem Mention.admits {settings : Settings} {X : Contents} {m : Mention}
    (hkeeps : ∀ c ∈ m.commands, c.takesRuleGroups = false)
    (h : ∀ x, m.subject? = some x → X.count x ≤ 1) : X.Admits settings m.commands := by
  cases m with
  | relyingParty d => exact ⟨Command.ready_of_count (hkeeps _ List.mem_cons_self) rfl h, trivial⟩
  | ruleGroup d =>
    refine ⟨Command.ready_of_count rfl rfl h, ?_⟩
    apply Contents.admits_rules
    intro g hg
    show (X.next settings (.addRuleGroup d.name)).ruleGroups.countP _ = 1
    rw [List.countP_eq_length_filter, hg, X.next_addRuleGroup g]
    rfl
  | removal x =>
    cases x with
    | relyingParty name => exact ⟨Command.ready_of_count rfl rfl h, trivial⟩
    | ruleGroup name => exact ⟨Command.ready_of_count rfl rfl h, trivial⟩

/-- nothing but a name that is there twice can keep complete commands of a namespace from being
carried out -/
theorem NamespaceDeclaration.admits {settings : Settings} {d : NamespaceDeclaration} {X : Contents}
    (hd : d.keepsRelated = true) (h : ∀ x ∈ Command.subjects d.commands, X.count x ≤ 1) :
    X.Admits settings d.commands := by
  have hkeeps := d.takes_not hd
  rw [d.commands_eq hd] at hkeeps h ⊢
  rw [Mention.subjects_flatMap] at h
  generalize d.mentions = ms at hkeeps h
  induction ms generalizing X with
  | nil => trivial
  | cons m ms ih =>
    rw [List.flatMap_cons] at hkeeps ⊢
    rw [Mention.subjects_cons] at h
    refine Contents.admits_append.mpr ⟨Mention.admits (fun c hc => ?_) fun x hx => h x (.inl hx), ?_⟩
    · exact hkeeps c (List.mem_append_left _ hc)
    · refine ih (fun c hc => hkeeps c (List.mem_append_right _ hc)) fun x hx => ?_
      exact Contents.count_after_le_one (h x (.inr hx)) m.commands

/-! ## what a namespace makes of stores -/

theorem Contents.matching_nodup {X : Contents} (h : ∀ x, X.count x ≤ 1) (patterns : List String) :
    (X.matching patterns).Nodup := by
  have hnames : (X.ruleGroups.map (·.name)).Nodup := by
    refine List.nodup_iff_count_le_one.mpr fun name => ?_
    rw [List.count_eq_countP, List.countP_map]
    refine Nat.le_trans (List.countP_mono_left fun g _ hg => ?_) (h (.ruleGroup name))
    exact decide_eq_true (eq_of_beq hg)
  exact Multiset.coe_nodup.mpr (hnames.filter _)

open Reconciler

/-- a run that comes to its end leaves what the namespace declares, and no name and no link of a
declared relying party twice -/
theorem reconcile_realizes {sink : Sink} {settings : Settings} {s : Store} (hs : s.Reachable)
    (hc : s.Closed) (hq : s.queue = []) (hunique : ∀ x, s.contents.count x ≤ 1)
    {d : NamespaceDeclaration} (hd : d.keepsRelated = true) {notes : List Diagnostic}
    (hok : ((inMemory sink settings).reconcile d.commands ⟨s, notes⟩).1.isOk = true) :
    let t := ((inMemory sink settings).reconcile d.commands ⟨s, notes⟩).2.session.store
    d.Realizes settings s.contents t.contents ∧ (∀ x, t.contents.count x ≤ 1)
      ∧ ∀ name p later, Mention.last? (.relyingParty name) d.mentions = some (.relyingParty p, later) →
          ∀ q ∈ t.contents.relyingParties, q.name = name → q.links.Nodup := by
  intro t
  have hcarries : Carries settings d.commands s t :=
    reconcile_good (executeAll_carries hs.sound hc hq) hok
  have hcount (x : Subject) : t.contents.count x ≤ 1 :=
    (reconcile_steps d.commands s notes).count_le_one (hunique x)
  have hrealizes : d.Realizes settings s.contents t.contents := by
    rw [hcarries.contents]
    exact NamespaceDeclaration.after_realizes hd hcarries.complete
  refine ⟨hrealizes, hcount, fun name p later hlast q hq hname => ?_⟩
  have hq : q ∈ d.relyingPartiesNamed settings s.contents t.contents name := by
    rw [← hrealizes.relyingParties]
    exact List.mem_filter.mpr ⟨hq, decide_eq_true hname⟩
  unfold NamespaceDeclaration.relyingPartiesNamed at hq
  rw [hlast] at hq
  obtain ⟨realmAddress, -, rfl⟩ := List.mem_map.mp hq
  exact (Contents.matching_nodup hcount p.allPatterns).filter _

/-- the old rule group is replaced and the old relying party goes -/
theorem reconcile_realizes_portal :
    let old : RelyingParty.Draft :=
      ⟨⟨"legacy", "urn:legacy", none, .saml2, 600, []⟩, some [1], none, none, none, none, none⟩
    let s := ((({} : Store).insertRuleGroup ⟨"claims"⟩).2.insertRelyingParty old).2
    let d : NamespaceDeclaration := ⟨[.relyingParty .portal, .removeRelyingParty "legacy" false]⟩
    let run := (inMemory .keeping {}).reconcile d.commands ⟨s, []⟩
    run.1.isOk = true ∧ d.Realizes {} s.contents run.2.session.store.contents := by
  intro old s d run
  have hs : s.Reachable := .seedRelyingParty old (.seedRuleGroup ⟨"claims"⟩ (.fresh 50))
  have hc : s.Closed := ((Store.Closed.fresh 50).insertRuleGroup ⟨"claims"⟩).insertRelyingParty old
  have hunique (x : Subject) : s.contents.count x ≤ 1 := by
    cases x with
    | ruleGroup name => exact List.countP_le_length
    | relyingParty name => exact List.countP_le_length
  have hok : run.1.isOk = true := by decide +kernel
  exact ⟨hok, (reconcile_realizes hs hc rfl hunique rfl hok).1⟩

end AccessControl
