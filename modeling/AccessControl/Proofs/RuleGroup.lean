import AccessControl.Proofs.Reconcile.Replacement

/-!
# What a declaration leaves of rule groups

The commands of a declared rule group delete what has its name, create it anew, and add one rule after
another.  As the new rule group is the only one of its name from then on, every rule finds it.

* `removeRuleGroupNamed_removes`   what a deletion takes away;
* `Renewed`                        the new rule group with the rules that it has so far;
* `addRule_renews`                 one more rule, which is never refused for the name of its rule group;
* `reconcile_renews`               a whole declaration.
-/

namespace AccessControl

/-- a stored rule as it would be declared -/
def Rule.declaration (r : Rule) : Rule.Declaration where
  description := r.description
  identityProvider := r.identityProvider
  inputClaimType := some r.inputClaimType
  inputClaimValue := r.inputClaimValue
  outputClaimType := r.outputClaimType
  outputClaimValue := r.outputClaimValue
  passthrough := r.passthrough

namespace RuleGroup.Declaration

/-- the last command adds the last rule -/
theorem commands_concat (name : Option String) (rules : List Rule.Declaration)
    (rule : Rule.Declaration) :
    commands ⟨name, rules ++ [rule]⟩ = commands ⟨name, rules⟩ ++ [.addRule name rule] := by
  unfold commands
  rw [List.map_append]
  rfl

/-- what is run before one of the rules is a declaration of the rules before it -/
theorem commands_split {d : Declaration} {before after : List Command} {ruleGroup : Option String}
    {rule : Rule.Declaration} (h : d.commands = before ++ .addRule ruleGroup rule :: after) :
    ruleGroup = d.name ∧ ∃ rules, before = commands ⟨d.name, rules⟩ := by
  cases before with
  | nil => cases h
  | cons c before =>
    obtain ⟨rfl, hrules⟩ := List.cons.inj h
    obtain ⟨rules, later, -, rfl, hlater⟩ := List.map_eq_append_iff.mp hrules
    obtain ⟨_, _, -, hrule, -⟩ := List.map_eq_cons_iff.mp hlater
    cases hrule
    exact ⟨rfl, rules, rfl⟩

end RuleGroup.Declaration

namespace Store
variable {s : Store} {name : String}

/-- the identities of the rule groups of a name -/
def groupsNamed (s : Store) (name : String) : List Id :=
  (s.ruleGroups.filter (·.name = name)).map (·.id)

theorem ruleGroupsNamed_filter (s : Store) (name : String) :
    (s.ruleGroupsNamed name).Perm (s.ruleGroups.filter (·.name = name)) :=
  (List.mergeSort_perm _ _).filter _

theorem groupsNamed_sole {g : RuleGroup} (h : s.ruleGroupsNamed name = [g]) :
    s.groupsNamed name = [g.id] := by
  have hperm := s.ruleGroupsNamed_filter name
  rw [h] at hperm
  unfold groupsNamed
  rw [List.perm_singleton.mp hperm.symm]
  rfl

theorem groupsNamed_eq_nil (h : ∀ g ∈ s.ruleGroups, g.name ≠ name) : s.groupsNamed name = [] := by
  unfold groupsNamed
  rw [List.filter_eq_nil_iff.mpr fun g hg hn => h g hg (of_decide_eq_true hn)]
  rfl

theorem mem_groupsNamed (hs : s.Sound) {g : RuleGroup} (hg : g ∈ s.ruleGroups) :
    g.id ∈ s.groupsNamed name ↔ g.name = name := by
  constructor
  · intro h
    obtain ⟨g', hg', hid⟩ := List.mem_map.mp h
    obtain ⟨hg', hname⟩ := List.mem_filter.mp hg'
    rw [← hs.ruleGroup_eq hg' hg hid]
    exact of_decide_eq_true hname
  · exact fun h => List.mem_map_of_mem (List.mem_filter.mpr ⟨hg, decide_eq_true h⟩)

theorem records_insertRuleGroup (s : Store) (new : RuleGroup.Draft) :
    (s.insertRuleGroup new).2.records
      = s.records ++ { ruleGroups := [⟨s.nextId, new.name⟩] } := by
  show _ = Records.append _ _
  simp [Records.append, records, insertRuleGroup]

theorem records_insertRule (s : Store) (new : Rule.Draft) :
    (s.insertRule new).2.records = s.records ++ { rules := [⟨new, s.nextId⟩] } := by
  show _ = Records.append _ _
  simp [Records.append, records, insertRule]

end Store

namespace Reconciler

variable {sink : Sink} {settings : Settings} {s t u : Store} {g : RuleGroup} {rules : List Rule}

/-! ## the old rule group -/

theorem removeRuleGroupNamed_removes (hc : s.Closed) (hq : s.queue = []) (name : String) :
    ((inMemory sink settings).removeRuleGroupNamed name).Ends s
      (fun _ u => (s.groupsNamed name).length ≤ 1 ∧ Removes s [] (s.groupsNamed name) u)
      (fun _ _ => True) := by
  refine findRuleGroups_bind (.check (fun _ _ => trivial) fun old hold => ?_)
  cases old with
  | none =>
    have hnone := Store.groupsNamed_eq_nil (Store.ruleGroupsNamed_eq_nil (atMostOne_eq_none hold))
    rw [hnone]
    exact .pure ⟨Nat.zero_le 1, .refl hq⟩
  | some g =>
    rw [Store.groupsNamed_sole (atMostOne_eq_some hold)]
    refine delete_bind (fun _ => ?_) fun _ _ => trivial
    refine (emit_quiet _ _).bind ((recordDeleted_quiet _).bind (Run.Ends.bind ?_ fun _ _ h => .pure h))
    refine saveChanges_ends (fun hcheck => ?_) (fun _ _ => trivial) fun _ _ => trivial
    exact ⟨Nat.le_refl 1, .committed hc hq hcheck⟩

/-! ## the new rule group and its rules -/

/-- `g` with these rules has come in the place of the rule group of its name, if there was one -/
structure Renewed (s : Store) (g : RuleGroup) (rules : List Rule) (t : Store) : Prop where
  single : (s.groupsNamed g.name).length ≤ 1
  records : t.records = s.records.without [] (s.groupsNamed g.name)
    ++ { ruleGroups := [g], rules := rules }
  owned : ∀ r ∈ rules, r.ruleGroup = g.id
  fresh : ∀ id ∈ g.id :: rules.map (·.id), ¬ s.Used id
  created : s.created ≤ t.created

theorem Renewed.ruleGroups (h : Renewed s g rules t) :
    t.ruleGroups = s.ruleGroups.filter (·.id ∉ s.groupsNamed g.name) ++ [g] :=
  congrArg Records.ruleGroups h.records

/-- the new rule group is the only one of its name -/
theorem Renewed.sole (h : Renewed s g rules t) : t.ruleGroups.filter (·.name = g.name) = [g] := by
  rw [h.ruleGroups]
  exact sole_of_replaced rfl

theorem Renewed.found (h : Renewed s g rules t) : t.ruleGroupsNamed g.name = [g] := by
  have hperm := t.ruleGroupsNamed_filter g.name
  rw [h.sole] at hperm
  exact List.perm_singleton.mp hperm

theorem addRuleGroup_renews (hc : s.Closed) (hq : s.queue = []) (name : Option String) :
    ((inMemory sink settings).addRuleGroup name).Ends s
      (fun _ t => ∃ g, name = some g.name ∧ Renewed s g [] t) (fun _ _ => True) := by
  refine .check (fun _ _ => trivial) fun name' hname => ?_
  obtain ⟨rfl, -⟩ := requiredField_eq_ok.mp hname
  refine .discard_bind ((removeRuleGroupNamed_removes hc hq name').bind ?_)
  rintro - u ⟨hsingle, hu⟩
  have hcreated : s.created ≤ u.created := hu.steps.inherits.created
  refine addRuleGroup_bind (fun _ _ _ => ?_) fun _ _ => trivial
  refine (emit_quiet _ _).bind ((emit_quiet _ _).bind ((recordCreated_quiet _).ends ?_))
  refine ⟨⟨u.nextId, name'⟩, rfl, hsingle, ?_, nofun, ?_, hcreated.trans (Nat.le_succ _)⟩
  · show (u.insertRuleGroup ⟨name'⟩).2.records = _
    rw [Store.records_insertRuleGroup, hu.records]
  · intro id hid hused
    rw [List.mem_singleton.mp hid] at hused
    exact u.not_used_nextId (hused.mono hcreated)

theorem Renewed.insertRule (h : Renewed s g rules u) {new : Rule.Draft} (hnew : new.ruleGroup = g.id) :
    Renewed s g (rules ++ [⟨new, u.nextId⟩]) ((u.insertRule new).2.record (.addRule new)) where
  single := h.single
  records := by
    show (u.insertRule new).2.records = _
    rw [Store.records_insertRule, h.records, Records.append_assoc]
    rfl
  owned := by
    intro r hr
    rcases List.mem_append.mp hr with hr | hr
    · exact h.owned r hr
    · rw [List.mem_singleton.mp hr]
      exact hnew
  fresh := by
    intro id hid hused
    rw [List.map_append, ← List.cons_append] at hid
    rcases List.mem_append.mp hid with hid | hid
    · exact h.fresh id hid hused
    · rw [List.mem_singleton.mp hid] at hused
      exact u.not_used_nextId (hused.mono h.created)
  created := h.created.trans (Nat.le_succ _)

/-- a rule finds its rule group; what it lacks itself, or a refused call, can stop it -/
theorem addRule_renews (h : Renewed s g rules u) (rule : Rule.Declaration) :
    ((inMemory sink settings).addRule (some g.name) rule).Ends u
      (fun _ t => ∃ r : Rule, r.declaration = rule ∧ Renewed s g (rules ++ [r]) t)
      (fun e _ => e.isPreconditionViolation = false) := by
  have hlacks {value : Option String} {field : String} (e : ReconcileError)
      (he : requiredField value "rule" field = .error e) : e.isPreconditionViolation = false := by
    rw [requiredField_eq_error he]
    rfl
  refine .check hlacks fun name hname => .check hlacks fun type htype => ?_
  obtain ⟨hname, -⟩ := requiredField_eq_ok.mp hname
  obtain ⟨htype, -⟩ := requiredField_eq_ok.mp htype
  cases hname
  refine findRuleGroups_bind (.check (fun e he => ?_) fun g' hg' => ?_)
  · rw [h.found] at he
    cases he
  · rw [h.found] at hg'
    cases hg'
    refine addRule_bind (fun _ => ?_) fun _ _ => rfl
    refine (emit_quiet _ _).bind ((emit_quiet _ _).bind ((recordCreated_quiet _).ends ?_))
    refine ⟨_, ?_, h.insertRule rfl⟩
    unfold Rule.declaration
    rw [← htype]

/-! ## declarations -/

theorem executeAll_renews (hc : s.Closed) (hq : s.queue = []) (d : RuleGroup.Declaration) :
    ((inMemory sink settings).executeAll d.commands).Ends s
      (fun _ t => ∃ g rules, d.name = some g.name ∧ rules.map (·.declaration) = d.rules
        ∧ Renewed s g rules t) (fun _ _ => True) := by
  obtain ⟨name, declared⟩ := d
  induction declared using List.reverseRecOn with
  | nil =>
    refine executeAll_singleton (c := .addRuleGroup name) ((addRuleGroup_renews hc hq name).mono ?_
      fun _ _ h => h)
    rintro - t ⟨g, hname, h⟩
    exact ⟨g, [], hname, rfl, h⟩
  | append_singleton declared rule ih =>
    rw [RuleGroup.Declaration.commands_concat, executeAll_append]
    refine ih.bind ?_
    rintro - u ⟨g, rules, hname, hrules, hu⟩
    cases hname
    refine executeAll_singleton ((addRule_renews hu rule).mono ?_ fun _ _ _ => trivial)
    rintro - t ⟨r, hr, ht⟩
    refine ⟨g, rules ++ [r], rfl, ?_, ht⟩
    rw [List.map_append, hrules, ← hr]
    rfl

/-- whatever has been run of a declaration, its next rule finds its rule group -/
theorem addRule_finds (hc : s.Closed) (hq : s.queue = []) {d : RuleGroup.Declaration}
    {before after : List Command} {ruleGroup : Option String} {rule : Rule.Declaration}
    (hcommands : d.commands = before ++ .addRule ruleGroup rule :: after) {p q : Progress Store}
    (hp : p.session.store = s) (hrun : (inMemory sink settings).executeAll before p = (.ok (), q))
    {e : ReconcileError}
    (he : ((inMemory sink settings).executeNoted (.addRule ruleGroup rule) q).1 = .error e) :
    e.isPreconditionViolation = false := by
  obtain ⟨rfl, declared, rfl⟩ := RuleGroup.Declaration.commands_split hcommands
  have hbefore : ((inMemory sink settings).executeAll _).Ends s _ _ :=
    executeAll_renews hc hq ⟨d.name, declared⟩
  have hbefore := hbefore p hp
  rw [hrun] at hbefore
  obtain ⟨g, rules, hname, -, hg⟩ := hbefore
  have hrule : ((inMemory sink settings).executeNoted (.addRule d.name rule)).Ends q.session.store
      (fun _ _ => True) fun e _ => e.isPreconditionViolation = false := by
    rw [show d.name = some g.name from hname]
    exact executeNoted_ends ((addRule_renews hg rule).mono (fun _ _ _ => trivial) fun _ _ h => h)
  have hrule := hrule q rfl
  cases hm : (inMemory sink settings).executeNoted (.addRule d.name rule) q with
  | mk r q' =>
    rw [hm] at he hrule
    cases he
    exact hrule

end Reconciler

open Reconciler

variable {sink : Sink} {settings : Settings} {s t : Store}

/-- from `s` to `t` the rule group `g` has come in the place of the one of its name, if there was one;
its rules are those of the declaration, and all else is as before -/
structure RuleGroup.Declaration.Renews (d : Declaration) (s t : Store) (g : RuleGroup) : Prop where
  name : d.name = some g.name
  single : (s.groupsNamed g.name).length ≤ 1
  ruleGroups : t.ruleGroups = s.ruleGroups.filter (·.name ≠ g.name) ++ [g]
  sole : t.ruleGroups.filter (·.name = g.name) = [g]
  rules : (t.rulesOf g.id).map (·.declaration) = d.rules
  otherRules : t.rules.filter (·.ruleGroup ≠ g.id)
    = s.rules.filter (·.ruleGroup ∉ s.groupsNamed g.name)
  /-- links to the rule group of before are gone, and none has come -/
  links : t.links = s.links.filter (·.ruleGroup ∉ s.groupsNamed g.name)
  relyingParties : t.relyingParties = s.relyingParties
  keys : t.keys = s.keys
  /-- the rule group and its rules are new -/
  fresh : ∀ id ∈ g.id :: (t.rulesOf g.id).map (·.id), id ∉ s.identities

/-- the rules of the new rule group and the others -/
theorem Reconciler.Renewed.own {g : RuleGroup} {rules : List Rule} (h : Renewed s g rules t)
    (hs : s.Sound) (hc : s.Closed) : t.rulesOf g.id = rules ∧ t.rules.filter (·.ruleGroup ≠ g.id)
      = s.rules.filter (·.ruleGroup ∉ s.groupsNamed g.name) := by
  have hall : t.rules = s.rules.filter (·.ruleGroup ∉ s.groupsNamed g.name) ++ rules :=
    congrArg Records.rules h.records
  have hold : ∀ r ∈ s.rules.filter (·.ruleGroup ∉ s.groupsNamed g.name), r.ruleGroup ≠ g.id := by
    intro r hr hid
    obtain ⟨g', hg', hid'⟩ := hc.rule r (List.mem_filter.mp hr).1
    refine h.fresh g.id List.mem_cons_self ?_
    rw [← hid, ← hid']
    exact hs.used _ (Store.ruleGroup_mem_identities hg')
  constructor
  · unfold Store.rulesOf
    rw [hall, List.filter_append, List.filter_eq_nil_iff.mpr, List.nil_append,
      List.filter_eq_self.mpr fun r hr => decide_eq_true (h.owned r hr)]
    exact fun r hr hid => hold r hr (of_decide_eq_true hid)
  · have hnone : rules.filter (·.ruleGroup ≠ g.id) = [] :=
      List.filter_eq_nil_iff.mpr fun r hr hid => of_decide_eq_true hid (h.owned r hr)
    rw [hall, List.filter_append, List.filter_eq_self.mpr fun r hr => decide_eq_true (hold r hr),
      hnone, List.append_nil]

theorem Reconciler.Renewed.renews {d : RuleGroup.Declaration} {g : RuleGroup} {rules : List Rule}
    (h : Renewed s g rules t) (hs : s.Sound) (hc : s.Closed) (hname : d.name = some g.name)
    (hrules : rules.map (·.declaration) = d.rules) : d.Renews s t g := by
  obtain ⟨hown, hothers⟩ := h.own hs hc
  refine {
    name := hname
    single := h.single
    ruleGroups := ?_
    sole := h.sole
    rules := by rw [hown, hrules]
    otherRules := hothers
    links := ?_
    relyingParties := ?_
    keys := ?_
    fresh := fun id hid hmem => h.fresh id (hown ▸ hid) (hs.used id hmem) }
  · rw [h.ruleGroups]
    refine congrArg (· ++ [g]) (List.filter_congr fun g' hg' => ?_)
    rw [decide_eq_decide, Store.mem_groupsNamed hs hg']
  · have hlinks : t.links = (s.links.filter fun l => l.relyingParty ∉ []
        ∧ l.ruleGroup ∉ s.groupsNamed g.name) ++ [] := congrArg Records.links h.records
    simpa using hlinks
  · have hparties : t.relyingParties = s.relyingParties.filter (·.id ∉ []) ++ [] :=
      congrArg Records.relyingParties h.records
    simpa using hparties
  · have hkeys : t.keys = s.keys.filter (·.relyingParty ∉ []) ++ [] :=
      congrArg Records.keys h.records
    simpa using hkeys

/-- No rule of a declaration is stopped for the name of its rule group, wherever it stands.  A run that
comes to its end has replaced the rule group and nothing else. -/
theorem reconcile_renews (hs : s.Reachable) (hc : s.Closed) (hq : s.queue = [])
    (d : RuleGroup.Declaration) :
    (∀ before ruleGroup rule after, d.commands = before ++ .addRule ruleGroup rule :: after →
      ∀ p q e, p.session.store = s →
        (inMemory sink settings).executeAll before p = (.ok (), q) →
        ((inMemory sink settings).executeNoted (.addRule ruleGroup rule) q).1 = .error e →
          e.isPreconditionViolation = false)
    ∧ ∀ notes, let run := (inMemory sink settings).reconcile d.commands ⟨s, notes⟩
      run.1.isOk = true → ∃ g, d.Renews s run.2.session.store g := by
  constructor
  · intro before ruleGroup rule after hcommands p q e hp hrun he
    exact addRule_finds hc hq hcommands hp hrun he
  · intro notes run hok
    obtain ⟨g, rules, hname, hrules, h⟩ := reconcile_good (executeAll_renews hc hq d) hok
    exact ⟨g, h.renews hs.sound hc hname hrules⟩

/-- a rule is declared twice; the rule group of before has another one, and a relying party with a key
is linked to it -/
theorem reconcile_renews_repeated :
    let portal : RelyingParty.Draft :=
      ⟨⟨"portal", "urn:portal", none, .saml2, 600, []⟩, some [1], none, none, none, none, none⟩
    let group := ({} : Store).insertRuleGroup ⟨"claims"⟩
    let party := group.2.insertRelyingParty portal
    let rules := (party.2.insertRule ⟨⟨none, none, "role", none, none, none, false⟩, group.1⟩).2
    let s := (rules.insertLink ⟨party.1, group.1⟩).2
    let email : Rule.Declaration := { inputClaimType := some "email", passthrough := true }
    let d : RuleGroup.Declaration := { name := some "claims", rules := [email, email] }
    let run := (inMemory .keeping {}).reconcile d.commands ⟨s, []⟩
    run.1.isOk = true ∧ run.2.session.store.links = []
      ∧ ∃ g, d.Renews s run.2.session.store g := by
  intro portal group party rules s email d run
  have hs : s.Reachable := .seedLink _ (.seedRule _ (.seedRelyingParty portal (.seedRuleGroup _
    (.fresh 50))))
  have hparty : party.2.Closed :=
    ((Store.Closed.fresh 50).insertRuleGroup ⟨"claims"⟩).insertRelyingParty portal
  have hc : s.Closed := (hparty.insertRule (by decide)).insertLink (by decide) (by decide)
  have hok : run.1.isOk = true := by decide +kernel
  exact ⟨hok, by decide +kernel, (reconcile_renews hs hc rfl d).2 [] hok⟩

end AccessControl
