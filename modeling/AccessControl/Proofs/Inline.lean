import AccessControl.Proofs.Compilation
import AccessControl.Proofs.Contents.Taking
import AccessControl.Proofs.Namespace
import AccessControl.Proofs.Pattern.Exact
import AccessControl.Proofs.RelyingParty

/-!
# Rule groups that come with a relying party

Rule groups can be declared inside a relying party.  They are created ahead of it, whereby the links of
the relying party of before to rule groups of their names are cascaded away.  So its tear-down does not
take them, and the exact patterns of their names link the new relying party to them.

* `RelyingParty.Declaration.inline`   the rule groups alone;
* `Pattern.exactly_discerns`  the pattern of a name can be read and is found in that name only;
* `any_finds_allPatterns`   the patterns of the relying party match what the declared ones match, and
                            the names of these rule groups;
* `after_ruleGroups_named`  a rule group of such a name is the last declared one;
* `RelyingParty.Declaration.Inlines`, `reconcile_inlines`   both, for the store after a run.
-/

namespace AccessControl
open Reconciler

namespace RelyingParty.Declaration
variable {d : Declaration} {name : String}

/-- the names of the rule groups that come with the relying party -/
def ruleGroupNames (d : Declaration) : List String := d.ruleGroups.filterMap (·.name)

/-- of several rule groups of one name the last one counts -/
def ruleGroup? (d : Declaration) (name : String) : Option RuleGroup.Declaration :=
  d.ruleGroups.reverse.find? (·.name = some name)

/-- the rule groups as a namespace of their own -/
def inline (d : Declaration) : NamespaceDeclaration := ⟨d.ruleGroups.map .ruleGroup⟩

theorem ruleGroup?_of_mem (h : name ∈ d.ruleGroupNames) : ∃ g, d.ruleGroup? name = some g := by
  obtain ⟨g, hg, hname⟩ := List.mem_filterMap.mp h
  exact Option.isSome_iff_exists.mp
    (List.find?_isSome.mpr ⟨g, List.mem_reverse.mpr hg, decide_eq_true hname⟩)

/-! ## patterns -/

theorem mem_allPatterns {text : String} : text ∈ d.allPatterns
    ↔ text ∈ d.patterns ∨ ∃ name ∈ d.ruleGroupNames, text = Pattern.exactly name := by
  unfold allPatterns
  rw [foldl_addExact, List.mem_append, List.mem_filter, List.mem_eraseDups, List.mem_map,
    decide_eq_true_iff]
  constructor
  · rintro (hdeclared | ⟨⟨name, hname, rfl⟩, -⟩)
    · exact .inl hdeclared
    · exact .inr ⟨name, hname, rfl⟩
  · rintro (hdeclared | ⟨name, hname, rfl⟩)
    · exact .inl hdeclared
    · by_cases hdeclared : Pattern.exactly name ∈ d.patterns
      · exact .inl hdeclared
      · exact .inr ⟨⟨name, hname, rfl⟩, hdeclared⟩

/-- whatever characters the names of rule groups have, they match these names only -/
theorem any_finds_allPatterns (h : ∀ text ∈ d.allPatterns, (Pattern.ofText? text).isSome = true)
    (name : String) : d.allPatterns.any (Pattern.finds · name) = true
      ↔ d.patterns.any (Pattern.finds · name) = true ∨ name ∈ d.ruleGroupNames := by
  rw [List.any_eq_true, List.any_eq_true]
  constructor
  · rintro ⟨text, htext, hfinds⟩
    rcases mem_allPatterns.mp htext with hdeclared | ⟨exact, hexact, rfl⟩
    · exact .inl ⟨text, hdeclared, hfinds⟩
    · rw [(Pattern.finds_exactly (h _ htext) name).mp hfinds]
      exact .inr hexact
  · rintro (⟨text, hdeclared, hfinds⟩ | hname)
    · exact ⟨text, mem_allPatterns.mpr (.inl hdeclared), hfinds⟩
    · have htext : Pattern.exactly name ∈ d.allPatterns := mem_allPatterns.mpr (.inr ⟨name, hname, rfl⟩)
      exact ⟨_, htext, (Pattern.finds_exactly (h _ htext) name).mpr rfl⟩

end RelyingParty.Declaration

/-- The pattern of a name comes with every relying party that has a rule group of this name.  Nothing but
its weight can be wrong with it, which grows with the bytes of the name, and it is found in the name and
in no other text. -/
theorem Pattern.exactly_discerns (name : String) :
    (∀ d : RelyingParty.Declaration, name ∈ d.ruleGroupNames → exactly name ∈ d.allPatterns)
    ∧ ∃ tree node, Tree.ofText? (exactly name).toList = some tree
      ∧ tree.node? {} = some (node, {})
      ∧ node.weight = stateSize * (name.utf8ByteSize + 2)
      ∧ (node.weight ≤ weightLimit → ∃ p, compilePattern (exactly name) = .ok p
        ∧ ∀ text, p.isFoundIn text = true ↔ text = name) := by
  refine ⟨fun d hname => RelyingParty.Declaration.mem_allPatterns.mpr (.inr ⟨name, hname, rfl⟩),
    _, exactNode name, tree_exactly name, node_exactly name, weight_exactNode name, fun hweight => ?_⟩
  refine ⟨⟨exactly name, exactNode name⟩, ?_, isFoundIn_exactNode name⟩
  unfold compilePattern
  rw [ofText?_exactly, if_neg (Nat.not_lt.mpr hweight)]

/-- a name with a dot, a blank, a sign that starts a comment and a line end -/
theorem Pattern.exactly_discerns_dotted : ∃ p, compilePattern "^a\\.b \\#c\n$" = .ok p
    ∧ p.isFoundIn "a.b #c\n" = true ∧ p.isFoundIn "a.b #c" = false
    ∧ p.isFoundIn "axb #c\n" = false ∧ p.isFoundIn "\na.b #c\n" = false := by
  obtain ⟨tree, node, -, -, hweight, hp⟩ := (exactly_discerns "a.b #c\n").2
  obtain ⟨p, hp, hfound⟩ := hp (by rw [hweight]; decide)
  refine ⟨p, hp, (hfound _).mpr rfl, ?_, ?_, ?_⟩
  all_goals
    rw [← Bool.not_eq_true, hfound]
    decide

namespace RelyingParty.Declaration
variable {d : Declaration} {name : String}

/-! ## the rule groups before the relying party -/

theorem inline_keepsRelated (d : Declaration) : d.inline.keepsRelated = true :=
  List.all_eq_true.mpr fun e he => by
    obtain ⟨g, -, rfl⟩ := List.mem_map.mp he
    rfl

theorem commands_eq (d : Declaration) : d.commands = d.inline.commands ++ [d.command] := by
  unfold commands NamespaceDeclaration.commands inline
  rw [List.flatMap_map]
  rfl

theorem inline_mentions (d : Declaration) : d.inline.mentions = d.ruleGroups.map .ruleGroup := by
  unfold NamespaceDeclaration.mentions inline
  rw [List.flatMap_map, List.map_eq_flatMap]
  rfl

/-- they are about themselves -/
theorem mem_inline_subjects {x : Subject} : x ∈ Command.subjects d.inline.commands
    ↔ ∃ name ∈ d.ruleGroupNames, x = .ruleGroup name := by
  rw [d.inline.commands_eq d.inline_keepsRelated, Mention.subjects_flatMap, inline_mentions]
  constructor
  · rintro ⟨m, hm, hx⟩
    obtain ⟨g, hg, rfl⟩ := List.mem_map.mp hm
    obtain ⟨name, hname, rfl⟩ := Option.map_eq_some_iff.mp hx
    exact ⟨name, List.mem_filterMap.mpr ⟨g, hg, hname⟩, rfl⟩
  · rintro ⟨name, hname, rfl⟩
    obtain ⟨g, hg, hname⟩ := List.mem_filterMap.mp hname
    exact ⟨.ruleGroup g, List.mem_map_of_mem hg, Option.map_eq_some_iff.mpr ⟨name, hname, rfl⟩⟩

theorem ruleGroup_mem_inline : .ruleGroup name ∈ Command.subjects d.inline.commands
    ↔ name ∈ d.ruleGroupNames := by
  rw [mem_inline_subjects]
  simp

theorem relyingParty_not_inline (d : Declaration) (name : String) :
    .relyingParty name ∉ Command.subjects d.inline.commands := fun h => by
  obtain ⟨_, -, heq⟩ := mem_inline_subjects.mp h
  cases heq

theorem inline_confined (d : Declaration) :
    Command.Confined d.inline.commands (Command.subjects d.inline.commands) :=
  (d.inline.grounded Set.univ).confined (d.inline.takes_not d.inline_keepsRelated)

theorem last?_ruleGroups (gs : List RuleGroup.Declaration) (name : String) :
    (Mention.last? (.ruleGroup name) (gs.map .ruleGroup)).map (·.1)
      = (gs.reverse.find? (·.name = some name)).map Mention.ruleGroup := by
  induction gs with
  | nil => rfl
  | cons g gs ih =>
    have hsubject : (Mention.ruleGroup g).subject? = some (.ruleGroup name) ↔ g.name = some name := by
      show g.name.map Subject.ruleGroup = some (.ruleGroup name) ↔ _
      rw [Option.map_eq_some_iff]
      simp
    rw [List.map_cons, Mention.last?, List.reverse_cons, List.find?_append, Option.map_or,
      Option.map_or, ih, List.find?_singleton]
    congr 1
    simp only [hsubject, decide_eq_true_eq]
    split <;> rfl

theorem inline_ruleGroupsNamed {g : RuleGroup.Declaration} (h : d.ruleGroup? name = some g)
    (X : Contents) : d.inline.ruleGroupsNamed X name = [⟨name, g.rules.map (·.body)⟩] := by
  have hlast := last?_ruleGroups d.ruleGroups name
  have hfind : d.ruleGroups.reverse.find? (·.name = some name) = some g := h
  rw [hfind] at hlast
  obtain ⟨⟨m, later⟩, hlast, hm⟩ := Option.map_eq_some_iff.mp hlast
  have hm : m = .ruleGroup g := hm
  unfold NamespaceDeclaration.ruleGroupsNamed
  rw [inline_mentions, hlast, hm]

/-- the relying party does not take a rule group that has come ahead of it -/
theorem not_clears (settings : Settings) (X : Contents) (h : name ∈ d.ruleGroupNames) :
    .ruleGroup name ∉ d.command.clears (X.after settings d.inline.commands) := by
  rintro (hsubject | ⟨g, htakes, heq⟩)
  · obtain ⟨_, -, heq⟩ := Option.map_eq_some_iff.mp hsubject
    cases heq
  · cases heq
    obtain ⟨-, name', -, hlinked⟩ := Contents.takes_iff_linked.mp htakes
    have hparty := d.relyingParty_not_inline name'
    have hapart := (Contents.linked_after d.inline_confined hparty).mp hlinked
    exact hapart.2 (ruleGroup_mem_inline.mpr h)

theorem after_ruleGroups_named (d : Declaration) (settings : Settings) (X : Contents)
    {name : String} (h : name ∈ d.ruleGroupNames) : ∃ g, d.ruleGroup? name = some g
      ∧ (X.after settings d.commands).ruleGroups.filter (·.name = name)
        = [⟨name, g.rules.map (·.body)⟩] := by
  obtain ⟨g, hg⟩ := ruleGroup?_of_mem h
  let T := X.after settings d.inline.commands
  have hchange (Z : Contents) : (Z.change settings d.command).ruleGroups = Z.ruleGroups := by
    cases hd : draft settings d.addition with
    | error e => rw [show d.command = .addRelyingParty d.addition from rfl,
        Contents.change_without_draft hd]
    | ok new =>
      rw [show d.command = .addRelyingParty d.addition from rfl, Contents.change_addRelyingParty hd]
      rfl
  refine ⟨g, hg, ?_⟩
  calc (X.after settings d.commands).ruleGroups.filter (·.name = name)
      = ((T.hide (d.command.clears T)).change settings d.command).ruleGroups.filter
          (·.name = name) := by
        rw [commands_eq, Contents.after_append]
        rfl
    _ = (T.hide (d.command.clears T)).ruleGroups.filter (·.name = name) := by rw [hchange]
    _ = T.ruleGroups.filter (·.name = name) := Contents.hide_ruleGroups (not_clears settings X h)
    _ = [⟨name, g.rules.map (·.body)⟩] := by
        rw [NamespaceDeclaration.after_ruleGroups d.inline_keepsRelated, inline_ruleGroupsNamed hg]

end RelyingParty.Declaration

/-! ## after a run -/

/-- in `t` the relying party `p` is linked to the rule groups that have come with it, and else only to
what the declared patterns match -/
structure RelyingParty.Declaration.Inlines (d : Declaration) (t : Store) (p : RelyingParty.Stored) :
    Prop where
  name : d.name = some p.name
  sole : t.relyingParties.filter (·.name = p.name) = [p]
  ruleGroups : ∀ name ∈ d.ruleGroupNames, ∃ g last, t.ruleGroups.filter (·.name = name) = [g]
    ∧ d.ruleGroup? name = some last ∧ (t.rulesOf g.id).map (·.toBody) = last.rules.map (·.body)
    ∧ ((t.links.filter (·.relyingParty = p.id)).map (·.ruleGroup)).count g.id = 1
  linked : ∀ l ∈ t.links, l.relyingParty = p.id → ∃ g ∈ t.ruleGroups, g.id = l.ruleGroup
    ∧ (d.patterns.any (Pattern.finds · g.name) = true ∨ g.name ∈ d.ruleGroupNames)

variable {sink : Sink} {settings : Settings} {s : Store}

/-- the relying party is established upon what the rule groups have left -/
theorem executeAll_establishes (hs : s.Sound) (hc : s.Closed) (hq : s.queue = [])
    (d : RelyingParty.Declaration) : ((inMemory sink settings).executeAll d.commands).Ends s
      (fun _ t => ∃ u p, d.addition.Established settings u t p) (fun _ _ => True) := by
  have hgroups : ((inMemory sink settings).executeAll d.inline.commands).Ends s
      (fun _ u => Carries settings d.inline.commands s u ∧ s.Steps u) (fun _ _ => True) :=
    ((executeAll_carries hs hc hq).and (executeAll_walks d.inline.commands s)).mono (fun _ _ h => h)
      fun _ _ _ => trivial
  rw [d.commands_eq, executeAll_append]
  refine hgroups.bind ?_
  rintro - u ⟨hcarries, hsteps⟩
  refine (executeAll_singleton (c := d.command) ?_).mono (fun _ t h => ⟨u, h⟩) fun _ _ h => h
  exact execute_establishes (hsteps.sound hs) (hsteps.closed hc) hcarries.idle d.addition

theorem Store.sole_ruleGroup {name : String} {bodies : List Rule.Body}
    (h : s.contents.ruleGroups.filter (·.name = name) = [⟨name, bodies⟩]) :
    ∃ g, s.ruleGroups.filter (·.name = name) = [g] ∧ (s.rulesOf g.id).map (·.toBody) = bodies := by
  have hmap : (s.ruleGroups.filter (·.name = name)).map s.ruleGroupContent = [⟨name, bodies⟩] := by
    rw [← h]
    show _ = (s.ruleGroups.map s.ruleGroupContent).filter _
    rw [List.filter_map]
    rfl
  obtain ⟨g, hg, hcontent⟩ := List.map_eq_singleton_iff.mp hmap
  exact ⟨g, hg, congrArg RuleGroup.Content.rules hcontent⟩

theorem reconcile_inlines (hs : s.Reachable) (hc : s.Closed) (hq : s.queue = [])
    (d : RelyingParty.Declaration) {notes : List Diagnostic}
    (hok : ((inMemory sink settings).reconcile d.commands ⟨s, notes⟩).1.isOk = true) :
    ∃ p, d.Inlines ((inMemory sink settings).reconcile d.commands ⟨s, notes⟩).2.session.store p := by
  have hcarries := reconcile_good (executeAll_carries hs.sound hc hq) hok
  obtain ⟨u, p, hp⟩ := reconcile_good (executeAll_establishes hs.sound hc hq d) hok
  let t := ((inMemory sink settings).reconcile d.commands ⟨s, notes⟩).2.session.store
  have hpatterns : ∀ text ∈ d.allPatterns, (Pattern.ofText? text).isSome = true := by
    have hmem : d.command ∈ d.commands := List.mem_append_right _ (List.mem_singleton.mpr rfl)
    exact (hcarries.complete d.command hmem).2
  have hmatching (id : Id) : id ∈ t.matching d.allPatterns ↔ ∃ g ∈ t.ruleGroups, g.id = id
      ∧ (d.patterns.any (Pattern.finds · g.name) = true ∨ g.name ∈ d.ruleGroupNames) := by
    unfold Store.matching
    rw [List.mem_map]
    refine exists_congr fun g => ?_
    rw [List.mem_filter, RelyingParty.Declaration.any_finds_allPatterns hpatterns]
    tauto
  refine ⟨p, hp.name, hp.sole, fun name hname => ?_, fun l hl hown => ?_⟩
  · obtain ⟨last, hlast, hgroups⟩ := d.after_ruleGroups_named settings s.contents hname
    rw [← hcarries.contents] at hgroups
    obtain ⟨g, hg, hrules⟩ := Store.sole_ruleGroup hgroups
    refine ⟨g, last, hg, hlast, hrules, ?_⟩
    have hmem : g ∈ t.ruleGroups.filter (·.name = name) := hg ▸ List.mem_singleton.mpr rfl
    obtain ⟨hmem, hgname⟩ := List.mem_filter.mp hmem
    rw [hp.links.count_eq]
    refine List.count_eq_one_of_mem hp.once ((hmatching g.id).mpr ⟨g, hmem, rfl, .inr ?_⟩)
    rw [of_decide_eq_true hgname]
    exact hname
  · refine (hmatching l.ruleGroup).mp (hp.links.mem_iff.mp (List.mem_map_of_mem ?_))
    exact List.mem_filter.mpr ⟨hl, decide_eq_true hown⟩

/-- the relying party of before is linked to a rule group of the name, and would take it -/
theorem reconcile_inlines_taking :
    let old : RelyingParty.Draft :=
      ⟨⟨"portal", "urn:old", none, .saml2, 600, []⟩, none, none, none, none, none, none⟩
    let group := ({} : Store).insertRuleGroup ⟨"a.b"⟩
    let portal := group.2.insertRelyingParty old
    let s := (portal.2.insertLink ⟨portal.1, group.1⟩).2
    let d : RelyingParty.Declaration := {
      name := some "portal", realmAddress := some "urn:portal", removeRelatedRuleGroups := true
      ruleGroups := [{ name := some "a.b" },
        { name := some "a.b", rules := [{ inputClaimType := some "email" }] }] }
    let run := (inMemory .keeping {}).reconcile d.commands ⟨s, []⟩
    run.1.isOk = true ∧ "a.b" ∈ d.ruleGroupNames ∧ ∃ p, d.Inlines run.2.session.store p := by
  intro old group portal s d run
  have hs : s.Reachable := .seedLink _ (.seedRelyingParty _ (.seedRuleGroup _ (.fresh 50)))
  have hgroup : group.2.Closed := (Store.Closed.fresh 50).insertRuleGroup ⟨"a.b"⟩
  have hc : s.Closed := (hgroup.insertRelyingParty old).insertLink (by decide) (by decide)
  have hok : run.1.isOk = true := by decide +kernel
  exact ⟨hok, by decide, reconcile_inlines hs hc rfl d hok⟩

end AccessControl
