import AccessControl.Proofs.Clauses

/-!
# The shape of compiled commands

A namespace compiles to one block of commands per entry, in the order of the entries, and nothing that
was declared is lost, repeated or moved (`NamespaceDeclaration.commands_shaped`).

* `NamespaceEntry.Block`      the commands of one entry;
* `foldl_addExact`            the patterns of a relying party: those that were declared, then those of its
                              rule groups;
* `Command.Founded`           a rule comes behind the creation of its rule group, with only rules of
                              that rule group in between;
* `Command.Lists`             what commands create and remove, each once and in order;
* `NamespaceClause.Declares`  what an entry holds of the clauses that it was written with.
-/

namespace AccessControl

/-! ## blocks -/

/-- the creation of the rule group, then its rules in order, all under its name, which may be unset -/
def RuleGroup.Declaration.Block (d : RuleGroup.Declaration) (block : List Command) : Prop :=
  ∃ rules, block = .addRuleGroup d.name :: rules
    ∧ List.Forall₂ (fun rule c => c = .addRule d.name rule) d.rules rules

/-- The command has the fields of the declaration.  Its patterns are the declared ones as they are,
then one for each name of a rule group, where it first occurs, unless it is declared already. -/
structure AddRelyingParty.Matches (new : AddRelyingParty) (d : RelyingParty.Declaration) :
    Prop where
  name : new.name = d.name
  realmAddress : new.realmAddress = d.realmAddress
  replyAddress : new.replyAddress = d.replyAddress
  symmetricKey : new.symmetricKey = d.symmetricKey
  tokenType : new.tokenType = d.tokenType
  tokenLifetime : new.tokenLifetime = d.tokenLifetime
  encryptionCertificate : new.encryptionCertificate = d.encryptionCertificate
  signingCertificate : new.signingCertificate = d.signingCertificate
  identityProviders : new.identityProviders = d.identityProviders
  removeRelatedRuleGroups : new.removeRelatedRuleGroups = d.removeRelatedRuleGroups
  patterns : new.patterns = d.patterns
    ++ ((d.ruleGroups.filterMap (·.name)).map Pattern.exactly).eraseDups.filter (· ∉ d.patterns)

/-- the commands of an entry -/
inductive NamespaceEntry.Block : NamespaceEntry → List Command → Prop
  | relyingParty {d : RelyingParty.Declaration} {inline : List (List Command)} {new : AddRelyingParty}
    (groups : List.Forall₂ RuleGroup.Declaration.Block d.ruleGroups inline) (h : new.Matches d) :
    Block (.relyingParty d) (inline.flatten ++ [.addRelyingParty new])
  | ruleGroup {d : RuleGroup.Declaration} {block : List Command} (h : d.Block block) :
    Block (.ruleGroup d) block
  | removeRelyingParty (name : String) (withRuleGroups : Bool) :
    Block (.removeRelyingParty name withRuleGroups) [.removeRelyingParty name withRuleGroups]
  | removeRuleGroup (name : String) : Block (.removeRuleGroup name) [.removeRuleGroup name]

theorem RuleGroup.Declaration.commands_block (d : RuleGroup.Declaration) : d.Block d.commands :=
  ⟨_, rfl, List.forall₂_map_right_iff.mpr (List.forall₂_same.mpr fun _ _ => rfl)⟩

namespace RelyingParty.Declaration

theorem foldl_addExact (names patterns : List String) : names.foldl addExact patterns
    = patterns ++ (names.map Pattern.exactly).eraseDups.filter (· ∉ patterns) := by
  induction names using List.reverseRecOn with
  | nil => exact (List.append_nil patterns).symm
  | append_singleton names name ih =>
    let text := Pattern.exactly name
    have hmem : text ∈ patterns ++ (names.map Pattern.exactly).eraseDups.filter (· ∉ patterns)
        ↔ text ∈ patterns ∨ text ∈ names.map Pattern.exactly := by
      rw [List.mem_append, List.mem_filter, List.mem_eraseDups, decide_eq_true_iff]
      tauto
    rw [List.foldl_concat, ih, List.map_append, List.map_singleton, eraseDups_concat, addExact]
    by_cases hknown : text ∈ patterns ∨ text ∈ names.map Pattern.exactly
    · rw [if_pos (List.contains_iff_mem.mpr (hmem.mpr hknown))]
      by_cases hseen : text ∈ names.map Pattern.exactly
      · rw [if_pos hseen]
      · have hdeclared : text ∈ patterns := hknown.resolve_right hseen
        rw [if_neg hseen, List.filter_append, List.filter_cons_of_neg (by simpa using hdeclared),
          List.filter_nil, List.append_nil]
    · obtain ⟨hdeclared, hseen⟩ := not_or.mp hknown
      rw [if_neg (mt List.contains_iff_mem.mp (mt hmem.mp hknown)), if_neg hseen,
        List.filter_append, List.filter_cons_of_pos (by simpa using hdeclared), List.filter_nil,
        List.append_assoc]

theorem command_matches (d : Declaration) :
    ∃ new, d.command = .addRelyingParty new ∧ new.Matches d :=
  ⟨_, rfl, rfl, rfl, rfl, rfl, rfl, rfl, rfl, rfl, rfl, rfl, foldl_addExact _ d.patterns⟩

end RelyingParty.Declaration

theorem NamespaceEntry.commands_block (e : NamespaceEntry) : e.Block e.commands := by
  cases e with
  | relyingParty d =>
    obtain ⟨new, hnew, hmatches⟩ := d.command_matches
    have hblocks : (NamespaceEntry.relyingParty d).commands
        = (d.ruleGroups.map (·.commands)).flatten ++ [.addRelyingParty new] := by
      rw [← hnew, ← List.flatMap_def]
      rfl
    rw [hblocks]
    exact .relyingParty (List.forall₂_map_right_iff.mpr (List.forall₂_same.mpr fun g _ =>
      g.commands_block)) hmatches
  | ruleGroup d => exact .ruleGroup d.commands_block
  | removeRelyingParty name withRuleGroups => exact .removeRelyingParty name withRuleGroups
  | removeRuleGroup name => exact .removeRuleGroup name

/-! ## rules and their rule groups -/

namespace Command

/-- behind the creation of its rule group only other rules of that rule group come before a rule -/
def Founded (cs : List Command) : Prop :=
  ∀ before g rule after, cs = before ++ .addRule g rule :: after →
    ∃ (front : List Command) (rules : List Rule.Declaration),
      before = front ++ .addRuleGroup g :: rules.map (.addRule g)

theorem Founded.append {cs ds : List Command} (hcs : Founded cs) (hds : Founded ds) :
    Founded (cs ++ ds) := by
  intro before g rule after h
  rcases List.append_eq_append_iff.mp h with ⟨front, rfl, hfront⟩ | ⟨rest, rfl, hrest⟩
  · obtain ⟨front', rules, rfl⟩ := hds front g rule after hfront
    exact ⟨cs ++ front', rules, (List.append_assoc ..).symm⟩
  · cases rest with
    | nil =>
      -- nothing can come before the first command of `ds`
      obtain ⟨front, rules, hfront⟩ := hds [] g rule after hrest.symm
      exact absurd hfront.symm (by simp)
    | cons c rest =>
      obtain ⟨rfl, -⟩ := List.cons.inj hrest
      exact hcs before g rule rest rfl

theorem Founded.of_no_rules {cs : List Command} (h : ∀ g rule, .addRule g rule ∉ cs) :
    Founded cs := by
  rintro before g rule after rfl
  exact absurd (List.mem_append_right before List.mem_cons_self) (h g rule)

theorem Founded.flatMap {α : Type} {f : α → List Command} (h : ∀ a, Founded (f a)) (l : List α) :
    Founded (l.flatMap f) := by
  induction l with
  | nil => exact .of_no_rules fun _ _ => List.not_mem_nil
  | cons a l ih => exact (h a).append ih

end Command

theorem RuleGroup.Declaration.commands_founded (d : RuleGroup.Declaration) :
    Command.Founded d.commands := by
  intro before g rule after h
  cases before with
  | nil => cases h
  | cons c before =>
    obtain ⟨rfl, hrules⟩ := List.cons.inj h
    obtain ⟨rules, rest, -, rfl, hrest⟩ := List.map_eq_append_iff.mp hrules
    obtain ⟨_, _, -, hrule, -⟩ := List.map_eq_cons_iff.mp hrest
    cases hrule
    exact ⟨[], rules, rfl⟩

theorem NamespaceEntry.commands_founded (e : NamespaceEntry) : Command.Founded e.commands := by
  cases e with
  | relyingParty d =>
    have hcommand : Command.Founded [d.command] := .of_no_rules fun g rule h => by
      cases List.mem_singleton.mp h
    exact (Command.Founded.flatMap (·.commands_founded) d.ruleGroups).append hcommand
  | ruleGroup d => exact d.commands_founded
  | removeRelyingParty name withRuleGroups =>
    exact .of_no_rules fun g rule h => by cases List.mem_singleton.mp h
  | removeRuleGroup name => exact .of_no_rules fun g rule h => by cases List.mem_singleton.mp h

/-! ## what commands create and remove -/

namespace Command

def createdGroup? : Command → Option (Option String)
  | .addRuleGroup name => some name
  | _ => none

/-- a rule with the name of its rule group -/
def createdRule? : Command → Option (Option String × Rule.Declaration)
  | .addRule ruleGroup rule => some (ruleGroup, rule)
  | _ => none

def createdParty? : Command → Option AddRelyingParty
  | .addRelyingParty new => some new
  | _ => none

/-- a removal as the entry that asks for it -/
def removal? : Command → Option NamespaceEntry
  | .removeRelyingParty name withRuleGroups => some (.removeRelyingParty name withRuleGroups)
  | .removeRuleGroup name => some (.removeRuleGroup name)
  | _ => none

/-- the commands create these rule groups with these rules, create these relying parties and make these
removals, and no others, each once and in this order -/
structure Lists (cs : List Command) (groups : List RuleGroup.Declaration)
    (parties : List RelyingParty.Declaration) (removals : List NamespaceEntry) : Prop where
  ruleGroups : cs.filterMap createdGroup? = groups.map (·.name)
  rules : cs.filterMap createdRule? = groups.flatMap fun g => g.rules.map fun rule => (g.name, rule)
  relyingParties : List.Forall₂ (fun d new => AddRelyingParty.Matches new d) parties
    (cs.filterMap createdParty?)
  removed : cs.filterMap removal? = removals

theorem Lists.nil : Lists [] [] [] [] := ⟨rfl, rfl, .nil, rfl⟩

theorem Lists.append {cs cs' : List Command} {groups groups' : List RuleGroup.Declaration}
    {parties parties' : List RelyingParty.Declaration} {removals removals' : List NamespaceEntry}
    (h : Lists cs groups parties removals) (h' : Lists cs' groups' parties' removals') :
    Lists (cs ++ cs') (groups ++ groups') (parties ++ parties') (removals ++ removals') where
  ruleGroups := by rw [List.filterMap_append, h.ruleGroups, h'.ruleGroups, List.map_append]
  rules := by rw [List.filterMap_append, h.rules, h'.rules, List.flatMap_append]
  relyingParties := by
    rw [List.filterMap_append]
    exact List.rel_append h.relyingParties h'.relyingParties
  removed := by rw [List.filterMap_append, h.removed, h'.removed]

end Command

theorem RuleGroup.Declaration.commands_lists (d : RuleGroup.Declaration) :
    Command.Lists d.commands [d] [] [] := by
  have hcommands {α : Type} (f : Command → Option α) : d.commands.filterMap f
      = (f (.addRuleGroup d.name)).toList ++ d.rules.filterMap fun rule => f (.addRule d.name rule) := by
    have hrules : (d.rules.map (.addRule d.name)).filterMap f
        = d.rules.filterMap fun rule => f (.addRule d.name rule) := List.filterMap_map
    rw [← hrules, commands, List.filterMap_cons]
    cases f (.addRuleGroup d.name) <;> rfl
  have hnone {α : Type} : d.rules.filterMap (fun _ => (none : Option α)) = [] :=
    List.filterMap_none d.rules
  have hsome : d.rules.filterMap (fun rule => some (d.name, rule))
      = d.rules.map fun rule => (d.name, rule) := congrFun List.filterMap_eq_map d.rules
  constructor
  · rw [hcommands]
    exact congrArg (d.name :: ·) hnone
  · rw [hcommands]
    exact hsome.trans (List.append_nil _).symm
  · rw [hcommands]
    exact hnone.symm ▸ .nil
  · rw [hcommands]
    exact hnone

theorem Command.lists_ruleGroups (ds : List RuleGroup.Declaration) :
    Lists (ds.flatMap (·.commands)) ds [] [] := by
  induction ds with
  | nil => exact .nil
  | cons d ds ih => exact d.commands_lists.append ih

namespace NamespaceEntry

/-- the rule groups that the entry declares, alone or inside of a relying party -/
def ruleGroups : NamespaceEntry → List RuleGroup.Declaration
  | .relyingParty d => d.ruleGroups
  | .ruleGroup d => [d]
  | _ => []

def relyingParties : NamespaceEntry → List RelyingParty.Declaration
  | .relyingParty d => [d]
  | _ => []

/-- the entry itself, if it asks for a removal -/
def removals : NamespaceEntry → List NamespaceEntry
  | .removeRelyingParty name withRuleGroups => [.removeRelyingParty name withRuleGroups]
  | .removeRuleGroup name => [.removeRuleGroup name]
  | _ => []

theorem commands_lists (e : NamespaceEntry) :
    Command.Lists e.commands e.ruleGroups e.relyingParties e.removals := by
  cases e with
  | relyingParty d =>
    obtain ⟨new, hnew, hmatches⟩ := d.command_matches
    have hcommand : Command.Lists [d.command] [] [d] [] := by
      rw [hnew]
      exact ⟨rfl, rfl, .cons hmatches .nil, rfl⟩
    have hlists := (Command.lists_ruleGroups d.ruleGroups).append hcommand
    rw [List.append_nil] at hlists
    exact hlists
  | ruleGroup d => exact d.commands_lists
  | removeRelyingParty name withRuleGroups => exact ⟨rfl, rfl, .nil, rfl⟩
  | removeRuleGroup name => exact ⟨rfl, rfl, .nil, rfl⟩

end NamespaceEntry

theorem Command.lists_entries (es : List NamespaceEntry) :
    Lists (es.flatMap (·.commands)) (es.flatMap (·.ruleGroups)) (es.flatMap (·.relyingParties))
      (es.flatMap (·.removals)) := by
  induction es with
  | nil => exact .nil
  | cons e es ih => exact e.commands_lists.append ih

/-! ## clauses -/

namespace RuleGroup.Declaration

/-- the name that was set last, and a rule for every clause of one, in order -/
structure Gathers (d : Declaration) (cs : List Clause) : Prop where
  name : d.name.map .name = lastOf Clause.field .name cs
  rules : List.Forall₂ (fun c rule => ∃ rs, c = .rule rs ∧ rule = Rule.Declaration.ofClauses rs)
    (clausesOf Clause.field .rules cs) d.rules

theorem ofClauses_gathers (cs : List Clause) : (ofClauses cs).Gathers cs where
  name := by
    have hlast : (ofClauses cs).name.map Clause.name
        = (lastOf Clause.field .name cs).or (Option.map Clause.name none) :=
      foldl_lastOf (fun d : Declaration => d.name.map .name) (fun d c => by cases c <;> rfl) {} cs
    exact hlast.trans (Option.or_none ..)
  rules := by
    refine foldl_clausesOf (fun l (d : Declaration) => List.Forall₂ _ l d.rules) .nil ?_ ?_ cs
    · intro l d c hc h
      cases c <;> cases hc
      exact List.rel_append h (.cons ⟨_, rfl, rfl⟩ .nil)
    · intro l d c hc h
      cases c <;> first | exact h | exact absurd rfl hc

end RuleGroup.Declaration

namespace RelyingParty.Declaration

/-- every pattern and every rule group in order, and every identity provider where it was first
mentioned -/
structure Gathers (d : Declaration) (cs : List Clause) : Prop where
  patterns : d.patterns.map .linkTo = clausesOf Clause.field .patterns cs
  identityProviders : d.identityProviders.map .allowIdentityProvider =
    (clausesOf Clause.field .identityProviders cs).eraseDups
  ruleGroups : List.Forall₂ (fun c g => ∃ gs, c = .ruleGroup gs ∧ RuleGroup.Declaration.Gathers g gs)
    (clausesOf Clause.field .ruleGroups cs) d.ruleGroups

theorem ofClauses_gathers (cs : List Clause) : (ofClauses cs).Gathers cs where
  patterns := by
    let P (l : List Clause) (d : Declaration) : Prop := d.patterns.map Clause.linkTo = l
    have init : P [] {} := rfl
    refine foldl_clausesOf P init ?_ ?_ cs
    · intro l d c hc h
      cases c <;> cases hc
      exact List.map_append.trans (congrArg (· ++ _) h)
    · intro l d c hc h
      cases c <;> first | exact h | exact absurd rfl hc
  identityProviders := identityProviders_ofClauses cs
  ruleGroups := by
    refine foldl_clausesOf (fun l (d : Declaration) => List.Forall₂ _ l d.ruleGroups) .nil ?_ ?_ cs
    · intro l d c hc h
      cases c <;> cases hc
      exact List.rel_append h (.cons ⟨_, rfl, RuleGroup.Declaration.ofClauses_gathers _⟩ .nil)
    · intro l d c hc h
      cases c <;> first | exact h | exact absurd rfl hc

end RelyingParty.Declaration

/-- what the clause of an entry puts into it -/
inductive NamespaceClause.Declares : NamespaceClause → NamespaceEntry → Prop
  | relyingParty {cs : List RelyingParty.Clause} {d : RelyingParty.Declaration} (h : d.Gathers cs) :
    Declares (.relyingParty cs) (.relyingParty d)
  | ruleGroup {cs : List RuleGroup.Clause} {d : RuleGroup.Declaration} (h : d.Gathers cs) :
    Declares (.ruleGroup cs) (.ruleGroup d)
  | removeRuleGroup (name : String) : Declares (.removeRuleGroup name) (.removeRuleGroup name)
  | removeRelyingParty (name : String) :
    Declares (.removeRelyingParty name) (.removeRelyingParty name false)
  | removeRelyingPartyWithRuleGroups (name : String) :
    Declares (.removeRelyingPartyWithRuleGroups name) (.removeRelyingParty name true)

theorem NamespaceClause.entry_declared (c : NamespaceClause) : c.Declares c.entry := by
  cases c with
  | relyingParty cs => exact .relyingParty (RelyingParty.Declaration.ofClauses_gathers cs)
  | ruleGroup cs => exact .ruleGroup (RuleGroup.Declaration.ofClauses_gathers cs)
  | removeRuleGroup name => exact .removeRuleGroup name
  | removeRelyingParty name => exact .removeRelyingParty name
  | removeRelyingPartyWithRuleGroups name => exact .removeRelyingPartyWithRuleGroups name

/-- The commands of a namespace are a block for every entry, in order.  Rules come right behind their
rule groups.  What is created and removed is what was declared, each once and in order, and what was
declared is what the clauses say. -/
theorem NamespaceDeclaration.commands_shaped (d : NamespaceDeclaration) :
    (∃ blocks, List.Forall₂ NamespaceEntry.Block d.entries blocks ∧ d.commands = blocks.flatten)
    ∧ Command.Founded d.commands
    ∧ Command.Lists d.commands (d.entries.flatMap (·.ruleGroups))
      (d.entries.flatMap (·.relyingParties)) (d.entries.flatMap (·.removals))
    ∧ ∀ cs, d = ofClauses cs → List.Forall₂ NamespaceClause.Declares cs d.entries := by
  refine ⟨⟨d.entries.map NamespaceEntry.commands, ?_, List.flatMap_def⟩,
    Command.Founded.flatMap (·.commands_founded) d.entries, Command.lists_entries d.entries, ?_⟩
  · exact List.forall₂_map_right_iff.mpr (List.forall₂_same.mpr fun e _ => e.commands_block)
  · rintro cs rfl
    exact List.forall₂_map_right_iff.mpr (List.forall₂_same.mpr fun c _ => c.entry_declared)

/-- a relying party with four rule groups, one of them without a name, two of one name, and one whose
pattern is declared; then a removal -/
def NamespaceClause.portal : List NamespaceClause :=
  [.relyingParty [.ruleGroup [.name "staff", .rule [.inputClaimType "role"]], .ruleGroup [.rule []],
      .linkTo "^staff$", .name "portal", .ruleGroup [.name "a.b"], .ruleGroup [.name "a.b"]],
    .removeRelyingPartyWithRuleGroups "legacy"]

theorem NamespaceDeclaration.commands_shaped_portal :
    let d := ofClauses NamespaceClause.portal
    List.Forall₂ NamespaceClause.Declares NamespaceClause.portal d.entries
      ∧ d.commands = [.addRuleGroup (some "staff"),
        .addRule (some "staff") { inputClaimType := some "role" }, .addRuleGroup none, .addRule none {},
        .addRuleGroup (some "a.b"), .addRuleGroup (some "a.b"),
        .addRelyingParty { name := some "portal", patterns := ["^staff$", "^a\\.b$"] },
        .removeRelyingParty "legacy" true] :=
  ⟨(commands_shaped _).2.2.2 _ rfl, by decide⟩

end AccessControl
