import AccessControl.Proofs.Contents.Sequence

/-!
# Commands of declarations

What is special about commands that come from a declaration: rules follow the creation of their rule
group (`Declaration.grounded`), and rule groups are only taken if the declaration says so
(`Declaration.takes_not`).
-/

namespace AccessControl

/-- what can be reconciled as a whole -/
inductive Declaration where
  | entries (d : NamespaceDeclaration)
  | relyingParty (d : RelyingParty.Declaration)
  | ruleGroup (d : RuleGroup.Declaration)
  deriving DecidableEq

def Declaration.commands : Declaration → List Command
  | .entries d => d.commands
  | .relyingParty d => d.commands
  | .ruleGroup d => d.commands

/-! ## rule groups that go with a relying party -/

/-- the entry leaves rule groups alone that it does not name -/
def NamespaceEntry.keepsRelated : NamespaceEntry → Bool
  | .relyingParty d => !d.removeRelatedRuleGroups
  | .ruleGroup _ => true
  | .removeRelyingParty _ withRuleGroups => !withRuleGroups
  | .removeRuleGroup _ => true

def NamespaceDeclaration.keepsRelated (d : NamespaceDeclaration) : Bool :=
  d.entries.all (·.keepsRelated)

/-- nowhere are related rule groups asked to be removed -/
def Declaration.keepsRelated : Declaration → Bool
  | .entries d => d.keepsRelated
  | .relyingParty d => !d.removeRelatedRuleGroups
  | .ruleGroup _ => true

theorem RuleGroup.Declaration.takes_not (d : RuleGroup.Declaration) :
    ∀ c ∈ d.commands, c.takesRuleGroups = false := by
  intro c hc
  rcases List.mem_cons.mp hc with rfl | hc
  · rfl
  · obtain ⟨rule, -, rfl⟩ := List.mem_map.mp hc
    rfl

theorem RelyingParty.Declaration.takes_not {d : RelyingParty.Declaration}
    (h : (!d.removeRelatedRuleGroups) = true) : ∀ c ∈ d.commands, c.takesRuleGroups = false := by
  intro c hc
  rcases List.mem_append.mp hc with hc | hc
  · obtain ⟨g, -, hc⟩ := List.mem_flatMap.mp hc
    exact g.takes_not c hc
  · rw [List.mem_singleton.mp hc]
    rw [Bool.not_eq_true'] at h
    exact h

theorem NamespaceEntry.takes_not {e : NamespaceEntry} (h : e.keepsRelated = true) :
    ∀ c ∈ e.commands, c.takesRuleGroups = false := by
  cases e with
  | relyingParty d => exact RelyingParty.Declaration.takes_not h
  | ruleGroup d => exact d.takes_not
  | removeRelyingParty name withRuleGroups =>
    intro c hc
    rw [List.mem_singleton.mp hc]
    have h : (!withRuleGroups) = true := h
    rw [Bool.not_eq_true'] at h
    exact h
  | removeRuleGroup name =>
    intro c hc
    rw [List.mem_singleton.mp hc]
    rfl

theorem NamespaceDeclaration.takes_not {d : NamespaceDeclaration} (h : d.keepsRelated = true) :
    ∀ c ∈ d.commands, c.takesRuleGroups = false := by
  intro c hc
  obtain ⟨e, he, hc⟩ := List.mem_flatMap.mp hc
  exact e.takes_not (List.all_eq_true.mp h e he) c hc

theorem Declaration.takes_not {d : Declaration} (h : d.keepsRelated = true) :
    ∀ c ∈ d.commands, c.takesRuleGroups = false := by
  cases d with
  | entries d => exact NamespaceDeclaration.takes_not h
  | relyingParty d => exact RelyingParty.Declaration.takes_not h
  | ruleGroup d => exact d.takes_not

/-- a relying party with a key and a rule group of its own -/
def RelyingParty.Declaration.portal : RelyingParty.Declaration where
  name := some "portal"
  realmAddress := some "urn:portal"
  symmetricKey := some [1]
  ruleGroups := [{ name := some "claims", rules := [{ inputClaimType := some "email" }] }]

example : (Declaration.relyingParty .portal).keepsRelated = true := rfl

/-! ## rules follow their rule groups -/

theorem RuleGroup.Declaration.grounded (d : RuleGroup.Declaration) (o : Set Subject) :
    Command.Grounded o d.commands := by
  have hrules (o : Set Subject) (rules : List Rule.Declaration)
      (h : ∀ g, d.name = some g → .ruleGroup g ∉ o) :
      Command.Grounded o (rules.map (.addRule d.name)) := by
    induction rules generalizing o with
    | nil => trivial
    | cons rule rules ih => exact ⟨h, ih _ fun g hg ho => h g hg ho.1⟩
  refine ⟨fun g hg => absurd hg (Option.some_ne_none g).symm, hrules _ _ fun g hg ho => ho.2 ?_⟩
  show d.name.map Subject.ruleGroup = _
  rw [hg]
  rfl

theorem Command.grounded_singleton {c : Command} (h : ∀ g, c.extended? ≠ some g) (o : Set Subject) :
    Command.Grounded o [c] :=
  ⟨fun g hg => absurd hg (h g), trivial⟩

theorem RelyingParty.Declaration.grounded (d : RelyingParty.Declaration) (o : Set Subject) :
    Command.Grounded o d.commands :=
  Command.grounded_append.mpr ⟨Command.grounded_flatMap (fun g o => g.grounded o) d.ruleGroups o,
    Command.grounded_singleton (fun g h => by cases h) _⟩

theorem NamespaceEntry.grounded (e : NamespaceEntry) (o : Set Subject) :
    Command.Grounded o e.commands := by
  cases e with
  | relyingParty d => exact d.grounded o
  | ruleGroup d => exact d.grounded o
  | removeRelyingParty name withRuleGroups =>
    exact Command.grounded_singleton (fun g h => by cases h) o
  | removeRuleGroup name => exact Command.grounded_singleton (fun g h => by cases h) o

theorem NamespaceDeclaration.grounded (d : NamespaceDeclaration) (o : Set Subject) :
    Command.Grounded o d.commands :=
  Command.grounded_flatMap (fun e o => e.grounded o) d.entries o

theorem Declaration.grounded (d : Declaration) (o : Set Subject) :
    Command.Grounded o d.commands := by
  cases d with
  | entries d => exact d.grounded o
  | relyingParty d => exact d.grounded o
  | ruleGroup d => exact d.grounded o

/-- all that the commands are about is what they remove and replace -/
theorem Declaration.confined {d : Declaration} (h : d.keepsRelated = true) :
    Command.Confined d.commands (Command.subjects d.commands) :=
  (d.grounded Set.univ).confined (d.takes_not h)

end AccessControl
