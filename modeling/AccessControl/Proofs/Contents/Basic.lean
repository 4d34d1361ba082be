import AccessControl.Declaration.Basic
import AccessControl.Pattern.Basic
import AccessControl.Store.Snapshot
import Mathlib.Data.Multiset.Filter
import Mathlib.Data.Multiset.Sort
import Mathlib.Data.Set.Basic

/-!
# Contents

What a store holds, without identities: rule groups with the bodies of their rules, relying parties
with their keys and the names of their rule groups.  Two stores with the same contents have the same
snapshot, whatever identities they gave out.

* `Contents.hide o`      the contents without the resources named in `o` and without links to them;
* `Contents.hide_hide`   hiding twice is hiding the union;
* `Contents.Lacks`       nothing of a name is there, so hiding it hides nothing.
-/

namespace AccessControl
open Classical

/-- what a command or a declaration is about -/
inductive Subject where
  | ruleGroup (name : String)
  | relyingParty (name : String)
  deriving DecidableEq

/-- what a key is without its identity and its relying party -/
structure Key.Content where
  displayName : String
  type : KeyType
  usage : KeyUsage
  startDate : Option Timestamp
  endDate : Option Timestamp
  deriving DecidableEq

def Key.content (k : Key) : Key.Content :=
  ⟨k.displayName, k.type, k.usage, k.startDate, k.endDate⟩

/-- the keys that a relying party gets from its key material -/
def RelyingParty.Draft.keys (new : RelyingParty.Draft) : List Key.Content :=
  (if new.symmetricKey.isSome then
    [⟨new.name ++ "-symmetric-key", .symmetric, .signing, none, none⟩] else [])
  ++ (if new.signingCertificate.isSome then
    [⟨new.name ++ "-signing-certificate", .x509Certificate, .signing,
      new.signingCertificateStart, new.signingCertificateEnd⟩] else [])
  ++ (if new.encryptionCertificate.isSome then
    [⟨new.name ++ "-encryption-certificate", .x509Certificate, .encrypting, none, none⟩] else [])

structure RuleGroup.Content where
  name : String
  rules : List Rule.Body
  deriving DecidableEq

/-- the links as the names of the rule groups, in no order -/
structure RelyingParty.Content extends RelyingParty.Profile where
  keys : List Key.Content
  links : Multiset String
  deriving DecidableEq

/-- the pattern of this text is one, and it is found in the name -/
def Pattern.finds (text name : String) : Bool :=
  (Pattern.ofText? text).any fun pattern => pattern.isFoundIn name

/-- in the order of creation -/
structure Contents where
  ruleGroups : List RuleGroup.Content := []
  relyingParties : List RelyingParty.Content := []
  deriving DecidableEq

/-- the relying party without its links to rule groups in `o` -/
noncomputable def RelyingParty.Content.unlink (p : RelyingParty.Content) (o : Set Subject) :
    RelyingParty.Content :=
  { p with links := p.links.filter fun g => .ruleGroup g ∉ o }

namespace Contents

noncomputable def hide (X : Contents) (o : Set Subject) : Contents where
  ruleGroups := X.ruleGroups.filter fun g => .ruleGroup g.name ∉ o
  relyingParties := (X.relyingParties.filter fun p => .relyingParty p.name ∉ o).map (·.unlink o)

/-- how many resources have this name -/
def count (X : Contents) : Subject → Nat
  | .ruleGroup name => X.ruleGroups.countP (·.name = name)
  | .relyingParty name => X.relyingParties.countP (·.name = name)

/-! ## changes -/

def addRuleGroup (X : Contents) (name : String) : Contents :=
  { X with ruleGroups := X.ruleGroups ++ [⟨name, []⟩] }

/-- a rule at the end of every rule group of this name -/
def addRule (X : Contents) (name : String) (rule : Rule.Body) : Contents :=
  { X with ruleGroups := X.ruleGroups.map fun g =>
      if g.name = name then { g with rules := g.rules ++ [rule] } else g }

def addRelyingParty (X : Contents) (profile : RelyingParty.Profile) (keys : List Key.Content)
    (links : Multiset String) : Contents :=
  { X with relyingParties := X.relyingParties ++ [⟨profile, keys, links⟩] }

/-- links from every relying party of this name -/
def link (X : Contents) (name : String) (groups : List String) : Contents :=
  { X with relyingParties := X.relyingParties.map fun p =>
      if p.name = name then { p with links := p.links + groups } else p }

/-- the names of the rule groups that some pattern is found in -/
def matching (X : Contents) (patterns : List String) : Multiset String :=
  ((X.ruleGroups.map (·.name)).filter fun g => patterns.any (Pattern.finds · g) : List String)

end Contents

/-! ## hiding -/

namespace RelyingParty.Content
variable (p : RelyingParty.Content) (o q : Set Subject)

theorem unlink_empty : p.unlink ∅ = p := by
  simp [unlink]

theorem unlink_unlink : (p.unlink o).unlink q = p.unlink (o ∪ q) := by
  simp [unlink, Multiset.filter_filter, not_or, and_comm]

theorem unlink_eq {p : RelyingParty.Content} {o : Set Subject}
    (h : ∀ g ∈ p.links, .ruleGroup g ∉ o) : p.unlink o = p := by
  unfold unlink
  rw [Multiset.filter_eq_self.mpr h]

end RelyingParty.Content

namespace Contents

theorem hide_empty (X : Contents) : X.hide ∅ = X := by
  simp [hide, RelyingParty.Content.unlink_empty]

theorem hide_hide (X : Contents) (o q : Set Subject) : (X.hide o).hide q = X.hide (o ∪ q) := by
  unfold hide
  congr 1
  · rw [List.filter_filter]
    refine List.filter_congr fun g _ => ?_
    simp [not_or, Bool.and_comm]
  · rw [List.filter_map, List.map_map, List.filter_filter]
    refine congrArg₂ _ (funext fun p => p.unlink_unlink o q) (List.filter_congr fun p _ => ?_)
    simp [RelyingParty.Content.unlink, not_or, Bool.and_comm]

theorem hide_eq_of_subset {X Y : Contents} {o q : Set Subject} (h : X.hide o = Y.hide o)
    (hoq : o ⊆ q) : X.hide q = Y.hide q := by
  rw [← Set.union_eq_self_of_subset_left hoq, ← hide_hide, h, hide_hide]

/-- nothing has this name, and no link goes there -/
def Lacks (X : Contents) : Subject → Prop
  | .ruleGroup name => (∀ g ∈ X.ruleGroups, g.name ≠ name) ∧ ∀ p ∈ X.relyingParties, name ∉ p.links
  | .relyingParty name => ∀ p ∈ X.relyingParties, p.name ≠ name

theorem hide_lacking {X : Contents} {q : Set Subject} (h : ∀ x ∈ q, X.Lacks x) : X.hide q = X := by
  have hg : ∀ g ∈ X.ruleGroups, .ruleGroup g.name ∉ q := fun g hg hq => (h _ hq).1 g hg rfl
  have hp : ∀ p ∈ X.relyingParties, .relyingParty p.name ∉ q := fun p hp hq => h _ hq p hp rfl
  unfold hide
  rw [List.filter_eq_self.mpr fun g hm => decide_eq_true (hg g hm),
    List.filter_eq_self.mpr fun p hm => decide_eq_true (hp p hm)]
  have hl : X.relyingParties.map (·.unlink q) = X.relyingParties.map id :=
    List.map_congr_left fun p hm => RelyingParty.Content.unlink_eq fun g hgp hq =>
      (h _ hq).2 p hm hgp
  rw [hl, List.map_id]

theorem hide_union_lacking {X : Contents} {o q : Set Subject} (h : ∀ x ∈ q, X.Lacks x) :
    X.hide (o ∪ q) = X.hide o := by
  rw [Set.union_comm, ← hide_hide, hide_lacking h]

/-! ## changes and hiding

Every change of the contents only reads what it shows, so what is hidden may as well be hidden before. -/

theorem hide_self (X : Contents) (o : Set Subject) : (X.hide o).hide o = X.hide o := by
  rw [hide_hide, Set.union_self]

theorem hide_addRuleGroup (X : Contents) (name : String) (o : Set Subject) :
    (X.addRuleGroup name).hide o = ((X.hide o).addRuleGroup name).hide o := by
  have h := X.hide_self o
  unfold hide at h ⊢
  unfold addRuleGroup
  rw [Contents.mk.injEq] at h ⊢
  refine ⟨?_, h.2.symm⟩
  rw [List.filter_append, List.filter_append, h.1]

theorem hide_addRule (X : Contents) (name : String) (rule : Rule.Body) (o : Set Subject) :
    (X.addRule name rule).hide o = ((X.hide o).addRule name rule).hide o := by
  have h := X.hide_self o
  unfold hide at h ⊢
  unfold addRule
  rw [Contents.mk.injEq] at h ⊢
  refine ⟨?_, h.2.symm⟩
  have hname (g : RuleGroup.Content) :
      (if g.name = name then { g with rules := g.rules ++ [rule] } else g).name = g.name := by
    split <;> rfl
  rw [List.filter_map, List.filter_map]
  simp only [Function.comp_def, hname]
  rw [h.1]

/-- the rule groups of this name get the rule -/
theorem addRule_ruleGroups (X : Contents) (name : String) (rule : Rule.Body) :
    (X.addRule name rule).ruleGroups.filter (·.name = name)
      = (X.ruleGroups.filter (·.name = name)).map fun g => { g with rules := g.rules ++ [rule] } := by
  have hname (g : RuleGroup.Content) :
      (if g.name = name then { g with rules := g.rules ++ [rule] } else g).name = g.name := by
    split <;> rfl
  unfold addRule
  rw [List.filter_map]
  simp only [Function.comp_def, hname]
  exact List.map_congr_left fun g hg => if_pos (of_decide_eq_true (List.mem_filter.mp hg).2)

theorem hide_addRelyingParty (X : Contents) (profile : RelyingParty.Profile)
    (keys : List Key.Content) (links : Multiset String) (o : Set Subject) :
    (X.addRelyingParty profile keys links).hide o
      = ((X.hide o).addRelyingParty profile keys links).hide o := by
  have h := X.hide_self o
  unfold hide at h ⊢
  unfold addRelyingParty
  rw [Contents.mk.injEq] at h ⊢
  refine ⟨h.1.symm, ?_⟩
  rw [List.filter_append, List.filter_append, List.map_append, List.map_append, h.2]

theorem hide_link (X : Contents) (name : String) (groups : List String) (o : Set Subject) :
    (X.link name groups).hide o = ((X.hide o).link name groups).hide o := by
  let f (p : RelyingParty.Content) : RelyingParty.Content :=
    if p.name = name then { p with links := p.links + groups } else p
  have hname (p : RelyingParty.Content) : (f p).name = p.name := by
    unfold f
    split <;> rfl
  have hunlink (p : RelyingParty.Content) : (f (p.unlink o)).unlink o = (f p).unlink o := by
    show (if p.name = name then _ else _ : RelyingParty.Content).unlink o = _
    unfold f
    split
    · simp [RelyingParty.Content.unlink, Multiset.filter_add, Multiset.filter_filter]
    · rw [RelyingParty.Content.unlink_unlink, Set.union_self]
  have hvisible {l : List RelyingParty.Content} (hl : ∀ p ∈ l, .relyingParty p.name ∉ o) :
      (l.map f).filter (fun p => .relyingParty p.name ∉ o) = l.map f := by
    refine List.filter_eq_self.mpr fun p hp => decide_eq_true ?_
    obtain ⟨p', hp', rfl⟩ := List.mem_map.mp hp
    rw [hname]
    exact hl p' hp'
  have hshown : ∀ p ∈ (X.hide o).relyingParties, .relyingParty p.name ∉ o := by
    intro p hp
    obtain ⟨p', hp', rfl⟩ := List.mem_map.mp hp
    exact of_decide_eq_true (List.mem_filter.mp hp').2
  show (⟨_, ((X.relyingParties.map f).filter _).map _⟩ : Contents)
    = ⟨_, (((X.hide o).relyingParties.map f).filter _).map _⟩
  rw [hvisible hshown, List.filter_map]
  congr 1
  · exact congrArg Contents.ruleGroups (X.hide_self o).symm
  · unfold hide
    rw [List.map_map, List.map_map, List.map_map]
    simp only [Function.comp_def, hname, hunlink]

theorem link_nil (X : Contents) (name : String) : X.link name [] = X := by
  simp [link]

theorem link_link (X : Contents) (name : String) (as bs : List String) :
    (X.link name as).link name bs = X.link name (as ++ bs) := by
  unfold link
  congr 1
  rw [List.map_map]
  refine List.map_congr_left fun p _ => ?_
  rw [Function.comp_apply]
  by_cases h : p.name = name
  · simp [h, Multiset.add_assoc]
  · simp [h]

/-- links from a new relying party are as if it had come with them -/
theorem link_addRelyingParty {X : Contents} {profile : RelyingParty.Profile}
    (hnew : ∀ p ∈ X.relyingParties, p.name ≠ profile.name) (keys : List Key.Content)
    (groups : List String) : (X.addRelyingParty profile keys 0).link profile.name groups
      = X.addRelyingParty profile keys groups := by
  unfold link addRelyingParty
  congr 1
  rw [List.map_append]
  have hold : X.relyingParties.map (fun p =>
      if p.name = profile.name then { p with links := p.links + groups } else p)
        = X.relyingParties.map id :=
    List.map_congr_left fun p hp => if_neg (hnew p hp)
  rw [hold, List.map_id]
  simp

end Contents
end AccessControl
