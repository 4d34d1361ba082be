import AccessControl.Proofs.Contents.Meaning
import AccessControl.Proofs.Json.Record
import Mathlib.Data.List.Sort
import Mathlib.Data.Prod.Lex
import Mathlib.Data.String.Basic

/-!
# What contents show

A snapshot shows less than the contents: of keys and rules it has the names only, and no order.  What
commands look at and what they leave can all the same be told from it.

* `Contents.snapshot`           the snapshot of contents;
* `Contents.snapshot_eq_iff`    two contents show the same if they have the same entries in some order;
* `Contents.snapshot_next`      what a command leaves shows the same if what it was given did.
-/

namespace AccessControl

/-! ## sorted lists of names -/

theorem sortNames_perm (names : List String) : (sortNames names).Perm names :=
  List.mergeSort_perm names _

theorem sortNames_sorted (names : List String) : (sortNames names).Pairwise (· ≤ ·) :=
  List.pairwise_mergeSort' (· ≤ ·) names

/-- a list in order is what sorting makes of its names -/
theorem eq_sortNames {names sorted : List String} (h : sorted.Perm names)
    (hsorted : sorted.Pairwise (· ≤ ·)) : sorted = sortNames names :=
  (h.trans (sortNames_perm names).symm).eq_of_pairwise' hsorted (sortNames_sorted names)

/-- the order of names does not matter once they are sorted -/
theorem sortNames_congr {a b : List String} (h : a.Perm b) : sortNames a = sortNames b :=
  eq_sortNames ((sortNames_perm a).trans h) (sortNames_sorted a)

theorem sortNames_filter (names : List String) (keep : String → Bool) :
    sortNames (names.filter keep) = (sortNames names).filter keep :=
  (eq_sortNames ((sortNames_perm names).filter keep) ((sortNames_sorted names).filter _)).symm

/-! ## the order of entries -/

/-- sorting by a key leaves a list in the order of the key -/
theorem pairwise_mergeSort_key {α γ : Type} [LinearOrder γ] {key : α → γ} {le : α → α → Bool}
    (hle : ∀ a b, le a b = true ↔ key a ≤ key b) (l : List α) :
    (l.mergeSort le).Pairwise fun a b => key a ≤ key b := by
  refine (List.pairwise_mergeSort ?_ ?_ l).imp fun h => (hle _ _).mp h
  · intro a b c hab hbc
    exact (hle a c).mpr (((hle a b).mp hab).trans ((hle b c).mp hbc))
  · intro a b
    rw [Bool.or_eq_true, hle, hle]
    exact le_total _ _

theorem nameThenText_iff {a b : String × String} : nameThenText a b = true ↔ toLex a ≤ toLex b := by
  rw [Prod.Lex.toLex_le_toLex]
  simp [nameThenText]

theorem pairwise_entries {α : Type} (key : α → String × String) (l : List α) :
    (l.mergeSort fun a b => nameThenText (key a) (key b)).Pairwise fun a b =>
      toLex (key a) ≤ toLex (key b) := by
  have hkey (a b : α) : nameThenText (key a) (key b) = true ↔ toLex (key a) ≤ toLex (key b) :=
    nameThenText_iff
  exact pairwise_mergeSort_key hkey l

/-- entries in order of their name and text, as long as the text tells them apart -/
theorem mergeSort_eq_iff {α : Type} {key : α → String × String} (hkey : key.Injective)
    {as bs : List α} : (as.mergeSort fun a b => nameThenText (key a) (key b))
      = (bs.mergeSort fun a b => nameThenText (key a) (key b)) ↔ as.Perm bs := by
  let le (a b : α) : Bool := nameThenText (key a) (key b)
  constructor
  · intro h
    exact (List.mergeSort_perm as le).symm.trans ((List.Perm.of_eq h).trans
      (List.mergeSort_perm bs le))
  · intro h
    have hperm : (as.mergeSort le).Perm (bs.mergeSort le) :=
      (List.mergeSort_perm as le).trans (h.trans (List.mergeSort_perm bs le).symm)
    exact hperm.eq_of_pairwise (fun a b _ _ hab hba => hkey (toLex.injective (le_antisymm hab hba)))
      (pairwise_entries key as) (pairwise_entries key bs)

/-! ### the text of an entry -/

theorem Json.ofList_string_injective : Function.Injective (Json.ofList .string) := by
  intro xs ys h
  have hread := congrArg (fun j => j.list? Json.string?) h
  simpa using hread

theorem Json.ofOption_string_injective : Function.Injective (Json.ofOption .string) := by
  intro a b h
  have hread := congrArg (fun j => j.option? Json.string?) h
  simpa using hread

theorem RuleGroup.Snapshot.key_injective :
    Function.Injective fun g : RuleGroup.Snapshot => (g.name, g.encode.render) := by
  intro ⟨name, rules⟩ ⟨name', rules'⟩ h
  have hplain (g : RuleGroup.Snapshot) : g.encode.Plain 2 :=
    Json.plain_object (by simp [List.Forall])
  have hencode := Json.render_injective (hplain _) (hplain _) (Prod.mk.inj h).2
  simp only [encode, Json.object.injEq, List.cons.injEq, Prod.mk.injEq, true_and, and_true,
    Json.string.injEq] at hencode
  obtain ⟨rfl, hrules⟩ := hencode
  rw [Json.ofList_string_injective hrules]

theorem RelyingParty.Snapshot.key_injective :
    Function.Injective fun p : RelyingParty.Snapshot => (p.name, p.encode.render) := by
  intro ⟨⟨name, realm, reply, type, lifetime, providers⟩, groups, keys⟩
    ⟨⟨name', realm', reply', type', lifetime', providers'⟩, groups', keys'⟩ h
  have hplain (p : RelyingParty.Snapshot) : p.encode.Plain 2 :=
    Json.plain_object (by simp [List.Forall])
  have hencode := Json.render_injective (hplain _) (hplain _) (Prod.mk.inj h).2
  simp only [encode, Json.object.injEq, List.cons.injEq, Prod.mk.injEq, true_and, and_true,
    Json.string.injEq] at hencode
  obtain ⟨hproviders, hkeys, rfl, rfl, hreply, hgroups, hlifetime, htype⟩ := hencode
  have hlifetime := congrArg Json.word32? hlifetime
  have htype := congrArg TokenType.decode? htype
  rw [Json.word32?_ofNat, Json.word32?_ofNat] at hlifetime
  rw [TokenType.decode?_encode, TokenType.decode?_encode] at htype
  rw [Json.ofList_string_injective hproviders, Json.ofList_string_injective hkeys,
    Json.ofOption_string_injective hreply, Json.ofList_string_injective hgroups,
    Option.some.inj hlifetime, Option.some.inj htype]

/-! ## snapshots of contents -/

/-- what a snapshot shows of a relying party -/
def RelyingParty.Content.snapshot (p : RelyingParty.Content) : RelyingParty.Snapshot where
  toProfile := p.toProfile
  ruleGroups := Quotient.liftOn p.links sortNames fun _ _ => sortNames_congr
  keys := sortNames (p.keys.map (·.displayName))

/-- what a snapshot shows of a rule group -/
def RuleGroup.Content.snapshot (g : RuleGroup.Content) : RuleGroup.Snapshot where
  name := g.name
  rules := sortNames (g.rules.map (·.arrow))

namespace Contents

def snapshot (X : Contents) : Snapshot where
  relyingParties := (X.relyingParties.map (·.snapshot)).mergeSort fun a b =>
    nameThenText (a.name, a.encode.render) (b.name, b.encode.render)
  ruleGroups := (X.ruleGroups.map (·.snapshot)).mergeSort fun a b =>
    nameThenText (a.name, a.encode.render) (b.name, b.encode.render)

theorem snapshot_eq_iff {X Y : Contents} : X.snapshot = Y.snapshot ↔
    (X.relyingParties.map (·.snapshot)).Perm (Y.relyingParties.map (·.snapshot))
      ∧ (X.ruleGroups.map (·.snapshot)).Perm (Y.ruleGroups.map (·.snapshot)) := by
  rw [← mergeSort_eq_iff RelyingParty.Snapshot.key_injective,
    ← mergeSort_eq_iff RuleGroup.Snapshot.key_injective]
  exact Snapshot.mk.injEq _ _ _ _ ▸ Iff.rfl

end Contents

/-! ## what commands look at -/

theorem RelyingParty.Content.mem_snapshot {p : RelyingParty.Content} {g : String} :
    g ∈ p.snapshot.ruleGroups ↔ g ∈ p.links := by
  obtain ⟨profile, keys, ⟨links⟩⟩ := p
  exact (sortNames_perm links).mem_iff

namespace Contents
open Classical

variable {settings : Settings} {X Y : Contents}

theorem mem_snapshot {X : Contents} {p : RelyingParty.Snapshot} :
    p ∈ X.snapshot.relyingParties ↔ ∃ q ∈ X.relyingParties, q.snapshot = p := by
  rw [← List.mem_map]
  exact (List.mergeSort_perm _ _).mem_iff

/-- how common a name is shows -/
theorem count_of_snapshot (h : X.snapshot = Y.snapshot) (x : Subject) : X.count x = Y.count x := by
  obtain ⟨hparties, hgroups⟩ := snapshot_eq_iff.mp h
  cases x with
  | ruleGroup name =>
    have hcount := hgroups.countP_eq fun g => decide (g.name = name)
    rw [List.countP_map, List.countP_map] at hcount
    exact hcount
  | relyingParty name =>
    have hcount := hparties.countP_eq fun p => decide (p.name = name)
    rw [List.countP_map, List.countP_map] at hcount
    exact hcount

theorem names_snapshot (X : Contents) :
    (X.snapshot.ruleGroups.map (·.name)).Perm (X.ruleGroups.map (·.name)) := by
  refine ((List.mergeSort_perm _ _).map _).trans (.of_eq ?_)
  rw [List.map_map]
  rfl

theorem sortNames_snapshot (X : Contents) :
    X.snapshot.ruleGroups.map (·.name) = sortNames (X.ruleGroups.map (·.name)) := by
  apply eq_sortNames X.names_snapshot
  rw [List.pairwise_map]
  refine (pairwise_entries (fun g : RuleGroup.Snapshot => (g.name, g.encode.render)) _).imp ?_
  exact fun h => Prod.Lex.monotone_fst _ _ h

/-- which rule groups match shows -/
theorem matching_of_snapshot (h : X.snapshot = Y.snapshot) (patterns : List String) :
    X.matching patterns = Y.matching patterns := by
  have hnames : (X.ruleGroups.map (·.name)).Perm (Y.ruleGroups.map (·.name)) :=
    X.names_snapshot.symm.trans (h ▸ Y.names_snapshot)
  exact Multiset.coe_eq_coe.mpr (hnames.filter _)

theorem takes_snapshot {c : Command} {g : String} : c.Takes X g ↔ c.takesRuleGroups = true
    ∧ ∃ p ∈ X.snapshot.relyingParties, c.subject? = some (.relyingParty p.name)
      ∧ g ∈ p.ruleGroups := by
  refine and_congr_right' ⟨?_, ?_⟩
  · intro ⟨p, hp, hname, hg⟩
    exact ⟨p.snapshot, mem_snapshot.mpr ⟨p, hp, rfl⟩, hname, p.mem_snapshot.mpr hg⟩
  · intro ⟨q, hq, hname, hg⟩
    obtain ⟨p, hp, rfl⟩ := mem_snapshot.mp hq
    exact ⟨p, hp, hname, p.mem_snapshot.mp hg⟩

/-- what a command clears shows -/
theorem clears_of_snapshot (h : X.snapshot = Y.snapshot) (c : Command) :
    c.clears X = c.clears Y := by
  ext x
  unfold Command.clears
  simp only [takes_snapshot, h]

/-! ## what commands leave -/

theorem unlink_snapshot (p : RelyingParty.Content) (o : Set Subject) :
    (p.unlink o).snapshot = { p.snapshot with
      ruleGroups := p.snapshot.ruleGroups.filter fun g => .ruleGroup g ∉ o } := by
  obtain ⟨profile, keys, ⟨links⟩⟩ := p
  show RelyingParty.Snapshot.mk _ (sortNames (links.filter _)) _ = _
  rw [sortNames_filter]
  rfl

theorem snapshot_hide (h : X.snapshot = Y.snapshot) (o : Set Subject) :
    (X.hide o).snapshot = (Y.hide o).snapshot := by
  have hparties (Z : Contents) : (Z.hide o).relyingParties.map (·.snapshot)
      = ((Z.relyingParties.map (·.snapshot)).filter fun p => .relyingParty p.name ∉ o).map fun p =>
          { p with ruleGroups := p.ruleGroups.filter fun g => .ruleGroup g ∉ o } := by
    unfold hide
    rw [List.map_map, List.filter_map, List.map_map]
    exact List.map_congr_left fun p _ => unlink_snapshot p o
  have hgroups (Z : Contents) : (Z.hide o).ruleGroups.map (·.snapshot)
      = (Z.ruleGroups.map (·.snapshot)).filter fun g => .ruleGroup g.name ∉ o := by
    unfold hide
    rw [List.filter_map]
    rfl
  rw [snapshot_eq_iff] at h ⊢
  rw [hparties, hparties, hgroups, hgroups]
  exact ⟨(h.1.filter _).map _, h.2.filter _⟩

theorem snapshot_addRule (h : X.snapshot = Y.snapshot) (name : String) (rule : Rule.Body) :
    (X.addRule name rule).snapshot = (Y.addRule name rule).snapshot := by
  have hgroups (Z : Contents) : (Z.addRule name rule).ruleGroups.map (·.snapshot)
      = (Z.ruleGroups.map (·.snapshot)).map fun g =>
          if g.name = name then ⟨g.name, sortNames (g.rules ++ [rule.arrow])⟩ else g := by
    unfold addRule
    rw [List.map_map, List.map_map]
    refine List.map_congr_left fun g _ => ?_
    rw [Function.comp_apply, Function.comp_apply]
    show _ = if g.name = name then RuleGroup.Snapshot.mk g.name (sortNames (sortNames _ ++ _)) else _
    by_cases hname : g.name = name
    · rw [if_pos hname, if_pos hname]
      show RuleGroup.Snapshot.mk g.name (sortNames ((g.rules ++ [rule]).map _)) = _
      rw [List.map_append]
      exact congrArg _ (sortNames_congr ((sortNames_perm _).symm.append_right _))
    · rw [if_neg hname, if_neg hname]
  rw [snapshot_eq_iff] at h ⊢
  rw [hgroups, hgroups]
  exact ⟨h.1, h.2.map _⟩

theorem snapshot_change (h : X.snapshot = Y.snapshot) (c : Command) :
    (X.change settings c).snapshot = (Y.change settings c).snapshot := by
  cases c with
  | addRelyingParty new =>
    cases hd : Reconciler.draft settings new with
    | error e =>
      rw [change_without_draft hd, change_without_draft hd]
      exact h
    | ok d =>
      rw [change_addRelyingParty hd, change_addRelyingParty hd, matching_of_snapshot h]
      rw [snapshot_eq_iff] at h ⊢
      unfold addRelyingParty
      rw [List.map_append, List.map_append]
      exact ⟨h.1.append_right _, h.2⟩
  | removeRelyingParty name withRuleGroups => exact h
  | addRuleGroup name =>
    cases name with
    | none => exact h
    | some g =>
      rw [snapshot_eq_iff] at h ⊢
      show _ ∧ ((X.ruleGroups ++ [_]).map _).Perm ((Y.ruleGroups ++ [_]).map _)
      rw [List.map_append, List.map_append]
      exact ⟨h.1, h.2.append_right _⟩
  | addRule ruleGroup rule =>
    cases ruleGroup with
    | none => exact h
    | some g => exact snapshot_addRule h g rule.body
  | removeRuleGroup name => exact h

/-- a command makes contents that show the same from contents that show the same -/
theorem snapshot_next (h : X.snapshot = Y.snapshot) (c : Command) :
    (X.next settings c).snapshot = (Y.next settings c).snapshot := by
  unfold next
  rw [clears_of_snapshot h c]
  exact snapshot_change (snapshot_hide h _) c

end Contents
end AccessControl
