import AccessControl.Proofs.Namespace
import AccessControl.Proofs.Store.Snapshot

/-!
# The order of independent entries

Relying parties that bring no rule groups along do not depend on one another, and rule groups do not
either.  Entries about the one or about the other, with a name of its own for each, may come in any order
(`reconcile_reorders`): every run goes through if one does, and they all leave the same snapshot.

* `NamespaceDeclaration.Independent`   entries of one of the two kinds, with distinct names;
* `Independent.snapshot_perm`          what is left is named by the last mention of each name, and with
                                       one mention of each the order of mentions is lost.
-/

namespace AccessControl

/-! ## independent entries -/

/-- a relying party on its own is declared or removed, and no rule group with it -/
def NamespaceEntry.isLoneRelyingParty : NamespaceEntry → Bool
  | .relyingParty d => d.ruleGroups.isEmpty && !d.removeRelatedRuleGroups
  | .removeRelyingParty _ withRuleGroups => !withRuleGroups
  | .ruleGroup _ => false
  | .removeRuleGroup _ => false

def NamespaceEntry.isRuleGroup : NamespaceEntry → Bool
  | .ruleGroup _ => true
  | .removeRuleGroup _ => true
  | .relyingParty _ => false
  | .removeRelyingParty _ _ => false

/-- the name that is declared or removed -/
def NamespaceEntry.name? : NamespaceEntry → Option String
  | .relyingParty d => d.name
  | .ruleGroup d => d.name
  | .removeRelyingParty name _ => some name
  | .removeRuleGroup name => some name

structure NamespaceDeclaration.Independent (d : NamespaceDeclaration) : Prop where
  kind : (∀ e ∈ d.entries, e.isLoneRelyingParty = true) ∨ ∀ e ∈ d.entries, e.isRuleGroup = true
  names : (d.entries.filterMap (·.name?)).Nodup

/-! ### their mentions -/

/-- an entry that mentions one name -/
theorem NamespaceEntry.mentions_lone {e : NamespaceEntry} (h : e.isLoneRelyingParty = true) :
    ∃ m, e.mentions = [m] ∧ m.subject? = e.name?.map .relyingParty := by
  cases e with
  | relyingParty d =>
    obtain ⟨hnone, -⟩ := Bool.and_eq_true_iff.mp h
    refine ⟨.relyingParty d, ?_, rfl⟩
    show d.ruleGroups.map Mention.ruleGroup ++ [Mention.relyingParty d] = _
    rw [List.isEmpty_iff.mp hnone]
    rfl
  | removeRelyingParty name withRuleGroups => exact ⟨.removal (.relyingParty name), rfl, rfl⟩
  | ruleGroup d => cases h
  | removeRuleGroup name => cases h

theorem NamespaceEntry.mentions_ruleGroup {e : NamespaceEntry} (h : e.isRuleGroup = true) :
    ∃ m, e.mentions = [m] ∧ m.subject? = e.name?.map .ruleGroup := by
  cases e with
  | ruleGroup d => exact ⟨.ruleGroup d, rfl, rfl⟩
  | removeRuleGroup name => exact ⟨.removal (.ruleGroup name), rfl, rfl⟩
  | relyingParty d => cases h
  | removeRelyingParty name withRuleGroups => cases h

theorem NamespaceEntry.keepsRelated_of_lone {e : NamespaceEntry} (h : e.isLoneRelyingParty = true) :
    e.keepsRelated = true := by
  cases e with
  | relyingParty d => exact (Bool.and_eq_true_iff.mp h).2
  | removeRelyingParty name withRuleGroups => exact h
  | ruleGroup d => cases h
  | removeRuleGroup name => cases h

theorem NamespaceEntry.keepsRelated_of_ruleGroup {e : NamespaceEntry} (h : e.isRuleGroup = true) :
    e.keepsRelated = true := by
  cases e with
  | ruleGroup d => rfl
  | removeRuleGroup name => rfl
  | relyingParty d => cases h
  | removeRelyingParty name withRuleGroups => cases h

/-- entries that mention one name each, in the order of their names -/
theorem subjects_of_names {entries : List NamespaceEntry} {subject : String → Subject}
    (h : ∀ e ∈ entries, ∃ m, e.mentions = [m] ∧ m.subject? = e.name?.map subject) :
    (entries.flatMap (·.mentions)).filterMap (·.subject?)
      = (entries.filterMap (·.name?)).map subject := by
  induction entries with
  | nil => rfl
  | cons e entries ih =>
    obtain ⟨⟨m, hm, hsubject⟩, h⟩ := List.forall_mem_cons.mp h
    rw [List.flatMap_cons, hm, List.singleton_append]
    cases hname : e.name? with
    | none =>
      rw [hname] at hsubject
      rw [List.filterMap_cons_none hsubject, List.filterMap_cons_none hname]
      exact ih h
    | some name =>
      rw [hname] at hsubject
      rw [List.filterMap_cons_some hsubject, List.filterMap_cons_some hname, ih h]
      rfl

namespace NamespaceDeclaration.Independent
variable {d d' : NamespaceDeclaration} {settings : Settings} {X : Contents}

theorem keepsRelated (h : d.Independent) : d.keepsRelated = true := by
  refine List.all_eq_true.mpr fun e he => ?_
  rcases h.kind with hlone | hgroup
  · exact e.keepsRelated_of_lone (hlone e he)
  · exact e.keepsRelated_of_ruleGroup (hgroup e he)

theorem perm (h : d.Independent) (hperm : d'.entries.Perm d.entries) : d'.Independent where
  kind := h.kind.imp (fun hlone e he => hlone e (hperm.mem_iff.mp he))
    fun hgroup e he => hgroup e (hperm.mem_iff.mp he)
  names := (hperm.filterMap _).nodup_iff.mpr h.names

/-- every name is mentioned once, and all of them are of one kind -/
theorem subjects (h : d.Independent) : (d.mentions.filterMap (·.subject?)).Nodup
    ∧ ((∀ name, .ruleGroup name ∉ Mention.subjects d.mentions)
      ∨ ∀ name, .relyingParty name ∉ Mention.subjects d.mentions) := by
  have hmem (x : Subject) : x ∈ Mention.subjects d.mentions
      ↔ x ∈ d.mentions.filterMap (·.subject?) := List.mem_filterMap.symm
  rcases h.kind with hlone | hgroup
  · have heq := subjects_of_names fun e he => e.mentions_lone (hlone e he)
    have hnodup := h.names.map (f := Subject.relyingParty) fun _ _ h => Subject.relyingParty.inj h
    refine ⟨(congrArg List.Nodup heq).mpr hnodup, .inl fun name hname => ?_⟩
    have hname : .ruleGroup name ∈ d.mentions.filterMap (·.subject?) := (hmem _).mp hname
    obtain ⟨_, -, hkind⟩ := List.mem_map.mp (heq ▸ hname)
    cases hkind
  · have heq := subjects_of_names fun e he => e.mentions_ruleGroup (hgroup e he)
    have hnodup := h.names.map (f := Subject.ruleGroup) fun _ _ h => Subject.ruleGroup.inj h
    refine ⟨(congrArg List.Nodup heq).mpr hnodup, .inr fun name hname => ?_⟩
    have hname : .relyingParty name ∈ d.mentions.filterMap (·.subject?) := (hmem _).mp hname
    obtain ⟨_, -, hkind⟩ := List.mem_map.mp (heq ▸ hname)
    cases hkind

end NamespaceDeclaration.Independent

/-! ## one mention of each name -/

namespace Mention
variable {ms ms' : List Mention}

theorem eq_of_subject (h : (ms.filterMap (·.subject?)).Nodup) {m m' : Mention} {x : Subject}
    (hm : m ∈ ms) (hm' : m' ∈ ms) (hx : m.subject? = some x) (hx' : m'.subject? = some x) :
    m = m' := by
  by_contra hne
  have hsymm : Std.Symm fun a b : Mention => ∀ x, a.subject? = some x → ∀ y, b.subject? = some y →
      x ≠ y := ⟨fun a b hab x hx y hy heq => hab y hy x hx heq.symm⟩
  exact (List.pairwise_filterMap.mp h).forall hm hm' hne x hx x hx' rfl

theorem subjects_perm (h : ms'.Perm ms) : subjects ms' = subjects ms := by
  ext x
  simp [subjects, h.mem_iff]

theorem mem_subjects_of_last? {x : Subject} {m : Mention} {later : List Mention}
    (h : last? x ms = some (m, later)) : m ∈ ms ∧ m.subject? = some x ∧ subjects later ⊆ subjects ms := by
  obtain ⟨⟨before, rfl⟩, hm, -⟩ := last?_eq_some h
  refine ⟨List.mem_append_right _ List.mem_cons_self, hm, ?_⟩
  intro y ⟨m', hm', hy⟩
  exact ⟨m', List.mem_append_right _ (List.mem_cons_of_mem _ hm'), hy⟩

/-- the only mention of a name is the last one in any order -/
theorem last?_perm (h : (ms.filterMap (·.subject?)).Nodup) (hperm : ms'.Perm ms) (x : Subject) :
    (last? x ms').map (·.1) = (last? x ms).map (·.1) := by
  cases hlast : last? x ms with
  | none =>
    cases hlast' : last? x ms' with
    | none => rfl
    | some found =>
      obtain ⟨hmem, hm, -⟩ := mem_subjects_of_last? hlast'
      exact absurd ⟨found.1, hperm.mem_iff.mp hmem, hm⟩ (last?_eq_none hlast)
  | some found =>
    obtain ⟨hmem, hm, -⟩ := mem_subjects_of_last? hlast
    cases hlast' : last? x ms' with
    | none => exact absurd ⟨found.1, hperm.mem_iff.mpr hmem, hm⟩ (last?_eq_none hlast')
    | some found' =>
      obtain ⟨hmem', hm', -⟩ := mem_subjects_of_last? hlast'
      exact congrArg some (eq_of_subject h (hperm.mem_iff.mp hmem') hmem hm' hm)

end Mention

/-! ## what is left -/

/-- lists with the same entries of each name -/
theorem perm_of_named {α : Type} [DecidableEq α] (name : α → String) {as bs : List α}
    (h : ∀ n, as.filter (name · = n) = bs.filter (name · = n)) : as.Perm bs := by
  refine List.perm_iff_count.mpr fun a => ?_
  have hnamed (l : List α) : (l.filter (name · = name a)).count a = l.count a :=
    List.count_filter (decide_eq_true rfl)
  rw [← hnamed as, ← hnamed bs, h]

theorem Contents.snapshot_of_perm {X Y : Contents}
    (hparties : X.relyingParties.Perm Y.relyingParties) (hgroups : X.ruleGroups.Perm Y.ruleGroups) :
    X.snapshot = Y.snapshot :=
  snapshot_eq_iff.mpr ⟨hparties.map _, hgroups.map _⟩

namespace NamespaceDeclaration.Independent
variable {d d' : NamespaceDeclaration} {settings : Settings} {X : Contents}

theorem mentions_perm (hperm : d'.entries.Perm d.entries) : d'.mentions.Perm d.mentions :=
  hperm.flatMap_right _

theorem ruleGroupsNamed_perm (h : d.Independent) (hperm : d'.entries.Perm d.entries) (X : Contents)
    (name : String) : d'.ruleGroupsNamed X name = d.ruleGroupsNamed X name := by
  have hlast := Mention.last?_perm h.subjects.1 (mentions_perm hperm) (.ruleGroup name)
  unfold ruleGroupsNamed
  cases hd : Mention.last? (.ruleGroup name) d.mentions with
  | none =>
    rw [hd] at hlast
    rw [Option.map_eq_none_iff.mp hlast]
  | some found =>
    rw [hd] at hlast
    obtain ⟨⟨m, later'⟩, hd', hm⟩ := Option.map_eq_some_iff.mp hlast
    obtain ⟨m, later⟩ := found
    cases hm
    rw [hd']
    cases m with
    | ruleGroup g => rfl
    | relyingParty p => rfl
    | removal x => rfl

open Classical in
/-- links are to rule groups that match, and no entry comes after them that would change that -/
theorem relyingPartiesNamed_perm (h : d.Independent) (hperm : d'.entries.Perm d.entries)
    {X Z Z' : Contents} (hmatching : ∀ patterns, Z'.matching patterns = Z.matching patterns)
    (name : String) :
    d'.relyingPartiesNamed settings X Z' name = d.relyingPartiesNamed settings X Z name := by
  have hmentions := mentions_perm hperm
  have hlast := Mention.last?_perm h.subjects.1 hmentions (.relyingParty name)
  unfold relyingPartiesNamed
  cases hd : Mention.last? (.relyingParty name) d.mentions with
  | none =>
    rw [hd] at hlast
    rw [Option.map_eq_none_iff.mp hlast, Mention.subjects_perm hmentions]
  | some found =>
    rw [hd] at hlast
    obtain ⟨⟨m, later'⟩, hd', hm⟩ := Option.map_eq_some_iff.mp hlast
    obtain ⟨m, later⟩ := found
    cases hm
    rw [hd']
    -- a relying party is mentioned, so no rule group is
    obtain ⟨hmem, hx, hlater⟩ := Mention.mem_subjects_of_last? hd
    obtain ⟨-, -, hlater'⟩ := Mention.mem_subjects_of_last? hd'
    have hgroups : ∀ g, .ruleGroup g ∉ Mention.subjects d.mentions :=
      h.subjects.2.resolve_right fun hno => hno name ⟨m, hmem, hx⟩
    have hall (W : Contents) (patterns : List String) {ms : List Mention}
        (hms : Mention.subjects ms ⊆ Mention.subjects d.mentions) :
        (W.matching patterns).filter (fun g => .ruleGroup g ∉ Mention.subjects ms)
          = W.matching patterns :=
      Multiset.filter_eq_self.mpr fun g _ hg => hgroups g (hms hg)
    rw [Mention.subjects_perm hmentions] at hlater'
    cases m with
    | relyingParty p =>
      simp only [hall _ _ hlater, hall _ _ hlater', hmatching]
    | ruleGroup g => rfl
    | removal x => rfl

/-- the order of independent entries does not show in what they leave -/
theorem snapshot_perm (h : d.Independent) (hperm : d'.entries.Perm d.entries)
    (hcomplete : ∀ c ∈ d.commands, c.Complete settings) (X : Contents) :
    (X.after settings d'.commands).snapshot = (X.after settings d.commands).snapshot := by
  have hcomplete' : ∀ c ∈ d'.commands, c.Complete settings := fun c hc =>
    hcomplete c ((hperm.flatMap_right _).mem_iff.mp hc)
  have hd := after_realizes (X := X) h.keepsRelated hcomplete
  have hd' := after_realizes (X := X) (h.perm hperm).keepsRelated hcomplete'
  have hgroups : (X.after settings d'.commands).ruleGroups.Perm
      (X.after settings d.commands).ruleGroups :=
    perm_of_named (·.name) fun name => by
      rw [hd.ruleGroups, hd'.ruleGroups, ruleGroupsNamed_perm h hperm]
  have hmatching (patterns : List String) : (X.after settings d'.commands).matching patterns
      = (X.after settings d.commands).matching patterns :=
    Multiset.coe_eq_coe.mpr ((hgroups.map _).filter _)
  have hparties : (X.after settings d'.commands).relyingParties.Perm
      (X.after settings d.commands).relyingParties :=
    perm_of_named (·.name) fun name => by
      rw [hd.relyingParties, hd'.relyingParties, relyingPartiesNamed_perm h hperm hmatching]
  exact Contents.snapshot_of_perm hparties hgroups

end NamespaceDeclaration.Independent

/-! ## runs -/

open Reconciler

variable {sink sink' : Sink} {settings : Settings} {s : Store}

/-- As in `reconcile_idempotent`, `hroom` says that rule groups can be counted in 64 bits. -/
theorem reconcile_reorders (hs : s.Reachable) (hc : s.Closed) (hq : s.queue = [])
    (hf : s.failing = []) {d d' : NamespaceDeclaration} (hd : d.Independent)
    (hperm : d'.entries.Perm d.entries)
    (hroom : s.ruleGroups.length + d.commands.length < UInt64.size) {notes : List Diagnostic}
    (hok : ((inMemory sink settings).reconcile d.commands ⟨s, notes⟩).1.isOk = true)
    (notes' : List Diagnostic) :
    let run := (inMemory sink settings).reconcile d.commands ⟨s, notes⟩
    let other := (inMemory sink' settings).reconcile d'.commands ⟨s, notes'⟩
    other.1.isOk = true ∧ other.2.session.store.snapshot = run.2.session.store.snapshot := by
  intro run other
  have hsound := hs.sound
  have hcarries : Carries settings d.commands s run.2.session.store :=
    reconcile_good (executeAll_carries hsound hc hq) hok
  have hkeeps := d.takes_not hd.keepsRelated
  have hd' := (hd.perm hperm).keepsRelated
  have hcommands : d'.commands.Perm d.commands := hperm.flatMap_right _
  have hcomplete : ∀ c ∈ d'.commands, c.Complete settings := fun c hc =>
    hcarries.complete c (hcommands.mem_iff.mp hc)
  have hcount : ∀ x ∈ Command.subjects d'.commands, s.contents.count x ≤ 1 := by
    intro x ⟨c, hc, hx⟩
    exact hcarries.admits.count_le_one hkeeps ⟨c, hcommands.mem_iff.mp hc, hx⟩
  have htracks : Tracks settings s.contents (Command.subjects d'.commands) d'.commands s :=
    ⟨hsound, hc, hf, d'.takes_not hd', hcomplete, d'.admits hd' hcount, d'.grounded _, rfl, hcount,
      .nil hq, hcommands.length_eq ▸ hroom⟩
  rcases reconcile_again htracks notes' with ⟨hagain, hcontents⟩ | ⟨e, -, hrejected⟩
  · refine ⟨hagain, ?_⟩
    rw [Store.snapshot_eq, Store.snapshot_eq, hcontents, hcarries.contents]
    exact hd.snapshot_perm hperm hcarries.complete s.contents
  · exact absurd hq hrejected.waited

/-- one linked relying party goes and another one comes, in either order -/
theorem reconcile_reorders_portal :
    let legacy : RelyingParty.Draft :=
      ⟨⟨"legacy", "urn:legacy", none, .saml2, 600, []⟩, some [1], none, none, none, none, none⟩
    let parties := ((({} : Store).insertRuleGroup ⟨"claims"⟩).2.insertRelyingParty legacy).2
    let s := (parties.insertLink ⟨Id.nth 2, Id.nth 1⟩).2
    let portal : RelyingParty.Declaration :=
      { name := some "portal", realmAddress := some "urn:portal", patterns := ["claims"] }
    let intranet : RelyingParty.Declaration :=
      { name := some "intranet", realmAddress := some "urn:intranet", symmetricKey := some [2] }
    let d : NamespaceDeclaration :=
      ⟨[.relyingParty portal, .removeRelyingParty "legacy" false, .relyingParty intranet]⟩
    let d' : NamespaceDeclaration :=
      ⟨[.relyingParty intranet, .relyingParty portal, .removeRelyingParty "legacy" false]⟩
    let run := (inMemory .keeping {}).reconcile d.commands ⟨s, []⟩
    let other := (inMemory .silent {}).reconcile d'.commands ⟨s, []⟩
    run.1.isOk = true ∧ other.1.isOk = true
      ∧ other.2.session.store.snapshot = run.2.session.store.snapshot := by
  intro legacy parties s portal intranet d d'
  have hs : s.Reachable := .seedLink _ (.seedRelyingParty legacy (.seedRuleGroup _ (.fresh 50)))
  have hc : s.Closed := by
    constructor
    · decide +kernel
    · decide +kernel
    · decide +kernel
    · decide +kernel
  have hd : d.Independent := ⟨.inl (by decide +kernel), by decide +kernel⟩
  have hok : ((inMemory .keeping {}).reconcile d.commands ⟨s, []⟩).1.isOk = true := by
    decide +kernel
  have hperm : d'.entries.Perm d.entries := by decide +kernel
  have hroom : s.ruleGroups.length + d.commands.length < UInt64.size := by decide +kernel
  exact ⟨hok, reconcile_reorders hs hc rfl rfl hd hperm hroom hok []⟩

end AccessControl
