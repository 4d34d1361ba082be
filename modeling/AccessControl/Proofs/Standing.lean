import AccessControl.Proofs.Inline
import AccessControl.Proofs.Replay

/-!
# Rule groups that stand

A relying party may be declared so that the rule groups linked to it go with it when it is replaced.
Reconciled once more, such a declaration takes the rule groups that its own patterns have linked.  Those
that come with the relying party are created anew; the others were standing there already, and are gone
after the second run (`reconcile_settles`).  With them goes all that the second run changes, and the
third run changes nothing.

`reconcile_unsettled` is a declaration whose second run leaves another snapshot than the first one.

As in `reconcile_idempotent`, `hroom` says that rule groups can be counted in 64 bits.
-/

namespace AccessControl

/-! ## standing rule groups -/

namespace RelyingParty.Declaration
variable {settings : Settings}

/-- the commands are ready where nothing is; the relying party finds no links there -/
theorem admits_empty (d : Declaration) : ({} : Contents).Admits settings d.commands := by
  have hone (x : Subject) : ({} : Contents).count x ≤ 1 :=
    (Nat.le_of_eq (Contents.count_empty x)).trans (Nat.zero_le 1)
  let T := ({} : Contents).after settings d.inline.commands
  have hlast : d.command.Ready T := by
    refine ⟨fun x _ => Contents.count_after_le_one (hone x) _, fun g hg => ?_, fun g hg => ?_⟩
    · cases hg
    · obtain ⟨-, name, -, hlinked⟩ := Contents.takes_iff_linked.mp hg
      have hcount : T.count (.relyingParty name) ≤ ({} : Contents).count (.relyingParty name) :=
        Contents.count_after_le (d.relyingParty_not_inline name)
      exact absurd (Nat.le_zero.mp hcount) hlinked.count_ne_zero
  rw [commands_eq]
  refine Contents.admits_append.mpr ⟨?_, hlast, trivial⟩
  exact NamespaceDeclaration.admits d.inline_keepsRelated fun x _ => hone x

/-- the rule groups that the relying party is linked to and that do not come with it -/
def standing (d : Declaration) (X : Contents) : Set Subject :=
  {x | ∃ name g, d.name = some name ∧ X.Linked name g ∧ g ∉ d.ruleGroupNames ∧ x = .ruleGroup g}

theorem standing_eq {d : Declaration} {name : String} (h : d.name = some name) (X : Contents) :
    d.standing X = X.standing name (Command.subjects d.inline.commands) := by
  ext x
  constructor
  · rintro ⟨name', g, hname', hlinked, hg, rfl⟩
    cases h.symm.trans hname'
    exact ⟨g, hlinked, mt ruleGroup_mem_inline.mp hg, rfl⟩
  · rintro ⟨g, hlinked, hg, rfl⟩
    exact ⟨name, g, h, hlinked, mt ruleGroup_mem_inline.mpr hg, rfl⟩

/-- the commands once more take what is standing -/
theorem after_again {d : Declaration} (hd : d.removeRelatedRuleGroups = true)
    (hname : d.name.isSome = true) {X Y : Contents} (hY : Y = X.after settings d.commands) :
    Y.after settings d.commands = Y.hide (d.standing Y) := by
  obtain ⟨name, hname⟩ := Option.isSome_iff_exists.mp hname
  have hsubject : d.command.subject? = some (.relyingParty name) := by
    show d.name.map Subject.relyingParty = _
    rw [hname]
    rfl
  rw [standing_eq hname]
  rw [commands_eq] at hY ⊢
  exact Contents.after_again d.inline_confined (d.relyingParty_not_inline name) hd rfl hsubject hY

end RelyingParty.Declaration

/-! ## runs -/

namespace Reconciler
variable {settings : Settings} {s : Store} {d : RelyingParty.Declaration}

/-- nothing stands in the way of these commands -/
structure Awaits (settings : Settings) (commands : List Command) (s : Store) : Prop where
  sound : s.Sound
  closed : s.Closed
  idle : s.queue = []
  failing : s.failing = []
  unique : ∀ x, s.contents.count x ≤ 1
  complete : ∀ c ∈ commands, c.Complete settings

theorem Awaits.replays (h : Awaits settings d.commands s)
    (hroom : s.ruleGroups.length + d.commands.length < UInt64.size) :
    Replays settings {} Set.univ d.commands s where
  sound := h.sound
  closed := h.closed
  failing := h.failing
  idle := h.idle
  complete := h.complete
  admits := d.admits_empty
  agree := by rw [Contents.hide_univ, Contents.hide_univ]
  lacks := fun x _ => Contents.count_empty x
  apart := s.contents.apart_univ
  unique := h.unique
  room := hroom

theorem Awaits.after (h : Awaits settings d.commands s) {t : Store} (hsteps : s.Steps t)
    (hidle : t.queue = []) : Awaits settings d.commands t where
  sound := hsteps.sound h.sound
  closed := hsteps.closed h.closed
  idle := hidle
  failing := hsteps.failing.trans h.failing
  unique := fun x => hsteps.count_le_one (h.unique x)
  complete := h.complete

/-- the commands of a declaration come to their end, and could be run again -/
theorem Awaits.reconcile (h : Awaits settings d.commands s) (sink : Sink)
    (hroom : s.ruleGroups.length + d.commands.length < UInt64.size) (notes : List Diagnostic) :
    let run := (inMemory sink settings).reconcile d.commands ⟨s, notes⟩
    run.1.isOk = true ∧ Carries settings d.commands s run.2.session.store
      ∧ Awaits settings d.commands run.2.session.store := by
  intro run
  have hok : run.1.isOk = true := by
    rcases reconcile_ends (executeAll_replays (h.replays hroom)) notes with h | ⟨e, -, h⟩
    · exact h.1
    · exact h.elim
  have hcarries : Carries settings d.commands s run.2.session.store :=
    reconcile_good (executeAll_carries h.sound h.closed h.idle) hok
  exact ⟨hok, hcarries, h.after (reconcile_steps d.commands s notes) hcarries.idle⟩

end Reconciler

open Reconciler

variable {sink sink' sink'' : Sink} {settings : Settings} {s : Store}

/-- the second run takes the rule groups that are standing with all that belongs to them, and the third
one finds none -/
theorem reconcile_settles (hs : s.Reachable) (hc : s.Closed) (hq : s.queue = [])
    (hf : s.failing = []) (hunique : ∀ x, s.contents.count x ≤ 1) {d : RelyingParty.Declaration}
    (hd : d.removeRelatedRuleGroups = true)
    (hroom : s.ruleGroups.length + 3 * d.commands.length < UInt64.size) {notes : List Diagnostic}
    (hok : ((inMemory sink settings).reconcile d.commands ⟨s, notes⟩).1.isOk = true)
    (notes' notes'' : List Diagnostic) :
    let t := ((inMemory sink settings).reconcile d.commands ⟨s, notes⟩).2.session.store
    let again := (inMemory sink' settings).reconcile d.commands ⟨t, notes'⟩
    let u := again.2.session.store
    let third := (inMemory sink'' settings).reconcile d.commands ⟨u, notes''⟩
    again.1.isOk = true ∧ u.contents = t.contents.hide (d.standing t.contents)
      ∧ (u.snapshot = t.snapshot ↔ d.standing t.contents = ∅)
      ∧ third.1.isOk = true ∧ third.2.session.store.snapshot = u.snapshot := by
  intro t again u third
  have hcarries : Carries settings d.commands s t :=
    reconcile_good (executeAll_carries hs.sound hc hq) hok
  have hs : Awaits settings d.commands s := ⟨hs.sound, hc, hq, hf, hunique, hcarries.complete⟩
  have ht : Awaits settings d.commands t := hs.after (reconcile_steps d.commands s notes) hcarries.idle
  have hsize := hcarries.size
  obtain ⟨hagain, hu, hawaits⟩ := ht.reconcile sink' (by omega) notes'
  have hsize' := hu.size
  obtain ⟨hthird, hv, -⟩ := hawaits.reconcile sink'' (by omega) notes''
  have hname : d.name.isSome = true := by
    have hmem : d.command ∈ d.commands := List.mem_append_right _ (List.mem_singleton.mpr rfl)
    obtain ⟨⟨new, hnew⟩, -⟩ := hcarries.complete d.command hmem
    exact Option.isSome_iff_exists.mpr ⟨new.name, (draft_eq_ok hnew).1⟩
  have hsecond : u.contents = t.contents.hide (d.standing t.contents) :=
    hu.contents.trans (RelyingParty.Declaration.after_again hd hname hcarries.contents)
  refine ⟨hagain, hsecond, ⟨fun hsnapshot => ?_, fun hnone => ?_⟩, hthird, ?_⟩
  · refine Set.eq_empty_iff_forall_notMem.mpr fun x hx => ?_
    have hcount : u.contents.count x = t.contents.count x :=
      Contents.count_of_snapshot (by rw [← u.snapshot_eq, hsnapshot, t.snapshot_eq]) x
    rw [hsecond, Contents.count_hidden hx] at hcount
    obtain ⟨name, g, -, hlinked, -, rfl⟩ := hx
    exact Store.count_linked ht.sound ht.closed hlinked hcount.symm
  · rw [hnone, Contents.hide_empty] at hsecond
    exact Store.snapshot_congr hsecond
  · refine Store.snapshot_congr ?_
    have hnone : d.standing u.contents = ∅ := by
      obtain ⟨name, hname⟩ := Option.isSome_iff_exists.mp hname
      rw [hsecond, RelyingParty.Declaration.standing_eq hname,
        RelyingParty.Declaration.standing_eq hname]
      exact Contents.standing_hide _ _ _
    rw [hv.contents, RelyingParty.Declaration.after_again hd hname hu.contents, hnone,
      Contents.hide_empty]

/-- the rule group was there before, and only the pattern links it -/
theorem reconcile_settles_standing :
    let s := (({} : Store).insertRuleGroup ⟨"g"⟩).2
    let d : RelyingParty.Declaration := {
      name := some "portal", realmAddress := some "urn:portal", patterns := ["^g$"]
      removeRelatedRuleGroups := true }
    ((inMemory .keeping {}).reconcile d.commands ⟨s, []⟩).1.isOk = true
      ∧ let t := ((inMemory .keeping {}).reconcile d.commands ⟨s, []⟩).2.session.store
        let again := (inMemory .silent {}).reconcile d.commands ⟨t, []⟩
        let u := again.2.session.store
        let third := (inMemory .silent {}).reconcile d.commands ⟨u, []⟩
        again.1.isOk = true ∧ u.contents = t.contents.hide (d.standing t.contents)
          ∧ (u.snapshot = t.snapshot ↔ d.standing t.contents = ∅)
          ∧ third.1.isOk = true ∧ third.2.session.store.snapshot = u.snapshot := by
  intro s d
  have hs : s.Reachable := .seedRuleGroup ⟨"g"⟩ (.fresh 50)
  have hc : s.Closed := (Store.Closed.fresh 50).insertRuleGroup ⟨"g"⟩
  have hunique (x : Subject) : s.contents.count x ≤ 1 := by
    cases x with
    | ruleGroup name => exact List.countP_le_length
    | relyingParty name => exact Nat.zero_le 1
  have hok : ((inMemory .keeping {}).reconcile d.commands ⟨s, []⟩).1.isOk = true := by
    decide +kernel
  exact ⟨hok, reconcile_settles hs hc rfl rfl hunique rfl (by decide) hok [] []⟩

/-- the second run deletes the rule group that the first one has linked -/
theorem reconcile_unsettled :
    let s := (({} : Store).insertRuleGroup ⟨"g"⟩).2
    let d : RelyingParty.Declaration := {
      name := some "portal", realmAddress := some "urn:portal", patterns := ["^g$"]
      removeRelatedRuleGroups := true }
    let first := (inMemory .keeping {}).reconcile d.commands ⟨s, []⟩
    let again := (inMemory .keeping {}).reconcile d.commands ⟨first.2.session.store, []⟩
    s.Reachable ∧ s.Closed ∧ (∀ x, s.contents.count x ≤ 1) ∧ s.queue = [] ∧ s.failing = []
      ∧ d.removeRelatedRuleGroups = true ∧ first.1.isOk = true ∧ again.1.isOk = true
      ∧ again.2.session.store.snapshot ≠ first.2.session.store.snapshot := by
  intro s d first again
  have hunique (x : Subject) : s.contents.count x ≤ 1 := by
    cases x with
    | ruleGroup name => exact List.countP_le_length
    | relyingParty name => exact Nat.zero_le 1
  exact ⟨.seedRuleGroup ⟨"g"⟩ (.fresh 50), (Store.Closed.fresh 50).insertRuleGroup ⟨"g"⟩, hunique, rfl,
    rfl, rfl, by decide +kernel, by decide +kernel, by decide +kernel⟩

end AccessControl
