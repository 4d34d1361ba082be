import AccessControl.Proofs.Reconcile.Runs
import AccessControl.Proofs.Store.Snapshot

/-!
# Replaying a run on its own result

A run that started with nothing can be repeated, also if its commands take rule groups with relying
parties: `reconcile_replays`.  The second run is compared with the first one command by command.
What it still has to replace is hidden in `o`, which starts as everything.  Hidden relying parties may
take rule groups with them that the first run did not take, but only hidden ones (`Contents.Apart`),
and those are replaced before anything looks at them.

As in `reconcile_idempotent`, `hroom` says that rule groups can be counted in 64 bits.
-/

namespace AccessControl

/-! ## contents -/

namespace Contents
open Classical

variable {settings : Settings} {X Y : Contents} {o : Set Subject} {c : Command}

theorem hide_univ (X : Contents) : X.hide Set.univ = {} := by
  simp [hide]

theorem count_empty (x : Subject) : ({} : Contents).count x = 0 := by
  cases x with
  | ruleGroup name => rfl
  | relyingParty name => rfl

theorem Linked.count_ne_zero {relyingParty ruleGroup : String} (h : X.Linked relyingParty ruleGroup) :
    X.count (.relyingParty relyingParty) ≠ 0 := by
  obtain ⟨p, hp, hname, -⟩ := h
  intro hzero
  exact List.countP_eq_zero.mp hzero p hp (decide_eq_true hname)

/-- commands that take rule groups take the same visible ones from both contents -/
theorem takes_congr (h : X.hide o = Y.hide o) (hlacks : ∀ x ∈ o, X.count x = 0) (hY : Y.Apart o)
    {g : String} (hg : .ruleGroup g ∉ o) : c.Takes X g ↔ c.Takes Y g := by
  have hlinked (name : String) : X.Linked name g ↔ Y.Linked name g := by
    by_cases ho : .relyingParty name ∈ o
    · constructor
      · exact fun hX => absurd (hlacks _ ho) hX.count_ne_zero
      · rintro ⟨p, hp, rfl, hpg⟩
        exact absurd (hY p hp ho g hpg) hg
    · rw [← and_iff_left (a := X.Linked name g) (And.intro ho hg), ← linked_hide, h, linked_hide,
        and_iff_left (And.intro ho hg)]
  simp only [takes_iff_linked, hlinked]

/-- what a command clears is the same as far as it is visible -/
theorem clears_congr (h : X.hide o = Y.hide o) (hlacks : ∀ x ∈ o, X.count x = 0) (hY : Y.Apart o) :
    o ∪ c.clears X = o ∪ c.clears Y := by
  ext x
  by_cases ho : x ∈ o
  · exact ⟨fun _ => .inl ho, fun _ => .inl ho⟩
  · constructor
    · rintro (hx | hx | ⟨g, hg, rfl⟩)
      · exact .inl hx
      · exact .inr (.inl hx)
      · exact .inr (.inr ⟨g, (takes_congr h hlacks hY ho).mp hg, rfl⟩)
    · rintro (hx | hx | ⟨g, hg, rfl⟩)
      · exact .inl hx
      · exact .inr (.inl hx)
      · exact .inr (.inr ⟨g, (takes_congr h hlacks hY ho).mpr hg, rfl⟩)

/-- the command brings the contents together in what it is about, although it may take rule groups -/
theorem next_congr_taking (h : X.hide o = Y.hide o) (hlacks : ∀ x ∈ o, X.count x = 0)
    (hY : Y.Apart o) : (X.next settings c).hide (o \ {x | c.subject? = some x})
      = (Y.next settings c).hide (o \ {x | c.subject? = some x}) := by
  have hunion (Z : Contents) : o \ {x | c.subject? = some x} ∪ c.clears Z = o ∪ c.clears Z := by
    ext x
    by_cases hx : c.subject? = some x
    · exact ⟨fun _ => .inr (.inl hx), fun _ => .inr (.inl hx)⟩
    · constructor
      · exact Or.imp_left fun h => h.1
      · exact Or.imp_left fun h => ⟨h, hx⟩
  rw [hide_next, hide_next, hunion, hunion, clears_congr h hlacks hY,
    hide_eq_of_subset h Set.subset_union_left]

end Contents

/-- a name that is not there -/
theorem Store.lacks_of_count {s : Store} (hs : s.Sound) (hc : s.Closed) {x : Subject}
    (h : s.contents.count x = 0) : s.contents.Lacks x := by
  cases x with
  | ruleGroup name =>
    refine lacks_ruleGroup hs hc fun g hg hname => ?_
    rw [count_ruleGroup] at h
    exact List.countP_eq_zero.mp h g hg (decide_eq_true hname)
  | relyingParty name =>
    refine lacks_relyingParty fun p hp hname => ?_
    rw [count_relyingParty] at h
    exact List.countP_eq_zero.mp h p hp (decide_eq_true hname)

theorem Store.hide_of_count {s : Store} (hs : s.Sound) (hc : s.Closed) {o : Set Subject}
    (h : ∀ x ∈ o, s.contents.count x = 0) : s.contents.hide o = s.contents :=
  Contents.hide_lacking fun x hx => lacks_of_count hs hc (h x hx)

/-- a linked rule group is there -/
theorem Store.count_linked {s : Store} (hs : s.Sound) (hc : s.Closed) {name g : String}
    (h : s.contents.Linked name g) : s.contents.count (.ruleGroup g) ≠ 0 := by
  obtain ⟨p, hp, -, hg⟩ := h
  obtain ⟨p', -, rfl⟩ := List.mem_map.mp hp
  obtain ⟨g', hg', hname⟩ := linkedIn_exists hs hc (Multiset.mem_coe.mp hg)
  rw [count_ruleGroup]
  exact fun hzero => List.countP_eq_zero.mp hzero g' hg' (decide_eq_true hname)

namespace Reconciler
variable {sink sink' : Sink} {settings : Settings} {s : Store} {o : Set Subject}
  {commands : List Command}

/-! ## the second run -/

/-- the second run stands at the store `s` where the first one stood at the contents `X`: what it has
not replaced yet is in `o`, where the first run had nothing -/
structure Replays (settings : Settings) (X : Contents) (o : Set Subject) (commands : List Command)
    (s : Store) : Prop where
  sound : s.Sound
  closed : s.Closed
  failing : s.failing = []
  idle : s.queue = []
  complete : ∀ c ∈ commands, c.Complete settings
  admits : X.Admits settings commands
  agree : X.hide o = s.contents.hide o
  lacks : ∀ x ∈ o, X.count x = 0
  apart : s.contents.Apart o
  unique : ∀ x, s.contents.count x ≤ 1
  room : s.ruleGroups.length + commands.length < UInt64.size

theorem Replays.ready {X : Contents} {c : Command} {cs : List Command}
    (h : Replays settings X o (c :: cs) s) : c.Ready s.contents where
  replaced := fun x _ => h.unique x
  extended := fun g hg => by
    have hone := h.admits.1.extended g hg
    have ho : .ruleGroup g ∉ o := fun ho => by
      rw [h.lacks _ ho] at hone
      cases hone
    rw [← Contents.count_congr h.agree ho]
    exact hone
  taken := fun g hg => by
    obtain ⟨-, name, -, hlinked⟩ := Contents.takes_iff_linked.mp hg
    have hpresent := Store.count_linked h.sound h.closed hlinked
    exact Nat.le_antisymm (h.unique _) (Nat.pos_of_ne_zero hpresent)

theorem Replays.execute {X : Contents} {c : Command} {cs : List Command}
    (h : Replays settings X o (c :: cs) s) :
    ((inMemory sink settings).execute c).Ends s
      (fun _ t => Replays settings (X.next settings c) (o \ {x | c.subject? = some x}) cs t)
      (fun _ _ => False) := by
  have hroom := h.room
  rw [List.length_cons] at hroom
  have hexecute : Executes ((inMemory sink settings).execute c) settings ∅ c s :=
    execute_executes h.sound h.closed (fun _ => h.idle) (.nil h.idle)
  refine (hexecute.and (execute_walks c s)).mono ?_ ?_
  · rintro - t ⟨ht, hsteps⟩
    have hmeaning := ht.contents
    have hsize := ht.size
    refine ⟨hsteps.sound h.sound, hsteps.closed h.closed, hsteps.failing.trans h.failing,
      ht.idle h.idle, fun c' h' => h.complete c' (List.mem_cons_of_mem _ h'), h.admits.2, ?_, ?_, ?_,
      fun x => hsteps.count_le_one (h.unique x), by omega⟩
    · rw [hmeaning]
      exact Contents.next_congr_taking h.agree h.lacks h.apart
    · intro x hx
      have hle : (X.next settings c).count x ≤ X.count x := Contents.count_next_le hx.2
      rw [h.lacks x hx.1] at hle
      exact Nat.le_zero.mp hle
    · rw [hmeaning]
      exact h.apart.next c
  · rintro e t ⟨ht, -⟩
    refine (ht.fault ⟨h.complete c List.mem_cons_self, h.ready⟩ h.failing ?_).waited h.idle
    show s.ruleGroups.length < UInt64.size
    omega

theorem executeAll_replays {X : Contents} (h : Replays settings X o commands s) :
    ((inMemory sink settings).executeAll commands).Ends s
      (fun _ t => Replays settings (X.after settings commands) (o \ Command.subjects commands) [] t)
      (fun _ _ => False) :=
  executeAll_follows (R := Replays settings) (fun _ _ _ _ _ hY => hY.execute) h

end Reconciler

/-! ## both runs -/

open Reconciler

variable {sink sink' : Sink} {settings : Settings}

/-- whatever a list of commands has made of an empty store, it makes of it again -/
theorem reconcile_replays (pageSize : Nat) {commands : List Command}
    (hroom : 2 * commands.length < UInt64.size) {notes : List Diagnostic}
    (hok : ((inMemory sink settings).reconcile commands
      ⟨{ pageSize := pageSize }, notes⟩).1.isOk = true)
    (notes' : List Diagnostic) :
    let t := ((inMemory sink settings).reconcile commands
      ⟨{ pageSize := pageSize }, notes⟩).2.session.store
    let again := (inMemory sink' settings).reconcile commands ⟨t, notes'⟩
    again.1.isOk = true ∧ again.2.session.store.snapshot = t.snapshot := by
  intro t again
  let s : Store := { pageSize := pageSize }
  have hs : s.Sound := (Store.Reachable.fresh pageSize).sound
  have hc : s.Closed := .fresh pageSize
  have hzero (x : Subject) : s.contents.count x = 0 := by
    cases x with
    | ruleGroup name => rfl
    | relyingParty name => rfl
  have hcarries : Carries settings commands s t := reconcile_good (executeAll_carries hs hc rfl) hok
  have hst : s.Steps t := reconcile_steps commands s notes
  have hts := hst.sound hs
  have htc := hst.closed hc
  have hsize : t.ruleGroups.length ≤ 0 + commands.length := hcarries.size
  have hreplays : Replays settings s.contents Set.univ commands t := by
    refine ⟨hts, htc, hst.failing, hcarries.idle, hcarries.complete, hcarries.admits, ?_,
      fun x _ => hzero x, t.contents.apart_univ, fun x => hst.count_le_one ?_, by omega⟩
    · rw [Contents.hide_univ, Contents.hide_univ]
    · rw [hzero]
      exact Nat.zero_le 1
  have hagain : again.1.isOk = true
      ∧ Replays settings (s.contents.after settings commands) (Set.univ \ Command.subjects commands) []
        again.2.session.store := by
    rcases reconcile_ends (executeAll_replays hreplays) notes' with h | ⟨e, -, h⟩
    · exact h
    · exact h.elim
  obtain ⟨hok', hend⟩ := hagain
  refine ⟨hok', Store.snapshot_congr ?_⟩
  -- neither run has left anything that no command is about
  have hcarries' : Carries settings commands t again.2.session.store :=
    reconcile_good (executeAll_carries hts htc hcarries.idle) hok'
  have hagree := hend.agree
  rw [← hcarries.contents] at hagree
  have hlacks (x : Subject) (hx : x ∈ Set.univ \ Command.subjects commands) :
      t.contents.count x = 0 := by
    rw [hcarries.contents]
    exact hend.lacks x hx
  have hlacks' (x : Subject) (hx : x ∈ Set.univ \ Command.subjects commands) :
      again.2.session.store.contents.count x = 0 := by
    refine Nat.le_zero.mp ?_
    rw [hcarries'.contents, ← hlacks x hx]
    exact Contents.count_after_le hx.2
  rw [Store.hide_of_count hts htc hlacks, Store.hide_of_count hend.sound hend.closed hlacks'] at hagree
  exact hagree.symm

/-- the rule group that the relying party is linked to in the end is taken at the start of the second
run, and comes back -/
theorem reconcile_replays_taking :
    let new : AddRelyingParty := {
      name := some "portal", realmAddress := some "urn:portal", patterns := ["^claims$"]
      removeRelatedRuleGroups := true }
    let commands : List Command :=
      [.removeRelyingParty "portal" true, .addRuleGroup (some "claims"), .addRelyingParty new]
    let first := (inMemory .keeping {}).reconcile commands ⟨{ pageSize := 50 }, []⟩
    let again := (inMemory .keeping {}).reconcile commands ⟨first.2.session.store, []⟩
    first.1.isOk = true ∧ first.2.session.store.links.length = 1 ∧ again.1.isOk = true
      ∧ again.2.session.store.snapshot = first.2.session.store.snapshot := by
  intro new commands first again
  have hok : first.1.isOk = true := by decide +kernel
  exact ⟨hok, by decide +kernel, reconcile_replays 50 (by decide) hok []⟩

end AccessControl
