import AccessControl.Proofs.Declaration
import AccessControl.Proofs.Reconcile.Runs
import AccessControl.Proofs.Store.Snapshot

/-!
# Reconciling after an interrupted run

A run that was interrupted has touched nothing but what the declaration removes or replaces, so the
next run finds its way.  Only changes that a failed commit has left in the queue can stop it, and then
they are gone and the run after it goes through (`reconcile_recovers`).

As in `reconcile_idempotent`, `hroom` says that rule groups can be counted in 64 bits.
-/

namespace AccessControl
open Reconciler

variable {sink : Sink} {settings : Settings} {s : Store}

/-! ## injected failures -/

theorem Store.fails_of_failOn {s : Store} {op op' : Operation} (h : (s.failOn op').Fails op) :
    s.Fails op ∨ op = op' := by
  unfold failOn at h
  split at h
  · exact .inl h
  · have h : op ∈ s.failing ++ [op'] := List.contains_iff_mem.mp h
    rcases List.mem_append.mp h with h | h
    · exact .inl (List.contains_iff_mem.mpr h)
    · exact .inr (List.mem_singleton.mp h)

theorem Store.foldl_failOn (s : Store) (ops : List Operation) :
    ops.foldl failOn s = { s with failing := (ops.foldl failOn s).failing } := by
  induction ops generalizing s with
  | nil => rfl
  | cons op ops ih =>
    have h : s.failOn op = { s with failing := (s.failOn op).failing } := by
      unfold failOn
      split
      · rfl
      · rfl
    rw [List.foldl_cons, ih, h]

theorem Store.fails_of_foldl {s : Store} {ops : List Operation} {op : Operation}
    (h : (ops.foldl failOn s).Fails op) : s.Fails op ∨ op ∈ ops := by
  induction ops generalizing s with
  | nil => exact .inl h
  | cons first ops ih =>
    rcases ih h with h | h
    · rcases Store.fails_of_failOn h with h | rfl
      · exact .inl h
      · exact .inr List.mem_cons_self
    · exact .inr (List.mem_cons_of_mem _ h)

/-- after a run with failures the next run has the outcome of a run without them, or it is stopped by
what the failures have left in the queue, which it empties, and the run after it has that outcome -/
theorem reconcile_recovers (hs : s.Reachable) (hc : s.Closed) (hq : s.queue = [])
    {d : Declaration} (hd : d.keepsRelated = true)
    (hroom : s.ruleGroups.length + 3 * d.commands.length < UInt64.size) {notes : List Diagnostic}
    (hok : ((inMemory sink settings).reconcile d.commands ⟨s, notes⟩).1.isOk = true)
    (ops : List Operation) (notes₁ notes₂ notes₃ : List Diagnostic) :
    let t := ((inMemory sink settings).reconcile d.commands ⟨s, notes⟩).2.session.store
    let u := ((inMemory sink settings).reconcile d.commands
      ⟨ops.foldl Store.failOn s, notes₁⟩).2.session.store
    let second := (inMemory sink settings).reconcile d.commands ⟨u.clearFailures, notes₂⟩
    let third := (inMemory sink settings).reconcile d.commands ⟨second.2.session.store, notes₃⟩
    (second.1.isOk = true ∧ second.2.session.store.snapshot = t.snapshot)
      ∨ .saveChanges ∈ s.failing ++ ops ∧ u.queue ≠ []
        ∧ (∃ fault : BatchFault, second.1 = .error (.remote fault.error))
        ∧ second.2.session.store.queue = []
        ∧ third.1.isOk = true ∧ third.2.session.store.snapshot = t.snapshot := by
  intro t u second third
  let S := Command.subjects d.commands
  let n := d.commands.length
  have hconfined : Command.Confined d.commands S := d.confined hd
  have hcarries : Carries settings d.commands s t :=
    reconcile_good (executeAll_carries hs.sound hc hq) hok
  -- up to the interruption
  let s' := ops.foldl Store.failOn s
  have hs' : s' = { s with failing := s'.failing } := s.foldl_failOn ops
  have hsound' : s'.Sound := hs.sound.congr (by rw [hs'])
  have hclosed' : s'.Closed := hc.congr (by rw [hs'])
  have hqueue' : s'.queue = [] := by rw [hs']; exact hq
  have hstart : Touches S 0 s s' := by
    have h : Touches S 0 s s := ⟨rfl, .nil hq, fun _ h => h, Nat.le_refl _⟩
    rw [hs']
    exact h.refail hs.sound _
  have hku : Keeps S n s' u := reconcile_keeps hsound' hclosed' hconfined (.nil hqueue') notes₁
  have hsu : s'.Steps u := reconcile_steps d.commands s' notes₁
  -- without the failures
  let v := u.clearFailures
  have hsv : v.Sound := (hsu.sound hsound').congr rfl
  have hcv : v.Closed := (hsu.closed hclosed').congr rfl
  have hv : Touches S (0 + n) s v := (hstart.trans hku.toTouches).refail (hsu.sound hsound') []
  have hvtracks : Tracks settings s.contents S d.commands v :=
    hcarries.tracks hconfined d.grounded hsv hcv rfl hv (by omega)
  rcases reconcile_again hvtracks notes₂ with ⟨hagain, hmeaning⟩ | ⟨e, he, hrejected⟩
  · exact .inl ⟨hagain, Store.snapshot_congr (hmeaning.trans hcarries.contents.symm)⟩
  · -- the waiting changes are gone, and the rest is as it was
    let w := second.2.session.store
    have hkw : Keeps S n v w := reconcile_keeps hsv hcv hconfined hv.within notes₂
    have hsw : v.Steps w := reconcile_steps d.commands v notes₂
    have hwtracks : Tracks settings s.contents S d.commands w :=
      hcarries.tracks hconfined d.grounded (hsw.sound hsv) (hsw.closed hcv) hsw.failing
        (hv.trans hkw.toTouches) (by omega)
    have hsave : .saveChanges ∈ s.failing ++ ops := by
      by_contra hnot
      refine hrejected.waited (hku.idle hqueue' (fun h => ?_) ?_)
      · rcases Store.fails_of_foldl h with h | h
        · exact hnot (List.mem_append_left _ (List.contains_iff_mem.mp h))
        · exact hnot (List.mem_append_right _ h)
      · have hsize := hstart.size
        omega
    obtain ⟨fault, rfl⟩ := hrejected.batch
    rcases reconcile_again hwtracks notes₃ with ⟨hthird, hmeaning⟩ | ⟨e, -, hrejected'⟩
    · exact .inr ⟨hsave, hrejected.waited, ⟨fault, he⟩, hrejected.emptied, hthird,
        Store.snapshot_congr (hmeaning.trans hcarries.contents.symm)⟩
    · exact absurd hrejected.emptied hrejected'.waited

/-- The key of the old relying party is gone when its successor is refused, and the next run goes
through.  A deletion that its commit has left in the queue stops the next run, and the one after it goes
through. -/
theorem reconcile_recovers_portal :
    (let old : RelyingParty.Draft :=
      ⟨⟨"portal", "urn:old", none, .saml2, 600, []⟩, some [1], none, none, none, none, none⟩
    let s := (({} : Store).insertRelyingParty old).2
    let d := Declaration.relyingParty .portal
    let t := ((inMemory .keeping {}).reconcile d.commands ⟨s, []⟩).2.session.store
    let interrupted := (inMemory .keeping {}).reconcile d.commands ⟨s.failOn .addRelyingParty, []⟩
    let second := (inMemory .keeping {}).reconcile d.commands
      ⟨interrupted.2.session.store.clearFailures, []⟩
    interrupted.1.isOk = false ∧ second.1.isOk = true
      ∧ second.2.session.store.snapshot = t.snapshot)
    ∧ let s := (({} : Store).insertRuleGroup ⟨"g"⟩).2
      let d := Declaration.ruleGroup { name := some "g" }
      let t := ((inMemory .keeping {}).reconcile d.commands ⟨s, []⟩).2.session.store
      let u := ((inMemory .keeping {}).reconcile d.commands
        ⟨s.failOn .saveChanges, []⟩).2.session.store
      let second := (inMemory .keeping {}).reconcile d.commands ⟨u.clearFailures, []⟩
      let third := (inMemory .keeping {}).reconcile d.commands ⟨second.2.session.store, []⟩
      second.1.isOk = false ∧ u.queue ≠ [] ∧ second.2.session.store.queue = []
        ∧ third.1.isOk = true ∧ third.2.session.store.snapshot = t.snapshot := by
  refine ⟨?refused, ?rejected⟩
  case refused =>
    intro old s d t interrupted second
    have hok : ((inMemory .keeping {}).reconcile d.commands ⟨s, []⟩).1.isOk = true := by decide +kernel
    have hs : s.Reachable := .seedRelyingParty old (.fresh 50)
    have hc : s.Closed := (Store.Closed.fresh 50).insertRelyingParty old
    have hroom : s.ruleGroups.length + 3 * d.commands.length < UInt64.size := by decide
    rcases reconcile_recovers hs hc rfl rfl hroom hok [.addRelyingParty] [] [] [] with h | h
    · exact ⟨by decide +kernel, h⟩
    · exact absurd h.1 (by decide)
  case rejected =>
    intro s d t u second third
    have hok : ((inMemory .keeping {}).reconcile d.commands ⟨s, []⟩).1.isOk = true := by decide +kernel
    have hs : s.Reachable := .seedRuleGroup ⟨"g"⟩ (.fresh 50)
    have hc : s.Closed := (Store.Closed.fresh 50).insertRuleGroup ⟨"g"⟩
    have hroom : s.ruleGroups.length + 3 * d.commands.length < UInt64.size := by decide
    have hstops : second.1.isOk = false := by decide +kernel
    rcases reconcile_recovers hs hc rfl rfl hroom hok [.saveChanges] [] [] [] with h | h
    · exact absurd (hstops.symm.trans h.1) (by decide)
    · obtain ⟨-, hwaiting, -, hemptied, hthird, hsnapshot⟩ := h
      exact ⟨hstops, hwaiting, hemptied, hthird, hsnapshot⟩

/-- a commit fails, its deletion waits, and the next run queues the same deletion once more: both are
rejected, and the second run fails too -/
theorem reconcile_stops_again :
    let s := (({} : Store).insertRuleGroup ⟨"g"⟩).2
    let d := Declaration.ruleGroup { name := some "g" }
    let u := ((inMemory .keeping {}).reconcile d.commands
      ⟨s.failOn .saveChanges, []⟩).2.session.store
    s.Reachable ∧ s.Closed ∧ s.queue = [] ∧ s.failing = [] ∧ d.keepsRelated = true
      ∧ ((inMemory .keeping {}).reconcile d.commands ⟨s, []⟩).1.isOk = true
      ∧ ((inMemory .keeping {}).reconcile d.commands ⟨u.clearFailures, []⟩).1.isOk = false := by
  intro s d u
  refine ⟨.seedRuleGroup ⟨"g"⟩ (.fresh 50), (Store.Closed.fresh 50).insertRuleGroup ⟨"g"⟩, rfl, rfl, rfl,
    by decide +kernel, by decide +kernel⟩

end AccessControl
