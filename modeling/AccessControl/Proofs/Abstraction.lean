import AccessControl.Proofs.Accounts.Commands
import AccessControl.Proofs.Faults

/-!
# What a run can tell of its store

A run tells no more of a store than its snapshot shows.  Two stores with the same snapshot may have given
out different identities, may page differently, and their keys and rules may differ in what a snapshot
leaves out: reconciling still comes to the same end on both, with the same events, and leaves the same
snapshot (`reconcile_abstracts`).

* `Store.Settled`          a store between two commands of a run;
* `executeNoted_settles`   a command on a settled store is carried out or changes nothing, and which of
                           the two shows in the snapshot (`fault_congr`);
* `executeAll_agrees`      two runs that have come equally far come to the same end.
-/

namespace AccessControl

/-! ## settled stores -/

namespace Store
variable {s t : Store} {n : Nat}

theorem Tidy.steps (h : s.Tidy) (hsteps : s.Steps t) : t.Tidy := by
  induction hsteps with
  | refl => exact h
  | tail _ hstep ih => exact ih.step hstep

/-- a name that is there once at most is counted once at most -/
theorem countP_le_one {α : Type} {l : List α} {name : α → String} (h : (l.map name).Nodup)
    (a : String) : l.countP (name · = a) ≤ 1 := by
  have hcount := List.nodup_iff_count_le_one.mp h a
  rw [List.count_eq_countP, List.countP_map] at hcount
  refine le_trans (List.countP_mono_left fun b _ hb => ?_) hcount
  simpa using hb

theorem Tidy.count_le_one (h : s.Tidy) (x : Subject) : s.contents.count x ≤ 1 := by
  cases x with
  | ruleGroup name =>
    rw [count_ruleGroup]
    exact countP_le_one h.ruleGroupNames name
  | relyingParty name =>
    rw [count_relyingParty]
    exact countP_le_one h.relyingPartyNames name

/-- nothing waits, nothing is made to fail, and there is room for `n` more rule groups -/
structure Settled (s : Store) (n : Nat) : Prop where
  sound : s.Sound
  closed : s.Closed
  tidy : s.Tidy
  idle : s.queue = []
  failing : s.failing = []
  room : s.ruleGroups.length + n < UInt64.size

theorem Settled.listable (h : s.Settled n) : s.Listable :=
  Nat.lt_of_le_of_lt (Nat.le_add_right _ n) h.room

theorem settled_after {pageSize : Nat} {actions : List Action}
    (hq : (after pageSize actions).queue = []) (hf : (after pageSize actions).failing = [])
    (hroom : (after pageSize actions).ruleGroups.length + n < UInt64.size) :
    (after pageSize actions).Settled n where
  sound := after_induction (fun _ _ h hs => hs.step h) (fun _ _ hs => hs.congr rfl)
    (Reachable.fresh pageSize).sound actions
  closed := (consistent_after pageSize actions).toClosed
  tidy := (consistent_after pageSize actions).toTidy
  idle := hq
  failing := hf
  room := hroom

/-- only a missing rule group can keep a command from being ready -/
theorem Settled.ready (h : s.Settled n) {c : Command}
    (hextended : ∀ g, c.extended? = some g → s.contents.count (.ruleGroup g) = 1) :
    c.Ready s.contents where
  replaced := fun x _ => h.tidy.count_le_one x
  extended := hextended
  taken := fun g ⟨_, p, hp, _, hg⟩ => by
    obtain ⟨p', -, rfl⟩ := List.mem_map.mp hp
    obtain ⟨g', hg', hname⟩ := linkedIn_exists h.sound h.closed (Multiset.mem_coe.mp hg)
    have hpos : 0 < s.ruleGroups.countP (·.name = g) :=
      List.countP_pos_iff.mpr ⟨g', hg', decide_eq_true hname⟩
    have hle := h.tidy.count_le_one (.ruleGroup g)
    rw [count_ruleGroup] at hle ⊢
    omega

/-! ### what is wrong shows -/

theorem Tidy.namesFault_eq_none (h : s.Tidy) (names : List String) : s.namesFault? names = none := by
  refine List.findSome?_eq_none_iff.mpr fun g _ => if_neg ?_
  have hle := countP_le_one h.ruleGroupNames g
  omega

theorem Tidy.relyingPartyFault_eq_none (h : s.Tidy) (name : String) (withRuleGroups : Bool) :
    s.relyingPartyFault? name withRuleGroups = none := by
  have hle := countP_le_one h.relyingPartyNames name
  have htaken (id : Id) : s.takenFault? id withRuleGroups = none := by
    unfold takenFault?
    rw [h.namesFault_eq_none, ite_self]
  unfold relyingPartyFault? ReconcileError.shared?
  rw [if_neg (by omega)]
  cases s.relyingParties.find? (·.name = name) with
  | none => rfl
  | some p => exact htaken p.id

theorem Tidy.ruleGroupFault_eq_none (h : s.Tidy) (name : String) : s.ruleGroupFault? name = none := by
  have hle := countP_le_one h.ruleGroupNames name
  exact if_neg (by omega)

/-- what keeps a command from being carried out shows in the snapshot -/
theorem Tidy.fault_congr (hs : s.Tidy) (ht : t.Tidy) (h : s.snapshot = t.snapshot) (c : Command) :
    c.fault? s = c.fault? t := by
  unfold Command.fault?
  cases c with
  | addRelyingParty new =>
    simp only [hs.relyingPartyFault_eq_none, ht.relyingPartyFault_eq_none]
  | removeRelyingParty name withRuleGroups =>
    simp only [hs.relyingPartyFault_eq_none, ht.relyingPartyFault_eq_none]
  | addRuleGroup name => simp only [hs.ruleGroupFault_eq_none, ht.ruleGroupFault_eq_none]
  | addRule ruleGroup rule =>
    rw [snapshot_eq, snapshot_eq] at h
    have hcount := Contents.count_of_snapshot h (.ruleGroup (ruleGroup.getD ""))
    rw [count_ruleGroup, count_ruleGroup] at hcount
    simp only [ruleFault?, hcount]
  | removeRuleGroup name => simp only [hs.ruleGroupFault_eq_none, ht.ruleGroupFault_eq_none]

end Store

/-! ## one command -/

namespace Reconciler
variable {sink : Sink} {settings : Settings} {s : Store} {n : Nat}

/-- a command that is not complete, or finds no rule group for its rule, stops before its first write -/
theorem execute_refuses {c : Command} (h : c.Complete settings →
      ∃ g, c.extended? = some g ∧ s.contents.count (.ruleGroup g) ≠ 1) :
    ((inMemory sink settings).execute c).Ends s (fun _ _ => False) (fun _ t => t = s) := by
  cases c with
  | addRelyingParty new =>
    show ((inMemory sink settings).addRelyingParty new).Ends s _ _
    rw [addRelyingParty_eq]
    refine .check (fun _ _ => rfl) fun d hd => ?_
    refine ((compilePatterns_ends new.patterns).mono (fun _ _ h => h) fun _ _ h => h.1).bind ?_
    rintro patterns t ⟨-, hpatterns⟩
    obtain ⟨g, hg, -⟩ := h (complete_addRelyingParty hd hpatterns)
    cases hg
  | removeRelyingParty name withRuleGroups =>
    refine .check (fun _ _ => rfl) fun name' hname => ?_
    obtain ⟨hname, hne⟩ := requiredField_eq_ok.mp hname
    cases hname
    obtain ⟨g, hg, -⟩ := h hne
    cases hg
  | addRuleGroup name =>
    refine .check (fun _ _ => rfl) fun name' hname => ?_
    obtain ⟨g, hg, -⟩ := h ⟨name', requiredField_eq_ok.mp hname⟩
    cases hg
  | addRule ruleGroup rule =>
    refine .check (fun _ _ => rfl) fun name hname => .check (fun _ _ => rfl) fun type htype => ?_
    have hname := requiredField_eq_ok.mp hname
    obtain ⟨g, hg, hcount⟩ := h ⟨⟨name, hname⟩, type, requiredField_eq_ok.mp htype⟩
    have hg : ruleGroup = some g := hg
    rw [hname.1] at hg
    cases hg
    refine findRuleGroups_bind (.check (fun _ _ => rfl) fun g hg => ?_)
    rw [← Store.length_ruleGroupsNamed, exactlyOne_eq_ok.mp hg] at hcount
    exact absurd rfl hcount
  | removeRuleGroup name =>
    refine .check (fun _ _ => rfl) fun name' hname => ?_
    obtain ⟨hname, hne⟩ := requiredField_eq_ok.mp hname
    cases hname
    obtain ⟨g, hg, -⟩ := h hne
    cases hg

/-- on a settled store a command is carried out, or it stops with its fault and changes nothing -/
theorem executeNoted_settles (h : s.Settled (n + 1)) (c : Command) :
    ((inMemory sink settings).executeNoted c).Ends s
      (fun _ t => c.fault? s = none ∧ t.contents = s.contents.next settings c ∧ t.Settled n)
      (fun e t => c.fault? s = some e ∧ t = s) := by
  apply executeNoted_ends
  have hused : s.LinksUsed := by
    intro l hl
    obtain ⟨p, hp, hid⟩ := h.closed.linkRelyingParty l hl
    exact hid ▸ h.sound.used _ (Store.relyingParty_mem_identities hp)
  have hfaults : ((inMemory sink settings).execute c).Faults s (c.fault? s) :=
    execute_faults h.sound h.closed.linkRuleGroup hused h.idle h.failing h.listable c
  by_cases hready : c.Complete settings →
      ∃ g, c.extended? = some g ∧ s.contents.count (.ruleGroup g) ≠ 1
  · refine (hfaults.and (execute_refuses hready)).mono ?_ fun _ _ h => h
    exact fun _ _ h => h.2.elim
  · push Not at hready
    obtain ⟨hcomplete, hextended⟩ := hready
    have hexecutes : Executes ((inMemory sink settings).execute c) settings ∅ c s :=
      execute_executes h.sound h.closed (fun _ => h.idle) (.nil h.idle)
    refine (hfaults.and (hexecutes.and (execute_walks c s))).mono ?_ ?_
    · rintro - t ⟨hnone, ht, hsteps⟩
      have hsize := ht.size
      have hroom := h.room
      exact ⟨hnone, ht.contents, hsteps.sound h.sound, hsteps.closed h.closed, h.tidy.steps hsteps,
        ht.idle h.idle, hsteps.failing.trans h.failing, by omega⟩
    · rintro e t ⟨-, hstopped, -⟩
      have hrejected := hstopped.fault ⟨hcomplete, h.ready hextended⟩ h.failing h.listable
      exact absurd h.idle hrejected.waited

/-! ### the two ends of a command -/

section
variable {c : Command} {p : Progress Store}

theorem executeNoted_carries (h : p.session.store.Settled (n + 1))
    (hfault : c.fault? p.session.store = none) :
    ∃ q, (inMemory sink settings).executeNoted c p = (.ok (), q)
      ∧ q.session.store.contents = p.session.store.contents.next settings c
      ∧ q.session.store.Settled n
      ∧ q.events = p.events ++ (c.account p.session.store.snapshot).events
      ∧ q.report = p.report + (c.account p.session.store.snapshot).report := by
  have hends : ((inMemory sink settings).executeNoted c).Ends p.session.store _ _ :=
    executeNoted_settles h c
  have hend := hends p rfl
  have haccount : ((inMemory sink settings).executeNoted c).Accounts p.session.store
      (c.account p.session.store.snapshot) fun _ _ => True :=
    (note_tells _).accounts_bind (execute_accounts h.sound h.closed h.tidy h.idle c).tryCatch_note
      (zero_add _).symm
  cases hrun : (inMemory sink settings).executeNoted c p with
  | mk r q =>
    rw [hrun] at hend
    cases r with
    | ok a =>
      obtain ⟨-, hcontents, hsettled⟩ := hend
      obtain ⟨-, hevents, hreport⟩ := haccount p rfl a q hrun
      exact ⟨q, rfl, hcontents, hsettled, hevents, hreport⟩
    | error e =>
      rw [hfault] at hend
      cases hend.1

/-- no write has been made, so nothing has been told -/
theorem executeNoted_stops (h : p.session.store.Settled (n + 1)) {e : ReconcileError}
    (hfault : c.fault? p.session.store = some e) :
    ∃ q, (inMemory sink settings).executeNoted c p = (.error e, q)
      ∧ q.session.store = p.session.store ∧ q.events = p.events := by
  have hends : ((inMemory sink settings).executeNoted c).Ends p.session.store _ _ :=
    executeNoted_settles h c
  have hend := hends p rfl
  have hnarrates : ((inMemory sink settings).executeNoted c).Narrates p.session.store 0 _ :=
    executeNoted_narrates h.sound c
  obtain ⟨entries, htold, -⟩ := hnarrates p rfl
  cases hrun : (inMemory sink settings).executeNoted c p with
  | mk r q =>
    rw [hrun] at hend htold
    cases r with
    | ok a =>
      rw [hfault] at hend
      cases hend.1
    | error e' =>
      obtain ⟨he, hstore⟩ := hend
      rw [hfault] at he
      cases he
      have hjournal := htold.journal
      rw [show q.session.store = p.session.store from hstore, List.self_eq_append_right] at hjournal
      have hevents := htold.events
      rw [hjournal] at hevents
      refine ⟨q, rfl, hstore, ?_⟩
      rw [hevents]
      exact (List.append_nil _).trans (List.append_nil _)

end

/-! ## runs side by side -/

/-- two runs have come equally far, as far as can be told, on settled stores -/
structure Alike (n : Nat) (p p' : Progress Store) : Prop where
  settled : p.session.store.Settled n
  settled' : p'.session.store.Settled n
  snapshot : p.session.store.snapshot = p'.session.store.snapshot
  events : p.events = p'.events
  report : p.report = p'.report

/-- two runs have come to the same end -/
structure Agree (x y : Except ReconcileError Unit × Progress Store) : Prop where
  result : x.1 = y.1
  snapshot : x.2.session.store.snapshot = y.2.session.store.snapshot
  events : x.2.events = y.2.events
  report : x.1 = .ok () → x.2.report = y.2.report

theorem executeAll_agrees {commands : List Command} {p p' : Progress Store}
    (h : Alike commands.length p p') :
    Agree ((inMemory sink settings).executeAll commands p)
      ((inMemory sink settings).executeAll commands p') := by
  induction commands generalizing p p' with
  | nil => exact ⟨rfl, h.snapshot, h.events, fun _ => h.report⟩
  | cons c cs ih =>
    have hfault := h.settled.tidy.fault_congr h.settled'.tidy h.snapshot c
    have hlater : (inMemory sink settings).executeAll (c :: cs)
        = (inMemory sink settings).executeNoted c >>= fun _ => recordReport (fun report =>
          { report with commands := report.commands + 1 }) >>= fun _ =>
            (inMemory sink settings).executeAll cs := rfl
    rw [hlater]
    cases hc : c.fault? p.session.store with
    | none =>
      obtain ⟨q, hq, hcontents, hsettled, hevents, hreport⟩ := executeNoted_carries h.settled hc
      rw [hfault] at hc
      obtain ⟨q', hq', hcontents', hsettled', hevents', hreport'⟩ := executeNoted_carries h.settled' hc
      rw [bind_of_ok hq, bind_of_ok hq']
      let count (r : Report) : Report := { r with commands := r.commands + 1 }
      have hcounted : Alike cs.length { q with report := count q.report }
          { q' with report := count q'.report } := by
        refine ⟨hsettled, hsettled', ?_, ?_, ?_⟩
        · have hsnapshot := h.snapshot
          rw [Store.snapshot_eq, Store.snapshot_eq] at hsnapshot ⊢
          rw [hcontents, hcontents']
          exact Contents.snapshot_next hsnapshot c
        · show q.events = q'.events
          rw [hevents, hevents', h.snapshot, h.events]
        · show count q.report = count q'.report
          rw [hreport, hreport', h.snapshot, h.report]
      exact ih hcounted
    | some e =>
      obtain ⟨q, hq, hstore, hevents⟩ := executeNoted_stops h.settled hc
      rw [hfault] at hc
      obtain ⟨q', hq', hstore', hevents'⟩ := executeNoted_stops h.settled' hc
      rw [bind_of_error hq, bind_of_error hq']
      refine ⟨rfl, ?_, ?_, nofun⟩
      · rw [hstore, hstore']
        exact h.snapshot
      · rw [hevents, hevents']
        exact h.events

end Reconciler

open Reconciler

/-- Both stores have been used through their calls only, from fresh stores with pages of any size, zero
included.  Rule groups can be counted in 64 bits, as in `reconcile_idempotent`. -/
theorem reconcile_abstracts {pageSize pageSize' : Nat} {actions actions' : List Action}
    (hq : (Store.after pageSize actions).queue = [])
    (hf : (Store.after pageSize actions).failing = [])
    (hq' : (Store.after pageSize' actions').queue = [])
    (hf' : (Store.after pageSize' actions').failing = [])
    (hsnapshot : (Store.after pageSize actions).snapshot = (Store.after pageSize' actions').snapshot)
    (sink : Sink) (settings : Settings) (commands : List Command)
    (hroom : (Store.after pageSize actions).ruleGroups.length + commands.length < UInt64.size)
    (notes notes' : List Diagnostic) :
    let run := (inMemory sink settings).reconcile commands ⟨Store.after pageSize actions, notes⟩
    let other := (inMemory sink settings).reconcile commands ⟨Store.after pageSize' actions', notes'⟩
    other.1 = run.1 ∧ other.2.events = run.2.events
      ∧ other.2.session.store.snapshot = run.2.session.store.snapshot := by
  intro run other
  have hlength := (Store.after pageSize actions).length_snapshot
  rw [hsnapshot, Store.length_snapshot] at hlength
  have hsettled := Store.settled_after hq hf hroom
  rw [← hlength] at hroom
  have hsettled' := Store.settled_after hq' hf' hroom
  let start (session : Session Store) := (note (starting Store.backend.name commands.length)
    >>= fun _ => (inMemory sink settings).executeAll commands) { session := session }
  have hagree : Agree (start ⟨Store.after pageSize actions, notes⟩)
      (start ⟨Store.after pageSize' actions', notes'⟩) :=
    executeAll_agrees ⟨hsettled, hsettled', hsnapshot, rfl, rfl⟩
  cases hm : start ⟨Store.after pageSize actions, notes⟩ with
  | mk r q =>
    cases hm' : start ⟨Store.after pageSize' actions', notes'⟩ with
    | mk r' q' =>
      rw [hm, hm'] at hagree
      obtain ⟨rfl, hstore, hevents, hreport⟩ := hagree
      cases r with
      | error e =>
        have hrun : run = (.error e, q) := reconcile_of_error hm
        have hother : other = (.error e, q') := reconcile_of_error hm'
        rw [hrun, hother]
        exact ⟨rfl, hevents.symm, hstore.symm⟩
      | ok a =>
        have hrun : run = (.ok q.report, _) := reconcile_of_ok hm
        have hother : other = (.ok q'.report, _) := reconcile_of_ok hm'
        rw [hrun, hother, hreport rfl]
        exact ⟨rfl, hevents.symm, hstore.symm⟩

/-- the second store has other identities and larger pages, and its key has no end -/
theorem reconcile_abstracts_portal :
    let newYear : Timestamp := ⟨⟨2030, 1, 1, 0, 0, 0, 0, 0⟩, by decide⟩
    let portal : RelyingParty.Draft :=
      ⟨⟨"portal", "urn:portal", none, .saml2, 600, []⟩, none, some [7], none, none, newYear, none⟩
    let actions : List Action := [.call (.addRelyingParty portal), .call (.addRuleGroup ⟨"claims"⟩),
      .call (.link ⟨Id.nth 1, Id.nth 3⟩), .call .saveChanges]
    let actions' : List Action := [.failOn .link, .call (.addRuleGroup ⟨"claims"⟩),
      .call (.addRelyingParty { portal with signingCertificateEnd := none }), .clearFailures,
      .call (.link ⟨Id.nth 2, Id.nth 1⟩), .call .saveChanges]
    let commands : List Command := [.addRuleGroup (some "claims"), .addRelyingParty
      { name := some "portal", realmAddress := some "urn:portal", patterns := ["claims"] }]
    let s := Store.after 0 actions
    let s' := Store.after 50 actions'
    let run := (inMemory .keeping {}).reconcile commands ⟨s, []⟩
    let other := (inMemory .keeping {}).reconcile commands ⟨s', []⟩
    s.contents ≠ s'.contents ∧ s.snapshot = s'.snapshot ∧ run.1.isOk = true
      ∧ other.1 = run.1 ∧ other.2.events = run.2.events
      ∧ other.2.session.store.snapshot = run.2.session.store.snapshot := by
  intro newYear portal actions actions' commands s s'
  have hq : s.queue = [] := by decide +kernel
  have hf : s.failing = [] := by decide +kernel
  have hq' : s'.queue = [] := by decide +kernel
  have hf' : s'.failing = [] := by decide +kernel
  have hcontents : s.contents ≠ s'.contents := by decide +kernel
  have hsnapshot : s.snapshot = s'.snapshot := by decide +kernel
  have hroom : s.ruleGroups.length + commands.length < UInt64.size := by decide +kernel
  have hok : ((inMemory .keeping {}).reconcile commands ⟨s, []⟩).1.isOk = true := by decide +kernel
  exact ⟨hcontents, hsnapshot, hok,
    reconcile_abstracts hq hf hq' hf' hsnapshot .keeping {} commands hroom [] []⟩

end AccessControl
