import AccessControl.Proofs.Contents.Sequence
import AccessControl.Proofs.Reconcile.RelyingParty
import AccessControl.Proofs.Reconcile.RuleGroup

/-!
# Runs of commands

What single commands do to a store, carried through whole runs by one induction (`executeAll_ends`).
`executeAll_follows` is that induction for a relation with the contents that the commands mean.

* `executeAll_keeps`     wherever a run stops, it has touched nothing outside the names of its commands;
* `executeAll_carries`   a run that starts with an empty queue and comes to its end means what its
                         commands mean;
* `executeAll_tracks`    a run whose commands the contents admit comes to its end, although hidden
                         resources are not as they should be and changes of them wait.
-/

namespace AccessControl.Reconciler
open Classical

variable {sink : Sink} {settings : Settings} {s t u : Store} {o : Set Subject}
  {commands : List Command}

/-! ## one command -/

theorem execute_executes (hs : s.Sound) (hc : s.Closed) {c : Command}
    (hidle : c.takesRuleGroups = true → s.queue = [])
    (hq : s.QueueWithin (o ∪ c.clears s.contents)) :
    Executes ((inMemory sink settings).execute c) settings o c s := by
  cases c with
  | addRelyingParty new => exact addRelyingParty_executes hs hc hidle hq
  | removeRelyingParty name withRuleGroups => exact removeRelyingParty_executes hs hc hidle hq
  | addRuleGroup name => exact addRuleGroup_executes hs hc hq
  | addRule ruleGroup rule => exact addRule_executes hs hq
  | removeRuleGroup name => exact removeRuleGroup_executes hs hc hq

theorem executeNoted_ends {c : Command} {good : Unit → Store → Prop}
    {bad : ReconcileError → Store → Prop} (h : ((inMemory sink settings).execute c).Ends s good bad) :
    ((inMemory sink settings).executeNoted c).Ends s good bad :=
  (note_quiet _).bind (h.tryCatch fun _ _ he => (note_quiet _).bind (.throw he))

/-! ## all commands -/

/-- what holds of the commands that are left and the store, and is kept by every command, holds at the
end -/
theorem executeAll_ends {P : List Command → Store → Prop} {bad : ReconcileError → Store → Prop}
    (hstep : ∀ c cs u, P (c :: cs) u →
      ((inMemory sink settings).execute c).Ends u (fun _ t => P cs t) bad)
    (h : P commands s) :
    ((inMemory sink settings).executeAll commands).Ends s (fun _ t => P [] t) bad := by
  induction commands generalizing s with
  | nil => exact .pure h
  | cons c cs ih =>
    exact (executeNoted_ends (hstep c cs s h)).bind fun _ _ ht =>
      (recordReport_quiet _).bind (ih ht)

/-- a run of one command -/
theorem executeAll_singleton {c : Command} {good : Store → Prop} {bad : ReconcileError → Store → Prop}
    (h : ((inMemory sink settings).execute c).Ends s (fun _ t => good t) bad) :
    ((inMemory sink settings).executeAll [c]).Ends s (fun _ t => good t) bad :=
  (executeNoted_ends h).bind fun _ _ ht => (recordReport_quiet _).bind (.pure ht)

/-- first some commands, then the others -/
theorem executeAll_append (as bs : List Command) :
    (inMemory sink settings).executeAll (as ++ bs) = (inMemory sink settings).executeAll as >>= fun _ =>
      (inMemory sink settings).executeAll bs := by
  induction as with
  | nil => rfl
  | cons a as ih =>
    show ((inMemory sink settings).executeNoted a >>= fun _ =>
      recordReport _ >>= fun _ => (inMemory sink settings).executeAll (as ++ bs)) = _
    rw [ih]
    show _ = ((inMemory sink settings).executeNoted a >>= fun _ =>
      recordReport _ >>= fun _ => (inMemory sink settings).executeAll as) >>= fun _ => _
    simp only [bind_assoc]

/-- what relates contents to a store, and is kept by every command, relates the meaning of all commands
to the store at the end -/
theorem executeAll_follows {R : Contents → Set Subject → List Command → Store → Prop} {X : Contents}
    {bad : ReconcileError → Store → Prop}
    (hstep : ∀ Y q c cs u, R Y q (c :: cs) u → ((inMemory sink settings).execute c).Ends u
      (fun _ t => R (Y.next settings c) (q \ {x | c.subject? = some x}) cs t) bad)
    (h : R X o commands s) :
    ((inMemory sink settings).executeAll commands).Ends s
      (fun _ t => R (X.after settings commands) (o \ Command.subjects commands) [] t) bad := by
  let P (cs : List Command) (u : Store) : Prop :=
    ∃ Y q, R Y q cs u ∧ Y.after settings cs = X.after settings commands
      ∧ q \ Command.subjects cs = o \ Command.subjects commands
  refine (executeAll_ends (P := P) (fun c cs u hu => ?_) ⟨X, o, h, rfl, rfl⟩).mono ?_
    fun _ _ h => h
  · obtain ⟨Y, q, hY, hafter, hq⟩ := hu
    refine (hstep Y q c cs u hY).mono (fun _ t ht => ⟨_, _, ht, hafter, ?_⟩) fun _ _ h => h
    rw [Set.sdiff_sdiff, ← Command.subjects_cons, hq]
  · rintro - t ⟨Y, q, hY, hafter, hq⟩
    rw [Command.subjects_nil, Set.sdiff_empty] at hq
    rw [← hafter, ← hq]
    exact hY

theorem executeAll_walks (commands : List Command) :
    ((inMemory sink settings).executeAll commands).Walks := fun s => by
  refine executeAll_ends (P := fun _ t => s.Steps t) (fun c cs u hu => ?_) .refl
  exact (execute_walks c u).mono (fun _ _ h => hu.trans h) fun _ _ h => hu.trans h

/-! ## wherever a run stops -/

/-- from `s` to `t` nothing outside `o` has changed, what waits is about `o`, unique names are still
unique, and there are at most `n` more rule groups -/
structure Touches (o : Set Subject) (n : Nat) (s t : Store) : Prop where
  kept : t.contents.hide o = s.contents.hide o
  within : t.QueueWithin o
  unique : ∀ x, s.contents.count x ≤ 1 → t.contents.count x ≤ 1
  size : t.ruleGroups.length ≤ s.ruleGroups.length + n

theorem Touches.trans {m n : Nat} (h : Touches o m s u) (h' : Touches o n u t) :
    Touches o (m + n) s t where
  kept := h'.kept.trans h.kept
  within := h'.within
  unique := fun x hx => h'.unique x (h.unique x hx)
  size := by
    have h := h.size
    have h' := h'.size
    omega

/-- other calls fail from now on -/
theorem Touches.refail {n : Nat} (h : Touches o n s t) (ht : t.Sound) (failing : List Operation) :
    Touches o n s { t with failing := failing } where
  kept := h.kept
  within := h.within.inherits ht ((Store.Inherits.refl t).congr rfl) rfl
  unique := h.unique
  size := h.size

/-- moreover nothing waits afterwards, unless something waited before or commits fail -/
structure Keeps (o : Set Subject) (n : Nat) (s t : Store) : Prop extends Touches o n s t where
  idle : s.queue = [] → ¬ s.Fails .saveChanges → s.ruleGroups.length + n < UInt64.size → t.queue = []

theorem execute_keeps {c : Command} (hs : s.Sound) (hc : s.Closed) (hkeeps : c.takesRuleGroups = false)
    (hsubject : ∀ x, c.subject? = some x → x ∈ o)
    (hextended : ∀ g, c.extended? = some g → .ruleGroup g ∈ o) (hq : s.QueueWithin o) :
    ((inMemory sink settings).execute c).Ends s (fun _ t => Keeps o 1 s t)
      (fun _ t => Keeps o 1 s t) := by
  have hunion : o ∪ c.clears s.contents = o := by
    rw [Contents.clears_eq hkeeps]
    exact Set.union_eq_self_of_subset_right hsubject
  have hidle : c.takesRuleGroups = true → s.queue = [] := fun h => by
    rw [hkeeps] at h
    cases h
  have hexecute : Executes ((inMemory sink settings).execute c) settings o c s :=
    execute_executes hs hc hidle (hunion.symm ▸ hq)
  refine (hexecute.and (execute_walks c s)).mono ?_ ?_
  · rintro - t ⟨h, hsteps⟩
    refine ⟨⟨?_, h.within, fun _ => hsteps.count_le_one, h.size⟩, fun hqueue _ _ => h.idle hqueue⟩
    rw [h.meaning, Contents.hide_next_eq settings hkeeps hsubject hextended]
  · rintro e t ⟨h, hsteps⟩
    rw [hunion] at h
    refine ⟨⟨h.kept, h.within, fun _ => hsteps.count_le_one, h.size⟩, fun hqueue hsave hroom =>
      h.idle hqueue hsave ?_ ?_⟩
    · rw [hkeeps]
      exact Bool.false_ne_true
    · exact Nat.lt_of_le_of_lt (Nat.le_succ _) hroom

theorem Keeps.trans {m n : Nat} (h : Keeps o m s u) (hu : s.Steps u) (h' : Keeps o n u t) :
    Keeps o (m + n) s t where
  toTouches := h.toTouches.trans h'.toTouches
  idle := fun hqueue hsave hroom => by
    have hsize := h.size
    refine h'.idle (h.idle hqueue hsave (by omega)) ?_ (by omega)
    unfold Store.Fails
    rw [hu.failing]
    exact hsave

theorem Keeps.mono {m n : Nat} (h : Keeps o m s t) (hmn : m ≤ n) : Keeps o n s t where
  kept := h.kept
  within := h.within
  unique := h.unique
  size := h.size.trans (Nat.add_le_add_left hmn _)
  idle := fun hqueue hsave hroom => h.idle hqueue hsave (by omega)

theorem executeAll_keeps (hs : s.Sound) (hc : s.Closed) (hcommands : Command.Confined commands o)
    (hq : s.QueueWithin o) :
    ((inMemory sink settings).executeAll commands).Ends s
      (fun _ t => Keeps o commands.length s t) (fun _ t => Keeps o commands.length s t) := by
  let P (cs : List Command) (u : Store) : Prop :=
    Command.Confined cs o ∧ s.Steps u ∧ cs.length ≤ commands.length
      ∧ Keeps o (commands.length - cs.length) s u
  have hend (u : Store) (h : P [] u) : Keeps o commands.length s u := h.2.2.2
  refine (executeAll_ends (P := P) (fun c cs u hu => ?_) ?_).mono (fun _ t h => hend t h)
    fun _ _ h => h
  · obtain ⟨hconfined, hsteps, hlength, hkeeps⟩ := hu
    rw [List.length_cons] at hlength
    have hexecute : ((inMemory sink settings).execute c).Ends u (fun _ t => Keeps o 1 u t)
        (fun _ t => Keeps o 1 u t) :=
      execute_keeps (hsteps.sound hs) (hsteps.closed hc) (hconfined.keeps c List.mem_cons_self)
        hconfined.subject (hconfined.extended c List.mem_cons_self) hkeeps.within
    refine (hexecute.and (execute_walks c u)).mono ?_ ?_
    · rintro - t ⟨ht, hwalk⟩
      refine ⟨hconfined.tail, hsteps.trans hwalk, by omega, ?_⟩
      refine (hkeeps.trans hsteps ht).mono ?_
      rw [List.length_cons]
      omega
    · rintro - t ⟨ht, -⟩
      refine (hkeeps.trans hsteps ht).mono ?_
      rw [List.length_cons]
      omega
  · exact ⟨hcommands, .refl, Nat.le_refl _, ⟨rfl, hq, fun _ h => h, Nat.le_add_right _ _⟩,
      fun h _ _ => h⟩

/-! ## runs that come to their end -/

/-- a run that starts with an empty queue and comes to its end -/
structure Carries (settings : Settings) (commands : List Command) (s t : Store) : Prop where
  complete : ∀ c ∈ commands, c.Complete settings
  admits : s.contents.Admits settings commands
  contents : t.contents = s.contents.after settings commands
  idle : t.queue = []
  size : t.ruleGroups.length ≤ s.ruleGroups.length + commands.length

theorem executeAll_carries (hs : s.Sound) (hc : s.Closed) (hq : s.queue = []) :
    ((inMemory sink settings).executeAll commands).Ends s
      (fun _ t => Carries settings commands s t) (fun _ _ => True) := by
  let P (cs : List Command) (u : Store) : Prop :=
    s.Steps u ∧ u.queue = []
      ∧ ((∀ c ∈ cs, c.Complete settings) → ∀ c ∈ commands, c.Complete settings)
      ∧ (u.contents.Admits settings cs → s.contents.Admits settings commands)
      ∧ u.contents.after settings cs = s.contents.after settings commands
      ∧ u.ruleGroups.length + cs.length ≤ s.ruleGroups.length + commands.length
  refine (executeAll_ends (P := P) (fun c cs u hu => ?_) ?_).mono ?_ fun _ _ h => h
  · obtain ⟨hsteps, hqueue, hcomplete, hadmits, hafter, hsize⟩ := hu
    have hexecute : Executes ((inMemory sink settings).execute c) settings ∅ c u :=
      execute_executes (hsteps.sound hs) (hsteps.closed hc) (fun _ => hqueue) (.nil hqueue)
    refine (hexecute.and (execute_walks c u)).mono ?_ fun _ _ _ => trivial
    rintro - t ⟨ht, hwalk⟩
    have hmeaning := ht.contents
    refine ⟨hsteps.trans hwalk, ht.idle hqueue, fun h => hcomplete ?_, fun h => hadmits ⟨ht.ready, ?_⟩,
      ?_, ?_⟩
    · exact List.forall_mem_cons.mpr ⟨ht.complete, h⟩
    · rw [← hmeaning]
      exact h
    · rw [hmeaning, ← hafter, Contents.after_cons]
    · have hmore := ht.size
      rw [List.length_cons] at hsize
      omega
  · exact ⟨.refl, hq, fun h => h, fun h => h, rfl, Nat.le_refl _⟩
  · rintro - t ⟨-, hqueue, hcomplete, hadmits, hafter, hsize⟩
    exact ⟨hcomplete fun _ h => absurd h List.not_mem_nil, hadmits trivial, hafter, hqueue, hsize⟩

/-! ## runs from a disturbed store -/

/-- the store is as good for the commands as contents that admit them: what is not the same is hidden
in `o`, and whatever of it the commands name they remove or replace -/
structure Tracks (settings : Settings) (X : Contents) (o : Set Subject) (commands : List Command)
    (s : Store) : Prop where
  sound : s.Sound
  closed : s.Closed
  failing : s.failing = []
  keeps : ∀ c ∈ commands, c.takesRuleGroups = false
  complete : ∀ c ∈ commands, c.Complete settings
  admits : X.Admits settings commands
  grounded : Command.Grounded o commands
  agree : X.hide o = s.contents.hide o
  single : ∀ x ∈ o, s.contents.count x ≤ 1
  within : s.QueueWithin o
  room : s.ruleGroups.length + commands.length < UInt64.size

/-- commands that went through once are ready to go through again on any store that has only been
disturbed where they remove and replace -/
theorem Carries.tracks {n : Nat} (h : Carries settings commands s t)
    (hconfined : Command.Confined commands (Command.subjects commands))
    (hgrounded : ∀ o, Command.Grounded o commands) (hs : u.Sound) (hc : u.Closed)
    (hf : u.failing = []) (hu : Touches (Command.subjects commands) n s u)
    (hroom : s.ruleGroups.length + n + commands.length < UInt64.size) :
    Tracks settings s.contents (Command.subjects commands) commands u where
  sound := hs
  closed := hc
  failing := hf
  keeps := hconfined.keeps
  complete := h.complete
  admits := h.admits
  grounded := hgrounded _
  agree := hu.kept.symm
  single := fun x hx => hu.unique x (h.admits.count_le_one hconfined.keeps hx)
  within := hu.within
  room := Nat.lt_of_le_of_lt (Nat.add_le_add_right hu.size _) hroom

theorem Tracks.execute {X : Contents} {c : Command} {cs : List Command}
    (h : Tracks settings X o (c :: cs) s) :
    ((inMemory sink settings).execute c).Ends s
      (fun _ t => Tracks settings (X.next settings c) (o \ {x | c.subject? = some x}) cs t
        ∧ (s.queue = [] → t.queue = []))
      (fun e t => Rejected e s t) := by
  have hkeeps := h.keeps c List.mem_cons_self
  have hidle : c.takesRuleGroups = true → s.queue = [] := fun htakes => by
    rw [hkeeps] at htakes
    cases htakes
  have hsub : o ⊆ o \ {x | c.subject? = some x} ∪ c.clears s.contents := by
    rw [Contents.clears_eq hkeeps, Set.sdiff_union_self]
    exact Set.subset_union_left
  have hready : c.Ready s.contents :=
    h.admits.1.congr hkeeps h.agree h.single h.grounded.1
  have hroom := h.room
  rw [List.length_cons] at hroom
  refine ((execute_executes h.sound h.closed hidle (h.within.mono hsub)).and (execute_walks c s)).mono
    ?_ ?_
  · rintro - t ⟨ht, hsteps⟩
    have hsize := ht.size
    refine ⟨⟨hsteps.sound h.sound, hsteps.closed h.closed, hsteps.failing.trans h.failing,
      fun c' h' => h.keeps c' (List.mem_cons_of_mem _ h'),
      fun c' h' => h.complete c' (List.mem_cons_of_mem _ h'), h.admits.2, h.grounded.2, ?_,
      fun x hx => hsteps.count_le_one (h.single x hx.1), ht.within, by omega⟩, ht.idle⟩
    rw [ht.meaning]
    exact Contents.next_congr settings hkeeps h.agree
  · rintro e t ⟨ht, -⟩
    refine ht.fault ⟨h.complete c List.mem_cons_self, hready⟩ h.failing ?_
    show s.ruleGroups.length < UInt64.size
    omega

/-- the run comes to its end and leaves what the commands mean, or changes that waited before are
rejected -/
theorem executeAll_tracks {X : Contents} (h : Tracks settings X o commands s) :
    ((inMemory sink settings).executeAll commands).Ends s
      (fun _ t => (X.after settings commands).hide (o \ Command.subjects commands)
        = t.contents.hide (o \ Command.subjects commands))
      (fun e t => Rejected e s t) := by
  let R (Y : Contents) (q : Set Subject) (cs : List Command) (u : Store) : Prop :=
    Tracks settings Y q cs u ∧ (s.queue = [] → u.queue = [])
  refine (executeAll_follows (R := R) (fun Y q c cs u hu => ?_) ⟨h, fun h => h⟩).mono
    (fun _ _ ht => ht.1.agree) fun _ _ h => h
  obtain ⟨hY, hqueue⟩ := hu
  refine hY.execute.mono ?_ ?_
  · rintro - t ⟨ht, hidle⟩
    exact ⟨ht, fun hs => hidle (hqueue hs)⟩
  · exact fun e t ht => ⟨ht.batch, ht.emptied, fun hs => ht.waited (hqueue hs)⟩

/-! ## the outcome of a run -/

/-- a run ends as its commands do -/
theorem reconcile_ends {good : Store → Prop} {bad : ReconcileError → Store → Prop}
    (h : ((inMemory sink settings).executeAll commands).Ends s (fun _ t => good t) bad)
    (notes : List Diagnostic) :
    (((inMemory sink settings).reconcile commands ⟨s, notes⟩).1.isOk = true
        ∧ good ((inMemory sink settings).reconcile commands ⟨s, notes⟩).2.session.store)
      ∨ ∃ e, ((inMemory sink settings).reconcile commands ⟨s, notes⟩).1 = .error e
        ∧ bad e ((inMemory sink settings).reconcile commands ⟨s, notes⟩).2.session.store := by
  have hstart : (note (starting Store.backend.name commands.length) >>= fun _ =>
      (inMemory sink settings).executeAll commands).Ends s (fun _ t => good t) bad :=
    (note_quiet _).bind h
  have hp := hstart { session := ⟨s, notes⟩ } rfl
  cases hm : (note (starting Store.backend.name commands.length) >>= fun _ =>
      (inMemory sink settings).executeAll commands) { session := ⟨s, notes⟩ } with
  | mk r q =>
    rw [hm] at hp
    cases r with
    | ok a =>
      rw [reconcile_of_ok hm]
      exact .inl ⟨rfl, hp⟩
    | error e =>
      rw [reconcile_of_error hm]
      exact .inr ⟨e, rfl, hp⟩

theorem reconcile_good {good : Store → Prop} {bad : ReconcileError → Store → Prop}
    {notes : List Diagnostic}
    (h : ((inMemory sink settings).executeAll commands).Ends s (fun _ t => good t) bad)
    (hok : ((inMemory sink settings).reconcile commands ⟨s, notes⟩).1.isOk = true) :
    good ((inMemory sink settings).reconcile commands ⟨s, notes⟩).2.session.store := by
  rcases reconcile_ends h notes with ⟨-, hgood⟩ | ⟨e, he, -⟩
  · exact hgood
  · rw [he] at hok
    cases hok

/-- however a run ends, its store comes from the store at the start by steps -/
theorem reconcile_steps (commands : List Command) (s : Store) (notes : List Diagnostic) :
    s.Steps ((inMemory sink settings).reconcile commands ⟨s, notes⟩).2.session.store := by
  rcases reconcile_ends (executeAll_walks commands s) notes with ⟨-, h⟩ | ⟨e, -, h⟩
  · exact h
  · exact h

theorem reconcile_keeps (hs : s.Sound) (hc : s.Closed) (hcommands : Command.Confined commands o)
    (hq : s.QueueWithin o) (notes : List Diagnostic) :
    Keeps o commands.length s
      ((inMemory sink settings).reconcile commands ⟨s, notes⟩).2.session.store := by
  rcases reconcile_ends (executeAll_keeps hs hc hcommands hq) notes with ⟨-, h⟩ | ⟨e, -, h⟩
  · exact h
  · exact h

/-- the same commands once more, on a store that is only disturbed where they remove and replace -/
theorem reconcile_again {X : Contents}
    (h : Tracks settings X (Command.subjects commands) commands s) (notes : List Diagnostic) :
    (((inMemory sink settings).reconcile commands ⟨s, notes⟩).1.isOk = true
        ∧ ((inMemory sink settings).reconcile commands ⟨s, notes⟩).2.session.store.contents
          = X.after settings commands)
      ∨ ∃ e, ((inMemory sink settings).reconcile commands ⟨s, notes⟩).1 = .error e
        ∧ Rejected e s ((inMemory sink settings).reconcile commands ⟨s, notes⟩).2.session.store := by
  refine (reconcile_ends (executeAll_tracks h) notes).imp_left fun ⟨hok, hcontents⟩ => ⟨hok, ?_⟩
  rw [Set.sdiff_self, Contents.hide_empty, Contents.hide_empty] at hcontents
  exact hcontents.symm

end AccessControl.Reconciler
