import AccessControl.Proofs.Store.Steps
import AccessControl.Reconcile.Basic

/-!
# How a run ends

`Ends m s good bad` says of a step of a run that starts with the store `s`: it either answers a result
and leaves a store that are `good` together, or it stops with an error and leaves a store that are
`bad` together.  Events, the report and diagnostics do not matter.

* `Ends.bind`   one step after another;
* `Ends.lift`   a check that asks nothing;
* `Ends.ask`    a call, which does to the store what the store makes of it;
* `Quiet`       a step that never stops and leaves the store alone.
-/

namespace AccessControl

/-! ## steps that may stop -/

section
variable {ε ς α β : Type} {m : ExceptT ε (StateM ς) α} {f : α → ExceptT ε (StateM ς) β} {q q' : ς}

theorem bind_of_ok {a : α} (h : m q = (.ok a, q')) : (m >>= f) q = f a q' := by
  show (match m q with | (r, q') => ExceptT.bindCont f r q') = f a q'
  rw [h]
  rfl

theorem bind_of_error {e : ε} (h : m q = (.error e, q')) : (m >>= f) q = (.error e, q') := by
  show (match m q with | (r, q') => ExceptT.bindCont f r q') = _
  rw [h]
  rfl

/-- the result of a discarded step does not matter -/
theorem discard_bind_eq {f : Unit → ExceptT ε (StateM ς) β} :
    (Functor.discard m : ExceptT ε (StateM ς) Unit) >>= f = m >>= fun _ => f () := by
  have hm : (Functor.discard m : ExceptT ε (StateM ς) Unit) = m >>= fun _ => Pure.pure () := by
    show Functor.mapConst () m = _
    rw [map_const, Function.comp_apply, ← bind_pure_comp]
  rw [hm, bind_assoc]
  rfl

theorem tryCatch_eq (m : ExceptT ε (StateM ς) α) (handle : ε → ExceptT ε (StateM ς) α) (q : ς) :
    MonadExcept.tryCatch m handle q = (fun x : Except ε α × ς =>
      (match x.1 with
        | .ok a => (Pure.pure a : ExceptT ε (StateM ς) α)
        | .error e => handle e) x.2) (m q) := rfl

end

namespace Run
variable {α β : Type}

def Ends (m : Run Store α) (s : Store) (good : α → Store → Prop)
    (bad : ReconcileError → Store → Prop) : Prop :=
  ∀ p : Progress Store, p.session.store = s →
    match m p with
    | (.ok a, q) => good a q.session.store
    | (.error e, q) => bad e q.session.store

/-- a step that never stops and leaves the store alone -/
def Quiet (m : Run Store Unit) : Prop :=
  ∀ p, ∃ q, m p = (.ok (), q) ∧ q.session.store = p.session.store

namespace Ends
variable {m : Run Store α} {f : α → Run Store β} {s : Store}
  {good good' : α → Store → Prop} {next : β → Store → Prop} {bad bad' : ReconcileError → Store → Prop}

theorem mono (h : m.Ends s good bad) (hgood : ∀ a t, good a t → good' a t)
    (hbad : ∀ e t, bad e t → bad' e t) : m.Ends s good' bad' := by
  intro p hp
  have hp := h p hp
  cases hm : m p with
  | mk r q =>
    rw [hm] at hp
    cases r with
    | ok a => exact hgood a _ hp
    | error e => exact hbad e _ hp

/-- what holds anyway holds at the end -/
theorem always {P : Prop} (h : P) : m.Ends s (fun _ _ => P) (fun _ _ => P) := by
  intro p _
  cases m p with
  | mk r q =>
    cases r with
    | ok a => exact h
    | error e => exact h

theorem and (h : m.Ends s good bad) (h' : m.Ends s good' bad') :
    m.Ends s (fun a t => good a t ∧ good' a t) (fun e t => bad e t ∧ bad' e t) := by
  intro p hp
  have h := h p hp
  have h' := h' p hp
  cases hm : m p with
  | mk r q =>
    rw [hm] at h h'
    cases r with
    | ok a => exact ⟨h, h'⟩
    | error e => exact ⟨h, h'⟩

theorem pure {a : α} (h : good a s) : (Pure.pure a : Run Store α).Ends s good bad := by
  intro p hp
  show good a p.session.store
  rw [hp]
  exact h

theorem throw {e : ReconcileError} (h : bad e s) :
    (MonadExcept.throw e : Run Store α).Ends s good bad := by
  intro p hp
  show bad e p.session.store
  rw [hp]
  exact h

theorem bind (h : m.Ends s good bad) (hf : ∀ a t, good a t → (f a).Ends t next bad) :
    (m >>= f).Ends s next bad := by
  intro p hp
  have h := h p hp
  cases hm : m p with
  | mk r q =>
    rw [hm] at h
    cases r with
    | ok a =>
      rw [bind_of_ok hm]
      exact hf a _ h q rfl
    | error e =>
      rw [bind_of_error hm]
      exact h

/-- an error can be handled by another step -/
theorem tryCatch {handle : ReconcileError → Run Store α} (h : m.Ends s good bad)
    (hhandle : ∀ e t, bad e t → (handle e).Ends t good bad') :
    (MonadExcept.tryCatch m handle).Ends s good bad' := by
  intro p hp
  have h := h p hp
  rw [tryCatch_eq]
  cases hm : m p with
  | mk r q =>
    rw [hm] at h
    cases r with
    | ok a => exact h
    | error e => exact hhandle e _ h q rfl

theorem lift {x : Except ReconcileError α} (hgood : ∀ a, x = .ok a → good a s)
    (hbad : ∀ e, x = .error e → bad e s) : (liftM x : Run Store α).Ends s good bad := by
  cases x with
  | ok a => exact pure (hgood a rfl)
  | error e => exact throw (hbad e rfl)

/-- a check and what comes after it -/
theorem check {x : Except ReconcileError α} (hbad : ∀ e, x = .error e → bad e s)
    (hf : ∀ a, x = .ok a → (f a).Ends s next bad) :
    ((liftM x : Run Store α) >>= f).Ends s next bad := by
  have h : (liftM x : Run Store α).Ends s (fun a t => x = .ok a ∧ t = s) bad :=
    lift (fun _ hx => ⟨hx, rfl⟩) hbad
  exact h.bind fun a _ ht => ht.2 ▸ hf a ht.1

theorem discard_bind {f : Unit → Run Store β} (h : (m >>= fun _ => f ()).Ends s next bad) :
    ((Functor.discard m : Run Store Unit) >>= f).Ends s next bad := by
  rw [discard_bind_eq]
  exact h

end Ends

theorem Quiet.bind {m : Run Store Unit} (hm : m.Quiet) {f : Unit → Run Store β} {s : Store}
    {good : β → Store → Prop} {bad : ReconcileError → Store → Prop}
    (hf : (f ()).Ends s good bad) : (m >>= f).Ends s good bad := by
  intro p hp
  obtain ⟨q, hq, hs⟩ := hm p
  rw [bind_of_ok hq]
  exact hf q (hs.trans hp)

theorem Quiet.ends {m : Run Store Unit} (hm : m.Quiet) {s : Store}
    {good : Unit → Store → Prop} {bad : ReconcileError → Store → Prop} (h : good () s) :
    m.Ends s good bad := by
  intro p hp
  obtain ⟨q, hq, hs⟩ := hm p
  rw [hq]
  show good () q.session.store
  rw [hs, hp]
  exact h

end Run

/-! ## the steps of a run -/

namespace Reconciler

/-! a run ends as its commands do -/

section
variable {σ : Type} {r : Reconciler σ} {commands : List Command} {session : Session σ}
  {q : Progress σ}

theorem reconcile_of_ok (h : (note (starting r.backend.name commands.length) >>= fun _ =>
    r.executeAll commands) { session := session } = (.ok (), q)) :
    r.reconcile commands session = (.ok q.report, { q with session :=
      ⟨q.session.store, q.session.notes ++ [completed r.backend.name q.report]⟩ }) := by
  unfold reconcile run
  rw [← bind_assoc, bind_of_ok h]
  rfl

theorem reconcile_of_error {e : ReconcileError}
    (h : (note (starting r.backend.name commands.length) >>= fun _ =>
      r.executeAll commands) { session := session } = (.error e, q)) :
    r.reconcile commands session = (.error e, q) := by
  unfold reconcile run
  rw [← bind_assoc, bind_of_error h]

end

/-- against the store in memory -/
abbrev inMemory (sink : Sink) (settings : Settings) : Reconciler Store :=
  ⟨Store.backend, sink, settings⟩

theorem note_quiet (d : Diagnostic) : (note (σ := Store) d).Quiet := fun _ => ⟨_, rfl, rfl⟩

theorem emit_quiet (r : Reconciler Store) (e : Event) : (r.emit e).Quiet := fun _ => ⟨_, rfl, rfl⟩

theorem recordReport_quiet (change : Report → Report) :
    (recordReport (σ := Store) change).Quiet := fun _ => ⟨_, rfl, rfl⟩

theorem recordCreated_quiet (label : String) : (recordCreated (σ := Store) label).Quiet :=
  recordReport_quiet _

theorem recordDeleted_quiet (label : String) : (recordDeleted (σ := Store) label).Quiet :=
  recordReport_quiet _

theorem recordLinked_quiet (label : String) : (recordLinked (σ := Store) label).Quiet :=
  recordReport_quiet _

variable {sink : Sink} {settings : Settings} {s : Store} {β : Type}
  {good : β → Store → Prop} {bad : ReconcileError → Store → Prop}

theorem ask_ends {c : Call} {good : c.Answer → Store → Prop}
    (hgood : ∀ a t, Store.answer c s = (.ok a, t) → good a t)
    (hbad : ∀ e t, Store.answer c s = (.error e, t) → bad (.remote e) t) :
    ((inMemory sink settings).ask c).Ends s good bad := by
  intro p hp
  subst hp
  unfold ask remote Backend.ask Backend.settle
  generalize h : (inMemory sink settings).backend.answer c p.session.store = x
  obtain ⟨r, t⟩ := x
  cases r with
  | ok a => exact hgood a t h
  | error e => exact hbad e t h

end Reconciler
end AccessControl
