import AccessControl.Proofs.Reconcile.Ends
import AccessControl.Store.Listing

/-!
# Plans

What a run does next depends on nothing but what its calls have come to so far.  A `Plan` has this
written down as a tree, and what is done along it against some backend is a `Trace`.

* `Plan.trace`      the calls with their outcomes and the events, in order, and how it ends;
* `Run.Follows`     a step does against every backend what a plan says;
* `Plan.Always`     a property of all traces, and no trace goes on after a call that failed;
* `Run.Planned`     a step follows some plan that always has a property.
-/

namespace AccessControl

/-- what a run does that its backend or its sink can tell -/
inductive Act where
  | event (e : Event)
  | call (c : Call) (outcome : Except StoreError c.Answer)

namespace Act

def event? : Act → Option Event
  | .event e => some e
  | .call _ _ => none

def call? : Act → Option Call
  | .event _ => none
  | .call c _ => some c

def error? : Act → Option StoreError
  | .call _ (.error e) => some e
  | _ => none

end Act

inductive Plan (α : Type) where
  | done (a : α)
  | stop (e : ReconcileError)
  | emit (e : Event) (next : Plan α)
  | call (c : Call) (next : Except StoreError c.Answer → Plan α)
  /-- how many pages a listing may have -/
  | measure (next : Nat → Plan α)

structure Trace (σ α : Type) where
  acts : List Act
  result : Except ReconcileError α
  store : σ

namespace Plan
variable {σ α β : Type}

def trace (b : Backend σ) : Plan α → σ → Trace σ α
  | .done a, s => ⟨[], .ok a, s⟩
  | .stop e, s => ⟨[], .error e, s⟩
  | .emit e next, s =>
    let t := next.trace b s
    { t with acts := .event e :: t.acts }
  | .call c next, s =>
    let (outcome, s') := b.answer c s
    let t := (next outcome).trace b s'
    { t with acts := .call c outcome :: t.acts }
  | .measure next, s => (next (b.longestListing s)).trace b s

def bind (f : α → Plan β) : Plan α → Plan β
  | .done a => f a
  | .stop e => .stop e
  | .emit e next => .emit e (bind f next)
  | .call c next => .call c fun outcome => bind f (next outcome)
  | .measure next => .measure fun n => bind f (next n)

section
variable {b : Backend σ} {f : α → Plan β} {plan : Plan α} {s : σ}

theorem trace_call {c : Call} {next : Except StoreError c.Answer → Plan α}
    {outcome : Except StoreError c.Answer} {s' : σ} (h : b.answer c s = (outcome, s')) :
    (Plan.call c next).trace b s = { (next outcome).trace b s' with
      acts := .call c outcome :: ((next outcome).trace b s').acts } := by
  simp only [trace, h]

theorem trace_bind_of_ok {a : α} (h : (plan.trace b s).result = .ok a) :
    (plan.bind f).trace b s = { (f a).trace b (plan.trace b s).store with
      acts := (plan.trace b s).acts ++ ((f a).trace b (plan.trace b s).store).acts } := by
  induction plan generalizing s with
  | done a' =>
    cases h
    rfl
  | stop e => cases h
  | emit e next ih =>
    simp only [bind, trace, ih h, List.cons_append]
  | call c next ih => simp only [bind, trace, ih _ h, List.cons_append]
  | measure next ih => exact ih _ h

theorem trace_bind_of_error {e : ReconcileError} (h : (plan.trace b s).result = .error e) :
    (plan.bind f).trace b s = ⟨(plan.trace b s).acts, .error e, (plan.trace b s).store⟩ := by
  induction plan generalizing s with
  | done a => cases h
  | stop e' =>
    cases h
    rfl
  | emit e' next ih => simp only [bind, trace, ih h]
  | call c next ih => simp only [bind, trace, ih _ h]
  | measure next ih => exact ih _ h

end

/-- a backend that keeps its calls keeps those of the trace -/
theorem trace_recorded (b : Backend σ) (plan : Plan α) (s : σ) (calls : List Call) :
    let t := plan.trace b s
    plan.trace b.recorded (s, calls)
      = ⟨t.acts, t.result, t.store, calls ++ t.acts.filterMap Act.call?⟩ := by
  induction plan generalizing s calls with
  | done a =>
    show Trace.mk _ _ _ = Trace.mk _ _ (_, calls ++ [])
    rw [List.append_nil]
    rfl
  | stop e =>
    show Trace.mk _ _ _ = Trace.mk _ _ (_, calls ++ [])
    rw [List.append_nil]
    rfl
  | emit e next ih =>
    simp only [trace, ih]
    rfl
  | call c next ih =>
    have hanswer : b.recorded.answer c (s, calls)
        = ((b.answer c s).1, (b.answer c s).2, calls ++ [c]) := rfl
    simp only [trace, hanswer, ih, List.append_assoc]
    rfl
  | measure next ih => exact ih _ s calls

end Plan

/-! ## steps that follow a plan -/

/-- from `p` on this happened -/
structure Trace.LeadsTo {σ α : Type} (t : Trace σ α) (p : Progress σ)
    (x : Except ReconcileError α × Progress σ) : Prop where
  result : x.1 = t.result
  store : x.2.session.store = t.store
  events : x.2.events = p.events ++ t.acts.filterMap Act.event?

namespace Run

/-- a step that can be taken against any backend -/
abbrev Anywhere (α : Type) := (σ : Type) → Backend σ → Run σ α

variable {α β : Type}

def Follows (m : Anywhere α) (plan : Plan α) : Prop :=
  ∀ (σ : Type) (b : Backend σ) (p : Progress σ),
    (plan.trace b p.session.store).LeadsTo p (m σ b p)

/-- a step that neither calls nor emits anything -/
def Unseen (m : Anywhere Unit) : Prop :=
  ∀ (σ : Type) (b : Backend σ) (p : Progress σ), ∃ q, m σ b p = (.ok (), q)
    ∧ q.session.store = p.session.store ∧ q.events = p.events

namespace Follows
variable {m : Anywhere α} {f : α → Anywhere β} {plan : Plan α} {plans : α → Plan β}

theorem pure (a : α) : Follows (fun _ _ => Pure.pure a) (.done a) := by
  intro σ b p
  exact ⟨rfl, rfl, (List.append_nil _).symm⟩

theorem stop (e : ReconcileError) :
    Follows (fun _ _ => (MonadExcept.throw e : Run _ α)) (.stop e) := by
  intro σ b p
  exact ⟨rfl, rfl, (List.append_nil _).symm⟩

theorem bind (hm : Follows m plan) (hf : ∀ a, Follows (f a) (plans a)) :
    Follows (fun σ b => m σ b >>= fun a => f a σ b) (plan.bind plans) := by
  intro σ b p
  obtain ⟨hresult, hstore, hevents⟩ := hm σ b p
  show Trace.LeadsTo _ p ((m σ b >>= fun a => f a σ b) p)
  cases hrun : m σ b p with
  | mk r q =>
    rw [hrun] at hresult hstore hevents
    cases r with
    | error e =>
      rw [bind_of_error hrun, Plan.trace_bind_of_error hresult.symm]
      exact ⟨rfl, hstore, hevents⟩
    | ok a =>
      rw [bind_of_ok hrun, Plan.trace_bind_of_ok hresult.symm]
      have hq : q.session.store = (plan.trace b p.session.store).store := hstore
      obtain ⟨hresult', hstore', hevents'⟩ := hf a σ b q
      rw [hq] at hresult' hstore' hevents'
      refine ⟨hresult', hstore', ?_⟩
      rw [hevents', show q.events = _ from hevents, List.filterMap_append, List.append_assoc]

theorem unseen {m : Anywhere Unit} (h : Unseen m) : Follows m (.done ()) := by
  intro σ b p
  obtain ⟨q, hq, hstore, hevents⟩ := h σ b p
  rw [hq]
  exact ⟨rfl, hstore, hevents.trans (List.append_nil _).symm⟩

/-- an error can be noted -/
theorem tryCatch_note {d : ReconcileError → Diagnostic} (h : Follows m plan) :
    Follows (fun σ b => tryCatch (m σ b) fun e => do
      Reconciler.note (d e)
      throw e) plan := by
  intro σ b p
  have hp := h σ b p
  show Trace.LeadsTo _ p (tryCatch (m σ b) _ p)
  rw [tryCatch_eq]
  cases hm : m σ b p with
  | mk r q =>
    rw [hm] at hp
    cases r with
    | ok a => exact hp
    | error e => exact ⟨hp.result, hp.store, hp.events⟩

end Follows
end Run

/-! ## what always holds of a plan -/

/-- the first call that fails is the last act, and its error is how the run ends -/
inductive Heeds {α : Type} : Except ReconcileError α → List Act → Prop where
  | nil {r : Except ReconcileError α} : Heeds r []
  | last {act : Act} {e : StoreError} : act.error? = some e → Heeds (.error (.remote e)) [act]
  | cons {r : Except ReconcileError α} {act : Act} {acts : List Act} : act.error? = none →
    Heeds r acts → Heeds r (act :: acts)

namespace Heeds
variable {α β : Type} {r : Except ReconcileError α} {acts acts' : List Act}

theorem clean {a : α} (h : Heeds (.ok a) acts) : ∀ act ∈ acts, act.error? = none := by
  generalize hr : Except.ok a = r at h
  induction h with
  | nil => exact fun _ h => absurd h List.not_mem_nil
  | last he => cases hr
  | cons hact _ ih => exact List.forall_mem_cons.mpr ⟨hact, ih hr⟩

theorem append (hclean : ∀ act ∈ acts, act.error? = none) (h : Heeds r acts') :
    Heeds r (acts ++ acts') := by
  induction acts with
  | nil => exact h
  | cons act acts ih =>
    obtain ⟨hact, hclean⟩ := List.forall_mem_cons.mp hclean
    exact .cons hact (ih hclean)

theorem of_error {e : ReconcileError} (h : Heeds (.error e : Except ReconcileError α) acts) :
    Heeds (.error e : Except ReconcileError β) acts := by
  generalize hr : Except.error e = r at h
  induction h with
  | nil => exact .nil
  | last he =>
    cases hr
    exact .last he
  | cons hact _ ih => exact .cons hact (ih hr)

theorem last_of_error {before after : List Act} {act : Act} {e : StoreError}
    (h : Heeds r (before ++ act :: after)) (he : act.error? = some e) :
    after = [] ∧ r = .error (.remote e) := by
  induction before with
  | nil =>
    cases h with
    | last he' =>
      cases he.symm.trans he'
      exact ⟨rfl, rfl⟩
    | cons hact _ => cases he.symm.trans hact
  | cons act' before ih =>
    generalize hacts : (act' :: before) ++ act :: after = acts at h
    cases h with
    | nil => cases hacts
    | last _ => cases before <;> cases hacts
    | cons _ h =>
      cases hacts
      exact ih h

end Heeds

namespace Plan
variable {α β : Type}

/-- on whatever backend -/
def Always (plan : Plan α) (S : Except ReconcileError α → List Act → Prop) : Prop :=
  ∀ (σ : Type) (b : Backend σ) (s : σ), Heeds (plan.trace b s).result (plan.trace b s).acts
    ∧ S (plan.trace b s).result (plan.trace b s).acts

variable {plan : Plan α} {f : α → Plan β} {S : Except ReconcileError α → List Act → Prop}
  {S' : Except ReconcileError β → List Act → Prop}

theorem Always.mono {T : Except ReconcileError α → List Act → Prop} (h : plan.Always S)
    (hST : ∀ r acts, S r acts → T r acts) : plan.Always T :=
  fun σ b s => ⟨(h σ b s).1, hST _ _ (h σ b s).2⟩

theorem Always.bind (h : plan.Always S)
    (hf : ∀ a, (f a).Always fun r acts' => ∀ acts, S (.ok a) acts → S' r (acts ++ acts'))
    (herror : ∀ e acts, S (.error e) acts → S' (.error e) acts) : (plan.bind f).Always S' := by
  intro σ b s
  obtain ⟨hheeds, hS⟩ := h σ b s
  cases hr : (plan.trace b s).result with
  | error e =>
    rw [hr] at hheeds hS
    rw [trace_bind_of_error hr]
    exact ⟨hheeds.of_error, herror e _ hS⟩
  | ok a =>
    rw [hr] at hheeds hS
    rw [trace_bind_of_ok hr]
    obtain ⟨hheeds', hS'⟩ := hf a σ b (plan.trace b s).store
    exact ⟨.append hheeds.clean hheeds', hS' _ hS⟩

end Plan

/-! ## planned steps -/

namespace Run
variable {α β : Type}

def Planned (m : Anywhere α) (S : Except ReconcileError α → List Act → Prop) : Prop :=
  ∃ plan, Follows m plan ∧ plan.Always S

namespace Planned
variable {m : Anywhere α} {f : α → Anywhere β} {S T : Except ReconcileError α → List Act → Prop}
  {S' : Except ReconcileError β → List Act → Prop}

theorem mono (h : Planned m S) (hST : ∀ r acts, S r acts → T r acts) : Planned m T := by
  obtain ⟨plan, hfollows, halways⟩ := h
  exact ⟨plan, hfollows, halways.mono hST⟩

theorem pure {a : α} (h : S (.ok a) []) : Planned (fun _ _ => Pure.pure a) S :=
  ⟨.done a, .pure a, fun _ _ _ => ⟨.nil, h⟩⟩

theorem bind (hm : Planned m S)
    (hf : ∀ a, Planned (f a) fun r acts' => ∀ acts, S (.ok a) acts → S' r (acts ++ acts'))
    (herror : ∀ e acts, S (.error e) acts → S' (.error e) acts) :
    Planned (fun σ b => m σ b >>= fun a => f a σ b) S' := by
  obtain ⟨plan, hplan, halways⟩ := hm
  choose plans hplans halways' using hf
  exact ⟨plan.bind plans, hplan.bind hplans, halways.bind halways' herror⟩

/-- the first step is a check -/
theorem check {x : Except ReconcileError α} (herror : ∀ e, x = .error e → S' (.error e) [])
    (hf : ∀ a, x = .ok a → Planned (f a) S') :
    Planned (fun σ b => (liftM x : Run σ α) >>= fun a => f a σ b) S' := by
  cases x with
  | ok a => exact hf a rfl
  | error e => exact ⟨.stop e, .stop e, fun _ _ _ => ⟨.nil, herror e rfl⟩⟩

/-- the first step does nothing that can be seen -/
theorem mute_bind (hm : Planned m fun _ acts => acts = []) (hf : ∀ a, Planned (f a) S')
    (herror : ∀ e, S' (.error e) []) : Planned (fun σ b => m σ b >>= fun a => f a σ b) S' := by
  refine hm.bind (fun a => (hf a).mono ?_) ?_
  · rintro r acts h _ rfl
    exact h
  · rintro e _ rfl
    exact herror e

/-- checks one after another -/
theorem checks {check : α → Except ReconcileError β} (l : List α) :
    Planned (fun σ _ => l.mapM fun a => (liftM (check a) : Run σ β)) fun _ acts => acts = [] := by
  induction l with
  | nil =>
    simp only [List.mapM_nil]
    exact pure rfl
  | cons a l ih =>
    simp only [List.mapM_cons]
    refine Planned.check (fun _ _ => rfl) fun b _ => ?_
    exact ih.mute_bind (fun bs => pure rfl) fun _ => rfl

theorem unseen {m : Anywhere Unit} (hm : Unseen m) {S : Except ReconcileError Unit → List Act → Prop}
    (h : S (.ok ()) []) : Planned m S :=
  ⟨.done (), .unseen hm, fun _ _ _ => ⟨.nil, h⟩⟩

end Planned
end Run

/-! ## the steps of a run -/

namespace Reconciler
open Run

/-- whatever the backend -/
abbrev against (sink : Sink) (settings : Settings) {σ : Type} (b : Backend σ) : Reconciler σ :=
  ⟨b, sink, settings⟩

variable {sink : Sink} {settings : Settings}

theorem note_unseen (d : (σ : Type) → Backend σ → Diagnostic) : Unseen fun σ b => note (d σ b) :=
  fun _ _ _ => ⟨_, rfl, rfl, rfl⟩

theorem recordReport_unseen (change : Report → Report) : Unseen fun _ _ => recordReport change :=
  fun _ _ _ => ⟨_, rfl, rfl, rfl⟩

theorem recordCreated_unseen (label : String) : Unseen fun _ _ => recordCreated label :=
  recordReport_unseen _

theorem recordDeleted_unseen (label : String) : Unseen fun _ _ => recordDeleted label :=
  recordReport_unseen _

theorem recordLinked_unseen (label : String) : Unseen fun _ _ => recordLinked label :=
  recordReport_unseen _

theorem emit_planned {e : Event} {S : Except ReconcileError Unit → List Act → Prop}
    (h : S (.ok ()) [.event e]) : Planned (fun _ b => (against sink settings b).emit e) S := by
  refine ⟨.emit e (.done ()), ?_, fun _ _ _ => ⟨.cons rfl .nil, h⟩⟩
  intro σ b p
  exact ⟨rfl, rfl, rfl⟩

/-- a call was all there was -/
inductive Answered (c : Call) : Except ReconcileError c.Answer → List Act → Prop where
  | ok (a : c.Answer) : Answered c (.ok a) [.call c (.ok a)]
  | error (e : StoreError) : Answered c (.error (.remote e)) [.call c (.error e)]

theorem ask_planned (c : Call) : Planned (fun _ b => remote (b.ask c)) (Answered c) := by
  let next (outcome : Except StoreError c.Answer) : Plan c.Answer :=
    match outcome with
    | .ok a => .done a
    | .error e => .stop (.remote e)
  refine ⟨.call c next, ?_, ?_⟩
  · intro σ b p
    show Trace.LeadsTo _ p (remote (b.settle c) p)
    unfold remote Backend.settle
    cases h : b.answer c p.session.store with
    | mk outcome s =>
      rw [Plan.trace_call h]
      cases outcome with
      | ok a => exact ⟨rfl, rfl, (List.append_nil _).symm⟩
      | error e => exact ⟨rfl, rfl, (List.append_nil _).symm⟩
  · intro σ b s
    cases h : b.answer c s with
    | mk outcome s =>
      rw [Plan.trace_call h]
      cases outcome with
      | ok a => exact ⟨.cons rfl .nil, .ok a⟩
      | error e => exact ⟨.last rfl, .error e⟩

theorem remote_bind {σ α β : Type} (m : Client σ α) (f : α → Client σ β) :
    remote (m >>= f) = remote m >>= fun a => remote (f a) := by
  funext p
  cases hm : m p.session with
  | mk r session =>
    cases r with
    | ok a =>
      have hremote : remote m p = (.ok a, { p with session := session }) := by
        unfold remote
        rw [hm]
      rw [bind_of_ok hremote]
      unfold remote
      rw [bind_of_ok hm]
    | error e =>
      have hremote : remote m p = (.error (.remote e), { p with session := session }) := by
        unfold remote
        rw [hm]
      rw [bind_of_error hremote]
      unfold remote
      rw [bind_of_error hm]

/-- a page of its own, then the pages after it -/
theorem remote_pages {σ : Type} (b : Backend σ) (fuel : Nat) {cursor : Cursor}
    (h : cursor ≠ .done) : remote (b.pages (fuel + 1) cursor) = (do
      let page : Page RuleGroup ← remote (b.ask (.listRuleGroups cursor.token?))
      let rest ← remote (b.pages fuel page.next)
      return page.items ++ rest) := by
  have hpages : b.pages (fuel + 1) cursor = (do
      let page : Page RuleGroup ← b.ask (.listRuleGroups cursor.token?)
      let rest ← b.pages fuel page.next
      return page.items ++ rest) := by
    cases cursor with
    | done => exact absurd rfl h
    | start => rfl
    | after token => rfl
  rw [hpages, remote_bind]
  refine bind_congr fun page => ?_
  rw [remote_bind]
  rfl

/-- nothing but pages of rule groups is asked for -/
def OnlyLists (acts : List Act) : Prop :=
  ∀ act ∈ acts, ∃ start, act.call? = some (.listRuleGroups start)

theorem OnlyLists.nil : OnlyLists [] := fun _ h => absurd h List.not_mem_nil

theorem OnlyLists.append {acts acts' : List Act} (h : OnlyLists acts) (h' : OnlyLists acts') :
    OnlyLists (acts ++ acts') := by
  intro act hact
  rcases List.mem_append.mp hact with hact | hact
  · exact h act hact
  · exact h' act hact

theorem pages_planned (fuel : Nat) (cursor : Cursor) :
    Planned (fun _ b => remote (b.pages fuel cursor)) fun _ acts => OnlyLists acts := by
  induction fuel generalizing cursor with
  | zero => cases cursor <;> exact .pure .nil
  | succ fuel ih =>
    by_cases h : cursor = .done
    · subst h
      exact .pure .nil
    · simp only [remote_pages _ fuel h]
      have hask : Planned (fun _ b => remote (b.ask (.listRuleGroups cursor.token?)))
          fun _ acts => OnlyLists acts := by
        refine (ask_planned _).mono ?_
        rintro _ _ (_ | _)
        · exact List.forall_mem_singleton.mpr ⟨_, rfl⟩
        · exact List.forall_mem_singleton.mpr ⟨_, rfl⟩
      refine hask.bind (fun page => ?_) fun _ _ h => h
      refine (ih page.next).bind (fun rest => .pure fun acts hacts before hbefore => ?_)
        fun _ acts hacts before hbefore => hbefore.append hacts
      exact hbefore.append (hacts.append .nil)

theorem ruleGroups_planned :
    Planned (fun _ b => remote b.ruleGroups) fun _ acts => OnlyLists acts := by
  choose plans hplans halways using fun n => pages_planned n .start
  exact ⟨.measure plans, fun σ b p => hplans _ σ b p, fun σ b s => halways _ σ b s⟩

end Reconciler
end AccessControl
