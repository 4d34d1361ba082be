import AccessControl.Proofs.Reconcile.Calls
import AccessControl.Proofs.Reconcile.Steps

/-!
# Outcomes of a command

A command that comes to its end has its meaning (`Carried`); one that stops has touched nothing but
what it names (`Stopped`).  Both are said for a store in whose queue changes may wait, as long as they
concern what is hidden or what the command clears.

* `Intact`       a command on its way has touched nothing outside what it names;
* `Cleared`      all that a command clears is gone, and nothing else;
* `commit_ends`  what becomes of changes that are queued and then committed.
-/

namespace AccessControl

/-- a listing of all rule groups needs no offset beyond 64 bits -/
def Store.Listable (s : Store) : Prop := s.ruleGroups.length < UInt64.size

namespace Reconciler

/-- the store rejected a batch with changes that waited before, and they do not wait any longer -/
structure Rejected (e : ReconcileError) (s t : Store) : Prop where
  batch : ∃ fault : BatchFault, e = .remote fault.error
  emptied : t.queue = []
  waited : s.queue ≠ []

/-- a command stopped: it has touched nothing outside `q`.  If it was `fair` to run it, only waiting
changes can be the reason; `taking` commands may leave changes in the queue for other reasons. -/
structure Stopped (q : Set Subject) (fair taking : Prop) (e : ReconcileError) (s t : Store) :
    Prop where
  kept : t.contents.hide q = s.contents.hide q
  within : t.QueueWithin q
  size : t.ruleGroups.length ≤ s.ruleGroups.length + 1
  idle : s.queue = [] → ¬ s.Fails .saveChanges → ¬ taking → s.Listable → t.queue = []
  fault : fair → s.failing = [] → s.Listable → Rejected e s t

/-- a command came to its end, outside `o` with the effect that it means -/
structure Carried (settings : Settings) (o : Set Subject) (c : Command) (s t : Store) : Prop where
  complete : c.Complete settings
  ready : c.Ready s.contents
  meaning : t.contents.hide o = (s.contents.next settings c).hide o
  within : t.QueueWithin o
  idle : s.queue = [] → t.queue = []
  size : t.ruleGroups.length ≤ s.ruleGroups.length + 1

/-- a command on its way: nothing outside `q` has changed, and nothing new waits -/
structure Intact (q : Set Subject) (s u : Store) : Prop where
  steps : s.Steps u
  kept : u.contents.hide q = s.contents.hide q
  within : u.QueueWithin q
  idle : s.queue = [] → u.queue = []
  groups : u.ruleGroups.Sublist s.ruleGroups

theorem Intact.size {q : Set Subject} {s u : Store} (h : Intact q s u) :
    u.ruleGroups.length ≤ s.ruleGroups.length := h.groups.length_le

/-- what is in `q` is gone, and nothing outside `o` and `q` has changed -/
structure Cleared (o q : Set Subject) (s u : Store) : Prop extends Intact (o ∪ q) s u where
  lacks : ∀ x ∈ q, u.contents.Lacks x

/-- the two ends of a command that is started with changes waiting for what is hidden in `o` or cleared
by the command -/
abbrev Executes (m : Run Store Unit) (settings : Settings) (o : Set Subject) (c : Command)
    (s : Store) : Prop :=
  m.Ends s (fun _ t => Carried settings o c s t)
    (fun e t => Stopped (o ∪ c.clears s.contents) (c.Complete settings ∧ c.Ready s.contents)
      (c.takesRuleGroups = true) e s t)

variable {o q : Set Subject} {fair taking : Prop} {s t u : Store} {e : ReconcileError}

/-- nothing happened, and there was a reason -/
theorem Stopped.refused (hq : s.QueueWithin q)
    (h : fair → s.failing = [] → s.Listable → False) : Stopped q fair taking e s s where
  kept := rfl
  within := hq
  size := Nat.le_succ _
  idle := fun hqueue _ _ _ => hqueue
  fault := fun hfair hfailing hlist => (h hfair hfailing hlist).elim

/-- a stop on the way -/
theorem Intact.stopped (h : Intact q s u) (hstop : Stopped q fair taking e u t) :
    Stopped q fair taking e s t := by
  have hlist : s.Listable → u.Listable := fun hs => Nat.lt_of_le_of_lt h.size hs
  have hfails : u.failing = s.failing := h.steps.failing
  refine ⟨hstop.kept.trans h.kept, hstop.within, ?_, ?_, ?_⟩
  · have hu := hstop.size
    have hs := h.size
    omega
  · intro hqueue hsave htaking hs
    refine hstop.idle (h.idle hqueue) ?_ htaking (hlist hs)
    unfold Store.Fails
    rw [hfails]
    exact hsave
  · intro hfair hfailing hs
    have hrejected := hstop.fault hfair (hfails.trans hfailing) (hlist hs)
    exact ⟨hrejected.batch, hrejected.emptied, fun hqueue => hrejected.waited (h.idle hqueue)⟩

theorem Intact.refl (hq : s.QueueWithin q) : Intact q s s :=
  ⟨.refl, rfl, hq, fun h => h, .refl _⟩

theorem Intact.trans (h : Intact q s u) (h' : Intact q u t) : Intact q s t :=
  ⟨h.steps.trans h'.steps, h'.kept.trans h.kept, h'.within, fun hs => h'.idle (h.idle hs),
    h'.groups.trans h.groups⟩

theorem Cleared.of_lacks (hq : s.QueueWithin (o ∪ q)) (h : ∀ x ∈ q, s.contents.Lacks x) :
    Cleared o q s s :=
  ⟨.refl hq, h⟩

/-- what waits does not concern what is gone -/
theorem Cleared.waits (h : Cleared o q s u) : u.QueueWithin o := h.within.shrink h.lacks

theorem Cleared.hide (h : Cleared o q s u) : u.contents.hide o = s.contents.hide (o ∪ q) := by
  rw [← h.kept, Contents.hide_union_lacking h.lacks]

/-- the change that is made once all is cleared is the meaning of the command -/
theorem Cleared.meaning {settings : Settings} {c : Command} (h : Cleared o (c.clears s.contents) s u)
    (ht : t.contents.hide o = (u.contents.change settings c).hide o) :
    t.contents.hide o = (s.contents.next settings c).hide o := by
  rw [ht, Contents.hide_change, h.hide, Contents.hide_next]

/-- with nothing hidden the whole contents are what the command means -/
theorem Carried.contents {settings : Settings} {c : Command} (h : Carried settings ∅ c s t) :
    t.contents = s.contents.next settings c := by
  have hmeaning := h.meaning
  rw [Contents.hide_empty, Contents.hide_empty] at hmeaning
  exact hmeaning

/-! ## queueing and committing -/

theorem queueAll_steps (s : Store) (changes : List Change) : s.Steps (s.queueAll changes) := by
  induction changes generalizing s with
  | nil =>
    rw [Store.queueAll_nil]
  | cons c changes ih =>
    have h : s.queueAll (c :: changes) = (s.queueAll [c]).queueAll changes :=
      s.queueAll_append [c] changes
    rw [h]
    exact (Store.Step.queue c).steps.trans (ih _)

theorem contents_queueAll (s : Store) (changes : List Change) :
    (s.queueAll changes).contents = s.contents :=
  Store.contents_congr rfl

theorem Stopped.queued (hs : s.Sound) (hq : s.QueueWithin q) {changes : List Change}
    (hchanges : ∀ c ∈ changes, c.Within s q)
    (hidle : s.queue = [] → ¬ s.Fails .saveChanges → ¬ taking → s.Listable → changes = [])
    (hfault : fair → s.failing = [] → s.Listable → False) :
    Stopped q fair taking e s (s.queueAll changes) where
  kept := by rw [contents_queueAll]
  within := hq.queueAll hs hchanges
  size := Nat.le_succ _
  idle := fun hqueue hsave htaking hlist => by
    rw [hidle hqueue hsave htaking hlist, Store.queueAll_nil]
    exact hqueue
  fault := fun hfair hfailing hlist => (hfault hfair hfailing hlist).elim

/-- a commit of changes within `q`, those that waited before included -/
theorem Intact.committed (hs : s.Sound) (hq : s.QueueWithin q) {changes : List Change}
    (hchanges : ∀ c ∈ changes, c.Within s q)
    (hsteps : s.Steps (s.queueAll changes).committed) :
    Intact q s (s.queueAll changes).committed where
  steps := hsteps
  kept := by
    rw [Store.hide_committed ((queueAll_steps s changes).sound hs) (hq.queueAll hs hchanges),
      contents_queueAll]
  within := .nil (Store.committed_queue _)
  idle := fun _ => Store.committed_queue _
  groups := Store.committed_ruleGroups (s.queueAll changes)

variable {sink : Sink} {settings : Settings}

/-- queued changes are committed together with those that waited before -/
theorem commit_ends (hs : s.Sound) (hq : s.QueueWithin q) {changes : List Change}
    (hchanges : ∀ c ∈ changes, c.Within s q)
    (haccept : fair → s.queue = [] → s.checkBatch changes = .ok ()) {good : Unit → Store → Prop}
    (hgood : s.checkBatch (s.queue ++ changes) = .ok () → s.Steps (s.queueAll changes).committed →
      good () (s.queueAll changes).committed) :
    (inMemory sink settings).saveChanges.Ends (s.queueAll changes) good
      (fun e t => Stopped q fair taking e s t) := by
  have hcheck (batch : List Change) : (s.queueAll changes).checkBatch batch = s.checkBatch batch :=
    Store.checkChanges_congr rfl [] [] batch
  refine saveChanges_ends (fun hc => ?_) (fun hf e => ?_) (fun fault hc => ?_)
  · exact hgood ((hcheck _).symm.trans hc)
      ((queueAll_steps s changes).tail (.commit hc))
  · have hf : s.Fails .saveChanges := hf
    refine .queued hs hq hchanges (fun _ h => absurd hf h) (fun _ hfailing _ => ?_)
    exact Store.not_fails_of_failing_nil hfailing .saveChanges hf
  · have hempty : ({ s.queueAll changes with queue := [] } : Store).contents = s.contents :=
      Store.contents_congr rfl
    refine ⟨by rw [hempty], .nil rfl, Nat.le_succ _, fun _ _ _ _ => rfl, fun hfair _ _ => ?_⟩
    refine ⟨⟨fault, rfl⟩, rfl, fun hqueue => ?_⟩
    have hc : s.checkBatch (s.queue ++ changes) = .error fault := (hcheck _).symm.trans hc
    rw [hqueue, List.nil_append, haccept hfair hqueue] at hc
    cases hc

end Reconciler
end AccessControl
