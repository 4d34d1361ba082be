import AccessControl.Proofs.Reconcile.Replacement

/-!
# Checks before the first write

A command looks and checks before it writes.  Some of its errors can only come from there: then nothing
has been written, queued, or told.  The same checks are made again later, but they do not fail then.
The relying party that was just created is the only one of its name when its links are queued,
whatever the store holds besides.

* `Command.checksFor`     the errors that come before the first write of a command;
* `Run.Looks`             a step that asks and checks only;
* `Run.Forestalls`        a step that stops for one of some errors has not done anything;
* `createParty_linkAll_late`   why the lookups for the links do not fail;
* `reconcile_forestalls`  what is left of a run that stops like this.
-/

namespace AccessControl

/-! ## early errors -/

/-- the command is about a rule group, not about a relying party -/
def Command.forRuleGroup : Command → Bool
  | .addRelyingParty _ => false
  | .removeRelyingParty _ _ => false
  | .addRuleGroup _ => true
  | .addRule _ _ => true
  | .removeRuleGroup _ => true

/-- what a command lacks, a text that is no pattern, and a name that is shared among relying parties;
for a command about a rule group, any name that is shared or missing -/
def Command.checksFor (c : Command) : ReconcileError → Bool
  | .configuration _ => true
  | .invalidPattern _ => true
  | .preconditionViolation kind _ _ => kind = .relyingParty || c.forRuleGroup
  | .remote _ => false

theorem Command.checksFor_remote {c : Command} {e : ReconcileError} (h : e.isRemote = true) :
    c.checksFor e = false := by
  cases e with
  | remote e => rfl
  | preconditionViolation kind name found => cases h
  | configuration reason => cases h
  | invalidPattern pattern => cases h

/-! ## steps before the first write -/

namespace Run
variable {α β : Type} {m : Run Store α} {f : α → Run Store β} {early : ReconcileError → Bool}

/-- a step that asks and checks, and leaves everything as it is -/
def Looks (m : Run Store α) : Prop := ∀ p, (m p).2 = p

/-- if the step stops for one of these errors it has not done anything -/
def Forestalls (m : Run Store α) (early : ReconcileError → Bool) : Prop :=
  ∀ p e q, m p = (.error e, q) → early e = true → q = p

/-- whatever stops the step, it is none of these errors -/
def Late (m : Run Store α) (s : Store) (early : ReconcileError → Bool) : Prop :=
  m.Ends s (fun _ _ => True) (fun e _ => early e = false)

namespace Looks

theorem pure (a : α) : (Pure.pure a : Run Store α).Looks := fun _ => rfl

theorem lift (x : Except ReconcileError α) : (liftM x : Run Store α).Looks := by
  intro p
  cases x with
  | ok a => rfl
  | error e => rfl

theorem bind (hm : m.Looks) (hf : ∀ a, (f a).Looks) : (m >>= f).Looks := by
  intro p
  have hp := hm p
  cases hrun : m p with
  | mk r q =>
    rw [hrun] at hp
    cases r with
    | error e =>
      rw [bind_of_error hrun]
      exact hp
    | ok a =>
      rw [bind_of_ok hrun, hf a q]
      exact hp

theorem mapM {γ : Type} {f : γ → Run Store α} (hf : ∀ a, (f a).Looks) (as : List γ) :
    (as.mapM f).Looks := by
  induction as with
  | nil =>
    rw [List.mapM_nil]
    exact .pure []
  | cons a as ih =>
    rw [List.mapM_cons]
    exact (hf a).bind fun _ => ih.bind fun _ => .pure _

end Looks

namespace Forestalls

theorem looks (hm : m.Looks) : m.Forestalls early := by
  intro p e q hrun _
  have hp := hm p
  rw [hrun] at hp
  exact hp

/-- looking first does not matter -/
theorem looks_bind (hm : m.Looks) (hf : ∀ a, (f a).Forestalls early) :
    (m >>= f).Forestalls early := by
  intro p e q hrun he
  have hp := hm p
  cases hrun' : m p with
  | mk r p' =>
    rw [hrun'] at hp
    cases hp
    cases r with
    | error e' =>
      rw [bind_of_error hrun'] at hrun
      cases hrun
      rfl
    | ok a =>
      rw [bind_of_ok hrun'] at hrun
      exact hf a _ e q hrun he

theorem late (hm : ∀ s, m.Late s early) : m.Forestalls early := by
  intro p e q hrun he
  have hlate := hm p.session.store p rfl
  rw [hrun] at hlate
  exact absurd (he.symm.trans hlate) nofun

/-- what comes after does not stop for one of these errors any more -/
theorem bind_late (hm : m.Forestalls early) (hf : ∀ a s, (f a).Late s early) :
    (m >>= f).Forestalls early := by
  intro p e q hrun he
  cases hrun' : m p with
  | mk r p' =>
    cases r with
    | error e' =>
      rw [bind_of_error hrun'] at hrun
      cases hrun
      exact hm p e q hrun' he
    | ok a =>
      rw [bind_of_ok hrun'] at hrun
      have hlate := hf a p'.session.store p' rfl
      rw [hrun] at hlate
      exact absurd (he.symm.trans hlate) nofun

end Forestalls
end Run

namespace Reconciler

variable {sink : Sink} {settings : Settings} {c : Command}

/-- a lookup, of which the store does not tell -/
theorem ask_looks {call : Call} {found : Store → call.Answer}
    (hanswer : ∀ s, Store.backend.answer call s = (.ok (found s), s))
    (hnotes : ∀ s, Store.backend.notes call (found s) = []) :
    ((inMemory sink settings).ask call).Looks := by
  intro p
  unfold ask remote Backend.ask Backend.settle
  simp only [hanswer, hnotes, List.append_nil]

theorem findRelyingParties_looks (name : String) :
    ((inMemory sink settings).ask (.findRelyingParties name)).Looks :=
  ask_looks (fun _ => rfl) fun _ => rfl

theorem findRuleGroups_looks (name : String) :
    ((inMemory sink settings).ask (.findRuleGroups name)).Looks :=
  ask_looks (fun _ => rfl) fun _ => rfl

/-! ## phases after the first write -/

theorem saveChanges_late (s : Store) : (inMemory sink settings).saveChanges.Late s c.checksFor :=
  saveChanges_ends (fun _ => trivial) (fun _ _ => rfl) fun _ _ => rfl

/-- the name of a rule group or of a key may be shared here -/
theorem exactlyOne_late (hc : c.forRuleGroup = false) {α : Type} {kind : ResourceKind}
    (hkind : kind ≠ .relyingParty) {name : String} {found : List α} (e : ReconcileError)
    (he : exactlyOne kind name found = .error e) : c.checksFor e = false := by
  rw [exactlyOne_error he]
  show (decide (kind = .relyingParty) || c.forRuleGroup) = false
  rw [hc, decide_eq_false hkind]
  rfl

theorem deleteLinkedGroups_late (hc : c.forRuleGroup = false) (seen : List Id) (links : List Link)
    (s : Store) : ((inMemory sink settings).deleteLinkedGroups seen links).Late s c.checksFor := by
  induction links generalizing seen s with
  | nil => exact .pure trivial
  | cons link links ih =>
    unfold deleteLinkedGroups
    split
    · exact ih seen s
    · refine findRuleGroups_bind (.check (exactlyOne_late hc (by decide)) fun g _ => ?_)
      refine delete_bind (fun _ => ?_) fun _ _ => rfl
      exact (emit_quiet _ _).bind ((recordDeleted_quiet _).bind (ih _ _))

theorem deleteKeys_late (hc : c.forRuleGroup = false) (keys : List Key) (s : Store) :
    ((inMemory sink settings).deleteKeys keys).Late s c.checksFor := by
  induction keys generalizing s with
  | nil => exact .pure trivial
  | cons key keys ih =>
    refine findKeys_bind (.check (exactlyOne_late hc (by decide)) fun k _ => ?_)
    refine delete_bind (fun _ => ?_) fun _ _ => rfl
    exact (emit_quiet _ _).bind ((recordDeleted_quiet _).bind (ih _))

theorem tearDownAny_late (hc : c.forRuleGroup = false) (old : Option RelyingParty)
    (withRuleGroups : Bool) (s : Store) :
    ((inMemory sink settings).tearDownAny old withRuleGroups).Late s c.checksFor := by
  cases old with
  | none => exact .pure trivial
  | some old =>
    show ((inMemory sink settings).tearDown old withRuleGroups).Late s c.checksFor
    rw [tearDown_eq]
    have hgroups : ((inMemory sink settings).deleteGroups old withRuleGroups).Late s c.checksFor := by
      unfold deleteGroups
      split
      · exact (deleteLinkedGroups_late hc [] old.links s).bind fun _ t _ => saveChanges_late t
      · exact .pure trivial
    refine hgroups.bind fun _ t _ => ?_
    have hkeys : ((inMemory sink settings).deleteAllKeys old).Late t c.checksFor := by
      unfold deleteAllKeys
      split
      · exact (deleteKeys_late hc old.keys t).bind fun _ u _ => saveChanges_late u
      · exact .pure trivial
    refine hkeys.bind fun _ u _ => removeRelyingParty_bind ?_ fun _ _ => rfl
    exact (emit_quiet _ _).bind ((emit_quiet _ _).bind ((recordDeleted_quiet _).ends trivial))

/-- the relying party that has just been created is found alone -/
theorem relyingPartiesNamed_insert {s : Store} {d : RelyingParty.Draft}
    (hnew : ∀ p ∈ s.relyingParties, p.name ≠ d.name) :
    ∃ view, ((s.insertRelyingParty d).2.record (.addRelyingParty d)).relyingPartiesNamed d.name
      = [view] := by
  obtain ⟨keys, hrecords, -⟩ := s.records_insertRelyingParty d
  have hparties : (s.insertRelyingParty d).2.relyingParties
      = s.relyingParties ++ [⟨d.toProfile, s.nextId⟩] := congrArg Records.relyingParties hrecords
  refine ⟨_, List.map_eq_singleton_iff.mpr ⟨⟨d.toProfile, s.nextId⟩, ?_, rfl⟩⟩
  show (s.insertRelyingParty d).2.relyingParties.filter _ = _
  rw [hparties, List.filter_append, List.filter_singleton, decide_eq_true rfl,
    List.filter_eq_nil_iff.mpr fun p hp hn => hnew p hp (of_decide_eq_true hn)]
  rfl

/-- so the lookups for its links do not fail, whatever else is in the store -/
theorem createParty_linkAll_late (d : RelyingParty.Draft) (patterns : List Pattern) (s : Store) :
    ((inMemory sink settings).createParty d >>= fun _ =>
      (inMemory sink settings).linkAll d.name patterns).Late s c.checksFor := by
  refine ((createParty_creates s d).mono (fun _ _ h => h) fun _ _ h => c.checksFor_remote h).bind ?_
  rintro - t ⟨hnew, rfl⟩
  obtain ⟨view, hfound⟩ := relyingPartiesNamed_insert hnew
  refine ((linkPatterns_ends hfound).mono (fun _ _ _ => trivial)
    fun _ _ h => c.checksFor_remote h.1).bind fun linked u _ => ?_
  split
  · exact saveChanges_late u
  · exact .pure trivial

/-! ## commands -/

theorem removeRuleGroupNamed_forestalls (name : String) :
    ((inMemory sink settings).removeRuleGroupNamed name).Forestalls c.checksFor := by
  refine .looks_bind (findRuleGroups_looks name) fun found => .looks_bind (.lift _) fun old => ?_
  cases old with
  | none => exact .looks (.pure false)
  | some g =>
    refine .late fun s => delete_bind (fun _ => ?_) fun _ _ => rfl
    exact (emit_quiet _ _).bind ((recordDeleted_quiet _).bind
      ((saveChanges_late _).bind fun _ _ _ => .pure trivial))

theorem execute_forestalls (c : Command) :
    ((inMemory sink settings).execute c).Forestalls c.checksFor := by
  cases c with
  | addRelyingParty new =>
    show ((inMemory sink settings).addRelyingParty new).Forestalls _
    rw [addRelyingParty_eq]
    refine .looks_bind (.lift _) fun d => .looks_bind (.mapM (fun _ => .lift _) _) fun patterns =>
      .looks_bind (findRelyingParties_looks _) fun found => .looks_bind (.lift _) fun old => ?_
    exact .late fun s => (tearDownAny_late rfl old _ s).bind fun _ t _ =>
      createParty_linkAll_late d patterns t
  | removeRelyingParty name withRuleGroups =>
    refine .looks_bind (.lift _) fun name => .looks_bind (findRelyingParties_looks _) fun found =>
      .looks_bind (.lift _) fun old => ?_
    cases old with
    | none => exact .late fun s => (note_quiet _).ends trivial
    | some old => exact .late (tearDownAny_late rfl (some old) withRuleGroups)
  | addRuleGroup name =>
    refine .looks_bind (.lift _) fun name => ?_
    rw [discard_bind_eq]
    refine (removeRuleGroupNamed_forestalls name).bind_late fun _ s => ?_
    refine addRuleGroup_bind (fun _ _ _ => ?_) fun _ _ => rfl
    exact (emit_quiet _ _).bind ((emit_quiet _ _).bind ((recordCreated_quiet _).ends trivial))
  | addRule ruleGroup rule =>
    refine .looks_bind (.lift _) fun name => .looks_bind (.lift _) fun type =>
      .looks_bind (findRuleGroups_looks _) fun found => .looks_bind (.lift _) fun g => ?_
    refine .late fun s => addRule_bind (fun _ => ?_) fun _ _ => rfl
    exact (emit_quiet _ _).bind ((emit_quiet _ _).bind ((recordCreated_quiet _).ends trivial))
  | removeRuleGroup name =>
    refine .looks_bind (.lift _) fun name =>
      (removeRuleGroupNamed_forestalls name).bind_late fun found s => ?_
    split
    · exact (note_quiet _).ends trivial
    · exact .pure trivial

/-! ## runs of one command -/

section
variable {p p' q : Progress Store} {e : ReconcileError}

theorem executeNoted_of_ok (hp : note (executing c) p = (.ok (), p'))
    (h : (inMemory sink settings).execute c p' = (.ok (), q)) :
    (inMemory sink settings).executeNoted c p = (.ok (), q) := by
  unfold executeNoted
  rw [bind_of_ok hp, tryCatch_eq, h]
  rfl

theorem executeNoted_of_error (hp : note (executing c) p = (.ok (), p'))
    (h : (inMemory sink settings).execute c p' = (.error e, q)) :
    (inMemory sink settings).executeNoted c p = (.error e, { q with
      session := ⟨q.session.store, q.session.notes ++ [failed c e]⟩ }) := by
  unfold executeNoted
  rw [bind_of_ok hp, tryCatch_eq, h]
  rfl

end
end Reconciler

open Reconciler

variable {sink : Sink} {settings : Settings} {s : Store} {c : Command} {e : ReconcileError}

/-- A command that stops for one of its checks has written nothing, queued nothing and told the sink
nothing; there are only the diagnostics of its failure. -/
theorem reconcile_forestalls {notes : List Diagnostic}
    (he : ((inMemory sink settings).reconcile [c] ⟨s, notes⟩).1 = .error e)
    (hearly : c.checksFor e = true) :
    ((inMemory sink settings).reconcile [c] ⟨s, notes⟩).2
      = { session := ⟨s, notes ++ [starting "memory" 1, executing c, failed c e]⟩ } := by
  let p : Progress Store := { session := ⟨s, notes ++ [starting "memory" 1]⟩ }
  let p' : Progress Store := { session := ⟨s, p.session.notes ++ [executing c]⟩ }
  have hstart : note (starting "memory" 1) { session := ⟨s, notes⟩ } = (.ok (), p) := rfl
  have hnote : note (executing c) p = (.ok (), p') := rfl
  cases hrun : (inMemory sink settings).execute c p' with
  | mk r q =>
    cases r with
    | ok a =>
      obtain ⟨q', hall⟩ : ∃ q', (note (starting "memory" 1) >>= fun _ =>
          (inMemory sink settings).executeAll [c]) { session := ⟨s, notes⟩ } = (.ok (), q') := by
        rw [bind_of_ok hstart]
        exact ⟨_, bind_of_ok (executeNoted_of_ok hnote hrun)⟩
      rw [reconcile_of_ok hall] at he
      cases he
    | error e' =>
      have hall : (note (starting "memory" 1) >>= fun _ => (inMemory sink settings).executeAll [c])
          { session := ⟨s, notes⟩ } = (.error e', { q with
            session := ⟨q.session.store, q.session.notes ++ [failed c e']⟩ }) := by
        rw [bind_of_ok hstart]
        exact bind_of_error (executeNoted_of_error hnote hrun)
      rw [reconcile_of_error hall] at he ⊢
      cases he
      have hq : q = p' := execute_forestalls c p' e q hrun hearly
      rw [hq]
      simp [p', p]

/-- two relying parties share the name, a deletion waits, and commits fail -/
theorem reconcile_forestalls_shared :
    let portal : RelyingParty.Draft :=
      ⟨⟨"portal", "urn:portal", none, .saml2, 600, []⟩, some [1], none, none, none, none, none⟩
    let parties := ((({} : Store).insertRelyingParty portal).2.insertRelyingParty portal).2
    let s := (Store.answer (.delete .relyingParty (.nth 1)) parties).2.failOn .saveChanges
    let c := Command.removeRelyingParty "portal" true
    let e := ReconcileError.preconditionViolation .relyingParty "portal" 2
    let run := (inMemory .keeping {}).reconcile [c] ⟨s, []⟩
    run.1 = .error e ∧ c.checksFor e = true
      ∧ run.2 = { session := ⟨s, [starting "memory" 1, executing c, failed c e]⟩ } := by
  intro portal parties s c e run
  have he : run.1 = .error e := by decide +kernel
  exact ⟨he, rfl, reconcile_forestalls he rfl⟩

end AccessControl
