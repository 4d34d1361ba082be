import AccessControl.Proofs.Reconcile.Listing
import AccessControl.Reconcile.Basic

/-!
# Runs go by calls

What a command does to the store in memory, wherever it stops, it does by calls.  So a reflexive and
transitive relation that calls keep relates the store at the start of a command to the one at its end.

* `Store.Lasts`     a relation that is kept by all calls but those that create relying parties;
* `tearDown_goes`, `linkAll_goes`   the phases of a command keep it;
* `execute_goes`    so does every command that creates no relying party;
* `execute_walks`   every command goes by steps, so all that single steps keep is kept by commands.
-/

namespace AccessControl

theorem Store.steps_of_answer {s t : Store} {c : Call} {r : Except StoreError c.Answer}
    (h : Store.answer c s = (r, t)) : s.Steps t := by
  have hstep := Store.step_answer c s
  rw [h] at hstep
  exact hstep.steps

/-- the relying party that a call creates -/
def Call.createdParty? : Call → Option RelyingParty.Draft
  | .addRelyingParty new => some new
  | _ => none

/-- a relation between an earlier and a later store, which only the creation of relying parties may
break -/
structure Store.Lasts (R : Store → Store → Prop) : Prop where
  refl : ∀ s, R s s
  trans : ∀ s t u, R s t → R t u → R s u
  call : ∀ c s, c.createdParty? = none → R s (Store.answer c s).2

namespace Run
variable {α β : Type}

/-- the stores at the start and at the end are related -/
def Goes (R : Store → Store → Prop) (m : Run Store α) : Prop :=
  ∀ s, m.Ends s (fun _ t => R s t) (fun _ t => R s t)

/-- the store at the end comes from the store at the start by steps -/
def Walks (m : Run Store α) : Prop := ∀ s, m.Ends s (fun _ t => s.Steps t) (fun _ t => s.Steps t)

namespace Goes
variable {R : Store → Store → Prop} (hR : Store.Lasts R)
include hR

theorem pure (a : α) : (Pure.pure a : Run Store α).Goes R := fun s => .pure (hR.refl s)

omit hR in
/-- a step that may also be the last one, and what comes after it -/
theorem ends_bind {m : Run Store α} {f : α → Run Store β} (hm : m.Goes R) {s : Store}
    {good : β → Store → Prop} {bad : ReconcileError → Store → Prop} (hbad : ∀ e t, R s t → bad e t)
    (hf : ∀ a t, R s t → (f a).Ends t good bad) : (m >>= f).Ends s good bad :=
  ((hm s).mono (fun _ _ h => h) hbad).bind hf

theorem bind {m : Run Store α} {f : α → Run Store β} (hm : m.Goes R) (hf : ∀ a, (f a).Goes R) :
    (m >>= f).Goes R := fun s =>
  hm.ends_bind (fun _ _ h => h) fun a t hst =>
    (hf a t).mono (fun _ _ h => hR.trans s t _ hst h) (fun _ _ h => hR.trans s t _ hst h)

theorem lift (x : Except ReconcileError α) : (liftM x : Run Store α).Goes R := fun s =>
  .lift (fun _ _ => hR.refl s) (fun _ _ => hR.refl s)

theorem quiet {m : Run Store Unit} (h : m.Quiet) : m.Goes R := fun s => h.ends (hR.refl s)

theorem mapM {f : α → Run Store β} (hf : ∀ a, (f a).Goes R) (l : List α) : (l.mapM f).Goes R := by
  induction l with
  | nil =>
    rw [List.mapM_nil]
    exact pure hR []
  | cons a l ih =>
    rw [List.mapM_cons]
    exact bind hR (hf a) fun b => bind hR ih fun bs => pure hR (b :: bs)

omit hR in
/-- a step that leaves the store alone, and another one -/
theorem quiet_bind {m : Run Store Unit} {f : Unit → Run Store β} (h : m.Quiet) (hf : (f ()).Goes R) :
    (m >>= f).Goes R := fun s => h.bind (hf s)

/-- a check and what comes after it -/
theorem lift_bind {x : Except ReconcileError α} {f : α → Run Store β} (hf : ∀ a, (f a).Goes R) :
    ((liftM x : Run Store α) >>= f).Goes R := bind hR (lift hR x) hf

end Goes
end Run

namespace Reconciler

/-! ## the phases of a command -/

section
variable {σ : Type} (r : Reconciler σ)

/-- the first phase of a tear-down -/
def deleteGroups (old : RelyingParty) (withRuleGroups : Bool) : Run σ Unit := do
  if withRuleGroups && !old.links.isEmpty then
    r.deleteLinkedGroups [] old.links
    r.saveChanges

/-- the second phase of a tear-down -/
def deleteAllKeys (old : RelyingParty) : Run σ Unit := do
  if !old.keys.isEmpty then
    r.deleteKeys old.keys
    r.saveChanges

/-- the last phase of a tear-down -/
def removeParty (old : RelyingParty) : Run σ Unit := do
  r.ask (.removeRelyingParty old.id)
  r.emit (.removingRelyingParty old.name)
  r.emit .changesSaved
  recordDeleted (resourceLabel .relyingParty old.name)

def tearDownAny (old : Option RelyingParty) (withRuleGroups : Bool) : Run σ Unit :=
  match old with
  | some old => r.tearDown old withRuleGroups
  | none => pure ()

def createParty (draft : RelyingParty.Draft) : Run σ Unit := do
  let _id : Id ← r.ask (.addRelyingParty draft)
  r.emit (.addingRelyingParty draft.name)
  r.emit .changesSaved
  recordCreated (resourceLabel .relyingParty draft.name)

theorem tearDown_eq (old : RelyingParty) (withRuleGroups : Bool) :
    r.tearDown old withRuleGroups = (do
      r.deleteGroups old withRuleGroups
      r.deleteAllKeys old
      r.removeParty old) := by
  unfold tearDown deleteGroups deleteAllKeys removeParty
  cases withRuleGroups && !old.links.isEmpty <;> cases !old.keys.isEmpty <;> simp

theorem addRelyingParty_eq (new : AddRelyingParty) : r.addRelyingParty new = (do
    let draft ← draft r.settings new
    let patterns ← new.patterns.mapM fun text => liftM (compilePattern text)
    let found : List RelyingParty ← r.ask (.findRelyingParties draft.name)
    let old ← atMostOne .relyingParty draft.name found
    r.tearDownAny old new.removeRelatedRuleGroups
    r.createParty draft
    r.linkAll draft.name patterns) := by
  unfold addRelyingParty createParty
  refine bind_congr fun draft => bind_congr fun patterns => bind_congr fun found =>
    bind_congr fun old => ?_
  cases old with
  | none => simp [tearDownAny]
  | some old => simp [tearDownAny]

end

/-! ## what calls keep, phases keep -/

variable {sink : Sink} {settings : Settings}

section
variable {α : Type} {R : Store → Store → Prop} (hR : Store.Lasts R)
include hR
open Run

theorem ask_goes (c : Call) (hc : c.createdParty? = none) :
    ((inMemory sink settings).ask c).Goes R := fun s => by
  have hcall := hR.call c s hc
  refine ask_ends (fun a t h => ?_) (fun e t h => ?_)
  · rw [h] at hcall
    exact hcall
  · rw [h] at hcall
    exact hcall

/-- a call and what comes after it -/
theorem ask_bind_goes {c : Call} (hc : c.createdParty? = none) {f : c.Answer → Run Store α}
    (hf : ∀ a, (f a).Goes R) : ((inMemory sink settings).ask c >>= f).Goes R :=
  Goes.bind hR (ask_goes hR c hc) hf

theorem saveChanges_goes : (inMemory sink settings).saveChanges.Goes R :=
  ask_bind_goes hR rfl fun _ => Goes.quiet_bind (recordReport_quiet _) <|
    Goes.quiet_bind (note_quiet _) <| Goes.quiet hR (emit_quiet _ _)

theorem deleteLinkedGroups_goes (seen : List Id) (links : List Link) :
    ((inMemory sink settings).deleteLinkedGroups seen links).Goes R := by
  induction links generalizing seen with
  | nil => exact Goes.pure hR ()
  | cons link links ih =>
    unfold deleteLinkedGroups
    split
    · exact ih seen
    · exact ask_bind_goes hR rfl fun found => Goes.lift_bind hR fun group =>
        ask_bind_goes hR rfl fun _ => Goes.quiet_bind (emit_quiet _ _) <|
          Goes.quiet_bind (recordDeleted_quiet _) (ih _)

theorem deleteKeys_goes (keys : List Key) : ((inMemory sink settings).deleteKeys keys).Goes R := by
  induction keys with
  | nil => exact Goes.pure hR ()
  | cons key keys ih =>
    exact ask_bind_goes hR rfl fun found => Goes.lift_bind hR fun key =>
      ask_bind_goes hR rfl fun _ => Goes.quiet_bind (emit_quiet _ _) <|
        Goes.quiet_bind (recordDeleted_quiet _) ih

theorem deleteGroups_goes (old : RelyingParty) (withRuleGroups : Bool) :
    ((inMemory sink settings).deleteGroups old withRuleGroups).Goes R := by
  unfold deleteGroups
  split
  · exact Goes.bind hR (deleteLinkedGroups_goes hR _ _) fun _ => saveChanges_goes hR
  · exact Goes.pure hR ()

theorem deleteAllKeys_goes (old : RelyingParty) :
    ((inMemory sink settings).deleteAllKeys old).Goes R := by
  unfold deleteAllKeys
  split
  · exact Goes.bind hR (deleteKeys_goes hR _) fun _ => saveChanges_goes hR
  · exact Goes.pure hR ()

theorem removeParty_goes (old : RelyingParty) : ((inMemory sink settings).removeParty old).Goes R :=
  ask_bind_goes hR rfl fun _ => Goes.quiet_bind (emit_quiet _ _) <|
    Goes.quiet_bind (emit_quiet _ _) <| Goes.quiet hR (recordDeleted_quiet _)

theorem tearDown_goes (old : RelyingParty) (withRuleGroups : Bool) :
    ((inMemory sink settings).tearDown old withRuleGroups).Goes R := by
  rw [tearDown_eq]
  exact Goes.bind hR (deleteGroups_goes hR old withRuleGroups) fun _ =>
    Goes.bind hR (deleteAllKeys_goes hR old) fun _ => removeParty_goes hR old

theorem tearDownAny_goes (old : Option RelyingParty) (withRuleGroups : Bool) :
    ((inMemory sink settings).tearDownAny old withRuleGroups).Goes R := by
  cases old with
  | none => exact Goes.pure hR ()
  | some old => exact tearDown_goes hR old withRuleGroups

theorem linkGroups_goes (name : String) (relyingParty : Id) (linked : List Id)
    (groups : List RuleGroup) :
    ((inMemory sink settings).linkGroups name relyingParty linked groups).Goes R := by
  induction groups generalizing linked with
  | nil => exact Goes.pure hR linked
  | cons group groups ih =>
    unfold linkGroups
    split
    · exact ih linked
    · exact ask_bind_goes hR rfl fun _ => Goes.quiet_bind (emit_quiet _ _) <|
        Goes.quiet_bind (recordLinked_quiet _) (ih _)

theorem linkPatterns_goes (name : String) (linked : List Id) (patterns : List Pattern) :
    ((inMemory sink settings).linkPatterns name linked patterns).Goes R := by
  have listing : (remote Store.backend.ruleGroups).Goes R := fun s =>
    ruleGroups_listed (hR.refl s) fun _ _ => hR.refl s
  induction patterns generalizing linked with
  | nil => exact Goes.pure hR linked
  | cons pattern patterns ih =>
    exact ask_bind_goes hR rfl fun _ => Goes.lift_bind hR fun _ => Goes.bind hR listing fun _ =>
      Goes.quiet_bind (note_quiet _) <|
        Goes.bind hR (linkGroups_goes hR _ _ _ _) fun linked => ih linked

theorem linkAll_goes (name : String) (patterns : List Pattern) :
    ((inMemory sink settings).linkAll name patterns).Goes R := by
  refine Goes.bind hR (linkPatterns_goes hR name [] patterns) fun linked => ?_
  split
  · exact saveChanges_goes hR
  · exact Goes.pure hR ()

theorem removeRuleGroupNamed_goes (name : String) :
    ((inMemory sink settings).removeRuleGroupNamed name).Goes R := by
  refine ask_bind_goes hR rfl fun found => Goes.lift_bind hR fun group => ?_
  cases group with
  | none => exact Goes.pure hR false
  | some group =>
    exact ask_bind_goes hR rfl fun _ => Goes.quiet_bind (emit_quiet _ _) <|
      Goes.quiet_bind (recordDeleted_quiet _) <|
        Goes.bind hR (saveChanges_goes hR) fun _ => Goes.pure hR true

theorem execute_goes {c : Command} (hc : ∀ new, c ≠ .addRelyingParty new) :
    ((inMemory sink settings).execute c).Goes R := by
  cases c with
  | addRelyingParty new => exact absurd rfl (hc new)
  | removeRelyingParty name withRuleGroups =>
    refine Goes.lift_bind hR fun name => ask_bind_goes hR rfl fun found =>
      Goes.lift_bind hR fun old => ?_
    cases old with
    | none => exact Goes.quiet hR (note_quiet _)
    | some old => exact tearDown_goes hR old withRuleGroups
  | addRuleGroup name =>
    refine Goes.lift_bind hR fun name s => .discard_bind ?_
    exact Goes.bind hR (removeRuleGroupNamed_goes hR name) (fun _ => ask_bind_goes hR rfl fun _ =>
      Goes.quiet_bind (emit_quiet _ _) <| Goes.quiet_bind (emit_quiet _ _) <|
        Goes.quiet hR (recordCreated_quiet _)) s
  | addRule ruleGroup rule =>
    exact Goes.lift_bind hR fun name => Goes.lift_bind hR fun type =>
      ask_bind_goes hR rfl fun found => Goes.lift_bind hR fun group =>
        ask_bind_goes hR rfl fun _ => Goes.quiet_bind (emit_quiet _ _) <|
          Goes.quiet_bind (emit_quiet _ _) <| Goes.quiet hR (recordCreated_quiet _)
  | removeRuleGroup name =>
    refine Goes.lift_bind hR fun name =>
      Goes.bind hR (removeRuleGroupNamed_goes hR name) fun found => ?_
    split
    · exact Goes.quiet hR (note_quiet _)
    · exact Goes.pure hR ()

end

/-! ## every command goes by steps -/

theorem steps_lasts : Store.Lasts Store.Steps where
  refl _ := .refl
  trans _ _ _ := .trans
  call c s _ := (Store.step_answer c s).steps

/-- a creation is told and recorded, and leaves the store as the call left it -/
theorem createParty_answers {s : Store} {draft : RelyingParty.Draft} {good : Store → Prop}
    {bad : ReconcileError → Store → Prop}
    (hgood : ∀ id t, Store.answer (.addRelyingParty draft) s = (.ok id, t) → good t)
    (hbad : ∀ e t, Store.answer (.addRelyingParty draft) s = (.error e, t) → bad (.remote e) t) :
    ((inMemory sink settings).createParty draft).Ends s (fun _ t => good t) bad := by
  have hcall : ((inMemory sink settings).ask (.addRelyingParty draft)).Ends s (fun _ t => good t) bad :=
    ask_ends hgood hbad
  exact hcall.bind fun _ t ht => (emit_quiet _ _).bind ((emit_quiet _ _).bind
    ((recordCreated_quiet _).ends ht))

/-- the creation of a relying party is a step as well -/
theorem createParty_walks (draft : RelyingParty.Draft) :
    ((inMemory sink settings).createParty draft).Walks := fun _ =>
  createParty_answers (fun _ _ h => Store.steps_of_answer h) fun _ _ h => Store.steps_of_answer h

theorem execute_walks (c : Command) : ((inMemory sink settings).execute c).Walks := by
  have h := steps_lasts
  cases c with
  | addRelyingParty new =>
    show ((inMemory sink settings).addRelyingParty new).Walks
    rw [addRelyingParty_eq]
    exact Run.Goes.lift_bind h fun draft =>
      Run.Goes.bind h (.mapM h (fun _ => .lift h _) _) fun patterns =>
        ask_bind_goes h rfl fun found => Run.Goes.lift_bind h fun old =>
          Run.Goes.bind h (tearDownAny_goes h old _) fun _ =>
            Run.Goes.bind h (createParty_walks draft) fun _ => linkAll_goes h _ _
  | removeRelyingParty name withRuleGroups => exact execute_goes h fun _ heq => by cases heq
  | addRuleGroup name => exact execute_goes h fun _ heq => by cases heq
  | addRule ruleGroup rule => exact execute_goes h fun _ heq => by cases heq
  | removeRuleGroup name => exact execute_goes h fun _ heq => by cases heq

end Reconciler
end AccessControl
