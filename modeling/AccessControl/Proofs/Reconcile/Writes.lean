import AccessControl.Proofs.Reconcile.Calls
import AccessControl.Proofs.Reconcile.Plan
import AccessControl.Proofs.Reconcile.Steps
import AccessControl.Proofs.Reconcile.Words

/-!
# What steps write

`Speaks m L` says that, whatever the backend, the writes of a step `m` are a word of the language `L` if
it comes to its end, and can be completed to one if it stops.  Languages multiply along steps
(`Speaks.bind`); what a step does besides writing does not count.

The phases of a command go by one lemma each, up to the command and its protocol (`execute_planned`).
-/

namespace AccessControl
open Computability RegularExpression Write

namespace Act

def write? : Act → Option Write
  | .event _ => none
  | .call c _ => c.write?

/-- the writes that were called for, successful or not -/
def attempts (acts : List Act) : List Write := acts.filterMap write?

/-- the writes that were called for and succeeded -/
def writes (acts : List Act) : List Write := attempts (acts.filter fun act => act.error?.isNone)

/-- a lookup that finds something -/
def finds : Act → Bool
  | .call (.findRelyingParties _) (.ok (parties : List RelyingParty)) => !parties.isEmpty
  | .call (.findRuleGroups _) (.ok (groups : List RuleGroup)) => !groups.isEmpty
  | _ => false

/-- the first act is such a lookup -/
def found (acts : List Act) : Bool := acts.head?.any finds

theorem attempts_append (acts acts' : List Act) :
    attempts (acts ++ acts') = attempts acts ++ attempts acts' := List.filterMap_append

theorem attempts_call (c : Call) (outcome : Except StoreError c.Answer) (acts : List Act) :
    attempts (.call c outcome :: acts) = c.write?.toList ++ attempts acts := by
  unfold attempts
  cases h : c.write? with
  | none =>
    rw [List.filterMap_cons_none (show write? (.call c outcome) = none from h)]
    rfl
  | some x =>
    rw [List.filterMap_cons_some (show write? (.call c outcome) = some x from h)]
    rfl

theorem writes_eq {acts : List Act} (h : ∀ act ∈ acts, act.error? = none) :
    writes acts = attempts acts := by
  unfold writes
  rw [List.filter_eq_self.mpr fun act hact => by rw [h act hact]; rfl]

end Act

open Act

/-- at most the last attempt has failed -/
theorem Heeds.writes_prefix {α : Type} {r : Except ReconcileError α} {acts : List Act}
    (h : Heeds r acts) : writes acts <+: attempts acts := by
  induction h with
  | nil => exact List.prefix_refl _
  | @last act e he =>
    have hnone : writes [act] = [] := by
      unfold writes
      rw [List.filter_cons_of_neg (by rw [he]; exact Bool.false_ne_true)]
      rfl
    rw [hnone]
    exact List.nil_prefix
  | @cons r act acts hact _ ih =>
    have hkept : writes (act :: acts) = attempts [act] ++ writes acts := by
      unfold writes
      rw [List.filter_cons_of_pos (by rw [hact]; rfl)]
      exact attempts_append [act] _
    have hall : attempts (act :: acts) = attempts [act] ++ attempts acts := attempts_append [act] acts
    rw [hkept, hall]
    exact (List.prefix_append_right_inj _).mpr ih

/-! ## steps that speak a language -/

/-- what was attempted can be completed to a word, and is one if the run comes to its end -/
structure Spoken {α : Type} (L : Language Write) (r : Except ReconcileError α) (acts : List Act) :
    Prop where
  begun : ∃ rest, attempts acts ++ rest ∈ L
  complete : ∀ a, r = .ok a → attempts acts ∈ L

theorem Spoken.of_mem {α : Type} {L : Language Write} {r : Except ReconcileError α}
    {acts : List Act} (h : attempts acts ∈ L) : Spoken L r acts where
  begun := ⟨[], by rwa [List.append_nil]⟩
  complete := fun _ _ => h

/-- what succeeded can be completed as well -/
theorem Spoken.writes_begun {α : Type} {L : Language Write} {r : Except ReconcileError α}
    {acts : List Act} (h : Spoken L r acts) (hheeds : Heeds r acts) :
    ∃ rest, writes acts ++ rest ∈ L := by
  obtain ⟨more, hmore⟩ := hheeds.writes_prefix
  obtain ⟨rest, hrest⟩ := h.begun
  refine ⟨more ++ rest, ?_⟩
  rw [← List.append_assoc, hmore]
  exact hrest

theorem Spoken.writes_complete {α : Type} {L : Language Write} {r : Except ReconcileError α}
    {acts : List Act} (h : Spoken L r acts) (hheeds : Heeds r acts) (hok : r.isOk = true) :
    writes acts ∈ L := by
  cases r with
  | error e => cases hok
  | ok a =>
    rw [writes_eq hheeds.clean]
    exact h.complete a rfl

namespace Run
variable {α β : Type}

def Speaks (m : Anywhere α) (L : Language Write) : Prop := Planned m (Spoken L)

namespace Speaks
variable {m : Anywhere α} {f : α → Anywhere β} {K L : Language Write}

theorem mono (h : Speaks m K) (hKL : K ≤ L) : Speaks m L :=
  Planned.mono h fun _ _ ⟨⟨rest, hbegun⟩, hcomplete⟩ =>
    ⟨⟨rest, hKL hbegun⟩, fun a ha => hKL (hcomplete a ha)⟩

theorem bind (hm : Speaks m K) (hf : ∀ a, Speaks (f a) L) (hL : ∃ w, w ∈ L) :
    Speaks (fun σ b => m σ b >>= fun a => f a σ b) (K * L) := by
  refine Planned.bind hm (fun a => ?_) ?_
  · refine Planned.mono (hf a) fun r acts' h acts hacts => ⟨?_, ?_⟩
    · obtain ⟨rest, hrest⟩ := h.begun
      refine ⟨rest, ?_⟩
      rw [attempts_append, List.append_assoc]
      exact Language.append_mem_mul (hacts.complete a rfl) hrest
    · intro b hb
      rw [attempts_append]
      exact Language.append_mem_mul (hacts.complete a rfl) (h.complete b hb)
  · intro e acts h
    obtain ⟨rest, hrest⟩ := h.begun
    obtain ⟨w, hw⟩ := hL
    refine ⟨⟨rest ++ w, ?_⟩, nofun⟩
    rw [← List.append_assoc]
    exact Language.append_mem_mul hrest hw

/-- the second step writes nothing -/
theorem bind_silent (hm : Speaks m K) (hf : ∀ a, Speaks (f a) 1) :
    Speaks (fun σ b => m σ b >>= fun a => f a σ b) K := by
  rw [← mul_one K]
  exact hm.bind hf ⟨[], Language.nil_mem_one⟩

/-- the first step writes nothing -/
theorem silent_bind (hm : Speaks m 1) (hf : ∀ a, Speaks (f a) L) (hL : ∃ w, w ∈ L) :
    Speaks (fun σ b => m σ b >>= fun a => f a σ b) L := by
  rw [← one_mul L]
  exact hm.bind hf hL

theorem pure (a : α) : Speaks (fun _ _ => Pure.pure a) 1 :=
  Planned.pure (.of_mem rfl)

/-- the first step is a check -/
theorem check {x : Except ReconcileError α} (hf : ∀ a, x = .ok a → Speaks (f a) L)
    (hL : ∃ w, w ∈ L) : Speaks (fun σ b => (liftM x : Run σ α) >>= fun a => f a σ b) L :=
  Planned.check (fun _ _ => ⟨hL, nofun⟩) hf

theorem unseen {m : Anywhere Unit} (h : Unseen m) : Speaks m 1 :=
  Planned.unseen h (.of_mem rfl)

end Speaks
end Run

namespace Reconciler
open Run

variable {sink : Sink} {settings : Settings}

theorem emit_speaks (e : Event) : Speaks (fun _ b => (against sink settings b).emit e) 1 :=
  emit_planned (.of_mem rfl)

theorem ask_speaks (c : Call) :
    Speaks (fun _ b => (against sink settings b).ask c) {c.write?.toList} := by
  have hattempts (outcome : Except StoreError c.Answer) :
      attempts [.call c outcome] = c.write?.toList := by
    rw [attempts_call]
    exact List.append_nil _
  refine Planned.mono (ask_planned c) ?_
  rintro _ _ (a | e)
  · exact .of_mem (hattempts _)
  · exact .of_mem (hattempts _)

theorem ruleGroups_speaks : Speaks (fun _ b => remote b.ruleGroups) 1 := by
  refine Planned.mono ruleGroups_planned fun r acts h => ?_
  have hattempts : attempts acts = [] := by
    refine List.filterMap_eq_nil_iff.mpr fun act hact => ?_
    obtain ⟨start, hcall⟩ := h act hact
    cases act with
    | event e => cases hcall
    | call c outcome =>
      cases hcall
      rfl
  exact .of_mem hattempts

/-! ## phases -/

theorem saveChanges_speaks :
    Speaks (fun _ b => (against sink settings b).saveChanges) {[.save]} := by
  refine .bind_silent (ask_speaks _) fun committed => ?_
  refine .bind_silent (.unseen (recordReport_unseen _)) fun _ => ?_
  exact .bind_silent (.unseen (note_unseen _)) fun _ => emit_speaks _

/-- a resource is looked up, and there have to be so many of it -/
theorem lookup_speaks {α β : Type} {c : Call} (hc : c.write? = none)
    {check : c.Answer → Except ReconcileError α} {f : α → Anywhere β} {L : Language Write}
    (hf : ∀ a, Speaks (f a) L) (hL : ∃ w, w ∈ L) :
    Speaks (fun σ b => (against sink settings b).ask c >>= fun found =>
      (liftM (check found) : Run σ α) >>= fun a => f a σ b) L := by
  have hask := @ask_speaks sink settings c
  rw [hc] at hask
  exact hask.silent_bind (fun found => .check (fun a _ => hf a) hL) hL

/-- a change is made or queued, and told -/
theorem change_speaks {β : Type} {c : Call} {e : Event} {m : Anywhere Unit} {rest : Anywhere β}
    {L : Language Write} (hm : Unseen m) (hrest : Speaks rest L) (hL : ∃ w, w ∈ L) :
    Speaks (fun σ b => (against sink settings b).ask c >>= fun _ =>
      (against sink settings b).emit e >>= fun _ => m σ b >>= fun _ => rest σ b)
      ({c.write?.toList} * L) := by
  refine .bind (ask_speaks c) (fun _ => ?_) hL
  refine .silent_bind (emit_speaks e) (fun _ => ?_) hL
  exact .silent_bind (.unseen hm) (fun _ => hrest) hL

/-- a change is made, and told with its commit -/
theorem apply_speaks {c : Call} {e : Event} {m : Anywhere Unit} (hm : Unseen m) :
    Speaks (fun σ b => (against sink settings b).ask c >>= fun _ =>
      (against sink settings b).emit e >>= fun _ =>
        (against sink settings b).emit .changesSaved >>= fun _ => m σ b) {c.write?.toList} := by
  refine .bind_silent (ask_speaks c) fun _ => ?_
  refine .bind_silent (emit_speaks e) fun _ => ?_
  exact .bind_silent (emit_speaks _) fun _ => .unseen hm

theorem exists_mem_more (x : Write) : ∃ w, w ∈ ({[x]} * {[x]}∗ : Language Write) :=
  ⟨_, Language.append_mem_mul (Set.mem_singleton [x]) (Language.nil_mem_kstar _)⟩

/-! ### tearing down -/

theorem deleteLinkedGroups_cons {seen : List Id} {link : Link} {links : List Link}
    (hseen : seen.contains link.ruleGroup = false)
    (hlinks : ∀ seen, Speaks (fun _ b => (against sink settings b).deleteLinkedGroups seen links)
      {[.delete .ruleGroup]}∗) :
    Speaks (fun _ b => (against sink settings b).deleteLinkedGroups seen (link :: links))
      ({[.delete .ruleGroup]} * {[.delete .ruleGroup]}∗) := by
  unfold deleteLinkedGroups
  simp only [hseen, Bool.false_eq_true, if_false]
  refine lookup_speaks rfl (fun group => ?_) (exists_mem_more _)
  exact change_speaks (recordDeleted_unseen _) (hlinks _) ⟨[], Language.nil_mem_kstar _⟩

theorem deleteLinkedGroups_speaks (seen : List Id) (links : List Link) :
    Speaks (fun _ b => (against sink settings b).deleteLinkedGroups seen links)
      {[.delete .ruleGroup]}∗ := by
  induction links generalizing seen with
  | nil => exact (Speaks.pure ()).mono one_le_kstar
  | cons link links ih =>
    cases hseen : seen.contains link.ruleGroup with
    | true =>
      unfold deleteLinkedGroups
      simp only [hseen, if_true]
      exact ih seen
    | false => exact (deleteLinkedGroups_cons hseen ih).mono mul_kstar_le_kstar

theorem deleteKeys_cons {key : Key} {keys : List Key}
    (hkeys : Speaks (fun _ b => (against sink settings b).deleteKeys keys)
      {[.delete .relyingPartyKey]}∗) :
    Speaks (fun _ b => (against sink settings b).deleteKeys (key :: keys))
      ({[.delete .relyingPartyKey]} * {[.delete .relyingPartyKey]}∗) := by
  refine lookup_speaks rfl (fun key => ?_) (exists_mem_more _)
  exact change_speaks (recordDeleted_unseen _) hkeys ⟨[], Language.nil_mem_kstar _⟩

theorem deleteKeys_speaks (keys : List Key) :
    Speaks (fun _ b => (against sink settings b).deleteKeys keys)
      {[.delete .relyingPartyKey]}∗ := by
  induction keys with
  | nil => exact (Speaks.pure ()).mono one_le_kstar
  | cons key keys ih => exact (deleteKeys_cons ih).mono mul_kstar_le_kstar

/-- there is no commit without a change -/
theorem commit_speaks {x : Write} {m : Anywhere Unit} (hm : Speaks m ({[x]} * {[x]}∗)) :
    Speaks (fun σ b => m σ b >>= fun _ => (against sink settings b).saveChanges)
      (1 + batch x).matches' := by
  have hbatch := hm.bind (fun _ => @saveChanges_speaks sink settings) ⟨[.save], rfl⟩
  exact hbatch.mono fun _ h => .inr h

theorem deleteGroups_speaks (old : RelyingParty) (withRuleGroups : Bool) :
    Speaks (fun _ b => (against sink settings b).deleteGroups old withRuleGroups)
      (if withRuleGroups then 1 + batch (.delete .ruleGroup) else 1).matches' := by
  unfold deleteGroups
  cases withRuleGroups with
  | false => exact .pure ()
  | true =>
    cases old.links with
    | nil => exact (Speaks.pure ()).mono fun _ h => .inl h
    | cons link links =>
      exact commit_speaks (deleteLinkedGroups_cons rfl fun seen => deleteLinkedGroups_speaks seen links)

theorem deleteAllKeys_speaks (old : RelyingParty) :
    Speaks (fun _ b => (against sink settings b).deleteAllKeys old)
      (1 + batch (.delete .relyingPartyKey)).matches' := by
  unfold deleteAllKeys
  cases old.keys with
  | nil => exact (Speaks.pure ()).mono fun _ h => .inl h
  | cons key keys => exact commit_speaks (deleteKeys_cons (deleteKeys_speaks keys))

theorem removeParty_speaks (old : RelyingParty) :
    Speaks (fun _ b => (against sink settings b).removeParty old) {[.removeRelyingParty]} :=
  apply_speaks (recordDeleted_unseen _)

theorem tearDown_speaks (old : RelyingParty) (withRuleGroups : Bool) :
    Speaks (fun _ b => (against sink settings b).tearDown old withRuleGroups)
      (Write.tearDown withRuleGroups).matches' := by
  simp only [tearDown_eq]
  have hremove := @removeParty_speaks sink settings old
  have hkeys := (@deleteAllKeys_speaks sink settings old).bind (fun _ => hremove) ⟨_, rfl⟩
  have hgroups := (@deleteGroups_speaks sink settings old withRuleGroups).bind (fun _ => hkeys)
    ⟨_, Language.append_mem_mul (.inl rfl) rfl⟩
  rw [← mul_assoc] at hgroups
  exact hgroups

theorem createParty_speaks (d : RelyingParty.Draft) :
    Speaks (fun _ b => (against sink settings b).createParty d) {[.addRelyingParty]} :=
  apply_speaks (recordCreated_unseen _)

theorem tearDownAny_speaks (old : Option RelyingParty) (withRuleGroups : Bool) :
    Speaks (fun _ b => (against sink settings b).tearDownAny old withRuleGroups)
      (if old.isSome then Write.tearDown withRuleGroups else 1).matches' := by
  cases old with
  | none => exact .pure ()
  | some old => exact tearDown_speaks old withRuleGroups

/-! ### deleting a rule group -/

/-- what becomes of the rule groups of a name that were found -/
def dropFound {σ : Type} (r : Reconciler σ) (name : String) (found : List RuleGroup) :
    Run σ Bool := do
  match ← atMostOne .ruleGroup name found with
  | none => return false
  | some group =>
    r.ask (.delete .ruleGroup group.id)
    r.emit (.removingRuleGroup name)
    recordDeleted (resourceLabel .ruleGroup name)
    r.saveChanges
    return true

theorem removeRuleGroupNamed_eq {σ : Type} (r : Reconciler σ) (name : String) :
    r.removeRuleGroupNamed name = (do
      let found : List RuleGroup ← r.ask (.findRuleGroups name)
      r.dropFound name found) := rfl

theorem dropFound_speaks (name : String) (found : List RuleGroup) :
    Speaks (fun _ b => (against sink settings b).dropFound name found)
      (if !found.isEmpty then dropGroup else 1).matches' := by
  refine .check (fun old hold => ?_) ?_
  · rw [← atMostOne_isSome hold]
    cases old with
    | none => exact .pure false
    | some group =>
      have hsave : Speaks (fun _ b => (against sink settings b).saveChanges >>= fun _ => pure true)
          {[.save]} := saveChanges_speaks.bind_silent fun _ => .pure true
      exact change_speaks (recordDeleted_unseen _) hsave ⟨_, rfl⟩
  · exact Command.exists_mem_protocol (!found.isEmpty) (.removeRuleGroup name)

/-! ### linking -/

/-- what is left to write after these links were queued -/
def pending (linked : List Id) : Language Write :=
  (if linked.isEmpty then 1 + batch .link else star (char .link) * char .save).matches'

theorem exists_mem_pending (linked : List Id) : ∃ w, w ∈ pending linked := by
  cases linked with
  | nil => exact ⟨[], .inl rfl⟩
  | cons id linked => exact ⟨_, Language.append_mem_mul (Language.nil_mem_kstar _) rfl⟩

theorem link_pending (id : Id) (linked : List Id) :
    {[.link]} * pending (id :: linked) ≤ pending linked := by
  have hpending : pending (id :: linked) = {[.link]}∗ * {[.save]} := rfl
  rw [hpending, ← mul_assoc]
  cases linked with
  | nil => exact fun _ h => .inr h
  | cons id' linked => exact mul_le_mul_left mul_kstar_le_kstar _

theorem linkGroups_speaks {β : Type} (name : String) (relyingParty : Id) (linked : List Id)
    (groups : List RuleGroup) {f : List Id → Anywhere β}
    (hf : ∀ linked, Speaks (f linked) (pending linked)) :
    Speaks (fun σ b => (against sink settings b).linkGroups name relyingParty linked groups
      >>= fun linked => f linked σ b) (pending linked) := by
  induction groups generalizing linked with
  | nil => exact hf linked
  | cons group groups ih =>
    unfold linkGroups
    split
    · exact ih linked
    · simp only [bind_assoc]
      refine Speaks.mono ?_ (link_pending group.id linked)
      exact change_speaks (recordLinked_unseen _) (ih _) (exists_mem_pending _)

theorem linkPatterns_speaks {β : Type} (name : String) (linked : List Id) (patterns : List Pattern)
    {f : List Id → Anywhere β} (hf : ∀ linked, Speaks (f linked) (pending linked)) :
    Speaks (fun σ b => (against sink settings b).linkPatterns name linked patterns
      >>= fun linked => f linked σ b) (pending linked) := by
  induction patterns generalizing linked with
  | nil => exact hf linked
  | cons pattern patterns ih =>
    unfold linkPatterns
    simp only [bind_assoc]
    refine lookup_speaks rfl (fun relyingParty => ?_) (exists_mem_pending _)
    refine .silent_bind ruleGroups_speaks (fun groups => ?_) (exists_mem_pending _)
    refine .silent_bind (.unseen (note_unseen _)) (fun _ => ?_) (exists_mem_pending _)
    exact linkGroups_speaks _ _ _ _ fun linked => ih linked

theorem linkAll_speaks (name : String) (patterns : List Pattern) :
    Speaks (fun _ b => (against sink settings b).linkAll name patterns)
      (1 + batch .link).matches' := by
  refine linkPatterns_speaks name [] patterns fun linked => ?_
  cases linked with
  | nil => exact (Speaks.pure ()).mono fun _ h => .inl h
  | cons id linked =>
    refine saveChanges_speaks.mono ?_
    exact le_mul_of_one_le_left' one_le_kstar

/-! ## commands -/

/-- the command starts with its lookup, and writes in the order of its protocol -/
structure Obeys (c : Command) (r : Except ReconcileError Unit) (acts : List Act) : Prop
    extends Spoken (c.protocol (found acts)).matches' r acts where
  looks : (acts = [] ∧ r.isOk = false)
    ∨ ∃ call outcome rest, c.lookup? = some call ∧ acts = .call call outcome :: rest

theorem Obeys.stopped (c : Command) (e : ReconcileError) : Obeys c (.error e) [] where
  begun := c.exists_mem_protocol false
  complete := nofun
  looks := .inl ⟨rfl, rfl⟩

theorem lookupFirst_planned {c : Command} {call : Call} (hcall : c.lookup? = some call)
    (hwrite : call.write? = none) {f : call.Answer → Anywhere Unit}
    (hf : ∀ a, Speaks (f a) (c.protocol (finds (.call call (.ok a)))).matches') :
    Planned (fun σ b => (against sink settings b).ask call >>= fun a => f a σ b) (Obeys c) := by
  have hattempts (outcome : Except StoreError call.Answer) (acts : List Act) :
      attempts (.call call outcome :: acts) = attempts acts := by
    rw [attempts_call, hwrite]
    rfl
  refine Planned.bind (ask_planned call) (fun a => Planned.mono (hf a) ?_) ?_
  · rintro r acts ⟨hbegun, hcomplete⟩ _ ⟨⟩
    rw [← hattempts (.ok a)] at hbegun hcomplete
    exact ⟨⟨hbegun, hcomplete⟩, .inr ⟨call, .ok a, acts, hcall, rfl⟩⟩
  · rintro _ _ ⟨⟩
    rename_i e
    refine ⟨⟨?_, nofun⟩, .inr ⟨call, .error e, [], hcall, rfl⟩⟩
    rw [hattempts]
    exact c.exists_mem_protocol _

theorem replaceParty_speaks (new : AddRelyingParty) (d : RelyingParty.Draft)
    (patterns : List Pattern) (parties : List RelyingParty) :
    Speaks (fun σ b => do
      let old ← (liftM (atMostOne .relyingParty d.name parties) : Run σ _)
      (against sink settings b).tearDownAny old new.removeRelatedRuleGroups
      (against sink settings b).createParty d
      (against sink settings b).linkAll d.name patterns)
      ((Command.addRelyingParty new).protocol (!parties.isEmpty)).matches' := by
  refine .check (fun old hold => ?_) (Command.exists_mem_protocol _ _)
  rw [← atMostOne_isSome hold]
  have hlink := @linkAll_speaks sink settings d.name patterns
  have hcreate := (@createParty_speaks sink settings d).bind (fun _ => hlink) ⟨[], .inl rfl⟩
  have hold := (@tearDownAny_speaks sink settings old new.removeRelatedRuleGroups).bind
    (fun _ => hcreate) ⟨_, Language.append_mem_mul rfl (.inl rfl)⟩
  rw [← mul_assoc] at hold
  exact hold

theorem execute_planned (c : Command) :
    Planned (fun _ b => (against sink settings b).execute c) (Obeys c) := by
  cases c with
  | addRelyingParty new =>
    simp only [execute, addRelyingParty_eq]
    refine Planned.check (fun e _ => .stopped _ e) fun d hd => ?_
    refine Planned.mute_bind (Planned.checks _) (fun patterns => ?_) fun e => .stopped _ e
    refine lookupFirst_planned ?_ rfl fun parties => replaceParty_speaks new d patterns parties
    rw [Command.lookup?, (draft_eq_ok hd).1]
    rfl
  | removeRelyingParty name withRuleGroups =>
    refine Planned.check (fun e _ => .stopped _ e) fun name' hname => ?_
    obtain ⟨⟨⟩, -⟩ := requiredField_eq_ok.mp hname
    refine lookupFirst_planned rfl rfl fun parties => ?_
    refine .check (fun old hold => ?_) (Command.exists_mem_protocol _ _)
    have hfound : finds (.call (.findRelyingParties name) (.ok parties)) = old.isSome :=
      (atMostOne_isSome hold).symm
    rw [hfound]
    cases old with
    | none => exact .unseen (note_unseen _)
    | some old => exact tearDown_speaks old withRuleGroups
  | addRuleGroup name =>
    refine Planned.check (fun e _ => .stopped _ e) fun name' hname => ?_
    obtain ⟨rfl, -⟩ := requiredField_eq_ok.mp hname
    simp only [discard_bind_eq, removeRuleGroupNamed_eq, bind_assoc]
    refine lookupFirst_planned rfl rfl fun groups => ?_
    exact (dropFound_speaks name' groups).bind (fun _ => apply_speaks (recordCreated_unseen _))
      ⟨_, rfl⟩
  | addRule ruleGroup rule =>
    refine Planned.check (fun e _ => .stopped _ e) fun name hname => ?_
    obtain ⟨rfl, -⟩ := requiredField_eq_ok.mp hname
    refine Planned.check (fun e _ => .stopped _ e) fun type _ => ?_
    refine lookupFirst_planned rfl rfl fun groups => ?_
    exact .check (fun group _ => apply_speaks (recordCreated_unseen _))
      (Command.exists_mem_protocol _ _)
  | removeRuleGroup name =>
    refine Planned.check (fun e _ => .stopped _ e) fun name' hname => ?_
    obtain ⟨⟨⟩, -⟩ := requiredField_eq_ok.mp hname
    simp only [removeRuleGroupNamed_eq, bind_assoc]
    refine lookupFirst_planned rfl rfl fun groups => ?_
    refine (dropFound_speaks name groups).bind_silent fun dropped => ?_
    split
    · exact .unseen (note_unseen _)
    · exact .pure ()

end Reconciler
end AccessControl
