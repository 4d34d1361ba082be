import AccessControl.Proofs.Reconcile.Runs
import AccessControl.Proofs.Store.Snapshot

/-!
# Why a command stops

`Command.fault?` is the first thing that keeps a command from being carried out on a store, in the order
in which a run comes upon it: what the command lacks, then the names that are shared.  On a store that
is left to itself, without injected failures or waiting changes, nothing else stops a run of the command
(`reconcile_fault`).  In particular no call is refused on the way, and no key is missing or there twice.

* `Command.fault?`              what is wrong, if anything is;
* `Run.Faults`                  a step stops exactly with what is wrong;
* `deleteLinkedGroups_faults`   the first linked name that is shared stops the deletions;
* `tearDown_faults`, `execute_faults`   the same for a tear-down and for a command.
-/

namespace AccessControl

/-! ## what can be wrong -/

namespace ReconcileError

/-- a required field is unset or empty -/
def unset? (value : Option String) (resource field : String) : Option ReconcileError :=
  if value.getD "" = "" then some (.missingField resource field) else none

/-- a name that should stand for one resource at most stands for more -/
def shared? (kind : ResourceKind) (name : String) (found : Nat) : Option ReconcileError :=
  if 2 ≤ found then some (.preconditionViolation kind name found) else none

/-- neither a refused call nor a name that keys should share -/
def IsOwn (e : ReconcileError) : Prop :=
  e.isRemote = false ∧ ∀ name found, e ≠ .preconditionViolation .relyingPartyKey name found

end ReconcileError

open ReconcileError (unset? shared?)

def SigningCertificate.fault? (c : SigningCertificate) : Option ReconcileError :=
  if c.bytes.getD [] = [] then some (.missingField "signing certificate" "bytes") else none

def AddRelyingParty.fault? (new : AddRelyingParty) : Option ReconcileError :=
  unset? new.name "relying party" "name"
    <|> unset? new.realmAddress "relying party" "realm_address"
    <|> new.signingCertificate.bind (·.fault?)

/-- the first text that is no pattern -/
def Pattern.fault? (texts : List String) : Option ReconcileError :=
  (texts.find? fun text => (Pattern.ofText? text).isNone).map .invalidPattern

namespace Store

/-- the first of the names that several rule groups share -/
def namesFault? (s : Store) (names : List String) : Option ReconcileError :=
  names.findSome? fun g => shared? .ruleGroup g (s.ruleGroups.countP (·.name = g))

/-- the names of the rule groups that are linked to a relying party, in order, are looked at if the
rule groups are to go with it -/
def takenFault? (s : Store) (relyingParty : Id) (withRuleGroups : Bool) : Option ReconcileError :=
  if withRuleGroups then s.namesFault? (sortNames (s.linkedIn relyingParty)) else none

def relyingPartyFault? (s : Store) (name : String) (withRuleGroups : Bool) : Option ReconcileError :=
  shared? .relyingParty name (s.relyingParties.countP (·.name = name))
    <|> (s.relyingParties.find? (·.name = name)).bind fun p => s.takenFault? p.id withRuleGroups

def ruleGroupFault? (s : Store) (name : String) : Option ReconcileError :=
  shared? .ruleGroup name (s.ruleGroups.countP (·.name = name))

/-- a rule goes to the only rule group of a name -/
def ruleFault? (s : Store) (name : String) : Option ReconcileError :=
  let found := s.ruleGroups.countP (·.name = name)
  if found = 1 then none else some (.preconditionViolation .ruleGroup name found)

end Store

def Command.fault? (s : Store) : Command → Option ReconcileError
  | .addRelyingParty new =>
    new.fault? <|> Pattern.fault? new.patterns
      <|> s.relyingPartyFault? (new.name.getD "") new.removeRelatedRuleGroups
  | .removeRelyingParty name withRuleGroups =>
    unset? (some name) "relying party" "name" <|> s.relyingPartyFault? name withRuleGroups
  | .addRuleGroup name => unset? name "rule group" "name" <|> s.ruleGroupFault? (name.getD "")
  | .addRule ruleGroup rule =>
    unset? ruleGroup "rule" "rule_group" <|> unset? rule.inputClaimType "rule" "input_claim_type"
      <|> s.ruleFault? (ruleGroup.getD "")
  | .removeRuleGroup name =>
    unset? (some name) "rule group" "name" <|> s.ruleGroupFault? name

/-! ## checks -/

/-- a check fails exactly with the fault -/
def Explains {α : Type} (fault : Option ReconcileError) (x : Except ReconcileError α) : Prop :=
  match x with
  | .ok _ => fault = none
  | .error e => fault = some e

section
variable {α β : Type} {fault rest : Option ReconcileError} {x : Except ReconcileError α}

/-- of two checks in a row the first one that fails counts -/
theorem Explains.bind {f : α → Except ReconcileError β} (h : Explains fault x)
    (hf : ∀ a, x = .ok a → Explains rest (f a)) : Explains (fault <|> rest) (x >>= f) := by
  cases x with
  | ok a =>
    have hnone : fault = none := h
    rw [hnone]
    exact hf a rfl
  | error e =>
    have hsome : fault = some e := h
    rw [hsome]
    rfl

theorem Explains.map {f : α → β} (h : Explains fault x) : Explains fault (f <$> x) := by
  cases x with
  | ok a => exact h
  | error e => exact h

theorem unset?_explains (value : Option String) (resource field : String) :
    Explains (unset? value resource field) (requiredField value resource field) := by
  cases value with
  | none => rfl
  | some a =>
    unfold requiredField
    by_cases ha : a = ""
    · rw [ha]
      rfl
    · have he : a.isEmpty = false := by simpa using ha
      simp only [he]
      exact if_neg ha

theorem unset?_eq_some {value : Option String} {resource field : String} {e : ReconcileError}
    (h : unset? value resource field = some e) : e = .missingField resource field := by
  unfold unset? at h
  split at h
  · exact (Option.some.inj h).symm
  · cases h

theorem shared?_explains (kind : ResourceKind) (name : String) (found : List α) :
    Explains (shared? kind name found.length) (atMostOne kind name found) := by
  unfold shared?
  cases found with
  | nil => rfl
  | cons a as =>
    cases as with
    | nil => rfl
    | cons b bs => exact if_pos (Nat.le_add_left 2 _)

theorem certificate_explains (c : Option SigningCertificate) :
    Explains (c.bind (·.fault?)) (c.mapM Reconciler.certificateBytes) := by
  cases c with
  | none => rfl
  | some c =>
    have h : Explains c.fault? (Reconciler.certificateBytes c) := by
      unfold SigningCertificate.fault? Reconciler.certificateBytes
      cases c.bytes with
      | none => rfl
      | some bytes =>
        cases bytes with
        | nil => rfl
        | cons b bs => exact if_neg (List.cons_ne_nil b bs)
    rw [Option.mapM_some]
    exact h.map

theorem draft_explains (settings : Settings) (new : AddRelyingParty) :
    Explains new.fault? (Reconciler.draft settings new) := by
  refine (unset?_explains _ _ _).bind fun name _ => (unset?_explains _ _ _).bind fun realm _ => ?_
  exact (certificate_explains new.signingCertificate).map

/-- only unset fields are complained about -/
theorem draft_error {settings : Settings} {new : AddRelyingParty} {e : ReconcileError}
    (h : Reconciler.draft settings new = .error e) : ∃ reason, e = .configuration reason := by
  have hfault := draft_explains settings new
  rw [h] at hfault
  rcases (Option.orElse_eq_some _ _ _).mp hfault with hname | ⟨-, hrest⟩
  · exact ⟨_, unset?_eq_some hname⟩
  rcases (Option.orElse_eq_some _ _ _).mp hrest with hrealm | ⟨-, hcertificate⟩
  · exact ⟨_, unset?_eq_some hrealm⟩
  obtain ⟨c, -, hc⟩ := Option.bind_eq_some_iff.mp hcertificate
  unfold SigningCertificate.fault? at hc
  split at hc
  · exact ⟨_, (Option.some.inj hc).symm⟩
  · cases hc

end

namespace Run
variable {α β : Type} {m : Run Store α} {s : Store} {fault rest : Option ReconcileError}

/-- the step stops exactly with the fault -/
def Faults (m : Run Store α) (s : Store) (fault : Option ReconcileError) : Prop :=
  m.Ends s (fun _ _ => fault = none) (fun e _ => fault = some e)

theorem Faults.check {x : Except ReconcileError α} {f : α → Run Store β} (h : Explains fault x)
    (hf : ∀ a, x = .ok a → (f a).Faults s rest) :
    ((liftM x : Run Store α) >>= f).Faults s (fault <|> rest) := by
  refine Ends.check (fun e he => ?_) fun a ha => ?_
  · rw [he] at h
    have hsome : fault = some e := h
    rw [hsome]
    rfl
  · rw [ha] at h
    have hnone : fault = none := h
    rw [hnone]
    exact hf a ha

end Run

namespace Reconciler
variable {sink : Sink} {settings : Settings} {s w : Store}

/-- a store that is left to itself gives no reason to stop -/
theorem unstopped {α : Type} {m : Run Store α} {good : α → Store → Prop}
    {bad : ReconcileError → Store → Prop}
    (h : m.Ends s good fun e t => Stopped Set.univ True True e s t) (hq : s.queue = [])
    (hf : s.failing = []) (hroom : s.Listable) : m.Ends s good bad :=
  h.mono (fun _ _ h => h) fun _ _ h => absurd hq (h.fault trivial hf hroom).waited

theorem compilePatterns_faults (texts : List String) :
    (texts.mapM fun text => liftM (compilePattern text) : Run Store (List Pattern)).Ends s
      (fun _ t => t = s ∧ Pattern.fault? texts = none) (fun e _ => Pattern.fault? texts = some e) := by
  unfold Pattern.fault?
  induction texts with
  | nil =>
    rw [List.mapM_nil]
    exact .pure ⟨rfl, rfl⟩
  | cons text texts ih =>
    rw [List.mapM_cons]
    unfold compilePattern
    cases hp : Pattern.ofText? text with
    | none =>
      refine .check (fun e he => ?_) fun p hp => ?_
      · cases he
        rw [List.find?_cons_of_pos (by rw [hp]; rfl)]
        rfl
      · cases hp
    | some p =>
      rw [List.find?_cons_of_neg (by rw [hp]; exact Bool.false_ne_true)]
      refine .check (fun e he => ?_) fun p _ => ih.bind fun _ t ht => .pure ht
      cases he

/-! ## tearing down -/

theorem countP_ruleGroups (w : Store) (name : String) :
    w.ruleGroups.countP (·.name = name) = (w.ruleGroupsNamed name).length := by
  rw [Store.length_ruleGroupsNamed, Store.count_ruleGroup]

/-- a name that a link shows is shared, if it does not stand for one rule group -/
theorem shared_of_leads {l : Link} (hl : w.Leads l) :
    shared? .ruleGroup l.ruleGroupName (w.ruleGroups.countP (·.name = l.ruleGroupName))
      = if (w.ruleGroupsNamed l.ruleGroupName).length = 1 then none
        else some (.preconditionViolation .ruleGroup l.ruleGroupName
          (w.ruleGroupsNamed l.ruleGroupName).length) := by
  obtain ⟨g, hg, -, hname⟩ := hl
  have hpos : 0 < (w.ruleGroupsNamed l.ruleGroupName).length :=
    List.length_pos_of_mem (Store.mem_ruleGroupsNamed.mpr ⟨hg, hname⟩)
  rw [countP_ruleGroups]
  unfold shared?
  by_cases hone : (w.ruleGroupsNamed l.ruleGroupName).length = 1
  · rw [if_pos hone, if_neg (by omega)]
  · rw [if_neg hone, if_pos (by omega)]

theorem namesFault_of_resolves {links : List Link} (hlinks : ∀ l ∈ links, w.Leads l)
    (hall : ∀ l ∈ links, w.Resolves l) : w.namesFault? (links.map (·.ruleGroupName)) = none := by
  unfold Store.namesFault?
  rw [List.findSome?_eq_none_iff]
  intro name hname
  obtain ⟨l, hl, rfl⟩ := List.mem_map.mp hname
  rw [shared_of_leads (hlinks l hl)]
  exact if_pos (hall l hl)

/-- a rule group that was seen has no fault, so only the first link to each can have one -/
theorem namesFault_firstLinks {seen : List Id} {links : List Link} (hs : w.Sound)
    (hlinks : ∀ l ∈ links, w.Leads l)
    (hseen : ∀ g ∈ w.ruleGroups, g.id ∈ seen → (w.ruleGroupsNamed g.name).length = 1) :
    w.namesFault? ((firstLinks seen links).map (·.ruleGroupName))
      = w.namesFault? (links.map (·.ruleGroupName)) := by
  unfold Store.namesFault?
  induction links generalizing seen with
  | nil => rfl
  | cons l links ih =>
    obtain ⟨hl, hlinks⟩ := List.forall_mem_cons.mp hlinks
    have hfault := shared_of_leads hl
    obtain ⟨g, hg, hid, hname⟩ := hl
    unfold firstLinks
    split
    · rename_i h
      have hone := hseen g hg (hid ▸ List.contains_iff_mem.mp h)
      rw [hname] at hone
      rw [if_pos hone] at hfault
      rw [List.map_cons, List.findSome?_cons, hfault]
      exact ih hlinks hseen
    · rw [List.map_cons, List.map_cons, List.findSome?_cons, List.findSome?_cons, hfault]
      split
      · rfl
      · rename_i hnone
        have hone : (w.ruleGroupsNamed l.ruleGroupName).length = 1 := by
          by_contra hne
          rw [if_neg hne] at hnone
          cases hnone
        refine ih hlinks fun g₁ hg₁ hmem => ?_
        rcases List.mem_cons.mp hmem with heq | hmem
        · rw [hs.ruleGroup_eq hg₁ hg (heq.trans hid.symm), hname]
          exact hone
        · exact hseen g₁ hg₁ hmem

theorem deleteLinkedGroups_faults {links : List Link} (hs : w.Sound) (hf : w.failing = [])
    (hlinks : ∀ l ∈ links, w.Leads l) :
    ((inMemory sink settings).deleteLinkedGroups [] links).Faults w
      (w.namesFault? (links.map (·.ruleGroupName))) := by
  have hnames : w.namesFault? ((firstLinks [] links).map (·.ruleGroupName))
      = w.namesFault? (links.map (·.ruleGroupName)) :=
    namesFault_firstLinks hs hlinks fun _ _ h => absurd h List.not_mem_nil
  have hfirst : firstLinks [] links ⊆ links := firstLinks_subset [] links
  rw [← hnames]
  refine (deleteLinkedGroups_resolves [] links).mono (fun _ _ h => ?_) ?_
  · exact namesFault_of_resolves (fun l hl => hlinks l (hfirst hl)) h.1
  rintro e t ⟨done, l, rest, hsplit, hdone, -, he⟩
  obtain ⟨rfl, hne⟩ := he.resolve_left fun h => Store.not_fails_of_failing_nil hf .delete h.2
  rw [hsplit] at hfirst ⊢
  have hl : l ∈ links := hfirst (List.mem_append_right done List.mem_cons_self)
  have hbefore := namesFault_of_resolves (fun l hl => hlinks l (hfirst (List.mem_append_left _ hl))) hdone
  unfold Store.namesFault? at hbefore ⊢
  rw [List.map_append, List.findSome?_append, hbefore, List.map_cons, List.findSome?_cons,
    shared_of_leads (hlinks l hl), if_neg hne]
  rfl

/-- without a fault every linked name stands for one rule group -/
theorem count_of_takenFault (hs : s.Sound) (hlinks : s.LinksLead) {id : Id} {withRuleGroups : Bool}
    (h : s.takenFault? id withRuleGroups = none) (hw : withRuleGroups = true) :
    ∀ g ∈ s.linkedIn id, s.contents.count (.ruleGroup g) = 1 := by
  intro name hname
  unfold Store.takenFault? Store.namesFault? at h
  rw [if_pos hw, List.findSome?_eq_none_iff] at h
  have hshared := h name ((List.mergeSort_perm _ _).mem_iff.mpr hname)
  obtain ⟨l, hl, rfl⟩ := Store.mem_linkedIn_iff.mp hname
  rw [shared_of_leads (Store.linksOf_ruleGroup hs hlinks hl)] at hshared
  rw [← Store.length_ruleGroupsNamed]
  by_contra hne
  rw [if_neg hne] at hshared
  cases hshared

/-- as long as no fault is found, whatever stops the phase for linked rule groups is one -/
theorem deleteGroups_stops (hs : s.Sound) (hf : s.failing = []) (hlinks : s.LinksLead)
    {p : RelyingParty.Stored} {withRuleGroups : Bool} :
    ((inMemory sink settings).deleteGroups (s.view p) withRuleGroups).Ends s
      (fun _ _ => s.takenFault? p.id withRuleGroups = none)
      (fun e _ => s.takenFault? p.id withRuleGroups = none
        ∨ s.takenFault? p.id withRuleGroups = some e) := by
  have hfaults : ((inMemory sink settings).deleteLinkedGroups [] (s.linksOf p.id)).Faults s
      (s.namesFault? ((s.linksOf p.id).map (·.ruleGroupName))) :=
    deleteLinkedGroups_faults hs hf fun l hl => Store.linksOf_ruleGroup hs hlinks hl
  rw [Store.linksOf_names] at hfaults
  unfold deleteGroups Store.takenFault?
  split
  · rename_i hflag
    rw [if_pos (Bool.and_eq_true_iff.mp hflag).1]
    refine (hfaults.mono (fun _ _ h => h) fun _ _ h => .inr h).bind fun _ t h => ?_
    exact (Run.Ends.always h).mono (fun _ _ h => h) fun _ _ h => .inl h
  · rename_i hflag
    refine .pure ?_
    split
    · rename_i hw
      have hempty : s.linksOf p.id = [] := by
        cases h : s.linksOf p.id with
        | nil => rfl
        | cons l links =>
          refine absurd ?_ hflag
          rw [hw, show (s.view p).links = l :: links from h]
          rfl
      rw [← Store.linksOf_names, hempty]
      rfl
    · rfl

theorem deleteGroups_faults (hs : s.Sound) (hlinks : s.LinksLead) (hq : s.queue = [])
    (hf : s.failing = []) (hroom : s.Listable) {p : RelyingParty.Stored} {withRuleGroups : Bool} :
    ((inMemory sink settings).deleteGroups (s.view p) withRuleGroups).Ends s
      (fun _ u => s.takenFault? p.id withRuleGroups = none ∧ Intact Set.univ s u
        ∧ u.relyingParties = s.relyingParties ∧ u.keys = s.keys)
      (fun e _ => s.takenFault? p.id withRuleGroups = some e) := by
  have hends : ((inMemory sink settings).deleteGroups (s.view p) withRuleGroups).Ends s _ fun e t =>
      Stopped Set.univ (s.takenFault? p.id withRuleGroups = none) (withRuleGroups = true) e s t :=
    deleteGroups_ends hs hlinks (fun _ => hq) (.nil hq) (fun _ _ _ => Set.mem_univ _)
      fun h => count_of_takenFault hs hlinks h
  refine (hends.and (deleteGroups_stops hs hf hlinks)).mono ?_ ?_
  · rintro - u ⟨⟨hu, hparties, hkeys, -⟩, hnone⟩
    exact ⟨hnone, hu, hparties, hkeys⟩
  · rintro e t ⟨hstopped, hnone | hsome⟩
    · exact absurd hq (hstopped.fault hnone hf hroom).waited
    · exact hsome

/-- what a tear-down leaves -/
structure TornDown (name : String) (s u : Store) : Prop extends Intact Set.univ s u where
  gone : ∀ p ∈ u.relyingParties, p.name ≠ name

theorem tearDown_faults (hs : s.Sound) (hlinks : s.LinksLead) (hq : s.queue = [])
    (hf : s.failing = []) (hroom : s.Listable) {p : RelyingParty.Stored} (hp : p ∈ s.relyingParties)
    (hone : ∀ p' ∈ s.relyingParties, p'.name = p.name → p' = p) {withRuleGroups : Bool} :
    ((inMemory sink settings).tearDown (s.view p) withRuleGroups).Ends s
      (fun _ u => s.takenFault? p.id withRuleGroups = none ∧ TornDown p.name s u)
      (fun e _ => s.takenFault? p.id withRuleGroups = some e) := by
  rw [tearDown_eq]
  refine (deleteGroups_faults hs hlinks hq hf hroom).bind ?_
  rintro - u ⟨hnone, hu, hparties, hkeys⟩
  have hus := hu.steps.sound hs
  have huroom : u.Listable := Nat.lt_of_le_of_lt hu.size hroom
  have huf := hu.steps.failing.trans hf
  have hperm : (s.view p).keys.Perm (u.keysOf p.id) := by
    unfold Store.keysOf
    rw [hkeys]
    exact List.mergeSort_perm _ _
  refine (unstopped (deleteAllKeys_ends hus (hparties ▸ hp) (hparties ▸ hone) hperm hu.within
    (Set.mem_univ _)) (hu.idle hq) huf huroom).bind ?_
  rintro - v ⟨hv, hvparties⟩
  rw [hparties] at hvparties
  have huv := hu.trans hv
  refine (unstopped (removeParty_ends (huv.steps.sound hs) (hvparties ▸ hp) (hvparties ▸ hone) rfl
    hv.within (Set.mem_univ _)) (huv.idle hq) (huv.steps.failing.trans hf)
      (Nat.lt_of_le_of_lt huv.size hroom)).mono ?_ fun _ _ h => h
  rintro - w ⟨hw, hlacks⟩
  exact ⟨hnone, huv.trans hw, fun p' hp' => hlacks _ (List.mem_map_of_mem hp')⟩

/-- what was found under a name is torn down, unless the name or one that goes with it is shared -/
theorem tearDownFound_faults (hs : s.Sound) (hlinks : s.LinksLead) (hq : s.queue = [])
    (hf : s.failing = []) (hroom : s.Listable) {name : String} {withRuleGroups : Bool}
    {old : Option RelyingParty}
    (hold : atMostOne .relyingParty name (s.relyingPartiesNamed name) = .ok old) :
    ((inMemory sink settings).tearDownAny old withRuleGroups).Ends s
      (fun _ u => (s.relyingParties.find? (·.name = name)).bind
        (fun p => s.takenFault? p.id withRuleGroups) = none ∧ TornDown name s u)
      (fun e _ => (s.relyingParties.find? (·.name = name)).bind
        (fun p => s.takenFault? p.id withRuleGroups) = some e) := by
  cases old with
  | none =>
    have hnone := Store.relyingPartiesNamed_eq_nil (atMostOne_eq_none hold)
    have hfind : s.relyingParties.find? (·.name = name) = none :=
      List.find?_eq_none.mpr fun p hp => by simpa using hnone p hp
    rw [hfind]
    exact .pure ⟨rfl, .refl (.nil hq), hnone⟩
  | some v =>
    obtain ⟨p, hp, rfl, rfl, hone⟩ :=
      Store.relyingPartiesNamed_eq_singleton (atMostOne_eq_some hold)
    have hfind : s.relyingParties.find? (·.name = p.name) = some p := by
      cases h : s.relyingParties.find? (·.name = p.name) with
      | none => exact absurd (List.find?_eq_none.mp h p hp) (by simp)
      | some p' =>
        rw [hone p' (List.mem_of_find?_eq_some h) (by simpa using List.find?_some h)]
    rw [hfind]
    exact tearDown_faults hs hlinks hq hf hroom hp hone

/-! ## commands -/

theorem length_relyingParties (s : Store) (name : String) :
    s.relyingParties.countP (·.name = name) = (s.relyingPartiesNamed name).length := by
  rw [Store.length_relyingPartiesNamed, Store.count_relyingParty]

theorem addRelyingParty_faults (hs : s.Sound) (hlinks : s.LinksLead) (hused : s.LinksUsed)
    (hq : s.queue = []) (hf : s.failing = []) (hroom : s.Listable) (new : AddRelyingParty) :
    ((inMemory sink settings).addRelyingParty new).Faults s
      ((Command.addRelyingParty new).fault? s) := by
  rw [addRelyingParty_eq]
  refine .check (draft_explains settings new) fun d hd => ?_
  obtain ⟨hname, hne, hrealm⟩ := draft_eq_ok hd
  refine ((compilePatterns_faults new.patterns).mono (fun _ _ h => h) fun e _ h => ?_).bind ?_
  · rw [h]
    rfl
  rintro patterns t ⟨rfl, hpatterns⟩
  rw [hpatterns, hname]
  refine findRelyingParties_bind ?_
  show Run.Faults _ t (shared? _ _ _ <|> _)
  rw [length_relyingParties]
  refine .check (shared?_explains _ _ _) fun old hold => ?_
  refine (tearDownFound_faults hs hlinks hq hf hroom hold).bind ?_
  rintro - u ⟨hnone, hu⟩
  have hsound := hu.steps.sound hs
  have hfailing := hu.steps.failing.trans hf
  have hfree : ∀ l ∈ u.links, l.relyingParty ≠ u.nextId := fun l hl hid =>
    u.not_used_nextId (hid ▸ hused.steps hs hu.steps l hl)
  refine ((createParty_ends hne hrealm hu.gone).mono (fun _ _ h => h) ?_).bind ?_
  · rintro e w ⟨-, hfails⟩
    exact absurd hfails (Store.not_fails_of_failing_nil hfailing _)
  rintro - v rfl
  have hv := adds hne hrealm hu.gone hfree
  have hqueue := hv.queue.trans (hu.idle hq)
  have hvroom : Store.Listable ((u.insertRelyingParty d).2.record (.addRelyingParty d)) := by
    unfold Store.Listable
    rw [hv.groups]
    exact Nat.lt_of_le_of_lt hu.size hroom
  exact (unstopped (linkAll_ends (o := ∅) (hv.steps.sound hsound) hv.mem hv.sole hv.free patterns
    (.nil hqueue) (.nil hqueue) (Set.mem_univ _)) hqueue (hv.steps.failing.trans hfailing)
      hvroom).mono (fun _ _ _ => hnone) fun _ _ h => h

theorem removeRelyingParty_faults (hs : s.Sound) (hlinks : s.LinksLead) (hq : s.queue = [])
    (hf : s.failing = []) (hroom : s.Listable) (name : String) (withRuleGroups : Bool) :
    ((inMemory sink settings).removeRelyingParty name withRuleGroups).Faults s
      ((Command.removeRelyingParty name withRuleGroups).fault? s) := by
  refine .check (unset?_explains _ _ _) fun g hg => ?_
  obtain ⟨hg, -⟩ := requiredField_eq_ok.mp hg
  cases hg
  refine findRelyingParties_bind ?_
  unfold Store.relyingPartyFault?
  rw [length_relyingParties]
  refine Run.Faults.check (shared?_explains _ _ _) fun old hold => ?_
  have htear : ((inMemory sink settings).tearDownAny old withRuleGroups).Ends s _ _ :=
    tearDownFound_faults hs hlinks hq hf hroom hold
  cases old with
  | none => exact htear.bind fun _ u hu => (note_quiet _).ends hu.1
  | some old => exact htear.mono (fun _ _ hu => hu.1) fun _ _ h => h

theorem removeRuleGroupNamed_faults (hs : s.Sound) (hq : s.queue = []) (hf : s.failing = [])
    (hroom : s.Listable) (name : String) :
    ((inMemory sink settings).removeRuleGroupNamed name).Ends s
      (fun _ u => s.ruleGroupFault? name = none ∧ s.Steps u ∧ ∀ g ∈ u.ruleGroups, g.name ≠ name)
      (fun e _ => s.ruleGroupFault? name = some e) := by
  have hstops : ((inMemory sink settings).removeRuleGroupNamed name).Ends s
      (fun _ _ => s.ruleGroupFault? name = none)
      (fun e _ => s.ruleGroupFault? name = none ∨ s.ruleGroupFault? name = some e) := by
    refine findRuleGroups_bind ?_
    unfold Store.ruleGroupFault?
    rw [countP_ruleGroups]
    have hexplains := shared?_explains .ruleGroup name (s.ruleGroupsNamed name)
    refine .check (fun e he => ?_) fun found hfound => ?_
    · rw [he] at hexplains
      exact .inr hexplains
    · rw [hfound] at hexplains
      exact (Run.Ends.always hexplains).mono (fun _ _ h => h) fun _ _ h => .inl h
  have hfair (h : s.ruleGroupFault? name = none) : s.contents.count (.ruleGroup name) ≤ 1 := by
    rw [Store.count_ruleGroup]
    by_contra hmany
    unfold Store.ruleGroupFault? shared? at h
    rw [if_pos (by omega)] at h
    cases h
  have hends : ((inMemory sink settings).removeRuleGroupNamed name).Ends s _ fun e t =>
      Stopped (∅ ∪ {.ruleGroup name}) (s.ruleGroupFault? name = none) True e s t :=
    removeRuleGroupNamed_ends hs (.nil hq) hfair
  refine (hends.and hstops).mono ?_ ?_
  · rintro - u ⟨⟨-, hu, hgone⟩, hnone⟩
    exact ⟨hnone, hu.steps, hgone⟩
  · rintro e t ⟨hstopped, hnone | hsome⟩
    · exact absurd hq (hstopped.fault hnone hf hroom).waited
    · exact hsome

theorem addRuleGroup_faults (hs : s.Sound) (hq : s.queue = []) (hf : s.failing = [])
    (hroom : s.Listable) (name : Option String) :
    ((inMemory sink settings).addRuleGroup name).Faults s
      ((Command.addRuleGroup name).fault? s) := by
  refine .check (unset?_explains _ _ _) fun g hg => ?_
  obtain ⟨rfl, hne⟩ := requiredField_eq_ok.mp hg
  refine .discard_bind ((removeRuleGroupNamed_faults hs hq hf hroom g).bind ?_)
  rintro - u ⟨hnone, hsteps, hgone⟩
  refine addRuleGroup_bind (fun _ _ id => ?_) fun hrefused e => ?_
  · exact (emit_quiet _ _).bind ((emit_quiet _ _).bind ((recordCreated_quiet _).ends hnone))
  · exact absurd hgone (hrefused (Store.not_fails_of_failing_nil (hsteps.failing.trans hf) _) hne)

theorem removeRuleGroup_faults (hs : s.Sound) (hq : s.queue = []) (hf : s.failing = [])
    (hroom : s.Listable) (name : String) :
    ((inMemory sink settings).removeRuleGroup name).Faults s
      ((Command.removeRuleGroup name).fault? s) := by
  refine .check (unset?_explains _ _ _) fun g hg => ?_
  obtain ⟨hg, -⟩ := requiredField_eq_ok.mp hg
  cases hg
  refine (removeRuleGroupNamed_faults hs hq hf hroom name).bind ?_
  rintro found u ⟨hnone, -, -⟩
  split
  · exact (note_quiet _).ends hnone
  · exact .pure hnone

theorem addRule_faults (hf : s.failing = []) (ruleGroup : Option String)
    (rule : Rule.Declaration) : ((inMemory sink settings).addRule ruleGroup rule).Faults s
      ((Command.addRule ruleGroup rule).fault? s) := by
  refine .check (unset?_explains _ _ _) fun name hname =>
    .check (unset?_explains _ _ _) fun type htype => ?_
  obtain ⟨rfl, -⟩ := requiredField_eq_ok.mp hname
  obtain ⟨-, hne⟩ := requiredField_eq_ok.mp htype
  refine findRuleGroups_bind ?_
  show Run.Faults _ s (s.ruleFault? name)
  unfold Store.ruleFault?
  rw [countP_ruleGroups]
  refine Run.Ends.check (fun e he => ?_) fun g hg => ?_
  · rw [exactlyOne_error he]
    exact if_neg (exactlyOne_eq_error he)
  · have hsingle := exactlyOne_eq_ok.mp hg
    have hone : (s.ruleGroupsNamed name).length = 1 := by
      rw [hsingle]
      rfl
    refine addRule_bind (fun id => ?_) fun hrefused e => ?_
    · exact (emit_quiet _ _).bind ((emit_quiet _ _).bind ((recordCreated_quiet _).ends (if_pos hone)))
    · exact absurd (hrefused (Store.not_fails_of_failing_nil hf _)
        ⟨g, (Store.ruleGroupsNamed_eq_singleton hsingle).1, rfl⟩) hne

theorem execute_faults (hs : s.Sound) (hlinks : s.LinksLead) (hused : s.LinksUsed)
    (hq : s.queue = []) (hf : s.failing = []) (hroom : s.Listable) (c : Command) :
    ((inMemory sink settings).execute c).Faults s (c.fault? s) := by
  cases c with
  | addRelyingParty new => exact addRelyingParty_faults hs hlinks hused hq hf hroom new
  | removeRelyingParty name withRuleGroups =>
    exact removeRelyingParty_faults hs hlinks hq hf hroom name withRuleGroups
  | addRuleGroup name => exact addRuleGroup_faults hs hq hf hroom name
  | addRule ruleGroup rule => exact addRule_faults hf ruleGroup rule
  | removeRuleGroup name => exact removeRuleGroup_faults hs hq hf hroom name

end Reconciler

/-! ## what is never wrong -/

namespace ReconcileError

theorem isOwn_orElse {a b : Option ReconcileError} (ha : ∀ e ∈ a, e.IsOwn)
    (hb : ∀ e ∈ b, e.IsOwn) : ∀ e ∈ (a <|> b), e.IsOwn := by
  cases a with
  | none => exact hb
  | some e => exact ha

theorem isOwn_unset (value : Option String) (resource field : String) :
    ∀ e ∈ unset? value resource field, e.IsOwn := by
  unfold unset?
  split
  · rintro - ⟨⟩
    exact ⟨rfl, nofun⟩
  · exact nofun

theorem isOwn_shared {kind : ResourceKind} (hkind : kind ≠ .relyingPartyKey) (name : String)
    (found : Nat) : ∀ e ∈ shared? kind name found, e.IsOwn := by
  unfold shared?
  split
  · rintro - ⟨⟩
    refine ⟨rfl, fun _ _ h => hkind ?_⟩
    cases h
    rfl
  · exact nofun

end ReconcileError

open ReconcileError (isOwn_orElse isOwn_unset isOwn_shared)

theorem SigningCertificate.isOwn_fault (c : Option SigningCertificate) :
    ∀ e ∈ c.bind (·.fault?), e.IsOwn := by
  intro e he
  obtain ⟨c, -, he⟩ := Option.bind_eq_some_iff.mp he
  unfold SigningCertificate.fault? at he
  split at he
  · cases he
    exact ⟨rfl, nofun⟩
  · cases he

theorem Pattern.isOwn_fault (texts : List String) : ∀ e ∈ Pattern.fault? texts, e.IsOwn := by
  intro e he
  obtain ⟨text, -, rfl⟩ := Option.map_eq_some_iff.mp he
  exact ⟨rfl, nofun⟩

theorem Store.isOwn_takenFault (s : Store) (id : Id) (withRuleGroups : Bool) :
    ∀ e ∈ s.takenFault? id withRuleGroups, e.IsOwn := by
  intro e he
  unfold Store.takenFault? at he
  split at he
  · obtain ⟨g, -, hg⟩ := List.exists_of_findSome?_eq_some he
    exact isOwn_shared (by decide) g _ e hg
  · cases he

theorem Store.isOwn_relyingPartyFault (s : Store) (name : String) (withRuleGroups : Bool) :
    ∀ e ∈ s.relyingPartyFault? name withRuleGroups, e.IsOwn := by
  refine isOwn_orElse (isOwn_shared (by decide) _ _) fun e he => ?_
  obtain ⟨p, -, hp⟩ := Option.bind_eq_some_iff.mp he
  exact s.isOwn_takenFault p.id withRuleGroups e hp

/-- no call is refused, and keys are never counted -/
theorem Command.isOwn_fault (s : Store) (c : Command) : ∀ e ∈ c.fault? s, e.IsOwn := by
  cases c with
  | addRelyingParty new =>
    have hnew : ∀ e ∈ new.fault?, e.IsOwn := isOwn_orElse (isOwn_unset _ _ _)
      (isOwn_orElse (isOwn_unset _ _ _) (SigningCertificate.isOwn_fault _))
    exact isOwn_orElse hnew
      (isOwn_orElse (Pattern.isOwn_fault _) (s.isOwn_relyingPartyFault _ _))
  | removeRelyingParty name withRuleGroups =>
    exact isOwn_orElse (isOwn_unset _ _ _) (s.isOwn_relyingPartyFault _ _)
  | addRuleGroup name => exact isOwn_orElse (isOwn_unset _ _ _) (isOwn_shared (by decide) _ _)
  | addRule ruleGroup rule =>
    refine isOwn_orElse (isOwn_unset _ _ _) (isOwn_orElse (isOwn_unset _ _ _) fun e he => ?_)
    unfold Store.ruleFault? at he
    simp only at he
    split at he
    · cases he
    · cases he
      exact ⟨rfl, nofun⟩
  | removeRuleGroup name => exact isOwn_orElse (isOwn_unset _ _ _) (isOwn_shared (by decide) _ _)

/-! ## runs of one command -/

open Reconciler

variable {sink : Sink} {settings : Settings} {s : Store}

theorem executeAll_faults (hs : s.Sound) (hlinks : s.LinksLead) (hused : s.LinksUsed)
    (hq : s.queue = []) (hf : s.failing = []) (hroom : s.Listable) (c : Command) :
    ((inMemory sink settings).executeAll [c]).Faults s (c.fault? s) := by
  have h : ((inMemory sink settings).executeNoted c).Faults s (c.fault? s) :=
    executeNoted_ends (execute_faults hs hlinks hused hq hf hroom c)
  exact h.bind fun _ _ h => (recordReport_quiet _).bind (.pure h)

/-- Rules may refer to rule groups that are not there.  A continuation token counts rule groups with 64
bits, so there cannot be more. -/
theorem reconcile_fault (hs : s.Reachable)
    (hends : ∀ l ∈ s.links, (∃ p ∈ s.relyingParties, p.id = l.relyingParty)
      ∧ ∃ g ∈ s.ruleGroups, g.id = l.ruleGroup)
    (hq : s.queue = []) (hf : s.failing = []) (hroom : s.ruleGroups.length < UInt64.size)
    (c : Command) (notes : List Diagnostic) :
    let result := ((inMemory sink settings).reconcile [c] ⟨s, notes⟩).1
    (result.isOk = true ↔ c.fault? s = none) ∧ (∀ e, result = .error e ↔ c.fault? s = some e)
      ∧ ∀ e, result = .error e → e.IsOwn := by
  intro result
  have hsound := hs.sound
  have hused : s.LinksUsed := by
    intro l hl
    obtain ⟨⟨p, hp, hid⟩, -⟩ := hends l hl
    exact hid ▸ hsound.used _ (Store.relyingParty_mem_identities hp)
  have hfaults : ((inMemory sink settings).executeAll [c]).Faults s (c.fault? s) :=
    executeAll_faults hsound (fun l hl => (hends l hl).2) hused hq hf hroom c
  rcases reconcile_ends hfaults notes with ⟨hok, hnone⟩ | ⟨e, he, hsome⟩
  · have hno (e : ReconcileError) : result ≠ .error e := fun he => by
      have hok : result.isOk = true := hok
      rw [he] at hok
      cases hok
    rw [hnone]
    exact ⟨⟨fun _ => rfl, fun _ => hok⟩, fun e => ⟨fun he => absurd he (hno e), nofun⟩,
      fun e he => absurd he (hno e)⟩
  · have he : result = .error e := he
    rw [hsome, he]
    refine ⟨⟨nofun, nofun⟩, fun e' => ⟨?_, ?_⟩, ?_⟩
    · rintro ⟨⟩
      rfl
    · rintro ⟨⟩
      rfl
    · intro e' he'
      cases he'
      exact c.isOwn_fault s e hsome

/-- two rule groups share the name that the relying party is linked under -/
theorem reconcile_fault_portal :
    let portal : RelyingParty.Draft :=
      ⟨⟨"portal", "urn:portal", none, .saml2, 600, []⟩, none, none, none, none, none, none⟩
    let parties := (({} : Store).insertRelyingParty portal).2
    let groups := ((parties.insertRuleGroup ⟨"claims"⟩).2.insertRuleGroup ⟨"claims"⟩).2
    let s := (groups.insertLink ⟨Id.nth 1, Id.nth 3⟩).2
    let c := Command.removeRelyingParty "portal" true
    c.fault? s = some (.preconditionViolation .ruleGroup "claims" 2)
      ∧ ((inMemory .keeping {}).reconcile [c] ⟨s, []⟩).1
        = .error (.preconditionViolation .ruleGroup "claims" 2) := by
  intro portal parties groups s c
  have hs : s.Reachable := .seedLink _ (.seedRuleGroup _ (.seedRuleGroup _ (.seedRelyingParty portal
    (.fresh 50))))
  have hends : ∀ l ∈ s.links, (∃ p ∈ s.relyingParties, p.id = l.relyingParty)
      ∧ ∃ g ∈ s.ruleGroups, g.id = l.ruleGroup := by decide +kernel
  have hfault : c.fault? s = some (.preconditionViolation .ruleGroup "claims" 2) := by decide +kernel
  have h := @reconcile_fault .keeping {} s hs hends rfl rfl (by decide) c []
  exact ⟨hfault, (h.2.1 _).mpr hfault⟩

end AccessControl
