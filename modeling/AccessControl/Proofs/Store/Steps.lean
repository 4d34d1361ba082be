import AccessControl.Proofs.Store.Contents
import Mathlib.Logic.Relation

/-!
# What steps keep

`Store.Steps` is any number of steps.  Along them

* a store stays sound and closed, and the same operations fail;
* an identity never comes to stand for another record (`Store.Inherits`);
* no link comes to have the identity of a relying party that is still to come (`LinksUsed.steps`);
* a name that one resource has at most does not come to be shared (`Steps.count_le_one`).
-/

namespace AccessControl.Store

abbrev Steps : Store → Store → Prop := Relation.ReflTransGen Step

theorem Step.steps {s t : Store} (h : s.Step t) : s.Steps t := .single h

theorem Steps.sound {s t : Store} (h : s.Steps t) (hs : s.Sound) : t.Sound := by
  induction h with
  | refl => exact hs
  | tail _ hstep ih => exact ih.step hstep

theorem Steps.closed {s t : Store} (h : s.Steps t) (hs : s.Closed) : t.Closed := by
  induction h with
  | refl => exact hs
  | tail _ hstep ih => exact ih.step hstep

/-! ## what a batch does not touch -/

section
variable (s : Store) (kind : ResourceKind) (id : Id)

theorem remove_eq : s.remove kind id = { s with
    relyingParties := (s.remove kind id).relyingParties
    ruleGroups := (s.remove kind id).ruleGroups
    rules := (s.remove kind id).rules
    keys := (s.remove kind id).keys
    links := (s.remove kind id).links } := by
  cases kind <;> rfl

theorem remove_relyingParties : (s.remove kind id).relyingParties.Sublist s.relyingParties := by
  cases kind with
  | relyingParty => exact List.filter_sublist
  | ruleGroup => exact .refl _
  | rule => exact .refl _
  | relyingPartyKey => exact .refl _
  | ruleGroupLink => exact .refl _

theorem remove_ruleGroups : (s.remove kind id).ruleGroups.Sublist s.ruleGroups := by
  cases kind with
  | ruleGroup => exact List.filter_sublist
  | relyingParty => exact .refl _
  | rule => exact .refl _
  | relyingPartyKey => exact .refl _
  | ruleGroupLink => exact .refl _

theorem links_remove : (s.remove kind id).links.Sublist s.links := by
  cases kind with
  | relyingParty => exact List.filter_sublist
  | ruleGroup => exact List.filter_sublist
  | ruleGroupLink => exact List.filter_sublist
  | rule => exact .refl _
  | relyingPartyKey => exact .refl _

end

/-- what holds of the store and its removals and links holds after a batch -/
theorem applyBatch_induction {P : Store → Prop} (hremove : ∀ s kind id, P s → P (s.remove kind id))
    (hlink : ∀ s l, P s → P (s.insertLink l).2) {s : Store} (hs : P s) (batch : List Change) :
    P (s.applyBatch batch) := by
  induction batch generalizing s with
  | nil => exact hs
  | cons c batch ih =>
    cases c with
    | delete kind id =>
      refine ih (s := s.removeIfPresent kind id) ?_
      unfold removeIfPresent
      split
      · exact hremove s kind id hs
      · exact hs
    | link l => exact ih (s := (s.insertLink l).2) (hlink s l hs)

theorem applyBatch_queue (s : Store) (batch : List Change) :
    (s.applyBatch batch).queue = s.queue :=
  applyBatch_induction (P := fun t => t.queue = s.queue)
    (fun t kind id h => by rw [remove_eq, h]) (fun _ _ h => h) rfl batch

theorem applyBatch_failing (s : Store) (batch : List Change) :
    (s.applyBatch batch).failing = s.failing :=
  applyBatch_induction (P := fun t => t.failing = s.failing)
    (fun t kind id h => by rw [remove_eq, h]) (fun _ _ h => h) rfl batch

theorem applyBatch_relyingParties (s : Store) (batch : List Change) :
    (s.applyBatch batch).relyingParties.Sublist s.relyingParties :=
  applyBatch_induction (P := fun t => t.relyingParties.Sublist s.relyingParties)
    (fun t kind id h => (t.remove_relyingParties kind id).trans h) (fun _ _ h => h) (.refl _) batch

theorem applyBatch_ruleGroups (s : Store) (batch : List Change) :
    (s.applyBatch batch).ruleGroups.Sublist s.ruleGroups :=
  applyBatch_induction (P := fun t => t.ruleGroups.Sublist s.ruleGroups)
    (fun t kind id h => (t.remove_ruleGroups kind id).trans h) (fun _ _ h => h) (.refl _) batch

theorem committed_queue (s : Store) : s.committed.queue = [] :=
  applyBatch_queue { s with queue := [] } s.queue

theorem committed_failing (s : Store) : s.committed.failing = s.failing :=
  applyBatch_failing { s with queue := [] } s.queue

theorem committed_relyingParties (s : Store) :
    s.committed.relyingParties.Sublist s.relyingParties :=
  applyBatch_relyingParties { s with queue := [] } s.queue

theorem committed_ruleGroups (s : Store) : s.committed.ruleGroups.Sublist s.ruleGroups :=
  applyBatch_ruleGroups { s with queue := [] } s.queue

theorem insertRelyingParty_frame (s : Store) (new : RelyingParty.Draft) :
    ∃ keys : List Key, (s.insertRelyingParty new).2 = { s with
        created := s.created + 1 + new.keys.length
        relyingParties := s.relyingParties ++ [⟨new.toProfile, s.nextId⟩]
        keys := s.keys ++ keys }
      ∧ ∀ k ∈ keys, ¬ s.Used k.id := by
  rw [insertRelyingParty_eq]
  obtain ⟨keys, heq, -, hnew⟩ := insertContents_eq (s.insertBare new.toProfile) s.nextId new.keys
  exact ⟨keys, heq, fun k hk hu => (hnew k hk).2 (hu.mono (Nat.le_succ _))⟩

theorem Step.failing {s t : Store} (h : s.Step t) : t.failing = s.failing := by
  cases h with
  | none => rfl
  | addRelyingParty new =>
    obtain ⟨keys, heq, -⟩ := s.insertRelyingParty_frame new
    show (s.insertRelyingParty new).2.failing = s.failing
    rw [heq]
  | removeRelyingParty id => rfl
  | addRuleGroup new => rfl
  | addRule new => rfl
  | queue c => rfl
  | reject => rfl
  | commit => exact s.committed_failing

theorem Steps.failing {s t : Store} (h : s.Steps t) : t.failing = s.failing := by
  induction h with
  | refl => rfl
  | tail _ hstep ih => rw [hstep.failing, ih]

/-! ## identities are not reused -/

structure Inherits (s t : Store) : Prop where
  created : s.created ≤ t.created
  relyingParty : ∀ p ∈ t.relyingParties, s.Used p.id → p ∈ s.relyingParties
  ruleGroup : ∀ g ∈ t.ruleGroups, s.Used g.id → g ∈ s.ruleGroups
  key : ∀ k ∈ t.keys, s.Used k.id → k ∈ s.keys

namespace Inherits

theorem refl (s : Store) : s.Inherits s :=
  ⟨Nat.le_refl _, fun _ h _ => h, fun _ h _ => h, fun _ h _ => h⟩

theorem trans {s t u : Store} (hst : s.Inherits t) (htu : t.Inherits u) : s.Inherits u where
  created := hst.created.trans htu.created
  relyingParty := fun p hp hu =>
    hst.relyingParty p (htu.relyingParty p hp (hu.mono hst.created)) hu
  ruleGroup := fun g hg hu => hst.ruleGroup g (htu.ruleGroup g hg (hu.mono hst.created)) hu
  key := fun k hk hu => hst.key k (htu.key k hk (hu.mono hst.created)) hu

theorem remove (s : Store) (kind : ResourceKind) (id : Id) : s.Inherits (s.remove kind id) where
  created := Nat.le_of_eq (s.created_remove kind id).symm
  relyingParty := fun _ hp _ => (s.remove_relyingParties kind id).subset hp
  ruleGroup := fun _ hg _ => (s.remove_ruleGroups kind id).subset hg
  key := fun _ hk _ => (s.keys_remove kind id).subset hk

theorem insertLink (s : Store) (l : Link.Draft) : s.Inherits (s.insertLink l).2 :=
  ⟨Nat.le_succ _, fun _ h _ => h, fun _ h _ => h, fun _ h _ => h⟩

theorem insertRule (s : Store) (new : Rule.Draft) : s.Inherits (s.insertRule new).2 :=
  ⟨Nat.le_succ _, fun _ h _ => h, fun _ h _ => h, fun _ h _ => h⟩

theorem insertRuleGroup (s : Store) (new : RuleGroup.Draft) :
    s.Inherits (s.insertRuleGroup new).2 where
  created := Nat.le_succ _
  relyingParty := fun _ h _ => h
  ruleGroup := fun g hg hu => by
    rcases List.mem_append.mp hg with hg | hg
    · exact hg
    · rw [List.mem_singleton.mp hg] at hu
      exact absurd hu s.not_used_nextId
  key := fun _ h _ => h

theorem insertRelyingParty (s : Store) (new : RelyingParty.Draft) :
    s.Inherits (s.insertRelyingParty new).2 := by
  obtain ⟨keys, heq, hnew⟩ := s.insertRelyingParty_frame new
  rw [heq]
  refine ⟨by show s.created ≤ s.created + 1 + new.keys.length; omega, ?_, fun _ h _ => h, ?_⟩
  · intro p hp hu
    rcases List.mem_append.mp hp with hp | hp
    · exact hp
    · rw [List.mem_singleton.mp hp] at hu
      exact absurd hu s.not_used_nextId
  · intro k hk hu
    rcases List.mem_append.mp hk with hk | hk
    · exact hk
    · exact absurd hu (hnew k hk)

theorem applyBatch (s : Store) (batch : List Change) : s.Inherits (s.applyBatch batch) :=
  applyBatch_induction (P := s.Inherits) (fun t kind id h => h.trans (.remove t kind id))
    (fun t l h => h.trans (.insertLink t l)) (.refl s) batch

/-- only the records matter, and how many there have been -/
theorem congr {s t u : Store} (h : s.Inherits t) (heq : u = { t with
    queue := u.queue, journal := u.journal, failing := u.failing, pageSize := u.pageSize }) :
    s.Inherits u := by
  rw [heq]
  exact ⟨h.created, h.relyingParty, h.ruleGroup, h.key⟩

end Inherits

theorem Step.inherits {s t : Store} (h : s.Step t) : s.Inherits t := by
  cases h with
  | none => exact .refl s
  | addRelyingParty new => exact (Inherits.insertRelyingParty s new).congr rfl
  | removeRelyingParty id => exact (Inherits.remove s .relyingParty id).congr rfl
  | addRuleGroup new => exact (Inherits.insertRuleGroup s new).congr rfl
  | addRule new => exact (Inherits.insertRule s new).congr rfl
  | queue c => exact (Inherits.refl s).congr rfl
  | reject => exact (Inherits.refl s).congr rfl
  | commit =>
    have hq : s.Inherits { s with queue := [] } := (Inherits.refl s).congr rfl
    exact (hq.trans (.applyBatch _ s.queue)).congr rfl

/-! ## relying parties of links -/

/-- no link has the identity of a relying party that is still to come -/
def LinksUsed (s : Store) : Prop := ∀ l ∈ s.links, s.Used l.relyingParty

theorem checkChanges_used {s : Store} (hs : s.Sound) {deleted : List Id} {linked : List Link.Draft}
    {batch : List Change} (hc : s.checkChanges deleted linked batch = .ok ()) {l : Link.Draft}
    (hl : .link l ∈ batch) : s.Used l.relyingParty := by
  induction batch generalizing deleted linked with
  | nil => exact absurd hl List.not_mem_nil
  | cons c batch ih =>
    cases c with
    | delete kind id =>
      exact ih (checkChanges_delete.mp hc).2.2 ((List.mem_cons.mp hl).resolve_left nofun)
    | link l' =>
      obtain ⟨⟨hparty, -⟩, -, -, hrest⟩ := checkChanges_link.mp hc
      rcases List.mem_cons.mp hl with heq | hl
      · cases heq
        obtain ⟨p, hp, hid⟩ := exists?_relyingParty.mp hparty
        exact hid ▸ hs.used _ (relyingParty_mem_identities hp)
      · exact ih hrest hl

theorem links_removeIfPresent (s : Store) (kind : ResourceKind) (id : Id) :
    (s.removeIfPresent kind id).links.Sublist s.links := by
  unfold removeIfPresent
  split
  · exact s.links_remove kind id
  · exact .refl _

/-- after a batch there are old links and those of the batch -/
theorem links_applyBatch {s : Store} {batch : List Change} {l : Link.Stored}
    (hl : l ∈ (s.applyBatch batch).links) : l ∈ s.links ∨ .link l.toDraft ∈ batch := by
  induction batch generalizing s with
  | nil => exact .inl hl
  | cons c batch ih =>
    cases c with
    | delete kind id =>
      rcases ih (s := s.removeIfPresent kind id) hl with h | h
      · exact .inl ((s.links_removeIfPresent kind id).subset h)
      · exact .inr (List.mem_cons_of_mem _ h)
    | link new =>
      rcases ih (s := (s.insertLink new).2) hl with h | h
      · rcases List.mem_append.mp h with h | h
        · exact .inl h
        · rw [List.mem_singleton.mp h]
          exact .inr List.mem_cons_self
      · exact .inr (List.mem_cons_of_mem _ h)

theorem LinksUsed.step {s t : Store} (hs : s.Sound) (h : s.LinksUsed) (hstep : s.Step t) :
    t.LinksUsed := by
  have hcreated := hstep.inherits.created
  have hkeep (l : Link.Stored) (hl : l ∈ s.links) : t.Used l.relyingParty := (h l hl).mono hcreated
  cases hstep with
  | none => exact h
  | addRelyingParty new =>
    obtain ⟨keys, heq, -⟩ := s.insertRelyingParty_frame new
    intro l hl
    refine hkeep l ?_
    rw [heq] at hl
    exact hl
  | removeRelyingParty id => exact fun l hl => hkeep l ((s.links_remove .relyingParty id).subset hl)
  | addRuleGroup new => exact hkeep
  | addRule new => exact hkeep
  | queue c => exact hkeep
  | reject => exact hkeep
  | commit hc =>
    intro l hl
    rcases links_applyBatch (s := { s with queue := [] }) hl with hl | hl
    · exact hkeep l hl
    · exact (checkChanges_used hs hc hl).mono hcreated

theorem LinksUsed.steps {s t : Store} (hs : s.Sound) (h : s.LinksUsed) (hsteps : s.Steps t) :
    t.LinksUsed := by
  induction hsteps with
  | refl => exact h
  | tail hsteps hstep ih => exact ih.step (Steps.sound hsteps hs) hstep

/-! ## names that one resource has at most -/

theorem count_ruleGroup (s : Store) (name : String) :
    s.contents.count (.ruleGroup name) = s.ruleGroups.countP (·.name = name) :=
  List.countP_map ..

theorem count_relyingParty (s : Store) (name : String) :
    s.contents.count (.relyingParty name) = s.relyingParties.countP (·.name = name) :=
  List.countP_map ..

theorem countP_append_le_one {α : Type} {l : List α} {a : α} {p : α → Bool}
    (h : l.countP p ≤ 1) (hnew : p a = true → ∀ b ∈ l, p b ≠ true) : (l ++ [a]).countP p ≤ 1 := by
  rw [List.countP_append, List.countP_singleton]
  by_cases ha : p a = true
  · rw [List.countP_eq_zero.mpr (hnew ha), if_pos ha]
  · rw [if_neg ha]
    exact h

theorem Step.count_le_one {s t : Store} (h : s.Step t) {x : Subject}
    (hx : s.contents.count x ≤ 1) : t.contents.count x ≤ 1 := by
  cases x with
  | ruleGroup name =>
    rw [count_ruleGroup] at hx ⊢
    cases h with
    | none => exact hx
    | addRelyingParty new =>
      obtain ⟨keys, heq, -⟩ := s.insertRelyingParty_frame new
      show (s.insertRelyingParty new).2.ruleGroups.countP _ ≤ 1
      rw [heq]
      exact hx
    | removeRelyingParty id => exact hx
    | addRuleGroup new _ hnew =>
      refine countP_append_le_one hx fun hn g hg hgn => hnew g hg ?_
      rw [of_decide_eq_true hgn]
      exact (of_decide_eq_true hn).symm
    | addRule new => exact hx
    | queue c => exact hx
    | reject => exact hx
    | commit => exact (s.committed_ruleGroups.countP_le).trans hx
  | relyingParty name =>
    rw [count_relyingParty] at hx ⊢
    cases h with
    | none => exact hx
    | addRelyingParty new _ hnew =>
      obtain ⟨keys, heq, -⟩ := s.insertRelyingParty_frame new
      show (s.insertRelyingParty new).2.relyingParties.countP _ ≤ 1
      rw [heq]
      refine countP_append_le_one hx fun hn p hp hpn => hnew p hp ?_
      rw [of_decide_eq_true hpn]
      exact (of_decide_eq_true hn).symm
    | removeRelyingParty id =>
      exact ((s.remove_relyingParties .relyingParty id).countP_le).trans hx
    | addRuleGroup new => exact hx
    | addRule new => exact hx
    | queue c => exact hx
    | reject => exact hx
    | commit => exact (s.committed_relyingParties.countP_le).trans hx

theorem Steps.count_le_one {s t : Store} (h : s.Steps t) {x : Subject}
    (hx : s.contents.count x ≤ 1) : t.contents.count x ≤ 1 := by
  induction h with
  | refl => exact hx
  | tail _ hstep ih => exact hstep.count_le_one ih

theorem Steps.inherits {s t : Store} (h : s.Steps t) : s.Inherits t := by
  induction h with
  | refl => exact .refl s
  | tail _ hstep ih => exact ih.trans hstep.inherits

end AccessControl.Store
