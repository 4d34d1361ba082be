import AccessControl.Proofs.Contents.Basic
import AccessControl.Proofs.Store.Write
import Mathlib.Data.List.Nodup

/-!
# Reachable stores

A store comes about by calls, by seeding and by the switches for failures and the journal.
`Store.Reachable` lists these ways.  Two things are said of such a store:

* `Store.Sound`    identities are distinct and below the next one, every key belongs to a relying
                   party that exists and is named after it, and no relying party has two keys of one
                   name; this holds of every reachable store (`Reachable.sound`);
* `Store.Closed`   every link, key and rule refers to records that exist; seeding can break this,
                   calls cannot (`Closed.step`).
-/

namespace AccessControl

/-- the display names that keys of a relying party can have -/
def Key.names (relyingParty : String) : List String :=
  [relyingParty ++ "-symmetric-key", relyingParty ++ "-signing-certificate",
    relyingParty ++ "-encryption-certificate"]

theorem Key.mem_names (d relyingParty : String) : d ∈ Key.names relyingParty ↔
    d = relyingParty ++ "-symmetric-key" ∨ d = relyingParty ++ "-signing-certificate"
      ∨ d = relyingParty ++ "-encryption-certificate" := by
  simp [Key.names]

/-- no two of the endings can be confused, so the display name of a key tells its relying party -/
theorem Key.names_injective {a b d : String} (ha : d ∈ Key.names a) (hb : d ∈ Key.names b) :
    a = b := by
  have reversed {s t : String} (h : s = t) : s.toList.reverse = t.toList.reverse := by rw [h]
  rw [Key.mem_names] at ha hb
  rcases ha with rfl | rfl | rfl <;> rcases hb with hb | hb | hb
  · exact (String.append_left_inj _).mp hb
  · exact absurd (reversed hb) (by simp)
  · exact absurd (reversed hb) (by simp)
  · exact absurd (reversed hb) (by simp)
  · exact (String.append_left_inj _).mp hb
  · exact absurd (reversed hb) (by simp)
  · exact absurd (reversed hb) (by simp)
  · exact absurd (reversed hb) (by simp)
  · exact (String.append_left_inj _).mp hb

theorem RelyingParty.Draft.keys_names (new : RelyingParty.Draft) {k : Key.Content}
    (hk : k ∈ new.keys) : k.displayName ∈ Key.names new.name := by
  rw [Key.mem_names]
  rcases List.mem_append.mp hk with hk | hk
  · rcases List.mem_append.mp hk with hk | hk
    · exact .inl (by grind)
    · exact .inr (.inl (by grind))
  · exact .inr (.inr (by grind))

theorem RelyingParty.Draft.keys_distinct (new : RelyingParty.Draft) :
    (new.keys.map (·.displayName)).Nodup := by
  unfold RelyingParty.Draft.keys
  cases new.symmetricKey <;> cases new.signingCertificate <;> cases new.encryptionCertificate <;>
    simp

namespace Store

def insertContent (s : Store) (relyingParty : Id) (k : Key.Content) : Store :=
  s.insertKey relyingParty k.displayName k.type k.usage k.startDate k.endDate

def insertContents (s : Store) (relyingParty : Id) (ks : List Key.Content) : Store :=
  ks.foldl (fun s k => s.insertContent relyingParty k) s

inductive Reachable : Store → Prop where
  | fresh (pageSize : Nat) : Reachable { pageSize := pageSize }
  | call {s : Store} (c : Call) : Reachable s → Reachable (answer c s).2
  | seedRelyingParty {s : Store} (new : RelyingParty.Draft) :
    Reachable s → Reachable (s.insertRelyingParty new).2
  | seedRuleGroup {s : Store} (new : RuleGroup.Draft) :
    Reachable s → Reachable (s.insertRuleGroup new).2
  | seedRule {s : Store} (new : Rule.Draft) : Reachable s → Reachable (s.insertRule new).2
  | seedLink {s : Store} (new : Link.Draft) : Reachable s → Reachable (s.insertLink new).2
  | failOn {s : Store} (op : Operation) : Reachable s → Reachable (s.failOn op)
  | clearFailures {s : Store} : Reachable s → Reachable s.clearFailures
  | clearJournal {s : Store} : Reachable s → Reachable s.clearJournal

/-- the identities of all records -/
def identities (s : Store) : List Id :=
  s.relyingParties.map (·.id) ++ (s.ruleGroups.map (·.id) ++ (s.rules.map (·.id)
    ++ (s.keys.map (·.id) ++ s.links.map (·.id))))

/-- an identity that is not handed out any more -/
def Used (s : Store) (id : Id) : Prop := id.number ≤ Id.base + s.created

structure Sound (s : Store) : Prop where
  distinct : s.identities.Nodup
  used : ∀ id ∈ s.identities, s.Used id
  keyOwner : ∀ k ∈ s.keys, ∃ p ∈ s.relyingParties,
    p.id = k.relyingParty ∧ k.displayName ∈ Key.names p.name
  keysDistinct : s.keys.Pairwise fun a b =>
    a.relyingParty = b.relyingParty → a.displayName ≠ b.displayName

structure Closed (s : Store) : Prop where
  key : ∀ k ∈ s.keys, ∃ p ∈ s.relyingParties, p.id = k.relyingParty
  rule : ∀ r ∈ s.rules, ∃ g ∈ s.ruleGroups, g.id = r.ruleGroup
  linkRelyingParty : ∀ l ∈ s.links, ∃ p ∈ s.relyingParties, p.id = l.relyingParty
  linkRuleGroup : ∀ l ∈ s.links, ∃ g ∈ s.ruleGroups, g.id = l.ruleGroup

/-! ## identities -/

theorem not_used_nextId (s : Store) : ¬ s.Used s.nextId := by
  show ¬ (Id.base + (s.created + 1) ≤ Id.base + s.created)
  omega

theorem Used.mono {s t : Store} {id : Id} (h : s.Used id) (hst : s.created ≤ t.created) :
    t.Used id := by
  show id.number ≤ Id.base + t.created
  have h' : id.number ≤ Id.base + s.created := h
  omega

theorem used_nextId {s t : Store} (hst : s.created + 1 ≤ t.created) : t.Used s.nextId := by
  show Id.base + (s.created + 1) ≤ Id.base + t.created
  omega

section
variable {s : Store}

theorem relyingParty_mem_identities {p : RelyingParty.Stored} (h : p ∈ s.relyingParties) :
    p.id ∈ s.identities :=
  List.mem_append_left _ (List.mem_map_of_mem h)

theorem ruleGroup_mem_identities {g : RuleGroup} (h : g ∈ s.ruleGroups) : g.id ∈ s.identities :=
  List.mem_append_right _ (List.mem_append_left _ (List.mem_map_of_mem h))

theorem key_mem_identities {k : Key} (h : k ∈ s.keys) : k.id ∈ s.identities :=
  List.mem_append_right _ (List.mem_append_right _ (List.mem_append_right _
    (List.mem_append_left _ (List.mem_map_of_mem h))))

end

namespace Sound
variable {s : Store} (hs : s.Sound)
include hs

theorem nextId_not_mem : s.nextId ∉ s.identities := fun h => s.not_used_nextId (hs.used _ h)

theorem relyingPartyIds : (s.relyingParties.map (·.id)).Nodup :=
  (List.nodup_append.mp hs.distinct).1

theorem ruleGroupIds : (s.ruleGroups.map (·.id)).Nodup :=
  (List.nodup_append.mp (List.nodup_append.mp hs.distinct).2.1).1

theorem keyIds : (s.keys.map (·.id)).Nodup :=
  (List.nodup_append.mp (List.nodup_append.mp (List.nodup_append.mp
    (List.nodup_append.mp hs.distinct).2.1).2.1).2.1).1

/-- a relying party is known by its identity -/
theorem relyingParty_eq {p q : RelyingParty.Stored} (hp : p ∈ s.relyingParties)
    (hq : q ∈ s.relyingParties) (h : p.id = q.id) : p = q :=
  List.inj_on_of_nodup_map hs.relyingPartyIds hp hq h

theorem ruleGroup_eq {g g' : RuleGroup} (hg : g ∈ s.ruleGroups) (hg' : g' ∈ s.ruleGroups)
    (h : g.id = g'.id) : g = g' :=
  List.inj_on_of_nodup_map hs.ruleGroupIds hg hg' h

theorem key_eq {k k' : Key} (hk : k ∈ s.keys) (hk' : k' ∈ s.keys) (h : k.id = k'.id) : k = k' :=
  List.inj_on_of_nodup_map hs.keyIds hk hk' h

end Sound

/-! ## removals -/

theorem identities_remove (s : Store) (kind : ResourceKind) (id : Id) :
    (s.remove kind id).identities.Sublist s.identities := by
  cases kind with
  | relyingParty =>
    exact (List.filter_sublist.map _).append ((List.Sublist.refl _).append
      ((List.Sublist.refl _).append ((List.filter_sublist.map _).append
        (List.filter_sublist.map _))))
  | ruleGroup =>
    exact (List.Sublist.refl _).append ((List.filter_sublist.map _).append
      ((List.filter_sublist.map _).append ((List.Sublist.refl _).append
        (List.filter_sublist.map _))))
  | rule =>
    exact (List.Sublist.refl _).append ((List.Sublist.refl _).append
      ((List.filter_sublist.map _).append (List.Sublist.refl _)))
  | relyingPartyKey =>
    exact (List.Sublist.refl _).append ((List.Sublist.refl _).append ((List.Sublist.refl _).append
      ((List.filter_sublist.map _).append (List.Sublist.refl _))))
  | ruleGroupLink =>
    exact (List.Sublist.refl _).append ((List.Sublist.refl _).append ((List.Sublist.refl _).append
      ((List.Sublist.refl _).append (List.filter_sublist.map _))))

theorem created_remove (s : Store) (kind : ResourceKind) (id : Id) :
    (s.remove kind id).created = s.created := by
  cases kind <;> rfl

theorem keys_remove (s : Store) (kind : ResourceKind) (id : Id) :
    (s.remove kind id).keys.Sublist s.keys := by
  cases kind with
  | relyingParty => exact List.filter_sublist
  | relyingPartyKey => exact List.filter_sublist
  | ruleGroup => exact List.Sublist.refl _
  | rule => exact List.Sublist.refl _
  | ruleGroupLink => exact List.Sublist.refl _

theorem Sound.remove {s : Store} (hs : s.Sound) (kind : ResourceKind) (id : Id) :
    (s.remove kind id).Sound where
  distinct := hs.distinct.sublist (s.identities_remove kind id)
  used := fun i hi => by
    show i.number ≤ Id.base + (s.remove kind id).created
    rw [created_remove]
    exact hs.used i ((s.identities_remove kind id).subset hi)
  keyOwner := fun k hk => by
    obtain ⟨p, hp, hpk, hname⟩ := hs.keyOwner k ((s.keys_remove kind id).subset hk)
    cases kind with
    | relyingParty =>
      have hne : k.relyingParty ≠ id := of_decide_eq_true (List.mem_filter.mp hk).2
      refine ⟨p, List.mem_filter.mpr ⟨hp, decide_eq_true ?_⟩, hpk, hname⟩
      rw [hpk]
      exact hne
    | ruleGroup => exact ⟨p, hp, hpk, hname⟩
    | rule => exact ⟨p, hp, hpk, hname⟩
    | relyingPartyKey => exact ⟨p, hp, hpk, hname⟩
    | ruleGroupLink => exact ⟨p, hp, hpk, hname⟩
  keysDistinct := hs.keysDistinct.sublist (s.keys_remove kind id)

theorem Sound.removeIfPresent {s : Store} (hs : s.Sound) (kind : ResourceKind) (id : Id) :
    (s.removeIfPresent kind id).Sound := by
  unfold Store.removeIfPresent
  split
  · exact hs.remove kind id
  · exact hs

/-! ## insertions -/

/-- a record with the next identity, whatever its kind -/
theorem Sound.insert {s t : Store} (hs : s.Sound) (hids : t.identities.Perm (s.nextId :: s.identities))
    (hcreated : t.created = s.created + 1) :
    t.identities.Nodup ∧ ∀ id ∈ t.identities, t.Used id := by
  constructor
  · rw [hids.nodup_iff, List.nodup_cons]
    exact ⟨hs.nextId_not_mem, hs.distinct⟩
  · intro id hid
    rcases List.mem_cons.mp (hids.subset hid) with rfl | h
    · exact used_nextId (Nat.le_of_eq hcreated.symm)
    · exact (hs.used id h).mono (by omega)

theorem perm_insert (a b c : List Id) (id : Id) :
    (a ++ (b ++ (id :: c))).Perm (id :: (a ++ (b ++ c))) := by
  rw [← List.append_assoc, ← List.append_assoc]
  exact List.perm_middle

theorem Sound.insertRuleGroup {s : Store} (hs : s.Sound) (new : RuleGroup.Draft) :
    (s.insertRuleGroup new).2.Sound := by
  have hids : (s.insertRuleGroup new).2.identities.Perm (s.nextId :: s.identities) := by
    simpa [identities, Store.insertRuleGroup] using
      perm_insert (s.relyingParties.map (·.id)) (s.ruleGroups.map (·.id)) _ s.nextId
  have h := hs.insert hids rfl
  exact ⟨h.1, h.2, hs.keyOwner, hs.keysDistinct⟩

theorem Sound.insertRule {s : Store} (hs : s.Sound) (new : Rule.Draft) :
    (s.insertRule new).2.Sound := by
  have hids : (s.insertRule new).2.identities.Perm (s.nextId :: s.identities) := by
    simpa [identities, Store.insertRule] using
      perm_insert (s.relyingParties.map (·.id) ++ s.ruleGroups.map (·.id)) (s.rules.map (·.id)) _
        s.nextId
  have h := hs.insert hids rfl
  exact ⟨h.1, h.2, hs.keyOwner, hs.keysDistinct⟩

theorem Sound.insertLink {s : Store} (hs : s.Sound) (new : Link.Draft) :
    (s.insertLink new).2.Sound := by
  have hids : (s.insertLink new).2.identities.Perm (s.nextId :: s.identities) := by
    simpa [identities, Store.insertLink] using
      perm_insert (s.relyingParties.map (·.id) ++ (s.ruleGroups.map (·.id)
        ++ (s.rules.map (·.id) ++ s.keys.map (·.id)))) (s.links.map (·.id)) [] s.nextId
  have h := hs.insert hids rfl
  exact ⟨h.1, h.2, hs.keyOwner, hs.keysDistinct⟩

/-! ### relying parties and their keys -/

/-- a relying party of its own, without keys -/
def insertBare (s : Store) (profile : RelyingParty.Profile) : Store :=
  { s with
    created := s.created + 1
    relyingParties := s.relyingParties ++ [⟨profile, s.nextId⟩] }

theorem insertRelyingParty_eq (s : Store) (new : RelyingParty.Draft) :
    (s.insertRelyingParty new).2 = (s.insertBare new.toProfile).insertContents s.nextId new.keys := by
  show Store.insertKeys _ _ _ = _
  unfold Store.insertKeys RelyingParty.Draft.keys
  cases new.symmetricKey <;> cases new.signingCertificate <;> cases new.encryptionCertificate <;> rfl

theorem Sound.insertBare {s : Store} (hs : s.Sound) (profile : RelyingParty.Profile) :
    (s.insertBare profile).Sound := by
  have hids : (s.insertBare profile).identities.Perm (s.nextId :: s.identities) := by
    simp [identities, Store.insertBare]
  have h := hs.insert hids rfl
  refine ⟨h.1, h.2, fun k hk => ?_, hs.keysDistinct⟩
  obtain ⟨p, hp, hpk⟩ := hs.keyOwner k hk
  exact ⟨p, List.mem_append_left _ hp, hpk⟩

/-- a key for a relying party that exists and has no key of this name -/
theorem Sound.insertKey {s : Store} (hs : s.Sound) {p : RelyingParty.Stored}
    (hp : p ∈ s.relyingParties) {k : Key.Content} (hname : k.displayName ∈ Key.names p.name)
    (hnew : ∀ k' ∈ s.keys, k'.relyingParty = p.id → k'.displayName ≠ k.displayName) :
    (s.insertContent p.id k).Sound := by
  have hids : (s.insertContent p.id k).identities.Perm (s.nextId :: s.identities) := by
    simpa [identities, Store.insertContent, Store.insertKey] using
      perm_insert (s.relyingParties.map (·.id) ++ (s.ruleGroups.map (·.id)
        ++ s.rules.map (·.id))) (s.keys.map (·.id)) _ s.nextId
  have h := hs.insert hids rfl
  refine ⟨h.1, h.2, fun k' hk' => ?_, ?_⟩
  · rcases List.mem_append.mp hk' with hk' | hk'
    · exact hs.keyOwner k' hk'
    · rw [List.mem_singleton.mp hk']
      exact ⟨p, hp, rfl, hname⟩
  · refine List.pairwise_append.mpr ⟨hs.keysDistinct, List.pairwise_singleton _ _, ?_⟩
    intro a ha b hb hab
    rw [List.mem_singleton.mp hb] at hab ⊢
    exact hnew a ha hab

theorem Sound.insertContents {s : Store} (hs : s.Sound) {p : RelyingParty.Stored}
    (hp : p ∈ s.relyingParties) {ks : List Key.Content}
    (hnames : ∀ k ∈ ks, k.displayName ∈ Key.names p.name)
    (hdistinct : (ks.map (·.displayName)).Nodup)
    (hnew : ∀ k' ∈ s.keys, k'.relyingParty = p.id → k'.displayName ∉ ks.map (·.displayName)) :
    (s.insertContents p.id ks).Sound := by
  induction ks generalizing s with
  | nil => exact hs
  | cons k ks ih =>
    have hd := List.nodup_cons.mp hdistinct
    have hk : (s.insertContent p.id k).Sound :=
      hs.insertKey hp (hnames k List.mem_cons_self) fun k' hk' hown heq =>
        hnew k' hk' hown (heq ▸ List.mem_cons_self)
    refine ih hk hp (fun k' hk' => hnames k' (List.mem_cons_of_mem _ hk')) hd.2 ?_
    intro k' hk' hown hmem
    rcases List.mem_append.mp hk' with hk' | hk'
    · exact hnew k' hk' hown (List.mem_cons_of_mem _ hmem)
    · rw [List.mem_singleton.mp hk'] at hmem
      exact hd.1 hmem

theorem Sound.insertRelyingParty {s : Store} (hs : s.Sound) (new : RelyingParty.Draft) :
    (s.insertRelyingParty new).2.Sound := by
  rw [insertRelyingParty_eq]
  refine (hs.insertBare new.toProfile).insertContents
    (p := ⟨new.toProfile, s.nextId⟩) (List.mem_append_right _ (List.mem_singleton.mpr rfl))
    (fun k hk => new.keys_names hk) new.keys_distinct ?_
  intro k' hk' hown
  obtain ⟨p, hp, hpk, -⟩ := hs.keyOwner k' hk'
  have hid : p.id = s.nextId := hpk.trans hown
  exact absurd (hid ▸ relyingParty_mem_identities hp) hs.nextId_not_mem

/-! ## calls -/

theorem Sound.applyChange {s : Store} (hs : s.Sound) (c : Change) : (s.applyChange c).Sound := by
  cases c with
  | delete kind id => exact hs.removeIfPresent kind id
  | link new => exact hs.insertLink new

theorem Sound.applyBatch {s : Store} (hs : s.Sound) (batch : List Change) :
    (s.applyBatch batch).Sound := by
  induction batch generalizing s with
  | nil => exact hs
  | cons c batch ih => exact ih (hs.applyChange c)

/-- the queue, the journal and the injected failures do not matter -/
theorem Sound.congr {s t : Store} (hs : s.Sound) (h : t = { s with
    queue := t.queue, journal := t.journal, failing := t.failing, pageSize := t.pageSize }) :
    t.Sound := by
  rw [h]
  exact ⟨hs.distinct, hs.used, hs.keyOwner, hs.keysDistinct⟩

theorem Sound.step {s t : Store} (hs : s.Sound) (h : s.Step t) : t.Sound := by
  cases h with
  | none => exact hs
  | addRelyingParty new => exact (hs.insertRelyingParty new).congr rfl
  | removeRelyingParty id => exact (hs.remove .relyingParty id).congr rfl
  | addRuleGroup new => exact (hs.insertRuleGroup new).congr rfl
  | addRule new => exact (hs.insertRule new).congr rfl
  | queue c => exact hs.congr rfl
  | reject => exact hs.congr rfl
  | commit =>
    have hq : ({ s with queue := [] } : Store).Sound := hs.congr rfl
    exact (hq.applyBatch s.queue).congr rfl

theorem Reachable.sound {s : Store} (h : s.Reachable) : s.Sound := by
  induction h with
  | fresh pageSize =>
    exact ⟨List.nodup_nil, fun id h => absurd h List.not_mem_nil,
      fun k h => absurd h List.not_mem_nil, List.Pairwise.nil⟩
  | call c _ ih => exact ih.step (step_answer c _)
  | seedRelyingParty new _ ih => exact ih.insertRelyingParty new
  | seedRuleGroup new _ ih => exact ih.insertRuleGroup new
  | seedRule new _ ih => exact ih.insertRule new
  | seedLink new _ ih => exact ih.insertLink new
  | failOn op _ ih =>
    unfold Store.failOn
    split
    · exact ih
    · exact ih.congr rfl
  | clearFailures _ ih => exact ih.congr rfl
  | clearJournal _ ih => exact ih.congr rfl

/-! ## references -/

theorem Closed.fresh (pageSize : Nat) : Closed { pageSize := pageSize } where
  key := fun _ h => absurd h List.not_mem_nil
  rule := fun _ h => absurd h List.not_mem_nil
  linkRelyingParty := fun _ h => absurd h List.not_mem_nil
  linkRuleGroup := fun _ h => absurd h List.not_mem_nil

namespace Closed
variable {s : Store} (hs : s.Closed)
include hs

theorem congr {t : Store} (h : t = { s with
    queue := t.queue, journal := t.journal, failing := t.failing, pageSize := t.pageSize }) :
    t.Closed := by
  rw [h]
  exact ⟨hs.key, hs.rule, hs.linkRelyingParty, hs.linkRuleGroup⟩

theorem remove (kind : ResourceKind) (id : Id) : (s.remove kind id).Closed := by
  cases kind with
  | relyingParty =>
    have survives {i : Id} (hi : i ≠ id) (h : ∃ p ∈ s.relyingParties, p.id = i) :
        ∃ p ∈ (s.remove .relyingParty id).relyingParties, p.id = i := by
      obtain ⟨p, hp, rfl⟩ := h
      exact ⟨p, List.mem_filter.mpr ⟨hp, decide_eq_true hi⟩, rfl⟩
    refine ⟨fun k hk => ?_, hs.rule, fun l hl => ?_, fun l hl => ?_⟩
    · have hk' := List.mem_filter.mp hk
      exact survives (of_decide_eq_true hk'.2) (hs.key k hk'.1)
    · have hl' := List.mem_filter.mp hl
      exact survives (of_decide_eq_true hl'.2) (hs.linkRelyingParty l hl'.1)
    · exact hs.linkRuleGroup l (List.mem_filter.mp hl).1
  | ruleGroup =>
    have survives {i : Id} (hi : i ≠ id) (h : ∃ g ∈ s.ruleGroups, g.id = i) :
        ∃ g ∈ (s.remove .ruleGroup id).ruleGroups, g.id = i := by
      obtain ⟨g, hg, rfl⟩ := h
      exact ⟨g, List.mem_filter.mpr ⟨hg, decide_eq_true hi⟩, rfl⟩
    refine ⟨hs.key, fun r hr => ?_, fun l hl => ?_, fun l hl => ?_⟩
    · have hr' := List.mem_filter.mp hr
      exact survives (of_decide_eq_true hr'.2) (hs.rule r hr'.1)
    · exact hs.linkRelyingParty l (List.mem_filter.mp hl).1
    · have hl' := List.mem_filter.mp hl
      exact survives (of_decide_eq_true hl'.2) (hs.linkRuleGroup l hl'.1)
  | rule =>
    exact ⟨hs.key, fun r hr => hs.rule r (List.mem_filter.mp hr).1, hs.linkRelyingParty,
      hs.linkRuleGroup⟩
  | relyingPartyKey =>
    exact ⟨fun k hk => hs.key k (List.mem_filter.mp hk).1, hs.rule, hs.linkRelyingParty,
      hs.linkRuleGroup⟩
  | ruleGroupLink =>
    exact ⟨hs.key, hs.rule, fun l hl => hs.linkRelyingParty l (List.mem_filter.mp hl).1,
      fun l hl => hs.linkRuleGroup l (List.mem_filter.mp hl).1⟩

theorem removeIfPresent (kind : ResourceKind) (id : Id) : (s.removeIfPresent kind id).Closed := by
  unfold Store.removeIfPresent
  split
  · exact hs.remove kind id
  · exact hs

theorem insertRuleGroup (new : RuleGroup.Draft) : (s.insertRuleGroup new).2.Closed := by
  refine ⟨hs.key, fun r hr => ?_, hs.linkRelyingParty, fun l hl => ?_⟩
  · obtain ⟨g, hg, h⟩ := hs.rule r hr
    exact ⟨g, List.mem_append_left _ hg, h⟩
  · obtain ⟨g, hg, h⟩ := hs.linkRuleGroup l hl
    exact ⟨g, List.mem_append_left _ hg, h⟩

theorem insertRule {new : Rule.Draft} (hnew : ∃ g ∈ s.ruleGroups, g.id = new.ruleGroup) :
    (s.insertRule new).2.Closed := by
  refine ⟨hs.key, fun r hr => ?_, hs.linkRelyingParty, hs.linkRuleGroup⟩
  rcases List.mem_append.mp hr with hr | hr
  · exact hs.rule r hr
  · rw [List.mem_singleton.mp hr]
    exact hnew

theorem insertLink {new : Link.Draft} (hp : ∃ p ∈ s.relyingParties, p.id = new.relyingParty)
    (hg : ∃ g ∈ s.ruleGroups, g.id = new.ruleGroup) : (s.insertLink new).2.Closed := by
  refine ⟨hs.key, hs.rule, fun l hl => ?_, fun l hl => ?_⟩
  · rcases List.mem_append.mp hl with hl | hl
    · exact hs.linkRelyingParty l hl
    · rw [List.mem_singleton.mp hl]
      exact hp
  · rcases List.mem_append.mp hl with hl | hl
    · exact hs.linkRuleGroup l hl
    · rw [List.mem_singleton.mp hl]
      exact hg

theorem insertBare (profile : RelyingParty.Profile) : (s.insertBare profile).Closed := by
  refine ⟨fun k hk => ?_, hs.rule, fun l hl => ?_, hs.linkRuleGroup⟩
  · obtain ⟨p, hp, h⟩ := hs.key k hk
    exact ⟨p, List.mem_append_left _ hp, h⟩
  · obtain ⟨p, hp, h⟩ := hs.linkRelyingParty l hl
    exact ⟨p, List.mem_append_left _ hp, h⟩

theorem insertContents {id : Id} (hid : ∃ p ∈ s.relyingParties, p.id = id)
    (ks : List Key.Content) : (s.insertContents id ks).Closed := by
  induction ks generalizing s with
  | nil => exact hs
  | cons k ks ih =>
    have hk : (s.insertContent id k).Closed := by
      refine ⟨fun k' hk' => ?_, hs.rule, hs.linkRelyingParty, hs.linkRuleGroup⟩
      rcases List.mem_append.mp hk' with hk' | hk'
      · exact hs.key k' hk'
      · rw [List.mem_singleton.mp hk']
        exact hid
    exact ih hk hid

theorem insertRelyingParty (new : RelyingParty.Draft) : (s.insertRelyingParty new).2.Closed := by
  rw [insertRelyingParty_eq]
  exact (hs.insertBare new.toProfile).insertContents
    ⟨⟨new.toProfile, s.nextId⟩, List.mem_append_right _ (List.mem_singleton.mpr rfl), rfl⟩ new.keys

end Closed

end Store
end AccessControl
