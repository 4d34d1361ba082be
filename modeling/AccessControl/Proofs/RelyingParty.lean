import AccessControl.Proofs.Reconcile.Replacement

/-!
# What a command leaves of relying parties

For a command that comes to its end on a store with whole references and an empty queue:

* `reconcile_tearsDown`    what has disappeared is the relying party of the name with its keys and
                           links, and the rule groups that it was linked to if they are to be taken;
* `reconcile_establishes`  what has been created is the relying party that the command asks for.

Both speak of records with their identities, so they hold as well where names are not unique.
-/

namespace AccessControl
open Reconciler

variable {sink : Sink} {settings : Settings} {s t : Store}

/-! ## what disappears -/

/-- a command creates one relying party with its keys and links, or nothing -/
def Command.Creates (c : Command) (name : String) (created : Records) : Prop :=
  match c with
  | .addRelyingParty _ => ∃ p : RelyingParty.Stored, p.name = name ∧ created.relyingParties = [p]
      ∧ (∀ k ∈ created.keys, k.relyingParty = p.id) ∧ (∀ l ∈ created.links, l.relyingParty = p.id)
      ∧ created.ruleGroups = [] ∧ created.rules = []
  | _ => created = {}

/-- from `s` to `t` the relying party of this name has gone with its keys and links, and the rule
groups in `taken` with their rules and links, by one deletion each; `created` has come -/
structure Command.TearsDown (c : Command) (s : Store) (name : String) (taken : List Id)
    (created : Records) (t : Store) : Prop
    extends Taken s name c.takesRuleGroups taken, Replaced s name taken created t where
  creates : c.Creates name created
  fresh : ∀ id ∈ created.identities, id ∉ s.identities

/-- with no relying party of the name there is nothing to take -/
theorem Reconciler.Taken.eq_nil {name : String} {withRuleGroups : Bool} {taken : List Id}
    (h : Taken s name withRuleGroups taken) (hnone : s.partiesNamed name = []) : taken = [] := by
  refine List.eq_nil_iff_forall_not_mem.mpr fun id hid => ?_
  have hlinked := ((h.mem_iff id).mp hid).2
  rw [Store.linkedTo_eq_nil hnone] at hlinked
  exact List.not_mem_nil hlinked

theorem execute_tearsDown (hs : s.Sound) (hc : s.Closed) (hq : s.queue = []) {c : Command}
    {name : String} (hsubject : c.subject? = some (.relyingParty name)) :
    ((inMemory sink settings).execute c).Ends s
      (fun _ t => ∃ taken created, c.TearsDown s name taken created t) (fun _ _ => True) := by
  cases c with
  | addRelyingParty new =>
    refine (addRelyingParty_replaces hs hc hq new).mono ?_ fun _ _ h => h
    rintro - t ⟨d, taken, p, created, hd, htaken, hreplaced, hcreation⟩
    have hname : d.name = name := by
      obtain ⟨name', hname', heq⟩ := Option.map_eq_some_iff.mp hsubject
      cases heq
      exact Option.some.inj ((draft_eq_ok hd).1.symm.trans hname')
    rw [hname] at htaken hreplaced
    refine ⟨taken, created, ⟨htaken, hreplaced, ⟨p, ?_, hcreation.relyingParties, hcreation.owned,
      hcreation.owned_links, hcreation.ruleGroups, hcreation.rules⟩, fun id hid hmem => ?_⟩⟩
    · show p.toProfile.name = name
      rw [hcreation.profile, ← hname]
    · exact hcreation.fresh id hid (hs.used id hmem)
  | removeRelyingParty name' withRuleGroups =>
    cases hsubject
    refine (removeRelyingParty_replaces hs hc hq name withRuleGroups).mono ?_ fun _ _ h => h
    rintro - t ⟨taken, htaken, hreplaced⟩
    exact ⟨taken, {}, ⟨htaken, hreplaced, rfl, fun id hid => absurd hid List.not_mem_nil⟩⟩
  | addRuleGroup ruleGroup =>
    obtain ⟨_, -, heq⟩ := Option.map_eq_some_iff.mp hsubject
    cases heq
  | addRule ruleGroup rule => cases hsubject
  | removeRuleGroup ruleGroup => cases hsubject

theorem reconcile_tearsDown (hs : s.Reachable) (hc : s.Closed) (hq : s.queue = []) {c : Command}
    {name : String} (hsubject : c.subject? = some (.relyingParty name)) {notes : List Diagnostic}
    (hok : ((inMemory sink settings).reconcile [c] ⟨s, notes⟩).1.isOk = true) :
    let t := ((inMemory sink settings).reconcile [c] ⟨s, notes⟩).2.session.store
    ∃ taken created, c.TearsDown s name taken created t
      ∧ ((∀ p ∈ s.relyingParties, p.name ≠ name) → t.records = s.records ++ created) := by
  intro t
  have hrun : ∃ taken created, c.TearsDown s name taken created t :=
    reconcile_good (executeAll_singleton (execute_tearsDown hs.sound hc hq hsubject)) hok
  obtain ⟨taken, created, h⟩ := hrun
  refine ⟨taken, created, h, fun hnone => ?_⟩
  have hnone := Store.partiesNamed_eq_nil hnone
  rw [h.records, hnone, h.toTaken.eq_nil hnone, Records.without_nil]

/-- a rule group that another relying party is linked to is taken too -/
theorem reconcile_tearsDown_shared :
    let old : RelyingParty.Draft :=
      ⟨⟨"portal", "urn:portal", none, .saml2, 600, []⟩, some [1], none, none, none, none, none⟩
    let group := ({} : Store).insertRuleGroup ⟨"claims"⟩
    let portal := group.2.insertRelyingParty old
    let other := portal.2.insertRelyingParty { old with name := "other" }
    let s := ((other.2.insertLink ⟨portal.1, group.1⟩).2.insertLink ⟨other.1, group.1⟩).2
    let c := Command.removeRelyingParty "portal" true
    let run := (inMemory .keeping {}).reconcile [c] ⟨s, []⟩
    run.1.isOk = true ∧ run.2.session.store.links = []
      ∧ ∃ taken created, c.TearsDown s "portal" taken created run.2.session.store := by
  intro old group portal other s c run
  have hs : s.Reachable := .seedLink _ (.seedLink _ (.seedRelyingParty _
    (.seedRelyingParty _ (.seedRuleGroup _ (.fresh 50)))))
  have hgroup : group.2.Closed := (Store.Closed.fresh 50).insertRuleGroup ⟨"claims"⟩
  have hother : other.2.Closed := (hgroup.insertRelyingParty old).insertRelyingParty _
  have hc : s.Closed := (hother.insertLink (by decide) (by decide)).insertLink (by decide) (by decide)
  have hok : run.1.isOk = true := by decide +kernel
  obtain ⟨taken, created, h, -⟩ := reconcile_tearsDown hs hc rfl rfl hok
  exact ⟨hok, by decide +kernel, taken, created, h⟩

/-! ## what is created -/

/-- in `t` the relying party `p` is as the command asks for, and what had its name in `s` is gone -/
structure AddRelyingParty.Established (settings : Settings) (new : AddRelyingParty) (s t : Store)
    (p : RelyingParty.Stored) : Prop where
  name : new.name = some p.name
  sole : t.relyingParties.filter (·.name = p.name) = [p]
  realmAddress : new.realmAddress = some p.realmAddress
  replyAddress : p.replyAddress = new.replyAddress
  tokenType : p.tokenType = new.tokenType
  tokenLifetime : p.tokenLifetime = settings.tokenLifetime new.tokenLifetime
  identityProviders : p.identityProviders = new.identityProviders
  keys : (t.keysOf p.id).map (·.content) = new.keys p.name
  /-- the rule groups that are left by the tear-down -/
  ruleGroups : t.ruleGroups = s.ruleGroups.filter fun g =>
    ¬ (new.removeRelatedRuleGroups = true ∧ g.id ∈ s.linkedTo p.name)
  links : ((t.links.filter (·.relyingParty = p.id)).map (·.ruleGroup)).Perm (t.matching new.patterns)
  once : (t.matching new.patterns).Nodup
  /-- the relying party, its keys and its links are new -/
  fresh : p.id ∉ s.identities ∧ (∀ k ∈ t.keysOf p.id, k.id ∉ s.identities)
    ∧ ∀ l ∈ t.links, l.relyingParty = p.id → l.id ∉ s.identities
  replaced : ∀ id ∈ s.partiesNamed p.name, (∀ q ∈ t.relyingParties, q.id ≠ id)
    ∧ (∀ k ∈ t.keys, k.relyingParty ≠ id) ∧ ∀ l ∈ t.links, l.relyingParty ≠ id

namespace Reconciler.Replaced
variable {name : String} {taken : List Id} {created : Records} {d : RelyingParty.Draft}
  {groups : List Id} {p : RelyingParty.Stored} (h : Replaced s name taken created t)
include h

/-- the relying party of a replacement is the only one of its name -/
theorem sole (hp : created.relyingParties = [p]) (hname : p.name = name) :
    t.relyingParties.filter (·.name = p.name) = [p] := by
  rw [h.relyingParties, hp, ← hname]
  exact sole_of_replaced rfl

/-- nothing from before belongs to a new relying party -/
theorem own (hs : s.Sound) (hc : s.Closed) (hp : Creation s d groups p created) :
    t.keysOf p.id = created.keys ∧ t.links.filter (·.relyingParty = p.id) = created.links := by
  constructor
  · unfold Store.keysOf
    rw [h.keys, List.filter_append, List.filter_eq_nil_iff.mpr, List.nil_append,
      List.filter_eq_self.mpr fun k hk => decide_eq_true (hp.owned k hk)]
    intro k hk hown
    obtain ⟨q, hq, hid⟩ := hc.key k (List.mem_filter.mp hk).1
    exact hp.ne hs q hq (hid.trans (of_decide_eq_true hown))
  · rw [h.links, List.filter_append, List.filter_eq_nil_iff.mpr, List.nil_append,
      List.filter_eq_self.mpr fun l hl => decide_eq_true (hp.owned_links l hl)]
    intro l hl hown
    obtain ⟨q, hq, hid⟩ := hc.linkRelyingParty l (List.mem_filter.mp hl).1
    exact hp.ne hs q hq (hid.trans (of_decide_eq_true hown))

/-- nothing refers to what has been replaced -/
theorem gone (hs : s.Sound) (hp : Creation s d groups p created) {id : Id}
    (hid : id ∈ s.partiesNamed name) : (∀ q ∈ t.relyingParties, q.id ≠ id)
      ∧ (∀ k ∈ t.keys, k.relyingParty ≠ id) ∧ ∀ l ∈ t.links, l.relyingParty ≠ id := by
  have hnew : p.id ≠ id := by
    obtain ⟨q, hq, rfl⟩ := List.mem_map.mp hid
    exact (hp.ne hs q (List.mem_filter.mp hq).1).symm
  refine ⟨fun q hq heq => ?_, fun k hk heq => ?_, fun l hl heq => ?_⟩
  · rw [h.relyingParties, hp.relyingParties] at hq
    rcases List.mem_append.mp hq with hq | hq
    · exact of_decide_eq_true (List.mem_filter.mp hq).2 (heq ▸ hid)
    · exact hnew (List.mem_singleton.mp hq ▸ heq)
  · rw [h.keys] at hk
    rcases List.mem_append.mp hk with hk | hk
    · exact of_decide_eq_true (List.mem_filter.mp hk).2 (heq ▸ hid)
    · exact hnew ((hp.owned k hk).symm.trans heq)
  · rw [h.links] at hl
    rcases List.mem_append.mp hl with hl | hl
    · exact (of_decide_eq_true (List.mem_filter.mp hl).2).1 (heq ▸ hid)
    · exact hnew ((hp.owned_links l hl).symm.trans heq)

end Reconciler.Replaced

theorem execute_establishes (hs : s.Sound) (hc : s.Closed) (hq : s.queue = [])
    (new : AddRelyingParty) : ((inMemory sink settings).execute (.addRelyingParty new)).Ends s
      (fun _ t => ∃ p, new.Established settings s t p) (fun _ _ => True) := by
  refine ((addRelyingParty_replaces hs hc hq new).and (execute_walks (.addRelyingParty new) s)).mono
    ?_ fun _ _ _ => trivial
  rintro - t ⟨⟨d, taken, p, created, hd, htaken, h, hp⟩, hsteps⟩
  obtain ⟨hname, hrealm, hreply, htype, hlifetime, hproviders, hdkeys⟩ := draft_profile hd
  have hpname : p.name = d.name := congrArg (·.name) hp.profile
  obtain ⟨hkeys, hlinks⟩ := h.own hs hc hp
  have hmatching : (t.matching new.patterns).Nodup := by
    have hids : (t.ruleGroups.map (·.id)).Nodup := (hsteps.sound hs).ruleGroupIds
    exact hids.sublist (List.filter_sublist.map _)
  have hunused (id : Id) (hid : id ∈ created.identities) : id ∉ s.identities :=
    fun hmem => hp.fresh id hid (hs.used id hmem)
  refine ⟨p, {
    name := hpname ▸ hname
    sole := h.sole hp.relyingParties hpname
    realmAddress := hrealm.trans (congrArg (some ·.realmAddress) hp.profile).symm
    replyAddress := (congrArg (·.replyAddress) hp.profile).trans hreply
    tokenType := (congrArg (·.tokenType) hp.profile).trans htype
    tokenLifetime := (congrArg (·.tokenLifetime) hp.profile).trans hlifetime
    identityProviders := (congrArg (·.identityProviders) hp.profile).trans hproviders
    keys := by rw [hkeys, hp.keys, hdkeys, hpname]
    ruleGroups := ?_
    links := ?_
    once := hmatching
    fresh := ⟨hunused _ ?_, fun k hk => hunused _ ?_, fun l hl hown => hunused _ ?_⟩
    replaced := fun id hid => h.gone hs hp (hpname ▸ hid) }⟩
  · rw [h.ruleGroups, hp.ruleGroups, List.append_nil]
    refine List.filter_congr fun g _ => ?_
    rw [decide_eq_decide, htaken.mem_iff, hpname]
  · rw [hlinks]
    have hperm := hp.links.map (·.ruleGroup)
    rw [List.map_map, List.map_map] at hperm
    exact hperm.trans (List.Perm.of_eq (List.map_id _))
  · exact Records.relyingParty_mem_identities (hp.relyingParties ▸ List.mem_singleton.mpr rfl)
  · exact Records.key_mem_identities (hkeys ▸ hk)
  · exact Records.link_mem_identities (hlinks ▸ List.mem_filter.mpr ⟨hl, decide_eq_true hown⟩)

theorem reconcile_establishes (hs : s.Reachable) (hc : s.Closed) (hq : s.queue = [])
    (new : AddRelyingParty) {notes : List Diagnostic}
    (hok : ((inMemory sink settings).reconcile [.addRelyingParty new] ⟨s, notes⟩).1.isOk = true) :
    ∃ p, new.Established settings s
      ((inMemory sink settings).reconcile [.addRelyingParty new] ⟨s, notes⟩).2.session.store p :=
  reconcile_good (executeAll_singleton (execute_establishes hs.sound hc hq new)) hok

/-- both patterns match, and the relying party of before had a key and a link -/
theorem reconcile_establishes_overlapping :
    let old : RelyingParty.Draft :=
      ⟨⟨"portal", "urn:old", none, .saml2, 600, []⟩, some [1], none, none, none, none, none⟩
    let group := ({} : Store).insertRuleGroup ⟨"claims"⟩
    let portal := group.2.insertRelyingParty old
    let s := (portal.2.insertLink ⟨portal.1, group.1⟩).2
    let new : AddRelyingParty := {
      name := some "portal", realmAddress := some "urn:portal", symmetricKey := some []
      patterns := ["^claim", "s$"] }
    let run := (inMemory .keeping {}).reconcile [.addRelyingParty new] ⟨s, []⟩
    run.1.isOk = true ∧ run.2.session.store.links.length = 1
      ∧ ∃ p, new.Established {} s run.2.session.store p := by
  intro old group portal s new run
  have hs : s.Reachable := .seedLink _ (.seedRelyingParty _ (.seedRuleGroup _ (.fresh 50)))
  have hgroup : group.2.Closed := (Store.Closed.fresh 50).insertRuleGroup ⟨"claims"⟩
  have hc : s.Closed := (hgroup.insertRelyingParty old).insertLink (by decide) (by decide)
  have hok : run.1.isOk = true := by decide +kernel
  exact ⟨hok, by decide +kernel, reconcile_establishes hs hc rfl new hok⟩

end AccessControl
