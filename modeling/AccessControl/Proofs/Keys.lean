import AccessControl.Proofs.Reconcile.TearDown
import AccessControl.Proofs.Store.Journal

/-!
# Keys of one relying party

The display name of a key tells its relying party, so the keys of a relying party that shares its name
with no other are found by their names, and only they are.  A tear-down of it finds each of them unless
a change that waited when it began has deleted the key by then.

* `Store.Doomed`             a waiting change deletes the key;
* `Store.Spares`             the other keys are still there, unless they were doomed;
* `tearDown_spares`          a tear-down spares the keys of the others, and what its lookups of keys
                             can miss;
* `Store.keys_resolve`       the whole of it, in every store that calls lead to.
-/

namespace AccessControl

/-- the change deletes a rule group, or one of the keys `own` -/
def Change.Spares (c : Change) (own : List Id) : Prop :=
  (∃ id, c = .delete .ruleGroup id) ∨ ∃ id ∈ own, c = .delete .relyingPartyKey id

namespace Store
variable {s t : Store} {k : Key} {own : List Id}

/-! ## keys and waiting changes -/

/-- a change that waits deletes the key, or its relying party and the key with it -/
def Doomed (s : Store) (k : Key) : Prop :=
  .delete .relyingPartyKey k.id ∈ s.queue ∨ .delete .relyingParty k.relyingParty ∈ s.queue

theorem key_removeIfPresent {kind : ResourceKind} {id : Id} (hk : k ∈ s.keys)
    (hkey : (kind, id) ≠ (.relyingPartyKey, k.id))
    (howner : (kind, id) ≠ (.relyingParty, k.relyingParty)) : k ∈ (s.removeIfPresent kind id).keys := by
  unfold removeIfPresent
  split
  · cases kind with
    | relyingParty =>
      exact List.mem_filter.mpr ⟨hk, decide_eq_true fun h => howner (by rw [h])⟩
    | relyingPartyKey => exact List.mem_filter.mpr ⟨hk, decide_eq_true fun h => hkey (by rw [h])⟩
    | ruleGroup => exact hk
    | rule => exact hk
    | ruleGroupLink => exact hk
  · exact hk

theorem key_applyBatch {batch : List Change} (hk : k ∈ s.keys)
    (hkey : .delete .relyingPartyKey k.id ∉ batch)
    (howner : .delete .relyingParty k.relyingParty ∉ batch) : k ∈ (s.applyBatch batch).keys := by
  induction batch generalizing s with
  | nil => exact hk
  | cons c batch ih =>
    rw [List.mem_cons, not_or] at hkey howner
    refine ih ?_ hkey.2 howner.2
    cases c with
    | link l => exact hk
    | delete kind id =>
      refine key_removeIfPresent hk (fun h => hkey.1 ?_) fun h => howner.1 ?_
      · cases h
        rfl
      · cases h
        rfl

/-- only doomed keys go with a commit -/
theorem key_committed (hk : k ∈ s.keys) : k ∈ s.committed.keys ∨ s.Doomed k := by
  by_cases h : s.Doomed k
  · exact .inr h
  · obtain ⟨hkey, howner⟩ := not_or.mp h
    exact .inl (key_applyBatch (s := { s with queue := [] }) hk hkey howner)

theorem committed_keys (s : Store) : s.committed.keys.Sublist s.keys :=
  applyBatch_induction (P := fun t => t.keys.Sublist s.keys)
    (fun t kind id h => (t.keys_remove kind id).trans h) (fun _ _ h => h)
    (s := { s with queue := [] }) (.refl _) s.queue

/-- from `s` to `t` no keys were asked to be deleted but `own`, and the other keys are still there,
unless they were doomed -/
structure Spares (s : Store) (own : List Id) (t : Store) : Prop where
  keys : t.keys.Sublist s.keys
  queue : ∀ c ∈ t.queue, c ∈ s.queue ∨ c.Spares own
  asked : ∃ added, t.journal = s.journal ++ added
    ∧ ∀ id, .delete .relyingPartyKey id ∈ added → id ∈ own
  spared : ∀ k ∈ s.keys, k.id ∉ own → k ∈ t.keys ∨ s.Doomed k

namespace Spares

theorem refl (s : Store) (own : List Id) : s.Spares own s where
  keys := .refl _
  queue := fun _ hc => .inl hc
  asked := ⟨[], (List.append_nil _).symm, fun _ h => absurd h List.not_mem_nil⟩
  spared := fun _ hk _ => .inl hk

theorem mono {own' : List Id} (h : s.Spares own t) (hown : own ⊆ own') : s.Spares own' t where
  keys := h.keys
  queue := fun c hc => (h.queue c hc).imp_right (.imp_right fun ⟨id, hid, hc⟩ => ⟨id, hown hid, hc⟩)
  asked := by
    obtain ⟨added, hjournal, hadded⟩ := h.asked
    exact ⟨added, hjournal, fun id hid => hown (hadded id hid)⟩
  spared := fun k hk hid => h.spared k hk fun hmem => hid (hown hmem)

/-- more is told in the journal -/
theorem asked_append (h : s.Spares own t) {u : Store} {entries : List JournalEntry}
    (hu : u.journal = t.journal ++ entries)
    (hentries : ∀ id, .delete .relyingPartyKey id ∈ entries → id ∈ own) :
    ∃ added, u.journal = s.journal ++ added
      ∧ ∀ id, .delete .relyingPartyKey id ∈ added → id ∈ own := by
  obtain ⟨added, hjournal, hadded⟩ := h.asked
  refine ⟨added ++ entries, by rw [hu, hjournal, List.append_assoc], fun id hid => ?_⟩
  exact (List.mem_append.mp hid).elim (hadded id) (hentries id)

theorem queueAll (h : s.Spares own t) {changes : List Change}
    (hchanges : ∀ c ∈ changes, c.Spares own) : s.Spares own (t.queueAll changes) where
  keys := h.keys
  queue := fun c hc => (List.mem_append.mp hc).elim (h.queue c) fun hc => .inr (hchanges c hc)
  asked := h.asked_append rfl fun id hid => by
    obtain ⟨c, hc, hentry⟩ := List.mem_map.mp hid
    rcases hchanges c hc with ⟨id', rfl⟩ | ⟨id', hid', rfl⟩
    · cases hentry
    · cases hentry
      exact hid'
  spared := h.spared

theorem clearQueue (h : s.Spares own t) : s.Spares own { t with queue := [] } :=
  ⟨h.keys, fun _ hc => absurd hc List.not_mem_nil, h.asked, h.spared⟩

theorem committed (h : s.Spares own t) : s.Spares own t.committed where
  keys := t.committed_keys.trans h.keys
  queue := fun c hc => by
    rw [t.committed_queue] at hc
    exact absurd hc List.not_mem_nil
  asked := h.asked_append t.committed_journal fun id hid => by
    cases List.mem_singleton.mp hid
  spared := fun k hk hid => by
    rcases h.spared k hk hid with hkt | hdoomed
    · refine (key_committed hkt).imp_right fun hdoomed => ?_
      rcases hdoomed with hc | hc
      · rcases h.queue _ hc with hc | ⟨id, hc⟩ | ⟨id, hmem, hc⟩
        · exact .inl hc
        · cases hc
        · cases hc
          exact absurd hmem hid
      · rcases h.queue _ hc with hc | ⟨id, hc⟩ | ⟨id, -, hc⟩
        · exact .inr hc
        · cases hc
        · cases hc
    · exact .inr hdoomed

theorem remove (h : s.Spares own t) {p : Id} (hown : ∀ k ∈ s.keys, k.relyingParty = p → k.id ∈ own) :
    s.Spares own ((t.remove .relyingParty p).record (.removeRelyingParty p)) where
  keys := List.filter_sublist.trans h.keys
  queue := h.queue
  asked := h.asked_append (u := (t.remove .relyingParty p).record (.removeRelyingParty p)) rfl
    fun id hid => by cases List.mem_singleton.mp hid
  spared := fun k hk hid => (h.spared k hk hid).imp_left fun hkt =>
    List.mem_filter.mpr ⟨hkt, decide_eq_true fun hp => hid (hown k hk hp)⟩

end Spares
end Store

namespace Reconciler
variable {sink : Sink} {settings : Settings} {s t : Store} {own : List Id} {p : RelyingParty.Stored}

/-! ## the phases of a tear-down -/

theorem saveChanges_spares (h : s.Spares own t) :
    (inMemory sink settings).saveChanges.Ends t (fun _ u => s.Spares own u ∧ u.queue = [])
      (fun e u => s.Spares own u ∧ e.isRemote = true) :=
  saveChanges_ends (fun _ => ⟨h.committed, t.committed_queue⟩) (fun _ _ => ⟨h, rfl⟩)
    fun _ _ => ⟨h.clearQueue, rfl⟩

theorem deleteGroups_spares (old : RelyingParty) (withRuleGroups : Bool) :
    ((inMemory sink settings).deleteGroups old withRuleGroups).Ends s
      (fun _ t => s.Spares [] t ∧ (s.queue = [] → t.queue = [])
        ∧ ((withRuleGroups = true ∧ old.links ≠ []) ∨ t = s))
      (fun e t => s.Spares [] t ∧ (e.isRemote = true
        ∨ (withRuleGroups = true ∧ old.links ≠ []) ∧ s.Strands old.links e t)) := by
  have hqueued (links : List Link) : s.Spares [] (s.queueAll (s.groupDeletions links)) := by
    refine (Store.Spares.refl s []).queueAll fun c hc => .inl ?_
    obtain ⟨l, -, hc⟩ := List.mem_flatMap.mp hc
    obtain ⟨g, -, rfl⟩ := List.mem_map.mp hc
    exact ⟨g.id, rfl⟩
  unfold deleteGroups
  split
  · rename_i hflag
    have hflag : withRuleGroups = true ∧ old.links ≠ [] := by simpa using hflag
    refine ((deleteLinkedGroups_resolves [] old.links).mono (fun _ _ h => h) ?_).bind ?_
    · rintro e t ⟨done, l, rest, hsplit, hdone, rfl, he⟩
      exact ⟨hqueued done, he.imp And.left fun he => ⟨hflag, done, l, rest, hsplit, hdone, he, rfl⟩⟩
    · rintro - t ⟨-, rfl⟩
      exact (saveChanges_spares (hqueued _)).mono (fun _ t h => ⟨h.1, fun _ => h.2, .inl hflag⟩)
        fun _ _ h => ⟨h.1, .inl h.2⟩
  · exact .pure ⟨.refl s [], id, .inr rfl⟩

theorem deleteAllKeys_spares (h : s.Spares [] t) {old : RelyingParty}
    (hkeys : ∀ k ∈ old.keys, s.keysNamed k.displayName = [k]) :
    ((inMemory sink settings).deleteAllKeys old).Ends t
      (fun _ u => s.Spares (old.keys.map (·.id)) u ∧ (t.queue = [] → u.queue = []))
      (fun e u => s.Spares (old.keys.map (·.id)) u ∧ (e.isRemote = true ∨ ∃ k ∈ old.keys,
        e = .preconditionViolation .relyingPartyKey k.displayName 0 ∧ k ∉ t.keys)) := by
  have hleft (k) (hk : k ∈ old.keys) :
      t.keysNamed k.displayName = [k] ∨ t.keysNamed k.displayName = [] := by
    have hsub : (t.keysNamed k.displayName).Sublist [k] := hkeys k hk ▸ h.keys.filter _
    exact (List.sublist_singleton.mp hsub).symm
  have hqueued (keys : List Key) (hsub : keys ⊆ old.keys) : s.Spares (old.keys.map (·.id))
      (t.queueAll (keys.map fun k => .delete .relyingPartyKey k.id)) := by
    refine (h.mono (List.nil_subset _)).queueAll fun c hc => .inr ?_
    obtain ⟨k, hk, rfl⟩ := List.mem_map.mp hc
    exact ⟨k.id, List.mem_map_of_mem (hsub hk), rfl⟩
  unfold deleteAllKeys
  split
  · refine ((deleteKeys_resolves hleft).mono (fun _ _ h => h) ?_).bind ?_
    · rintro e u ⟨done, k, rest, hsplit, rfl, he⟩
      refine ⟨hqueued done (hsplit ▸ List.subset_append_left ..), he.imp And.left ?_⟩
      rintro ⟨he, hgone⟩
      have hk : k ∈ old.keys := hsplit ▸ List.mem_append_right done List.mem_cons_self
      refine ⟨k, hk, he, fun hkt => ?_⟩
      have hfound : k ∈ t.keysNamed k.displayName := List.mem_filter.mpr ⟨hkt, decide_eq_true rfl⟩
      rw [hgone] at hfound
      exact absurd hfound List.not_mem_nil
    · rintro - u rfl
      exact (saveChanges_spares (hqueued _ (List.Subset.refl _))).mono
        (fun _ _ h => ⟨h.1, fun _ => h.2⟩) fun _ _ h => ⟨h.1, .inl h.2⟩
  · exact .pure ⟨h.mono (List.nil_subset _), id⟩

theorem removeParty_spares {old : RelyingParty} (h : s.Spares own t)
    (hown : ∀ k ∈ s.keys, k.relyingParty = old.id → k.id ∈ own) :
    ((inMemory sink settings).removeParty old).Ends t
      (fun _ u => s.Spares own u ∧ (t.queue = [] → u.queue = []))
      (fun e u => s.Spares own u ∧ e.isRemote = true) := by
  refine removeRelyingParty_bind ?_ fun _ e => ⟨h, rfl⟩
  exact (emit_quiet _ _).bind ((emit_quiet _ _).bind ((recordDeleted_quiet _).ends
    ⟨h.remove hown, id⟩))

/-! ## the whole tear-down -/

/-- a tear-down of a relying party whose keys are found by their names -/
theorem tearDown_spares {old : RelyingParty}
    (hown : ∀ k ∈ s.keys, k.relyingParty = old.id → k ∈ old.keys)
    (hkeys : ∀ k ∈ old.keys, s.keysNamed k.displayName = [k]) (withRuleGroups : Bool) :
    ((inMemory sink settings).tearDown old withRuleGroups).Ends s
      (fun _ t => s.Spares (old.keys.map (·.id)) t ∧ (s.queue = [] → t.queue = []))
      (fun e t => s.Spares (old.keys.map (·.id)) t
        ∧ (e.isRemote = true ∨ (withRuleGroups = true ∧ old.links ≠ []) ∧ (s.Strands old.links e t
          ∨ ∃ k ∈ old.keys, e = .preconditionViolation .relyingPartyKey k.displayName 0
            ∧ s.Doomed k))) := by
  rw [tearDown_eq]
  refine ((deleteGroups_spares old withRuleGroups).mono (fun _ _ h => h)
    fun e t h => ⟨h.1.mono (List.nil_subset _), h.2.imp_right (.imp_right .inl)⟩).bind ?_
  rintro - t ⟨ht, hidle, hsame⟩
  refine ((deleteAllKeys_spares ht hkeys).mono (fun _ _ h => h) ?_).bind ?_
  · rintro e u ⟨hu, he⟩
    refine ⟨hu, he.imp_right fun ⟨k, hk, he, hgone⟩ => ?_⟩
    have hks : k ∈ s.keys := List.mem_of_mem_filter (hkeys k hk ▸ List.mem_singleton_self k)
    -- without linked rule groups nothing has happened before the lookups
    exact ⟨hsame.resolve_right fun hts => hgone (hts ▸ hks), .inr ⟨k, hk, he,
      (ht.spared k hks List.not_mem_nil).resolve_left hgone⟩⟩
  · rintro - u ⟨hu, hidle'⟩
    refine (removeParty_spares hu fun k hk hid => ?_).mono ?_ fun _ _ h => ⟨h.1, .inl h.2⟩
    · exact List.mem_map_of_mem (hown k hk hid)
    · exact fun _ _ h => ⟨h.1, fun hq => h.2 (hidle' (hidle hq))⟩

end Reconciler

/-! ## keys and their names -/

/-- the keys of a relying party that shares its name with no other -/
theorem Store.keys_of_sole {s : Store} (hs : s.Sound) {name : String} {v : RelyingParty}
    (hv : s.relyingPartiesNamed name = [v]) :
    (∀ k, k ∈ v.keys ↔ k ∈ s.keys ∧ k.relyingParty = v.id)
      ∧ ∀ k ∈ v.keys, s.keysNamed k.displayName = [k] := by
  obtain ⟨p, hp, rfl, rfl, hone⟩ := relyingPartiesNamed_eq_singleton hv
  have hmem (k : Key) : k ∈ (s.view p).keys ↔ k ∈ s.keysOf p.id := (List.mergeSort_perm _ _).mem_iff
  refine ⟨fun k => ?_, fun k hk => keysNamed_eq_singleton hs hp hone ((hmem k).mp hk)⟩
  rw [hmem, keysOf, List.mem_filter, decide_eq_true_iff]
  rfl

/-- what a tear-down of `v` that starts in `s` does to keys: it asks for no deletion but of the keys of
`v`, and the others are still there, unless a change that waited deletes them -/
structure Store.KeepsKeys (s : Store) (v : RelyingParty) (t : Store) : Prop where
  asked : ∃ added, t.journal = s.journal ++ added
    ∧ ∀ id, .delete .relyingPartyKey id ∈ added → ∃ k ∈ v.keys, k.id = id
  others : ∀ k ∈ s.keys, k.relyingParty ≠ v.id → k ∈ t.keys ∨ s.Doomed k

theorem Store.Spares.keepsKeys {s t : Store} (hs : s.Sound) {v : RelyingParty}
    (hown : ∀ k ∈ v.keys, k ∈ s.keys ∧ k.relyingParty = v.id)
    (h : s.Spares (v.keys.map (·.id)) t) : s.KeepsKeys v t where
  asked := by
    obtain ⟨added, hjournal, hadded⟩ := h.asked
    exact ⟨added, hjournal, fun id hid => List.mem_map.mp (hadded id hid)⟩
  others := fun k hk howner => h.spared k hk fun hid => by
    obtain ⟨k', hk', hid⟩ := List.mem_map.mp hid
    obtain ⟨hk', hv⟩ := hown k' hk'
    rw [← hs.key_eq hk' hk hid] at howner
    exact howner hv

/-- every key belongs to a relying party, and a relying party alone of its name has its keys alone of
theirs; a tear-down of it leaves the keys of others alone, and misses a key only if linked rule groups
go first and a change that waited deletes the key along with them -/
theorem Store.keys_resolve {s : Store} (hs : s.Reachable) :
    (∀ k ∈ s.keys, ∃ p ∈ s.relyingParties, p.id = k.relyingParty) ∧
    ∀ name v, s.relyingPartiesNamed name = [v] →
      (∀ k ∈ v.keys, answer (.findKeys k.displayName) s = (.ok [k], s)) ∧
      ∀ sink settings withRuleGroups,
        ((Reconciler.inMemory sink settings).tearDown v withRuleGroups).Ends s
          (fun _ t => s.KeepsKeys v t)
          (fun e t => s.KeepsKeys v t ∧ ∀ displayName found,
            e = .preconditionViolation .relyingPartyKey displayName found →
              found = 0 ∧ withRuleGroups = true ∧ v.links ≠ []
                ∧ ∃ k ∈ v.keys, k.displayName = displayName ∧ s.Doomed k) := by
  have hsound := hs.sound
  refine ⟨fun k hk => ?_, fun name v hv => ?_⟩
  · obtain ⟨p, hp, hid, -⟩ := hsound.keyOwner k hk
    exact ⟨p, hp, hid⟩
  obtain ⟨hown, hkeys⟩ := keys_of_sole hsound hv
  have hkeeps {t : Store} (h : s.Spares (v.keys.map (·.id)) t) : s.KeepsKeys v t :=
    h.keepsKeys hsound fun k hk => (hown k).mp hk
  refine ⟨fun k hk => ?_, fun sink settings withRuleGroups => ?_⟩
  · show (Except.ok (s.keysNamed k.displayName), s) = _
    rw [hkeys k hk]
  · refine (Reconciler.tearDown_spares (fun k hk hid => (hown k).mpr ⟨hk, hid⟩) hkeys
      withRuleGroups).mono (fun _ t ht => hkeeps ht.1) ?_
    rintro e t ⟨ht, he⟩
    refine ⟨hkeeps ht, fun displayName found h => ?_⟩
    subst h
    rcases he with he | ⟨hflag, hgroup | ⟨k, hk, he, hdoomed⟩⟩
    · cases he
    · obtain ⟨done, l, rest, -, -, ⟨he, -⟩, -⟩ := hgroup
      cases he
    · cases he
      exact ⟨rfl, hflag.1, hflag.2, k, hk, rfl, hdoomed⟩

/-- the deletion of the key waits while the tear-down looks up the linked rule group, and is committed
with it -/
theorem Store.keys_missed :
    let new : RelyingParty.Draft :=
      ⟨⟨"portal", "urn:portal", none, .saml2, 600, []⟩, some [1], none, none, none, none, none⟩
    let portal := ({} : Store).insertRelyingParty new
    let group := portal.2.insertRuleGroup ⟨"g"⟩
    let linked := (group.2.insertLink ⟨portal.1, group.1⟩).2
    let s := (answer (.delete .relyingPartyKey (Id.nth 2)) linked).2
    s.Reachable ∧ ∃ v, s.relyingPartiesNamed "portal" = [v]
      ∧ ((Reconciler.inMemory .keeping {}).tearDown v true { session := ⟨s, []⟩ }).1
        = .error (.preconditionViolation .relyingPartyKey "portal-symmetric-key" 0) := by
  intro new portal group linked s
  refine ⟨.call _ (.seedLink _ (.seedRuleGroup _ (.seedRelyingParty new (.fresh 50)))), ?_⟩
  exact ⟨_, rfl, by decide +kernel⟩

theorem Store.keys_resolve_suffixed :
    let new (name : String) : RelyingParty.Draft :=
      ⟨⟨name, "urn:portal", none, .saml2, 600, []⟩, some [1], none, none, none, none, none⟩
    let portal := ({} : Store).insertRelyingParty (new "portal")
    let s := (portal.2.insertRelyingParty (new "portal-symmetric-key")).2
    s.Reachable ∧ s.keys.length = 2 ∧ ∃ v, s.relyingPartiesNamed "portal" = [v]
      ∧ ∀ k ∈ v.keys, answer (.findKeys k.displayName) s = (.ok [k], s) := by
  intro new portal s
  have hs : s.Reachable := .seedRelyingParty _ (.seedRelyingParty _ (.fresh 50))
  have hv : s.relyingPartiesNamed "portal" = [s.view (s.relyingParties.head (by decide))] := rfl
  exact ⟨hs, by decide, _, hv, ((Store.keys_resolve hs).2 _ _ hv).1⟩

end AccessControl
