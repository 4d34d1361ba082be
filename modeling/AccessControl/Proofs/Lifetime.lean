import AccessControl.Configuration.Load
import AccessControl.Proofs.Compilation
import AccessControl.Proofs.RelyingParty
import AccessControl.Proofs.Store.Journal

/-!
# Token lifetimes

No relying party is created with a token lifetime of zero, whatever is configured and whatever commands
ask for.

* `Configuration.Grants`     what a command asks for, with the lifetime that the configuration resolves;
* `Store.Gains`              which relying parties have been created between two stores;
* `execute_serves`           a command creates the relying party that it asks for, and no others;
* `executeAll_serves`        so a run creates them in the order of its commands, as far as it comes;
* `Configuration.reconcile_grants`   with the lifetimes that the configuration grants.
-/

namespace AccessControl

/-! ## configured lifetimes -/

namespace Configuration

/-- the whole seconds of the configured lifetime, from one second up to the longest -/
theorem settings_toNat (c : Configuration) : c.settings.defaultTokenLifetime.toNat
    = max 1 (min longest c.tokenLifetime.seconds.toNat) := by
  refine Nat.mod_eq_of_lt ?_
  unfold longest
  exact Nat.lt_of_le_of_lt (Nat.max_le.mpr ⟨by decide, Nat.min_le_left _ _⟩)
    (by decide : UInt32.size - 1 < UInt32.size)

/-- valid lifetimes are within the bounds -/
theorem clamp_of_validate {c : Configuration} (h : c.validate = .ok ()) :
    max 1 (min longest c.tokenLifetime.seconds.toNat) = c.tokenLifetime.seconds.toNat := by
  unfold validate at h
  split at h
  · cases h
  · split at h
    · cases h
    · omega

theorem validate_of_load {f : Folder} {env : Environment} {path : Option String} {c : Configuration}
    (h : load f env path = .ok c) : c.validate = .ok () := by
  unfold load at h
  split at h
  · rename_i c' _
    cases hvalid : c'.validate with
    | error e =>
      rw [hvalid] at h
      cases h
    | ok u =>
      rw [hvalid] at h
      cases h
      exact hvalid
  · cases h

theorem validate_standard : standard.validate = .ok () := by decide +kernel

/-- where there is no file and no variable, the standard is loaded -/
theorem load_of_nothing {f : Folder} {path : Option String}
    (h : source? f (path.getD defaultPath) = some []) : load f [] path = .ok standard := by
  have hgather : gather? f [] (path.getD defaultPath) = some (.table []) := by
    simp [gather?, h, overlay, Environment.overlay]
  have hvalue : ofValue? (.table []) = some standard := by decide +kernel
  unfold load
  rw [hgather, Option.bind_some, hvalue]
  show (standard.validate >>= fun _ => pure standard) = _
  rw [validate_standard]
  rfl

/-- the relying party has the name that the command asks for, and a lifetime from one second up to the
longest: the one that the command asks for, or the configured one -/
structure Grants (c : Configuration) (new : AddRelyingParty) (d : RelyingParty.Draft) : Prop where
  name : new.name = some d.name
  positive : 1 ≤ d.tokenLifetime.toNat
  bounded : d.tokenLifetime.toNat ≤ longest
  lifetime : d.tokenLifetime.toNat = if new.tokenLifetime = 0
    then max 1 (min longest c.tokenLifetime.seconds.toNat) else new.tokenLifetime.toNat

theorem grants_of_draft {c : Configuration} {new : AddRelyingParty} {d : RelyingParty.Draft}
    (h : Reconciler.draft c.settings new = .ok d) : c.Grants new d := by
  obtain ⟨hname, -, -, -, hlifetime, -, -⟩ := draft_profile h
  have hresolved : d.tokenLifetime.toNat = if new.tokenLifetime = 0
      then max 1 (min longest c.tokenLifetime.seconds.toNat) else new.tokenLifetime.toNat := by
    rw [hlifetime, Settings.tokenLifetime, apply_ite UInt32.toNat, settings_toNat]
  refine ⟨hname, ?_, Nat.le_sub_one_of_lt d.tokenLifetime.toNat_lt, hresolved⟩
  rw [hresolved]
  split
  · exact Nat.le_max_left _ _
  · rename_i hne
    exact Nat.one_le_iff_ne_zero.mpr fun hzero => hne (UInt32.toNat_inj.mp hzero)

end Configuration

/-! ## what has been created -/

def JournalEntry.createdParty? : JournalEntry → Option RelyingParty.Draft
  | .addRelyingParty new => some new
  | _ => none

/-- a call leaves an entry that tells what it has created -/
theorem Call.filterMap_entries (s : Store) (c : Call) :
    (c.entries s).filterMap (·.createdParty?) = c.createdParty?.toList := by
  cases c <;> rfl

namespace Store

/-- from `s` to `t` these relying parties have been created, in this order.  Each of them was stored as
it was drafted, and those that are left stand behind those that are left of before. -/
structure Gains (drafts : List RelyingParty.Draft) (s t : Store) : Prop where
  steps : s.Steps t
  journal : ∃ entries, t.journal = s.journal ++ entries
    ∧ entries.filterMap (·.createdParty?) = drafts
  created : ∀ d ∈ drafts, ∃ (u v : Store) (id : Id), s.Steps u ∧ v.Steps t
    ∧ v.relyingParties = u.relyingParties ++ [⟨d.toProfile, id⟩]
  stored : ∃ kept added, t.relyingParties = kept ++ added ∧ kept.Sublist s.relyingParties
    ∧ (added.map (·.toProfile)).Sublist (drafts.map (·.toProfile))

namespace Gains
variable {s t u : Store} {ds ds' : List RelyingParty.Draft}

/-- nothing is created where no entry tells of it and no relying party comes -/
theorem nothing (entries : List JournalEntry) (hsteps : s.Steps t)
    (hjournal : t.journal = s.journal ++ entries)
    (hnone : entries.filterMap (·.createdParty?) = [])
    (hstored : t.relyingParties.Sublist s.relyingParties) : Gains [] s t where
  steps := hsteps
  journal := ⟨entries, hjournal, hnone⟩
  created := fun _ hd => absurd hd List.not_mem_nil
  stored := ⟨t.relyingParties, [], (List.append_nil _).symm, hstored, .slnil⟩

theorem refl (s : Store) : Gains [] s s :=
  nothing [] .refl (List.append_nil _).symm rfl (.refl _)

theorem trans (h : Gains ds s t) (h' : Gains ds' t u) : Gains (ds ++ ds') s u where
  steps := h.steps.trans h'.steps
  journal := by
    obtain ⟨entries, hjournal, hentries⟩ := h.journal
    obtain ⟨entries', hjournal', hentries'⟩ := h'.journal
    refine ⟨entries ++ entries', ?_, ?_⟩
    · rw [hjournal', hjournal, List.append_assoc]
    · rw [List.filterMap_append, hentries, hentries']
  created := fun d hd => by
    rcases List.mem_append.mp hd with hd | hd
    · obtain ⟨v, w, id, hbefore, hafter, hstored⟩ := h.created d hd
      exact ⟨v, w, id, hbefore, hafter.trans h'.steps, hstored⟩
    · obtain ⟨v, w, id, hbefore, hafter, hstored⟩ := h'.created d hd
      exact ⟨v, w, id, h.steps.trans hbefore, hafter, hstored⟩
  stored := by
    obtain ⟨kept, added, heq, hkept, hadded⟩ := h.stored
    obtain ⟨kept', added', heq', hkept', hadded'⟩ := h'.stored
    -- of what was kept by the second part, some was there from the start
    rw [heq] at hkept'
    obtain ⟨old, new, rfl, hold, hnew⟩ := List.sublist_append_iff.mp hkept'
    refine ⟨old, new ++ added', ?_, hold.trans hkept, ?_⟩
    · rw [heq', List.append_assoc]
    · rw [List.map_append, List.map_append]
      exact ((hnew.map _).trans hadded).append hadded'

end Gains

/-! ### calls -/

/-- a call that is refused creates nothing -/
theorem gains_of_error {s t : Store} {c : Call} {e : StoreError} (h : answer c s = (.error e, t)) :
    Gains [] s t := by
  refine .nothing [] (steps_of_answer h) ?_ rfl ?_
  · rw [answer_error h, List.append_nil]
  · rcases answer_refused h with rfl | ⟨-, rfl, -⟩
    · exact .refl _
    · exact .refl _

/-- only the creation of a relying party makes their list longer -/
theorem redo_relyingParties (s : Store) {e : JournalEntry} (h : e.createdParty? = none) :
    (s.redo e).relyingParties.Sublist s.relyingParties := by
  cases e with
  | addRelyingParty new => cases h
  | removeRelyingParty id => exact List.filter_sublist
  | addRuleGroup new => exact .refl _
  | addRule new => exact .refl _
  | delete kind id => exact .refl _
  | link new => exact .refl _
  | saveChanges committed => exact s.committed_relyingParties

theorem redoAll_relyingParties (s : Store) {entries : List JournalEntry}
    (h : entries.filterMap (·.createdParty?) = []) :
    (s.redoAll entries).relyingParties.Sublist s.relyingParties := by
  induction entries generalizing s with
  | nil => exact .refl _
  | cons e entries ih =>
    have hnone := List.filterMap_eq_nil_iff.mp h
    have hrest := ih (s.redo e) (List.filterMap_eq_nil_iff.mpr fun e' he' =>
      hnone e' (List.mem_cons_of_mem e he'))
    exact hrest.trans (s.redo_relyingParties (hnone e List.mem_cons_self))

theorem gains_nothing {s t : Store} {c : Call} {a : c.Answer} (h : answer c s = (.ok a, t))
    (hc : c.createdParty? = none) : Gains [] s t := by
  obtain ⟨hredo, hjournal⟩ := answer_ok h
  have hnone : (c.entries s).filterMap (·.createdParty?) = [] := by
    rw [c.filterMap_entries, hc]
    rfl
  exact .nothing _ (steps_of_answer h) hjournal hnone (hredo ▸ s.redoAll_relyingParties hnone)

theorem gains_created {s t : Store} {new : RelyingParty.Draft} {id : Id}
    (h : answer (.addRelyingParty new) s = (.ok id, t)) : Gains [new] s t := by
  obtain ⟨hredo, hjournal⟩ := answer_ok h
  have hstored : t.relyingParties = s.relyingParties ++ [⟨new.toProfile, s.nextId⟩] := by
    obtain ⟨keys, heq, -⟩ := s.insertRelyingParty_frame new
    rw [hredo]
    show (s.insertRelyingParty new).2.relyingParties = _
    rw [heq]
  refine ⟨steps_of_answer h, ⟨_, hjournal, rfl⟩, fun d hd => ?_, _, _, hstored, .refl _, .refl _⟩
  cases List.mem_singleton.mp hd
  exact ⟨s, t, s.nextId, .refl, .refl, hstored⟩

/-- other calls create nothing -/
theorem gains_lasts : Lasts (Gains []) where
  refl := .refl
  trans _ _ _ h h' := h.trans h'
  call c s hc := by
    cases h : answer c s with
    | mk r t =>
      cases r with
      | ok a => exact gains_nothing h hc
      | error e => exact gains_of_error h

end Store

/-! ## commands -/

namespace Reconciler
variable {sink : Sink} {settings : Settings} {s t u : Store}

/-- from `s` to `t` exactly these relying parties have been created, as `draft` makes them of what is
asked for -/
def Serves (settings : Settings) (asked : List AddRelyingParty) (s t : Store) : Prop :=
  ∃ drafts, List.Forall₂ (fun new d => draft settings new = .ok d) asked drafts
    ∧ s.Gains drafts t

theorem Serves.trans {asked asked' : List AddRelyingParty} (h : Serves settings asked s t)
    (h' : Serves settings asked' t u) : Serves settings (asked ++ asked') s u := by
  obtain ⟨drafts, hdrafts, hgains⟩ := h
  obtain ⟨drafts', hdrafts', hgains'⟩ := h'
  exact ⟨drafts ++ drafts', List.rel_append hdrafts hdrafts', hgains.trans hgains'⟩

theorem serves_nil (h : s.Gains [] t) : Serves settings [] s t := ⟨[], .nil, h⟩

theorem serves_one {new : AddRelyingParty} {d : RelyingParty.Draft} (hd : draft settings new = .ok d)
    (h : s.Gains [d] t) : Serves settings [new] s t := ⟨[d], .cons hd .nil, h⟩

theorem createParty_gains (d : RelyingParty.Draft) (s : Store) :
    ((inMemory sink settings).createParty d).Ends s (fun _ t => s.Gains [d] t)
      (fun _ t => s.Gains [] t) :=
  createParty_answers (fun _ _ h => Store.gains_created h) fun _ _ h => Store.gains_of_error h

/-- what is there before the creation may go, and what comes after it are links -/
theorem addRelyingParty_serves (new : AddRelyingParty) (s : Store) :
    ((inMemory sink settings).addRelyingParty new).Ends s (fun _ t => Serves settings [new] s t)
      (fun _ t => s.Gains [] t ∨ Serves settings [new] s t) := by
  have hother := Store.gains_lasts
  rw [addRelyingParty_eq]
  refine .check (fun _ _ => .inl (.refl s)) fun d hd => ?_
  -- up to the tear-down nothing is created
  have hpatterns : (new.patterns.mapM fun text =>
      (liftM (compilePattern text) : Run Store Pattern)).Goes (Store.Gains []) :=
    .mapM hother (fun _ => .lift hother _) _
  refine hpatterns.ends_bind (fun _ _ => .inl) fun patterns u hu => ?_
  refine (ask_goes hother _ rfl).ends_bind (fun _ _ h => .inl (hu.trans h)) fun found v hv => ?_
  refine .check (fun _ _ => .inl (hu.trans hv)) fun old _ => ?_
  refine (tearDownAny_goes hother old _).ends_bind (fun _ _ h => .inl (hu.trans (hv.trans h)))
    fun _ w hw => ?_
  have hbefore : s.Gains [] w := hu.trans (hv.trans hw)
  refine ((createParty_gains d w).mono (fun _ _ h => h) fun _ _ h => .inl (hbefore.trans h)).bind
    fun _ x hx => ?_
  have hcreated : s.Gains [d] x := hbefore.trans hx
  exact (linkAll_goes hother d.name patterns x).mono
    (fun _ _ h => serves_one hd (hcreated.trans h))
    fun _ _ h => .inr (serves_one hd (hcreated.trans h))

/-- a command that stops has created what it asks for, or nothing -/
theorem execute_serves (c : Command) (s : Store) :
    ((inMemory sink settings).execute c).Ends s
      (fun _ t => Serves settings c.createdParty?.toList s t)
      (fun _ t => ∃ asked, asked <+: c.createdParty?.toList ∧ Serves settings asked s t) := by
  by_cases hadds : ∃ new, c = .addRelyingParty new
  · obtain ⟨new, rfl⟩ := hadds
    refine (addRelyingParty_serves new s).mono (fun _ _ h => h) ?_
    rintro - t (h | h)
    · exact ⟨[], List.nil_prefix, serves_nil h⟩
    · exact ⟨[new], List.prefix_rfl, h⟩
  · have hnone : c.createdParty? = none := by
      cases c with
      | addRelyingParty new => exact absurd ⟨new, rfl⟩ hadds
      | _ => rfl
    rw [hnone]
    exact (execute_goes Store.gains_lasts (fun new heq => hadds ⟨new, heq⟩) s).mono
      (fun _ _ => serves_nil) fun _ _ h => ⟨[], List.prefix_rfl, serves_nil h⟩

/-! ## runs -/

/-- a run that stops has created what the first of its commands ask for -/
theorem executeAll_serves (commands : List Command) (s : Store) :
    ((inMemory sink settings).executeAll commands).Ends s
      (fun _ t => Serves settings (commands.filterMap Command.createdParty?) s t)
      (fun _ t => ∃ asked, asked <+: commands.filterMap Command.createdParty?
        ∧ Serves settings asked s t) := by
  -- what was asked for so far, with what is still to be asked for, is all that is asked for
  let P (cs : List Command) (u : Store) : Prop := ∃ asked,
    asked ++ cs.filterMap Command.createdParty? = commands.filterMap Command.createdParty?
      ∧ Serves settings asked s u
  refine (executeAll_ends (P := P) (fun c cs u hu => ?_) ⟨[], rfl, serves_nil (.refl s)⟩).mono ?_
    fun _ _ h => h
  · obtain ⟨asked, hasked, hserves⟩ := hu
    rw [List.filterMap_eq_flatMap_toList, List.flatMap_cons, ← List.filterMap_eq_flatMap_toList]
      at hasked
    refine (execute_serves c u).mono (fun _ t h => ⟨asked ++ c.createdParty?.toList, ?_,
      hserves.trans h⟩) ?_
    · rw [List.append_assoc, hasked]
    · rintro e t ⟨asked', hfirst, h⟩
      refine ⟨asked ++ asked', ?_, hserves.trans h⟩
      rw [← hasked]
      exact (List.prefix_append_right_inj asked).mpr (hfirst.trans (List.prefix_append _ _))
  · rintro - t ⟨asked, hasked, h⟩
    rw [List.filterMap_nil, List.append_nil] at hasked
    exact hasked ▸ h

end Reconciler

/-! ## lifetimes -/

namespace Configuration
open Reconciler

/-- Under any configuration, valid or not, a run creates relying parties in the order of its commands
and with lifetimes that are granted.  A valid configuration, as every loaded one is, has its lifetime
granted as it is. -/
theorem reconcile_grants (c : Configuration) (sink : Sink) (commands : List Command) (s : Store)
    (notes : List Diagnostic) :
    let run := (inMemory sink c.settings).reconcile commands ⟨s, notes⟩
    (∃ asked drafts, asked <+: commands.filterMap Command.createdParty?
        ∧ (run.1.isOk = true → asked = commands.filterMap Command.createdParty?)
        ∧ List.Forall₂ c.Grants asked drafts ∧ s.Gains drafts run.2.session.store)
      ∧ (c.validate = .ok () → max 1 (min longest c.tokenLifetime.seconds.toNat)
        = c.tokenLifetime.seconds.toNat)
      ∧ ∀ f env path, load f env path = .ok c → c.validate = .ok () := by
  intro run
  refine ⟨?_, clamp_of_validate, fun _ _ _ => validate_of_load⟩
  have hgrants {asked : List AddRelyingParty} {drafts : List RelyingParty.Draft}
      (h : List.Forall₂ (fun new d => draft c.settings new = .ok d) asked drafts) :
      List.Forall₂ c.Grants asked drafts := h.imp fun _ _ => grants_of_draft
  rcases reconcile_ends (executeAll_serves commands s) notes with
    ⟨-, drafts, hdrafts, hgains⟩ | ⟨e, he, asked, hfirst, drafts, hdrafts, hgains⟩
  · exact ⟨_, drafts, List.prefix_rfl, fun _ => rfl, hgrants hdrafts, hgains⟩
  · refine ⟨asked, drafts, hfirst, fun hok => ?_, hgrants hdrafts, hgains⟩
    have hok : ((inMemory sink c.settings).reconcile commands ⟨s, notes⟩).1.isOk = true := hok
    rw [he] at hok
    cases hok

/-- half a second is granted as one second, and the standard is granted as it is -/
theorem reconcile_grants_subsecond :
    let c : Configuration := { tokenLifetime := ⟨0, 500000000⟩ }
    let new (name : String) (seconds : UInt32) : AddRelyingParty :=
      { name := some name, realmAddress := some "urn:portal", tokenLifetime := seconds }
    let commands : List Command :=
      [.addRelyingParty (new "portal" 0), .addRelyingParty (new "other" 7200)]
    let run := (inMemory .keeping c.settings).reconcile commands ⟨{}, []⟩
    c.validate = .error .lifetimeTooShort ∧ run.1.isOk = true
      ∧ run.2.session.store.relyingParties.map (·.tokenLifetime) = [1, 7200]
      ∧ (∃ drafts, List.Forall₂ c.Grants [new "portal" 0, new "other" 7200] drafts
        ∧ ({} : Store).Gains drafts run.2.session.store)
      ∧ standard.validate = .ok ()
      ∧ max 1 (min longest standard.tokenLifetime.seconds.toNat)
        = standard.tokenLifetime.seconds.toNat := by
  intro c new commands run
  have hok : run.1.isOk = true := by decide +kernel
  obtain ⟨⟨asked, drafts, -, hall, hgrants, hgains⟩, -⟩ := reconcile_grants c .keeping commands {} []
  obtain ⟨-, hclamp, hvalid⟩ := reconcile_grants standard .keeping commands {} []
  have hvalid : standard.validate = .ok () := hvalid [] [] (some "/octoacs.toml") (load_of_nothing rfl)
  rw [hall hok] at hgrants
  exact ⟨rfl, hok, by decide +kernel, ⟨drafts, hgrants, hgains⟩, hvalid, hclamp hvalid⟩

end Configuration
end AccessControl
