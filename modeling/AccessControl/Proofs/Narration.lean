import AccessControl.Proofs.Reconcile.Runs
import AccessControl.Proofs.Store.Journal

/-!
# Events, report and journal agree

A run sends out exactly the events that its journal entries tell, and if it comes to its end the report
adds up to what they tell (`reconcile_narrates`).  Nothing is asked of the store: changes may wait in it,
names may be shared, links may lead nowhere, and any operation may be made to fail.

`Run.Narrates m s owed good` says this of a step `m` that starts with the store `s`, where `owed` is what
the last write has to tell and has not told yet.  A step that can stop is only taken with nothing owed.
-/

namespace AccessControl

namespace Run
variable {α β : Type}

/-- between `p` and `q` these entries were made and told, after what was owed -/
structure Told (s : Store) (owed : Account) (entries : List JournalEntry) (p q : Progress Store) :
    Prop where
  known : ∀ e ∈ entries, e.IsTold
  journal : q.session.store.journal = s.journal ++ entries
  events : q.events = p.events ++ owed.events ++ (s.story entries).events

/-- the same of a step that came to its end: the entries lead to the store, and the report has them -/
structure Ended (s : Store) (owed : Account) (entries : List JournalEntry) (p q : Progress Store) :
    Prop where
  steps : s.Steps q.session.store
  store : q.session.store = s.redoAll entries
  report : q.report = p.report + owed.report + (s.story entries).report

theorem Told.nil {s : Store} {p q : Progress Store} (hjournal : q.session.store.journal = s.journal)
    (hevents : q.events = p.events) : Told s 0 [] p q where
  known := fun _ h => absurd h List.not_mem_nil
  journal := by rw [hjournal, List.append_nil]
  events := by
    show q.events = p.events ++ [] ++ []
    rw [hevents, List.append_nil, List.append_nil]

def Narrates (m : Run Store α) (s : Store) (owed : Account) (good : α → Store → Prop) : Prop :=
  ∀ p : Progress Store, p.session.store = s → ∃ entries, Told s owed entries p (m p).2
    ∧ ∀ a, (m p).1 = .ok a → Ended s owed entries p (m p).2 ∧ good a (m p).2.session.store

/-- a step that never stops and leaves the store alone, and tells this -/
def Tells (m : Run Store Unit) (account : Account) : Prop :=
  ∀ p, ∃ q, m p = (.ok (), q) ∧ q.session.store = p.session.store
    ∧ q.events = p.events ++ account.events ∧ q.report = p.report + account.report

namespace Narrates
variable {m : Run Store α} {f : α → Run Store β} {s : Store} {owed rest : Account}
  {good : α → Store → Prop} {next : β → Store → Prop}

theorem pure {a : α} (h : good a s) : (Pure.pure a : Run Store α).Narrates s 0 good := by
  intro p hp
  subst hp
  refine ⟨[], .nil rfl rfl, ?_⟩
  rintro a' ⟨⟩
  refine ⟨⟨.refl, rfl, ?_⟩, h⟩
  show p.report = p.report + 0 + 0
  rw [add_zero, add_zero]

/-- what the second step owes may be put off past the first one if it is no event and commutes -/
theorem bind_late (hm : m.Narrates s owed good)
    (hf : ∀ a t, s.Steps t → good a t → (f a).Narrates t rest next) (hevents : rest.events = [])
    (hcomm : ∀ r, r + rest.report = rest.report + r) :
    (m >>= f).Narrates s (owed + rest) next := by
  intro p hp
  obtain ⟨as, htold, hok⟩ := hm p hp
  have hsilent : (owed + rest).events = owed.events := by
    show owed.events ++ rest.events = owed.events
    rw [hevents, List.append_nil]
  cases hrun : m p with
  | mk r q =>
    rw [hrun] at htold hok
    cases r with
    | error e =>
      rw [bind_of_error hrun]
      exact ⟨as, ⟨htold.known, htold.journal, hsilent ▸ htold.events⟩, nofun⟩
    | ok a =>
      rw [bind_of_ok hrun]
      obtain ⟨hended, hgood⟩ := hok a rfl
      obtain ⟨bs, htold', hok'⟩ := hf a _ hended.steps hgood q rfl
      have hstore : q.session.store = s.redoAll as := hended.store
      have hstory : s.story (as ++ bs) = s.story as + q.session.store.story bs := by
        rw [hstore]
        exact s.story_append as bs
      refine ⟨as ++ bs, ⟨?_, ?_, ?_⟩, fun b hb => ⟨⟨?_, ?_, ?_⟩, (hok' b hb).2⟩⟩
      · intro e he
        rcases List.mem_append.mp he with he | he
        · exact htold.known e he
        · exact htold'.known e he
      · rw [htold'.journal, htold.journal, List.append_assoc]
      · calc _ = q.events ++ (q.session.store.story bs).events := by
              rw [htold'.events, hevents, List.append_nil]
          _ = p.events ++ owed.events ++ (s.story (as ++ bs)).events := by
              rw [htold.events, hstory, List.append_assoc _ (s.story as).events]
              rfl
          _ = _ := by rw [hsilent]
      · exact hended.steps.trans (hok' b hb).1.steps
      · rw [(hok' b hb).1.store, hstore, Store.redoAll_append]
      · calc _ = p.report + owed.report + ((s.story as).report + rest.report)
                + (q.session.store.story bs).report := by
              rw [(hok' b hb).1.report, hended.report]
              simp only [add_assoc]
          _ = p.report + (owed.report + rest.report)
                + ((s.story as).report + (q.session.store.story bs).report) := by
              rw [hcomm]
              simp only [add_assoc]
          _ = _ := by
              rw [hstory]
              rfl

theorem bind (hm : m.Narrates s owed good)
    (hf : ∀ a t, s.Steps t → good a t → (f a).Narrates t 0 next) :
    (m >>= f).Narrates s owed next := by
  have h := hm.bind_late hf rfl fun r => (add_zero r).trans (zero_add r).symm
  rw [add_zero] at h
  exact h

theorem check {x : Except ReconcileError α} (hf : ∀ a, x = .ok a → (f a).Narrates s 0 next) :
    ((liftM x : Run Store α) >>= f).Narrates s 0 next := by
  cases x with
  | ok a => exact hf a rfl
  | error e =>
    intro p hp
    subst hp
    exact ⟨[], .nil rfl rfl, nofun⟩

theorem discard_bind {f : Unit → Run Store β} (h : (m >>= fun _ => f ()).Narrates s owed next) :
    ((Functor.discard m : Run Store Unit) >>= f).Narrates s owed next := by
  rw [discard_bind_eq]
  exact h

/-- checks one after another -/
theorem checks {check : α → Except ReconcileError β} (l : List α) :
    (l.mapM fun a => (liftM (check a) : Run Store β)).Narrates s 0 fun _ t => t = s := by
  induction l with
  | nil =>
    rw [List.mapM_nil]
    exact pure rfl
  | cons a l ih =>
    rw [List.mapM_cons]
    refine Narrates.check fun b _ => ih.bind ?_
    rintro bs t - rfl
    exact pure rfl

/-- an error can be noted -/
theorem tryCatch_note {d : ReconcileError → Diagnostic} (h : m.Narrates s owed good) :
    (tryCatch m fun e => do
      Reconciler.note (d e)
      throw e).Narrates s owed good := by
  intro p hp
  obtain ⟨entries, htold, hok⟩ := h p hp
  rw [tryCatch_eq]
  cases hm : m p with
  | mk r q =>
    rw [hm] at htold hok
    cases r with
    | ok a => exact ⟨entries, htold, hok⟩
    | error e => exact ⟨entries, ⟨htold.known, htold.journal, htold.events⟩, nofun⟩

end Narrates

namespace Tells
variable {m : Run Store Unit} {f : Unit → Run Store β} {s : Store} {owed a b : Account}
  {good : Unit → Store → Prop} {next : β → Store → Prop}

/-- what is owed is told -/
theorem narrates (h : m.Tells owed) (hgood : good () s) : m.Narrates s owed good := by
  intro p hp
  subst hp
  obtain ⟨q, hq, hstore, hevents, hreport⟩ := h p
  rw [hq]
  refine ⟨[], ⟨fun _ h => absurd h List.not_mem_nil, ?_, ?_⟩, fun _ _ => ⟨⟨?_, hstore, ?_⟩, ?_⟩⟩
  · rw [hstore, List.append_nil]
  · show q.events = _ ++ []
    rw [hevents, List.append_nil]
  · rw [hstore]
  · show q.report = _ + 0
    rw [hreport, add_zero]
  · show good () q.session.store
    rw [hstore]
    exact hgood

/-- part of what is owed is told -/
theorem narrates_bind (h : m.Tells a) (hf : (f ()).Narrates s b next) (howed : owed = a + b) :
    (m >>= f).Narrates s owed next := by
  intro p hp
  obtain ⟨q, hq, hstore, hevents, hreport⟩ := h p
  obtain ⟨entries, htold, hok⟩ := hf q (hstore.trans hp)
  rw [bind_of_ok hq, howed]
  refine ⟨entries, ⟨htold.known, htold.journal, ?_⟩, fun c hc => ⟨⟨(hok c hc).1.steps,
    (hok c hc).1.store, ?_⟩, (hok c hc).2⟩⟩
  · rw [htold.events, hevents, List.append_assoc p.events]
    rfl
  · rw [(hok c hc).1.report, hreport, add_assoc p.report]
    rfl

end Tells
end Run

/-! ## the steps of a run -/

namespace Reconciler
variable {sink : Sink} {settings : Settings} {s : Store} {β : Type} {next : β → Store → Prop}

theorem note_tells (d : Diagnostic) : (note (σ := Store) d).Tells 0 := fun p =>
  ⟨_, rfl, rfl, (List.append_nil _).symm, (add_zero p.report).symm⟩

theorem emit_tells (e : Event) : ((inMemory sink settings).emit e).Tells ⟨[e], 0⟩ := fun p =>
  ⟨_, rfl, rfl, rfl, (add_zero p.report).symm⟩

theorem recordReport_tells {change : Report → Report} {report : Report}
    (h : ∀ r, change r = r + report) : (recordReport (σ := Store) change).Tells ⟨[], report⟩ :=
  fun p => ⟨_, rfl, rfl, (List.append_nil _).symm, h p.report⟩

theorem recordCreated_tells (label : String) :
    (recordCreated (σ := Store) label).Tells ⟨[], { created := [label] }⟩ :=
  recordReport_tells fun r => by simp [Report.add_def]

theorem recordDeleted_tells (label : String) :
    (recordDeleted (σ := Store) label).Tells ⟨[], { deleted := [label] }⟩ :=
  recordReport_tells fun r => by simp [Report.add_def]

theorem recordLinked_tells (label : String) :
    (recordLinked (σ := Store) label).Tells ⟨[], { linked := [label] }⟩ :=
  recordReport_tells fun r => by simp [Report.add_def]

/-- after a call its entry has to be told -/
theorem ask_narrates {c : Call} {f : c.Answer → Run Store β} (hc : ∀ e ∈ c.entries s, e.IsTold)
    (hf : ∀ a t, Store.answer c s = (.ok a, t) → (f a).Narrates t (s.story (c.entries s)) next) :
    ((inMemory sink settings).ask c >>= f).Narrates s 0 next := by
  intro p hp
  subst hp
  cases hanswer : Store.answer c p.session.store with
  | mk r t =>
    have hsteps := Store.steps_of_answer hanswer
    cases r with
    | error e =>
      have hask : (inMemory sink settings).ask c p
          = (.error (.remote e), { p with session := ⟨t, p.session.notes⟩ }) := by
        unfold ask remote Backend.ask Backend.settle
        rw [show (inMemory sink settings).backend.answer c p.session.store = (.error e, t) from hanswer]
      rw [bind_of_error hask]
      exact ⟨[], .nil (Store.answer_error hanswer) rfl, nofun⟩
    | ok a =>
      have hask : ∃ notes, (inMemory sink settings).ask c p
          = (.ok a, { p with session := ⟨t, notes⟩ }) := by
        unfold ask remote Backend.ask Backend.settle
        rw [show (inMemory sink settings).backend.answer c p.session.store = (.ok a, t) from hanswer]
        exact ⟨_, rfl⟩
      obtain ⟨notes, hask⟩ := hask
      obtain ⟨hstore, hjournal⟩ := Store.answer_ok hanswer
      rw [bind_of_ok hask]
      obtain ⟨entries, htold, hok⟩ := hf a t hanswer { p with session := ⟨t, notes⟩ } rfl
      have hstory : p.session.store.story (c.entries p.session.store ++ entries)
          = p.session.store.story (c.entries p.session.store) + t.story entries := by
        rw [Store.story_append, ← hstore]
      refine ⟨c.entries p.session.store ++ entries, ⟨?_, ?_, ?_⟩, fun b hb =>
        ⟨⟨?_, ?_, ?_⟩, (hok b hb).2⟩⟩
      · intro e he
        rcases List.mem_append.mp he with he | he
        · exact hc e he
        · exact htold.known e he
      · rw [htold.journal, hjournal, List.append_assoc]
      · rw [htold.events, hstory]
        show p.events ++ _ ++ _ = p.events ++ [] ++ (_ ++ _)
        rw [List.append_nil, List.append_assoc]
      · exact hsteps.trans (hok b hb).1.steps
      · rw [(hok b hb).1.store, hstore, Store.redoAll_append]
      · rw [(hok b hb).1.report, hstory]
        show p.report + _ + _ = p.report + 0 + (_ + _)
        rw [add_zero, add_assoc]

theorem findRuleGroups_narrates {name : String} {f : List RuleGroup → Run Store β}
    (hf : (f (s.ruleGroupsNamed name)).Narrates s 0 next) :
    ((inMemory sink settings).ask (.findRuleGroups name) >>= f).Narrates s 0 next := by
  refine ask_narrates (fun _ h => absurd h List.not_mem_nil) fun a t h => ?_
  cases h
  exact hf

theorem findRelyingParties_narrates {name : String} {f : List RelyingParty → Run Store β}
    (hf : (f (s.relyingPartiesNamed name)).Narrates s 0 next) :
    ((inMemory sink settings).ask (.findRelyingParties name) >>= f).Narrates s 0 next := by
  refine ask_narrates (fun _ h => absurd h List.not_mem_nil) fun a t h => ?_
  cases h
  exact hf

theorem findKeys_narrates {name : String} {f : List Key → Run Store β}
    (hf : (f (s.keysNamed name)).Narrates s 0 next) :
    ((inMemory sink settings).ask (.findKeys name) >>= f).Narrates s 0 next := by
  refine ask_narrates (fun _ h => absurd h List.not_mem_nil) fun a t h => ?_
  cases h
  exact hf

theorem listing_narrates {f : List RuleGroup → Run Store β}
    (hf : (f s.sortedRuleGroups).Narrates s 0 next) :
    (remote Store.backend.ruleGroups >>= f).Narrates s 0 next := by
  intro p hp
  have hends : (remote Store.backend.ruleGroups).Ends s
      (fun groups t => groups = s.sortedRuleGroups ∧ t = s) (fun _ t => t = s) :=
    ruleGroups_listed ⟨rfl, rfl⟩ fun _ _ => rfl
  have hlisted := hends p hp
  have hframe : (remote Store.backend.ruleGroups p).2.events = p.events
      ∧ (remote Store.backend.ruleGroups p).2.report = p.report := by
    unfold remote
    cases Store.backend.ruleGroups p.session with
    | mk r session =>
      cases r with
      | ok groups => exact ⟨rfl, rfl⟩
      | error e => exact ⟨rfl, rfl⟩
  cases hrun : remote Store.backend.ruleGroups p with
  | mk r q =>
    rw [hrun] at hlisted hframe
    cases r with
    | error e =>
      rw [bind_of_error hrun]
      have hstore : q.session.store = s := hlisted
      exact ⟨[], .nil (by rw [hstore]) hframe.1, nofun⟩
    | ok groups =>
      obtain ⟨rfl, hstore⟩ := hlisted
      rw [bind_of_ok hrun]
      obtain ⟨entries, htold, hok⟩ := hf q hstore
      refine ⟨entries, ⟨htold.known, htold.journal, ?_⟩, fun b hb => ⟨⟨(hok b hb).1.steps,
        (hok b hb).1.store, ?_⟩, (hok b hb).2⟩⟩
      · rw [htold.events, hframe.1]
      · rw [(hok b hb).1.report, hframe.2]

/-! ## phases -/

/-- a write has its entry to tell -/
theorem write_narrates {c : Call} {f : c.Answer → Run Store β} {e : JournalEntry}
    (hc : c.entries s = [e]) (he : e.IsTold)
    (hf : ∀ a t, Store.answer c s = (.ok a, t) → s.Steps t → (f a).Narrates t (s.account e) next) :
    ((inMemory sink settings).ask c >>= f).Narrates s 0 next := by
  refine ask_narrates (fun e' h => ?_) fun a t h => ?_
  · rw [hc] at h
    rw [List.mem_singleton.mp h]
    exact he
  · rw [hc, Store.story_singleton]
    exact hf a t h (Store.steps_of_answer h)

theorem isTold_deleteRuleGroup (id : Id) : (JournalEntry.delete .ruleGroup id).IsTold := by
  rintro kind id' ⟨⟩
  exact .inl rfl

theorem isTold_deleteKey (id : Id) : (JournalEntry.delete .relyingPartyKey id).IsTold := by
  rintro kind id' ⟨⟩
  exact .inr rfl

theorem isTold_link (new : Link.Draft) : (JournalEntry.link new).IsTold := by
  rintro kind id ⟨⟩

theorem saveChanges_narrates :
    (inMemory sink settings).saveChanges.Narrates s 0 fun _ _ => True := by
  have hcount : (recordReport (σ := Store) fun report =>
      { report with batches := report.batches + 1 }).Tells ⟨[], { batches := 1 }⟩ :=
    recordReport_tells fun r => by simp [Report.add_def]
  refine write_narrates rfl nofun fun a t _ _ => ?_
  exact hcount.narrates_bind ((note_tells _).narrates_bind ((emit_tells _).narrates trivial) rfl) rfl

theorem deleteLinkedGroups_narrates (hs : s.Sound) (seen : List Id) (links : List Link) :
    ((inMemory sink settings).deleteLinkedGroups seen links).Narrates s 0 fun _ _ => True := by
  induction links generalizing s seen with
  | nil => exact .pure trivial
  | cons link links ih =>
    unfold deleteLinkedGroups
    split
    · exact ih hs seen
    · refine findRuleGroups_narrates (.check fun g hg => ?_)
      obtain ⟨hmem, hname, -⟩ := Store.ruleGroupsNamed_eq_singleton (exactlyOne_eq_ok.mp hg)
      refine write_narrates rfl (isTold_deleteRuleGroup g.id) fun _ t _ ht => ?_
      rw [Store.account_deleteRuleGroup hs hmem, hname]
      exact (emit_tells _).narrates_bind ((recordDeleted_tells _).narrates_bind
        (ih (ht.sound hs) _) rfl) rfl

theorem deleteKeys_narrates (hs : s.Sound) (keys : List Key) :
    ((inMemory sink settings).deleteKeys keys).Narrates s 0 fun _ _ => True := by
  induction keys generalizing s with
  | nil => exact .pure trivial
  | cons key keys ih =>
    refine findKeys_narrates (.check fun k hk => ?_)
    have hmem : k ∈ s.keysNamed key.displayName := by
      rw [exactlyOne_eq_ok.mp hk]
      exact List.mem_singleton.mpr rfl
    obtain ⟨hmem, hname⟩ := List.mem_filter.mp hmem
    refine write_narrates rfl (isTold_deleteKey k.id) fun _ t _ ht => ?_
    rw [Store.account_deleteKey hs hmem, of_decide_eq_true hname]
    exact (emit_tells _).narrates_bind ((recordDeleted_tells _).narrates_bind (ih (ht.sound hs)) rfl)
      rfl

/-- the relying party is still known by its name when it goes -/
theorem removeParty_narrates (hs : s.Sound) {old : RelyingParty}
    (hname : ∀ p ∈ s.relyingParties, p.id = old.id → p.name = old.name) :
    ((inMemory sink settings).removeParty old).Narrates s 0 fun _ _ => True := by
  refine write_narrates rfl nofun fun _ t h _ => ?_
  obtain ⟨-, ⟨p, hp, hid⟩, -⟩ := Store.removeRelyingParty_eq_ok.mp (Store.settle_ok h)
  rw [← hid, Store.account_removeRelyingParty hs hp, hname p hp hid]
  exact (emit_tells _).narrates_bind ((emit_tells _).narrates_bind
    ((recordDeleted_tells _).narrates trivial) rfl) rfl

theorem tearDown_narrates (hs : s.Sound) {p : RelyingParty.Stored} (hp : p ∈ s.relyingParties)
    (withRuleGroups : Bool) :
    ((inMemory sink settings).tearDown (s.view p) withRuleGroups).Narrates s 0 fun _ _ => True := by
  have hused : s.Used p.id := hs.used _ (Store.relyingParty_mem_identities hp)
  rw [tearDown_eq]
  have hgroups : ((inMemory sink settings).deleteGroups (s.view p) withRuleGroups).Narrates s 0
      fun _ _ => True := by
    unfold deleteGroups
    split
    · exact (deleteLinkedGroups_narrates hs _ _).bind fun _ _ _ _ => saveChanges_narrates
    · exact .pure trivial
  refine hgroups.bind fun _ u hu _ => ?_
  have hkeys : ((inMemory sink settings).deleteAllKeys (s.view p)).Narrates u 0 fun _ _ => True := by
    unfold deleteAllKeys
    split
    · exact (deleteKeys_narrates (hu.sound hs) _).bind fun _ _ _ _ => saveChanges_narrates
    · exact .pure trivial
  refine hkeys.bind fun _ v hv _ => removeParty_narrates ((Store.Steps.sound (hu.trans hv) hs)) fun p' hp' hid => ?_
  -- its identity has not come to stand for another one
  have hid : p'.id = p.id := hid
  have hp' := (Store.Steps.inherits (hu.trans hv)).relyingParty p' hp' (hid ▸ hused)
  rw [hs.relyingParty_eq hp' hp hid]
  rfl

theorem tearDownAny_narrates (hs : s.Sound) {name : String} {old : Option RelyingParty}
    (hold : atMostOne .relyingParty name (s.relyingPartiesNamed name) = .ok old)
    (withRuleGroups : Bool) :
    ((inMemory sink settings).tearDownAny old withRuleGroups).Narrates s 0 fun _ _ => True := by
  cases old with
  | none => exact .pure trivial
  | some v =>
    obtain ⟨p, hp, rfl, -⟩ := Store.relyingPartiesNamed_eq_singleton (atMostOne_eq_some hold)
    exact tearDown_narrates hs hp withRuleGroups

theorem createParty_narrates (d : RelyingParty.Draft) :
    ((inMemory sink settings).createParty d).Narrates s 0 fun _ _ => True := by
  refine write_narrates rfl nofun fun _ t _ _ => ?_
  exact (emit_tells _).narrates_bind ((emit_tells _).narrates_bind
    ((recordCreated_tells _).narrates trivial) rfl) rfl

theorem linkGroups_narrates (hs : s.Sound) {p : RelyingParty.Stored} (hp : p ∈ s.relyingParties)
    {groups : List RuleGroup} (hgroups : ∀ g ∈ groups, g ∈ s.ruleGroups) (linked : List Id) :
    ((inMemory sink settings).linkGroups p.name p.id linked groups).Narrates s 0
      fun _ _ => True := by
  induction groups generalizing s linked with
  | nil => exact .pure trivial
  | cons g groups ih =>
    obtain ⟨hg, hgroups⟩ := List.forall_mem_cons.mp hgroups
    unfold linkGroups
    split
    · exact ih hs hp hgroups linked
    · refine write_narrates rfl (isTold_link _) fun _ t h ht => ?_
      have hqueued : t = s.queueAll [.link ⟨p.id, g.id⟩] := (Store.answer_ok h).1
      rw [Store.account_link hs hp hg]
      subst hqueued
      exact (emit_tells _).narrates_bind ((recordLinked_tells _).narrates_bind
        (ih (ht.sound hs) hp hgroups _) rfl) rfl

theorem linkPatterns_narrates (hs : s.Sound) (name : String) (linked : List Id)
    (patterns : List Pattern) :
    ((inMemory sink settings).linkPatterns name linked patterns).Narrates s 0 fun _ _ => True := by
  induction patterns generalizing s linked with
  | nil => exact .pure trivial
  | cons pattern patterns ih =>
    refine findRelyingParties_narrates (.check fun v hv => listing_narrates ?_)
    obtain ⟨p, hp, rfl, rfl, -⟩ := Store.relyingPartiesNamed_eq_singleton (exactlyOne_eq_ok.mp hv)
    have hmatching : ∀ g ∈ s.sortedRuleGroups.filter fun group => pattern.isFoundIn group.name,
        g ∈ s.ruleGroups := fun g hg => (List.mergeSort_perm _ _).mem_iff.mp (List.mem_filter.mp hg).1
    refine (note_tells _).narrates_bind (Run.Narrates.bind (linkGroups_narrates hs hp hmatching linked)
      fun linked' t ht _ => ih (ht.sound hs) linked') rfl

theorem linkAll_narrates (hs : s.Sound) (name : String) (patterns : List Pattern) :
    ((inMemory sink settings).linkAll name patterns).Narrates s 0 fun _ _ => True := by
  refine (linkPatterns_narrates hs name [] patterns).bind fun linked t _ _ => ?_
  split
  · exact saveChanges_narrates
  · exact .pure trivial

theorem removeRuleGroupNamed_narrates (hs : s.Sound) (name : String) :
    ((inMemory sink settings).removeRuleGroupNamed name).Narrates s 0 fun _ _ => True := by
  refine findRuleGroups_narrates (.check fun found hfound => ?_)
  cases found with
  | none => exact .pure trivial
  | some g =>
    obtain ⟨hmem, hname, -⟩ := Store.ruleGroupsNamed_eq_singleton (atMostOne_eq_some hfound)
    refine write_narrates rfl (isTold_deleteRuleGroup g.id) fun _ t _ _ => ?_
    rw [Store.account_deleteRuleGroup hs hmem, hname]
    exact (emit_tells _).narrates_bind ((recordDeleted_tells _).narrates_bind
      (saveChanges_narrates.bind fun _ _ _ _ => .pure trivial) rfl) rfl

/-! ## commands -/

theorem execute_narrates (hs : s.Sound) (c : Command) :
    ((inMemory sink settings).execute c).Narrates s 0 fun _ _ => True := by
  cases c with
  | addRelyingParty new =>
    show ((inMemory sink settings).addRelyingParty new).Narrates s 0 _
    rw [addRelyingParty_eq]
    refine .check fun d _ => (Run.Narrates.checks new.patterns).bind ?_
    rintro patterns t - rfl
    refine findRelyingParties_narrates (.check fun old hold => ?_)
    refine (tearDownAny_narrates hs hold _).bind fun _ u hu _ => ?_
    exact (createParty_narrates d).bind fun _ v hv _ => linkAll_narrates (Store.Steps.sound (hu.trans hv) hs) _ _
  | removeRelyingParty name withRuleGroups =>
    refine .check fun name' _ => findRelyingParties_narrates (.check fun old hold => ?_)
    cases old with
    | none => exact (note_tells _).narrates trivial
    | some old => exact tearDownAny_narrates hs hold withRuleGroups
  | addRuleGroup name =>
    refine .check fun name' _ => .discard_bind ?_
    refine (removeRuleGroupNamed_narrates hs name').bind fun _ t _ _ => ?_
    refine write_narrates rfl nofun fun _ u _ _ => ?_
    exact (emit_tells _).narrates_bind ((emit_tells _).narrates_bind
      ((recordCreated_tells _).narrates trivial) rfl) rfl
  | addRule ruleGroup rule =>
    refine .check fun name _ => .check fun type htype => findRuleGroups_narrates (.check fun g hg => ?_)
    obtain ⟨hmem, hname, -⟩ := Store.ruleGroupsNamed_eq_singleton (exactlyOne_eq_ok.mp hg)
    refine write_narrates rfl nofun fun _ t _ _ => ?_
    rw [Store.account_addRule hs hmem rfl rfl, hname]
    exact (emit_tells _).narrates_bind ((emit_tells _).narrates_bind
      ((recordCreated_tells _).narrates trivial) rfl) rfl
  | removeRuleGroup name =>
    refine .check fun name' _ => (removeRuleGroupNamed_narrates hs name').bind fun found t _ _ => ?_
    split
    · exact (note_tells _).narrates trivial
    · exact .pure trivial

/-! ## runs -/

theorem executeNoted_narrates (hs : s.Sound) (c : Command) :
    ((inMemory sink settings).executeNoted c).Narrates s 0 fun _ _ => True :=
  (note_tells _).narrates_bind (execute_narrates hs c).tryCatch_note rfl

/-- the commands are counted as they are carried out, and no entry tells of them -/
theorem executeAll_narrates (hs : s.Sound) (commands : List Command) :
    ((inMemory sink settings).executeAll commands).Narrates s
      ⟨[], { commands := commands.length }⟩ fun _ _ => True := by
  induction commands generalizing s with
  | nil => exact .pure trivial
  | cons c cs ih =>
    have hone : (recordReport (σ := Store) fun report =>
        { report with commands := report.commands + 1 }).Tells ⟨[], { commands := 1 }⟩ :=
      recordReport_tells fun r => by simp [Report.add_def]
    have hcount : (⟨[], { commands := (c :: cs).length }⟩ : Account)
        = ⟨[], { commands := 1 }⟩ + ⟨[], { commands := cs.length }⟩ := by
      rw [List.length_cons, Nat.add_comm]
      rfl
    have hlater : (inMemory sink settings).executeAll (c :: cs)
        = (inMemory sink settings).executeNoted c >>= fun _ => recordReport (fun report =>
          { report with commands := report.commands + 1 }) >>= fun _ =>
            (inMemory sink settings).executeAll cs := rfl
    rw [hlater, ← zero_add (Account.mk _ _)]
    refine (executeNoted_narrates hs c).bind_late (fun _ t ht _ => ?_) rfl fun r => ?_
    · exact hone.narrates_bind (ih (ht.sound hs)) hcount
    · show Report.add _ _ = Report.add _ _
      simp [Report.add, Nat.add_comm]

end Reconciler

open Reconciler

variable {sink : Sink} {settings : Settings} {s : Store}

/-- what a run puts into the journal it tells the sink, and counts in its report -/
theorem reconcile_narrates (hs : s.Reachable) (commands : List Command) (notes : List Diagnostic) :
    let ended := (inMemory sink settings).reconcile commands ⟨s, notes⟩
    ∃ entries, (∀ e ∈ entries, e.IsTold)
      ∧ ended.2.session.store.journal = s.journal ++ entries
      ∧ ended.2.events = (s.story entries).events
      ∧ ∀ report, ended.1 = .ok report →
          report = { (s.story entries).report with commands := commands.length }
          ∧ report.batches = entries.countP (·.operation = .saveChanges) := by
  intro ended
  have hrun : (note (starting Store.backend.name commands.length) >>= fun _ =>
      (inMemory sink settings).executeAll commands).Narrates s ⟨[], { commands := commands.length }⟩
        fun _ _ => True :=
    (note_tells _).narrates_bind (executeAll_narrates hs.sound commands) (zero_add _).symm
  obtain ⟨entries, htold, hok⟩ := hrun { session := ⟨s, notes⟩ } rfl
  cases hm : (note (starting Store.backend.name commands.length) >>= fun _ =>
      (inMemory sink settings).executeAll commands) { session := ⟨s, notes⟩ } with
  | mk r q =>
    rw [hm] at htold hok
    have hsilent : q.events = (s.story entries).events := htold.events
    cases r with
    | error e =>
      have hended : ended = (.error e, q) := reconcile_of_error hm
      rw [hended]
      exact ⟨entries, htold.known, htold.journal, hsilent, nofun⟩
    | ok a =>
      have hended : ended = (.ok q.report, _) := reconcile_of_ok hm
      rw [hended]
      refine ⟨entries, htold.known, htold.journal, hsilent, ?_⟩
      rintro report ⟨⟩
      have hreport : q.report = { (s.story entries).report with commands := commands.length } := by
        rw [(hok a rfl).1.report]
        show Report.add (Report.add {} _) _ = _
        simp [Report.add, (s.story_counts entries).1]
      refine ⟨hreport, ?_⟩
      rw [hreport]
      exact (s.story_counts entries).2

/-- the relying party stays, but its rule group is gone, and both records say so -/
theorem reconcile_narrates_interrupted :
    let portal : RelyingParty.Draft :=
      ⟨⟨"portal", "urn:portal", none, .saml2, 600, []⟩, none, none, none, none, none, none⟩
    let parties := (({} : Store).insertRelyingParty portal).2
    let groups := (parties.insertRuleGroup ⟨"claims"⟩).2
    let s := (groups.insertLink ⟨Id.nth 1, Id.nth 2⟩).2.failOn .removeRelyingParty
    let ended := (inMemory .keeping {}).reconcile [.removeRelyingParty "portal" true] ⟨s, []⟩
    ended.1.isOk = false ∧ ended.2.events = [.removingRuleGroup "claims", .changesSaved]
      ∧ ∃ entries, ended.2.session.store.journal = s.journal ++ entries
        ∧ ended.2.events = (s.story entries).events := by
  intro portal parties groups s ended
  have hs : s.Reachable := .failOn _ (.seedLink _ (.seedRuleGroup _ (.seedRelyingParty portal
    (.fresh 50))))
  obtain ⟨entries, -, hjournal, hevents, -⟩ := @reconcile_narrates .keeping {} s hs
    [.removeRelyingParty "portal" true] []
  exact ⟨by decide +kernel, by decide +kernel, entries, hjournal, hevents⟩

end AccessControl
