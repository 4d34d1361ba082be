import AccessControl.Proofs.Reconcile.Linking
import AccessControl.Proofs.Reconcile.TearDown

/-!
# Outcomes of commands about relying parties

The creation of a relying party is checked, what has its name is torn down, and the new one is linked
to what it matches.  `addRelyingParty_executes` puts the three together; a command that takes rule
groups has to start with an empty queue.
-/

namespace AccessControl.Reconciler
open Classical

variable {sink : Sink} {settings : Settings} {s u : Store} {o q : Set Subject} {fair taking : Prop}

/-! ## checks -/

/-- every text is a pattern, or one of them is none -/
theorem compilePatterns_ends (texts : List String) :
    (texts.mapM fun text => liftM (compilePattern text) : Run Store (List Pattern)).Ends s
      (fun patterns t => t = s ∧ texts.map Pattern.ofText? = patterns.map some)
      (fun _ t => t = s ∧ ∃ text ∈ texts, Pattern.ofText? text = none) := by
  induction texts with
  | nil =>
    rw [List.mapM_nil]
    exact .pure ⟨rfl, rfl⟩
  | cons text texts ih =>
    rw [List.mapM_cons]
    refine .check (fun e he => ⟨rfl, text, List.mem_cons_self, ?_⟩) fun p hp => ?_
    · unfold compilePattern at he
      split at he
      · cases he
      · assumption
    · have hp : Pattern.ofText? text = some p := by
        unfold compilePattern at hp
        split at hp
        · cases hp
          assumption
        · cases hp
      refine (ih.mono (fun _ _ h => h) ?_).bind ?_
      · rintro - t ⟨ht, text', hmem, hnone⟩
        exact ⟨ht, text', List.mem_cons_of_mem _ hmem, hnone⟩
      · rintro patterns t ⟨ht, hpatterns⟩
        refine .pure ⟨ht, ?_⟩
        rw [List.map_cons, List.map_cons, hp, hpatterns]

theorem any_finds {texts : List String} {patterns : List Pattern}
    (h : texts.map Pattern.ofText? = patterns.map some) (name : String) :
    texts.any (Pattern.finds · name) = patterns.any fun p => p.isFoundIn name := by
  calc texts.any (Pattern.finds · name)
      = (texts.map Pattern.ofText?).any fun o => o.any fun p => p.isFoundIn name := by
        rw [List.any_map]
        rfl
    _ = patterns.any fun p => p.isFoundIn name := by
        rw [h, List.any_map]
        rfl

theorem complete_addRelyingParty {new : AddRelyingParty} {d : RelyingParty.Draft}
    (hd : draft settings new = .ok d) {patterns : List Pattern}
    (h : new.patterns.map Pattern.ofText? = patterns.map some) :
    (Command.addRelyingParty new).Complete settings := by
  refine ⟨⟨d, hd⟩, fun text hmem => ?_⟩
  have hmem : Pattern.ofText? text ∈ patterns.map some := h ▸ List.mem_map_of_mem hmem
  obtain ⟨p, -, hp⟩ := List.mem_map.mp hmem
  rw [← hp]
  rfl

/-- the names that the patterns pick are the rule groups that match -/
theorem matching_eq {texts names : List String} {patterns : List Pattern}
    (h : texts.map Pattern.ofText? = patterns.map some)
    (hnames : names.Perm
      ((u.ruleGroups.map (·.name)).filter fun g => patterns.any fun p => p.isFoundIn g)) :
    u.contents.matching texts = (names : Multiset String) := by
  have hgroups : u.contents.ruleGroups.map (·.name) = u.ruleGroups.map (·.name) := List.map_map ..
  unfold Contents.matching
  rw [Multiset.coe_eq_coe, hgroups, List.filter_congr fun g _ => any_finds h g]
  exact hnames.symm

/-! ## creating -/

/-- the store with a new relying party, the only one of its name and without links -/
structure Adds (u : Store) (d : RelyingParty.Draft) (p : RelyingParty.Stored) (v : Store) : Prop where
  name : p.name = d.name
  mem : p ∈ v.relyingParties
  sole : ∀ p' ∈ v.relyingParties, p'.name = p.name → p' = p
  free : ∀ l ∈ v.links, l.relyingParty ≠ p.id
  groups : v.ruleGroups = u.ruleGroups
  queue : v.queue = u.queue
  inherits : u.Inherits v
  steps : u.Steps v

/-- the new relying party also shows in the contents -/
structure Creates (u : Store) (d : RelyingParty.Draft) (p : RelyingParty.Stored) (v : Store) :
    Prop extends Adds u d p v where
  contents : v.contents = u.contents.addRelyingParty d.toProfile d.keys 0

theorem adds {d : RelyingParty.Draft} (hname : d.name ≠ "") (hrealm : d.realmAddress ≠ "")
    (hnew : ∀ p ∈ u.relyingParties, p.name ≠ d.name)
    (hfree : ∀ l ∈ u.links, l.relyingParty ≠ u.nextId) :
    Adds u d ⟨d.toProfile, u.nextId⟩
      ((u.insertRelyingParty d).2.record (.addRelyingParty d)) := by
  have hstep : u.Step ((u.insertRelyingParty d).2.record (.addRelyingParty d)) :=
    .addRelyingParty d hname hnew hrealm
  have hinherits := hstep.inherits
  have hsteps := hstep.steps
  obtain ⟨keys, heq, -⟩ := u.insertRelyingParty_frame d
  rw [heq] at hinherits hsteps ⊢
  refine ⟨rfl, List.mem_append_right _ (List.mem_singleton.mpr rfl), ?_, hfree, rfl, rfl, hinherits,
    hsteps⟩
  intro p' hp' hn
  rcases List.mem_append.mp hp' with hp' | hp'
  · exact absurd hn (hnew p' hp')
  · exact List.mem_singleton.mp hp'

/-- only a refused call can stop the creation of a relying party whose name is free -/
theorem createParty_ends {d : RelyingParty.Draft} (hname : d.name ≠ "")
    (hrealm : d.realmAddress ≠ "") (hnew : ∀ p ∈ u.relyingParties, p.name ≠ d.name) :
    ((inMemory sink settings).createParty d).Ends u
      (fun _ v => v = (u.insertRelyingParty d).2.record (.addRelyingParty d))
      (fun _ t => t = u ∧ u.Fails .addRelyingParty) := by
  refine addRelyingParty_bind (fun _ id => ?_) fun hrefused e => ⟨rfl, ?_⟩
  · exact (emit_quiet _ _).bind ((emit_quiet _ _).bind ((recordCreated_quiet _).ends rfl))
  · by_contra hnot
    exact hrefused hnot hname hrealm hnew

/-- a creation with nothing of its name, and links to follow -/
theorem createParty_bind (hs : u.Sound) (hc : u.Closed) {d : RelyingParty.Draft}
    (hname : d.name ≠ "") (hrealm : d.realmAddress ≠ "")
    (hlacks : u.contents.Lacks (.relyingParty d.name)) (hq : u.QueueWithin q)
    {f : Unit → Run Store Unit} {good : Unit → Store → Prop}
    (hf : ∀ p v, Creates u d p v → (f ()).Ends v good (fun e t => Stopped q fair taking e u t)) :
    ((inMemory sink settings).createParty d >>= f).Ends u good
      (fun e t => Stopped q fair taking e u t) := by
  have hnew : ∀ p ∈ u.relyingParties, p.name ≠ d.name := fun p hp =>
    hlacks _ (List.mem_map_of_mem hp)
  have hfree : ∀ l ∈ u.links, l.relyingParty ≠ u.nextId := by
    intro l hl hid
    obtain ⟨p, hp, hpid⟩ := hc.linkRelyingParty l hl
    exact hs.nextId_not_mem ((hpid.trans hid) ▸ Store.relyingParty_mem_identities hp)
  refine ((createParty_ends hname hrealm hnew).mono (fun _ _ h => h) ?_).bind ?_
  · rintro e t ⟨rfl, hfails⟩
    exact .refused hq fun _ hfailing _ => Store.not_fails_of_failing_nil hfailing _ hfails
  · rintro - v rfl
    refine hf _ _ ⟨adds hname hrealm hnew hfree, ?_⟩
    rw [Store.contents_congr (s := (u.insertRelyingParty d).2) rfl,
      Store.contents_insertRelyingParty hs hc]

/-- a new relying party does not show where its name is hidden -/
theorem Creates.intact (hs : u.Sound) {d : RelyingParty.Draft} {p : RelyingParty.Stored} {v : Store}
    (h : Creates u d p v) (hq : u.QueueWithin q) (hpq : .relyingParty d.name ∈ q) :
    Intact q u v where
  steps := h.steps
  kept := by
    rw [h.contents]
    show (⟨_, ((u.contents.relyingParties ++ [_]).filter _).map _⟩ : Contents) = _
    rw [List.filter_append, List.filter_cons_of_neg (by simpa using hpq), List.filter_nil,
      List.append_nil]
    rfl
  within := hq.inherits hs h.inherits h.queue
  idle := fun hqueue => h.queue.trans hqueue
  groups := h.groups ▸ .refl _

/-! ## commands -/

theorem addRelyingParty_executes (hs : s.Sound) (hc : s.Closed) {new : AddRelyingParty}
    (hidle : new.removeRelatedRuleGroups = true → s.queue = [])
    (hq : s.QueueWithin (o ∪ (Command.addRelyingParty new).clears s.contents)) :
    Executes ((inMemory sink settings).addRelyingParty new) settings o (.addRelyingParty new) s := by
  rw [Executes, addRelyingParty_eq]
  refine .check (fun e he => ?_) fun d hd => ?_
  · refine .refused hq fun hfair _ _ => ?_
    obtain ⟨⟨d, hd⟩, -⟩ := hfair.1
    have he : draft settings new = .error e := he
    rw [hd] at he
    cases he
  obtain ⟨hname, hne, hrealm⟩ := draft_eq_ok hd
  have hsubject : (Command.addRelyingParty new).subject? = some (.relyingParty d.name) := by
    show new.name.map Subject.relyingParty = _
    rw [hname]
    rfl
  refine ((compilePatterns_ends new.patterns).mono (fun _ _ h => h) ?_).bind ?_
  · rintro e t ⟨rfl, text, hmem, hnone⟩
    refine .refused hq fun hfair _ _ => ?_
    have hsome := hfair.1.2 text hmem
    rw [hnone] at hsome
    cases hsome
  rintro patterns t ⟨rfl, hpatterns⟩
  have hcount := t.length_relyingPartiesNamed d.name
  refine findRelyingParties_bind (.check (fun e he => ?_) fun old hold => ?_)
  · have hmany := atMostOne_eq_error he
    exact .refused hq fun hfair _ _ => absurd (hfair.2.replaced _ hsubject) (by omega)
  refine (tearDownAny_ends hs hc hsubject hold hidle hq fun hfair => hfair.2).bind ?_
  rintro - u ⟨hready, hu⟩
  have hus := hu.steps.sound hs
  refine (createParty_bind hus (hu.steps.closed hc) hne hrealm (hu.lacks _ (.inl hsubject)) hu.within
    fun p v hv => ?_).mono (fun _ _ h => h) fun _ _ h => hu.stopped h
  have hpq : .relyingParty d.name ∈ o ∪ (Command.addRelyingParty new).clears t.contents :=
    .inr (.inl hsubject)
  have hintact := hv.intact hus hu.within hpq
  have hvo : v.QueueWithin o := hu.waits.inherits hus hv.inherits hv.queue
  rw [← hv.name] at hpq ⊢
  refine (linkAll_ends (hv.steps.sound hus) hv.mem hv.sole hv.free patterns hvo hintact.within
    hpq).mono ?_ fun _ _ h => hintact.stopped h
  rintro - w ⟨names, hnames, hw, hwithin, hidle', hsize⟩
  have hmatching : u.contents.matching new.patterns = (names : Multiset String) :=
    matching_eq hpatterns (hv.groups ▸ hnames)
  have hlacks : ∀ p' ∈ u.contents.relyingParties, p'.name ≠ d.name := hu.lacks _ (.inl hsubject)
  refine ⟨complete_addRelyingParty hd hpatterns, hready, hu.meaning ?_, hwithin, fun h => hidle' (hintact.idle (hu.idle h)), ?_⟩
  · rw [hw, hv.contents, hv.name, Contents.change_addRelyingParty hd, hmatching,
      ← Contents.link_addRelyingParty hlacks]
  · have hv := hintact.size
    have hu := hu.size
    omega

theorem removeRelyingParty_executes (hs : s.Sound) (hc : s.Closed) {name : String}
    {withRuleGroups : Bool} (hidle : withRuleGroups = true → s.queue = [])
    (hq : s.QueueWithin (o ∪ (Command.removeRelyingParty name withRuleGroups).clears s.contents)) :
    Executes ((inMemory sink settings).removeRelyingParty name withRuleGroups) settings o
      (.removeRelyingParty name withRuleGroups) s := by
  refine .check (fun e he => ?_) fun g hg => ?_
  · exact .refused hq fun hfair _ _ => requiredField_ne_error rfl hfair.1 e he
  obtain ⟨hg, hne⟩ := requiredField_eq_ok.mp hg
  cases hg
  have hcount := s.length_relyingPartiesNamed name
  have hsubject : (Command.removeRelyingParty name withRuleGroups).subject?
      = some (.relyingParty name) := rfl
  refine findRelyingParties_bind (.check (fun e he => ?_) fun old hold => ?_)
  · have hmany := atMostOne_eq_error he
    exact .refused hq fun hfair _ _ => absurd (hfair.2.replaced _ hsubject) (by omega)
  have htear : ((inMemory sink settings).tearDownAny old withRuleGroups).Ends s
      (fun _ u => (Command.removeRelyingParty name withRuleGroups).Ready s.contents
        ∧ Cleared o ((Command.removeRelyingParty name withRuleGroups).clears s.contents) s u)
      (fun e t => Stopped (o ∪ (Command.removeRelyingParty name withRuleGroups).clears s.contents)
        ((Command.removeRelyingParty name withRuleGroups).Complete settings
          ∧ (Command.removeRelyingParty name withRuleGroups).Ready s.contents)
        (withRuleGroups = true) e s t) :=
    tearDownAny_ends hs hc hsubject hold hidle hq fun hfair => hfair.2
  have hcarried (u : Store) (hready : (Command.removeRelyingParty name withRuleGroups).Ready s.contents)
      (hu : Cleared o ((Command.removeRelyingParty name withRuleGroups).clears s.contents) s u) :
      Carried settings o (.removeRelyingParty name withRuleGroups) s u :=
    ⟨hne, hready, hu.meaning rfl, hu.waits, hu.idle, hu.size.trans (Nat.le_succ _)⟩
  cases old with
  | none =>
    exact htear.bind fun _ u hu => (note_quiet _).ends (hcarried u hu.1 hu.2)
  | some old => exact htear.mono (fun _ u hu => hcarried u hu.1 hu.2) fun _ _ h => h

end AccessControl.Reconciler
