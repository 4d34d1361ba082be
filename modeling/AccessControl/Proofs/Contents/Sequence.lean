import AccessControl.Proofs.Contents.Meaning

/-!
# Commands one after another

Later commands undo links of earlier ones: whoever removes or replaces a rule group takes the links to
it away, and only the commands that follow can bring them back.

* `Contents.Apart o`          relying parties in `o` are linked to rule groups in `o` only, and stay so
                              as names leave `o` with the commands about them (`Apart.after`);
* `Contents.Linked`           a link, by the names at its ends;
* `after_ruleGroups`, `after_relyingParties`   what commands leave of a resource that none of them
                              names;
* `Command.Grounded`          rules are added to rule groups that an earlier command has created.
-/

namespace AccessControl
open Classical

/-! ## rules come after their rule groups -/

/-- no rule is added to a rule group in `o`, unless an earlier command is about it -/
def Command.Grounded (o : Set Subject) : List Command → Prop
  | [] => True
  | c :: cs => (∀ g, c.extended? = some g → .ruleGroup g ∉ o)
      ∧ Command.Grounded (o \ {x | c.subject? = some x}) cs

namespace Command

theorem subjects_append (as bs : List Command) :
    subjects (as ++ bs) = subjects as ∪ subjects bs := by
  ext x
  simp [subjects, or_and_right, exists_or]

theorem grounded_append {o : Set Subject} {as bs : List Command} :
    Grounded o (as ++ bs) ↔ Grounded o as ∧ Grounded (o \ subjects as) bs := by
  induction as generalizing o with
  | nil => simp [Grounded, subjects_nil]
  | cons a as ih =>
    rw [List.cons_append, Grounded, Grounded, ih, subjects_cons, Set.sdiff_sdiff, and_assoc]

theorem grounded_flatMap {α : Type} {f : α → List Command} (hf : ∀ a o, Grounded o (f a))
    (l : List α) (o : Set Subject) : Grounded o (l.flatMap f) := by
  induction l generalizing o with
  | nil => trivial
  | cons a l ih =>
    rw [List.flatMap_cons, grounded_append]
    exact ⟨hf a o, ih _⟩

/-- an extended rule group in `o` is the subject of some command -/
theorem Grounded.extended {o : Set Subject} {cs : List Command} (h : Grounded o cs) {c : Command}
    (hc : c ∈ cs) {g : String} (hg : c.extended? = some g) (ho : .ruleGroup g ∈ o) :
    .ruleGroup g ∈ subjects cs := by
  induction cs generalizing o with
  | nil => exact absurd hc List.not_mem_nil
  | cons a cs ih =>
    rw [subjects_cons]
    rcases List.mem_cons.mp hc with rfl | hc
    · exact absurd ho (h.1 g hg)
    · by_cases ha : a.subject? = some (.ruleGroup g)
      · exact .inl ha
      · exact .inr (ih h.2 hc ⟨ho, ha⟩)

theorem Grounded.confined {cs : List Command} (h : Grounded Set.univ cs)
    (hkeeps : ∀ c ∈ cs, c.takesRuleGroups = false) : Confined cs (subjects cs) where
  keeps := hkeeps
  subjects := subset_rfl
  extended := fun _ hc _ hg => h.extended hc hg (Set.mem_univ _)

end Command

namespace Contents
variable {settings : Settings} {X : Contents} {o : Set Subject} {c : Command} {cs : List Command}

/-! ## names that are hidden -/

/-- a cleared name is not there -/
theorem filter_hidden {name : String} (h : .ruleGroup name ∈ o) :
    (X.hide o).ruleGroups.filter (·.name = name) = [] := by
  refine List.filter_eq_nil_iff.mpr fun g hg hname => ?_
  obtain ⟨-, hgo⟩ := List.mem_filter.mp hg
  refine of_decide_eq_true hgo ?_
  rw [of_decide_eq_true hname]
  exact h

theorem filter_hidden_relyingParty {name : String} (h : .relyingParty name ∈ o) :
    (X.hide o).relyingParties.filter (·.name = name) = [] := by
  refine List.filter_eq_nil_iff.mpr fun p hp hname => ?_
  obtain ⟨p', hp', rfl⟩ := List.mem_map.mp hp
  obtain ⟨-, hpo⟩ := List.mem_filter.mp hp'
  refine of_decide_eq_true hpo ?_
  have hname : p'.name = name := of_decide_eq_true hname
  rw [hname]
  exact h

/-! ## counts -/

theorem count_hide_le (X : Contents) (o : Set Subject) (x : Subject) :
    (X.hide o).count x ≤ X.count x := by
  cases x with
  | ruleGroup name => exact List.filter_sublist.countP_le
  | relyingParty name =>
    show ((X.relyingParties.filter _).map _).countP _ ≤ _
    rw [List.countP_map]
    exact List.filter_sublist.countP_le

/-- nothing that is hidden is counted -/
theorem count_hidden {x : Subject} (hx : x ∈ o) : (X.hide o).count x = 0 := by
  cases x with
  | ruleGroup name =>
    show (X.hide o).ruleGroups.countP _ = 0
    rw [List.countP_eq_length_filter, filter_hidden hx]
    rfl
  | relyingParty name =>
    show (X.hide o).relyingParties.countP _ = 0
    rw [List.countP_eq_length_filter, filter_hidden_relyingParty hx]
    rfl

theorem count_change {x : Subject} (hx : c.subject? ≠ some x) :
    (X.change settings c).count x = X.count x := by
  cases c with
  | addRelyingParty new =>
    cases hd : Reconciler.draft settings new with
    | error e => rw [change_without_draft hd]
    | ok d =>
      rw [change_addRelyingParty hd]
      cases x with
      | ruleGroup name => rfl
      | relyingParty name =>
        have hname : ¬ d.name = name := fun h => hx (by
          show new.name.map Subject.relyingParty = _
          rw [(draft_eq_ok hd).1, h]
          rfl)
        show (X.relyingParties ++ [_]).countP _ = X.relyingParties.countP _
        rw [List.countP_append, List.countP_singleton]
        simp [hname]
  | removeRelyingParty name withRuleGroups => rfl
  | addRuleGroup name =>
    cases name with
    | none => rfl
    | some g =>
      cases x with
      | relyingParty name => rfl
      | ruleGroup name =>
        have hname : ¬ g = name := fun h => hx (congrArg _ (congrArg _ h))
        show (X.ruleGroups ++ [_]).countP _ = X.ruleGroups.countP _
        rw [List.countP_append, List.countP_singleton]
        simp [hname]
  | addRule ruleGroup rule =>
    cases ruleGroup with
    | none => rfl
    | some g =>
      cases x with
      | relyingParty name => rfl
      | ruleGroup name =>
        show (X.ruleGroups.map _).countP _ = X.ruleGroups.countP _
        rw [List.countP_map]
        refine List.countP_congr fun h _ => ?_
        simp only [Function.comp_apply]
        split
        · rfl
        · rfl
  | removeRuleGroup name => rfl

theorem count_next_le {x : Subject} (hx : c.subject? ≠ some x) :
    (X.next settings c).count x ≤ X.count x := by
  unfold next
  rw [count_change hx]
  exact X.count_hide_le _ x

theorem count_change_le (X : Contents) (c : Command) (x : Subject) :
    (X.change settings c).count x ≤ X.count x + 1 := by
  by_cases hx : c.subject? = some x
  · cases c with
    | addRelyingParty new =>
      cases hd : Reconciler.draft settings new with
      | error e =>
        rw [change_without_draft hd]
        exact Nat.le_succ _
      | ok d =>
        rw [change_addRelyingParty hd]
        cases x with
        | ruleGroup name => exact Nat.le_succ _
        | relyingParty name =>
          show (X.relyingParties ++ [_]).countP _ ≤ _
          rw [List.countP_append]
          exact Nat.add_le_add_left List.countP_le_length _
    | removeRelyingParty name withRuleGroups => exact Nat.le_succ _
    | addRuleGroup name =>
      cases name with
      | none => exact Nat.le_succ _
      | some g =>
        cases x with
        | relyingParty name => exact Nat.le_succ _
        | ruleGroup name =>
          show (X.ruleGroups ++ [_]).countP _ ≤ _
          rw [List.countP_append]
          exact Nat.add_le_add_left List.countP_le_length _
    | addRule ruleGroup rule => cases hx
    | removeRuleGroup name => exact Nat.le_succ _
  · rw [count_change hx]
    exact Nat.le_succ _

/-- no command makes a name common that was not -/
theorem count_next_le_one {x : Subject} (hx : X.count x ≤ 1) (c : Command) :
    (X.next settings c).count x ≤ 1 := by
  by_cases hc : c.subject? = some x
  · have hgone : (X.hide (c.clears X)).count x = 0 := count_hidden (.inl hc)
    have hchange : (X.next settings c).count x ≤ (X.hide (c.clears X)).count x + 1 :=
      count_change_le _ c x
    omega
  · exact (count_next_le hc).trans hx

theorem count_after_le_one {x : Subject} (hx : X.count x ≤ 1) (cs : List Command) :
    (X.after settings cs).count x ≤ 1 := by
  induction cs generalizing X with
  | nil => exact hx
  | cons c cs ih => exact ih (count_next_le_one hx c)

theorem count_after_le {x : Subject} (hx : x ∉ Command.subjects cs) :
    (X.after settings cs).count x ≤ X.count x := by
  induction cs generalizing X with
  | nil => exact Nat.le_refl _
  | cons c cs ih =>
    rw [Command.subjects_cons] at hx
    rw [after_cons]
    exact (ih fun h => hx (.inr h)).trans (count_next_le fun h => hx (.inl h))

theorem admits_append {as bs : List Command} : X.Admits settings (as ++ bs)
    ↔ X.Admits settings as ∧ (X.after settings as).Admits settings bs := by
  induction as generalizing X with
  | nil => exact ⟨fun h => ⟨trivial, h⟩, fun h => h.2⟩
  | cons a as ih =>
    show _ ∧ (X.next settings a).Admits settings (as ++ bs) ↔ (_ ∧ _) ∧ _
    rw [ih, and_assoc]
    rfl

/-- whatever is replaced in the end was unique at the start -/
theorem Admits.count_le_one (h : X.Admits settings cs)
    (hkeeps : ∀ c ∈ cs, c.takesRuleGroups = false) {x : Subject} (hx : x ∈ Command.subjects cs) :
    X.count x ≤ 1 := by
  induction cs generalizing X with
  | nil =>
    obtain ⟨c, hc, -⟩ := hx
    exact absurd hc List.not_mem_nil
  | cons c cs ih =>
    obtain ⟨hready, h⟩ := h
    by_cases hc : c.subject? = some x
    · exact hready.replaced x hc
    by_cases hext : ∃ g, c.extended? = some g ∧ x = .ruleGroup g
    · obtain ⟨g, hg, rfl⟩ := hext
      exact Nat.le_of_eq (hready.extended g hg)
    -- the command does not name `x`
    let o : Set Subject := {y | c.subject? = some y ∨ ∃ g, c.extended? = some g ∧ y = .ruleGroup g}
    have hhide : (X.next settings c).hide o = X.hide o :=
      hide_next_eq settings (hkeeps c List.mem_cons_self) (fun y hy => .inl hy)
        fun g hg => .inr ⟨g, hg, rfl⟩
    rw [← count_congr hhide (not_or.mpr ⟨hc, hext⟩)]
    rw [Command.subjects_cons] at hx
    exact ih h (fun c' h => hkeeps c' (List.mem_cons_of_mem _ h)) (hx.resolve_left hc)

/-! ## links and later commands -/

/-- a relying party of this name is linked to a rule group of that name -/
def Linked (X : Contents) (relyingParty ruleGroup : String) : Prop :=
  ∃ p ∈ X.relyingParties, p.name = relyingParty ∧ ruleGroup ∈ p.links

theorem linked_hide {relyingParty ruleGroup : String} : (X.hide o).Linked relyingParty ruleGroup
    ↔ X.Linked relyingParty ruleGroup ∧ .relyingParty relyingParty ∉ o ∧ .ruleGroup ruleGroup ∉ o := by
  constructor
  · rintro ⟨p, hp, rfl, hg⟩
    obtain ⟨p', hp', rfl⟩ := List.mem_map.mp hp
    obtain ⟨hp', hpo⟩ := List.mem_filter.mp hp'
    obtain ⟨hg, hgo⟩ := Multiset.mem_filter.mp hg
    exact ⟨⟨p', hp', rfl, hg⟩, of_decide_eq_true hpo, hgo⟩
  · rintro ⟨⟨p, hp, rfl, hg⟩, hpo, hgo⟩
    exact ⟨p.unlink o, List.mem_map_of_mem (List.mem_filter.mpr ⟨hp, decide_eq_true hpo⟩), rfl,
      Multiset.mem_filter.mpr ⟨hg, hgo⟩⟩

theorem takes_iff_linked {g : String} : c.Takes X g ↔ c.takesRuleGroups = true
    ∧ ∃ name, c.subject? = some (.relyingParty name) ∧ X.Linked name g := by
  constructor
  · exact fun ⟨htakes, p, hp, hc, hg⟩ => ⟨htakes, p.name, hc, p, hp, rfl, hg⟩
  · rintro ⟨htakes, -, hc, p, hp, rfl, hg⟩
    exact ⟨htakes, p, hp, hc, hg⟩

/-- relying parties in `o` are linked to rule groups in `o` only -/
def Apart (o : Set Subject) (X : Contents) : Prop :=
  ∀ p ∈ X.relyingParties, .relyingParty p.name ∈ o → ∀ g ∈ p.links, .ruleGroup g ∈ o

theorem apart_univ (X : Contents) : X.Apart Set.univ := fun _ _ _ _ _ => Set.mem_univ _

/-- a relying party was there before, or the command is about it -/
theorem mem_change {p : RelyingParty.Content} (hp : p ∈ (X.change settings c).relyingParties) :
    p ∈ X.relyingParties ∨ c.subject? = some (.relyingParty p.name) := by
  cases c with
  | addRelyingParty new =>
    cases hd : Reconciler.draft settings new with
    | error e =>
      rw [change_without_draft hd] at hp
      exact .inl hp
    | ok d =>
      rw [change_addRelyingParty hd] at hp
      rcases List.mem_append.mp hp with hp | hp
      · exact .inl hp
      · rw [List.mem_singleton.mp hp]
        refine .inr ?_
        show new.name.map Subject.relyingParty = _
        rw [(draft_eq_ok hd).1]
        rfl
  | removeRelyingParty name withRuleGroups => exact .inl hp
  | addRuleGroup name =>
    cases name with
    | none => exact .inl hp
    | some g => exact .inl hp
  | addRule ruleGroup rule =>
    cases ruleGroup with
    | none => exact .inl hp
    | some g => exact .inl hp
  | removeRuleGroup name => exact .inl hp

theorem Apart.next (h : X.Apart o) (c : Command) :
    (X.next settings c).Apart (o \ {x | c.subject? = some x}) := by
  rintro p hp ⟨hpo, hpc⟩ g hg
  have hp := (mem_change hp).resolve_right hpc
  obtain ⟨p', hp', rfl⟩ := List.mem_map.mp hp
  obtain ⟨hg, hclear⟩ := Multiset.mem_filter.mp hg
  exact ⟨h p' (List.mem_filter.mp hp').1 hpo g hg, fun hc => hclear (.inl hc)⟩

theorem Apart.after (h : X.Apart o) (cs : List Command) :
    (X.after settings cs).Apart (o \ Command.subjects cs) := by
  induction cs generalizing X o with
  | nil =>
    rw [Command.subjects_nil, Set.sdiff_empty]
    exact h
  | cons c cs ih =>
    rw [Command.subjects_cons, ← Set.sdiff_sdiff]
    exact ih (h.next c)

/-! ## what later commands do not name -/

theorem hide_ruleGroups {name : String} (hname : .ruleGroup name ∉ o) :
    (X.hide o).ruleGroups.filter (·.name = name) = X.ruleGroups.filter (·.name = name) := by
  show (X.ruleGroups.filter _).filter _ = _
  rw [List.filter_filter]
  refine List.filter_congr fun g _ => ?_
  grind

theorem hide_relyingParties {name : String} (hname : .relyingParty name ∉ o) :
    (X.hide o).relyingParties.filter (·.name = name)
      = (X.relyingParties.filter (·.name = name)).map (·.unlink o) := by
  show ((X.relyingParties.filter _).map _).filter _ = _
  rw [List.filter_map, List.filter_filter]
  refine congrArg _ (List.filter_congr fun p _ => ?_)
  show (decide (p.name = name) && _) = _
  grind

theorem after_ruleGroups (hc : Command.Confined cs o) {name : String} (hname : .ruleGroup name ∉ o) :
    (X.after settings cs).ruleGroups.filter (·.name = name)
      = X.ruleGroups.filter (·.name = name) := by
  rw [← hide_ruleGroups hname, hide_after settings hc, hide_ruleGroups hname]

/-- rule groups that no command names match as they did -/
theorem matching_after (hc : Command.Confined cs o) (patterns : List String) :
    ((X.after settings cs).matching patterns).filter (fun g => .ruleGroup g ∉ o)
      = (X.matching patterns).filter fun g => .ruleGroup g ∉ o := by
  rw [← matching_hide, hide_after settings hc, matching_hide]

/-- links to rule groups that some command is about are gone for good -/
theorem after_relyingParties (hc : Command.Confined cs (Command.subjects cs)) {name : String}
    (hname : .relyingParty name ∉ Command.subjects cs) :
    (X.after settings cs).relyingParties.filter (·.name = name)
      = (X.relyingParties.filter (·.name = name)).map (·.unlink (Command.subjects cs)) := by
  have hapart : (X.after settings cs).Apart (Set.univ \ Command.subjects cs) :=
    X.apart_univ.after cs
  have hself : ((X.after settings cs).relyingParties.filter (·.name = name)).map
      (·.unlink (Command.subjects cs))
        = ((X.after settings cs).relyingParties.filter (·.name = name)).map id := by
    refine List.map_congr_left fun p hp => RelyingParty.Content.unlink_eq fun g hg => ?_
    obtain ⟨hp, hpn⟩ := List.mem_filter.mp hp
    have hpn := of_decide_eq_true hpn
    exact (hapart p hp ⟨Set.mem_univ _, hpn ▸ hname⟩ g hg).2
  rw [List.map_id] at hself
  rw [← hself, ← hide_relyingParties hname, hide_after settings hc, hide_relyingParties hname]

end Contents
end AccessControl
