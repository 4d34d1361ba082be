import AccessControl.Proofs.Contents.Sequence

/-!
# Taking rule groups once more

Some commands create rule groups, and the last one replaces a relying party together with the rule
groups that it is linked to.  The same commands once more find the links that they have made: those to
the rule groups which they create are cascaded away before the last command looks, so it takes the
others, and only them.

* `Lacks.after`        what is not there does not come back, unless a command is about it;
* `linked_after`       links that are left when rule groups have been created;
* `Contents.standing`  the rule groups that a relying party is linked to and no command creates;
* `after_again`        the commands once more hide these and change nothing else.
-/

namespace AccessControl.Contents
open Classical

variable {settings : Settings} {X Y : Contents} {o : Set Subject} {c : Command} {cs : List Command}
  {x : Subject}

/-! ## what is not there -/

theorem lacks_hide (hx : x ∈ o) : (X.hide o).Lacks x := by
  cases x with
  | ruleGroup name =>
    constructor
    · rintro g hg rfl
      exact of_decide_eq_true (List.mem_filter.mp hg).2 hx
    · intro p hp hname
      obtain ⟨p', -, rfl⟩ := List.mem_map.mp hp
      exact (Multiset.mem_filter.mp hname).2 hx
  | relyingParty name =>
    rintro p hp rfl
    obtain ⟨p', hp', rfl⟩ := List.mem_map.mp hp
    exact of_decide_eq_true (List.mem_filter.mp hp').2 hx

theorem Lacks.hide (h : X.Lacks x) (o : Set Subject) : (X.hide o).Lacks x := by
  cases x with
  | ruleGroup name =>
    refine ⟨fun g hg => h.1 g (List.mem_filter.mp hg).1, fun p hp hname => ?_⟩
    obtain ⟨p', hp', rfl⟩ := List.mem_map.mp hp
    exact h.2 p' (List.mem_filter.mp hp').1 (Multiset.mem_filter.mp hname).1
  | relyingParty name =>
    intro p hp
    obtain ⟨p', hp', rfl⟩ := List.mem_map.mp hp
    exact h p' (List.mem_filter.mp hp').1

theorem not_mem_matching {name : String} (h : X.Lacks (.ruleGroup name)) (patterns : List String) :
    name ∉ X.matching patterns := fun hmem => by
  obtain ⟨g, hg, hname⟩ := List.mem_map.mp (List.mem_filter.mp (Multiset.mem_coe.mp hmem)).1
  exact h.1 g hg hname

theorem Lacks.change (h : X.Lacks x) (hx : c.subject? ≠ some x) : (X.change settings c).Lacks x := by
  cases c with
  | addRelyingParty new =>
    cases hd : Reconciler.draft settings new with
    | error e =>
      rw [change_without_draft hd]
      exact h
    | ok d =>
      rw [change_addRelyingParty hd]
      cases x with
      | ruleGroup name =>
        refine ⟨h.1, fun p hp => ?_⟩
        rcases List.mem_append.mp hp with hp | hp
        · exact h.2 p hp
        · rw [List.mem_singleton.mp hp]
          exact not_mem_matching h new.patterns
      | relyingParty name =>
        intro p hp
        rcases List.mem_append.mp hp with hp | hp
        · exact h p hp
        · rw [List.mem_singleton.mp hp]
          rintro rfl
          refine hx ?_
          show new.name.map Subject.relyingParty = _
          rw [(draft_eq_ok hd).1]
          rfl
  | removeRelyingParty name withRuleGroups => exact h
  | addRuleGroup name =>
    cases name with
    | none => exact h
    | some g =>
      cases x with
      | relyingParty name => exact h
      | ruleGroup name =>
        refine ⟨fun g' hg' => ?_, h.2⟩
        rcases List.mem_append.mp hg' with hg' | hg'
        · exact h.1 g' hg'
        · rw [List.mem_singleton.mp hg']
          rintro rfl
          exact hx rfl
  | addRule ruleGroup rule =>
    cases ruleGroup with
    | none => exact h
    | some g =>
      cases x with
      | relyingParty name => exact h
      | ruleGroup name =>
        refine ⟨fun g' hg' => ?_, h.2⟩
        obtain ⟨g₀, hg₀, rfl⟩ := List.mem_map.mp hg'
        have hname := h.1 g₀ hg₀
        split
        · exact hname
        · exact hname
  | removeRuleGroup name => exact h

theorem Lacks.after (h : X.Lacks x) (hx : x ∉ Command.subjects cs) :
    (X.after settings cs).Lacks x := by
  induction cs generalizing X with
  | nil => exact h
  | cons c cs ih =>
    rw [Command.subjects_cons] at hx
    have hc : c.subject? ≠ some x := fun hc => hx (.inl hc)
    exact ih ((h.hide _).change hc) fun hcs => hx (.inr hcs)

/-! ## standing rule groups -/

/-- what the commands are about has no links from a relying party that they do not name -/
theorem linked_after (hcs : Command.Confined cs (Command.subjects cs)) {name g : String}
    (hname : .relyingParty name ∉ Command.subjects cs) : (X.after settings cs).Linked name g
      ↔ X.Linked name g ∧ .ruleGroup g ∉ Command.subjects cs := by
  have hlinked (Z : Contents) : Z.Linked name g
      ↔ ∃ p ∈ Z.relyingParties.filter (·.name = name), g ∈ p.links := by
    simp [Linked, and_assoc]
  rw [hlinked, hlinked, after_relyingParties hcs hname]
  constructor
  · rintro ⟨p, hp, hg⟩
    obtain ⟨p', hp', rfl⟩ := List.mem_map.mp hp
    obtain ⟨hg, hgo⟩ := Multiset.mem_filter.mp hg
    exact ⟨⟨p', hp', hg⟩, hgo⟩
  · rintro ⟨⟨p, hp, hg⟩, hgo⟩
    exact ⟨p.unlink _, List.mem_map_of_mem hp, Multiset.mem_filter.mpr ⟨hg, hgo⟩⟩

/-- the rule groups outside `o` that relying parties of this name are linked to -/
def standing (X : Contents) (name : String) (o : Set Subject) : Set Subject :=
  {x | ∃ g, X.Linked name g ∧ .ruleGroup g ∉ o ∧ x = .ruleGroup g}

theorem clears_after (hcs : Command.Confined cs (Command.subjects cs)) {name : String}
    (hname : .relyingParty name ∉ Command.subjects cs) (htakes : c.takesRuleGroups = true)
    (hsubject : c.subject? = some (.relyingParty name)) : c.clears (X.after settings cs)
      = {.relyingParty name} ∪ X.standing name (Command.subjects cs) := by
  have htaken (g : String) : c.Takes (X.after settings cs) g
      ↔ X.Linked name g ∧ .ruleGroup g ∉ Command.subjects cs := by
    rw [takes_iff_linked, ← linked_after hcs hname]
    constructor
    · rintro ⟨-, name', hname', hg⟩
      rw [hsubject] at hname'
      cases hname'
      exact hg
    · exact fun hg => ⟨htakes, name, hsubject, hg⟩
  ext x
  constructor
  · rintro (hx | ⟨g, hg, rfl⟩)
    · rw [hsubject] at hx
      exact .inl (Option.some.inj hx).symm
    · obtain ⟨hlinked, hgo⟩ := (htaken g).mp hg
      exact .inr ⟨g, hlinked, hgo, rfl⟩
  · rintro (rfl | ⟨g, hlinked, hgo, rfl⟩)
    · exact .inl hsubject
    · exact .inr ⟨g, (htaken g).mpr ⟨hlinked, hgo⟩, rfl⟩

/-- the last command leaves none of the standing rule groups that it found -/
theorem standing_lacking {name : String} (hsubject : c.subject? = some (.relyingParty name))
    {S : Set Subject} (hS : S ⊆ X.standing name o) (Z : Contents) :
    ∀ x ∈ S, ((Z.hide S).change settings c).Lacks x := by
  intro x hx
  refine (lacks_hide hx).change fun h => ?_
  obtain ⟨g, -, -, rfl⟩ := hS hx
  rw [hsubject] at h
  cases h

/-- the same commands once more take what is standing, and do nothing else -/
theorem after_again (hcs : Command.Confined cs (Command.subjects cs)) {name : String}
    (hname : .relyingParty name ∉ Command.subjects cs) (htakes : c.takesRuleGroups = true)
    (hextends : c.extended? = none) (hsubject : c.subject? = some (.relyingParty name))
    (hY : Y = X.after settings (cs ++ [c])) : Y.after settings (cs ++ [c])
      = Y.hide (Y.standing name (Command.subjects cs)) := by
  let N := Command.subjects cs
  let T := X.after settings cs
  let taken := X.standing name N
  let K : Set Subject := {.relyingParty name} ∪ taken
  let S := Y.standing name N
  have hlast (Z : Contents) : Z.after settings (cs ++ [c])
      = ((Z.after settings cs).hide ({.relyingParty name} ∪ Z.standing name N)).change settings c := by
    have hclears : c.clears (Z.after settings cs) = {.relyingParty name} ∪ Z.standing name N :=
      clears_after hcs hname htakes hsubject
    rw [← hclears, after_append]
    rfl
  have hY : Y = (T.hide K).change settings c := hY.trans (hlast X)
  -- before its last command the second run stands where the first one did, but for what is cleared
  have hagree : (Y.after settings cs).hide K = T.hide K := by
    have hfirst : Y.hide K = T.hide K := by
      rw [hY, hide_change_eq settings, hide_self]
      · intro x hx
        rw [hsubject] at hx
        exact .inl (Option.some.inj hx).symm
      · intro g hg
        rw [hextends] at hg
        cases hg
    have hstart : Y.hide (N ∪ K) = X.hide (N ∪ K) := by
      calc Y.hide (N ∪ K) = (Y.hide K).hide N := by rw [hide_hide, Set.union_comm]
        _ = (T.hide N).hide K := by rw [hfirst, hide_hide, hide_hide, Set.union_comm]
        _ = X.hide (N ∪ K) := by rw [hide_after settings hcs, hide_hide]
    refine hide_eq_of_subset (after_congr settings hcs.keeps hstart) ?_
    rintro x ⟨hx | hx, hnot⟩
    · exact absurd hx hnot
    · exact hx
  -- what the first run took is not there any more
  have hgone : ∀ x ∈ taken, (Y.after settings cs).Lacks x := by
    intro x hx
    have hlacks : Y.Lacks x := by
      rw [hY, ← hide_hide]
      exact standing_lacking hsubject subset_rfl _ x hx
    refine hlacks.after ?_
    obtain ⟨g, -, hgo, rfl⟩ := hx
    exact hgo
  calc Y.after settings (cs ++ [c])
      = ((Y.after settings cs).hide ({.relyingParty name} ∪ S)).change settings c := hlast Y
    _ = ((Y.after settings cs).hide (K ∪ S)).change settings c := by
        rw [← hide_union_lacking hgone, Set.union_right_comm]
    _ = ((T.hide K).hide S).change settings c := by rw [← hide_hide, hagree]
    _ = (((T.hide K).hide S).change settings c).hide S :=
        (hide_lacking (standing_lacking hsubject subset_rfl _)).symm
    _ = Y.hide S := by rw [hY, ← hide_change]

/-- nothing is standing after the second time -/
theorem standing_hide (X : Contents) (name : String) (o : Set Subject) :
    (X.hide (X.standing name o)).standing name o = ∅ := by
  refine Set.eq_empty_iff_forall_notMem.mpr ?_
  rintro x ⟨g, hlinked, hgo, rfl⟩
  obtain ⟨hlinked, -, hg⟩ := linked_hide.mp hlinked
  exact hg ⟨g, hlinked, hgo, rfl⟩

end AccessControl.Contents
