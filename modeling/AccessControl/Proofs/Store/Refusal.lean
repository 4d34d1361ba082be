import AccessControl.Proofs.Store.Rebuild

/-!
# Refused writes

A write that is refused leaves the store as it was, down to the next identity.  Only a rejected batch is
lost: the queue is empty afterwards, and a later commit makes nothing of what was in it.

* `Store.Offends`       what the check of a batch finds wrong with a change, by the changes before it;
* `checkBatch_rejects`  a batch is rejected exactly if one of its changes offends, wherever it stands;
* `refusal_atomic`      what refused writes leave, and what is committed after a rejected batch.
-/

namespace AccessControl

def StoreError.isBatch : StoreError → Bool
  | .batch _ => true
  | _ => false

/-- a property of every element and what stands before it -/
theorem forall_split_cons {α : Type} {P : List α → α → Prop} {a : α} {l : List α} :
    (∀ before b after, a :: l = before ++ b :: after → P before b) ↔
      P [] a ∧ ∀ before b after, l = before ++ b :: after → P (a :: before) b := by
  constructor
  · intro h
    exact ⟨h [] a l rfl, fun before b after hl => h (a :: before) b after (by rw [hl]; rfl)⟩
  · rintro ⟨hfirst, hrest⟩ before b after heq
    cases before with
    | nil =>
      cases heq
      exact hfirst
    | cons a' before =>
      cases heq
      exact hrest before b after rfl

namespace Store

/-! ## what the check of a batch finds -/

/-- there is no such resource, or these changes delete it -/
def Misses (s : Store) (before : List Change) (kind : ResourceKind) (id : Id) : Prop :=
  s.exists? kind id = false ∨ ∃ kind', .delete kind' id ∈ before

/-- the change may not stand after these in a batch -/
def Offends (s : Store) (before : List Change) : Change → Prop
  | .delete kind id => s.Misses before kind id
  | .link l => s.Misses before .relyingParty l.relyingParty ∨ s.Misses before .ruleGroup l.ruleGroup
      ∨ s.isLinked l = true ∨ .link l ∈ before

section
variable {s : Store} {before batch : List Change} {deleted : List Id} {linked : List Link.Draft}

theorem not_misses (hdeleted : ∀ id, id ∈ deleted ↔ ∃ kind, .delete kind id ∈ before)
    {kind : ResourceKind} {id : Id} :
    ¬ s.Misses before kind id ↔ s.exists? kind id = true ∧ id ∉ deleted := by
  unfold Misses
  rw [hdeleted, not_or, Bool.not_eq_false]

/-- `deleted` and `linked` are what the check has kept of the changes `before` -/
theorem checkChanges_eq_ok (hdeleted : ∀ id, id ∈ deleted ↔ ∃ kind, .delete kind id ∈ before)
    (hlinked : ∀ l, l ∈ linked ↔ .link l ∈ before) :
    s.checkChanges deleted linked batch = .ok () ↔
      ∀ pre c post, batch = pre ++ c :: post → ¬ s.Offends (before ++ pre) c := by
  induction batch generalizing before deleted linked with
  | nil => exact iff_of_true rfl fun pre c post h => by simp at h
  | cons c batch ih =>
    rw [forall_split_cons, List.append_nil]
    -- with what it keeps of `c` the check has kept what it needs of `before ++ [c]`
    cases c with
    | delete kind id =>
      have hnow : ¬ s.Offends before (.delete kind id) ↔ s.exists? kind id = true ∧ id ∉ deleted :=
        not_misses hdeleted
      have hthen : s.checkChanges (id :: deleted) linked batch = .ok () ↔ ∀ pre c post,
          batch = pre ++ c :: post → ¬ s.Offends (before ++ [.delete kind id] ++ pre) c :=
        ih (fun i => by simp [hdeleted]; grind) fun l => by simp [hlinked]
      simp only [List.append_assoc, List.singleton_append] at hthen
      rw [checkChanges_delete, hnow, hthen]
      tauto
    | link l =>
      have hnow : ¬ s.Offends before (.link l) ↔
          (s.exists? .relyingParty l.relyingParty = true ∧ l.relyingParty ∉ deleted)
            ∧ (s.exists? .ruleGroup l.ruleGroup = true ∧ l.ruleGroup ∉ deleted)
            ∧ (s.isLinked l = false ∧ l ∉ linked) := by
        show ¬ (_ ∨ _ ∨ _ ∨ _) ↔ _
        rw [not_or, not_or, not_or, not_misses hdeleted, not_misses hdeleted, hlinked,
          Bool.not_eq_true]
      have hthen : s.checkChanges deleted (l :: linked) batch = .ok () ↔ ∀ pre c post,
          batch = pre ++ c :: post → ¬ s.Offends (before ++ [.link l] ++ pre) c :=
        ih (fun i => by simp [hdeleted]) fun l' => by simp [hlinked]; tauto
      simp only [List.append_assoc, List.singleton_append] at hthen
      rw [checkChanges_link, hnow, hthen]
      tauto

theorem checkBatch_eq_ok : s.checkBatch batch = .ok () ↔
    ∀ before c after, batch = before ++ c :: after → ¬ s.Offends before c := by
  have hdeleted (id : Id) : id ∈ ([] : List Id) ↔ ∃ kind, Change.delete kind id ∈ [] := by simp
  exact checkChanges_eq_ok hdeleted fun _ => by simp

/-- a batch is rejected for a change that offends, wherever it stands -/
theorem checkBatch_rejects : (∃ fault, s.checkBatch batch = .error fault) ↔
    ∃ before c after, batch = before ++ c :: after ∧ s.Offends before c := by
  have hok : s.checkBatch batch = .ok () ↔
      ∀ before c after, batch = before ++ c :: after → ¬ s.Offends before c := checkBatch_eq_ok
  cases hc : s.checkBatch batch with
  | ok u =>
    refine iff_of_false (fun ⟨_, h⟩ => by cases h) ?_
    rintro ⟨before, c, after, hbatch, hoffends⟩
    exact hok.mp hc before c after hbatch hoffends
  | error fault =>
    refine iff_of_true ⟨fault, rfl⟩ ?_
    by_contra hnone
    rw [hc] at hok
    refine nomatch hok.mpr fun before c after hbatch hoffends => ?_
    exact hnone ⟨before, c, after, hbatch, hoffends⟩

end

/-! ## refusals -/

/-- an error of this is none of a batch -/
def NoBatchError {α : Type} (x : Except StoreError α) : Prop := ∀ e, x = .error e → e.isBatch = false

section
variable {α β : Type} {s t : Store} {e : StoreError}

theorem NoBatchError.pure (a : α) : NoBatchError (Pure.pure a) := nofun

theorem NoBatchError.guardFailure {op : Operation} {k : Unit → Except StoreError β} (h : NoBatchError (k ())) :
    NoBatchError (s.guardFailure op >>= k) := by
  intro e he
  by_cases hf : s.Fails op
  · rw [guardFailure_of_fails hf] at he
    cases he
    rfl
  · rw [guardFailure_of_not_fails hf] at he
    exact h e he

theorem NoBatchError.require {condition : Bool} {k : Unit → Except StoreError β} (he : e.isBatch = false)
    (h : NoBatchError (k ())) : NoBatchError (require condition e >>= k) := by
  intro e' he'
  cases condition with
  | true => exact h e' he'
  | false =>
    cases he'
    exact he

theorem NoBatchError.settle {x : Except StoreError (α × Store)} (hx : NoBatchError x)
    (h : settle s x = (.error e, t)) : e.isBatch = false ∧ t = s := by
  cases x with
  | ok r => cases h
  | error e =>
    cases h
    exact ⟨hx e rfl, rfl⟩

/-- a call that is refused leaves the store as it is, unless it is a commit whose batch is at fault -/
theorem answer_refusal {c : Call} (h : answer c s = (.error e, t)) :
    e.isBatch = false ∧ t = s
      ∨ c = .saveChanges ∧ e.isBatch = true ∧ t = { s with queue := [] } := by
  cases c with
  | findRelyingParties name => cases h
  | findRuleGroups name => cases h
  | findKeys displayName => cases h
  | rules ruleGroup => cases h
  | listRuleGroups start =>
    obtain ⟨herror, rfl⟩ := Prod.mk.inj h
    refine .inl ⟨?_, rfl⟩
    unfold listRuleGroups at herror
    split at herror
    · cases herror
    · split at herror
      · cases herror
      · cases herror
        rfl
  | addRelyingParty new =>
    have hx : NoBatchError (s.addRelyingParty new) :=
      .guardFailure (.require rfl (.require rfl (.require rfl (.pure _))))
    exact .inl (hx.settle h)
  | removeRelyingParty id =>
    have hx : NoBatchError (s.removeRelyingParty id) := .guardFailure (.require rfl (.pure _))
    exact .inl (hx.settle h)
  | addRuleGroup new =>
    have hx : NoBatchError (s.addRuleGroup new) :=
      .guardFailure (.require rfl (.require rfl (.pure _)))
    exact .inl (hx.settle h)
  | addRule new =>
    have hx : NoBatchError (s.addRule new) := .guardFailure (.require rfl (.require rfl (.pure _)))
    exact .inl (hx.settle h)
  | delete kind id =>
    have hx : NoBatchError (s.delete kind id) := .guardFailure (.pure _)
    exact .inl (hx.settle h)
  | link new =>
    have hx : NoBatchError (s.link new) := .guardFailure (.pure _)
    exact .inl (hx.settle h)
  | saveChanges =>
    by_cases hf : s.Fails .saveChanges
    · cases (saveChanges_fails hf).symm.trans h
      exact .inl ⟨rfl, rfl⟩
    · cases hc : s.checkBatch s.queue with
      | ok u => cases (saveChanges_accepted hf hc).symm.trans h
      | error fault =>
        cases (saveChanges_rejected hf hc).symm.trans h
        exact .inr ⟨rfl, rfl, rfl⟩

end

/-! ## after a rejection -/

/-- what waits has been queued by one of the entries, or waited before -/
theorem mem_waitingAfter {waiting : List Change} {entries : List JournalEntry} {c : Change}
    (h : c ∈ entries.foldl waitingAfter waiting) : c ∈ waiting ∨ c.entry ∈ entries := by
  induction entries generalizing waiting with
  | nil => exact .inl h
  | cons e entries ih =>
    rcases ih h with hwaits | hlater
    · cases e with
      | delete kind id =>
        rcases List.mem_append.mp hwaits with hwaits | hnew
        · exact .inl hwaits
        · rw [List.mem_singleton.mp hnew]
          exact .inr List.mem_cons_self
      | link new =>
        rcases List.mem_append.mp hwaits with hwaits | hnew
        · exact .inl hwaits
        · rw [List.mem_singleton.mp hnew]
          exact .inr List.mem_cons_self
      | saveChanges committed => exact absurd hwaits List.not_mem_nil
      | addRelyingParty new => exact .inl hwaits
      | removeRelyingParty id => exact .inl hwaits
      | addRuleGroup new => exact .inl hwaits
      | addRule new => exact .inl hwaits
    · exact .inr (List.mem_cons_of_mem _ hlater)

/-- what waits after some actions on a store without a queue was queued by them -/
theorem queue_performs {t : Store} (hq : t.queue = []) {actions : List Action}
    (h : t.Unrejected actions) :
    ∃ entries, (actions.foldl perform t).journal = t.journal ++ entries
      ∧ (actions.foldl perform t).queue = entries.foldl waitingAfter []
      ∧ ∀ c ∈ (actions.foldl perform t).queue, c.entry ∈ entries := by
  obtain ⟨entries, hjournal, hentries⟩ := performs_rebuild h t.pageSize
  have hqueue : (actions.foldl perform t).queue = entries.foldl waitingAfter [] := by
    have hempty : (t.undisturbed t.pageSize).queue = [] := hq
    have hrebuilt := queue_rebuild hentries
    rw [hempty] at hrebuilt
    exact hrebuilt
  refine ⟨entries, hjournal, hqueue, fun c hc => ?_⟩
  rw [hqueue] at hc
  exact (mem_waitingAfter hc).resolve_left List.not_mem_nil

/-- A call that is refused leaves the whole store as it was, and only a rejected batch is dropped from
the queue.  A batch is rejected for a change that offends, wherever it stands.  What waits at any time
after a rejection was queued since, and the next commit applies that or drops it in its turn. -/
theorem refusal_atomic (s : Store) :
    (∀ c e t, answer c s = (.error e, t) →
        t = (if e.isBatch then { s with queue := [] } else s) ∧ (e.isBatch = true → c = .saveChanges))
    ∧ (¬ s.Fails .saveChanges → ∀ before change after, s.queue = before ++ change :: after →
        s.Offends before change →
        ∃ reason, s.saveChanges = (.error (.batch reason), { s with queue := [] }))
    ∧ ∀ reason t, s.saveChanges = (.error (.batch reason), t) →
        ∀ actions, t.Unrejected actions →
          let u := actions.foldl perform t
          ∃ entries, u.journal = t.journal ++ entries ∧ u.queue = entries.foldl waitingAfter []
            ∧ (∀ change ∈ u.queue, change.entry ∈ entries)
            ∧ (¬ u.Fails .saveChanges → u.saveChanges = (.ok u.queue.length, u.committed)
              ∨ ∃ reason', u.saveChanges = (.error (.batch reason'), { u with queue := [] })) := by
  refine ⟨fun c e t h => ?_, fun hf before change after hqueue hoffends => ?_,
    fun reason t h actions hactions => ?_⟩
  · rcases answer_refusal h with ⟨hother, rfl⟩ | ⟨rfl, hbatch, rfl⟩
    · rw [hother]
      exact ⟨rfl, fun h => by cases h⟩
    · rw [hbatch]
      exact ⟨rfl, fun _ => rfl⟩
  · obtain ⟨fault, hfault⟩ := checkBatch_rejects.mpr ⟨before, change, after, hqueue, hoffends⟩
    exact ⟨fault.reason, saveChanges_rejected hf hfault⟩
  · have hq : t.queue = [] := by
      rcases answer_refusal (c := .saveChanges) h with ⟨hother, -⟩ | ⟨-, -, rfl⟩
      · cases hother
      · rfl
    obtain ⟨entries, hjournal, hqueue, hsince⟩ := queue_performs hq hactions
    refine ⟨entries, hjournal, hqueue, hsince, fun hf => ?_⟩
    cases hc : (actions.foldl perform t).checkBatch (actions.foldl perform t).queue with
    | ok u => exact .inl (saveChanges_accepted hf hc)
    | error fault => exact .inr ⟨fault.reason, saveChanges_rejected hf hc⟩

/-- two rule groups and a batch of three deletions, the second of which is of a rule that is missing -/
def faultyActions : List Action := [
  .call (.addRuleGroup ⟨"staff"⟩),
  .call (.addRuleGroup ⟨"guests"⟩),
  .call (.delete .ruleGroup (.nth 1)),
  .call (.delete .rule (.nth 7)),
  .call (.delete .ruleGroup (.nth 2))]

/-- the batch goes as a whole, and the deletion that is queued after it is committed alone -/
theorem refusal_atomic_midway :
    let s := after 50 faultyActions
    let t : Store := { s with queue := [] }
    let u := [Action.call (.delete .ruleGroup (.nth 2))].foldl perform t
    (∃ reason, s.saveChanges = (.error (.batch reason), t)) ∧ u.saveChanges = (.ok 1, u.committed)
      ∧ u.committed.ruleGroups = [⟨.nth 1, "staff"⟩] := by
  intro s t u
  obtain ⟨-, hrejects, hlater⟩ := refusal_atomic s
  obtain ⟨reason, hreason⟩ := hrejects (by decide) [.delete .ruleGroup (.nth 1)]
    (.delete .rule (.nth 7)) [.delete .ruleGroup (.nth 2)] (by decide) (.inl (by decide))
  obtain ⟨-, -, -, -, hnext⟩ := hlater reason t hreason
    [.call (.delete .ruleGroup (.nth 2))] (by decide)
  refine ⟨⟨reason, hreason⟩, ?_, by decide⟩
  rcases hnext (by decide) with haccepted | ⟨reason', hrejected⟩
  · exact haccepted
  · have hok : u.saveChanges.1.isOk = true := by decide
    have hrejected : u.saveChanges = (.error (.batch reason'), { u with queue := [] }) := hrejected
    rw [hrejected] at hok
    cases hok

end Store
end AccessControl
