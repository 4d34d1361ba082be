import AccessControl.Proofs.Digits
import AccessControl.Proofs.Reconcile.Ends
import AccessControl.Store.Listing

/-!
# Listings are complete

The pages of a listing put together are all rule groups in sorted order (`ruleGroups_listed`).  A token
is an offset of 64 bits, so a listing can only fail in a store with more rule groups than that.
-/

namespace AccessControl.Store

/-! ## tokens -/

/-- a number is read back, unless it is too large -/
theorem offset?_toString (n : Nat) :
    offset? ⟨toString n⟩ = if n < UInt64.size then some n else none := by
  have hlist : (toString n).toList = Nat.toDigits 10 n := Nat.toList_repr
  have hdigits : (Nat.toDigits 10 n).all Digits.isDigit = true :=
    List.all_eq_true.mpr fun c hc => Digits.isDigit_of_mem_toDigits hc
  unfold offset?
  rw [hlist]
  cases h : Nat.toDigits 10 n with
  | nil => exact absurd h Nat.toDigits_ne_nil
  | cons c cs =>
    have hc : c ≠ '+' := by
      rintro rfl
      have hplus : '+' ∈ Nat.toDigits 10 n := h ▸ List.mem_cons_self
      exact absurd (Digits.isDigit_of_mem_toDigits hplus) (by decide)
    rw [h] at hdigits
    have hv : Digits.value (c :: cs) = n := by rw [← h, Digits.value_toDigits]
    split
    · rename_i heq
      cases heq
      exact absurd rfl hc
    · simp only [hdigits, hv]
      rfl

/-! ## pages -/

/-- where the page of an offset starts: at the front, or after a page that is not the last -/
inductive StartsAt (s : Store) : Cursor → Nat → Prop where
  | start : StartsAt s .start 0
  | after {offset : Nat} (h : offset < s.ruleGroups.length) :
    StartsAt s (.after ⟨toString offset⟩) offset

theorem listRuleGroups_at {s : Store} {cursor : Cursor} {offset : Nat}
    (h : s.StartsAt cursor offset) : s.listRuleGroups cursor.token? = .ok (s.page offset)
      ∨ (∃ e, s.listRuleGroups cursor.token? = .error e) ∧ UInt64.size ≤ s.ruleGroups.length := by
  cases h with
  | start => exact .inl rfl
  | after h =>
    by_cases hn : offset < UInt64.size
    · left
      unfold listRuleGroups Cursor.token?
      simp only [offset?_toString, if_pos hn]
    · right
      refine ⟨⟨.invalidResource ("invalid continuation token '" ++ toString offset ++ "'"), ?_⟩,
        by omega⟩
      unfold listRuleGroups Cursor.token?
      simp only [offset?_toString, if_neg hn]

/-- a page ends the listing or leads to a later one -/
theorem page_next (s : Store) {offset : Nat} (h : offset ≤ s.ruleGroups.length) :
    ((s.page offset).next = .done ∧ (s.page offset).items = s.sortedRuleGroups.drop offset)
      ∨ ∃ stop, offset < stop ∧ stop ≤ s.ruleGroups.length
        ∧ s.StartsAt (s.page offset).next stop
        ∧ s.sortedRuleGroups.drop offset
          = (s.page offset).items ++ s.sortedRuleGroups.drop stop := by
  have hlength : s.sortedRuleGroups.length = s.ruleGroups.length := List.length_mergeSort _
  have hpage : 1 ≤ max 1 s.pageSize := Nat.le_max_left _ _
  unfold page
  by_cases hstop : min (offset + max 1 s.pageSize) s.sortedRuleGroups.length
      < s.sortedRuleGroups.length
  · refine .inr ⟨min (offset + max 1 s.pageSize) s.sortedRuleGroups.length, by omega, by omega, ?_, ?_⟩
    · simp only [hstop, if_true]
      exact .after (hlength ▸ hstop)
    · have hdrop := List.drop_drop (i := min (offset + max 1 s.pageSize) s.sortedRuleGroups.length
          - offset) (j := offset) (l := s.sortedRuleGroups)
      rw [show offset + (min (offset + max 1 s.pageSize) s.sortedRuleGroups.length - offset)
        = min (offset + max 1 s.pageSize) s.sortedRuleGroups.length by omega] at hdrop
      rw [← hdrop]
      exact (List.take_append_drop _ _).symm
  · refine .inl ⟨by simp only [hstop, if_false]; rfl, ?_⟩
    refine List.take_of_length_le ?_
    rw [List.length_drop]
    omega

theorem ask_listRuleGroups (q : Session Store) (start : Option ContinuationToken) :
    ∃ notes, backend.ask (.listRuleGroups start) q
      = (q.store.listRuleGroups start, ⟨q.store, notes⟩) := by
  have hanswer : backend.answer (.listRuleGroups start) q.store
      = (q.store.listRuleGroups start, q.store) := rfl
  unfold Backend.ask Backend.settle
  rw [hanswer]
  cases q.store.listRuleGroups start with
  | ok page => exact ⟨_, rfl⟩
  | error e => exact ⟨_, rfl⟩

theorem pages_succ {s : Store} {cursor : Cursor} {offset : Nat} (h : s.StartsAt cursor offset)
    (fuel : Nat) : backend.pages (fuel + 1) cursor = (do
      let page ← backend.ask (.listRuleGroups cursor.token?)
      return page.items ++ (← backend.pages fuel page.next) : Client Store (List RuleGroup)) := by
  cases h with
  | start => rfl
  | after h => rfl

theorem pages_done (fuel : Nat) : backend.pages fuel .done = pure [] := by
  cases fuel <;> rfl

/-- what a client makes of a listing from an offset on: it changes nothing in the store -/
theorem pages_listed (fuel : Nat) {cursor : Cursor} {offset : Nat} (q : Session Store)
    (hcursor : q.store.StartsAt cursor offset) (hoffset : offset ≤ q.store.ruleGroups.length)
    (hfuel : q.store.ruleGroups.length < offset + fuel) :
    ∃ notes, backend.pages fuel cursor q
        = (.ok (q.store.sortedRuleGroups.drop offset), ⟨q.store, notes⟩)
      ∨ (∃ e, backend.pages fuel cursor q = (.error e, ⟨q.store, notes⟩))
        ∧ UInt64.size ≤ q.store.ruleGroups.length := by
  induction fuel generalizing cursor offset q with
  | zero => omega
  | succ fuel ih =>
    rw [pages_succ hcursor]
    obtain ⟨notes, hask⟩ := ask_listRuleGroups q cursor.token?
    rcases listRuleGroups_at hcursor with hpage | ⟨⟨e, herror⟩, hlarge⟩
    · rw [hpage] at hask
      rw [bind_of_ok hask]
      rcases page_next q.store hoffset with ⟨hnext, hitems⟩ | ⟨stop, hlt, hstop, hnext, hitems⟩
      · refine ⟨notes, .inl ?_⟩
        rw [hnext, pages_done, pure_bind, List.append_nil, hitems]
        rfl
      · obtain ⟨notes', hrest⟩ := ih ⟨q.store, notes⟩ hnext hstop (by
          show q.store.ruleGroups.length < stop + fuel
          omega)
        refine ⟨notes', ?_⟩
        rcases hrest with hrest | ⟨⟨e, hrest⟩, hlarge⟩
        · rw [bind_of_ok hrest, hitems]
          exact .inl rfl
        · rw [bind_of_error hrest]
          exact .inr ⟨⟨e, rfl⟩, hlarge⟩
    · rw [herror] at hask
      rw [bind_of_error hask]
      exact ⟨notes, .inr ⟨⟨e, rfl⟩, hlarge⟩⟩

end AccessControl.Store

namespace AccessControl.Reconciler

/-- a listing in the middle of a run answers all rule groups in sorted order -/
theorem ruleGroups_listed {s : Store} {good : List RuleGroup → Store → Prop}
    {bad : ReconcileError → Store → Prop} (hgood : good s.sortedRuleGroups s)
    (hbad : UInt64.size ≤ s.ruleGroups.length → ∀ e, bad (.remote e) s) :
    (remote Store.backend.ruleGroups).Ends s good bad := by
  intro p hp
  subst hp
  have hrun : Store.backend.ruleGroups p.session
      = Store.backend.pages (p.session.store.ruleGroups.length + 1) .start p.session := rfl
  unfold remote
  rw [hrun]
  obtain ⟨notes, h | ⟨⟨e, h⟩, hlarge⟩⟩ := Store.pages_listed
    (p.session.store.ruleGroups.length + 1) p.session .start (Nat.zero_le _) (by omega)
  · rw [h]
    exact hgood
  · rw [h]
    exact hbad hlarge e

end AccessControl.Reconciler
