import AccessControl.Proofs.Reconcile.Listing
import AccessControl.Proofs.Store.Snapshot
import AccessControl.Store.Script

/-!
# Listings, page by page

A listing is determined by the chain of pages that its continuations lead through, however many
rule groups are pulled from it, and whatever bound it has that the chain does not exceed.

* `Backend.Chain`            the pages from a cursor on, and the failure that ends them, if any;
* `Backend.Chain.collected`  the listing as a whole is all rule groups of the pages, or the failure;
* `Backend.Chain.pulled`     pulled one by one they are those of the pages, then the failure;
* `Store.chain`              the pages in memory, each of which starts where the one before stops;
* `Store.page_at`            the page of any offset, in arithmetic of 64 bits.
-/

namespace AccessControl

namespace Backend
variable {σ : Type} {b : Backend σ} {cursor : Cursor} {s t : σ} {pages : List (Page RuleGroup)}
  {failure : Option StoreError}

/-- from a cursor on the continuations lead through these pages, and to the failure if there is
one -/
inductive Chain (b : Backend σ) :
    Cursor → σ → List (Page RuleGroup) → Option StoreError → σ → Prop where
  | done (s : σ) : Chain b .done s [] none s
  | page {cursor : Cursor} {s t u : σ} {page : Page RuleGroup} {pages : List (Page RuleGroup)}
    {failure : Option StoreError} (hcursor : cursor ≠ .done)
    (hpage : b.answer (.listRuleGroups cursor.token?) s = (.ok page, t))
    (hrest : Chain b page.next t pages failure u) : Chain b cursor s (page :: pages) failure u
  | failed {cursor : Cursor} {s t : σ} {e : StoreError} (hcursor : cursor ≠ .done)
    (he : b.answer (.listRuleGroups cursor.token?) s = (.error e, t)) :
    Chain b cursor s [] (some e) t

/-- how often the backend is asked -/
def fetches (pages : List (Page RuleGroup)) (failure : Option StoreError) : Nat :=
  pages.length + failure.toList.length

theorem fetches_cons (page : Page RuleGroup) (pages : List (Page RuleGroup))
    (failure : Option StoreError) (extra : Nat) :
    fetches (page :: pages) failure + extra = fetches pages failure + extra + 1 := by
  unfold fetches
  rw [List.length_cons]
  omega

theorem fetches_failed (e : StoreError) (extra : Nat) :
    fetches [] (some e) + extra = extra + 1 := Nat.add_comm 1 extra

/-- rule groups that are ready, those of the pages in order, then the failure -/
def yields (ready : List RuleGroup) (pages : List (Page RuleGroup)) (failure : Option StoreError) :
    List (Except StoreError RuleGroup) :=
  (ready ++ pages.flatMap (·.items)).map .ok ++ failure.toList.map .error

/-- all rule groups, unless there is a failure -/
def collected (pages : List (Page RuleGroup)) :
    Option StoreError → Except StoreError (List RuleGroup)
  | none => .ok (pages.flatMap (·.items))
  | some e => .error e

/-- what comes of pulling `n` times, or until nothing comes -/
def pulled (b : Backend σ) (fuel : Nat) :
    Nat → Listing → Session σ → List (Except StoreError RuleGroup)
  | 0, _, _ => []
  | n + 1, l, q =>
    match b.pull fuel l q with
    | ((none, _), _) => []
    | ((some y, l), q) => y :: b.pulled fuel n l q

/-! ## one fetch -/

theorem settle_of_ok {c : Call} {a : c.Answer} (h : b.answer c s = (.ok a, t))
    (notes : List Diagnostic) : ∃ notes', b.settle c ⟨s, notes⟩ = (.ok a, ⟨t, notes'⟩) := by
  unfold settle
  rw [h]
  exact ⟨_, rfl⟩

theorem settle_of_error {c : Call} {e : StoreError} (h : b.answer c s = (.error e, t))
    (notes : List Diagnostic) : b.settle c ⟨s, notes⟩ = (.error e, ⟨t, notes⟩) := by
  unfold settle
  rw [h]

theorem pages_succ_of_ne (hcursor : cursor ≠ .done) (fuel : Nat) :
    b.pages (fuel + 1) cursor = (do
      let page ← b.ask (.listRuleGroups cursor.token?)
      return page.items ++ (← b.pages fuel page.next) : Client σ (List RuleGroup)) := by
  cases cursor with
  | done => exact absurd rfl hcursor
  | _ => rfl

section
variable {q q' : Session σ}

/-- a pull that finds nothing ready goes on with the page it fetches -/
theorem pull_of_ok (hcursor : cursor ≠ .done) (fuel : Nat) {page : Page RuleGroup}
    (h : b.settle (.listRuleGroups cursor.token?) q = (.ok page, q')) :
    b.pull (fuel + 1) ⟨cursor, []⟩ q = b.pull fuel ⟨page.next, page.items⟩ q' := by
  cases cursor with
  | done => exact absurd rfl hcursor
  | start => simp only [pull, bind, StateT.bind, h]
  | after token => simp only [pull, bind, StateT.bind, h]

theorem pull_of_error (hcursor : cursor ≠ .done) (fuel : Nat) {e : StoreError}
    (h : b.settle (.listRuleGroups cursor.token?) q = (.error e, q')) :
    b.pull (fuel + 1) ⟨cursor, []⟩ q = ((some (.error e), ⟨.done, []⟩), q') := by
  cases cursor with
  | done => exact absurd rfl hcursor
  | start =>
    simp only [pull, bind, StateT.bind, h]
    rfl
  | after token =>
    simp only [pull, bind, StateT.bind, h]
    rfl

end

theorem pull_ready (fuel : Nat) (cursor : Cursor) (g : RuleGroup) (ready : List RuleGroup)
    (q : Session σ) :
    b.pull fuel ⟨cursor, g :: ready⟩ q = ((some (.ok g), ⟨cursor, ready⟩), q) := by
  cases fuel <;> rfl

theorem pull_done (fuel : Nat) (q : Session σ) :
    b.pull fuel ⟨.done, []⟩ q = ((none, ⟨.done, []⟩), q) := by
  cases fuel <;> rfl

/-! ## the whole listing -/

theorem Chain.collected (h : b.Chain cursor s pages failure t) (extra : Nat)
    (notes : List Diagnostic) : ∃ notes', b.pages (fetches pages failure + extra) cursor ⟨s, notes⟩
      = (Backend.collected pages failure, ⟨t, notes'⟩) := by
  induction h generalizing notes with
  | done s => exact ⟨notes, by cases extra <;> rfl⟩
  | @page _ _ _ _ _ _ failure hcursor hpage hrest ih =>
    obtain ⟨notes₁, hsettle⟩ := settle_of_ok hpage notes
    obtain ⟨notes₂, hpages⟩ := ih notes₁
    refine ⟨notes₂, ?_⟩
    rw [fetches_cons, pages_succ_of_ne hcursor, Backend.ask, bind_of_ok hsettle]
    cases failure with
    | none => exact bind_of_ok hpages
    | some e => exact bind_of_error hpages
  | failed hcursor he =>
    refine ⟨notes, ?_⟩
    rw [fetches_failed, pages_succ_of_ne hcursor]
    exact bind_of_error (settle_of_error he notes)

/-- one pull: the first of what the listing yields, and a listing that yields the rest -/
theorem Chain.pull (h : b.Chain cursor s pages failure t) (ready : List RuleGroup) (extra : Nat)
    (notes : List Diagnostic) : ∃ l s' pages' failure' notes' extra',
      b.pull (fetches pages failure + extra) ⟨cursor, ready⟩ ⟨s, notes⟩
        = (((yields ready pages failure).head?, l), ⟨s', notes'⟩)
      ∧ b.Chain l.cursor s' pages' failure' t
      ∧ fetches pages failure + extra = fetches pages' failure' + extra'
      ∧ yields l.ready pages' failure' = (yields ready pages failure).tail := by
  induction h generalizing ready extra notes with
  | done s =>
    cases ready with
    | nil => exact ⟨_, s, [], none, notes, extra, pull_done .., .done s, rfl, rfl⟩
    | cons g ready => exact ⟨_, s, [], none, notes, extra, pull_ready .., .done s, rfl, rfl⟩
  | @page _ _ _ _ page pages failure hcursor hpage hrest ih =>
    cases ready with
    | nil =>
      obtain ⟨notes₁, hsettle⟩ := settle_of_ok hpage notes
      obtain ⟨l, s', pages', failure', notes', extra', hpull, hchain, hextra, hyields⟩ :=
        ih page.items extra notes₁
      refine ⟨l, s', pages', failure', notes', extra' + 1, ?_, hchain, ?_, hyields⟩
      · rw [fetches_cons, pull_of_ok hcursor _ hsettle]
        exact hpull
      · rw [fetches_cons, hextra, Nat.add_assoc]
    | cons g ready =>
      exact ⟨_, _, _, failure, notes, extra, pull_ready .., .page hcursor hpage hrest, rfl, rfl⟩
  | @failed _ _ t e hcursor he =>
    cases ready with
    | nil =>
      refine ⟨⟨.done, []⟩, t, [], none, notes, extra + 1, ?_, .done t, ?_, rfl⟩
      · rw [fetches_failed, pull_of_error hcursor _ (settle_of_error he notes)]
        rfl
      · rw [fetches_failed]
        exact (Nat.zero_add _).symm
    | cons g ready =>
      exact ⟨_, _, _, some e, notes, extra, pull_ready .., .failed hcursor he, rfl, rfl⟩

theorem Chain.pulled (h : b.Chain cursor s pages failure t) (ready : List RuleGroup) {fuel : Nat}
    (hfuel : fetches pages failure ≤ fuel) (n : Nat) (notes : List Diagnostic) :
    b.pulled fuel n ⟨cursor, ready⟩ ⟨s, notes⟩
      = (yields ready pages failure).take n := by
  induction n generalizing cursor s pages failure ready notes with
  | zero => rfl
  | succ n ih =>
    obtain ⟨extra, rfl⟩ := Nat.exists_eq_add_of_le hfuel
    obtain ⟨l, s', pages', failure', notes', extra', hpull, hchain, hextra, hyields⟩ :=
      h.pull ready extra notes
    unfold Backend.pulled
    rw [hpull]
    cases hys : yields ready pages failure with
    | nil => rfl
    | cons y ys =>
      rw [hys] at hyields
      show y :: _ = y :: _
      rw [ih hchain l.ready (by omega) notes', hyields]
      rfl

theorem recorded_answer {c : Call} {r : Except StoreError c.Answer} (h : b.answer c s = (r, t))
    (calls : List Call) : b.recorded.answer c (s, calls) = (r, t, calls ++ [c]) := by
  show ((b.answer c s).1, (b.answer c s).2, calls ++ [c]) = _
  rw [h]

/-- every fetch is one call -/
theorem Chain.recorded (h : b.Chain cursor s pages failure t) (calls : List Call) :
    ∃ more, more.length = fetches pages failure
      ∧ b.recorded.Chain cursor (s, calls) pages failure (t, calls ++ more) := by
  induction h generalizing calls with
  | done s => exact ⟨[], rfl, by rw [List.append_nil]; exact .done _⟩
  | @page cursor _ _ _ _ _ _ hcursor hpage hrest ih =>
    obtain ⟨more, hlength, hchain⟩ := ih (calls ++ [.listRuleGroups cursor.token?])
    have hanswer := recorded_answer hpage calls
    refine ⟨.listRuleGroups cursor.token? :: more, ?_, .page hcursor hanswer ?_⟩
    · rw [List.length_cons, hlength]
      exact (fetches_cons _ _ _ 0).symm
    · rw [List.append_assoc] at hchain
      exact hchain
  | @failed cursor _ _ _ hcursor he =>
    exact ⟨[.listRuleGroups cursor.token?], rfl, .failed hcursor (recorded_answer he calls)⟩

end Backend

/-! ## the store in memory -/

namespace Store

/-- a machine of 64 bits can count the rule groups, and those on a page -/
structure Fits (s : Store) : Prop where
  ruleGroups : s.ruleGroups.length < UInt64.size
  pageSize : s.pageSize < UInt64.size

/-- rule groups on a page that is not the last -/
def perPage (s : Store) : Nat := max 1 s.pageSize

/-- pages of a listing: one for every full or partial page, and one if there is nothing to list -/
def pageCount (s : Store) : Nat := max 1 ((s.ruleGroups.length + s.perPage - 1) / s.perPage)

theorem length_sortedRuleGroups (s : Store) :
    s.sortedRuleGroups.length = s.ruleGroups.length := List.length_mergeSort _

theorem items_page (s : Store) (offset : Nat) :
    (s.page offset).items = (s.sortedRuleGroups.drop offset).take s.perPage := by
  show (s.sortedRuleGroups.drop offset).take (min (offset + s.perPage) _ - offset) = _
  rw [List.take_eq_take_iff, List.length_drop]
  omega

theorem continuation_page (s : Store) (offset : Nat) :
    (s.page offset).continuation = if offset + s.perPage < s.ruleGroups.length
      then some ⟨toString (offset + s.perPage)⟩ else none := by
  have hstop : (s.page offset).continuation
      = if min (offset + s.perPage) s.sortedRuleGroups.length < s.sortedRuleGroups.length
        then some ⟨toString (min (offset + s.perPage) s.sortedRuleGroups.length)⟩ else none := rfl
  rw [hstop, length_sortedRuleGroups]
  by_cases h : offset + s.perPage < s.ruleGroups.length
  · rw [if_pos h, Nat.min_eq_left h.le, if_pos h]
  · rw [if_neg h, if_neg (by omega)]

theorem answer_at {s : Store} (hs : s.Fits) {cursor : Cursor} {offset : Nat}
    (h : s.StartsAt cursor offset) :
    cursor ≠ .done ∧ backend.answer (.listRuleGroups cursor.token?) s = (.ok (s.page offset), s) := by
  refine ⟨by cases h <;> exact Cursor.noConfusion, ?_⟩
  rcases listRuleGroups_at h with hpage | ⟨-, hlarge⟩
  · exact congrArg (·, s) hpage
  · exact absurd hs.ruleGroups hlarge.not_gt

/-- the pages from an offset on, `m` of them ahead of the last -/
theorem chain_at {s : Store} (hs : s.Fits) (m : Nat) {cursor : Cursor} {offset : Nat}
    (hcursor : s.StartsAt cursor offset)
    (hlast : m = 0 ∨ offset + m * s.perPage < s.ruleGroups.length)
    (hend : s.ruleGroups.length ≤ offset + (m + 1) * s.perPage) :
    backend.Chain cursor s ((List.range (m + 1)).map fun i => s.page (offset + i * s.perPage))
      none s := by
  obtain ⟨hne, hanswer⟩ := answer_at hs hcursor
  induction m generalizing cursor offset with
  | zero =>
    have hnext : (s.page offset).next = .done := by
      rw [Page.next, continuation_page, if_neg (by omega)]
      rfl
    rw [List.range_one, List.map_singleton, Nat.zero_mul]
    exact .page hne hanswer (hnext ▸ .done s)
  | succ m ih =>
    have hsucc : (m + 1) * s.perPage = m * s.perPage + s.perPage := Nat.succ_mul ..
    have hsucc₂ : (m + 1 + 1) * s.perPage = (m + 1) * s.perPage + s.perPage := Nat.succ_mul ..
    have hmore : offset + s.perPage < s.ruleGroups.length := by omega
    have hnext : (s.page offset).next = .after ⟨toString (offset + s.perPage)⟩ := by
      rw [Page.next, continuation_page, if_pos hmore]
      rfl
    have hrest := StartsAt.after hmore
    obtain ⟨hne', hanswer'⟩ := answer_at hs hrest
    have htail := ih hrest (by omega) (by omega) hne' hanswer'
    have hshift : (fun i => s.page (offset + i * s.perPage)) ∘ Nat.succ
        = fun i => s.page (offset + s.perPage + i * s.perPage) := by
      funext i
      rw [Function.comp_apply, Nat.succ_mul, Nat.add_comm (i * s.perPage), Nat.add_assoc]
    rw [List.range_succ_eq_map, List.map_cons, List.map_map, Nat.zero_mul, hshift]
    refine .page hne hanswer (hnext ▸ ?_)
    exact htail

/-- the pages of a whole listing -/
def listed (s : Store) : List (Page RuleGroup) :=
  (List.range s.pageCount).map fun i => s.page (i * s.perPage)

theorem pageCount_spec (s : Store) :
    ∃ m, s.pageCount = m + 1 ∧ (m = 0 ∨ m * s.perPage < s.ruleGroups.length)
      ∧ s.ruleGroups.length ≤ (m + 1) * s.perPage := by
  have hpos : 0 < s.perPage := Nat.lt_of_lt_of_le Nat.one_pos (Nat.le_max_left 1 s.pageSize)
  obtain ⟨m, hm⟩ : ∃ m, s.pageCount = m + 1 := Nat.exists_eq_succ_of_ne_zero (by
    unfold pageCount
    omega)
  refine ⟨m, hm, ?_, ?_⟩
  · rcases Nat.eq_zero_or_pos m with h | h
    · exact .inl h
    · have hdiv : (s.ruleGroups.length + s.perPage - 1) / s.perPage = m + 1 := by
        unfold pageCount at hm
        omega
      have hle := (Nat.le_div_iff_mul_le hpos).mp hdiv.ge
      rw [Nat.succ_mul] at hle
      omega
  · have hlt := Nat.lt_div_mul_add hpos (a := s.ruleGroups.length + s.perPage - 1)
    have hle : (s.ruleGroups.length + s.perPage - 1) / s.perPage * s.perPage ≤ (m + 1) * s.perPage :=
      Nat.mul_le_mul_right _ (hm ▸ Nat.le_max_right ..)
    omega

theorem chain {s : Store} (hs : s.Fits) : backend.Chain .start s s.listed none s := by
  obtain ⟨m, hcount, hlast, hend⟩ := s.pageCount_spec
  have h := chain_at hs m .start (by omega) (by omega)
  simp only [Nat.zero_add] at h
  rw [listed, hcount]
  exact h

/-- pages put together are what they are cut from -/
theorem flatMap_slices {α : Type} (l : List α) (p m : Nat) :
    (List.range m).flatMap (fun i => (l.drop (i * p)).take p) = l.take (m * p) := by
  induction m with
  | zero => simp
  | succ m ih =>
    rw [List.range_succ, List.flatMap_append, ih, List.flatMap_singleton, Nat.succ_mul,
      List.take_add]

theorem items_listed (s : Store) : s.listed.flatMap (·.items) = s.sortedRuleGroups := by
  obtain ⟨m, hcount, -, hend⟩ := s.pageCount_spec
  have hitems : s.listed.flatMap (·.items)
      = (List.range s.pageCount).flatMap fun i =>
        (s.sortedRuleGroups.drop (i * s.perPage)).take s.perPage := by
    rw [listed, List.flatMap_map]
    exact List.flatMap_congr fun i _ => s.items_page (i * s.perPage)
  rw [hitems, flatMap_slices, hcount, List.take_of_length_le (s.length_sortedRuleGroups ▸ hend)]

/-! ### tokens -/

/-- a token in decimal digits, maybe with a sign, is the number that they write -/
theorem offset?_of_digits {token : ContinuationToken} {ds : List Char} (hne : ds ≠ [])
    (hds : ∀ d ∈ ds, Digits.isDigit d = true)
    (ht : token.text.toList = ds ∨ token.text.toList = '+' :: ds)
    (hv : Digits.value ds < UInt64.size) : offset? token = some (Digits.value ds) := by
  have hread : offset? token = if ds.isEmpty || !ds.all Digits.isDigit then none
      else if Digits.value ds < UInt64.size then some (Digits.value ds) else none := by
    unfold offset?
    rcases ht with ht | ht
    · obtain ⟨d, rest, rfl⟩ := List.exists_cons_of_ne_nil hne
      have hplus : d ≠ '+' := by
        rintro rfl
        exact absurd (hds '+' List.mem_cons_self) (by decide)
      rw [ht]
      split
      · rename_i heq
        exact absurd (List.cons.inj heq).1 hplus
      · rfl
    · rw [ht]
      rfl
  have hcond : (ds.isEmpty || !ds.all Digits.isDigit) = false := by
    rw [List.all_eq_true.mpr hds, List.isEmpty_eq_false_iff.mpr hne]
    rfl
  rw [hread, hcond, if_pos hv]
  rfl

/-- the sum of two numbers of 64 bits, or the largest of them -/
def saturatingAdd (a b : UInt64) : UInt64 := if a + b < a then UInt64.ofNat (UInt64.size - 1) else a + b

theorem toNat_saturatingAdd (a b : UInt64) :
    (saturatingAdd a b).toNat = min (a.toNat + b.toNat) (UInt64.size - 1) := by
  have ha := a.toNat_lt
  have hb := b.toNat_lt
  have hmax : (UInt64.ofNat (UInt64.size - 1)).toNat = UInt64.size - 1 := rfl
  unfold saturatingAdd
  by_cases h : a + b < a
  · rw [if_pos h, hmax]
    rw [UInt64.lt_iff_toNat_lt, UInt64.toNat_add] at h
    unfold UInt64.size
    omega
  · rw [if_neg h, UInt64.toNat_add]
    rw [UInt64.lt_iff_toNat_lt, UInt64.toNat_add] at h
    unfold UInt64.size
    omega

/-- the elements from one position up to another, if both are in order and within the list -/
def slice? {α : Type} (l : List α) (start stop : Nat) : Option (List α) :=
  if start ≤ stop ∧ stop ≤ l.length then some ((l.drop start).take (stop - start)) else none

/-- where the page of an offset stops, in arithmetic of 64 bits -/
def stop (s : Store) (offset : Nat) : Nat :=
  min (saturatingAdd (.ofNat offset) (.ofNat s.perPage)).toNat s.ruleGroups.length

theorem stop_eq {s : Store} (hs : s.Fits) {offset : Nat} (h : offset < UInt64.size) :
    s.stop offset = min (offset + s.perPage) s.ruleGroups.length := by
  have hgroups := hs.ruleGroups
  have hpage : s.perPage < UInt64.size := Nat.max_lt.mpr ⟨by decide, hs.pageSize⟩
  have hoffset : (UInt64.ofNat offset).toNat = offset := UInt64.toNat_ofNat_of_lt' h
  have hperPage : (UInt64.ofNat s.perPage).toNat = s.perPage := UInt64.toNat_ofNat_of_lt' hpage
  rw [stop, toNat_saturatingAdd, hoffset, hperPage]
  omega

/-- the page of an offset holds the rule groups at the positions from there on, as far as there are
any, and leads on if there are more behind them -/
structure PageAt (s : Store) (offset : Nat) (page : Page RuleGroup) : Prop where
  items (i : Nat) : page.items[i]? = if i < s.perPage then s.sortedRuleGroups[offset + i]? else none
  continuation : page.continuation = if offset + s.perPage < s.ruleGroups.length
    then some ⟨toString (offset + s.perPage)⟩ else none
  slice : page.items = (slice? s.sortedRuleGroups offset (s.stop offset)).getD []

theorem page_at {s : Store} (hs : s.Fits) {offset : Nat} (h : offset < UInt64.size) :
    s.PageAt offset (s.page offset) where
  items i := by
    rw [items_page, List.getElem?_take, List.getElem?_drop]
  continuation := s.continuation_page offset
  slice := by
    rw [stop_eq hs h, slice?, length_sortedRuleGroups]
    by_cases hin : offset ≤ s.ruleGroups.length
    · rw [if_pos ⟨by omega, by omega⟩]
      show List.take (min (offset + s.perPage) s.sortedRuleGroups.length - offset) _ = _
      rw [length_sortedRuleGroups]
      rfl
    · rw [if_neg fun hle => hin (by omega), items_page, List.drop_eq_nil_of_le, List.take_nil]
      · rfl
      · rw [length_sortedRuleGroups]
        omega

end Store

/-! ## completeness -/

/-- a listing of the store yields every rule group once, by name and identity, with one fetch for
each of its pages -/
structure Store.ListsAll (s : Store) : Prop where
  chain : ∃ pages, backend.Chain .start s pages none s ∧ pages.length = s.pageCount
    ∧ pages.flatMap (·.items) = s.sortedRuleGroups
  all : s.sortedRuleGroups.Perm s.ruleGroups
  sorted : s.sortedRuleGroups.Pairwise fun a b =>
    toLex (a.name, a.id.number) ≤ toLex (b.name, b.id.number)
  collected (notes : List Diagnostic) : ∃ calls notes',
    backend.recorded.ruleGroups ⟨(s, []), notes⟩ = (.ok s.sortedRuleGroups, ⟨(s, calls), notes'⟩)
      ∧ calls.length = s.pageCount
  pulled (n : Nat) (notes : List Diagnostic) :
    backend.pulled (backend.longestListing s) n {} ⟨s, notes⟩ = (s.sortedRuleGroups.map .ok).take n

theorem Store.pageCount_le (s : Store) : s.pageCount ≤ backend.longestListing s := by
  show _ ≤ s.ruleGroups.length + 1
  obtain ⟨m, hcount, hlast, -⟩ := s.pageCount_spec
  have hle : m ≤ m * s.perPage := Nat.le_mul_of_pos_right m (Nat.le_max_left 1 s.pageSize)
  omega

theorem Store.fetches_listed (s : Store) : Backend.fetches s.listed none = s.pageCount := by
  show s.listed.length = _
  rw [listed, List.length_map, List.length_range]

theorem Store.listsAll {s : Store} (hs : s.Fits) : s.ListsAll where
  chain := ⟨s.listed, chain hs, s.fetches_listed, s.items_listed⟩
  all := List.mergeSort_perm ..
  sorted := pairwise_mergeSort_key ruleGroupLe_iff s.ruleGroups
  collected notes := by
    obtain ⟨calls, hlength, hchain⟩ := (chain hs).recorded []
    obtain ⟨extra, hextra⟩ := Nat.exists_eq_add_of_le s.pageCount_le
    obtain ⟨notes', hpages⟩ := hchain.collected extra notes
    rw [s.fetches_listed] at hlength
    rw [s.fetches_listed, ← hextra, Backend.collected, s.items_listed] at hpages
    exact ⟨calls, notes', hpages, hlength⟩
  pulled n notes := by
    rw [(chain hs).pulled [] (s.fetches_listed ▸ s.pageCount_le) n notes, Backend.yields,
      List.nil_append, s.items_listed, Option.toList_none, List.map_nil, List.append_nil]

/-- listings are complete: in memory they have every rule group once, any offset leads to the rule
groups behind it, and whatever the backend, they go through its pages in order up to the first
error -/
theorem Store.listing_complete :
    (∀ s : Store, s.Fits → s.ListsAll ∧
      ∀ (token : ContinuationToken) (ds : List Char), ds ≠ [] → (∀ d ∈ ds, Digits.isDigit d = true) →
        token.text.toList = ds ∨ token.text.toList = '+' :: ds → Digits.value ds < UInt64.size →
        ∃ page, s.listRuleGroups (some token) = .ok page ∧ s.PageAt (Digits.value ds) page) ∧
    ∀ {σ : Type} (b : Backend σ) (s t : σ) (pages : List (Page RuleGroup))
      (failure : Option StoreError), b.Chain .start s pages failure t →
      ∀ fuel, Backend.fetches pages failure ≤ fuel → ∀ notes,
        (∃ notes', b.pages fuel .start ⟨s, notes⟩ = (Backend.collected pages failure, ⟨t, notes'⟩)) ∧
        ∀ n, b.pulled fuel n {} ⟨s, notes⟩ = (Backend.yields [] pages failure).take n := by
  refine ⟨fun s hs => ⟨listsAll hs, fun token ds hne hds ht hv => ?_⟩,
    fun b s t pages failure h fuel hfuel notes => ⟨?_, fun n => h.pulled [] hfuel n notes⟩⟩
  · refine ⟨s.page (Digits.value ds), ?_, page_at hs hv⟩
    unfold listRuleGroups
    simp only [offset?_of_digits hne hds ht hv]
  · obtain ⟨extra, rfl⟩ := Nat.exists_eq_add_of_le hfuel
    exact h.collected extra notes

/-- three rule groups, two of them of one name, on pages of two -/
def Store.three : Store :=
  let s : Store := { pageSize := 2 }
  let s := (s.insertRuleGroup ⟨"b"⟩).2
  let s := (s.insertRuleGroup ⟨"a"⟩).2
  (s.insertRuleGroup ⟨"b"⟩).2

/-- a page that leads to a failure -/
def Script.breaksOff : Script where
  listRuleGroups := [.ok ⟨[⟨.nil, "a"⟩], some ⟨"next"⟩⟩, .error (.internal "down")]

theorem Script.breaksOff_chain : Script.backend.Chain .start breaksOff
    [⟨[⟨.nil, "a"⟩], some ⟨"next"⟩⟩] (some (.internal "down")) {} :=
  .page (t := { listRuleGroups := [.error (.internal "down")] }) Cursor.noConfusion rfl
    (.failed Cursor.noConfusion rfl)

theorem Store.listing_three :
    three.Fits ∧ three.pageCount = 2 ∧ three.ListsAll
      ∧ (∃ page, three.listRuleGroups (some ⟨"+01"⟩) = .ok page ∧ three.PageAt 1 page)
      ∧ Script.backend.pulled 2 5 {} ⟨Script.breaksOff, []⟩
        = [.ok ⟨.nil, "a"⟩, .error (.internal "down")] := by
  have hfits : three.Fits := ⟨by decide, by decide⟩
  obtain ⟨hall, hpages⟩ := listing_complete.1 three hfits
  have hpage := hpages ⟨"+01"⟩ ['0', '1'] (by decide) (List.all_eq_true.mp rfl) (by decide) (by decide)
  refine ⟨hfits, rfl, hall, hpage, ?_⟩
  have hlisting := listing_complete.2 Script.backend Script.breaksOff {} _ _ Script.breaksOff_chain
  exact (hlisting 2 (Nat.le_refl 2) []).2 5

end AccessControl
