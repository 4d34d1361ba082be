import AccessControl.Proofs.Store.Journal

/-!
# The journal rebuilds the store

A journal entry is also a call.  Making the calls of a journal on a fresh store leads to the same
records under the same identities, the same queue and the same journal, whatever failed on the way
to the journal, as long as no commit was rejected for what it was to commit.

* `Store.rebuild` : the store after the calls of some entries, if all of them succeed;
* `Store.undisturbed` : the store without its failures, with pages of another size;
* `rebuild_journal` : the journal of a store rebuilds it.
-/

namespace AccessControl

/-- the call that leaves this entry -/
def JournalEntry.call : JournalEntry → Call
  | .addRelyingParty new => .addRelyingParty new
  | .removeRelyingParty id => .removeRelyingParty id
  | .addRuleGroup new => .addRuleGroup new
  | .addRule new => .addRule new
  | .delete kind id => .delete kind id
  | .link new => .link new
  | .saveChanges _ => .saveChanges

namespace Store

/-- makes the calls of some entries, up to the first that is refused -/
def rebuild (s : Store) : List JournalEntry → Except StoreError Store
  | [] => .ok s
  | e :: entries =>
    match answer e.call s with
    | (.ok _, t) => t.rebuild entries
    | (.error err, _) => .error err

theorem rebuild_append {s t : Store} {as : List JournalEntry} (h : s.rebuild as = .ok t)
    (bs : List JournalEntry) : s.rebuild (as ++ bs) = t.rebuild bs := by
  induction as generalizing s with
  | nil =>
    cases h
    rfl
  | cons e as ih =>
    rw [List.cons_append, rebuild]
    rw [rebuild] at h
    split at h
    · exact ih h
    · cases h

theorem rebuild_singleton {s t : Store} {e : JournalEntry} {a : e.call.Answer}
    (h : answer e.call s = (.ok a, t)) : s.rebuild [e] = .ok t := by
  rw [rebuild, h]
  rfl

/-! ## without failures -/

def undisturbed (s : Store) (pageSize : Nat) : Store := { s with pageSize := pageSize, failing := [] }

section
variable (s : Store) (pageSize : Nat)

theorem undisturbed_not_fails (op : Operation) : ¬ (s.undisturbed pageSize).Fails op :=
  not_fails_of_failing_nil rfl op

theorem undisturbed_exists? (kind : ResourceKind) (id : Id) :
    (s.undisturbed pageSize).exists? kind id = s.exists? kind id := by
  cases kind <;> rfl

theorem undisturbed_insertRelyingParty (new : RelyingParty.Draft) :
    ((s.undisturbed pageSize).insertRelyingParty new).2
      = (s.insertRelyingParty new).2.undisturbed pageSize := by
  unfold insertRelyingParty insertKeys
  cases new.symmetricKey.isSome <;> cases new.signingCertificate.isSome
    <;> cases new.encryptionCertificate.isSome <;> rfl

theorem undisturbed_remove (kind : ResourceKind) (id : Id) :
    (s.undisturbed pageSize).remove kind id = (s.remove kind id).undisturbed pageSize := by
  cases kind <;> rfl

theorem undisturbed_applyChange (c : Change) :
    (s.undisturbed pageSize).applyChange c = (s.applyChange c).undisturbed pageSize := by
  cases c with
  | link l => rfl
  | delete kind id =>
    show removeIfPresent _ kind id = (s.removeIfPresent kind id).undisturbed pageSize
    unfold removeIfPresent
    rw [undisturbed_exists?]
    cases s.exists? kind id with
    | true => exact s.undisturbed_remove pageSize kind id
    | false => rfl

theorem undisturbed_applyBatch (batch : List Change) :
    (s.undisturbed pageSize).applyBatch batch = (s.applyBatch batch).undisturbed pageSize := by
  induction batch generalizing s with
  | nil => rfl
  | cons c batch ih =>
    show ((s.undisturbed pageSize).applyChange c).applyBatch batch = _
    rw [undisturbed_applyChange, ih]
    rfl

theorem undisturbed_committed :
    (s.undisturbed pageSize).committed = s.committed.undisturbed pageSize := by
  have h := ({ s with queue := [] } : Store).undisturbed_applyBatch pageSize s.queue
  show record (applyBatch (({ s with queue := [] } : Store).undisturbed pageSize) s.queue) _ = _
  rw [h]
  rfl

end

/-- A call that succeeds also succeeds where nothing is made to fail, and leads to the same records
there. -/
theorem rebuild_entries {s t : Store} {c : Call} {a : c.Answer} (h : answer c s = (.ok a, t))
    (pageSize : Nat) :
    (s.undisturbed pageSize).rebuild (c.entries s) = .ok (t.undisturbed pageSize) := by
  have hfails := s.undisturbed_not_fails pageSize
  cases c with
  | findRelyingParties name => cases h; rfl
  | findRuleGroups name => cases h; rfl
  | findKeys displayName => cases h; rfl
  | rules ruleGroup => cases h; rfl
  | listRuleGroups start => cases (Prod.mk.inj h).2; rfl
  | addRelyingParty new =>
    obtain ⟨-, hname, hrealm, hnew, -, rfl⟩ := addRelyingParty_eq_ok.mp (settle_ok h)
    have hok := addRelyingParty_eq_ok.mpr
      ⟨hfails .addRelyingParty, hname, hrealm, hnew, rfl, rfl⟩
    rw [undisturbed_insertRelyingParty] at hok
    exact rebuild_singleton (congrArg (settle (s.undisturbed pageSize)) hok)
  | removeRelyingParty id =>
    obtain ⟨-, hexists, rfl⟩ := removeRelyingParty_eq_ok.mp (settle_ok h)
    have hok : (s.undisturbed pageSize).removeRelyingParty id = .ok ((), _) :=
      removeRelyingParty_eq_ok.mpr ⟨hfails .removeRelyingParty, hexists, rfl⟩
    exact rebuild_singleton (congrArg (settle (s.undisturbed pageSize)) hok)
  | addRuleGroup new =>
    obtain ⟨-, hname, hnew, -, rfl⟩ := addRuleGroup_eq_ok.mp (settle_ok h)
    have hok := addRuleGroup_eq_ok.mpr ⟨hfails .addRuleGroup, hname, hnew, rfl, rfl⟩
    exact rebuild_singleton (congrArg (settle (s.undisturbed pageSize)) hok)
  | addRule new =>
    obtain ⟨-, hgroup, htype, -, rfl⟩ := addRule_eq_ok.mp (settle_ok h)
    have hok := addRule_eq_ok.mpr ⟨hfails .addRule, hgroup, htype, rfl, rfl⟩
    exact rebuild_singleton (congrArg (settle (s.undisturbed pageSize)) hok)
  | delete kind id =>
    obtain ⟨-, rfl⟩ := delete_eq_ok.mp (settle_ok h)
    have hok : (s.undisturbed pageSize).delete kind id = .ok ((), _) :=
      delete_eq_ok.mpr ⟨hfails .delete, rfl⟩
    exact rebuild_singleton (congrArg (settle (s.undisturbed pageSize)) hok)
  | link new =>
    obtain ⟨-, rfl⟩ := link_eq_ok.mp (settle_ok h)
    have hok : (s.undisturbed pageSize).link new = .ok ((), _) :=
      link_eq_ok.mpr ⟨hfails .link, rfl⟩
    exact rebuild_singleton (congrArg (settle (s.undisturbed pageSize)) hok)
  | saveChanges =>
    obtain ⟨-, hc, -, rfl⟩ := saveChanges_eq_ok.mp h
    have hbatch : (s.undisturbed pageSize).checkBatch s.queue = .ok () :=
      (checkChanges_congr rfl [] [] s.queue).trans hc
    have hok := saveChanges_accepted (hfails .saveChanges) hbatch
    rw [undisturbed_committed] at hok
    exact rebuild_singleton hok

/-! ## over all actions -/

/-- the action is a commit that is refused for what it was to commit -/
def rejects (s : Store) : Action → Bool
  | .call .saveChanges =>
    match s.saveChanges.1 with
    | .error (.batch _) => true
    | _ => false
  | _ => false

/-- no commit among these actions is rejected -/
def Unrejected (s : Store) : List Action → Prop
  | [] => True
  | a :: actions => s.rejects a = false ∧ (s.perform a).Unrejected actions

instance Unrejected.decidable : (s : Store) → (actions : List Action) →
    Decidable (s.Unrejected actions)
  | _, [] => inferInstanceAs (Decidable True)
  | s, a :: actions =>
    have := Unrejected.decidable (s.perform a) actions
    inferInstanceAs (Decidable (_ ∧ _))

/-- the entries by which the journal has grown from `s` to `t` rebuild `t` from `s` -/
def Rebuilds (s t : Store) (pageSize : Nat) : Prop :=
  ∃ entries, t.journal = s.journal ++ entries
    ∧ (s.undisturbed pageSize).rebuild entries = .ok (t.undisturbed pageSize)

theorem Rebuilds.unseen {s t : Store} {pageSize : Nat} (hjournal : t.journal = s.journal)
    (h : t.undisturbed pageSize = s.undisturbed pageSize) : Rebuilds s t pageSize := by
  refine ⟨[], by rw [hjournal, List.append_nil], ?_⟩
  rw [h]
  rfl

theorem Rebuilds.trans {s t u : Store} {pageSize : Nat} (hst : Rebuilds s t pageSize)
    (htu : Rebuilds t u pageSize) : Rebuilds s u pageSize := by
  obtain ⟨as, hjournal, has⟩ := hst
  obtain ⟨bs, hjournal', hbs⟩ := htu
  refine ⟨as ++ bs, ?_, ?_⟩
  · rw [hjournal', hjournal, List.append_assoc]
  · rw [rebuild_append has, hbs]

theorem perform_rebuilds {s : Store} {a : Action} (h : s.rejects a = false) (pageSize : Nat) :
    Rebuilds s (s.perform a) pageSize := by
  cases a with
  | failOn op =>
    show Rebuilds s (s.failOn op) pageSize
    unfold failOn
    split
    · exact .unseen rfl rfl
    · exact .unseen rfl rfl
  | clearFailures => exact .unseen rfl rfl
  | call c =>
    show Rebuilds s (answer c s).2 pageSize
    cases hc : answer c s with
    | mk result t =>
      cases result with
      | ok a => exact ⟨c.entries s, (answer_ok hc).2, rebuild_entries hc pageSize⟩
      | error e =>
        rcases answer_refused hc with rfl | ⟨rfl, -, fault, rfl⟩
        · exact .unseen rfl rfl
        · have hsave : s.saveChanges.1 = .error (.batch fault.reason) := congrArg Prod.fst hc
          have hreject : s.rejects (.call .saveChanges) = true := by
            unfold rejects
            rw [hsave]
          rw [hreject] at h
          cases h

theorem performs_rebuild {s : Store} {actions : List Action} (h : s.Unrejected actions)
    (pageSize : Nat) : Rebuilds s (actions.foldl perform s) pageSize := by
  induction actions generalizing s with
  | nil => exact .unseen rfl rfl
  | cons a actions ih => exact (perform_rebuilds h.1 pageSize).trans (ih h.2)

/-! ## what waits for a commit -/

/-- what waits after an entry: a commit takes everything, a deletion or a link joins at the end -/
def waitingAfter (waiting : List Change) : JournalEntry → List Change
  | .delete kind id => waiting ++ [.delete kind id]
  | .link new => waiting ++ [.link new]
  | .saveChanges _ => []
  | _ => waiting

theorem queue_answer {s t : Store} {e : JournalEntry} {a : e.call.Answer}
    (h : answer e.call s = (.ok a, t)) : t.queue = waitingAfter s.queue e := by
  have ht := (answer_ok h).1
  cases e with
  | addRelyingParty new =>
    obtain ⟨keys, heq, -⟩ := s.insertRelyingParty_frame new
    rw [ht]
    show (s.insertRelyingParty new).2.queue = s.queue
    rw [heq]
  | removeRelyingParty id => rw [ht]; rfl
  | addRuleGroup new => rw [ht]; rfl
  | addRule new => rw [ht]; rfl
  | delete kind id => rw [ht]; rfl
  | link new => rw [ht]; rfl
  | saveChanges committed =>
    rw [ht]
    exact s.committed_queue

theorem queue_rebuild {s t : Store} {entries : List JournalEntry}
    (h : s.rebuild entries = .ok t) : t.queue = entries.foldl waitingAfter s.queue := by
  induction entries generalizing s with
  | nil =>
    cases h
    rfl
  | cons e entries ih =>
    rw [rebuild] at h
    split at h
    · rename_i a u hu
      rw [ih h, queue_answer hu]
      rfl
    · cases h

/-- The journal of a store in use, replayed on a fresh store in which nothing is made to fail, gives
the same records under the same identities, the same queue and the same journal, unless a commit was
rejected on the way.  What waits in the queue is what was queued since the last commit. -/
theorem rebuild_journal (pageSize pageSize' : Nat) (actions : List Action)
    (h : ({ pageSize := pageSize } : Store).Unrejected actions) :
    ({ pageSize := pageSize' } : Store).rebuild (after pageSize actions).journal
        = .ok { after pageSize actions with pageSize := pageSize', failing := [] }
      ∧ (after pageSize actions).queue = (after pageSize actions).journal.foldl waitingAfter [] := by
  obtain ⟨entries, hjournal, hentries⟩ := performs_rebuild h pageSize'
  have hj : (after pageSize actions).journal = entries := hjournal
  rw [hj]
  exact ⟨hentries, queue_rebuild hentries⟩

/-- a relying party is linked to the second of two rule groups and the first one is deleted, in one
batch, after failures and refusals of several kinds; a deletion is left waiting -/
def busyActions : List Action := [
  .call (.addRuleGroup ⟨"staff"⟩),
  .call (.addRuleGroup ⟨"staff"⟩),
  .call (.addRuleGroup ⟨""⟩),
  .failOn .addRuleGroup,
  .call (.addRuleGroup ⟨"guests"⟩),
  .clearFailures,
  .call (.addRuleGroup ⟨"guests"⟩),
  .call (.addRule ⟨⟨none, none, "role", none, none, none, true⟩, .nth 9⟩),
  .call (.addRelyingParty
    ⟨⟨"portal", "https://portal.example/", none, .swt, 3600, []⟩, some [7], none, none, none, none,
      none⟩),
  .call (.link ⟨.nth 3, .nth 2⟩),
  .call (.delete .ruleGroup (.nth 1)),
  .failOn .saveChanges,
  .call .saveChanges,
  .clearFailures,
  .call .saveChanges,
  .call (.removeRelyingParty (.nth 1)),
  .call (.delete .relyingPartyKey (.nth 4))]

theorem rebuild_journal_busy :
    ({ pageSize := 0 } : Store).Unrejected busyActions
      ∧ ({} : Store).rebuild (after 0 busyActions).journal
        = .ok { after 0 busyActions with pageSize := 50, failing := [] }
      ∧ (after 0 busyActions).queue = [.delete .relyingPartyKey (.nth 4)]
      ∧ (after 0 busyActions).links.length = 1 := by
  have h : ({ pageSize := 0 } : Store).Unrejected busyActions := by decide +kernel
  obtain ⟨hrebuild, hqueue⟩ := rebuild_journal 0 50 busyActions h
  exact ⟨h, hrebuild, hqueue.trans (by decide +kernel), by decide +kernel⟩

end Store
end AccessControl
