import AccessControl.Proofs.Reconcile.Writes

/-!
# The protocol of a run

Whatever a backend answers, a command makes its writes in the order of its protocol, and a run stops at
the first call that fails (`reconcile_protocol`).  The plan of a run puts those of its commands one after
another (`Plan.inOrder`).
-/

namespace AccessControl
open Act Reconciler Run RegularExpression Write

/-- one command after another -/
def Plan.inOrder (plan : Command → Plan Unit) : List Command → Plan Unit
  | [] => .done ()
  | c :: cs => (plan c).bind fun _ => inOrder plan cs

variable {sink : Sink} {settings : Settings} {plan : Command → Plan Unit}

theorem executeAll_follows_inOrder
    (hplan : ∀ c, Follows (fun _ b => (against sink settings b).execute c) (plan c))
    (commands : List Command) :
    Follows (fun _ b => (against sink settings b).executeAll commands)
      (Plan.inOrder plan commands) := by
  induction commands with
  | nil => exact .pure ()
  | cons c cs ih =>
    have hnoted : Follows (fun _ b => (against sink settings b).executeNoted c) (plan c) :=
      Follows.bind (.unseen (note_unseen _)) fun _ => (hplan c).tryCatch_note
    have hrest := Follows.bind (.unseen (recordReport_unseen fun report =>
      { report with commands := report.commands + 1 })) fun _ => ih
    exact hnoted.bind fun _ => hrest

/-- nothing is left queued between commands -/
theorem inOrder_always (hplan : ∀ c, (plan c).Always (Obeys c)) (commands : List Command) :
    (Plan.inOrder plan commands).Always fun r acts =>
      Batched (attempts acts) ∧ (r = .ok () → Settled (attempts acts)) := by
  induction commands with
  | nil => exact fun _ _ _ => ⟨.nil, Settled.nil.toBatched, fun _ => .nil⟩
  | cons c cs ih =>
    refine (hplan c).bind (fun a => ih.mono fun r acts' h acts hacts => ?_) fun e acts h => ?_
    · have hsettled : Settled (attempts acts) := settles_protocol _ c _ (hacts.complete a rfl)
      rw [attempts_append]
      exact ⟨hsettled.append_batched h.1, fun hr => hsettled.append (h.2 hr)⟩
    · obtain ⟨rest, hrest⟩ := h.begun
      exact ⟨(settles_protocol _ c _ hrest).toBatched.of_append, nofun⟩

theorem reconcile_leads
    (hplan : ∀ c, Follows (fun _ b => (against sink settings b).execute c) (plan c))
    (commands : List Command) {σ : Type} (b : Backend σ) (session : Session σ) :
    let ended := (against sink settings b).reconcile commands session
    ((Plan.inOrder plan commands).trace b session.store).LeadsTo { session := session }
      (ended.1.map fun _ => (), ended.2) := by
  have hrun : Follows (fun _ b => note (starting b.name commands.length) >>= fun _ =>
      (against sink settings b).executeAll commands) (Plan.inOrder plan commands) :=
    Follows.bind (.unseen (note_unseen _)) fun _ => executeAll_follows_inOrder hplan commands
  have hleads := hrun σ b { session := session }
  intro ended
  cases hm : (note (starting b.name commands.length) >>= fun _ =>
      (against sink settings b).executeAll commands) { session := session } with
  | mk r q =>
    simp only [hm] at hleads
    cases r with
    | error e =>
      have hended : ended = (.error e, q) := reconcile_of_error hm
      rw [hended]
      exact ⟨hleads.result, hleads.store, hleads.events⟩
    | ok a =>
      have hended : ended = (.ok q.report, _) := reconcile_of_ok hm
      rw [hended]
      exact ⟨hleads.result, hleads.store, hleads.events⟩

theorem eq_error_of_map {ε α β : Type} {x : Except ε α} {f : α → β} {e : ε}
    (h : x.map f = .error e) : x = .error e := by
  cases x with
  | ok a => cases h
  | error e' =>
    cases h
    rfl

/-- Every command has a plan, for all backends the same.  Along it the writes that succeed are in the
order of the protocol, and are all of it if the command comes to its end.  A run does what the plans of
its commands say, one after another: no batch is empty or mixed, and the first call that fails is the
last thing that happens. -/
theorem reconcile_protocol (sink : Sink) (settings : Settings) : ∃ plan : Command → Plan Unit,
    (∀ c, Follows (fun _ b => (against sink settings b).execute c) (plan c))
    ∧ (∀ (c : Command) {σ : Type} (b : Backend σ) (s : σ),
        let t := (plan c).trace b s
        let words := (c.protocol (found t.acts)).matches'
        (∃ rest, writes t.acts ++ rest ∈ words) ∧ (t.result.isOk = true → writes t.acts ∈ words)
        ∧ ((t.acts = [] ∧ t.result.isOk = false)
          ∨ ∃ call outcome rest, c.lookup? = some call ∧ t.acts = .call call outcome :: rest))
    ∧ ∀ (commands : List Command) {σ : Type} (b : Backend σ) (s : σ) (notes : List Diagnostic),
        let t := (Plan.inOrder plan commands).trace b s
        let ended := (against sink settings b).reconcile commands ⟨s, notes⟩
        let kept := (against sink settings b.recorded).reconcile commands ⟨(s, []), notes⟩
        t.LeadsTo { session := ⟨s, notes⟩ } (ended.1.map fun _ => (), ended.2)
        ∧ kept.2.session.store.2 = t.acts.filterMap Act.call?
        ∧ Batched (attempts t.acts)
        ∧ ∀ before act after e, t.acts = before ++ act :: after → act.error? = some e →
            after = [] ∧ ended.1 = .error (.remote e) := by
  choose plan hfollows halways using fun c => @execute_planned sink settings c
  refine ⟨plan, hfollows, fun c σ b s => ?_, fun commands σ b s notes => ?_⟩
  · obtain ⟨hheeds, hobeys⟩ := halways c σ b s
    exact ⟨hobeys.writes_begun hheeds, hobeys.writes_complete hheeds, hobeys.looks⟩
  · intro t ended kept
    have hleads := reconcile_leads hfollows commands b ⟨s, notes⟩
    have hkept := reconcile_leads hfollows commands b.recorded ⟨(s, []), notes⟩
    obtain ⟨hheeds, hbatched, -⟩ := inOrder_always halways commands σ b s
    refine ⟨hleads, ?_, hbatched, fun before act after e hacts he => ?_⟩
    · rw [show kept.2.session.store = _ from hkept.store, Plan.trace_recorded]
      rfl
    · have hlast : Heeds t.result (before ++ act :: after) := hacts ▸ hheeds
      obtain ⟨hafter, hresult⟩ := hlast.last_of_error he
      exact ⟨hafter, eq_error_of_map (hleads.result.trans hresult)⟩

end AccessControl
