import AccessControl.Proofs.Declaration
import AccessControl.Proofs.Reconcile.Runs
import AccessControl.Proofs.Store.Snapshot

/-!
# Reconciling twice

What a declaration asks for is the same the second time, although the second run finds other resources
than the first one did: rule groups that only came later, and none of the links that were cascaded
away (`reconcile_idempotent`).

Rule groups are listed in pages, whose offsets have 64 bits.  `hroom` says that the rule groups of all
runs can be counted so, as they can in any memory that holds them and the commands.
-/

namespace AccessControl
open Reconciler

variable {sink sink' : Sink} {settings : Settings} {s t : Store}

theorem reconcile_idempotent (hs : s.Reachable) (hc : s.Closed) (hq : s.queue = [])
    (hf : s.failing = []) {d : Declaration} (hd : d.keepsRelated = true)
    (hroom : s.ruleGroups.length + 2 * d.commands.length < UInt64.size) {notes : List Diagnostic}
    (hok : ((inMemory sink settings).reconcile d.commands ⟨s, notes⟩).1.isOk = true)
    (notes' : List Diagnostic) :
    let t := ((inMemory sink settings).reconcile d.commands ⟨s, notes⟩).2.session.store
    let again := (inMemory sink' settings).reconcile d.commands ⟨t, notes'⟩
    again.1.isOk = true ∧ again.2.session.store.snapshot = t.snapshot := by
  intro t again
  have hsound := hs.sound
  have hconfined := d.confined hd
  have hcarries : Carries settings d.commands s t :=
    reconcile_good (executeAll_carries hsound hc hq) hok
  have hkeeps : Keeps (Command.subjects d.commands) d.commands.length s t :=
    reconcile_keeps hsound hc hconfined (.nil hq) notes
  have hsteps : s.Steps t := reconcile_steps d.commands s notes
  have htracks : Tracks settings s.contents (Command.subjects d.commands) d.commands t :=
    hcarries.tracks hconfined d.grounded (hsteps.sound hsound) (hsteps.closed hc)
      (hsteps.failing.trans hf) hkeeps.toTouches (by omega)
  rcases reconcile_again htracks notes' with ⟨hagain, hcontents⟩ | ⟨e, -, hrejected⟩
  · exact ⟨hagain, Store.snapshot_congr (hcontents.trans hcarries.contents.symm)⟩
  · -- nothing waits after the first run
    exact absurd hcarries.idle hrejected.waited

/-- the relying parties that share a name are not declared, so they do not matter -/
theorem reconcile_idempotent_portal :
    let legacy : RelyingParty.Draft :=
      ⟨⟨"legacy", "urn:legacy", none, .saml2, 600, []⟩, none, none, none, none, none, none⟩
    let s := ((({} : Store).insertRelyingParty legacy).2.insertRelyingParty legacy).2
    let d := Declaration.relyingParty .portal
    let first := (inMemory .keeping {}).reconcile d.commands ⟨s, []⟩
    let again := (inMemory .silent {}).reconcile d.commands ⟨first.2.session.store, []⟩
    first.1.isOk = true ∧ again.1.isOk = true
      ∧ again.2.session.store.snapshot = first.2.session.store.snapshot := by
  intro legacy s d first again
  have hok : first.1.isOk = true := by decide +kernel
  have hs : s.Reachable := .seedRelyingParty legacy (.seedRelyingParty legacy (.fresh 50))
  have hc : s.Closed := ((Store.Closed.fresh 50).insertRelyingParty legacy).insertRelyingParty legacy
  exact ⟨hok, reconcile_idempotent hs hc rfl rfl rfl (by decide) hok []⟩

end AccessControl
