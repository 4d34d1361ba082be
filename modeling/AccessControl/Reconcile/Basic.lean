import AccessControl.Reconcile.RelyingParty
import AccessControl.Reconcile.RuleGroup

/-!
# Reconciling

`Reconciler.reconcile` carries out a list of commands in order and stops at the first error.  Its
outcome has the report of a run that came to its end, and in any case the events, the diagnostics and
the state of the backend.
-/

namespace AccessControl.Reconciler
variable {σ : Type} (r : Reconciler σ)

def execute : Command → Run σ Unit
  | .addRelyingParty new => r.addRelyingParty new
  | .removeRelyingParty name withRuleGroups => r.removeRelyingParty name withRuleGroups
  | .addRuleGroup name => r.addRuleGroup name
  | .addRule ruleGroup rule => r.addRule ruleGroup rule
  | .removeRuleGroup name => r.removeRuleGroup name

/-! ## diagnostics of a run -/

def starting (backend : String) (commands : Nat) : Diagnostic :=
  { level := .debug, target := Diagnostic.executor, message := "Starting reconciliation",
    fields := [("backend", .text backend), ("commands", .number commands)] }

def executing (c : Command) : Diagnostic :=
  { level := .debug, target := Diagnostic.executor, message := "Executing command",
    fields := [("command", .text c.text)] }

def failed (c : Command) (e : ReconcileError) : Diagnostic :=
  { level := .warn, target := Diagnostic.executor, message := "Reconciliation failed",
    fields := [("command", .text c.text), ("category", .text e.category),
      ("error", .text e.message)] }

def completed (backend : String) (report : Report) : Diagnostic :=
  { level := .info, target := Diagnostic.executor, message := "Reconciliation completed",
    fields := [("backend", .text backend), ("commands", .number report.commands),
      ("created", .number report.created.length), ("deleted", .number report.deleted.length),
      ("linked", .number report.linked.length), ("batches", .number report.batches)] }

/-! ## runs -/

def executeNoted (c : Command) : Run σ Unit := do
  note (executing c)
  tryCatch (r.execute c) fun e => do
    note (failed c e)
    throw e

def executeAll : List Command → Run σ Unit
  | [] => return
  | c :: cs => do
    r.executeNoted c
    recordReport fun report => { report with commands := report.commands + 1 }
    executeAll cs

def run (commands : List Command) : Run σ Report := do
  note (starting r.backend.name commands.length)
  r.executeAll commands
  let report := (← get).report
  note (completed r.backend.name report)
  return report

/-- the report or the error, and how far the run has come -/
def reconcile (commands : List Command) (s : Session σ) :
    Except ReconcileError Report × Progress σ :=
  r.run commands { session := s }

end AccessControl.Reconciler
