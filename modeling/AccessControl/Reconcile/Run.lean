import AccessControl.Reconcile.Error
import AccessControl.Reconcile.Event
import AccessControl.Store.Client

/-!
# Runs

A run carries out commands against a backend.  It sends events to a sink and keeps a report of what it
has created, deleted and linked.

`Run σ` is the type of steps: they ask the backend, emit events, note diagnostics, and stop at the
first error.  All that was done before an error stays done, in the store and in the `Progress`.
-/

namespace AccessControl

/-! ## settings and reports -/

structure Settings where
  /-- seconds, for relying parties that leave their token lifetime at zero -/
  defaultTokenLifetime : UInt32 := 600
  deriving DecidableEq

def Settings.tokenLifetime (s : Settings) (requested : UInt32) : UInt32 :=
  if requested = 0 then s.defaultTokenLifetime else requested

/-- what a run has done.  Resources are given as `Kind/name`, rules as `Rule/group/description`. -/
structure Report where
  commands : Nat := 0
  created : List String := []
  deleted : List String := []
  /-- as `relying party -> rule group` -/
  linked : List String := []
  /-- how many times queued changes were committed -/
  batches : Nat := 0
  deriving DecidableEq

def Report.encode (r : Report) : Json :=
  .object [
    ("commands", Json.ofNat r.commands),
    ("created", Json.ofList .string r.created),
    ("deleted", Json.ofList .string r.deleted),
    ("linked", Json.ofList .string r.linked),
    ("batches", Json.ofNat r.batches)]

def resourceLabel (kind : ResourceKind) (name : String) : String := kind.name ++ "/" ++ name

/-! ## steps -/

/-- what a run works with -/
structure Reconciler (σ : Type) where
  backend : Backend σ
  sink : Sink := .keeping
  settings : Settings := {}

/-- how far a run has come -/
structure Progress (σ : Type) where
  session : Session σ
  events : List Event := []
  report : Report := {}

abbrev Run (σ : Type) := ExceptT ReconcileError (StateM (Progress σ))

namespace Reconciler
variable {σ : Type} (r : Reconciler σ)

/-- a step of the client; its errors are remote -/
def remote {α : Type} (client : Client σ α) : Run σ α := fun p =>
  match client p.session with
  | (.ok a, session) => (.ok a, { p with session := session })
  | (.error e, session) => (.error (.remote e), { p with session := session })

def ask (c : Call) : Run σ c.Answer := remote (r.backend.ask c)

def note (d : Diagnostic) : Run σ Unit :=
  modify fun p => { p with session := { p.session with notes := p.session.notes ++ [d] } }

def emit (e : Event) : Run σ Unit :=
  modify fun p => { p with
    events := p.events ++ [e]
    session := { p.session with notes := p.session.notes ++ r.sink.diagnostics e } }

def recordReport (change : Report → Report) : Run σ Unit :=
  modify fun p => { p with report := change p.report }

def recordCreated (label : String) : Run σ Unit :=
  recordReport fun report => { report with created := report.created ++ [label] }

def recordDeleted (label : String) : Run σ Unit :=
  recordReport fun report => { report with deleted := report.deleted ++ [label] }

def recordLinked (label : String) : Run σ Unit :=
  recordReport fun report => { report with linked := report.linked ++ [label] }

/-- commits the queued changes as one batch -/
def saveChanges : Run σ Unit := do
  let committed : Nat ← r.ask .saveChanges
  recordReport fun report => { report with batches := report.batches + 1 }
  note {
    level := .trace
    target := Diagnostic.executor
    message := "Queued changes committed"
    fields := [("committed", .number committed)] }
  r.emit .changesSaved

end Reconciler

/-! ## uniqueness and required fields -/

/-- the only one of the resources found under a name -/
def exactlyOne {α : Type} (kind : ResourceKind) (name : String) (found : List α) :
    Except ReconcileError α :=
  match found with
  | [a] => .ok a
  | _ => .error (.preconditionViolation kind name found.length)

/-- as `exactlyOne`, but there may be none -/
def atMostOne {α : Type} (kind : ResourceKind) (name : String) (found : List α) :
    Except ReconcileError (Option α) :=
  match found with
  | [] => .ok none
  | _ => (exactlyOne kind name found).map some

/-- a field that has to be set and not empty -/
def requiredField (value : Option String) (resource field : String) :
    Except ReconcileError String :=
  match value with
  | some s => if s.isEmpty then .error (.missingField resource field) else .ok s
  | none => .error (.missingField resource field)

end AccessControl
