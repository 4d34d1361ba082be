import AccessControl.Store.Error

/-!
# Errors of a run

The first error ends a run.  Nothing is tried again and nothing is undone.
-/

namespace AccessControl

inductive ReconcileError where
  /-- a name that should stand for one resource stands for `found` of them -/
  | preconditionViolation (kind : ResourceKind) (name : String) (found : Nat)
  /-- the store refused a call -/
  | remote (e : StoreError)
  /-- a command lacks something -/
  | configuration (reason : String)
  /-- a text that should be a pattern is none -/
  | invalidPattern (pattern : String)
  deriving DecidableEq

namespace ReconcileError

/-- a required field that is unset or empty -/
def missingField (resource field : String) : ReconcileError :=
  .configuration (resource ++ " is missing required field '" ++ field ++ "'")

def message : ReconcileError → String
  | .preconditionViolation kind name found =>
    s!"Precondition violated: found {found} {kind} resources named '{name}'"
  | .remote e => e.message
  | .configuration reason => "Configuration error: " ++ reason
  | .invalidPattern pattern =>
    "Invalid rule group pattern '" ++ pattern ++ "': not a regular expression"

def kind : ReconcileError → String
  | .preconditionViolation _ _ _ => "PreconditionViolation"
  | .remote _ => "Remote"
  | .configuration _ => "Configuration"
  | .invalidPattern _ => "InvalidPattern"

def category : ReconcileError → String
  | .preconditionViolation _ _ _ => "precondition_violation"
  | .remote _ => "remote_operation_failure"
  | .configuration _ => "configuration_error"
  | .invalidPattern _ => "configuration_error"

def isPreconditionViolation : ReconcileError → Bool
  | .preconditionViolation _ _ _ => true
  | _ => false

def isRemote : ReconcileError → Bool
  | .remote _ => true
  | _ => false

end ReconcileError
end AccessControl
