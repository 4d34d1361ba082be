/-!
# Diagnostics

What the program tells about its own work, apart from the events that it reports.  A diagnostic has
a level, a target that names the part of the program it comes from, a message and named fields.
Emitting is adding to a list; which diagnostics are printed is decided by a filter.
-/

namespace AccessControl

namespace Diagnostic

/-- from the most verbose level to the gravest -/
inductive Level where
  | trace
  | debug
  | info
  | warn
  | error
  deriving DecidableEq, Repr

def Level.name : Level → String
  | .trace => "TRACE"
  | .debug => "DEBUG"
  | .info => "INFO"
  | .warn => "WARN"
  | .error => "ERROR"

/-- how much is told at this level and the graver ones: 1 for errors only -/
def Level.verbosity : Level → Nat
  | .trace => 5
  | .debug => 4
  | .info => 3
  | .warn => 2
  | .error => 1

inductive Value where
  | text (s : String)
  | number (n : Nat)
  deriving DecidableEq

/-! ## targets -/

/-- the executor of commands -/
def executor : String := "octoacs_core::executor"

/-- its part for relying parties -/
def executorRelyingParty : String := "octoacs_core::executor::relying_party"

/-- its part for rule groups -/
def executorRuleGroup : String := "octoacs_core::executor::rule_group"

/-- the store -/
def store : String := "octoacs_store_memory::storage"

/-- reported events -/
def audit : String := "octoacs::audit"

def configuration : String := "octoacs_core::config"

def subscriber : String := "octoacs_core::observability"

end Diagnostic

structure Diagnostic where
  level : Diagnostic.Level
  target : String
  message : String
  fields : List (String × Diagnostic.Value) := []
  deriving DecidableEq

end AccessControl
