import AccessControl.Configuration.Basic
import AccessControl.Diagnostic.Filter

/-!
# Printing diagnostics

A subscriber prints the diagnostics that its filter admits.  Before it is installed nothing is
printed; it is installed once, and its filter may be replaced at any time after that.
-/

namespace AccessControl

structure Subscriber where
  /-- there is none before the installation -/
  filter : Option Diagnostic.Filter := none
  printed : List Diagnostic := []
  deriving DecidableEq

namespace Subscriber

def admits (s : Subscriber) (level : Diagnostic.Level) (target : String) : Bool :=
  s.filter.any fun f => f.admits level target []

/-- prints what the filter admits -/
def receive (s : Subscriber) (notes : List Diagnostic) : Subscriber :=
  match s.filter with
  | none => s
  | some f => { s with printed := s.printed ++ notes.filter f.admitsDiagnostic }

/-- the first filter: that of the environment if there is a good one, else that of the configured
level -/
def firstFilter (environment : Option String) (level : String) : Diagnostic.Filter :=
  let given := environment.bind fun text => (Diagnostic.Filter.ofText? text).toOption
  given.getD (Diagnostic.Filter.ofTextLenient level)

/-- answers `false` if it was installed before; then nothing changes -/
def install (environment : Option String) (level : String) (s : Subscriber) : Bool × Subscriber :=
  match s.filter with
  | some _ => (false, s)
  | none => (true, { s with filter := some (firstFilter environment level) })

/-- replaces the filter, and says so under the new one.  `false` if there is none to replace. -/
def setLevel (text : String) (s : Subscriber) : Except ConfigurationError (Bool × Subscriber) :=
  match Diagnostic.Filter.ofText? text, s.filter with
  | .error cause, _ => .error (.badFilter text cause)
  | .ok _, none => .ok (false, s)
  | .ok f, some _ =>
    .ok (true, { s with filter := some f }.receive [{
      level := .debug, target := Diagnostic.subscriber, message := "Log level changed",
      fields := [("level", .text text)] }])

end Subscriber
end AccessControl
