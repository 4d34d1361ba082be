import AccessControl.Diagnostic.Filter
import AccessControl.Duration.Text
import AccessControl.Json.Record
import AccessControl.Reconcile.Run

/-!
# Configuration

How long tokens live by default, and how much is logged.

Any duration and any text can be configured; `validate` refuses those that make no sense.  `settings`
makes the best of every configuration, valid or not, and on valid ones it keeps the lifetime as it
is.
-/

namespace AccessControl

structure Configuration where
  /-- for relying parties that leave their token lifetime at zero -/
  tokenLifetime : Duration := .ofSeconds 600
  level : String := "info"
  deriving DecidableEq

inductive ConfigurationError where
  /-- a source cannot be read, or holds something else than a configuration -/
  | unreadable
  | lifetimeTooShort
  | lifetimeTooLong
  | unknownLevel
  /-- a filter of diagnostics has a bad directive -/
  | badFilter (text : String) (cause : Diagnostic.DirectiveError)
  deriving DecidableEq

namespace Configuration

/-- what holds when nothing is configured -/
def standard : Configuration := {}

/-! ## validity -/

/-- the longest lifetime in seconds -/
def longest : Nat := UInt32.size - 1

def levels : List String := ["trace", "debug", "info", "warn", "error", "off"]

/-- the lifetime is looked at before the level, and letters of the level may have any case -/
def validate (c : Configuration) : Except ConfigurationError Unit :=
  if c.tokenLifetime.seconds.toNat = 0 then .error .lifetimeTooShort
  else if longest < c.tokenLifetime.seconds.toNat then .error .lifetimeTooLong
  else if levels.contains (c.level.map Char.toLower) then .ok ()
  else .error .unknownLevel

/-- the lifetime in whole seconds, from one second up to the longest -/
def settings (c : Configuration) : Settings :=
  { defaultTokenLifetime := UInt32.ofNat (max 1 (min longest c.tokenLifetime.seconds.toNat)) }

/-! ## JSON -/

/-- the names of the sections and of what they hold -/
def lifetimeSection : String := "reconcile"
def lifetimeName : String := "default_token_lifetime"
def levelSection : String := "logging"
def levelName : String := "level"

def encode (c : Configuration) : Json :=
  .object [
    (lifetimeSection, .object [(lifetimeName, .string c.tokenLifetime.text)]),
    (levelSection, .object [(levelName, .string c.level)])]

def decodeLifetime? (j : Json) : Option Duration := do
  (← Record.ofJson? [lifetimeName] j).defaulted lifetimeName standard.tokenLifetime
    fun j => j.string?.bind Duration.ofText?

def decodeLevel? (j : Json) : Option String := do
  (← Record.ofJson? [levelName] j).defaulted levelName standard.level Json.string?

def decode? (j : Json) : Option Configuration := do
  let r ← Record.ofJson? [lifetimeSection, levelSection] j
  return {
    tokenLifetime := ← r.defaulted lifetimeSection standard.tokenLifetime decodeLifetime?
    level := ← r.defaulted levelSection standard.level decodeLevel? }

end Configuration

namespace ConfigurationError

/-- what is said about a bad source is left open -/
def message? (e : ConfigurationError) : Option String :=
  let quoted (s : String) : String := "\"" ++ s ++ "\""
  let reason : Option String :=
    match e with
    | .unreadable => none
    | .lifetimeTooShort => some "reconcile.default_token_lifetime must be at least one second"
    | .lifetimeTooLong =>
      some ("reconcile.default_token_lifetime must not exceed "
        ++ toString Configuration.longest ++ " seconds")
    | .unknownLevel =>
      some ("logging.level must be one of ["
        ++ ", ".intercalate (Configuration.levels.map quoted) ++ "]")
    | .badFilter text cause => some ("invalid log level '" ++ text ++ "': " ++ cause.message)
  reason.map ("Invalid configuration: " ++ ·)

end ConfigurationError
end AccessControl
