import AccessControl.Diagnostic.Basic
import AccessControl.Json.Record
import AccessControl.Quoted

/-!
# Events

A run reports every step that changes something, in order.

* `message`      the event as a sentence;
* `source`       the event as a term, for diagnostics;
* `encode`, `decode?`   the event in JSON;
* `diagnostic`   the event as a diagnostic for audits.
-/

namespace AccessControl

inductive Event where
  /-- the deletion of a rule group was queued -/
  | removingRuleGroup (name : String)
  /-- the deletion of a key was queued -/
  | removingKey (displayName : String)
  | removingRelyingParty (name : String)
  | addingRelyingParty (name : String)
  | addingRuleGroup (name : String)
  | addingRule (ruleGroup description : String)
  /-- a link was queued -/
  | linking (relyingParty ruleGroup : String)
  /-- queued changes were committed, or the store applied a change at once -/
  | changesSaved
  deriving DecidableEq

namespace Event

def message : Event → String
  | .removingRuleGroup name => "Removing Rule Group '" ++ name ++ "'"
  | .removingKey displayName => "Removing Key '" ++ displayName ++ "'"
  | .removingRelyingParty name => "Removing Relying Party '" ++ name ++ "'"
  | .addingRelyingParty name => "Adding Relying Party '" ++ name ++ "'"
  | .addingRuleGroup name => "Adding Rule Group '" ++ name ++ "'"
  | .addingRule ruleGroup description =>
    "Adding Rule '" ++ description ++ "' to Rule Group '" ++ ruleGroup ++ "'"
  | .linking relyingParty ruleGroup =>
    "Linking Relying Party '" ++ relyingParty ++ "' to Rule Group '" ++ ruleGroup ++ "'"
  | .changesSaved => "Saving changes"

def isRemoval : Event → Bool
  | .removingRuleGroup _ => true
  | .removingKey _ => true
  | .removingRelyingParty _ => true
  | _ => false

/-! ## as a term -/

/-- a constructor with named fields in braces -/
def term (name : String) (fields : List (String × String)) : String :=
  let field (f : String × String) : String := f.1 ++ ": " ++ Quoted.text f.2
  name ++ " \x7b " ++ ", ".intercalate (fields.map field) ++ " \x7d"

def source : Event → String
  | .removingRuleGroup name => term "RemovingRuleGroup" [("name", name)]
  | .removingKey displayName => term "RemovingKey" [("display_name", displayName)]
  | .removingRelyingParty name => term "RemovingRelyingParty" [("name", name)]
  | .addingRelyingParty name => term "AddingRelyingParty" [("name", name)]
  | .addingRuleGroup name => term "AddingRuleGroup" [("name", name)]
  | .addingRule ruleGroup description =>
    term "AddingRule" [("rule_group", ruleGroup), ("description", description)]
  | .linking relyingParty ruleGroup =>
    term "Linking" [("relying_party", relyingParty), ("rule_group", ruleGroup)]
  | .changesSaved => "ChangesSaved"

def diagnostic (e : Event) : Diagnostic :=
  { level := .info, target := Diagnostic.audit, message := e.message,
    fields := [("event", .text e.source)] }

/-! ## JSON -/

def encode (e : Event) : Json :=
  let record (name : String) (fields : List (String × String)) : Json :=
    .object (("event", .string name) :: fields.map fun f => (f.1, .string f.2))
  match e with
  | .removingRuleGroup name => record "removing_rule_group" [("name", name)]
  | .removingKey displayName => record "removing_key" [("display_name", displayName)]
  | .removingRelyingParty name => record "removing_relying_party" [("name", name)]
  | .addingRelyingParty name => record "adding_relying_party" [("name", name)]
  | .addingRuleGroup name => record "adding_rule_group" [("name", name)]
  | .addingRule ruleGroup description =>
    record "adding_rule" [("rule_group", ruleGroup), ("description", description)]
  | .linking relyingParty ruleGroup =>
    record "linking" [("relying_party", relyingParty), ("rule_group", ruleGroup)]
  | .changesSaved => record "changes_saved" []

def decode? (j : Json) : Option Event := do
  let field (name : String) : Option String := (j.member? name).bind Json.string?
  match ← field "event" with
  | "removing_rule_group" => return .removingRuleGroup (← field "name")
  | "removing_key" => return .removingKey (← field "display_name")
  | "removing_relying_party" => return .removingRelyingParty (← field "name")
  | "adding_relying_party" => return .addingRelyingParty (← field "name")
  | "adding_rule_group" => return .addingRuleGroup (← field "name")
  | "adding_rule" => return .addingRule (← field "rule_group") (← field "description")
  | "linking" => return .linking (← field "relying_party") (← field "rule_group")
  | "changes_saved" => return .changesSaved
  | _ => none

end Event

/-! ## sinks -/

/-- what becomes of the events of a run -/
inductive Sink where
  /-- the caller gets them -/
  | keeping
  /-- they become diagnostics -/
  | audit
  | silent
  deriving DecidableEq

namespace Sink

def kept : Sink → List Event → List Event
  | .keeping, events => events
  | _, _ => []

def diagnostics : Sink → Event → List Diagnostic
  | .audit, e => [e.diagnostic]
  | _, _ => []

end Sink
end AccessControl
