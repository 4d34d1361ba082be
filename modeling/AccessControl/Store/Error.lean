import AccessControl.Identifier
import AccessControl.Resource.Kind

/-!
# Errors of a management store

`StoreError` is what any store may answer.  `BatchFault` names the reasons for which a batch of
queued changes is rejected.
-/

namespace AccessControl

inductive StoreError where
  | notFound (kind : ResourceKind) (id : String)
  | alreadyExists (kind : ResourceKind) (name : String)
  | invalidResource (reason : String)
  | batch (reason : String)
  | connection (reason : String)
  | internal (reason : String)
  deriving DecidableEq

namespace StoreError

def message : StoreError → String
  | .notFound kind id => "Resource not found: " ++ kind.name ++ "/" ++ id
  | .alreadyExists kind name => "Resource already exists: " ++ kind.name ++ " '" ++ name ++ "'"
  | .invalidResource reason => "Invalid resource: " ++ reason
  | .batch reason => "Batch error: " ++ reason
  | .connection reason => "Connection error: " ++ reason
  | .internal reason => "Internal error: " ++ reason

def kind : StoreError → String
  | .notFound _ _ => "NotFound"
  | .alreadyExists _ _ => "AlreadyExists"
  | .invalidResource _ => "InvalidResource"
  | .batch _ => "Batch"
  | .connection _ => "Connection"
  | .internal _ => "Internal"

def category : StoreError → String
  | .notFound _ _ => "not_found"
  | .alreadyExists _ _ => "conflict"
  | .invalidResource _ => "validation"
  | .batch _ => "batch"
  | .connection _ => "infrastructure"
  | .internal _ => "internal"

def isNotFound : StoreError → Bool
  | .notFound _ _ => true
  | _ => false

def isAlreadyExists : StoreError → Bool
  | .alreadyExists _ _ => true
  | _ => false

end StoreError

/-- why a batch is rejected -/
inductive BatchFault where
  /-- what is to be deleted does not exist, or was deleted earlier in the batch -/
  | missingTarget (kind : ResourceKind) (id : Id)
  /-- an end of a link does not exist, or was deleted earlier in the batch -/
  | missingEnd (relyingParty ruleGroup : Id)
  /-- the link exists, or stands in the batch twice -/
  | alreadyLinked (relyingParty ruleGroup : Id)
  deriving DecidableEq

def BatchFault.reason : BatchFault → String
  | .missingTarget kind id => s!"cannot delete {kind}/{id}: resource does not exist"
  | .missingEnd relyingParty ruleGroup =>
    s!"cannot link {relyingParty} to {ruleGroup}: endpoint does not exist"
  | .alreadyLinked relyingParty ruleGroup =>
    s!"relying party {relyingParty} is already linked to rule group {ruleGroup}"

def BatchFault.error (f : BatchFault) : StoreError := .batch f.reason

end AccessControl
