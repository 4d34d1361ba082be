import AccessControl.Command.Basic
import AccessControl.Resource.Encoding

/-!
# Commands in JSON

A command is an object whose member `command` holds its kind, or a list that starts with its kind.
The kind may stand anywhere in the object, so the whole value is read before it is told apart: all
of it has to be readable and nested at most 127 deep, also what is skipped then.

Every field is written, `null` when it is unset.
-/

namespace AccessControl

namespace SigningCertificate

def encode? (c : SigningCertificate) : Option Json := do
  return .object [
    ("bytes", Json.ofOption Json.ofBytes c.bytes),
    ("password", Json.ofOption .string c.password),
    ("start_date", ← Timestamp.encodeOption? c.startDate),
    ("end_date", ← Timestamp.encodeOption? c.endDate)]

def decode? (j : Json) : Option SigningCertificate := do
  let r ← Record.ofJson? ["bytes", "password", "start_date", "end_date"] j
  return {
    bytes := ← r.optional "bytes" Json.bytes?
    password := ← r.optional "password" Json.string?
    startDate := ← r.defaulted "start_date" none Timestamp.decodeOption?
    endDate := ← r.defaulted "end_date" none Timestamp.decodeOption? }

end SigningCertificate

namespace AddRelyingParty

def members? (c : AddRelyingParty) : Option (List (String × Json)) := do
  let certificate ← match c.signingCertificate with
    | none => some Json.null
    | some s => s.encode?
  return [
    ("name", Json.ofOption .string c.name),
    ("realm_address", Json.ofOption .string c.realmAddress),
    ("reply_address", Json.ofOption .string c.replyAddress),
    ("symmetric_key", Json.ofOption Json.ofBytes c.symmetricKey),
    ("token_type", c.tokenType.encode),
    ("token_lifetime", Json.ofNat c.tokenLifetime.toNat),
    ("encryption_certificate", Json.ofOption Json.ofBytes c.encryptionCertificate),
    ("signing_certificate", certificate),
    ("identity_providers", Json.ofList .string c.identityProviders),
    ("rule_group_patterns", Json.ofList .string c.patterns),
    ("remove_related_rule_groups", .bool c.removeRelatedRuleGroups)]

def decode? (j : Json) : Option AddRelyingParty := do
  let r ← Record.ofJson?
    ["name", "realm_address", "reply_address", "symmetric_key", "token_type", "token_lifetime",
      "encryption_certificate", "signing_certificate", "identity_providers",
      "rule_group_patterns", "remove_related_rule_groups"] j
  return {
    name := ← r.optional "name" Json.string?
    realmAddress := ← r.optional "realm_address" Json.string?
    replyAddress := ← r.optional "reply_address" Json.string?
    symmetricKey := ← r.optional "symmetric_key" Json.bytes?
    tokenType := ← r.required "token_type" TokenType.decodeWhole?
    tokenLifetime := ← r.required "token_lifetime" Json.word32?
    encryptionCertificate := ← r.optional "encryption_certificate" Json.bytes?
    signingCertificate := ← r.optional "signing_certificate" SigningCertificate.decode?
    identityProviders := ← r.required "identity_providers" (Json.list? Json.string?)
    patterns := ← r.required "rule_group_patterns" (Json.list? Json.string?)
    removeRelatedRuleGroups := ← r.required "remove_related_rule_groups" Json.bool? }

end AddRelyingParty

namespace Rule.Declaration

def members (ruleGroup : Option String) (d : Declaration) : List (String × Json) :=
  [("rule_group", Json.ofOption .string ruleGroup),
    ("description", Json.ofOption .string d.description),
    ("identity_provider", Json.ofOption .string d.identityProvider),
    ("input_claim_type", Json.ofOption .string d.inputClaimType),
    ("input_claim_value", Json.ofOption .string d.inputClaimValue),
    ("output_claim_type", Json.ofOption .string d.outputClaimType),
    ("output_claim_value", Json.ofOption .string d.outputClaimValue),
    ("passthrough", .bool d.passthrough)]

/-- the name of the rule group, and the rule -/
def decode? (j : Json) : Option (Option String × Declaration) := do
  let r ← Record.ofJson? ("rule_group" :: bodyFields) j
  let ruleGroup ← r.optional "rule_group" Json.string?
  return (ruleGroup, {
    description := ← r.optional "description" Json.string?
    identityProvider := ← r.optional "identity_provider" Json.string?
    inputClaimType := ← r.optional "input_claim_type" Json.string?
    inputClaimValue := ← r.optional "input_claim_value" Json.string?
    outputClaimType := ← r.optional "output_claim_type" Json.string?
    outputClaimValue := ← r.optional "output_claim_value" Json.string?
    passthrough := ← r.required "passthrough" Json.bool? })

end Rule.Declaration

namespace Command

def members? : Command → Option (List (String × Json))
  | .addRelyingParty new => new.members?
  | .removeRelyingParty name removeRelatedRuleGroups =>
    some [("name", .string name), ("remove_related_rule_groups", .bool removeRelatedRuleGroups)]
  | .addRuleGroup name => some [("name", Json.ofOption .string name)]
  | .addRule ruleGroup rule => some (rule.members ruleGroup)
  | .removeRuleGroup name => some [("name", .string name)]

def encode? (c : Command) : Option Json := do
  return .object (("command", .string c.kind) :: (← c.members?))

/-- the kind of a command, and what is left of its value -/
def split? : Json → Option (String × Json)
  | .object members =>
    match members.filter (·.1 = "command") with
    | [(_, .string kind)] => some (kind, .object (members.filter (·.1 ≠ "command")))
    | _ => none
  | .array (.string kind :: items) => some (kind, .array items)
  | _ => none

def decodeKind? (kind : String) (j : Json) : Option Command :=
  match kind with
  | "add_relying_party" => (AddRelyingParty.decode? j).map .addRelyingParty
  | "remove_relying_party" => do
    let r ← Record.ofJson? ["name", "remove_related_rule_groups"] j
    return .removeRelyingParty (← r.required "name" Json.string?)
      (← r.required "remove_related_rule_groups" Json.bool?)
  | "add_rule_group" => do
    let r ← Record.ofJson? ["name"] j
    return .addRuleGroup (← r.optional "name" Json.string?)
  | "add_rule" => do
    let (ruleGroup, rule) ← Rule.Declaration.decode? j
    return .addRule ruleGroup rule
  | "remove_rule_group" => do
    let r ← Record.ofJson? ["name"] j
    return .removeRuleGroup (← r.required "name" Json.string?)
  | _ => none

def decode? (j : Json) : Option Command := do
  if !j.isReadable 127 then none
  let (kind, rest) ← split? j
  decodeKind? kind rest

end Command
end AccessControl
