import AccessControl.Json.Record
import AccessControl.Resource.Basic
import AccessControl.Timestamp.Rfc3339

/-!
# Resources in JSON

An encoder and a decoder for every resource and draft.  What is shown of a rule leaves its unset
fields out, and what is shown of a relying party leaves out an unset reply address; drafts write
`null`.  Encoding a key or a draft of a relying party fails if it holds a date that cannot be
written.
-/

namespace AccessControl

/-- a date that may be unset -/
def Timestamp.encodeOption? : Option Timestamp → Option Json
  | none => some .null
  | some t => t.encode?

def Timestamp.decodeOption? (j : Json) : Option (Option Timestamp) := j.option? decode?

/-- the member, unless its value is unset -/
def Json.memberUnlessNone (name : String) (value : Option String) : List (String × Json) :=
  match value with
  | none => []
  | some s => [(name, .string s)]

def ContinuationToken.encode (t : ContinuationToken) : Json := .string t.text

def ContinuationToken.decode? (j : Json) : Option ContinuationToken := j.string?.map .mk

/-! ## rules and rule groups -/

namespace Rule

def encode (r : Rule) : Json :=
  .object <|
    [("id", r.id.encode), ("rule_group_id", r.ruleGroup.encode)]
      ++ Json.memberUnlessNone "description" r.description
      ++ Json.memberUnlessNone "identity_provider" r.identityProvider
      ++ [("input_claim_type", .string r.inputClaimType)]
      ++ Json.memberUnlessNone "input_claim_value" r.inputClaimValue
      ++ Json.memberUnlessNone "output_claim_type" r.outputClaimType
      ++ Json.memberUnlessNone "output_claim_value" r.outputClaimValue
      ++ [("passthrough", .bool r.passthrough)]

/-- the fields of a body in a record -/
def Body.ofRecord? (r : Record) : Option Body := do
  return {
    description := ← r.optional "description" Json.string?
    identityProvider := ← r.optional "identity_provider" Json.string?
    inputClaimType := ← r.required "input_claim_type" Json.string?
    inputClaimValue := ← r.optional "input_claim_value" Json.string?
    outputClaimType := ← r.optional "output_claim_type" Json.string?
    outputClaimValue := ← r.optional "output_claim_value" Json.string?
    passthrough := ← r.required "passthrough" Json.bool? }

def bodyFields : List String :=
  ["description", "identity_provider", "input_claim_type", "input_claim_value",
    "output_claim_type", "output_claim_value", "passthrough"]

def decode? (j : Json) : Option Rule := do
  let r ← Record.ofJson? ("id" :: "rule_group_id" :: bodyFields) j
  return {
    toBody := ← Body.ofRecord? r
    ruleGroup := ← r.required "rule_group_id" Id.decode?
    id := ← r.required "id" Id.decode? }

def Draft.encode (r : Draft) : Json :=
  .object [
    ("rule_group_id", r.ruleGroup.encode),
    ("description", Json.ofOption .string r.description),
    ("identity_provider", Json.ofOption .string r.identityProvider),
    ("input_claim_type", .string r.inputClaimType),
    ("input_claim_value", Json.ofOption .string r.inputClaimValue),
    ("output_claim_type", Json.ofOption .string r.outputClaimType),
    ("output_claim_value", Json.ofOption .string r.outputClaimValue),
    ("passthrough", .bool r.passthrough)]

def Draft.decode? (j : Json) : Option Draft := do
  let r ← Record.ofJson? ("rule_group_id" :: bodyFields) j
  return {
    toBody := ← Body.ofRecord? r
    ruleGroup := ← r.required "rule_group_id" Id.decode? }

end Rule

namespace RuleGroup

def encode (g : RuleGroup) : Json := .object [("id", g.id.encode), ("name", .string g.name)]

def decode? (j : Json) : Option RuleGroup := do
  let r ← Record.ofJson? ["id", "name"] j
  return { id := ← r.required "id" Id.decode?, name := ← r.required "name" Json.string? }

def Draft.encode (g : Draft) : Json := .object [("name", .string g.name)]

def Draft.decode? (j : Json) : Option Draft := do
  let r ← Record.ofJson? ["name"] j
  return { name := ← r.required "name" Json.string? }

end RuleGroup

/-! ## links and keys -/

namespace Link

def encode (l : Link) : Json :=
  .object [
    ("id", l.id.encode),
    ("relying_party_id", l.relyingParty.encode),
    ("rule_group_id", l.ruleGroup.encode),
    ("rule_group_name", .string l.ruleGroupName)]

def decode? (j : Json) : Option Link := do
  let r ← Record.ofJson? ["id", "relying_party_id", "rule_group_id", "rule_group_name"] j
  return {
    relyingParty := ← r.required "relying_party_id" Id.decode?
    ruleGroup := ← r.required "rule_group_id" Id.decode?
    id := ← r.required "id" Id.decode?
    ruleGroupName := ← r.required "rule_group_name" Json.string? }

def Draft.encode (l : Draft) : Json :=
  .object [
    ("relying_party_id", l.relyingParty.encode),
    ("rule_group_id", l.ruleGroup.encode)]

def Draft.decode? (j : Json) : Option Draft := do
  let r ← Record.ofJson? ["relying_party_id", "rule_group_id"] j
  return {
    relyingParty := ← r.required "relying_party_id" Id.decode?
    ruleGroup := ← r.required "rule_group_id" Id.decode? }

end Link

namespace Key

def encode? (k : Key) : Option Json := do
  return .object [
    ("id", k.id.encode),
    ("relying_party_id", k.relyingParty.encode),
    ("display_name", .string k.displayName),
    ("key_type", k.type.encode),
    ("usage", k.usage.encode),
    ("start_date", ← Timestamp.encodeOption? k.startDate),
    ("end_date", ← Timestamp.encodeOption? k.endDate)]

def decode? (j : Json) : Option Key := do
  let r ← Record.ofJson?
    ["id", "relying_party_id", "display_name", "key_type", "usage", "start_date", "end_date"] j
  return {
    id := ← r.required "id" Id.decode?
    relyingParty := ← r.required "relying_party_id" Id.decode?
    displayName := ← r.required "display_name" Json.string?
    type := ← r.required "key_type" KeyType.decode?
    usage := ← r.required "usage" KeyUsage.decode?
    startDate := ← r.defaulted "start_date" none Timestamp.decodeOption?
    endDate := ← r.defaulted "end_date" none Timestamp.decodeOption? }

end Key

/-! ## relying parties -/

namespace RelyingParty

def encode? (p : RelyingParty) : Option Json := do
  return .object <|
    [("id", p.id.encode), ("name", .string p.name), ("realm_address", .string p.realmAddress)]
      ++ Json.memberUnlessNone "reply_address" p.replyAddress
      ++ [("token_type", p.tokenType.encode),
        ("token_lifetime", Json.ofNat p.tokenLifetime.toNat),
        ("identity_providers", Json.ofList .string p.identityProviders),
        ("rule_groups", Json.ofList Link.encode p.links),
        ("keys", .array (← p.keys.mapM Key.encode?))]

def decode? (j : Json) : Option RelyingParty := do
  let r ← Record.ofJson?
    ["id", "name", "realm_address", "reply_address", "token_type", "token_lifetime",
      "identity_providers", "rule_groups", "keys"] j
  return {
    id := ← r.required "id" Id.decode?
    name := ← r.required "name" Json.string?
    realmAddress := ← r.required "realm_address" Json.string?
    replyAddress := ← r.optional "reply_address" Json.string?
    tokenType := ← r.required "token_type" TokenType.decode?
    tokenLifetime := ← r.required "token_lifetime" Json.word32?
    identityProviders := ← r.defaulted "identity_providers" [] (Json.list? Json.string?)
    links := ← r.defaulted "rule_groups" [] (Json.list? Link.decode?)
    keys := ← r.defaulted "keys" [] (Json.list? Key.decode?) }

def Draft.encode? (p : Draft) : Option Json := do
  return .object [
    ("name", .string p.name),
    ("realm_address", .string p.realmAddress),
    ("reply_address", Json.ofOption .string p.replyAddress),
    ("symmetric_key", Json.ofOption Json.ofBytes p.symmetricKey),
    ("token_type", p.tokenType.encode),
    ("token_lifetime", Json.ofNat p.tokenLifetime.toNat),
    ("signing_certificate", Json.ofOption Json.ofBytes p.signingCertificate),
    ("signing_certificate_password", Json.ofOption .string p.signingCertificatePassword),
    ("signing_certificate_start", ← Timestamp.encodeOption? p.signingCertificateStart),
    ("signing_certificate_end", ← Timestamp.encodeOption? p.signingCertificateEnd),
    ("encryption_certificate", Json.ofOption Json.ofBytes p.encryptionCertificate),
    ("identity_providers", Json.ofList .string p.identityProviders)]

def Draft.decode? (j : Json) : Option Draft := do
  let r ← Record.ofJson?
    ["name", "realm_address", "reply_address", "symmetric_key", "token_type", "token_lifetime",
      "signing_certificate", "signing_certificate_password", "signing_certificate_start",
      "signing_certificate_end", "encryption_certificate", "identity_providers"] j
  return {
    name := ← r.required "name" Json.string?
    realmAddress := ← r.required "realm_address" Json.string?
    replyAddress := ← r.optional "reply_address" Json.string?
    symmetricKey := ← r.optional "symmetric_key" Json.bytes?
    tokenType := ← r.required "token_type" TokenType.decode?
    tokenLifetime := ← r.required "token_lifetime" Json.word32?
    signingCertificate := ← r.optional "signing_certificate" Json.bytes?
    signingCertificatePassword := ← r.optional "signing_certificate_password" Json.string?
    signingCertificateStart :=
      ← r.defaulted "signing_certificate_start" none Timestamp.decodeOption?
    signingCertificateEnd := ← r.defaulted "signing_certificate_end" none Timestamp.decodeOption?
    encryptionCertificate := ← r.optional "encryption_certificate" Json.bytes?
    identityProviders := ← r.required "identity_providers" (Json.list? Json.string?) }

end RelyingParty
end AccessControl
