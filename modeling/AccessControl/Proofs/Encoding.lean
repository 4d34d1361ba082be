import AccessControl.Command.Encoding
import AccessControl.Proofs.Json.Record

/-!
# The written form of a value is read back

Every resource, draft and command is read back from the JSON text that is written for it, and every
one of them can be written unless it holds a date that RFC 3339 has no text for.

* `Json.Carries` : a value that can be written as text and is read back;
* `Form` : the types with a written form;
* `read_written` : writing and reading, over all forms.
-/

namespace AccessControl

/-- the JSON value has a text and is read as `a` -/
structure Json.Carries {α : Type} (depth : Nat) (j : Json) (read : Json → Option α) (a : α) :
    Prop where
  plain : j.Plain depth
  reads : read j = some a

/-- an identity has 128 bits -/
def Id.Fits (id : Id) : Prop := id.number < 2 ^ 128

section
variable {depth : Nat}

/-! ## rules and rule groups -/

namespace Rule

theorem encode_carries {r : Rule} (hid : r.id.Fits) (hgroup : r.ruleGroup.Fits) :
    Json.Carries (depth + 1) r.encode decode? r := by
  constructor
  · apply Json.plain_object
    simp [List.forall_append]
  · unfold decode? encode
    refine Record.ofJson?_bind (by decide) ?_ ?_
    · simp only [List.append_assoc]
      refine .cons_cons _ (.cons_cons _ (Record.sublist_unlessNone (Record.sublist_unlessNone
        (.cons_cons _ (Record.sublist_unlessNone (Record.sublist_unlessNone
          (Record.sublist_unlessNone ?_)))))))
      exact .refl _
    · refine Option.bind_eq_some_iff.mpr ⟨r.toBody, ?_, ?_⟩
      · refine Record.unlessNone_bind (by simp [bodyFields]; rfl) ?_
        refine Record.unlessNone_bind (by simp [bodyFields]; rfl) ?_
        refine Record.required_bind (by simp [bodyFields]; rfl) rfl ?_
        refine Record.unlessNone_bind (by simp [bodyFields]; rfl) ?_
        refine Record.unlessNone_bind (by simp [bodyFields]; rfl) ?_
        refine Record.unlessNone_bind (by simp [bodyFields]; rfl) ?_
        refine Record.required_bind (by simp [bodyFields]; rfl) rfl ?_
        rfl
      · refine Record.required_bind rfl (Id.decode?_encode hgroup) ?_
        refine Record.required_bind rfl (Id.decode?_encode hid) ?_
        rfl

theorem Draft.encode_carries {r : Draft} (hgroup : r.ruleGroup.Fits) :
    Json.Carries (depth + 1) r.encode decode? r := by
  constructor
  · apply Json.plain_object
    simp
  · unfold decode? encode
    refine Record.ofJson?_bind (by decide) (.refl _) ?_
    refine Option.bind_eq_some_iff.mpr ⟨r.toBody, ?_, ?_⟩
    · refine Record.optional_bind rfl (Json.option?_string _) ?_
      refine Record.optional_bind rfl (Json.option?_string _) ?_
      refine Record.required_bind rfl rfl ?_
      refine Record.optional_bind rfl (Json.option?_string _) ?_
      refine Record.optional_bind rfl (Json.option?_string _) ?_
      refine Record.optional_bind rfl (Json.option?_string _) ?_
      refine Record.required_bind rfl rfl ?_
      rfl
    · refine Record.required_bind rfl (Id.decode?_encode hgroup) ?_
      rfl

end Rule

namespace RuleGroup

theorem encode_carries {g : RuleGroup} (h : g.id.Fits) : Json.Carries (depth + 1) g.encode decode? g := by
  constructor
  · apply Json.plain_object
    simp
  · unfold decode? encode
    refine Record.ofJson?_bind (by decide) (.refl _) ?_
    refine Record.required_bind rfl (Id.decode?_encode h) ?_
    refine Record.required_bind rfl rfl ?_
    rfl

theorem Draft.encode_carries (g : Draft) : Json.Carries (depth + 1) g.encode decode? g := by
  constructor
  · apply Json.plain_object
    simp
  · unfold decode? encode
    refine Record.ofJson?_bind (by decide) (.refl _) ?_
    refine Record.required_bind rfl rfl ?_
    rfl

end RuleGroup

/-! ## links and keys -/

namespace Link

def Draft.ids (l : Draft) : List Id := [l.relyingParty, l.ruleGroup]

def ids (l : Link) : List Id := [l.id, l.relyingParty, l.ruleGroup]

theorem encode_carries {l : Link} (h : ∀ id ∈ l.ids, id.Fits) : Json.Carries (depth + 1) l.encode decode? l := by
  have hid : l.id.Fits := h _ (by simp [ids])
  have hparty : l.relyingParty.Fits := h _ (by simp [ids])
  have hgroup : l.ruleGroup.Fits := h _ (by simp [ids])
  constructor
  · apply Json.plain_object
    simp
  · unfold decode? encode
    refine Record.ofJson?_bind (by decide) (.refl _) ?_
    refine Record.required_bind rfl (Id.decode?_encode hparty) ?_
    refine Record.required_bind rfl (Id.decode?_encode hgroup) ?_
    refine Record.required_bind rfl (Id.decode?_encode hid) ?_
    refine Record.required_bind rfl rfl ?_
    rfl

theorem Draft.encode_carries {l : Draft} (h : ∀ id ∈ l.ids, id.Fits) :
    Json.Carries (depth + 1) l.encode decode? l := by
  have hparty : l.relyingParty.Fits := h _ (by simp [ids])
  have hgroup : l.ruleGroup.Fits := h _ (by simp [ids])
  constructor
  · apply Json.plain_object
    simp
  · unfold decode? encode
    refine Record.ofJson?_bind (by decide) (.refl _) ?_
    refine Record.required_bind rfl (Id.decode?_encode hparty) ?_
    refine Record.required_bind rfl (Id.decode?_encode hgroup) ?_
    rfl

end Link

namespace Key

def ids (k : Key) : List Id := [k.id, k.relyingParty]

theorem encode?_carries {k : Key} {j : Json} (h : k.encode? = some j)
    (hids : ∀ id ∈ k.ids, id.Fits) : Json.Carries (depth + 1) j decode? k := by
  have hid : k.id.Fits := hids _ (by simp [ids])
  have hparty : k.relyingParty.Fits := hids _ (by simp [ids])
  unfold encode? at h
  simp only [Option.bind_eq_bind, Option.bind_eq_some_iff, Option.pure_def,
    Option.some.injEq] at h
  obtain ⟨start, hstart, finish, hfinish, rfl⟩ := h
  constructor
  · apply Json.plain_object
    simp [Timestamp.plain_encodeOption? hstart, Timestamp.plain_encodeOption? hfinish]
  · unfold decode?
    refine Record.ofJson?_bind (by decide) (.refl _) ?_
    refine Record.required_bind rfl (Id.decode?_encode hid) ?_
    refine Record.required_bind rfl (Id.decode?_encode hparty) ?_
    refine Record.required_bind rfl rfl ?_
    refine Record.required_bind rfl (KeyType.decode?_encode _) ?_
    refine Record.required_bind rfl (KeyUsage.decode?_encode _) ?_
    refine Record.defaulted_bind rfl (Timestamp.decodeOption?_encodeOption? hstart) ?_
    refine Record.defaulted_bind rfl (Timestamp.decodeOption?_encodeOption? hfinish) ?_
    rfl

def dates (k : Key) : List Timestamp := k.startDate.toList ++ k.endDate.toList

/-- a key can be written if its dates can -/
theorem encode?_isSome (k : Key) : k.encode?.isSome = true ↔ ∀ t ∈ k.dates, t.IsWritable :=
  Timestamp.encodeOption?_both k.startDate k.endDate _

end Key

/-! ## relying parties -/

namespace RelyingParty

def ids (p : RelyingParty) : List Id :=
  p.id :: (p.links.flatMap (·.ids) ++ p.keys.flatMap (·.ids))

def dates (p : RelyingParty) : List Timestamp := p.keys.flatMap (·.dates)

theorem encode?_carries {p : RelyingParty} {j : Json} (h : p.encode? = some j)
    (hids : ∀ id ∈ p.ids, id.Fits) : Json.Carries (depth + 3) j decode? p := by
  have hid : p.id.Fits := hids _ List.mem_cons_self
  have hlinks : ∀ l ∈ p.links, ∀ id ∈ l.ids, id.Fits := by
    intro l hl id hmem
    apply hids
    simp only [ids, List.mem_cons, List.mem_append, List.mem_flatMap]
    exact .inr (.inl ⟨l, hl, hmem⟩)
  have hkeys : ∀ k ∈ p.keys, ∀ id ∈ k.ids, id.Fits := by
    intro k hk id hmem
    apply hids
    simp only [ids, List.mem_cons, List.mem_append, List.mem_flatMap]
    exact .inr (.inr ⟨k, hk, hmem⟩)
  unfold encode? at h
  simp only [Option.bind_eq_bind, Option.bind_eq_some_iff, Option.pure_def,
    Option.some.injEq] at h
  obtain ⟨keys, hwritten, rfl⟩ := h
  have hlink : ∀ l ∈ p.links, Link.decode? l.encode = some l :=
    fun l hl => (Link.encode_carries (hlinks l hl) : Json.Carries (0 + 1) _ _ _).reads
  have hkey : ∀ k ∈ p.keys, ∀ i, k.encode? = some i → Key.decode? i = some k :=
    fun k hk i hi => (Key.encode?_carries hi (hkeys k hk) : Json.Carries (0 + 1) _ _ _).reads
  constructor
  · apply Json.plain_object
    simp only [List.forall_append, List.forall_cons, Json.plain_unlessNone, Json.plain_strings]
    simp
    constructor
    · exact Json.plain_ofList fun l hl => (Link.encode_carries (hlinks l hl)).plain
    · apply Json.Plain.array
      intro i hi
      obtain ⟨k, hk, hwritten⟩ := Json.exists_of_written hwritten i hi
      exact (Key.encode?_carries hwritten (hkeys k hk)).plain
  · unfold decode?
    refine Record.ofJson?_bind (by decide) ?_ ?_
    · simp only [List.append_assoc]
      refine .cons_cons _ (.cons_cons _ (.cons_cons _ (Record.sublist_unlessNone ?_)))
      exact .refl _
    · refine Record.required_bind rfl (Id.decode?_encode hid) ?_
      refine Record.required_bind rfl rfl ?_
      refine Record.required_bind rfl rfl ?_
      refine Record.unlessNone_bind (by simp; rfl) ?_
      refine Record.required_bind (by simp; rfl) (TokenType.decode?_encode _) ?_
      refine Record.required_bind (by simp; rfl) (Json.word32?_ofNat _) ?_
      refine Record.defaulted_bind (by simp; rfl) (Json.list?_strings _) ?_
      refine Record.defaulted_bind (by simp) (Json.list?_ofList hlink) ?_
      refine Record.defaulted_bind (by simp) (Json.list?_written hkey hwritten) ?_
      rfl

/-- a relying party can be written if the dates of its keys can -/
theorem encode?_isSome (p : RelyingParty) :
    p.encode?.isSome = true ↔ ∀ t ∈ p.dates, t.IsWritable := by
  have hkeys : (∀ t ∈ p.dates, t.IsWritable) ↔ ∀ k ∈ p.keys, k.encode?.isSome = true := by
    simp only [dates, List.forall_mem_flatMap, Key.encode?_isSome]
  rw [hkeys, ← Json.written_isSome]
  unfold encode?
  cases p.keys.mapM Key.encode? with
  | none => simp
  | some keys => simp

def Draft.dates (p : Draft) : List Timestamp :=
  p.signingCertificateStart.toList ++ p.signingCertificateEnd.toList

theorem Draft.encode?_carries {p : Draft} {j : Json} (h : p.encode? = some j) :
    Json.Carries (depth + 2) j decode? p := by
  unfold encode? at h
  simp only [Option.bind_eq_bind, Option.bind_eq_some_iff, Option.pure_def,
    Option.some.injEq] at h
  obtain ⟨start, hstart, finish, hfinish, rfl⟩ := h
  constructor
  · apply Json.plain_object
    simp [Timestamp.plain_encodeOption? hstart, Timestamp.plain_encodeOption? hfinish]
  · unfold decode?
    refine Record.ofJson?_bind (by decide) (.refl _) ?_
    refine Record.required_bind rfl rfl ?_
    refine Record.required_bind rfl rfl ?_
    refine Record.optional_bind rfl (Json.option?_string _) ?_
    refine Record.optional_bind rfl (Json.option?_bytes _) ?_
    refine Record.required_bind rfl (TokenType.decode?_encode _) ?_
    refine Record.required_bind rfl (Json.word32?_ofNat _) ?_
    refine Record.optional_bind rfl (Json.option?_bytes _) ?_
    refine Record.optional_bind rfl (Json.option?_string _) ?_
    refine Record.defaulted_bind rfl (Timestamp.decodeOption?_encodeOption? hstart) ?_
    refine Record.defaulted_bind rfl (Timestamp.decodeOption?_encodeOption? hfinish) ?_
    refine Record.optional_bind rfl (Json.option?_bytes _) ?_
    refine Record.required_bind rfl (Json.list?_strings _) ?_
    rfl

theorem Draft.encode?_isSome (p : Draft) :
    p.encode?.isSome = true ↔ ∀ t ∈ p.dates, t.IsWritable :=
  Timestamp.encodeOption?_both p.signingCertificateStart p.signingCertificateEnd _

end RelyingParty

/-! ## commands -/

namespace SigningCertificate

def dates (c : SigningCertificate) : List Timestamp := c.startDate.toList ++ c.endDate.toList

theorem encode?_carries {c : SigningCertificate} {j : Json} (h : c.encode? = some j) :
    Json.Carries (depth + 2) j decode? c := by
  unfold encode? at h
  simp only [Option.bind_eq_bind, Option.bind_eq_some_iff, Option.pure_def,
    Option.some.injEq] at h
  obtain ⟨start, hstart, finish, hfinish, rfl⟩ := h
  constructor
  · apply Json.plain_object
    simp [Timestamp.plain_encodeOption? hstart, Timestamp.plain_encodeOption? hfinish]
  · unfold decode?
    refine Record.ofJson?_bind (by decide) (.refl _) ?_
    refine Record.optional_bind rfl (Json.option?_bytes _) ?_
    refine Record.optional_bind rfl (Json.option?_string _) ?_
    refine Record.defaulted_bind rfl (Timestamp.decodeOption?_encodeOption? hstart) ?_
    refine Record.defaulted_bind rfl (Timestamp.decodeOption?_encodeOption? hfinish) ?_
    rfl

theorem encode?_isSome (c : SigningCertificate) :
    c.encode?.isSome = true ↔ ∀ t ∈ c.dates, t.IsWritable :=
  Timestamp.encodeOption?_both c.startDate c.endDate _

/-- a certificate that may be unset -/
def encodeOption? : Option SigningCertificate → Option Json
  | none => some .null
  | some c => c.encode?

theorem encodeOption?_carries {o : Option SigningCertificate} {j : Json}
    (h : encodeOption? o = some j) : Json.Carries (depth + 2) j (Json.option? decode?) o := by
  cases o with
  | none =>
    cases h
    exact ⟨.null, rfl⟩
  | some c =>
    have hc : Json.Carries (depth + 2) j decode? c := encode?_carries h
    have hnull : j ≠ .null := by
      rintro rfl
      cases hc.reads
    refine ⟨hc.plain, ?_⟩
    rw [Json.option?_of_ne_null hnull, hc.reads]
    rfl

theorem encodeOption?_isSome (o : Option SigningCertificate) :
    (encodeOption? o).isSome = true ↔ ∀ t ∈ o.toList.flatMap dates, t.IsWritable := by
  cases o with
  | none => simp [encodeOption?]
  | some c => simpa [encodeOption?] using encode?_isSome c

end SigningCertificate

theorem AddRelyingParty.members?_eq (c : AddRelyingParty) :
    c.members? = (SigningCertificate.encodeOption? c.signingCertificate).map fun certificate => [
      ("name", Json.ofOption .string c.name),
      ("realm_address", Json.ofOption .string c.realmAddress),
      ("reply_address", Json.ofOption .string c.replyAddress),
      ("symmetric_key", Json.ofOption Json.ofBytes c.symmetricKey),
      ("token_type", c.tokenType.encode),
      ("token_lifetime", Json.ofNat c.tokenLifetime.toNat),
      ("encryption_certificate", Json.ofOption Json.ofBytes c.encryptionCertificate),
      ("signing_certificate", certificate),
      ("identity_providers", Json.ofList .string c.identityProviders),
      ("rule_group_patterns", Json.ofList .string c.patterns),
      ("remove_related_rule_groups", .bool c.removeRelatedRuleGroups)] := by
  unfold members? SigningCertificate.encodeOption?
  cases c.signingCertificate with
  | none => rfl
  | some s =>
    show (s.encode? >>= _) = s.encode?.map _
    cases s.encode? with
    | none => rfl
    | some j => rfl

namespace Command

def dates : Command → List Timestamp
  | .addRelyingParty new => new.signingCertificate.toList.flatMap SigningCertificate.dates
  | _ => []

/-- the kind comes first and stands only once -/
theorem split?_object {kind : String} {members : List (String × Json)}
    (h : ∀ m ∈ members, m.1 ≠ "command") :
    split? (.object (("command", .string kind) :: members)) = some (kind, .object members) := by
  have hnone : members.filter (fun m => m.1 = "command") = [] := by
    rw [List.filter_eq_nil_iff]
    intro m hm
    simpa using h m hm
  have hall : members.filter (fun m => m.1 ≠ "command") = members := by
    rw [List.filter_eq_self]
    intro m hm
    simpa using h m hm
  unfold split?
  simp only [List.filter_cons, hnone, hall]
  rfl

/-- the members of a command are read back, and none of them is its kind -/
theorem members?_carries {c : Command} {members : List (String × Json)}
    (h : c.members? = some members) :
    (∀ m ∈ members, m.1 ≠ "command")
      ∧ Json.Carries (depth + 3) (.object members) (decodeKind? c.kind) c := by
  cases c with
  | addRelyingParty new =>
    rw [members?, AddRelyingParty.members?_eq, Option.map_eq_some_iff] at h
    obtain ⟨certificate, hcertificate, rfl⟩ := h
    have hread : Json.Carries (depth + 2) certificate (Json.option? SigningCertificate.decode?)
        new.signingCertificate := SigningCertificate.encodeOption?_carries hcertificate
    refine ⟨by simp, ?_, ?_⟩
    · apply Json.plain_object
      simp [hread.plain]
    · show (AddRelyingParty.decode? _).map _ = _
      rw [Option.map_eq_some_iff]
      refine ⟨new, ?_, rfl⟩
      unfold AddRelyingParty.decode?
      refine Record.ofJson?_bind (by decide) (.refl _) ?_
      refine Record.optional_bind rfl (Json.option?_string _) ?_
      refine Record.optional_bind rfl (Json.option?_string _) ?_
      refine Record.optional_bind rfl (Json.option?_string _) ?_
      refine Record.optional_bind rfl (Json.option?_bytes _) ?_
      refine Record.required_bind rfl (TokenType.decodeWhole?_encode _) ?_
      refine Record.required_bind rfl (Json.word32?_ofNat _) ?_
      refine Record.optional_bind rfl (Json.option?_bytes _) ?_
      refine Record.optional_bind rfl hread.reads ?_
      refine Record.required_bind rfl (Json.list?_strings _) ?_
      refine Record.required_bind rfl (Json.list?_strings _) ?_
      refine Record.required_bind rfl rfl ?_
      rfl
  | removeRelyingParty name withRuleGroups =>
    cases h
    refine ⟨by simp, Json.plain_object (by simp), ?_⟩
    refine Record.ofJson?_bind (by decide) (.refl _) ?_
    refine Record.required_bind rfl rfl ?_
    refine Record.required_bind rfl rfl ?_
    rfl
  | addRuleGroup name =>
    cases h
    refine ⟨by simp, Json.plain_object (by simp), ?_⟩
    refine Record.ofJson?_bind (by decide) (.refl _) ?_
    refine Record.optional_bind rfl (Json.option?_string _) ?_
    rfl
  | addRule ruleGroup rule =>
    cases h
    unfold Rule.Declaration.members
    refine ⟨by simp, Json.plain_object (by simp), ?_⟩
    refine Option.bind_eq_some_iff.mpr ⟨(ruleGroup, rule), ?_, rfl⟩
    unfold Rule.Declaration.decode?
    refine Record.ofJson?_bind (by decide) (.refl _) ?_
    refine Record.optional_bind rfl (Json.option?_string _) ?_
    refine Record.optional_bind rfl (Json.option?_string _) ?_
    refine Record.optional_bind rfl (Json.option?_string _) ?_
    refine Record.optional_bind rfl (Json.option?_string _) ?_
    refine Record.optional_bind rfl (Json.option?_string _) ?_
    refine Record.optional_bind rfl (Json.option?_string _) ?_
    refine Record.optional_bind rfl (Json.option?_string _) ?_
    refine Record.required_bind rfl rfl ?_
    rfl
  | removeRuleGroup name =>
    cases h
    refine ⟨by simp, Json.plain_object (by simp), ?_⟩
    refine Record.ofJson?_bind (by decide) (.refl _) ?_
    refine Record.required_bind rfl rfl ?_
    rfl

theorem encode?_carries {c : Command} {j : Json} (h : c.encode? = some j) :
    Json.Carries 127 j decode? c := by
  unfold encode? at h
  simp only [Option.bind_eq_bind, Option.bind_eq_some_iff, Option.pure_def,
    Option.some.injEq] at h
  obtain ⟨members, hmembers, rfl⟩ := h
  obtain ⟨hkind, hread⟩ : (∀ m ∈ members, m.1 ≠ "command")
      ∧ Json.Carries (124 + 3) (.object members) (decodeKind? c.kind) c := members?_carries hmembers
  have hplain : (Json.object (("command", .string c.kind) :: members)).Plain 127 := by
    cases hread.plain with
    | object h => exact .object (List.forall_mem_cons.mpr ⟨.string _, h⟩)
  refine ⟨hplain, ?_⟩
  unfold decode?
  rw [hplain.isReadable, split?_object hkind]
  exact hread.reads

theorem encode?_isSome (c : Command) :
    c.encode?.isSome = true ↔ ∀ t ∈ c.dates, t.IsWritable := by
  have hmembers : c.encode?.isSome = c.members?.isSome := by
    unfold encode?
    cases c.members? <;> rfl
  rw [hmembers]
  cases c with
  | addRelyingParty new =>
    rw [members?, AddRelyingParty.members?_eq, Option.isSome_map]
    exact SigningCertificate.encodeOption?_isSome new.signingCertificate
  | removeRelyingParty name withRuleGroups => simp [members?, dates]
  | addRuleGroup name => simp [members?, dates]
  | addRule ruleGroup rule => simp [members?, dates]
  | removeRuleGroup name => simp [members?, dates]

end Command

end

/-! ## all forms -/

/-- the types with a written form -/
inductive Form : Type → Type where
  | command : Form Command
  | signingCertificate : Form SigningCertificate
  | relyingParty : Form RelyingParty
  | key : Form Key
  | link : Form Link
  | ruleGroup : Form RuleGroup
  | rule : Form Rule
  | relyingPartyDraft : Form RelyingParty.Draft
  | ruleGroupDraft : Form RuleGroup.Draft
  | ruleDraft : Form Rule.Draft
  | linkDraft : Form Link.Draft
  | continuationToken : Form ContinuationToken
  | resourceKind : Form ResourceKind
  | tokenType : Form TokenType
  | keyType : Form KeyType
  | keyUsage : Form KeyUsage

namespace Form

def encode? {α : Type} : Form α → α → Option Json
  | .command, c => c.encode?
  | .signingCertificate, c => c.encode?
  | .relyingParty, p => p.encode?
  | .key, k => k.encode?
  | .link, l => some l.encode
  | .ruleGroup, g => some g.encode
  | .rule, r => some r.encode
  | .relyingPartyDraft, p => p.encode?
  | .ruleGroupDraft, g => some g.encode
  | .ruleDraft, r => some r.encode
  | .linkDraft, l => some l.encode
  | .continuationToken, t => some t.encode
  | .resourceKind, k => some k.encode
  | .tokenType, t => some t.encode
  | .keyType, t => some t.encode
  | .keyUsage, u => some u.encode

def decode? {α : Type} : Form α → Json → Option α
  | .command => Command.decode?
  | .signingCertificate => SigningCertificate.decode?
  | .relyingParty => RelyingParty.decode?
  | .key => Key.decode?
  | .link => Link.decode?
  | .ruleGroup => RuleGroup.decode?
  | .rule => Rule.decode?
  | .relyingPartyDraft => RelyingParty.Draft.decode?
  | .ruleGroupDraft => RuleGroup.Draft.decode?
  | .ruleDraft => Rule.Draft.decode?
  | .linkDraft => Link.Draft.decode?
  | .continuationToken => ContinuationToken.decode?
  | .resourceKind => ResourceKind.decode?
  | .tokenType => TokenType.decode?
  | .keyType => KeyType.decode?
  | .keyUsage => KeyUsage.decode?

/-- the identities of a value, those of its parts included -/
def ids {α : Type} : Form α → α → List Id
  | .relyingParty, p => p.ids
  | .key, k => k.ids
  | .link, l => l.ids
  | .ruleGroup, g => [g.id]
  | .rule, r => [r.id, r.ruleGroup]
  | .ruleDraft, r => [r.ruleGroup]
  | .linkDraft, l => l.ids
  | _, _ => []

/-- the dates of a value, those of its parts included -/
def dates {α : Type} : Form α → α → List Timestamp
  | .command, c => c.dates
  | .signingCertificate, c => c.dates
  | .relyingParty, p => p.dates
  | .key, k => k.dates
  | .relyingPartyDraft, p => p.dates
  | _, _ => []

theorem carries {α : Type} {form : Form α} {v : α} {j : Json} (h : form.encode? v = some j)
    (hids : ∀ id ∈ form.ids v, id.Fits) : Json.Carries 127 j form.decode? v := by
  cases form with
  | command => exact Command.encode?_carries h
  | signingCertificate => exact SigningCertificate.encode?_carries h
  | relyingParty => exact RelyingParty.encode?_carries h hids
  | key => exact Key.encode?_carries h hids
  | relyingPartyDraft => exact RelyingParty.Draft.encode?_carries h
  | link =>
    cases h
    exact Link.encode_carries hids
  | ruleGroup =>
    cases h
    exact RuleGroup.encode_carries (hids _ (by simp [ids]))
  | rule =>
    cases h
    exact Rule.encode_carries (hids _ (by simp [ids])) (hids _ (by simp [ids]))
  | ruleGroupDraft =>
    cases h
    exact RuleGroup.Draft.encode_carries v
  | ruleDraft =>
    cases h
    exact Rule.Draft.encode_carries (hids _ (by simp [ids]))
  | linkDraft =>
    cases h
    exact Link.Draft.encode_carries hids
  | continuationToken =>
    cases h
    exact ⟨.string _, rfl⟩
  | resourceKind =>
    cases h
    exact ⟨.string _, ResourceKind.decode?_encode v⟩
  | tokenType =>
    cases h
    exact ⟨.string _, TokenType.decode?_encode v⟩
  | keyType =>
    cases h
    exact ⟨.string _, KeyType.decode?_encode v⟩
  | keyUsage =>
    cases h
    exact ⟨.string _, KeyUsage.decode?_encode v⟩

theorem encode?_isSome {α : Type} (form : Form α) (v : α) :
    (form.encode? v).isSome = true ↔ ∀ t ∈ form.dates v, t.IsWritable := by
  cases form with
  | command => exact Command.encode?_isSome v
  | signingCertificate => exact SigningCertificate.encode?_isSome v
  | relyingParty => exact RelyingParty.encode?_isSome v
  | key => exact Key.encode?_isSome v
  | relyingPartyDraft => exact RelyingParty.Draft.encode?_isSome v
  | _ => simp [encode?, dates]

end Form

/-- year and offset of a date have a text in RFC 3339 -/
def Timestamp.HasText (t : Timestamp) : Prop :=
  0 ≤ t.reading.year ∧ t.reading.year ≤ 9999 ∧ t.reading.offset.natAbs < 24 * 60 * 60
    ∧ t.reading.offset % 60 = 0

theorem Timestamp.isWritable_iff (t : Timestamp) : t.IsWritable ↔ t.HasText := by
  have hyear : t.reading.year ≤ 9999 := t.valid.2.1
  unfold IsWritable HasText
  constructor
  · rintro ⟨hlow, hday, hminute⟩
    exact ⟨hlow, hyear, hday, hminute⟩
  · rintro ⟨hlow, -, hday, hminute⟩
    exact ⟨hlow, hday, hminute⟩

/-- If a value can be written, the text is read back as the JSON value that was written, and this is
decoded as the value itself.  It can be written if all of its dates have a text. -/
theorem read_written {α : Type} (form : Form α) (v : α) (hids : ∀ id ∈ form.ids v, id.Fits) :
    (∀ j, form.encode? v = some j →
      Json.parse? j.render = some j ∧ form.decode? j = some v)
    ∧ ((form.encode? v).isSome = true ↔ ∀ t ∈ form.dates v, t.HasText) := by
  constructor
  · intro j hj
    have h := Form.carries hj hids
    exact ⟨Json.parse?_render h.plain, h.reads⟩
  · rw [Form.encode?_isSome]
    simp only [Timestamp.isWritable_iff]

/-- a relying party without reply address, whose key ends half a second after midnight in India -/
def RelyingParty.writtenPortal : RelyingParty where
  name := "portal \"north\""
  realmAddress := "https://portal.example/"
  replyAddress := none
  tokenType := .swt
  tokenLifetime := 3600
  identityProviders := ["corp", ""]
  id := .nth 1
  links := [{ relyingParty := .nth 1, ruleGroup := .nth 2, id := .nth 3, ruleGroupName := "staff" }]
  keys := [{
    id := .nth 4
    relyingParty := .nth 1
    displayName := "signing\n"
    type := .x509Certificate
    usage := .signing
    startDate := none
    endDate := some ⟨⟨2026, 1, 31, 0, 0, 0, 500000000, 19800⟩, by decide⟩ }]

theorem read_written_portal :
    (∀ id ∈ Form.relyingParty.ids RelyingParty.writtenPortal, id.Fits)
    ∧ ∃ j, RelyingParty.writtenPortal.encode? = some j ∧ Json.parse? j.render = some j
      ∧ RelyingParty.decode? j = some RelyingParty.writtenPortal := by
  have hids : ∀ id ∈ Form.relyingParty.ids RelyingParty.writtenPortal, id.Fits := by
    unfold Id.Fits
    decide
  obtain ⟨hread, hwrite⟩ := read_written .relyingParty RelyingParty.writtenPortal hids
  have hsome : RelyingParty.writtenPortal.encode?.isSome = true := by
    apply hwrite.mpr
    unfold Timestamp.HasText
    decide
  obtain ⟨j, hj⟩ := Option.isSome_iff_exists.mp hsome
  exact ⟨hids, j, hj, hread j hj⟩

end AccessControl
