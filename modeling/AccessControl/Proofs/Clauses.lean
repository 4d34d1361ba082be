import AccessControl.Command.Basic
import Mathlib.Data.List.Forall2
import Mathlib.Data.List.Induction

/-!
# Clauses in another order

Clauses of different fields commute, so all that a declaration depends on is, field by field, which
clauses it has and in which order.

* `Interleaved`              two sequences that have, field by field, the same clauses in the same
                             order; nested clauses count as the same if they are interleaved too;
* `Interleaved.foldl_eq`     they make the same, if clauses of different fields commute (`add_comm`);
* `foldl_clausesOf`          what the clauses of one field make, by induction over them;
* `AddRelyingParty.Carries`  every field that is a single value is what was set last, and identity
                             providers are in order of first mention.
-/

namespace AccessControl

/-! ## sequences of clauses -/

section
variable {α β δ : Type} [DecidableEq β] {field : α → β} {R : α → α → Prop} {add : δ → α → δ}
  {f : β} {cs ds : List α}

/-- the clauses of one field -/
def clausesOf (field : α → β) (f : β) (cs : List α) : List α := cs.filter (field · = f)

/-- the last clause of a field -/
def lastOf (field : α → β) (f : β) (cs : List α) : Option α := (clausesOf field f cs).getLast?

/-- field by field the same clauses in the same order, where `R` relates clauses that count as
the same -/
def Interleaved (field : α → β) (R : α → α → Prop) (cs ds : List α) : Prop :=
  ∀ f, List.Forall₂ R (clausesOf field f cs) (clausesOf field f ds)

theorem clausesOf_append :
    clausesOf field f (cs ++ ds) = clausesOf field f cs ++ clausesOf field f ds :=
  List.filter_append ..

theorem clausesOf_cons_of_eq {c : α} (h : field c = f) :
    clausesOf field f (c :: cs) = c :: clausesOf field f cs :=
  List.filter_cons_of_pos (decide_eq_true h)

theorem clausesOf_cons_of_ne {c : α} (h : field c ≠ f) :
    clausesOf field f (c :: cs) = clausesOf field f cs :=
  List.filter_cons_of_neg (by simpa using h)

theorem clausesOf_eq_nil : clausesOf field f cs = [] ↔ ∀ c ∈ cs, field c ≠ f := by
  simp [clausesOf]

theorem Interleaved.nil (h : Interleaved field R [] ds) : ds = [] := by
  refine List.eq_nil_iff_forall_not_mem.mpr fun c hc => ?_
  have hnone : clausesOf field (field c) ds = [] := List.forall₂_nil_left_iff.mp (h (field c))
  exact clausesOf_eq_nil.mp hnone c hc rfl

/-- the first clause of a sequence stands in the other behind clauses of other fields only -/
theorem Interleaved.cons {c : α} (h : Interleaved field R (c :: cs) ds) :
    ∃ pre d post, ds = pre ++ d :: post ∧ (∀ x ∈ pre, field x ≠ field d) ∧ R c d ∧
      Interleaved field R cs (pre ++ post) := by
  have hc := h (field c)
  rw [clausesOf_cons_of_eq rfl] at hc
  obtain ⟨d, rest, hR, -, hds⟩ := List.forall₂_cons_left_iff.mp hc
  obtain ⟨pre, post, rfl, hpre, hd, -⟩ := List.filter_eq_cons_iff.mp hds
  have hd : field d = field c := of_decide_eq_true hd
  have hpre (x) (hx : x ∈ pre) : field x ≠ field c := fun he => hpre x hx (decide_eq_true he)
  refine ⟨pre, d, post, rfl, fun x hx => hd ▸ hpre x hx, hR, fun f => ?_⟩
  have hf := h f
  rw [clausesOf_append] at hf ⊢
  by_cases hcf : field c = f
  · subst hcf
    rw [clausesOf_eq_nil.mpr hpre, List.nil_append] at hf ⊢
    rw [clausesOf_cons_of_eq rfl, clausesOf_cons_of_eq hd] at hf
    exact (List.forall₂_cons.mp hf).2
  · rwa [clausesOf_cons_of_ne hcf, clausesOf_cons_of_ne (hd ▸ hcf)] at hf

omit [DecidableEq β] in
/-- a clause can be moved ahead of clauses of other fields -/
theorem foldl_add_comm (comm : ∀ s a b, field a ≠ field b → add (add s a) b = add (add s b) a)
    {pre : List α} {c : α} (h : ∀ x ∈ pre, field x ≠ field c) (s : δ) :
    add (pre.foldl add s) c = pre.foldl add (add s c) := by
  induction pre generalizing s with
  | nil => rfl
  | cons a pre ih =>
    rw [List.foldl_cons, List.foldl_cons, ih (fun x hx => h x (List.mem_cons_of_mem _ hx)),
      comm s a c (h a List.mem_cons_self)]

theorem Interleaved.foldl_eq
    (comm : ∀ s a b, field a ≠ field b → add (add s a) b = add (add s b) a)
    (alike : ∀ s a b, R a b → add s a = add s b) (h : Interleaved field R cs ds) (s : δ) :
    cs.foldl add s = ds.foldl add s := by
  -- the first clause of `cs` is taken out of the middle of `ds`
  induction cs generalizing ds s with
  | nil => rw [h.nil]
  | cons c cs ih =>
    obtain ⟨pre, d, post, rfl, hpre, hR, hrest⟩ := h.cons
    calc (c :: cs).foldl add s
        = (pre ++ post).foldl add (add s c) := ih hrest _
      _ = post.foldl add (pre.foldl add (add s d)) := by rw [List.foldl_append, alike s c d hR]
      _ = (pre ++ d :: post).foldl add s := by
        rw [List.foldl_append, List.foldl_cons, foldl_add_comm comm hpre]

/-- what holds of the clauses of one field and of what they make -/
theorem foldl_clausesOf (P : List α → δ → Prop) {s : δ} (init : P [] s)
    (set : ∀ l s c, field c = f → P l s → P (l ++ [c]) (add s c))
    (keep : ∀ l s c, field c ≠ f → P l s → P l (add s c)) (cs : List α) :
    P (clausesOf field f cs) (cs.foldl add s) := by
  induction cs using List.reverseRecOn with
  | nil => exact init
  | append_singleton cs c ih =>
    rw [List.foldl_concat, clausesOf_append]
    by_cases hc : field c = f
    · rw [clausesOf_cons_of_eq hc]
      exact set _ _ c hc ih
    · rw [clausesOf_cons_of_ne hc]
      exact (List.append_nil (clausesOf field f cs)).symm ▸ keep _ _ c hc ih

/-- what a field shows that each of its clauses sets, and no other clause changes -/
theorem foldl_lastOf (view : δ → Option α)
    (step : ∀ s c, view (add s c) = if field c = f then some c else view s) (s : δ) (cs : List α) :
    view (cs.foldl add s) = (lastOf field f cs).or (view s) := by
  refine foldl_clausesOf (fun l t => view t = l.getLast?.or (view s)) rfl ?_ ?_ cs
  · intro l t c hc _
    rw [step, if_pos hc, List.getLast?_concat]
    rfl
  · intro l t c hc ht
    rw [step, if_neg hc, ht]

theorem eraseDups_concat [DecidableEq α] (l : List α) (a : α) :
    (l ++ [a]).eraseDups = if a ∈ l then l.eraseDups else l.eraseDups ++ [a] := by
  rw [List.eraseDups_append]
  by_cases h : a ∈ l
  · rw [if_pos h, List.removeAll, List.filter_cons_of_neg (by simpa using h)]
    exact List.append_nil _
  · rw [if_neg h, List.removeAll, List.filter_cons_of_pos (by simpa using h)]
    rfl

end

/-! ## rules and rule groups -/

inductive Rule.Field where
  | description
  | identityProvider
  | inputClaimType
  | inputClaimValue
  | outputClaimType
  | outputClaimValue
  | passthrough
  deriving DecidableEq

namespace Rule

def Clause.field : Clause → Field
  | .description _ => .description
  | .identityProvider _ => .identityProvider
  | .inputClaimType _ => .inputClaimType
  | .inputClaimValue _ => .inputClaimValue
  | .outputClaimType _ => .outputClaimType
  | .outputClaimValue _ => .outputClaimValue
  | .passthrough => .passthrough

theorem Declaration.add_comm (d : Declaration) (a b : Clause) (h : a.field ≠ b.field) :
    (d.add a).add b = (d.add b).add a := by
  cases a <;> cases b <;> first | rfl | exact absurd rfl h

theorem Declaration.ofClauses_interleaved {cs ds : List Clause}
    (h : Interleaved Clause.field Eq cs ds) : ofClauses cs = ofClauses ds :=
  h.foldl_eq add_comm (fun d _ _ he => congrArg d.add he) {}

end Rule

inductive RuleGroup.Field where
  | name
  | rules
  deriving DecidableEq

namespace RuleGroup

def Clause.field : Clause → Field
  | .name _ => .name
  | .rule _ => .rules

/-- the same clause, up to the order of different fields in a rule -/
inductive Clause.Same : Clause → Clause → Prop
  | name (s : String) : Same (.name s) (.name s)
  | rule {cs ds : List Rule.Clause} (h : Interleaved Rule.Clause.field Eq cs ds) :
    Same (.rule cs) (.rule ds)

theorem Declaration.add_comm (d : Declaration) (a b : Clause) (h : a.field ≠ b.field) :
    (d.add a).add b = (d.add b).add a := by
  cases a <;> cases b <;> first | rfl | exact absurd rfl h

theorem Declaration.add_same (d : Declaration) (a b : Clause) (h : a.Same b) :
    d.add a = d.add b := by
  cases h with
  | name s => rfl
  | rule h =>
    show { d with rules := _ } = { d with rules := _ }
    rw [Rule.Declaration.ofClauses_interleaved h]

theorem Declaration.ofClauses_interleaved {cs ds : List Clause}
    (h : Interleaved Clause.field Clause.Same cs ds) : ofClauses cs = ofClauses ds :=
  h.foldl_eq add_comm add_same {}

end RuleGroup

/-! ## signing certificates -/

inductive SigningCertificate.Field where
  | bytes
  | password
  | startDate
  | endDate
  deriving DecidableEq

namespace SigningCertificate

def Clause.field : Clause → Field
  | .bytes _ => .bytes
  | .password _ => .password
  | .startDate _ => .startDate
  | .endDate _ => .endDate

theorem add_comm (d : SigningCertificate) (a b : Clause) (h : a.field ≠ b.field) :
    (d.add a).add b = (d.add b).add a := by
  cases a <;> cases b <;> first | rfl | exact absurd rfl h

theorem ofClauses_interleaved {cs ds : List Clause} (h : Interleaved Clause.field Eq cs ds) :
    ofClauses cs = ofClauses ds :=
  h.foldl_eq add_comm (fun d _ _ he => congrArg d.add he) {}

/-- the clause that sets a field to what it is -/
def shows (cert : SigningCertificate) : Field → Option Clause
  | .bytes => cert.bytes.map .bytes
  | .password => cert.password.map .password
  | .startDate => cert.startDate.map .startDate
  | .endDate => cert.endDate.map .endDate

theorem shows_add (f : Field) (cert : SigningCertificate) (c : Clause) :
    (cert.add c).shows f = if c.field = f then some c else cert.shows f := by
  cases c <;> cases f <;> rfl

/-- every field is what was set last -/
def Carries (cert : SigningCertificate) (cs : List Clause) : Prop :=
  ∀ f, cert.shows f = lastOf Clause.field f cs

theorem ofClauses_carries (cs : List Clause) : (ofClauses cs).Carries cs := by
  intro f
  have hunset : shows {} f = none := by cases f <;> rfl
  calc (ofClauses cs).shows f = (lastOf Clause.field f cs).or (shows {} f) :=
        foldl_lastOf (shows · f) (shows_add f) {} cs
    _ = lastOf Clause.field f cs := by rw [hunset, Option.or_none]

end SigningCertificate

/-! ## relying parties -/

inductive RelyingParty.Field where
  | name
  | realmAddress
  | replyAddress
  | symmetricKey
  | tokenType
  | tokenLifetime
  | encryptionCertificate
  | signingCertificate
  | identityProviders
  | patterns
  | removeRelatedRuleGroups
  | ruleGroups
  deriving DecidableEq

namespace RelyingParty

def Clause.field : Clause → Field
  | .name _ => .name
  | .realmAddress _ => .realmAddress
  | .replyAddress _ => .replyAddress
  | .symmetricKey _ => .symmetricKey
  | .tokenType _ => .tokenType
  | .tokenLifetime _ => .tokenLifetime
  | .encryptionCertificate _ => .encryptionCertificate
  | .signingCertificate _ => .signingCertificate
  | .allowIdentityProvider _ => .identityProviders
  | .linkTo _ => .patterns
  | .removeRelatedRuleGroups => .removeRelatedRuleGroups
  | .ruleGroup _ => .ruleGroups

/-- the field is a single plain value -/
def Field.plain : Field → Bool
  | .signingCertificate | .identityProviders | .patterns | .ruleGroups => false
  | _ => true

/-- the same clause, up to the order of different fields in a certificate, a rule group or a rule -/
inductive Clause.Same : Clause → Clause → Prop
  | refl (c : Clause) : Same c c
  | signingCertificate {cs ds : List SigningCertificate.Clause}
    (h : Interleaved SigningCertificate.Clause.field Eq cs ds) :
    Same (.signingCertificate cs) (.signingCertificate ds)
  | ruleGroup {cs ds : List RuleGroup.Clause}
    (h : Interleaved RuleGroup.Clause.field RuleGroup.Clause.Same cs ds) :
    Same (.ruleGroup cs) (.ruleGroup ds)

namespace Declaration

theorem add_comm (d : Declaration) (a b : Clause) (h : a.field ≠ b.field) :
    (d.add a).add b = (d.add b).add a := by
  cases a <;> cases b <;> first | rfl | exact absurd rfl h

theorem add_same (d : Declaration) (a b : Clause) (h : a.Same b) : d.add a = d.add b := by
  cases h with
  | refl => rfl
  | signingCertificate h =>
    show { d with signingCertificate := _ } = { d with signingCertificate := _ }
    rw [SigningCertificate.ofClauses_interleaved h]
  | ruleGroup h =>
    show { d with ruleGroups := _ } = { d with ruleGroups := _ }
    rw [RuleGroup.Declaration.ofClauses_interleaved h]

theorem ofClauses_interleaved {cs ds : List Clause}
    (h : Interleaved Clause.field Clause.Same cs ds) : ofClauses cs = ofClauses ds :=
  h.foldl_eq add_comm add_same {}

/-- the clause that sets a field to what it is, for fields that are a single plain value -/
def shows (d : Declaration) : Field → Option Clause
  | .name => d.name.map .name
  | .realmAddress => d.realmAddress.map .realmAddress
  | .replyAddress => d.replyAddress.map .replyAddress
  | .symmetricKey => d.symmetricKey.map .symmetricKey
  | .tokenType => some (.tokenType d.tokenType)
  | .tokenLifetime => some (.tokenLifetime d.tokenLifetime)
  | .encryptionCertificate => d.encryptionCertificate.map .encryptionCertificate
  | .removeRelatedRuleGroups =>
    if d.removeRelatedRuleGroups then some .removeRelatedRuleGroups else none
  | .signingCertificate | .identityProviders | .patterns | .ruleGroups => none

theorem shows_add {f : Field} (hf : f.plain) (d : Declaration) (c : Clause) :
    (d.add c).shows f = if c.field = f then some c else d.shows f := by
  cases c <;> cases f <;> first | rfl | cases hf

theorem shows_ofClauses {f : Field} (hf : f.plain) (cs : List Clause) :
    (ofClauses cs).shows f = (lastOf Clause.field f cs).or (shows {} f) :=
  foldl_lastOf (shows · f) (shows_add hf) {} cs

theorem signingCertificate_ofClauses (cs : List Clause) :
    Option.Rel (fun c cert => ∃ certs, c = .signingCertificate certs ∧ cert.Carries certs)
      (lastOf Clause.field .signingCertificate cs) (ofClauses cs).signingCertificate := by
  refine foldl_clausesOf
    (fun l (d : Declaration) => Option.Rel _ l.getLast? d.signingCertificate) .none ?_ ?_ cs
  · intro l d c hc _
    rw [List.getLast?_concat]
    cases c <;> cases hc
    exact .some ⟨_, rfl, SigningCertificate.ofClauses_carries _⟩
  · intro l d c hc h
    cases c <;> first | exact h | exact absurd rfl hc

theorem identityProviders_ofClauses (cs : List Clause) :
    (ofClauses cs).identityProviders.map .allowIdentityProvider =
      (clausesOf Clause.field .identityProviders cs).eraseDups := by
  have hinj : Function.Injective Clause.allowIdentityProvider :=
    fun _ _ => Clause.allowIdentityProvider.inj
  let P (l : List Clause) (d : Declaration) : Prop :=
    d.identityProviders.map Clause.allowIdentityProvider = l.eraseDups
  have init : P [] {} := List.eraseDups_nil.symm
  refine foldl_clausesOf P init (fun l d c hc h => ?_) (fun l d c hc h => ?_) cs
  · obtain ⟨s, rfl⟩ : ∃ s, c = .allowIdentityProvider s := by
      cases c <;> cases hc
      exact ⟨_, rfl⟩
    have hmem : s ∈ d.identityProviders ↔ Clause.allowIdentityProvider s ∈ l := by
      rw [← List.mem_eraseDups (l := l), ← h, List.mem_map_of_injective hinj]
    show (allow d.identityProviders s).map _ = _
    rw [eraseDups_concat, allow]
    by_cases hs : s ∈ d.identityProviders
    · rw [if_pos (List.contains_iff_mem.mpr hs), if_pos (hmem.mp hs), h]
    · rw [if_neg (mt List.contains_iff_mem.mp hs), if_neg (mt hmem.mpr hs), List.map_append, h]
      rfl
  · cases c <;> first | exact h | exact absurd rfl hc

end Declaration
end RelyingParty

/-- of every field that is a single value the last, and every identity provider once, where it was
first mentioned -/
structure AddRelyingParty.Carries (new : AddRelyingParty) (cs : List RelyingParty.Clause) :
    Prop where
  name : new.name.map .name = lastOf RelyingParty.Clause.field .name cs
  realmAddress : new.realmAddress.map .realmAddress =
    lastOf RelyingParty.Clause.field .realmAddress cs
  replyAddress : new.replyAddress.map .replyAddress =
    lastOf RelyingParty.Clause.field .replyAddress cs
  symmetricKey : new.symmetricKey.map .symmetricKey =
    lastOf RelyingParty.Clause.field .symmetricKey cs
  tokenType : .tokenType new.tokenType =
    (lastOf RelyingParty.Clause.field .tokenType cs).getD (.tokenType .saml2)
  tokenLifetime : .tokenLifetime new.tokenLifetime =
    (lastOf RelyingParty.Clause.field .tokenLifetime cs).getD (.tokenLifetime 0)
  encryptionCertificate : new.encryptionCertificate.map .encryptionCertificate =
    lastOf RelyingParty.Clause.field .encryptionCertificate cs
  signingCertificate : Option.Rel
    (fun c cert => ∃ certs, c = .signingCertificate certs ∧ cert.Carries certs)
    (lastOf RelyingParty.Clause.field .signingCertificate cs) new.signingCertificate
  identityProviders : new.identityProviders.map .allowIdentityProvider =
    (clausesOf RelyingParty.Clause.field .identityProviders cs).eraseDups
  removeRelatedRuleGroups : new.removeRelatedRuleGroups =
    (lastOf RelyingParty.Clause.field .removeRelatedRuleGroups cs).isSome

theorem RelyingParty.Declaration.command_carries (cs : List Clause) :
    ∃ new, (ofClauses cs).command = .addRelyingParty new ∧ new.Carries cs := by
  have hunset {f : Field} (hf : f.plain) (hd : shows {} f = none) :
      (ofClauses cs).shows f = lastOf Clause.field f cs := by
    rw [shows_ofClauses hf, hd, Option.or_none]
  refine ⟨_, rfl, ?_⟩
  exact {
    name := hunset (f := .name) rfl rfl
    realmAddress := hunset (f := .realmAddress) rfl rfl
    replyAddress := hunset (f := .replyAddress) rfl rfl
    symmetricKey := hunset (f := .symmetricKey) rfl rfl
    tokenType := Option.some.inj <|
      (shows_ofClauses (f := .tokenType) rfl cs).trans (Option.or_some ..)
    tokenLifetime := Option.some.inj <|
      (shows_ofClauses (f := .tokenLifetime) rfl cs).trans (Option.or_some ..)
    encryptionCertificate := hunset (f := .encryptionCertificate) rfl rfl
    signingCertificate := signingCertificate_ofClauses cs
    identityProviders := identityProviders_ofClauses cs
    removeRelatedRuleGroups := by
      rw [← hunset (f := .removeRelatedRuleGroups) rfl rfl]
      show _ = (if (ofClauses cs).removeRelatedRuleGroups then _ else none).isSome
      cases (ofClauses cs).removeRelatedRuleGroups <;> rfl
  }

/-- clauses of different fields commute: the commands only depend on what each field was given, and
the last of them carries what each field was given last -/
theorem RelyingParty.Declaration.commands_interleaved (cs : List Clause) :
    (∀ ds, Interleaved Clause.field Clause.Same cs ds →
      (ofClauses cs).commands = (ofClauses ds).commands) ∧
    ∃ new, (ofClauses cs).commands.getLast? = some (.addRelyingParty new) ∧ new.Carries cs := by
  refine ⟨fun ds h => by rw [ofClauses_interleaved h], ?_⟩
  obtain ⟨new, hnew, hcarries⟩ := command_carries cs
  refine ⟨new, ?_, hcarries⟩
  rw [commands, List.getLast?_concat, hnew]

/-- a rule group and a pattern for its name, a certificate, and more than one name and provider -/
def RelyingParty.Clause.portal : List Clause :=
  [.linkTo "^claims$", .ruleGroup [.name "claims", .rule [.description "mail", .passthrough]],
    .name "old", .signingCertificate [.bytes [1], .password "secret"],
    .allowIdentityProvider "Google", .name "portal", .allowIdentityProvider "Yahoo!",
    .allowIdentityProvider "Google"]

/-- the clauses of `portal` in another order, at every level of nesting -/
def RelyingParty.Clause.portalReordered : List Clause :=
  [.name "old", .allowIdentityProvider "Google", .allowIdentityProvider "Yahoo!",
    .signingCertificate [.password "secret", .bytes [1]], .name "portal",
    .ruleGroup [.rule [.passthrough, .description "mail"], .name "claims"],
    .allowIdentityProvider "Google", .linkTo "^claims$"]

theorem RelyingParty.Clause.portal_interleaved : Interleaved field Same portal portalReordered := by
  have hplain {α β : Type} [DecidableEq β] {field : α → β} {cs ds : List α}
      (h : ∀ f, clausesOf field f cs = clausesOf field f ds) : Interleaved field Eq cs ds :=
    fun f => h f ▸ List.forall₂_refl _
  intro f
  cases f with
  | signingCertificate =>
    exact .cons (.signingCertificate (hplain fun f => by cases f <;> rfl)) .nil
  | ruleGroups =>
    have hrule : Interleaved Rule.Clause.field Eq [.description "mail", .passthrough]
        [.passthrough, .description "mail"] := hplain fun f => by cases f <;> rfl
    refine .cons (.ruleGroup fun f => ?_) .nil
    cases f with
    | name => exact .cons (.name "claims") .nil
    | rules => exact .cons (.rule hrule) .nil
  | _ => exact List.forall₂_same.mpr fun c _ => .refl c

theorem RelyingParty.Declaration.portal_commands :
    Interleaved Clause.field Clause.Same Clause.portal Clause.portalReordered ∧
      (ofClauses Clause.portal).commands = (ofClauses Clause.portalReordered).commands :=
  ⟨Clause.portal_interleaved, (commands_interleaved Clause.portal).1 _ Clause.portal_interleaved⟩

end AccessControl
