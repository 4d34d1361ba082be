import AccessControl.Proofs.Contents.Basic
import AccessControl.Reconcile.RelyingParty
import AccessControl.Reconcile.RuleGroup

/-!
# What commands mean

A command is a function on contents, whatever the store does to carry it out: it first takes away the
resources that it clears, then makes its change.

* `Contents.next`, `Contents.after`   the contents after one command, after a list of them;
* `Command.Ready`, `Contents.Admits`  the names that a command looks up are as common as it demands, and
                                      so for every command of a list in its turn;
* `Command.Confined`     the commands are about what is in a set;
* `AddRelyingParty.content`   the relying party that a command asks for;
* `hide_after`           commands keep what none of them names;
* `after_congr`          contents that agree outside what is replaced agree altogether afterwards.
-/

namespace AccessControl
open Classical

namespace Command

/-- what the command removes or replaces -/
def subject? : Command → Option Subject
  | .addRelyingParty new => new.name.map .relyingParty
  | .removeRelyingParty name _ => some (.relyingParty name)
  | .addRuleGroup name => name.map .ruleGroup
  | .addRule _ _ => none
  | .removeRuleGroup name => some (.ruleGroup name)

/-- the rule group that the command adds a rule to -/
def extended? : Command → Option String
  | .addRule ruleGroup _ => ruleGroup
  | _ => none

/-- rule groups linked to the relying party go with it -/
def takesRuleGroups : Command → Bool
  | .addRelyingParty new => new.removeRelatedRuleGroups
  | .removeRelyingParty _ withRuleGroups => withRuleGroups
  | _ => false

/-- the command takes rule groups, and this one is linked to its relying party -/
def Takes (c : Command) (X : Contents) (ruleGroup : String) : Prop :=
  c.takesRuleGroups = true ∧ ∃ p ∈ X.relyingParties,
    c.subject? = some (.relyingParty p.name) ∧ ruleGroup ∈ p.links

/-- what is gone before the command makes its change -/
def clears (c : Command) (X : Contents) : Set Subject :=
  {x | c.subject? = some x ∨ ∃ g, c.Takes X g ∧ x = .ruleGroup g}

end Command

/-- a rule without an input claim type is never created -/
def Rule.Declaration.body (d : Rule.Declaration) : Rule.Body where
  description := d.description
  identityProvider := d.identityProvider
  inputClaimType := d.inputClaimType.getD ""
  inputClaimValue := d.inputClaimValue
  outputClaimType := d.outputClaimType
  outputClaimValue := d.outputClaimValue
  passthrough := d.passthrough

namespace Contents

/-- the change that a command makes once all that it clears is gone -/
def change (settings : Settings) (X : Contents) : Command → Contents
  | .addRelyingParty new =>
    match Reconciler.draft settings new with
    | .ok d => X.addRelyingParty d.toProfile d.keys (X.matching new.patterns)
    | .error _ => X
  | .removeRelyingParty _ _ => X
  | .addRuleGroup name => (name.map X.addRuleGroup).getD X
  | .addRule ruleGroup rule => (ruleGroup.map fun g => X.addRule g rule.body).getD X
  | .removeRuleGroup _ => X

noncomputable def next (settings : Settings) (X : Contents) (c : Command) : Contents :=
  (X.hide (c.clears X)).change settings c

noncomputable def after (settings : Settings) (X : Contents) (commands : List Command) : Contents :=
  commands.foldl (next settings) X

end Contents

/-! ## when a command succeeds -/

/-- the fields that the command needs are there, and what should be a pattern is one -/
def Command.Complete (settings : Settings) : Command → Prop
  | .addRelyingParty new => (∃ d, Reconciler.draft settings new = .ok d)
      ∧ ∀ text ∈ new.patterns, (Pattern.ofText? text).isSome = true
  | .removeRelyingParty name _ => name ≠ ""
  | .addRuleGroup name => ∃ g, name = some g ∧ g ≠ ""
  | .addRule ruleGroup rule => (∃ g, ruleGroup = some g ∧ g ≠ "")
      ∧ ∃ type, rule.inputClaimType = some type ∧ type ≠ ""
  | .removeRuleGroup name => name ≠ ""

/-- names are as common as the lookups of the command demand -/
structure Command.Ready (c : Command) (X : Contents) : Prop where
  replaced : ∀ x, c.subject? = some x → X.count x ≤ 1
  extended : ∀ g, c.extended? = some g → X.count (.ruleGroup g) = 1
  taken : ∀ g, c.Takes X g → X.count (.ruleGroup g) = 1

/-- every command is ready when its turn comes -/
def Contents.Admits (settings : Settings) (X : Contents) : List Command → Prop
  | [] => True
  | c :: cs => c.Ready X ∧ (X.next settings c).Admits settings cs

/-- all that is removed or replaced by the commands -/
def Command.subjects (commands : List Command) : Set Subject :=
  {x | ∃ c ∈ commands, c.subject? = some x}

theorem Command.subjects_nil : Command.subjects [] = ∅ := by
  ext x
  simp [Command.subjects]

theorem Command.subjects_cons (c : Command) (cs : List Command) :
    Command.subjects (c :: cs) = {x | c.subject? = some x} ∪ Command.subjects cs := by
  ext x
  simp [Command.subjects]

/-- the commands take no rule groups, and all that they remove, replace or extend is in `o` -/
structure Command.Confined (commands : List Command) (o : Set Subject) : Prop where
  keeps : ∀ c ∈ commands, c.takesRuleGroups = false
  subjects : Command.subjects commands ⊆ o
  extended : ∀ c ∈ commands, ∀ g, c.extended? = some g → .ruleGroup g ∈ o

namespace Command.Confined
variable {c : Command} {cs : List Command} {o : Set Subject}

theorem subject (h : Confined (c :: cs) o) (x : Subject) (hx : c.subject? = some x) : x ∈ o :=
  h.subjects ⟨c, List.mem_cons_self, hx⟩

theorem tail (h : Confined (c :: cs) o) : Confined cs o where
  keeps := fun c' hc' => h.keeps c' (List.mem_cons_of_mem _ hc')
  subjects := fun _ ⟨c', hc', hx⟩ => h.subjects ⟨c', List.mem_cons_of_mem _ hc', hx⟩
  extended := fun c' hc' => h.extended c' (List.mem_cons_of_mem _ hc')

end Command.Confined

/-! ## drafts -/

theorem requiredField_eq_ok {value : Option String} {resource field s : String} :
    requiredField value resource field = .ok s ↔ value = some s ∧ s ≠ "" := by
  cases value with
  | none => simp [requiredField]
  | some v =>
    unfold requiredField
    by_cases h : v = ""
    · subst h
      constructor
      · intro h
        have h' : (Except.error _ : Except ReconcileError String) = .ok s := h
        cases h'
      · rintro ⟨h, hne⟩
        exact absurd (Option.some.inj h).symm hne
    · have he : v.isEmpty = false := by simpa using h
      simp only [he]
      constructor
      · intro h'
        cases h'
        exact ⟨rfl, h⟩
      · rintro ⟨h', -⟩
        cases h'
        rfl

theorem requiredField_eq_error {value : Option String} {resource field : String} {e : ReconcileError}
    (h : requiredField value resource field = .error e) : e = .missingField resource field := by
  unfold requiredField at h
  split at h
  · split at h
    · cases h
      rfl
    · cases h
  · cases h
    rfl

theorem requiredField_ne_error {value : Option String} {resource field s : String}
    (h : value = some s) (hne : s ≠ "") (e : ReconcileError) :
    requiredField value resource field ≠ .error e := by
  rw [requiredField_eq_ok.mpr ⟨h, hne⟩]
  intro h
  cases h

/-- a draft passes its checks one after another -/
theorem Reconciler.draft_cases {settings : Settings} {new : AddRelyingParty}
    {d : RelyingParty.Draft} (h : draft settings new = .ok d) : ∃ name realmAddress bytes,
      requiredField new.name "relying party" "name" = .ok name
      ∧ requiredField new.realmAddress "relying party" "realm_address" = .ok realmAddress
      ∧ new.signingCertificate.mapM certificateBytes = .ok bytes
      ∧ d = {
        name := name
        realmAddress := realmAddress
        replyAddress := new.replyAddress
        tokenType := new.tokenType
        tokenLifetime := settings.tokenLifetime new.tokenLifetime
        identityProviders := new.identityProviders
        symmetricKey := new.symmetricKey
        signingCertificate := bytes
        signingCertificatePassword := new.signingCertificate.bind (·.password)
        signingCertificateStart := new.signingCertificate.bind (·.startDate)
        signingCertificateEnd := new.signingCertificate.bind (·.endDate)
        encryptionCertificate := new.encryptionCertificate } := by
  unfold draft at h
  cases hn : requiredField new.name "relying party" "name" with
  | error e =>
    rw [hn] at h
    cases h
  | ok name =>
    cases hr : requiredField new.realmAddress "relying party" "realm_address" with
    | error e =>
      rw [hn, hr] at h
      cases h
    | ok realmAddress =>
      cases hb : new.signingCertificate.mapM certificateBytes with
      | error e =>
        rw [hn, hr, hb] at h
        cases h
      | ok bytes =>
        rw [hn, hr, hb] at h
        cases h
        exact ⟨name, realmAddress, bytes, rfl, rfl, rfl, rfl⟩

theorem draft_eq_ok {settings : Settings} {new : AddRelyingParty} {d : RelyingParty.Draft}
    (h : Reconciler.draft settings new = .ok d) :
    new.name = some d.name ∧ d.name ≠ "" ∧ d.realmAddress ≠ "" := by
  obtain ⟨name, realmAddress, bytes, hname, hrealm, -, rfl⟩ := Reconciler.draft_cases h
  obtain ⟨hname, hne⟩ := requiredField_eq_ok.mp hname
  exact ⟨hname, hne, (requiredField_eq_ok.mp hrealm).2⟩

/-- one key for each kind of key material in the command; an empty list of bytes is material -/
def AddRelyingParty.keys (new : AddRelyingParty) (name : String) : List Key.Content :=
  (new.symmetricKey.map fun _ =>
    ⟨name ++ "-symmetric-key", .symmetric, .signing, none, none⟩).toList
  ++ (new.signingCertificate.map fun c =>
    ⟨name ++ "-signing-certificate", .x509Certificate, .signing, c.startDate, c.endDate⟩).toList
  ++ (new.encryptionCertificate.map fun _ =>
    ⟨name ++ "-encryption-certificate", .x509Certificate, .encrypting, none, none⟩).toList

/-- the relying party that the command asks for, with its name, its realm address and its links -/
def AddRelyingParty.content (settings : Settings) (new : AddRelyingParty) (name realmAddress : String)
    (links : Multiset String) : RelyingParty.Content where
  name := name
  realmAddress := realmAddress
  replyAddress := new.replyAddress
  tokenType := new.tokenType
  tokenLifetime := settings.tokenLifetime new.tokenLifetime
  identityProviders := new.identityProviders
  keys := new.keys name
  links := links

/-- a signing certificate in a command has bytes -/
theorem mapM_certificateBytes {certificate : Option SigningCertificate}
    {bytes : Option (List UInt8)} (h : certificate.mapM Reconciler.certificateBytes = .ok bytes) :
    bytes.isSome = certificate.isSome := by
  cases certificate with
  | none =>
    cases h
    rfl
  | some c =>
    have h : some <$> Reconciler.certificateBytes c = .ok bytes := h
    cases hc : Reconciler.certificateBytes c with
    | error e =>
      rw [hc] at h
      cases h
    | ok bs =>
      rw [hc] at h
      cases h
      rfl

/-- the draft has what the command gives, and the token lifetime that the settings resolve -/
theorem draft_profile {settings : Settings} {new : AddRelyingParty} {d : RelyingParty.Draft}
    (h : Reconciler.draft settings new = .ok d) : new.name = some d.name
      ∧ new.realmAddress = some d.realmAddress ∧ d.replyAddress = new.replyAddress
      ∧ d.tokenType = new.tokenType ∧ d.tokenLifetime = settings.tokenLifetime new.tokenLifetime
      ∧ d.identityProviders = new.identityProviders ∧ d.keys = new.keys d.name := by
  obtain ⟨name, realmAddress, bytes, hname, hrealm, hbytes, rfl⟩ :=
    Reconciler.draft_cases h
  refine ⟨(requiredField_eq_ok.mp hname).1, (requiredField_eq_ok.mp hrealm).1, rfl, rfl, rfl, rfl, ?_⟩
  unfold RelyingParty.Draft.keys AddRelyingParty.keys
  rw [mapM_certificateBytes hbytes]
  -- material of each kind is there or not
  congr 1
  · congr 1
    · cases new.symmetricKey <;> rfl
    · cases new.signingCertificate <;> rfl
  · cases new.encryptionCertificate <;> rfl

theorem draft_content {settings : Settings} {new : AddRelyingParty} {d : RelyingParty.Draft}
    (h : Reconciler.draft settings new = .ok d) (links : Multiset String) :
    ⟨d.toProfile, d.keys, links⟩ = new.content settings d.name d.realmAddress links := by
  obtain ⟨-, -, hreply, htype, hlifetime, hproviders, hkeys⟩ := draft_profile h
  unfold AddRelyingParty.content
  rw [← hreply, ← htype, ← hlifetime, ← hproviders, ← hkeys]

/-! ## hiding and changing -/

namespace Contents

theorem matching_hide (X : Contents) (patterns : List String) (o : Set Subject) :
    (X.hide o).matching patterns = (X.matching patterns).filter fun g => .ruleGroup g ∉ o := by
  unfold matching hide
  rw [Multiset.filter_coe, List.filter_map, List.filter_map, List.filter_map, List.filter_filter,
    List.filter_filter]
  refine congrArg _ (congrArg _ (List.filter_congr fun g _ => ?_))
  exact Bool.and_comm _ _

/-- hidden rule groups only give hidden links -/
theorem hide_addMatching (X : Contents) (profile : RelyingParty.Profile) (keys : List Key.Content)
    (patterns : List String) (o : Set Subject) :
    (X.addRelyingParty profile keys (X.matching patterns)).hide o
      = ((X.hide o).addRelyingParty profile keys ((X.hide o).matching patterns)).hide o := by
  rw [hide_addRelyingParty]
  have hshown : RelyingParty.Content.unlink ⟨profile, keys, X.matching patterns⟩ o
      = RelyingParty.Content.unlink ⟨profile, keys, (X.hide o).matching patterns⟩ o := by
    unfold RelyingParty.Content.unlink
    rw [← matching_hide, ← matching_hide, hide_self]
  show (⟨_, ((_ ++ [_]).filter _).map _⟩ : Contents) = ⟨_, ((_ ++ [_]).filter _).map _⟩
  rw [List.filter_append, List.filter_append, List.map_append, List.map_append]
  congr 1
  refine congrArg _ ?_
  by_cases hp : Subject.relyingParty profile.name ∈ o
  · rw [List.filter_cons_of_neg (by simpa using hp), List.filter_cons_of_neg (by simpa using hp)]
  · rw [List.filter_cons_of_pos (by simpa using hp), List.filter_cons_of_pos (by simpa using hp)]
    exact congrArg (· :: []) hshown

variable (settings : Settings)

theorem change_addRelyingParty {settings : Settings} {new : AddRelyingParty}
    {d : RelyingParty.Draft} (h : Reconciler.draft settings new = .ok d) (X : Contents) :
    X.change settings (.addRelyingParty new)
      = X.addRelyingParty d.toProfile d.keys (X.matching new.patterns) := by
  simp only [change, h]

theorem change_without_draft {settings : Settings} {new : AddRelyingParty} {e : ReconcileError}
    (h : Reconciler.draft settings new = .error e) (X : Contents) :
    X.change settings (.addRelyingParty new) = X := by
  simp only [change, h]

theorem hide_change (X : Contents) (c : Command) (o : Set Subject) :
    (X.change settings c).hide o = ((X.hide o).change settings c).hide o := by
  cases c with
  | addRelyingParty new =>
    cases hd : Reconciler.draft settings new with
    | error e =>
      rw [change_without_draft hd, change_without_draft hd]
      exact (X.hide_self o).symm
    | ok d =>
      rw [change_addRelyingParty hd, change_addRelyingParty hd]
      exact X.hide_addMatching d.toProfile d.keys new.patterns o
  | removeRelyingParty name withRuleGroups => exact (X.hide_self o).symm
  | addRuleGroup name =>
    cases name with
    | none => exact (X.hide_self o).symm
    | some g => exact X.hide_addRuleGroup g o
  | addRule ruleGroup rule =>
    cases ruleGroup with
    | none => exact (X.hide_self o).symm
    | some g => exact X.hide_addRule g rule.body o
  | removeRuleGroup name => exact (X.hide_self o).symm

/-- what a command leaves visible depends on what it finds visible and does not clear -/
theorem hide_next (X : Contents) (c : Command) (o : Set Subject) :
    (X.next settings c).hide o = ((X.hide (o ∪ c.clears X)).change settings c).hide o := by
  unfold next
  rw [hide_change, hide_hide, Set.union_comm]

/-- a hidden resource can be added and changed unseen -/
theorem hide_change_eq {X : Contents} {c : Command} {o : Set Subject}
    (hsubject : ∀ x, c.subject? = some x → x ∈ o)
    (hextended : ∀ g, c.extended? = some g → .ruleGroup g ∈ o) :
    (X.change settings c).hide o = X.hide o := by
  cases c with
  | addRelyingParty new =>
    cases hd : Reconciler.draft settings new with
    | error e => rw [change_without_draft hd]
    | ok d =>
      rw [change_addRelyingParty hd]
      have hname : .relyingParty d.name ∈ o := hsubject _ (by
        show new.name.map Subject.relyingParty = _
        rw [(draft_eq_ok hd).1]
        rfl)
      show (⟨_, ((X.relyingParties ++ [_]).filter _).map _⟩ : Contents) = _
      rw [List.filter_append, List.filter_cons_of_neg (by simpa using hname), List.filter_nil,
        List.append_nil]
      rfl
  | removeRelyingParty name withRuleGroups => rfl
  | addRuleGroup name =>
    cases name with
    | none => rfl
    | some g =>
      have hname : .ruleGroup g ∈ o := hsubject _ rfl
      show (⟨(X.ruleGroups ++ [_]).filter _, _⟩ : Contents) = _
      rw [List.filter_append, List.filter_cons_of_neg (by simpa using hname), List.filter_nil,
        List.append_nil]
      rfl
  | addRule ruleGroup rule =>
    cases ruleGroup with
    | none => rfl
    | some g =>
      have hname : .ruleGroup g ∈ o := hextended _ rfl
      let f (h : RuleGroup.Content) : RuleGroup.Content :=
        if h.name = g then { h with rules := h.rules ++ [rule.body] } else h
      have hf (h : RuleGroup.Content) : (f h).name = h.name := by
        unfold f
        split <;> rfl
      have hid : (X.ruleGroups.filter fun h => .ruleGroup h.name ∉ o).map f
          = (X.ruleGroups.filter fun h => .ruleGroup h.name ∉ o).map id := by
        refine List.map_congr_left fun h hm => if_neg fun heq => ?_
        refine of_decide_eq_true (List.mem_filter.mp hm).2 ?_
        rw [heq]
        exact hname
      show (⟨(X.ruleGroups.map f).filter _, _⟩ : Contents) = ⟨X.ruleGroups.filter _, _⟩
      rw [List.filter_map]
      simp only [Function.comp_def, hf]
      rw [hid, List.map_id]
      rfl
  | removeRuleGroup name => rfl

/-! ## commands that take no rule groups -/

theorem clears_eq {c : Command} (hc : c.takesRuleGroups = false) (X : Contents) :
    c.clears X = {x | c.subject? = some x} := by
  ext x
  constructor
  · rintro (h | ⟨g, ⟨ht, -⟩, -⟩)
    · exact h
    · rw [hc] at ht
      cases ht
  · exact fun h => .inl h

theorem clears_addRule (ruleGroup : Option String) (rule : Rule.Declaration) (X : Contents) :
    (Command.addRule ruleGroup rule).clears X = ∅ := by
  rw [clears_eq rfl]
  ext x
  simp [Command.subject?]

/-- a command keeps what it does not name -/
theorem hide_next_eq {X : Contents} {c : Command} {o : Set Subject}
    (hc : c.takesRuleGroups = false) (hsubject : ∀ x, c.subject? = some x → x ∈ o)
    (hextended : ∀ g, c.extended? = some g → .ruleGroup g ∈ o) :
    (X.next settings c).hide o = X.hide o := by
  have ho : o ∪ {x | c.subject? = some x} = o := Set.union_eq_self_of_subset_right hsubject
  rw [hide_next, clears_eq hc, ho, hide_change_eq settings hsubject hextended, hide_self]

/-- what the command replaces need not be the same before -/
theorem next_congr {X Y : Contents} {c : Command} {o : Set Subject}
    (hc : c.takesRuleGroups = false) (h : X.hide o = Y.hide o) :
    (X.next settings c).hide (o \ {x | c.subject? = some x})
      = (Y.next settings c).hide (o \ {x | c.subject? = some x}) := by
  have ho : o ⊆ o \ {x | c.subject? = some x} ∪ {x | c.subject? = some x} := by
    rw [Set.sdiff_union_self]
    exact Set.subset_union_left
  rw [hide_next, hide_next, clears_eq hc, clears_eq hc, hide_eq_of_subset h ho]

theorem after_cons (X : Contents) (c : Command) (cs : List Command) :
    X.after settings (c :: cs) = (X.next settings c).after settings cs := rfl

theorem after_append (X : Contents) (as bs : List Command) :
    X.after settings (as ++ bs) = (X.after settings as).after settings bs :=
  List.foldl_append

/-- commands keep what none of them names -/
theorem hide_after {X : Contents} {cs : List Command} {o : Set Subject}
    (hc : Command.Confined cs o) : (X.after settings cs).hide o = X.hide o := by
  induction cs generalizing X with
  | nil => rfl
  | cons c cs ih =>
    rw [after_cons, ih hc.tail]
    exact hide_next_eq settings (hc.keeps c List.mem_cons_self) hc.subject
      (hc.extended c List.mem_cons_self)

/-- contents that agree outside what is replaced agree altogether afterwards -/
theorem after_congr {X Y : Contents} {cs : List Command} {o : Set Subject}
    (hc : ∀ c ∈ cs, c.takesRuleGroups = false) (h : X.hide o = Y.hide o) :
    (X.after settings cs).hide (o \ Command.subjects cs)
      = (Y.after settings cs).hide (o \ Command.subjects cs) := by
  induction cs generalizing X Y o with
  | nil =>
    rw [Command.subjects_nil, Set.sdiff_empty]
    exact h
  | cons c cs ih =>
    rw [Command.subjects_cons, ← Set.sdiff_sdiff]
    exact ih (fun c' hm => hc c' (List.mem_cons_of_mem _ hm))
      (next_congr settings (hc c List.mem_cons_self) h)

/-! ## readiness -/

theorem count_hide (X : Contents) {o : Set Subject} {x : Subject} (hx : x ∉ o) :
    (X.hide o).count x = X.count x := by
  cases x with
  | ruleGroup name =>
    show (X.ruleGroups.filter _).countP _ = X.ruleGroups.countP _
    rw [List.countP_filter]
    refine List.countP_congr fun g _ => ?_
    grind
  | relyingParty name =>
    show ((X.relyingParties.filter _).map _).countP _ = X.relyingParties.countP _
    rw [List.countP_map, List.countP_filter]
    refine List.countP_congr fun p _ => ?_
    show ((decide (p.name = name) && _) = true) ↔ _
    grind

theorem count_congr {X Y : Contents} {o : Set Subject} (h : X.hide o = Y.hide o) {x : Subject}
    (hx : x ∉ o) : X.count x = Y.count x := by
  rw [← count_hide X hx, h, count_hide Y hx]

end Contents

/-- the names that a command clears if it takes no rule groups -/
theorem Contents.clears_singleton {c : Command} {x : Subject} (hc : c.takesRuleGroups = false)
    (hx : c.subject? = some x) (X : Contents) : c.clears X = {x} := by
  rw [Contents.clears_eq hc, hx]
  ext y
  simp [eq_comm]

theorem Command.not_takes {c : Command} (hc : c.takesRuleGroups = false) (X : Contents)
    (g : String) : ¬ c.Takes X g := fun h => by
  have ht := h.1
  rw [hc] at ht
  cases ht

/-- readiness carries over to contents that agree on what the command only looks up -/
theorem Command.Ready.congr {c : Command} {X Y : Contents} {o : Set Subject} (hX : c.Ready X)
    (hc : c.takesRuleGroups = false) (h : X.hide o = Y.hide o)
    (hone : ∀ x ∈ o, Y.count x ≤ 1) (hext : ∀ g, c.extended? = some g → .ruleGroup g ∉ o) :
    c.Ready Y where
  replaced := fun x hx => by
    by_cases ho : x ∈ o
    · exact hone x ho
    · rw [← Contents.count_congr h ho]
      exact hX.replaced x hx
  extended := fun g hg => by
    rw [← Contents.count_congr h (hext g hg)]
    exact hX.extended g hg
  taken := fun g hg => absurd hg (Command.not_takes hc Y g)

end AccessControl
