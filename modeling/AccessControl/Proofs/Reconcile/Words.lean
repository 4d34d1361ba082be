import AccessControl.Command.Basic
import AccessControl.Store.Call
import Mathlib.Computability.RegularExpressions
import Mathlib.Data.List.Chain
import Mathlib.Order.CompletePartialOrder

/-!
# The writes of a command

A command starts with a lookup (`Command.lookup?`), and makes its writes in an order that a regular
expression gives (`Command.protocol`).

Queued changes and their commits are always in order: a commit comes right after a change that was
queued, and between two commits only one kind of change is queued (`Batched`).  Whatever a protocol
matches leaves nothing queued (`settles_protocol`).
-/

namespace AccessControl
open Computability RegularExpression

/-- a call that writes, without what it writes -/
inductive Write where
  | addRelyingParty
  | removeRelyingParty
  | addRuleGroup
  | addRule
  | delete (kind : ResourceKind)
  | link
  | save
  deriving DecidableEq

def Call.write? : Call → Option Write
  | .addRelyingParty _ => some .addRelyingParty
  | .removeRelyingParty _ => some .removeRelyingParty
  | .addRuleGroup _ => some .addRuleGroup
  | .addRule _ => some .addRule
  | .delete kind _ => some (.delete kind)
  | .link _ => some .link
  | .saveChanges => some .save
  | _ => none

namespace Write

/-- the change waits for a commit -/
def isQueued : Write → Bool
  | .delete _ => true
  | .link => true
  | _ => false

/-! ## protocols -/

/-- one or more changes of a kind, and their commit -/
def batch (x : Write) : RegularExpression Write := char x * star (char x) * char .save

def tearDown (withRuleGroups : Bool) : RegularExpression Write :=
  (if withRuleGroups then 1 + batch (.delete .ruleGroup) else 1)
    * (1 + batch (.delete .relyingPartyKey)) * char .removeRelyingParty

/-- the removal of a rule group -/
def dropGroup : RegularExpression Write := char (.delete .ruleGroup) * char .save

end Write

open Write

/-- the call that a command starts with, once everything it needs is there -/
def Command.lookup? : Command → Option Call
  | .addRelyingParty new => new.name.map .findRelyingParties
  | .removeRelyingParty name _ => some (.findRelyingParties name)
  | .addRuleGroup name => name.map .findRuleGroups
  | .addRule ruleGroup _ => ruleGroup.map .findRuleGroups
  | .removeRuleGroup name => some (.findRuleGroups name)

/-- `found` is whether that call found anything -/
def Command.protocol (found : Bool) : Command → RegularExpression Write
  | .addRelyingParty new =>
    (if found then tearDown new.removeRelatedRuleGroups else 1) * char .addRelyingParty
      * (1 + batch .link)
  | .removeRelyingParty _ withRuleGroups => if found then tearDown withRuleGroups else 1
  | .addRuleGroup _ => (if found then dropGroup else 1) * char .addRuleGroup
  | .addRule _ _ => char .addRule
  | .removeRuleGroup _ => if found then dropGroup else 1

/-- keys have to be gone before their relying party -/
example : let words := (Command.removeRelyingParty "portal" false).protocol true
    [.delete .relyingPartyKey, .save, .removeRelyingParty] ∈ words.matches'
      ∧ [.delete .relyingPartyKey, .removeRelyingParty, .save] ∉ words.matches' := by decide

theorem Write.exists_mem_tearDown (withRuleGroups : Bool) :
    ∃ w, w ∈ (tearDown withRuleGroups).matches' := by
  have hgroups : [] ∈ (if withRuleGroups then 1 + batch (.delete .ruleGroup) else 1).matches' := by
    cases withRuleGroups with
    | false => exact rfl
    | true => exact .inl rfl
  exact ⟨_, Language.append_mem_mul (Language.append_mem_mul hgroups (.inl rfl)) rfl⟩

/-- there is a way to comply with every protocol -/
theorem Command.exists_mem_protocol (found : Bool) (c : Command) :
    ∃ w, w ∈ (c.protocol found).matches' := by
  have hold {P : RegularExpression Write} (hP : ∃ w, w ∈ P.matches') :
      ∃ w, w ∈ (if found then P else 1).matches' := by
    cases found with
    | false => exact ⟨[], rfl⟩
    | true => exact hP
  have hdrop : ∃ w, w ∈ dropGroup.matches' := ⟨_, Language.append_mem_mul rfl rfl⟩
  cases c with
  | addRelyingParty new =>
    obtain ⟨w, hw⟩ := hold (exists_mem_tearDown new.removeRelatedRuleGroups)
    exact ⟨_, Language.append_mem_mul (Language.append_mem_mul hw rfl) (.inl rfl)⟩
  | removeRelyingParty name withRuleGroups => exact hold (exists_mem_tearDown withRuleGroups)
  | addRuleGroup name =>
    obtain ⟨w, hw⟩ := hold hdrop
    exact ⟨_, Language.append_mem_mul hw rfl⟩
  | addRule ruleGroup rule => exact ⟨_, rfl⟩
  | removeRuleGroup name => exact hold hdrop

namespace Write

/-! ## batches -/

/-- a batch is of one kind, and there is no commit without it -/
structure MayFollow (x y : Write) : Prop where
  kind : x.isQueued = true → y = x ∨ y = .save
  commit : y = .save → x.isQueued = true

structure Batched (w : List Write) : Prop where
  chain : w.IsChain MayFollow
  start : w.head? ≠ some .save

/-- and nothing is left queued -/
structure Settled (w : List Write) : Prop extends Batched w where
  idle : ∀ x ∈ w.getLast?, x.isQueued = false

theorem Batched.of_append {w w' : List Write} (h : Batched (w ++ w')) : Batched w where
  chain := (List.isChain_append.mp h.chain).1
  start := by
    cases w with
    | nil => exact nofun
    | cons x w => exact h.start

theorem Settled.append_batched {w w' : List Write} (h : Settled w) (h' : Batched w') :
    Batched (w ++ w') where
  chain := by
    refine List.isChain_append.mpr ⟨h.chain, h'.chain, fun x hx y hy => ⟨fun hqueued => ?_, ?_⟩⟩
    · rw [h.idle x hx] at hqueued
      cases hqueued
    · rintro rfl
      exact absurd hy h'.start
  start := by
    cases w with
    | nil => exact h'.start
    | cons x w => exact h.start

theorem Settled.append {w w' : List Write} (h : Settled w) (h' : Settled w') :
    Settled (w ++ w') where
  toBatched := h.append_batched h'.toBatched
  idle := by
    rw [List.getLast?_append]
    intro x hx
    cases hlast : w'.getLast? with
    | none =>
      rw [hlast] at hx
      exact h.idle x hx
    | some y =>
      rw [hlast] at hx
      exact h'.idle x (hlast ▸ hx)

theorem Settled.nil : Settled [] := ⟨⟨.nil, nofun⟩, nofun⟩

theorem Settled.batch {x : Write} (hx : x.isQueued = true) {w : List Write} (hw : ∀ y ∈ w, y = x) :
    Settled (x :: w ++ [.save]) where
  chain := by
    induction w with
    | nil => exact .cons_cons ⟨fun _ => .inr rfl, fun _ => hx⟩ (.singleton _)
    | cons y w ih =>
      obtain ⟨rfl, hw⟩ := List.forall_mem_cons.mp hw
      exact .cons_cons ⟨fun _ => .inl rfl, fun _ => hx⟩ (ih hw)
  start := by
    rintro ⟨⟩
    cases hx
  idle := by
    rw [List.getLast?_concat]
    rintro y ⟨⟩
    rfl

/-- every word leaves nothing queued -/
def Settles (L : Language Write) : Prop := ∀ w ∈ L, Settled w

theorem settles_one : Settles 1 := by
  rintro w rfl
  exact .nil

theorem Settles.add {K L : Language Write} (hK : Settles K) (hL : Settles L) : Settles (K + L) := by
  rintro w (hw | hw)
  · exact hK w hw
  · exact hL w hw

theorem Settles.mul {K L : Language Write} (hK : Settles K) (hL : Settles L) : Settles (K * L) := by
  intro w hw
  obtain ⟨a, ha, b, hb, rfl⟩ := Language.mem_mul.mp hw
  exact (hK a ha).append (hL b hb)

/-- a write that takes effect at once -/
theorem settles_char {x : Write} (hx : x.isQueued = false) (hsave : x ≠ .save) :
    Settles (char x).matches' := by
  rintro w rfl
  refine ⟨⟨.singleton x, ?_⟩, ?_⟩
  · rintro ⟨⟩
    exact hsave rfl
  · rintro y ⟨⟩
    exact hx

theorem eq_of_mem_kstar {x : Write} {w : List Write} (hw : w ∈ ({[x]} : Language Write)∗) :
    ∀ y ∈ w, y = x := by
  obtain ⟨words, rfl, hwords⟩ := Language.mem_kstar.mp hw
  intro y hy
  obtain ⟨word, hword, hy⟩ := List.mem_flatten.mp hy
  have hword : word = [x] := hwords word hword
  rw [hword] at hy
  exact List.mem_singleton.mp hy

theorem settles_batch {x : Write} (hx : x.isQueued = true) : Settles (batch x).matches' := by
  intro w hw
  obtain ⟨a, ha, b, rfl, rfl⟩ := Language.mem_mul.mp hw
  obtain ⟨c, rfl, d, hd, rfl⟩ := Language.mem_mul.mp ha
  exact .batch hx (eq_of_mem_kstar hd)

theorem settles_tearDown (withRuleGroups : Bool) : Settles (tearDown withRuleGroups).matches' := by
  have hgroups : Settles (if withRuleGroups then 1 + batch (.delete .ruleGroup) else 1).matches' := by
    cases withRuleGroups with
    | false => exact settles_one
    | true => exact settles_one.add (settles_batch rfl)
  have hkeys : Settles (1 + batch (.delete .relyingPartyKey)).matches' :=
    settles_one.add (settles_batch rfl)
  exact (hgroups.mul hkeys).mul (settles_char rfl (by decide))

theorem settles_dropGroup : Settles dropGroup.matches' := by
  intro w hw
  obtain ⟨a, rfl, b, rfl, rfl⟩ := Language.mem_mul.mp hw
  exact .batch rfl fun _ h => absurd h List.not_mem_nil

theorem settles_protocol (found : Bool) (c : Command) : Settles (c.protocol found).matches' := by
  have hold {P : RegularExpression Write} (hP : Settles P.matches') :
      Settles (if found then P else 1).matches' := by
    cases found with
    | false => exact settles_one
    | true => exact hP
  cases c with
  | addRelyingParty new =>
    have hold := hold (settles_tearDown new.removeRelatedRuleGroups)
    have hlinks : Settles (1 + batch .link).matches' := settles_one.add (settles_batch rfl)
    exact (hold.mul (settles_char rfl (by decide))).mul hlinks
  | removeRelyingParty name withRuleGroups => exact hold (settles_tearDown _)
  | addRuleGroup name => exact (hold settles_dropGroup).mul (settles_char rfl (by decide))
  | addRule ruleGroup rule => exact settles_char rfl (by decide)
  | removeRuleGroup name => exact hold settles_dropGroup

end Write
end AccessControl
