import AccessControl.Store.Client

/-!
# Listing rule groups page by page

A listing fetches its pages on demand, each with the continuation of the one before.  It ends after a
page without continuation, and after the first error.

* `Listing.pull`          the next rule group, with as many fetches as it takes;
* `Backend.ruleGroups`    all rule groups, or the first error.

A backend bounds the pages of a listing, and no listing goes on beyond that bound.
-/

namespace AccessControl

/-- where a listing goes on -/
inductive Cursor where
  | start
  | after (token : ContinuationToken)
  | done
  deriving DecidableEq

def Cursor.token? : Cursor → Option ContinuationToken
  | .after token => some token
  | _ => none

def Page.next {α : Type} (p : Page α) : Cursor := (p.continuation.map Cursor.after).getD .done

/-- a listing with the rule groups that are fetched and not yet pulled -/
structure Listing where
  cursor : Cursor := .start
  ready : List RuleGroup := []

namespace Backend
variable {σ : Type} (b : Backend σ)

/-- the next rule group or error, with at most `fuel` fetches -/
def pull (b : Backend σ) : Nat → Listing →
    StateM (Session σ) (Option (Except StoreError RuleGroup) × Listing)
  | _, ⟨cursor, g :: rest⟩ => pure (some (.ok g), ⟨cursor, rest⟩)
  | _, ⟨.done, []⟩ => pure (none, ⟨.done, []⟩)
  | 0, ⟨_, []⟩ => pure (none, ⟨.done, []⟩)
  | fuel + 1, ⟨cursor, []⟩ => do
    match ← b.settle (.listRuleGroups cursor.token?) with
    | .error e => return (some (.error e), ⟨.done, []⟩)
    | .ok page => b.pull fuel ⟨page.next, page.items⟩

/-- the rule groups of at most `fuel` pages from a cursor on -/
def pages : Nat → Cursor → Client σ (List RuleGroup)
  | _, .done => pure []
  | 0, _ => pure []
  | fuel + 1, cursor => do
    let page ← b.ask (.listRuleGroups cursor.token?)
    return page.items ++ (← pages fuel page.next)

def ruleGroups : Client σ (List RuleGroup) := do
  let s ← get
  b.pages (b.longestListing s.store) .start

end Backend
end AccessControl
