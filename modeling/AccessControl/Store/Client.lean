import AccessControl.Store.Call

/-!
# Clients of a store

A client asks a backend and stops at the first error.  A `Session` holds the state of the backend and
the diagnostics so far.
-/

namespace AccessControl

structure Session (σ : Type) where
  store : σ
  notes : List Diagnostic := []

abbrev Client (σ : Type) := ExceptT StoreError (StateM (Session σ))

variable {σ : Type}

/-- what the backend makes of one call -/
def Backend.settle (b : Backend σ) (c : Call) (s : Session σ) :
    Except StoreError c.Answer × Session σ :=
  match b.answer c s.store with
  | (.ok answer, next) => (.ok answer, ⟨next, s.notes ++ b.notes c answer⟩)
  | (.error e, next) => (.error e, ⟨next, s.notes⟩)

def Backend.ask (b : Backend σ) (c : Call) : Client σ c.Answer := b.settle c

end AccessControl
