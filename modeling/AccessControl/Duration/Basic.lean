/-!
# Durations

A span of time in nanoseconds.  The whole seconds fit in 64 bits, and the rest is less than one second.
-/

namespace AccessControl

structure Duration where
  seconds : UInt64
  /-- beyond the whole seconds -/
  nanoseconds : Fin 1000000000 := 0
  deriving DecidableEq

namespace Duration

def zero : Duration := ⟨0, 0⟩

def ofSeconds (n : UInt64) : Duration := ⟨n, 0⟩

/-- there is none if the whole seconds do not fit -/
def ofParts? (seconds nanoseconds : Nat) : Option Duration :=
  let whole := seconds + nanoseconds / 1000000000
  if whole < UInt64.size then
    some ⟨UInt64.ofNat whole, ⟨nanoseconds % 1000000000, Nat.mod_lt _ (by decide)⟩⟩
  else none

end Duration
end AccessControl
