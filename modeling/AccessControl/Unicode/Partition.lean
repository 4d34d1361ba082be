import AccessControl.Unicode.CharSet

/-!
# Partitions of the code points

Many properties give each code point one value.  Such a property is written as consecutive runs from
U+0000 on, each with its value and its length: `Cc:32 Zs:1 Po:3`.
-/

namespace AccessControl

/-- consecutive runs of code points with a value each -/
structure Partition where
  runs : List (String × Nat × Nat)

namespace Partition

/-- one run: its value and its length -/
def run? (token : String) : Option (String × Nat) :=
  let cs := token.toList
  match cs.dropWhile (· ≠ ':') with
  | _ :: digits => some (String.ofList (cs.takeWhile (· ≠ ':')), Digits.value digits)
  | [] => none

/-- puts runs one after the other -/
def place (next : Nat) : List (String × Nat) → List (String × Nat × Nat)
  | [] => []
  | (value, length) :: rest => (value, next, next + length - 1) :: place (next + length) rest

def ofLines (lines : List String) : Partition :=
  ⟨place 0 (lines.flatMap fun line => (line.splitOn " ").filterMap run?)⟩

/-- the code points whose value satisfies a condition -/
def select (p : Partition) (condition : String → Bool) : CharSet :=
  CharSet.ofSorted ((p.runs.filter (condition ·.1)).map (·.2))

end Partition
end AccessControl
