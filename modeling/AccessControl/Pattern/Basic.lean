import AccessControl.Pattern.Meaning
import AccessControl.Pattern.Reading.Tree
import AccessControl.Pattern.Weight

/-!
# Patterns

A pattern is a regular expression that is searched for in names: `Pattern.isFoundIn` says whether it
matches a part of a name, which may be empty.
-/

namespace AccessControl

/-- a pattern with its text -/
structure Pattern where
  text : String
  node : Pattern.Node

namespace Pattern

/-- the pattern of a text, if it is well formed, its classes exist and it is not too heavy -/
def ofText? (text : String) : Option Pattern := do
  let tree ← Tree.ofText? text.toList
  let (node, _) ← tree.node? {}
  if weightLimit < node.weight then none
  return ⟨text, node⟩

def isFoundIn (p : Pattern) (name : String) : Bool := p.node.isFoundIn name.toList.toArray

end Pattern
end AccessControl
