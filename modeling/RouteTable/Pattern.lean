/-
Patterns that are ready to be searched for. `Pattern.compile` reads the text of a pattern, settles
its flags and checks its size; whether the text is well formed is decided before its size matters.
-/
import RouteTable.Pattern.Parser
import RouteTable.Pattern.Search
import RouteTable.Pattern.Size

namespace RouteTable.Pattern

/-- The program that searches for the pattern `source`, or why there is none. -/
def compile [PropertyTable] (source : String) : Except Fault Node := do
  let (node, _) ← (← parse source).toNode {}
  if node.size ≤ sizeLimit then return node else throw .tooLarge

end RouteTable.Pattern
