/-
Compiled routes. A route carries the text of its matcher and the program made from it; two routes
are equal when all but their programs agree.
-/
import RouteTable.Metadata
import RouteTable.Pattern

namespace RouteTable

/-- A route that is ready to be matched. -/
structure Route where
  /-- The template as it is displayed, for instance `/labels/:id/edit`. -/
  path : String
  /-- The parameters in template order. -/
  parameters : List String
  verb : String
  metadata : Metadata
  /-- The anchored pattern that decides which paths the route accepts. -/
  matcherSource : String
  program : Pattern.Node
  deriving Repr

namespace Route

instance : BEq Route where
  beq r s := r.path == s.path && r.verb == s.verb && r.parameters == s.parameters &&
    r.metadata == s.metadata && r.matcherSource == s.matcherSource

def controller? (r : Route) : Option String := r.metadata.get? "controller"

def action? (r : Route) : Option String := r.metadata.get? "action"

/-- The verb and the path, as in the first line of a request. -/
def requestLine (r : Route) : String := r.verb ++ " " ++ r.path

/-- The route accepts the whole of `path`. -/
def matchesPath (r : Route) (path : String) : Bool := r.program.search path.toList

end Route
end RouteTable
