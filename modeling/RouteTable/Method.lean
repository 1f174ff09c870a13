/-
Request methods. A method is a token; a route's verb names one method, or several between bars, or
none, which accepts every method.
-/
import RouteTable.Route

namespace RouteTable

/-- A character that may stand in the name of a method. -/
def isMethodChar (c : Char) : Bool :=
  c.isAlphanum || ['!', '*', '+', '-', '.', '^', '_', '\x60', '|', '~'].contains c

/-- The text names a method: it is not empty, and every character may stand in a name. -/
def isMethodName (s : String) : Bool := !s.isEmpty && s.toList.all isMethodChar

/-- A request method. -/
structure Method where
  name : String
  isName : isMethodName name = true
  deriving DecidableEq, Repr

/-- The method with this name. -/
def Method.ofName? (name : String) : Option Method :=
  if h : isMethodName name then some ⟨name, h⟩ else none

/-- The stretches of a text between its bars. -/
def betweenBars : List Char → List (List Char)
  | [] => [[]]
  | c :: cs =>
    if c = '|' then [] :: betweenBars cs
    else match betweenBars cs with
      | s :: rest => (c :: s) :: rest
      | [] => [[c]]

/-- The names in a verb, cut at every bar. -/
def verbNames (verb : String) : List String := (betweenBars verb.toList).map String.ofList

namespace Route

/-- The method of a route whose verb names exactly one. -/
def method? (r : Route) : Option Method :=
  if r.verb.isEmpty || r.verb.toList.contains '|' then none else Method.ofName? r.verb

/-- The route answers requests with this method. -/
def accepts (r : Route) (m : Method) : Bool := r.verb.isEmpty || (verbNames r.verb).contains m.name

end Route
end RouteTable
