/-
What compiling and publishing report: events with a level, a message and named fields, in the order
in which they happen. `Traced α` is a result together with the events on the way to it.
-/
import RouteTable.CompileError

namespace RouteTable

/-- Something worth reporting. -/
inductive Event
  /-- A constraint begins or ends with an anchor, which refers to the whole path. -/
  | anchored (parameter pattern : String)
  | compiled (verb path matcher : String)
  /-- A descriptor was left out of a collection. -/
  | skipped (verb : String) (error : CompileError)
  | published (count : Nat)
  | invalidated
  deriving DecidableEq, Repr

/-- How much attention an event deserves. -/
inductive Event.Level
  | trace
  | debug
  | warn
  deriving DecidableEq, Repr

/-- The value of an event's field. -/
inductive Event.Value
  | text (s : String)
  | number (n : Nat)
  deriving DecidableEq, Repr

namespace Event

def level : Event → Level
  | anchored .. | skipped .. => .warn
  | compiled .. => .trace
  | published .. | invalidated => .debug

def message : Event → String
  | anchored .. => "constraint anchors apply to the whole path, not the parameter"
  | compiled .. => "compiled route"
  | skipped .. => "skipping route"
  | published .. => "published route collection"
  | invalidated => "invalidated route collection"

def fields : Event → List (String × Value)
  | anchored parameter pattern => [("parameter", .text parameter), ("pattern", .text pattern)]
  | compiled verb path matcher =>
    [("verb", .text verb), ("path", .text path), ("matcher", .text matcher)]
  | skipped verb error => [("verb", .text verb), ("error", .text error.message)]
  | published count => [("count", .number count)]
  | invalidated => []

end Event

/-- A result and the events on the way to it. -/
structure Traced (α : Type) where
  value : α
  events : List Event := []
  deriving DecidableEq, Repr

/-- Goes on from a result with what comes next; an error ends it. -/
def Traced.andThen {ε α β : Type} (t : Traced (Except ε α)) (next : α → Traced (Except ε β)) :
    Traced (Except ε β) :=
  match t with
  | ⟨.error e, events⟩ => ⟨.error e, events⟩
  | ⟨.ok a, events⟩ => ⟨(next a).value, events ++ (next a).events⟩

end RouteTable
