/-
Static requirements attached to a route: its controller, its action and any fixed parameter values.
Pairs are listed in the byte order of their keys, whatever order they were stored in.
-/
import RouteTable.StringMap

namespace RouteTable

/-- Requirements by key. -/
structure Metadata where
  map : StringMap String
  deriving DecidableEq, Repr

namespace Metadata

/-- No requirements. -/
def empty : Metadata := ⟨∅⟩

instance : EmptyCollection Metadata := ⟨empty⟩

instance : Inhabited Metadata := ⟨empty⟩

def get? (m : Metadata) (key : String) : Option String := m.map.get? key

def insert (m : Metadata) (key value : String) : Metadata := ⟨m.map.insert key value⟩

def size (m : Metadata) : Nat := m.map.size

def isEmpty (m : Metadata) : Bool := m.map.isEmpty

/-- The pairs in order of their keys. -/
def toList (m : Metadata) : List (String × String) := m.map.toList

/-- The last pair of a key wins. -/
def ofList (pairs : List (String × String)) : Metadata := ⟨(∅ : StringMap String).insertMany pairs⟩

/-- Every pair of `criteria` is stored here; values are compared as exact strings. -/
def containsAll (m : Metadata) (criteria : List (String × String)) : Bool :=
  criteria.all fun p => m.get? p.1 == some p.2

end Metadata
end RouteTable
