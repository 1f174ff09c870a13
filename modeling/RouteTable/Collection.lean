/-
Ordered collections of routes. Where several routes qualify, the one that was added first is the
answer; filtering keeps the order and leaves the receiver as it is.
-/
import RouteTable.Method

namespace RouteTable

/-- Routes in the order in which they were added. -/
structure Collection where
  routes : List Route := []
  deriving Repr

namespace Collection

instance : BEq Collection where
  beq c d := c.routes == d.routes

instance : EmptyCollection Collection := ⟨⟨[]⟩⟩

instance : Inhabited Collection := ⟨⟨[]⟩⟩

/-! ## Routes in order -/

def ofList (routes : List Route) : Collection := ⟨routes⟩

def add (c : Collection) (r : Route) : Collection := ⟨c.routes ++ [r]⟩

def size (c : Collection) : Nat := c.routes.length

def isEmpty (c : Collection) : Bool := c.routes.isEmpty

def get? (c : Collection) (i : Nat) : Option Route := c.routes[i]?

def first? (c : Collection) : Option Route := c.get? 0

def last? (c : Collection) : Option Route := c.routes.getLast?

def map {α : Type} (c : Collection) (f : Route → α) : List α := c.routes.map f

/-- Visits the routes in order, as long as the visitor does not fail. -/
def each {m : Type → Type} [Monad m] (c : Collection) (visit : Route → m Unit) : m Unit :=
  c.routes.forM visit

/-! ## Finding one route -/

/-- The first route that accepts the path. -/
def matchFor? (c : Collection) (path : String) : Option Route :=
  c.routes.find? (·.matchesPath path)

/-- The first route whose metadata contain every pair of `criteria`. -/
def routeFor? (c : Collection) (criteria : List (String × String)) : Option Route :=
  c.routes.find? (·.metadata.containsAll criteria)

/-- The first route that accepts both the method and the path. -/
def find? (c : Collection) (m : Method) (path : String) : Option Route :=
  c.routes.find? fun r => r.accepts m && r.matchesPath path

/-! ## Filtering -/

def select (c : Collection) (p : Route → Bool) : Collection := ⟨c.routes.filter p⟩

/-- The routes that a controller serves. -/
def controller (c : Collection) (name : String) : Collection :=
  c.select (·.controller? == some name)

/-- The routes that accept a method. -/
def verb (c : Collection) (m : Method) : Collection := c.select (·.accepts m)

/-- Removes the routes that the paths resolve to, with every route equal to one of them. Where the
paths resolve to nothing, that is the collection itself. -/
def without (c : Collection) (paths : List String) : Collection :=
  let removed := paths.filterMap c.matchFor?
  if removed.isEmpty then c else c.select fun r => !removed.any (· == r)

end Collection
end RouteTable
