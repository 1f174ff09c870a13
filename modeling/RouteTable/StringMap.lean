/-
A small map with string keys, kept in two arrays: the keys in ascending order of their UTF-8 bytes, and
the values in the order of their keys. Nothing but the operations keeps the two in step. A key is found by
halving the stretch of keys that can hold it; `Place` tells where it stands or where it belongs.
-/

namespace RouteTable

/-- The order of two strings by their UTF-8 bytes. -/
def compareBytes (a b : String) : Ordering :=
  compare a.toByteArray.data.toList b.toByteArray.data.toList

/-- A map from strings to `α`. -/
structure StringMap (α : Type) where
  keys : Array String
  /-- The value at an index is that of the key at this index. -/
  values : Array α
  deriving DecidableEq, Repr

namespace StringMap

variable {α : Type}

/-- The result of a search: the index of the key, or the index at which it would be inserted. -/
inductive Place
  | occupied (index : Nat)
  | vacant (index : Nat)
  deriving DecidableEq, Repr

/-- The map without entries. -/
def empty : StringMap α := ⟨#[], #[]⟩

instance : EmptyCollection (StringMap α) := ⟨empty⟩

instance : Inhabited (StringMap α) := ⟨empty⟩

def size (m : StringMap α) : Nat := m.keys.size

def isEmpty (m : StringMap α) : Bool := m.keys.isEmpty

/-- The keys with their values, in order of the keys. -/
def toList (m : StringMap α) : List (String × α) := m.keys.toList.zip m.values.toList

/-- Searches `keys` for `key` between the indices `lo` and `hi`. -/
def placeBetween (keys : Array String) (key : String) (lo hi : Nat) (hhi : hi ≤ keys.size) : Place :=
  if hlt : lo < hi then
    let mid := lo + (hi - lo) / 2
    match compareBytes keys[mid] key with
    | .lt => placeBetween keys key (mid + 1) hi hhi
    | .eq => .occupied mid
    | .gt => placeBetween keys key lo mid (by omega)
  else .vacant lo
termination_by hi - lo

/-- Where `key` stands among the keys, or where it belongs. -/
def place (m : StringMap α) (key : String) : Place :=
  placeBetween m.keys key 0 m.keys.size (Nat.le_refl _)

/-- The value stored under `key`. -/
def get? (m : StringMap α) (key : String) : Option α :=
  match m.place key with
  | .occupied i => m.values[i]?
  | .vacant _ => none

/-- Stores `value` under `key`; also gives the value that was stored there before. -/
def exchange (m : StringMap α) (key : String) (value : α) : Option α × StringMap α :=
  match m.place key with
  | .occupied i => (m.values[i]?, { m with values := m.values.setIfInBounds i value })
  | .vacant i =>
    let m := { m with values := m.values.insertIdxIfInBounds i value }
    (none, { m with keys := m.keys.insertIdxIfInBounds i key })

/-- Stores `value` under `key`. -/
def insert (m : StringMap α) (key : String) (value : α) : StringMap α := (m.exchange key value).2

/-- Stores the pairs in order, so that the last pair of a key wins. -/
def insertMany (m : StringMap α) (pairs : List (String × α)) : StringMap α :=
  pairs.foldl (fun m p => m.insert p.1 p.2) m

end StringMap
end RouteTable
