/-
An estimate of the memory that a matcher for a pattern takes; patterns for which it is beyond `sizeLimit` are
refused. A repetition takes the room of as many copies as it counts, so nested counts multiply. This, which is
what brings a short pattern to the limit, is counted exactly. The room for one set of characters depends on how
an engine shares the states of its matcher, and is estimated from the number of ranges in the set; so close to the
limit an engine may decide otherwise.
-/
import RouteTable.Pattern.Node

namespace RouteTable.Pattern

/-- A matcher may take up to ten megabytes. -/
def sizeLimit : Nat := 10 * 1024 * 1024

/-- The bytes that one state of a matcher is reckoned to take. -/
def stateSize : Nat := 32

namespace CharSet

/-- The bytes that a set is reckoned to take. A character beyond ASCII takes a state for each of its bytes, and
a large set shares states among its ranges; a set within ASCII is one state. -/
def size : CharSet → Nat
  | range a b =>
    if a = b then stateSize * a.utf8Size
    else if b.toNat < 128 then stateSize + 8 else stateSize * 10 + 26
  | s => if s.isAscii then stateSize + 8 * s.pieces else stateSize * 10 + 26 * s.pieces

end CharSet

namespace Node

/-- The pattern matches no text but the empty one. -/
def onlyEmpty : Node → Bool
  | empty | look _ => true
  | set _ => false
  | cat m n => m.onlyEmpty && n.onlyEmpty
  | alt m n => m.onlyEmpty && n.onlyEmpty
  | repeated body _ most => body.onlyEmpty || most = some 0
  | capture body => body.onlyEmpty

/-- The size of a repetition of a part that is reckoned to take `body` bytes. -/
def copiesSize (body least : Nat) : Option Nat → Nat
  | some most => if most = 0 then stateSize else most * body + (most - least) * stateSize
  | none => max least 1 * body + stateSize

/-- The bytes that a matcher is reckoned to take. Copies of a part that spends no characters are made once. -/
def size : Node → Nat
  | empty | look _ => stateSize
  | set s => s.size
  | cat m n => m.size + n.size
  | alt m n => m.size + n.size + stateSize
  | repeated body least most =>
    if body.onlyEmpty then
      copiesSize body.size (min least 1) (some (min (most.getD 1) 1))
    else copiesSize body.size least most
  | capture body => body.size + 2 * stateSize

end Node
end RouteTable.Pattern
