/-
Searching a text. A set of positions of the text is kept as the binary digits of one number: digit
`i` stands for the position before the `i`-th character. A `Plan` is a pattern made ready for one
text, in which every condition has become the set of the positions where it holds; `Plan.run` takes
the positions where a match may begin to those where it may end.

A repetition without an upper bound is run until no new position turns up, which takes at most one
round per position.
-/
import RouteTable.Pattern.Node

namespace RouteTable.Pattern

open Unicode

/-! ## Conditions -/

/-- Whether a character exists and belongs to a word. -/
def wordAt (unicode : Bool) : Option Char → Bool
  | none => false
  | some c => (Shorthand.word.toSet unicode).contains c

/-- The condition holds between the characters `before` and `after`. -/
def Look.holds (l : Look) (before after : Option Char) : Bool :=
  match l with
  | textStart => before.isNone
  | textEnd => after.isNone
  | lineStart false => before.isNone || before == some '\n'
  | lineEnd false => after.isNone || after == some '\n'
  | lineStart true =>
    before.isNone || before == some '\n' || (before == some '\r' && after != some '\n')
  | lineEnd true =>
    after.isNone || after == some '\r' || (after == some '\n' && before != some '\r')
  | wordBoundary u => wordAt u before != wordAt u after
  | notWordBoundary u => wordAt u before == wordAt u after
  | wordStart u => !wordAt u before && wordAt u after
  | wordEnd u => wordAt u before && !wordAt u after
  | wordStartHalf u => !wordAt u before
  | wordEndHalf u => !wordAt u after

/-! ## Sets of positions -/

/-- The positions before a character of `s`. -/
def charPositions (s : CharSet) : List Char → Nat
  | [] => 0
  | c :: cs => 2 * charPositions s cs + (if s.contains c then 1 else 0)

/-- The positions where `l` holds in a text that follows the character `before`. -/
def lookPositions (l : Look) (before : Option Char) : List Char → Nat
  | [] => if l.holds before none then 1 else 0
  | c :: cs =>
    2 * lookPositions l (some c) cs + (if l.holds before (some c) then 1 else 0)

/-- All positions of a text. -/
def allPositions : List Char → Nat
  | [] => 1
  | _ :: cs => 2 * allPositions cs + 1

/-! ## Plans -/

/-- A pattern made ready for one text. -/
inductive Plan
  | stay
  /-- Keep the positions of a set. -/
  | keep (positions : Nat)
  /-- Pass over the next character at the positions of a set. -/
  | pass (positions : Nat)
  | cat (first rest : Plan)
  | alt (first rest : Plan)
  | repeated (body : Plan) (least : Nat) (more : Option Nat)
  deriving DecidableEq, Repr

/-- The plan of a pattern for a text. The copies of a repetition are split into those that there
have to be and those that there may be beyond. -/
def Node.plan (text : List Char) : Node → Plan
  | .empty => .stay
  | .set s => .pass (charPositions s text)
  | .look l => .keep (lookPositions l none text)
  | .cat m n => .cat (m.plan text) (n.plan text)
  | .alt m n => .alt (m.plan text) (n.plan text)
  | .repeated body least most => .repeated (body.plan text) least (most.map (· - least))
  | .capture body => body.plan text

/-- Applies `f` as often as `k` says, or until it changes nothing. -/
def iterate (f : Nat → Nat) : Nat → Nat → Nat
  | 0, s => s
  | k + 1, s =>
    let t := f s
    if t = s then s else iterate f k t

/-- The positions reached by at most `k` applications of `f`. -/
def reach (f : Nat → Nat) (k s : Nat) : Nat := iterate (fun s => s ||| f s) k s

/-- The positions where a match may end that begins at a position of `s`, in a text of `n`
characters. -/
def Plan.run (n : Nat) (p : Plan) (s : Nat) : Nat :=
  match p with
  | stay => s
  | keep positions => s &&& positions
  | pass positions => (s &&& positions) <<< 1
  | cat first rest => rest.run n (first.run n s)
  | alt first rest => first.run n s ||| rest.run n s
  | repeated body least more =>
    reach (body.run n) (more.getD (n + 1)) (iterate (body.run n) least s)

/-- Some stretch of the text matches the pattern. -/
def Node.search (node : Node) (text : List Char) : Bool :=
  (node.plan text).run text.length (allPositions text) != 0

end RouteTable.Pattern
