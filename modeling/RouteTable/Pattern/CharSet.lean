/-
Sets of characters as they arise from a pattern: ranges, properties, their Boolean combinations and
their closure under case. `CharSet.contains` decides membership; `CharSet.pieces` estimates how many
ranges would write the set out.
-/
import RouteTable.Pattern.Expr
import RouteTable.Unicode.Folding
import RouteTable.Unicode.Property

namespace RouteTable.Pattern

open Unicode

/-- A set of characters. -/
inductive CharSet
  | empty
  | range (first last : Char)
  | property (p : Property)
  | compl (s : CharSet)
  | union (s t : CharSet)
  | inter (s t : CharSet)
  | diff (s t : CharSet)
  | symmDiff (s t : CharSet)
  /-- With a character, all its case variants. -/
  | folded (s : CharSet)
  /-- With an ASCII letter, the letter in the other case. -/
  | asciiFolded (s : CharSet)
  deriving DecidableEq, Repr

/-- The ASCII letter in the other case; any other character stays. -/
def swapAsciiCase (c : Char) : Char := if c.isUpper then c.toLower else c.toUpper

namespace CharSet

def single (c : Char) : CharSet := .range c c

/-- Whether `c` is in the set. -/
def contains (s : CharSet) (c : Char) : Bool :=
  match s with
  | empty => false
  | range first last => first ≤ c && c ≤ last
  | property p => p.holds c
  | compl s => !s.contains c
  | union s t => s.contains c || t.contains c
  | inter s t => s.contains c && t.contains c
  | diff s t => s.contains c && !t.contains c
  | symmDiff s t => s.contains c != t.contains c
  | folded s => (variants c).any fun d => s.contains d
  | asciiFolded s => s.contains c || s.contains (swapAsciiCase c)

/-- The set, or its complement. -/
def negateIf (negated : Bool) (s : CharSet) : CharSet := if negated then .compl s else s

/-- The union of ranges, given by their ends. -/
def ofRanges : List (Char × Char) → CharSet
  | [] => .empty
  | [r] => .range r.1 r.2
  | r :: rs => .union (.range r.1 r.2) (ofRanges rs)

/-- No character from U+0080 to U+00FF is in the set. -/
def avoidsUpperBytes (s : CharSet) : Bool :=
  (List.range 128).all fun i => !s.contains (Char.ofNat (128 + i))

/-- By its form, the set holds no character from U+0080 on. -/
def isAscii : CharSet → Bool
  | empty => true
  | range _ last => last.toNat < 128
  | property p => p = .ascii
  | union s t => s.isAscii && t.isAscii
  | inter s t => s.isAscii || t.isAscii
  | diff s _ => s.isAscii
  | symmDiff s t => s.isAscii && t.isAscii
  | compl _ | folded _ => false
  | asciiFolded s => s.isAscii

/-- How many ranges of characters it takes, about, to write the set out. -/
def pieces : CharSet → Nat
  | empty => 0
  | range .. => 1
  | property p => p.pieces
  | compl s => s.pieces + 1
  | union s t => s.pieces + t.pieces
  | inter s t => max s.pieces t.pieces
  | diff s t => s.pieces + t.pieces
  | symmDiff s t => s.pieces + t.pieces
  | folded s => 2 * s.pieces
  | asciiFolded s => 2 * s.pieces

end CharSet

/-! ## Named classes -/

/-- The ranges of a class that has a name between colons. -/
def AsciiClass.ranges : AsciiClass → List (Char × Char)
  | alnum => [('0', '9'), ('A', 'Z'), ('a', 'z')]
  | alpha => [('A', 'Z'), ('a', 'z')]
  | ascii => [('\x00', '\x7f')]
  | blank => [('\t', '\t'), (' ', ' ')]
  | cntrl => [('\x00', '\x1f'), ('\x7f', '\x7f')]
  | digit => [('0', '9')]
  | graph => [('!', '~')]
  | lower => [('a', 'z')]
  | print => [(' ', '~')]
  | punct => [('!', '/'), (':', '@'), ('[', '\x60'), ('\x7b', '~')]
  | space => [('\t', '\r'), (' ', ' ')]
  | upper => [('A', 'Z')]
  | word => [('0', '9'), ('A', 'Z'), ('_', '_'), ('a', 'z')]
  | xdigit => [('0', '9'), ('A', 'F'), ('a', 'f')]

/-- The set of a class that has a letter escape, over all characters or over ASCII alone. -/
def Shorthand.toSet (kind : Shorthand) (unicode : Bool) : CharSet :=
  match kind, unicode with
  | digit, true => .property (.category .Nd)
  | space, true => .property .whiteSpace
  | word, true => .property .word
  | digit, false => .ofRanges AsciiClass.digit.ranges
  | space, false => .ofRanges AsciiClass.space.ranges
  | word, false => .ofRanges AsciiClass.word.ranges

end RouteTable.Pattern
