/-
General categories of characters. `Category` lists the thirty values of the Unicode Standard and
groups them as the standard does; a `Run` gives the categories of a stretch of code points, and
`categoryIn` looks a code point up in a table of runs.
-/

namespace RouteTable.Unicode

/-- The general categories of the Unicode Standard, under their short names. -/
inductive Category
  | Lu | Ll | Lt | Lm | Lo
  | Mn | Mc | Me
  | Nd | Nl | No
  | Pc | Pd | Ps | Pe | Pi | Pf | Po
  | Sm | Sc | Sk | So
  | Zs | Zl | Zp
  | Cc | Cf | Cs | Co | Cn
  deriving DecidableEq, Repr, Inhabited

namespace Category

def isCasedLetter (g : Category) : Bool := g = Lu || g = Ll || g = Lt

def isLetter (g : Category) : Bool := g.isCasedLetter || g = Lm || g = Lo

def isMark (g : Category) : Bool := g = Mn || g = Mc || g = Me

def isNumber (g : Category) : Bool := g = Nd || g = Nl || g = No

def isPunctuation (g : Category) : Bool :=
  g = Pc || g = Pd || g = Ps || g = Pe || g = Pi || g = Pf || g = Po

def isSymbol (g : Category) : Bool := g = Sm || g = Sc || g = Sk || g = So

def isSeparator (g : Category) : Bool := g = Zs || g = Zl || g = Zp

/-- Controls, format characters, surrogates, private use and unassigned code points. -/
def isOther (g : Category) : Bool := g = Cc || g = Cf || g = Cs || g = Co || g = Cn

end Category

/-- A stretch of code points that begins at `start` and ends before the next run of its table.
Code points at an even distance from `start` have the category `even`, the others `odd`: in many
alphabets capital and small letters alternate. -/
structure Run where
  start : Nat
  even : Category
  odd : Category
  deriving DecidableEq, Repr

/-- The category of the code point `n` of this run. -/
def Run.category (r : Run) (n : Nat) : Category :=
  if (n - r.start) % 2 = 0 then r.even else r.odd

/-- The category of `n` by the last run that starts at or before it; `r` is that run so far. -/
def categoryFrom (n : Nat) (r : Run) : List Run → Category
  | [] => r.category n
  | s :: rest => if n < s.start then r.category n else categoryFrom n s rest

/-- The last block of a table that starts at or before `n`. -/
def blockOf (n : Nat) (blocks : List (List Run)) : List Run :=
  ((blocks.takeWhile fun b => b.head?.any (·.start ≤ n)).getLast?).getD []

/-- The category of `n` in a table cut into blocks, which are in order of their starts. A code point
before all of them is unassigned. -/
def categoryIn (n : Nat) (blocks : List (List Run)) : Category :=
  match blockOf n blocks with
  | [] => .Cn
  | r :: rest => categoryFrom n r rest

end RouteTable.Unicode
