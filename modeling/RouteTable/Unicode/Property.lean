/-
Properties of characters: membership in a group of general categories, the binary properties that the
pattern language and the quoting of text ask for, and those that a list of ranges gives. `Property.holds`
decides each one.
-/
import RouteTable.Unicode.Assignment
import RouteTable.Unicode.Ranges

namespace RouteTable.Unicode

/-- A property that a character has or has not. -/
inductive Property
  | any
  | ascii
  | assigned
  | category (g : Category)
  | casedLetter
  | letter
  | mark
  | number
  | punctuation
  | symbol
  | separator
  | other
  | alphabetic
  | whiteSpace
  | joinControl
  | graphemeExtend
  | lowercase
  | uppercase
  | word
  /-- To lie in one of the ranges, which are in ascending order. -/
  | listed (ranges : List (Nat × Nat))
  deriving DecidableEq, Repr

/-- A letter, a letter number, or one of the marks and symbols that act as letters. -/
def isAlphabetic (c : Char) : Bool :=
  let g := categoryOf c
  g.isLetter || g = .Nl || inRanges c.toNat otherAlphabetic

def isAlphanumeric (c : Char) : Bool := isAlphabetic c || (categoryOf c).isNumber

def isWhiteSpace (c : Char) : Bool := inRanges c.toNat whiteSpace

def isJoinControl (c : Char) : Bool := inRanges c.toNat joinControl

/-- The character attaches to the one before it. -/
def isGraphemeExtend (c : Char) : Bool :=
  let g := categoryOf c
  g = .Mn || g = .Me || inRanges c.toNat otherGraphemeExtend

def isLowercase (c : Char) : Bool := categoryOf c = .Ll || inRanges c.toNat otherLowercase

def isUppercase (c : Char) : Bool := categoryOf c = .Lu || inRanges c.toNat otherUppercase

/-- A character of a word: alphabetic, a mark, a decimal digit, a connector such as `_`, or a
join control. Every alphabetic character that is no letter or letter number is a mark or a
circled letter. -/
def isWord (c : Char) : Bool :=
  let g := categoryOf c
  g.isLetter || g.isMark || g = .Nd || g = .Nl || g = .Pc || isJoinControl c ||
    inRanges c.toNat circledLetters

/-- A character that shows on paper, or the space. -/
def isPrintable (c : Char) : Bool :=
  let g := categoryOf c
  c = ' ' || !(g.isOther || g.isSeparator || inRanges c.toNat hangulFillers)

/-- The character `c` has the property `p`. -/
def Property.holds (p : Property) (c : Char) : Bool :=
  match p with
  | any => true
  | ascii => c.toNat < 128
  | assigned => categoryOf c != .Cn
  | category g => categoryOf c = g
  | casedLetter => (categoryOf c).isCasedLetter
  | letter => (categoryOf c).isLetter
  | mark => (categoryOf c).isMark
  | number => (categoryOf c).isNumber
  | punctuation => (categoryOf c).isPunctuation
  | symbol => (categoryOf c).isSymbol
  | separator => (categoryOf c).isSeparator
  | other => (categoryOf c).isOther
  | alphabetic => isAlphabetic c
  | whiteSpace => isWhiteSpace c
  | joinControl => isJoinControl c
  | graphemeExtend => isGraphemeExtend c
  | lowercase => isLowercase c
  | uppercase => isUppercase c
  | word => isWord c
  | listed ranges => inRanges c.toNat ranges

/-- How many ranges of characters the property takes, about, when it is written out. -/
def Property.pieces : Property → Nat
  | any | ascii => 1
  | joinControl => 1
  | whiteSpace => 10
  | listed ranges => ranges.length
  | category .Nd => 72
  | word => 780
  | _ => 600

end RouteTable.Unicode
