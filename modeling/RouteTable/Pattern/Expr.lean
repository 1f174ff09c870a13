/-
The pattern language as syntax. `Expr` is a pattern as it is written, before its flags are taken
into account; `ClassExpr` is what stands between the brackets of a character class. `Expr.nesting`
measures how deeply constructs are nested, which the language limits.
-/

namespace RouteTable.Pattern

/-- Why a pattern is refused. -/
inductive Fault
  /-- The text is no pattern of the language. -/
  | malformed
  /-- The pattern would need more memory than a matcher may have. -/
  | tooLarge
  deriving DecidableEq, Repr

/-- The switches of the language, written as one letter each. -/
inductive Flag
  | caseInsensitive
  | multiLine
  | dotMatchesNewline
  | swapGreed
  | unicode
  | crlf
  | verbose
  deriving DecidableEq, Repr

/-- Flags in the order they are written, each turned on or off. -/
abbrev FlagSettings := List (Flag × Bool)

/-- What the settings say about one flag: the last mention counts. -/
def FlagSettings.state? (settings : FlagSettings) (flag : Flag) : Option Bool :=
  settings.foldl (fun found p => if p.1 = flag then some p.2 else found) none

/-- A condition on a position, which no character is spent on. -/
inductive Assertion
  | lineStart
  | lineEnd
  | textStart
  | textEnd
  | wordBoundary
  | notWordBoundary
  | wordStart
  | wordEnd
  | wordStartHalf
  | wordEndHalf
  deriving DecidableEq, Repr

/-- A single character of a pattern. -/
structure Literal where
  char : Char
  /-- Written as `\x` and two hexadecimal digits, so that without Unicode it names a byte. -/
  hexPair : Bool := false
  deriving DecidableEq, Repr

/-- The classes that have a letter escape. -/
inductive Shorthand
  | digit
  | space
  | word
  deriving DecidableEq, Repr

/-- The classes that have a name between colons. -/
inductive AsciiClass
  | alnum
  | alpha
  | ascii
  | blank
  | cntrl
  | digit
  | graph
  | lower
  | print
  | punct
  | space
  | upper
  | word
  | xdigit
  deriving DecidableEq, Repr

/-- A character property by name, or by the name of a property and one of its values. -/
inductive PropertyName
  | single (name : String)
  | valued (name value : String)
  deriving DecidableEq, Repr

/-- The operators between two sets of characters, all of one rank. -/
inductive SetOp
  | intersection
  | difference
  | symmetricDifference
  deriving DecidableEq, Repr

/-- A set of characters as it is written between brackets. -/
inductive ClassExpr
  | empty
  | literal (l : Literal)
  | range (first last : Literal)
  | shorthand (kind : Shorthand) (negated : Bool)
  | ascii (kind : AsciiClass) (negated : Bool)
  | property (name : PropertyName) (negated : Bool)
  | nested (negated : Bool) (body : ClassExpr)
  | union (first rest : ClassExpr)
  | op (kind : SetOp) (left right : ClassExpr)
  deriving DecidableEq, Repr

/-- A pattern as it is written. A repetition does not record whether it prefers few or many copies:
that decides where a match ends, never whether there is one. -/
inductive Expr
  | empty
  /-- Flags that hold from here to the end of the enclosing group. -/
  | flags (settings : FlagSettings)
  | literal (l : Literal)
  | dot
  | assertion (a : Assertion)
  | shorthand (kind : Shorthand) (negated : Bool)
  | property (name : PropertyName) (negated : Bool)
  | bracketed (negated : Bool) (body : ClassExpr)
  | repeated (body : Expr) (least : Nat) (most : Option Nat)
  | group (capturing : Bool) (settings : FlagSettings) (body : Expr)
  | cat (first rest : Expr)
  | alt (first rest : Expr)
  deriving DecidableEq, Repr

namespace ClassExpr

/-- The union of the items of a class. -/
def ofItems : List ClassExpr → ClassExpr
  | [] => .empty
  | [e] => e
  | e :: es => .union e (ofItems es)

/-- How deeply constructs are nested in a set. The members of one union count as one level. -/
def nesting : ClassExpr → Nat
  | nested _ body => body.nesting + 1
  | union first rest =>
    max (first.nesting + 1)
      (match rest with
        | .union .. => rest.nesting
        | _ => rest.nesting + 1)
  | op _ left right => max left.nesting right.nesting + 1
  | _ => 0

end ClassExpr

namespace Expr

/-- The items one after the other. -/
def ofItems : List Expr → Expr
  | [] => .empty
  | [e] => e
  | e :: es => .cat e (ofItems es)

/-- The branches as alternatives. -/
def ofBranches : List Expr → Expr
  | [] => .empty
  | [e] => e
  | e :: es => .alt e (ofBranches es)

/-- How deeply constructs are nested in a pattern. The items of one sequence count as one level,
and so do the branches of one alternation. -/
def nesting : Expr → Nat
  | bracketed _ body => body.nesting + 1
  | repeated body _ _ => body.nesting + 1
  | group _ _ body => body.nesting + 1
  | cat first rest =>
    max (first.nesting + 1)
      (match rest with
        | .cat .. => rest.nesting
        | _ => rest.nesting + 1)
  | alt first rest =>
    max (first.nesting + 1)
      (match rest with
        | .alt .. => rest.nesting
        | _ => rest.nesting + 1)
  | _ => 0

end Expr
end RouteTable.Pattern
