/-
The meaning of a pattern once its flags are known. A `Node` consists of sets of characters and of
conditions on positions, put together by sequence, choice and repetition; `Expr.toNode` finds it, or
refuses the pattern because it asks for something that its flags rule out.

Flags are carried through a pattern from left to right, also from one branch of an alternation to
the next, and fall back at the end of a group.
-/
import RouteTable.Pattern.CharSet
import RouteTable.Pattern.PropertyName

namespace RouteTable.Pattern

open Unicode

/-! ## Flags -/

/-- The switches that decide what a pattern means. -/
structure Flags where
  caseInsensitive : Bool := false
  multiLine : Bool := false
  dotMatchesNewline : Bool := false
  unicode : Bool := true
  crlf : Bool := false
  deriving DecidableEq, Repr

/-- Whether few or many copies are preferred, and how the text is laid out, does not matter for the
meaning. -/
def Flags.set (f : Flags) (flag : Flag) (on : Bool) : Flags :=
  match flag with
  | .caseInsensitive => { f with caseInsensitive := on }
  | .multiLine => { f with multiLine := on }
  | .dotMatchesNewline => { f with dotMatchesNewline := on }
  | .unicode => { f with unicode := on }
  | .crlf => { f with crlf := on }
  | .swapGreed | .verbose => f

def Flags.apply (f : Flags) (settings : FlagSettings) : Flags :=
  settings.foldl (fun f p => f.set p.1 p.2) f

/-! ## Nodes -/

/-- A condition on a position, given the characters on its two sides. -/
inductive Look
  | textStart
  | textEnd
  | lineStart (crlf : Bool)
  | lineEnd (crlf : Bool)
  | wordBoundary (unicode : Bool)
  | notWordBoundary (unicode : Bool)
  | wordStart (unicode : Bool)
  | wordEnd (unicode : Bool)
  | wordStartHalf (unicode : Bool)
  | wordEndHalf (unicode : Bool)
  deriving DecidableEq, Repr

/-- A pattern without flags. -/
inductive Node
  | empty
  | set (s : CharSet)
  | look (l : Look)
  | cat (first rest : Node)
  | alt (first rest : Node)
  | repeated (body : Node) (least : Nat) (most : Option Nat)
  | capture (body : Node)
  deriving DecidableEq, Repr

/-! ## Characters and classes -/

/-- The set with all case variants of its characters, if case does not matter. -/
def CharSet.foldIf (f : Flags) (s : CharSet) : CharSet :=
  if f.caseInsensitive then (if f.unicode then .folded s else .asciiFolded s) else s

/-- The set closed under case if case does not matter, and then complemented if it is negated.
Without Unicode the result must not reach beyond ASCII: a byte there is no character. -/
def CharSet.foldAndNegate (f : Flags) (negated : Bool) (s : CharSet) : Except Fault CharSet :=
  let s := .negateIf negated (s.foldIf f)
  if f.unicode then .ok s
  else if s.avoidsUpperBytes then .ok (.inter s (.property .ascii))
  else .error .malformed

/-- A character of a pattern. Without Unicode two hexadecimal digits name a byte, which is a
character only below 128. -/
def Literal.toSet (f : Flags) (l : Literal) : Except Fault CharSet :=
  if !f.unicode && l.hexPair && 128 ≤ l.char.toNat then .error .malformed
  else if f.caseInsensitive && (f.unicode || l.char.toNat < 128) then
    .ok ((CharSet.single l.char).foldIf f)
  else .ok (.single l.char)

/-- An item of a class. Without Unicode it must be ASCII or a byte. -/
def Literal.allowedInClass (f : Flags) (l : Literal) : Bool :=
  f.unicode || l.hexPair || l.char.toNat < 128

/-- A class that has a letter escape. It is complete under case already. -/
def Shorthand.resolve (f : Flags) (negated : Bool) (kind : Shorthand) : Except Fault CharSet :=
  let s := .negateIf negated (kind.toSet f.unicode)
  if f.unicode || s.avoidsUpperBytes then .ok s else .error .malformed

section Table

variable [PropertyTable]

/-- A class given by a property, which needs Unicode. -/
def PropertyName.resolve (f : Flags) (negated : Bool) (name : PropertyName) :
    Except Fault CharSet :=
  if f.unicode then
    match name.property? with
    | some p => (CharSet.property p).foldAndNegate f negated
    | none => .error .malformed
  else .error .malformed

/-- The set between brackets. The sides of an operator are closed under case before it applies. -/
def ClassExpr.toSet (f : Flags) : ClassExpr → Except Fault CharSet
  | .empty => .ok .empty
  | .literal l => if l.allowedInClass f then .ok (.single l.char) else .error .malformed
  | .range a b =>
    if a.allowedInClass f && b.allowedInClass f then .ok (.range a.char b.char)
    else .error .malformed
  | .shorthand kind negated => kind.resolve f negated
  | .ascii kind negated => (CharSet.ofRanges kind.ranges).foldAndNegate f negated
  | .property name negated => name.resolve f negated
  | .nested negated body => do (← body.toSet f).foldAndNegate f negated
  | .union first rest => do return .union (← first.toSet f) (← rest.toSet f)
  | .op kind left right => do
    let s := (← left.toSet f).foldIf f
    let t := (← right.toSet f).foldIf f
    return match kind with
      | .intersection => .inter s t
      | .difference => .diff s t
      | .symmetricDifference => .symmDiff s t

/-- What the dot stands for. Without Unicode it would stand for bytes. -/
def dotSet (f : Flags) : Except Fault CharSet :=
  if !f.unicode then .error .malformed
  else if f.dotMatchesNewline then .ok (.property .any)
  else if f.crlf then .ok (.compl (.union (.single '\n') (.single '\r')))
  else .ok (.compl (.single '\n'))

/-- The condition on a position under the flags. -/
def Assertion.toLook (f : Flags) : Assertion → Look
  | .lineStart => if f.multiLine then .lineStart f.crlf else .textStart
  | .lineEnd => if f.multiLine then .lineEnd f.crlf else .textEnd
  | .textStart => .textStart
  | .textEnd => .textEnd
  | .wordBoundary => .wordBoundary f.unicode
  | .notWordBoundary => .notWordBoundary f.unicode
  | .wordStart => .wordStart f.unicode
  | .wordEnd => .wordEnd f.unicode
  | .wordStartHalf => .wordStartHalf f.unicode
  | .wordEndHalf => .wordEndHalf f.unicode

/-! ## Patterns -/

/-- The meaning of a pattern under flags, and the flags that hold after it. -/
def Expr.toNode (f : Flags) : Expr → Except Fault (Node × Flags)
  | .empty => .ok (.empty, f)
  | .flags settings => .ok (.empty, f.apply settings)
  | .literal l => do return (.set (← l.toSet f), f)
  | .dot => do return (.set (← dotSet f), f)
  | .assertion a => .ok (.look (a.toLook f), f)
  | .shorthand kind negated => do return (.set (← kind.resolve f negated), f)
  | .property name negated => do return (.set (← name.resolve f negated), f)
  | .bracketed negated body => do
    return (.set (← (← body.toSet f).foldAndNegate f negated), f)
  | .repeated body least most => do
    let (n, f) ← body.toNode f
    return (.repeated n least most, f)
  | .group capturing settings body => do
    let (n, _) ← body.toNode (f.apply settings)
    return (if capturing then .capture n else n, f)
  | .cat first rest => do
    let (m, f) ← first.toNode f
    let (n, f) ← rest.toNode f
    return (.cat m n, f)
  | .alt first rest => do
    let (m, f) ← first.toNode f
    let (n, f) ← rest.toNode f
    return (.alt m n, f)

end Table
end RouteTable.Pattern
