/-
The parts of a pattern that span several characters and hold no pattern themselves: escapes,
repetition counts, the opening of a group with its name or flags, ranges and named classes. Each
reader takes the text that follows and gives what it read and the text that is left.

In verbose mode white space and comments between the characters of such a part are skipped.
-/
import RouteTable.Pattern.Expr
import RouteTable.Unicode.Property

namespace RouteTable.Pattern

open Unicode

/-! ## Blanks -/

/-- Drops white space and comments. A comment runs from `#` to the end of the line; `inComment`
tells that one has begun. -/
def dropBlanks (inComment : Bool) : List Char → List Char
  | [] => []
  | c :: cs =>
    if inComment then dropBlanks (c != '\n') cs
    else if isWhiteSpace c then dropBlanks false cs
    else if c = '#' then dropBlanks true cs
    else c :: cs

/-- The text from its next significant character on. -/
def gap (verbose : Bool) (cs : List Char) : List Char :=
  if verbose then dropBlanks false cs else cs

/-- The significant characters before the next closing brace, and the text after it. -/
def braced (verbose inComment : Bool) : List Char → Except Fault (List Char × List Char)
  | [] => .error .malformed
  | c :: cs =>
    if inComment then braced verbose (c != '\n') cs
    else if verbose && isWhiteSpace c then braced verbose false cs
    else if verbose && c = '#' then braced verbose true cs
    else if c = '\x7d' then .ok ([], cs)
    else do
      let (name, left) ← braced verbose false cs
      return (c :: name, left)

/-! ## Repetition counts -/

/-- Counts have to fit in 32 bits. -/
def countLimit : Nat := 4294967296

/-- Decimal digits; `none` if there is none. -/
def digits (verbose inComment : Bool) (n : Option Nat) : List Char → Option Nat × List Char
  | [] => (n, [])
  | c :: cs =>
    if inComment then digits verbose (c != '\n') n cs
    else if c.isDigit then digits verbose false (some (n.getD 0 * 10 + (c.toNat - 48))) cs
    else if verbose && n.isSome && isWhiteSpace c then digits verbose false n cs
    else if verbose && n.isSome && c = '#' then digits verbose true n cs
    else (n, c :: cs)

/-- A decimal number, with white space around it in either mode. -/
def decimal (verbose : Bool) (cs : List Char) : Except Fault (Nat × List Char) :=
  match digits verbose false none (cs.dropWhile isWhiteSpace) with
  | (some n, left) =>
    if n < countLimit then .ok (n, left.dropWhile isWhiteSpace) else .error .malformed
  | (none, _) => .error .malformed

/-- The rest of a repetition in braces: the least and the greatest number of copies. -/
def counts (verbose : Bool) (cs : List Char) : Except Fault ((Nat × Option Nat) × List Char) := do
  let (least, left) ← decimal verbose (gap verbose cs)
  match left with
  | '\x7d' :: left => return ((least, some least), left)
  | ',' :: left =>
    match gap verbose left with
    | '\x7d' :: left => return ((least, none), left)
    | left =>
      let (most, left) ← decimal verbose left
      match left with
      | '\x7d' :: left =>
        if least ≤ most then return ((least, some most), left) else throw .malformed
      | _ => throw .malformed
  | _ => throw .malformed

/-- A question mark after a repetition, which makes it prefer few copies. -/
def dropLazyMark : List Char → List Char
  | '?' :: left => left
  | left => left

/-! ## Escapes -/

/-- What an escape stands for. -/
inductive Escape
  | literal (l : Literal)
  | assertion (a : Assertion)
  | shorthand (kind : Shorthand) (negated : Bool)
  | property (name : PropertyName) (negated : Bool)
  deriving DecidableEq, Repr

def hexValue? (c : Char) : Option Nat :=
  if '0' ≤ c && c ≤ '9' then some (c.toNat - 48)
  else if 'a' ≤ c && c ≤ 'f' then some (c.toNat - 87)
  else if 'A' ≤ c && c ≤ 'F' then some (c.toNat - 55)
  else none

/-- Exactly `k` more hexadecimal digits of a number that began with `n`. -/
def hexDigits (verbose : Bool) (n : Nat) : Nat → List Char → Except Fault (Nat × List Char)
  | 0, cs => .ok (n, cs)
  | k + 1, cs =>
    match gap verbose cs with
    | [] => .error .malformed
    | c :: left =>
      match hexValue? c with
      | some d => hexDigits verbose (n * 16 + d) k left
      | none => .error .malformed

/-- The character of a code point; surrogates and numbers beyond the last code point have none. -/
def charOf? (n : Nat) : Option Char := if h : n.isValidChar then some (Char.ofNatAux n h) else none

/-- The rest of a character by its code point: `width` digits, or any number of them in braces. -/
def codePoint (verbose : Bool) (width : Nat) (cs : List Char) :
    Except Fault (Escape × List Char) := do
  let (n, left, hexPair) ← match gap verbose cs with
    | '\x7b' :: left => do
      let (ds, left) ← braced verbose false left
      match ds.mapM hexValue? with
      | some (d :: ds) => pure ((d :: ds).foldl (fun n d => n * 16 + d) 0, left, false)
      | _ => throw .malformed
    | left => do
      let (n, left) ← hexDigits verbose 0 width left
      pure (n, left, width == 2)
  match charOf? n with
  | some c => return (.literal ⟨c, hexPair⟩, left)
  | none => throw .malformed

/-- The text before and after the first occurrence of `mark`. -/
def cutAt? (mark : List Char) : List Char → Option (List Char × List Char)
  | [] => none
  | c :: cs =>
    if mark.isPrefixOf (c :: cs) then some ([], (c :: cs).drop mark.length)
    else (cutAt? mark cs).map fun p => (c :: p.1, p.2)

/-- A property name in braces, where `!=`, or else `:` or `=`, parts a property from its value. -/
def namedProperty (negated : Bool) (cs : List Char) : Escape :=
  let valued (p : List Char × List Char) : PropertyName :=
    .valued (String.ofList p.1) (String.ofList p.2)
  match cutAt? ['!', '='] cs with
  | some p => .property (valued p) !negated
  | none =>
    match (cutAt? [':'] cs).or (cutAt? ['='] cs) with
    | some p => .property (valued p) negated
    | none => .property (.single (String.ofList cs)) negated

/-- The rest of a class given by a character property: one letter, or a name in braces. -/
def property (verbose negated : Bool) (cs : List Char) : Except Fault (Escape × List Char) :=
  match gap verbose cs with
  | [] => .error .malformed
  | '\x7b' :: left => do
    let (name, left) ← braced verbose false left
    return (namedProperty negated name, left)
  | '\\' :: _ => .error .malformed
  | c :: left => .ok (.property (.single (String.singleton c)) negated, left)

/-- The rest of a word boundary, which may name in braces the side it asks for. Braces that do not
begin with a letter or a hyphen are a repetition instead. -/
def boundary (verbose : Bool) (cs : List Char) : Except Fault (Escape × List Char) :=
  match cs with
  | '\x7b' :: inner =>
    match gap verbose inner with
    | [] => .error .malformed
    | c :: _ =>
      if c.isAlpha || c = '-' then do
        let (name, left) ← braced verbose false inner
        match String.ofList name with
        | "start" => return (.assertion .wordStart, left)
        | "end" => return (.assertion .wordEnd, left)
        | "start-half" => return (.assertion .wordStartHalf, left)
        | "end-half" => return (.assertion .wordEndHalf, left)
        | _ => throw .malformed
      else .ok (.assertion .wordBoundary, cs)
  | _ => .ok (.assertion .wordBoundary, cs)

/-- An ASCII character that a backslash turns into itself: all but letters, digits and the angle
brackets. -/
def isEscapable (c : Char) : Bool := c.toNat < 128 && !c.isAlphanum && c != '<' && c != '>'

/-- What follows a backslash. -/
def escape (verbose : Bool) : List Char → Except Fault (Escape × List Char)
  | [] => .error .malformed
  | c :: left =>
    let is (e : Escape) : Except Fault (Escape × List Char) := .ok (e, left)
    let char (n : Char) := is (.literal ⟨n, false⟩)
    match c with
    | 'x' => codePoint verbose 2 left
    | 'u' => codePoint verbose 4 left
    | 'U' => codePoint verbose 8 left
    | 'p' => property verbose false left
    | 'P' => property verbose true left
    | 'd' => is (.shorthand .digit false)
    | 'D' => is (.shorthand .digit true)
    | 's' => is (.shorthand .space false)
    | 'S' => is (.shorthand .space true)
    | 'w' => is (.shorthand .word false)
    | 'W' => is (.shorthand .word true)
    | 'a' => char '\x07'
    | 'f' => char '\x0c'
    | 't' => char '\t'
    | 'n' => char '\n'
    | 'r' => char '\r'
    | 'v' => char '\x0b'
    | 'A' => is (.assertion .textStart)
    | 'z' => is (.assertion .textEnd)
    | 'b' => boundary verbose left
    | 'B' => is (.assertion .notWordBoundary)
    | '<' => is (.assertion .wordStart)
    | '>' => is (.assertion .wordEnd)
    | _ => if isEscapable c then char c else .error .malformed

/-- An escape as an item of a pattern. -/
def Escape.toExpr : Escape → Expr
  | .literal l => .literal l
  | .assertion a => .assertion a
  | .shorthand kind negated => .shorthand kind negated
  | .property name negated => .property name negated

/-! ## Openings of groups -/

/-- What an opening parenthesis begins. -/
inductive Opening
  | capture (name : Option String)
  | plain (settings : FlagSettings)
  /-- Flags alone, closed at once: they hold for the rest of the enclosing group. -/
  | directive (settings : FlagSettings)
  deriving DecidableEq, Repr

def isNameStart (c : Char) : Bool := c = '_' || isAlphabetic c

def isNameRest (c : Char) : Bool :=
  c = '_' || c = '.' || c = '[' || c = ']' || isAlphanumeric c

/-- The rest of a group's name, up to the angle bracket that closes it. -/
def groupName (cs : List Char) : Except Fault (Opening × List Char) :=
  match cs.takeWhile (· != '>'), cs.dropWhile (· != '>') with
  | c :: name, _ :: left =>
    if isNameStart c && name.all isNameRest then
      .ok (.capture (some (String.ofList (c :: name))), left)
    else .error .malformed
  | _, _ => .error .malformed

def flagOf? : Char → Option Flag
  | 'i' => some .caseInsensitive
  | 'm' => some .multiLine
  | 's' => some .dotMatchesNewline
  | 'U' => some .swapGreed
  | 'u' => some .unicode
  | 'R' => some .crlf
  | 'x' => some .verbose
  | _ => none

/-- The rest of the flags after a question mark. Those after a hyphen are turned off; `hanging`
tells that the hyphen has just been read. No flag may be named twice, and a hyphen needs a flag. -/
def flagSettings (turnOn hanging : Bool) (settings : FlagSettings) :
    List Char → Except Fault (Opening × List Char)
  | [] => .error .malformed
  | ':' :: left => if hanging then .error .malformed else .ok (.plain settings, left)
  | ')' :: left =>
    if hanging || settings.isEmpty then .error .malformed else .ok (.directive settings, left)
  | '-' :: left => if turnOn then flagSettings false true settings left else .error .malformed
  | c :: left =>
    match flagOf? c with
    | some flag =>
      if settings.any (·.1 = flag) then .error .malformed
      else flagSettings turnOn false (settings ++ [(flag, turnOn)]) left
    | none => .error .malformed

/-- What follows an opening parenthesis. Look-around is no part of the language. -/
def opening (verbose : Bool) (cs : List Char) : Except Fault (Opening × List Char) :=
  match gap verbose cs with
  | '?' :: '=' :: _ => .error .malformed
  | '?' :: '!' :: _ => .error .malformed
  | '?' :: '<' :: '=' :: _ => .error .malformed
  | '?' :: '<' :: '!' :: _ => .error .malformed
  | '?' :: 'P' :: '<' :: left => groupName left
  | '?' :: '<' :: left => groupName left
  | '?' :: left => flagSettings true false [] left
  | left => .ok (.capture none, left)

/-! ## Items of a class -/

def AsciiClass.ofName? : String → Option AsciiClass
  | "alnum" => some .alnum
  | "alpha" => some .alpha
  | "ascii" => some .ascii
  | "blank" => some .blank
  | "cntrl" => some .cntrl
  | "digit" => some .digit
  | "graph" => some .graph
  | "lower" => some .lower
  | "print" => some .print
  | "punct" => some .punct
  | "space" => some .space
  | "upper" => some .upper
  | "word" => some .word
  | "xdigit" => some .xdigit
  | _ => none

/-- The rest of a named class such as `[:alpha:]` after its bracket; `none` if the text there is
something else, which then opens a nested class. -/
def asciiClass? : List Char → Option (ClassExpr × List Char)
  | ':' :: cs =>
    let negated := cs.head? == some '^'
    let cs := if negated then cs.drop 1 else cs
    match cs.dropWhile (· != ':') with
    | ':' :: ']' :: left =>
      (AsciiClass.ofName? (String.ofList (cs.takeWhile (· != ':')))).map fun kind =>
        (.ascii kind negated, left)
    | _ => none
  | _ => none

/-- One end of a range: an escape or a character as it stands. -/
def classAtom (verbose : Bool) (c : Char) (rest : List Char) : Except Fault (Escape × List Char) :=
  if c = '\\' then escape verbose rest else .ok (.literal ⟨c, false⟩, rest)

/-- An atom as an item of its own. Conditions on a position have no place in a class. -/
def Escape.toItem : Escape → Except Fault ClassExpr
  | .literal l => .ok (.literal l)
  | .shorthand kind negated => .ok (.shorthand kind negated)
  | .property name negated => .ok (.property name negated)
  | .assertion _ => .error .malformed

/-- The first character that is neither white space nor the first `#`. -/
def peekPast (hashSeen : Bool) : List Char → Option Char
  | [] => none
  | c :: cs =>
    if isWhiteSpace c then peekPast hashSeen cs
    else if c = '#' && !hashSeen then peekPast true cs
    else some c

/-- The character that decides whether a hyphen makes a range. -/
def peek? (verbose : Bool) (cs : List Char) : Option Char :=
  if verbose then (peekPast false cs).or cs.head? else cs.head?

/-- An item that begins with `c`: an atom, or a range if a hyphen follows that neither ends the
class nor begins an operator. -/
def classItem (verbose : Bool) (c : Char) (rest : List Char) :
    Except Fault (ClassExpr × List Char) := do
  let (first, left) ← classAtom verbose c rest
  match gap verbose left with
  | [] => throw .malformed
  | '-' :: after =>
    if peek? verbose after = some ']' || peek? verbose after = some '-' then
      return (← first.toItem, '-' :: after)
    else
      match gap verbose after with
      | [] => throw .malformed
      | d :: after =>
        let (last, left) ← classAtom verbose d after
        match first, last with
        | .literal a, .literal b =>
          if a.char ≤ b.char then return (.range a b, left) else throw .malformed
        | _, _ => throw .malformed
  | left => return (← first.toItem, left)

end RouteTable.Pattern
