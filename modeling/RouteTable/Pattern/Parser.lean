/-
Reading a pattern. The parser goes through the text once, character by character, and keeps the
groups and classes that are still open. A step may take further characters at once, and `advance`
then passes over them; so it recurses on the text alone.

`parse` refuses a text with a construct that is open at the end, and one whose constructs are nested
too deeply.
-/
import RouteTable.Pattern.Lexeme

namespace RouteTable.Pattern

open Unicode

/-! ## What is open -/

/-- A group under construction: its finished branches and the items of the current one, the latest
first. -/
structure GroupLevel where
  branches : List Expr := []
  items : List Expr := []
  deriving DecidableEq, Repr

namespace GroupLevel

def push (l : GroupLevel) (e : Expr) : GroupLevel := { l with items := e :: l.items }

def finish (l : GroupLevel) : Expr :=
  .ofBranches (.ofItems l.items.reverse :: l.branches).reverse

end GroupLevel

/-- A group that encloses the current one, and how the current one was opened in it. -/
structure Enclosing where
  level : GroupLevel
  capturing : Bool
  settings : FlagSettings
  /-- The mode of the enclosing group, to which its close returns. -/
  verbose : Bool
  deriving DecidableEq, Repr

/-- How far the beginning of a class has been read: a caret may follow the bracket, then hyphens
stand for themselves, and so does a bracket that is the first item. -/
inductive ClassPhase
  | opened
  | leading
  | body
  deriving DecidableEq, Repr

/-- A class under construction: the items of the current union, the latest first, and the left side
of an operator that waits for them. -/
structure ClassLevel where
  negated : Bool := false
  phase : ClassPhase := .opened
  items : List ClassExpr := []
  left : Option (ClassExpr × SetOp) := none
  deriving DecidableEq, Repr

namespace ClassLevel

def push (l : ClassLevel) (e : ClassExpr) : ClassLevel := { l with items := e :: l.items }

/-- The set that has been read so far. Operators group to the left. -/
def finish (l : ClassLevel) : ClassExpr :=
  let union := ClassExpr.ofItems l.items.reverse
  match l.left with
  | none => union
  | some (left, kind) => .op kind left union

/-- Makes what has been read the left side of an operator. -/
def operator (l : ClassLevel) (kind : SetOp) : ClassLevel :=
  { l with items := [], left := some (l.finish, kind) }

end ClassLevel

/-- The parser between two characters. -/
structure Parser where
  level : GroupLevel := {}
  /-- The groups around the current one, the innermost first. -/
  enclosing : List Enclosing := []
  /-- The classes that are open, the innermost first. -/
  classes : List ClassLevel := []
  /-- The names of groups so far; none may occur twice. -/
  names : List String := []
  /-- White space and comments are skipped. -/
  verbose : Bool := false
  inComment : Bool := false
  deriving DecidableEq, Repr

namespace Parser

def push (st : Parser) (e : Expr) : Parser := { st with level := st.level.push e }

/-! ## Steps -/

/-- How many characters have been taken from `rest` when `left` is left. -/
def taken (rest left : List Char) : Nat := rest.length - left.length

/-- Repeats the last item. Flags cannot be repeated. -/
def repeatLast (st : Parser) (least : Nat) (most : Option Nat) : Except Fault Parser :=
  match st.level.items with
  | [] => .error .malformed
  | .flags _ :: _ => .error .malformed
  | e :: es => .ok { st with level := { st.level with items := .repeated e least most :: es } }

/-- Opens a group inside the current one. -/
def enter (st : Parser) (capturing : Bool) (settings : FlagSettings) : Parser :=
  { st with
    level := {}
    enclosing := ⟨st.level, capturing, settings, st.verbose⟩ :: st.enclosing
    verbose := (settings.state? .verbose).getD st.verbose }

/-- Acts on what follows an opening parenthesis. -/
def openGroup (st : Parser) : Opening → Except Fault Parser
  | .capture none => .ok (st.enter true [])
  | .capture (some name) =>
    if name ∈ st.names then .error .malformed
    else .ok { st.enter true [] with names := name :: st.names }
  | .plain settings => .ok (st.enter false settings)
  | .directive settings =>
    .ok { st.push (.flags settings) with
      verbose := (settings.state? .verbose).getD st.verbose }

/-- Closes the current group. -/
def leave (st : Parser) : Except Fault Parser :=
  match st.enclosing with
  | [] => .error .malformed
  | e :: outer =>
    .ok { st with
      level := e.level.push (.group e.capturing e.settings st.level.finish)
      enclosing := outer
      verbose := e.verbose }

/-- One step outside classes, at the character `c` before `rest`: the new state and the number of
further characters it took. -/
def stepItem (st : Parser) (c : Char) (rest : List Char) : Except Fault (Parser × Nat) :=
  match c with
  | '(' => do
    let (o, left) ← opening st.verbose rest
    return (← st.openGroup o, taken rest left)
  | ')' => do return (← st.leave, 0)
  | '|' => .ok ({ st with level := ⟨.ofItems st.level.items.reverse :: st.level.branches, []⟩ }, 0)
  | '[' => .ok ({ st with classes := [{}] }, 0)
  | '?' => do return (← st.repeatLast 0 (some 1), taken rest (dropLazyMark rest))
  | '*' => do return (← st.repeatLast 0 none, taken rest (dropLazyMark rest))
  | '+' => do return (← st.repeatLast 1 none, taken rest (dropLazyMark rest))
  | '\x7b' => do
    let ((least, most), left) ← counts st.verbose rest
    return (← st.repeatLast least most, taken rest (dropLazyMark (gap st.verbose left)))
  | '\\' => do
    let (e, left) ← escape st.verbose rest
    return (st.push e.toExpr, taken rest left)
  | '.' => .ok (st.push .dot, 0)
  | '^' => .ok (st.push (.assertion .lineStart), 0)
  | '$' => .ok (st.push (.assertion .lineEnd), 0)
  | _ => .ok (st.push (.literal ⟨c, false⟩), 0)

/-- Closes the class `level`, which becomes an item of the class around it or of the pattern. -/
def leaveClass (st : Parser) (level : ClassLevel) (outer : List ClassLevel) : Parser :=
  match outer with
  | [] => { st.push (.bracketed level.negated level.finish) with classes := [] }
  | o :: outer => { st with classes := o.push (.nested level.negated level.finish) :: outer }

/-- One step in the body of a class. -/
def stepBody (st : Parser) (level : ClassLevel) (outer : List ClassLevel) (c : Char)
    (rest : List Char) : Except Fault (Parser × Nat) :=
  let go (l : ClassLevel) (k : Nat) : Except Fault (Parser × Nat) :=
    .ok ({ st with classes := l :: outer }, k)
  let item : Except Fault (Parser × Nat) := do
    let (e, left) ← classItem st.verbose c rest
    go (level.push e) (taken rest left)
  let doubled (kind : SetOp) : Except Fault (Parser × Nat) :=
    if rest.head? = some c then go (level.operator kind) 1 else item
  match c with
  | '[' =>
    match asciiClass? rest with
    | some (e, left) => go (level.push e) (taken rest left)
    | none => .ok ({ st with classes := {} :: level :: outer }, 0)
  | ']' => .ok (st.leaveClass level outer, 0)
  | '&' => doubled .intersection
  | '-' => doubled .difference
  | '~' => doubled .symmetricDifference
  | _ => item

/-- One step in the innermost open class. -/
def stepClass (st : Parser) (level : ClassLevel) (outer : List ClassLevel) (c : Char)
    (rest : List Char) : Except Fault (Parser × Nat) :=
  let stay (l : ClassLevel) : Except Fault (Parser × Nat) :=
    .ok ({ st with classes := l :: outer }, 0)
  if level.phase = .opened && c = '^' then
    stay { level with negated := true, phase := .leading }
  else if level.phase != .body && c = '-' then
    stay { level.push (.literal ⟨'-', false⟩) with phase := .leading }
  else if level.phase != .body && c = ']' && level.items.isEmpty then
    stay { level.push (.literal ⟨']', false⟩) with phase := .body }
  else st.stepBody { level with phase := .body } outer c rest

/-- One step at the character `c` before `rest`. -/
def step (st : Parser) (c : Char) (rest : List Char) : Except Fault (Parser × Nat) :=
  if st.inComment then .ok ({ st with inComment := c != '\n' }, 0)
  else if st.verbose && isWhiteSpace c then .ok (st, 0)
  else if st.verbose && c = '#' then .ok ({ st with inComment := true }, 0)
  else match st.classes with
    | [] => st.stepItem c rest
    | level :: outer => st.stepClass level outer c rest

/-- The state after a text whose first `skip` characters have been taken already. -/
def advance (st : Parser) (skip : Nat) : List Char → Except Fault Parser
  | [] => .ok st
  | c :: rest =>
    match skip with
    | k + 1 => st.advance k rest
    | 0 => do
      let (st, k) ← st.step c rest
      st.advance k rest

/-- The pattern that has been read, if nothing is open. -/
def finish (st : Parser) : Except Fault Expr :=
  if st.classes.isEmpty && st.enclosing.isEmpty then .ok st.level.finish else .error .malformed

end Parser

/-- Constructs may be nested this deeply. -/
def nestingLimit : Nat := 250

/-- Reads a text as a pattern. -/
def parse (source : String) : Except Fault Expr := do
  let st ← ({} : Parser).advance 0 source.toList
  let e ← st.finish
  if e.nesting ≤ nestingLimit then return e else throw .malformed

end RouteTable.Pattern
