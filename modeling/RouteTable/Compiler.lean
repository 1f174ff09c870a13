/-
Compiling descriptors. The matcher of a route is one anchored pattern: literals as they stand, each
constraint in a group of its own, and the compiler's patterns for all other parts. One walk through the
template (`gather`) collects the path, the parameters and the fragments of the matcher, and checks each
constraint by itself, so that it closes no group but those it opens.

When the whole is refused, `culprit` finds the part responsible: if the template is refused even with
every constraint replaced by the fallback, the literals are at fault; otherwise the constraints are
put back one at a time, and the first with which the whole is refused is at fault.

Everything here takes the checker of patterns as a parameter, for what it does depends only on which
patterns that accepts and what it says of the others.
-/
import RouteTable.Descriptor
import RouteTable.Event
import RouteTable.Route

namespace RouteTable

/-- Makes a program from a pattern, or says why there is none. -/
abbrev Checker (φ : Type := Pattern.Fault) := String → Except φ Pattern.Node

/-- The pattern in a group of its own. -/
def grouped (pattern : String) : String := "(?:" ++ pattern ++ ")"

/-- What stands for the parts of a template that say nothing about their text. -/
structure Compiler where
  /-- Stands for parameters without a constraint; by default, one or more characters other than a
  slash. -/
  parameterPattern : String := "[^/]+"
  /-- Stands for format parts; by default, a dot and such characters, or nothing. -/
  formatPattern : String := "(?:\\.[^/]+)?"
  deriving DecidableEq, Repr

namespace Compiler

variable {φ : Type}

/-! ## Own patterns -/

/-- The pattern in a group, if it is accepted. -/
def group? (check : Checker φ) (pattern : String) : Except (CompileError φ) String :=
  match check pattern with
  | .ok _ => .ok (grouped pattern)
  | .error fault => .error (.pattern pattern fault)

def withParameterPatternBy (check : Checker φ) (k : Compiler) (pattern : String) :
    Except (CompileError φ) Compiler :=
  (group? check pattern).map fun p => { k with parameterPattern := p }

def withFormatPatternBy (check : Checker φ) (k : Compiler) (pattern : String) :
    Except (CompileError φ) Compiler :=
  (group? check pattern).map fun p => { k with formatPattern := p }

/-- Replaces the fallback for parameters. -/
def withParameterPattern [Pattern.PropertyTable] (k : Compiler) (pattern : String) : Except CompileError Compiler :=
  k.withParameterPatternBy Pattern.compile pattern

/-- Replaces the pattern of format parts. -/
def withFormatPattern [Pattern.PropertyTable] (k : Compiler) (pattern : String) : Except CompileError Compiler :=
  k.withFormatPatternBy Pattern.compile pattern

/-! ## Going through a template -/

/-- A piece of the matcher. Constraints are kept apart, so that the matcher can be put together with only
some of them in their places. -/
inductive Fragment
  | raw (text : String)
  | constraint (name pattern : String)
  deriving DecidableEq, Repr

def Fragment.constraint? : Fragment → Option (String × String)
  | constraint name pattern => some (name, pattern)
  | raw _ => none

/-- What has been collected from the parts of a template. -/
structure Draft where
  /-- The texts that make up the displayed path. -/
  pathTexts : List String := []
  fragments : List Fragment := []
  parameters : List String := []
  /-- How many of the fragments are constraints. -/
  constraints : Nat := 0
  deriving DecidableEq, Repr

/-- The pattern begins or ends like an anchored one. -/
def looksAnchored (pattern : String) : Bool :=
  pattern.toList.head? == some '^' || pattern.toList.getLast? == some '$'

/-- Checks a constraint by itself. -/
def checkConstraint (check : Checker φ) (name pattern : String) : Traced (Except (CompileError φ) Unit) :=
  match check pattern with
  | .error fault => ⟨.error (.constraint name pattern fault), []⟩
  | .ok _ => ⟨.ok (), if looksAnchored pattern then [.anchored name pattern] else []⟩

/-- Takes up one part of a template. -/
def gatherPart (k : Compiler) (check : Checker φ) (d : Descriptor) (draft : Draft) :
    TemplatePart → Traced (Except (CompileError φ) Draft)
  | .literal text =>
    ⟨.ok { draft with
      pathTexts := draft.pathTexts ++ [text]
      fragments := draft.fragments ++ [.raw text] }, []⟩
  | .parameter name =>
    let draft := { draft with
      pathTexts := draft.pathTexts ++ [":", name]
      parameters := draft.parameters ++ [name] }
    match d.constraintFor? name with
    | some pattern =>
      (checkConstraint check name pattern).andThen fun _ =>
        ⟨.ok { draft with
          fragments := draft.fragments ++ [.constraint name pattern]
          constraints := draft.constraints + 1 }, []⟩
    | none => ⟨.ok { draft with fragments := draft.fragments ++ [.raw k.parameterPattern] }, []⟩
  | .format => ⟨.ok { draft with fragments := draft.fragments ++ [.raw k.formatPattern] }, []⟩

/-- Takes up parts in order, up to the first constraint that is refused by itself. -/
def gather (k : Compiler) (check : Checker φ) (d : Descriptor) (draft : Draft) :
    List TemplatePart → Traced (Except (CompileError φ) Draft)
  | [] => ⟨.ok draft, []⟩
  | part :: parts => (k.gatherPart check d draft part).andThen fun draft => k.gather check d draft parts

/-! ## The matcher -/

/-- The texts of fragments before which `seen` constraints stand. Of all constraints the first `inline` are
in their places, and the fallback stands for the others. -/
def texts (k : Compiler) (inline : Nat) : Nat → List Fragment → List String
  | _, [] => []
  | seen, .raw text :: fragments => text :: k.texts inline seen fragments
  | seen, .constraint _ pattern :: fragments =>
    (if seen < inline then grouped pattern else k.parameterPattern) :: k.texts inline (seen + 1) fragments

/-- The anchored matcher with the first `inline` constraints in their places. -/
def matcher (k : Compiler) (fragments : List Fragment) (inline : Nat) : String :=
  "^" ++ String.join (k.texts inline 0 fragments) ++ "$"

/-- The first of the constraints whose addition makes the matcher fail; `inline` counts those that
are in place with it. -/
def culpritAmong (k : Compiler) (check : Checker φ) (fragments : List Fragment) (path : String) (fault : φ) :
    Nat → List (String × String) → CompileError φ
  | _, [] => .template path fault
  | inline, (name, pattern) :: rest =>
    match check (k.matcher fragments inline) with
    | .error fault => .constraint name pattern fault
    | .ok _ => k.culpritAmong check fragments path fault (inline + 1) rest

/-- The part responsible for a matcher that is refused for `fault`. -/
def culprit (k : Compiler) (check : Checker φ) (fragments : List Fragment) (path : String) (fault : φ) :
    CompileError φ :=
  match check (k.matcher fragments 0) with
  | .error fault => .template path fault
  | .ok _ => k.culpritAmong check fragments path fault 1 (fragments.filterMap Fragment.constraint?)

/-! ## Compiling -/

/-- Makes a route of what has been collected, if the matcher is accepted. -/
def finish (k : Compiler) (check : Checker φ) (d : Descriptor) (draft : Draft) :
    Traced (Except (CompileError φ) Route) :=
  let path := String.join draft.pathTexts
  let matcherSource := k.matcher draft.fragments draft.constraints
  match check matcherSource with
  | .error fault => ⟨.error (k.culprit check draft.fragments path fault), []⟩
  | .ok program =>
    { value := .ok {
        path
        parameters := draft.parameters
        verb := d.verb
        metadata := d.metadata
        matcherSource
        program }
      events := [.compiled d.verb path matcherSource] }

/-- Compiles a descriptor by a checker of patterns. -/
def compileBy (k : Compiler) (check : Checker φ) (d : Descriptor) :
    Traced (Except (CompileError φ) Route) :=
  (k.gather check d {} d.parts).andThen (k.finish check d)

/-- Compiles a descriptor. -/
def compile [Pattern.PropertyTable] (k : Compiler) (d : Descriptor) : Traced (Except CompileError Route) :=
  k.compileBy Pattern.compile d

end Compiler

/-- Compiles a descriptor with the default patterns. -/
def compile [Pattern.PropertyTable] (d : Descriptor) : Traced (Except CompileError Route) := ({} : Compiler).compile d

end RouteTable
