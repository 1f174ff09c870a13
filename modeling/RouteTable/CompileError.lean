/-
Why a route or a compiler's own pattern is refused, and the message for each cause. What the checker
of patterns said is carried along and never looked into, so its type is a parameter.
-/
import RouteTable.Pattern.Expr
import RouteTable.Text.Quoted

namespace RouteTable

/-- The part of a compilation that is at fault. -/
inductive CompileError (φ : Type := Pattern.Fault)
  /-- A constraint that is no pattern by itself, or that clashes with an earlier one. -/
  | constraint (name pattern : String) (fault : φ)
  /-- The literals of the template with this path. -/
  | template (path : String) (fault : φ)
  /-- A fallback or format pattern given to a compiler. -/
  | pattern (pattern : String) (fault : φ)
  deriving DecidableEq, Repr

namespace CompileError

variable {φ : Type}

/-- The parameter whose constraint is at fault. -/
def parameter? : CompileError φ → Option String
  | constraint name _ _ => some name
  | template .. | pattern .. => none

def fault : CompileError φ → φ
  | constraint _ _ fault | template _ fault | pattern _ fault => fault

def message : CompileError φ → String
  | constraint name source _ =>
    "invalid constraint for parameter " ++ quoted name ++ ": pattern = " ++ quoted source
  | template path _ => "invalid route template: path = " ++ quoted path
  | pattern source _ => "invalid compiler pattern: " ++ quoted source

end CompileError
end RouteTable
