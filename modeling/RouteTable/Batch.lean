/-
Compiling many descriptors into one collection. A policy says what becomes of a descriptor that is
refused: it ends the batch, or it is reported and left out.
-/
import RouteTable.Collection
import RouteTable.Compiler

namespace RouteTable

/-- What to do with a descriptor that does not compile. -/
inductive BatchPolicy
  | abort
  | skip
  deriving DecidableEq, Repr

namespace Compiler

/-- Compiles descriptors in order by a checker of patterns, adding to `c`. -/
def extendBy (k : Compiler) (check : Checker) (policy : BatchPolicy) (c : Collection) :
    List Descriptor → Traced (Except CompileError Collection)
  | [] => ⟨.ok c, []⟩
  | d :: ds =>
    match k.compileBy check d with
    | ⟨.ok r, events⟩ =>
      let later := k.extendBy check policy (c.add r) ds
      ⟨later.value, events ++ later.events⟩
    | ⟨.error e, events⟩ =>
      match policy with
      | .abort => ⟨.error e, events⟩
      | .skip =>
        let later := k.extendBy check policy c ds
        ⟨later.value, events ++ .skipped d.verb e :: later.events⟩

/-- Compiles descriptors in order into a new collection, by a checker of patterns. -/
def compileAllBy (k : Compiler) (check : Checker) (policy : BatchPolicy) (ds : List Descriptor) :
    Traced (Except CompileError Collection) :=
  k.extendBy check policy ∅ ds

/-- Compiles descriptors in order into a new collection. -/
def compileAll [Pattern.PropertyTable] (k : Compiler) (policy : BatchPolicy) (ds : List Descriptor) :
    Traced (Except CompileError Collection) :=
  k.compileAllBy Pattern.compile policy ds

end Compiler
end RouteTable
