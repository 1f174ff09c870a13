/-
What a compiled route is made of. Its matcher is the text of each part of the template between
anchors, with every constraint in place (`assemble_full`); so if the text of each part adds items
to a pattern that leave the flags alone, then the route accepts the paths that can be cut into
pieces that the items of the parts match (`matchesPath_iff_cut`).
-/
import RouteTable.Proofs.Compiler.Blame
import RouteTable.Proofs.Pattern.Items

namespace RouteTable

open Pattern

namespace Compiler

variable {k : Compiler} {d : Descriptor}

/-! ## The text of a part -/

/-- The text of a part in the matcher, with its constraint in place. -/
def slotSource (k : Compiler) (d : Descriptor) : TemplatePart → String
  | .literal text => text
  | .format => k.formatPattern
  | .parameter name =>
    match d.constraintFor? name with
    | none => k.parameterPattern
    | some pattern => "(?:" ++ pattern ++ ")"

/-- Room for all the constraints of the parts that are left puts every one of them in place. -/
theorem pieces_full (k : Compiler) (d : Descriptor) : ∀ (parts : List TemplatePart) (inline : Nat),
    ({ d with parts } : Descriptor).constrained.length ≤ inline →
      k.pieces d.constraints inline parts = parts.map (k.slotSource d)
  | [], _, _ => rfl
  | part :: parts, inline, h => by
    rw [Descriptor.constrained_cons, List.length_append] at h
    cases part with
    | literal text =>
      rw [pieces, pieces_full k d parts inline (Nat.le_trans (Nat.le_add_left ..) h)]; rfl
    | format =>
      rw [pieces, pieces_full k d parts inline (Nat.le_trans (Nat.le_add_left ..) h)]; rfl
    | parameter name =>
      rw [Descriptor.constrained_parameter] at h
      cases hc : d.constraints.get? name with
      | none =>
        have h' := pieces_full k d parts inline (Nat.le_trans (Nat.le_add_left ..) h)
        simp only [pieces, hc, h', List.map_cons, slotSource, Descriptor.constraintFor?]
      | some pattern =>
        simp only [Descriptor.constraintFor?, hc, Option.map_some, Option.toList_some,
          List.length_singleton] at h
        cases inline with
        | zero => omega
        | succ inline =>
          have h' := pieces_full k d parts inline (by omega)
          simp only [pieces, hc, h', List.map_cons, slotSource, Descriptor.constraintFor?]

theorem toList_join : ∀ texts : List String, (String.join texts).toList = texts.flatMap (·.toList)
  | [] => rfl
  | text :: texts => by
    rw [String.join_cons, String.toList_append, toList_join texts, List.flatMap_cons]

theorem assemble_full (k : Compiler) (d : Descriptor) :
    (k.assemble d d.constrained.length).toList =
      '^' :: (d.parts.flatMap (fun part => (k.slotSource d part).toList) ++ ['$']) := by
  rw [assemble_eq_pieces, pieces_full k d d.parts _ (Nat.le_refl _), String.toList_append, String.toList_append,
    toList_join, List.flatMap_map]
  rfl

/-! ## Routes -/

/-- A compiled route carries the program of its matcher, and its constraints were accepted. -/
theorem compileBy_ok {φ : Type} {check : Checker φ} {r : Route} (h : (k.compileBy check d).value = .ok r) :
    check (k.assemble d d.constrained.length) = .ok r.program ∧ ∀ o ∈ d.constrained, Accepted check o.2 := by
  rcases exists_first_refused check d.constrained with hv | ⟨pre, name, pattern, post, fault, ho, hv, hp⟩
  · rw [compileBy_of_vetted hv] at h
    refine ⟨?_, hv⟩
    cases hc : check (k.assemble d d.constrained.length) with
    | error fault => rw [hc] at h; cases h
    | ok program => rw [hc] at h; cases h; rfl
  · rw [compileBy_of_unvetted ho hv hp] at h; cases h

/-- A route whose parts are items that leave the flags alone accepts a path if it can be cut into
pieces that the items of the parts match. -/
theorem matchesPath_iff_cut [PropertyTable] {items : TemplatePart → List Expr} {r : Route}
    (hy : ∀ part ∈ d.parts, Parser.Yields (k.slotSource d part).toList (items part))
    (hk : ∀ part ∈ d.parts, ∀ e ∈ items part, e.KeepsFlags) (hr : (k.compile d).value = .ok r) (path : String) :
    r.matchesPath path = true ↔
      Cut (fun part => Cut Expr.Matches (items part)) d.parts [] path.toList [] := by
  have hk' : ∀ e ∈ d.parts.flatMap items, e.KeepsFlags := fun e he => by
    obtain ⟨part, hpart, he⟩ := List.mem_flatMap.1 he
    exact hk part hpart e he
  rw [Route.matchesPath, search_of_yields (assemble_full k d) (.flatMap hy) hk' (compileBy_ok hr).1, cut_flatMap]

end Compiler
end RouteTable
