/-
What a compilation looks at. The names of parameters are only carried along: into the displayed path, the
list of parameters, and what is said of constraints. All that decides anything are the constrained
parameters, in order, and the matchers with some of their constraints in place. So if these are the same for
two descriptors but for the names (`Relabels`), the one compilation is the other with these names in its
result and its events (`compileBy_relabel`); and where the names are the same too, it is the same
compilation (`Relabels.compileBy_eq`).
-/
import RouteTable.Proofs.Compiler.Blame
import Mathlib.Data.List.Basic

namespace RouteTable

variable {φ : Type}

/-! ## Other names -/

section Relabel

variable (f : String → String) (path : String)

/-- The route with other names for its parameters, under the path that displays them. -/
def Route.relabel (r : Route) : Route := { r with path, parameters := r.parameters.map f }

def CompileError.relabel : CompileError φ → CompileError φ
  | constraint name source fault => constraint (f name) source fault
  | template _ fault => template path fault
  | pattern source fault => pattern source fault

/-- The part with another name for its parameter. -/
def TemplatePart.rename : TemplatePart → TemplatePart
  | parameter name => parameter (f name)
  | literal text => literal text
  | format => format

/-- The event with other names, as far as a compilation reports it. -/
def Event.relabel : Event → Event
  | anchored name pattern => anchored (f name) pattern
  | compiled verb _ matcher => compiled verb path matcher
  | skipped verb error => skipped verb error
  | published count => published count
  | invalidated => invalidated

/-- Results with other names, and the events on the way to them. -/
def Traced.relabel (t : Traced (Except (CompileError φ) Route)) : Traced (Except (CompileError φ) Route) where
  value := (t.value.map (Route.relabel f path)).mapError (CompileError.relabel f path)
  events := t.events.map (Event.relabel f path)

end Relabel

namespace Compiler

variable {k : Compiler} {check : Checker φ} {d d' : Descriptor} {f : String → String}

/-- To the compiler, `d'` is `d` with other names for its parameters. -/
structure Relabels (k : Compiler) (f : String → String) (d d' : Descriptor) : Prop where
  verb : d'.verb = d.verb
  metadata : d'.metadata = d.metadata
  parameters : d'.parameters = d.parameters.map f
  constrained : d'.constrained = d.constrained.map fun o => (f o.1, o.2)
  assemble : ∀ inline, k.assemble d' inline = k.assemble d inline

theorem checkConstraint_relabel (check : Checker φ) (f : String → String) (path name pattern : String) :
    checkConstraint check (f name) pattern =
      ⟨(checkConstraint check name pattern).value.mapError (CompileError.relabel f path),
        (checkConstraint check name pattern).events.map (Event.relabel f path)⟩ := by
  unfold checkConstraint
  cases check pattern with
  | error fault => rfl
  | ok program => cases looksAnchored pattern <;> rfl

theorem vet_relabel (check : Checker φ) (f : String → String) (path : String) : ∀ os : List (String × String),
    vet check (os.map fun o => (f o.1, o.2)) =
      ⟨(vet check os).value.mapError (CompileError.relabel f path), (vet check os).events.map (Event.relabel f path)⟩
  | [] => rfl
  | (name, pattern) :: os => by
    have ih := vet_relabel check f path os
    rw [List.map_cons, vet, vet, ih, checkConstraint_relabel check f path]
    obtain ⟨_ | _, events⟩ := checkConstraint check name pattern
    · rfl
    · simp only [Except.mapError, Traced.andThen, List.map_append]

theorem culpritAmong_relabel (hassemble : ∀ inline, k.assemble d' inline = k.assemble d inline)
    (check : Checker φ) (f : String → String) (path : String) (fault : φ) :
    ∀ (os : List (String × String)) (inline : Nat),
      k.culpritAmong check (k.fragments d') path fault inline (os.map fun o => (f o.1, o.2)) =
        (k.culpritAmong check (k.fragments d) d.path fault inline os).relabel f path
  | [], _ => rfl
  | (name, pattern) :: os, inline => by
    have ih := culpritAmong_relabel hassemble check f path fault os (inline + 1)
    have hmatcher : k.matcher (k.fragments d') inline = k.matcher (k.fragments d) inline := hassemble inline
    simp only [List.map_cons, culpritAmong, hmatcher]
    cases check (k.matcher (k.fragments d) inline) with
    | error fault => rfl
    | ok program => exact ih

theorem Relabels.blame (h : k.Relabels f d d') (check : Checker φ) (fault : φ) :
    k.blame check d' fault = (k.blame check d fault).relabel f d'.path := by
  cases hc : check (k.assemble d 0) with
  | error first =>
    have hc' : check (k.assemble d' 0) = .error first := h.assemble 0 ▸ hc
    rw [blame_of_error hc, blame_of_error hc']
    rfl
  | ok program =>
    have hc' : check (k.assemble d' 0) = .ok program := h.assemble 0 ▸ hc
    rw [blame_of_ok hc, blame_of_ok hc', h.constrained]
    exact culpritAmong_relabel h.assemble check f d'.path fault d.constrained 1

/-- A compilation carries the names along. -/
theorem compileBy_relabel (h : k.Relabels f d d') (check : Checker φ) :
    k.compileBy check d' = (k.compileBy check d).relabel f d'.path := by
  have hlength : d'.constrained.length = d.constrained.length := by rw [h.constrained, List.length_map]
  have hassemble : k.assemble d' d'.constrained.length = k.assemble d d.constrained.length := by
    rw [hlength, h.assemble]
  rw [compileBy_eq, compileBy_eq, h.constrained, vet_relabel check f d'.path]
  obtain ⟨_ | _, events⟩ := vet check d.constrained
  · rfl
  · cases hc : check (k.assemble d d.constrained.length) with
    | error fault =>
      have hc' : check (k.assemble d' d'.constrained.length) = .error fault := hassemble ▸ hc
      simp only [Except.mapError, Traced.andThen, finish_of_error hc, finish_of_error hc', h.blame, List.append_nil]
      rfl
    | ok program =>
      have hc' : check (k.assemble d' d'.constrained.length) = .ok program := hassemble ▸ hc
      simp only [Except.mapError, Traced.andThen, finish_of_ok hc, finish_of_ok hc', routeOf, hassemble, h.verb,
        h.metadata, h.parameters, Traced.relabel, List.map_append]
      rfl

/-- Where the names are the same, and are displayed in the same way, so is the compilation. -/
theorem Relabels.compileBy_eq (h : k.Relabels id d d') (hpath : d'.path = d.path) (check : Checker φ) :
    k.compileBy check d' = k.compileBy check d := by
  have hself : k.Relabels id d d := ⟨rfl, rfl, (List.map_id _).symm, (List.map_id _).symm, fun _ => rfl⟩
  rw [compileBy_relabel h, hpath, ← compileBy_relabel hself]

/-! ## Templates with other names -/

section Lookups

variable {constraints constraints' : StringMap String}

/-- The matcher stays the same if each constraint is found under the other name of its parameter. -/
theorem pieces_rename (k : Compiler) : ∀ (parts : List TemplatePart) (inline : Nat),
    (∀ name, .parameter name ∈ parts → constraints'.get? (f name) = constraints.get? name) →
      k.pieces constraints' inline (parts.map (TemplatePart.rename f)) = k.pieces constraints inline parts
  | [], _, _ => rfl
  | part :: parts, inline, h => by
    have ih := fun inline => pieces_rename k parts inline fun name hn => h name (List.mem_cons_of_mem _ hn)
    cases part with
    | literal text => simp only [List.map_cons, TemplatePart.rename, pieces, ih]
    | format => simp only [List.map_cons, TemplatePart.rename, pieces, ih]
    | parameter name =>
      have hname := h name (List.mem_cons_self ..)
      cases hc : constraints.get? name with
      | none => simp only [List.map_cons, TemplatePart.rename, pieces, hname, hc, ih]
      | some pattern =>
        cases inline with
        | zero => simp only [List.map_cons, TemplatePart.rename, pieces, hname, hc, ih]
        | succ inline => simp only [List.map_cons, TemplatePart.rename, pieces, hname, hc, ih]

end Lookups

theorem parameters_of_rename (hparts : d'.parts = d.parts.map (TemplatePart.rename f)) :
    d'.parameters = d.parameters.map f := by
  rw [Descriptor.parameters, Descriptor.parameters, hparts, List.filterMap_map, List.map_filterMap]
  exact List.filterMap_congr fun part _ => by cases part <;> rfl

/-- A descriptor that has other names in its template, and finds each constraint under the other name. -/
theorem relabels_of_rename (hverb : d'.verb = d.verb) (hmetadata : d'.metadata = d.metadata)
    (hparts : d'.parts = d.parts.map (TemplatePart.rename f))
    (hfound : ∀ name ∈ d.parameters, d'.constraintFor? (f name) = d.constraintFor? name) :
    k.Relabels f d d' where
  verb := hverb
  metadata := hmetadata
  parameters := parameters_of_rename hparts
  constrained := by
    rw [Descriptor.constrained, Descriptor.constrained, parameters_of_rename hparts, List.filterMap_map,
      List.map_filterMap]
    refine List.filterMap_congr fun name hname => ?_
    simp only [Function.comp_apply, hfound name hname, Option.map_map]
    rfl
  assemble inline := by
    rw [assemble_eq_pieces, assemble_eq_pieces, hparts, pieces_rename k d.parts inline fun name hname =>
      hfound name (mem_parameters_iff.2 hname)]

end Compiler
end RouteTable
