/-
What a compilation gives if it succeeds. A descriptor stands for one route only: its path and its
parameters are read off the template, its matcher is the text of the parts between anchors, with every
constraint in its place (`matcherText`), and its program is what the checker makes of that text. The
descriptor compiles to this route, and does so exactly if its constraints and that text are accepted
(`compileBy_eq_ok_iff`). Which constraints a descriptor has is known from the calls that build it.
-/
import RouteTable.Proofs.Compiler.Matcher
import RouteTable.Proofs.Descriptor.Calls

namespace RouteTable

variable {φ : Type}

namespace Compiler

variable {k : Compiler} {check : Checker φ} {d : Descriptor} {r : Route}

/-- The text of the parts between anchors, each constraint in its place. -/
def matcherText (k : Compiler) (d : Descriptor) : String :=
  "^" ++ String.join (d.parts.map (k.slotSource d)) ++ "$"

/-- As many constraints are in place as the template has constrained parameters. -/
theorem assemble_length (k : Compiler) (d : Descriptor) :
    k.assemble d d.constrained.length = k.matcherText d := by
  rw [assemble_eq_pieces, matcherText, pieces_full k d d.parts _ (Nat.le_refl _)]

theorem compileBy_of_program {program : Pattern.Node} (hv : ∀ o ∈ d.constrained, Accepted check o.2)
    (hp : check (k.matcherText d) = .ok program) :
    (k.compileBy check d).value = .ok {
      path := d.path, parameters := d.parameters, verb := d.verb, metadata := d.metadata
      matcherSource := k.matcherText d, program } := by
  rw [← assemble_length] at hp ⊢
  rw [compileBy_of_vetted hv, hp]
  rfl

/-- There is no other route that a descriptor compiles to. -/
theorem eq_of_compileBy (h : (k.compileBy check d).value = .ok r) :
    check (k.matcherText d) = .ok r.program ∧ r = {
      path := d.path, parameters := d.parameters, verb := d.verb, metadata := d.metadata
      matcherSource := k.matcherText d, program := r.program } := by
  obtain ⟨hc, hv⟩ := compileBy_ok h
  rw [assemble_length] at hc
  rw [compileBy_of_program hv hc] at h
  exact ⟨hc, (Except.ok.inj h).symm⟩

/-- A descriptor compiles to a route exactly if every constraint of a parameter in its template is
accepted by itself, the text of its parts with all constraints in place is accepted, and the route is
this: the path shows literals as they stand, parameters behind a colon and format parts not at all; the
parameters are in template order with their repetitions; verb and requirements are the descriptor's; and
the matcher is that text, `^` and `$` around literals as they stand, constraints in groups, the fallback
for parameters without a constraint and the format pattern. In a descriptor that is built by calls, the
constraint of a name is the last that a call sets for it. -/
theorem compileBy_eq_ok_iff (k : Compiler) (check : Checker φ) (d : Descriptor) (r : Route) :
    ((k.compileBy check d).value = .ok r ↔
      (∀ name ∈ d.parameters, ∀ pattern, d.constraintFor? name = some pattern → Accepted check pattern) ∧
      ∃ program, check (k.matcherText d) = .ok program ∧
        r = {
          path := String.join (d.parts.map TemplatePart.display)
          parameters := d.parameters
          verb := d.verb
          metadata := d.metadata
          matcherSource := "^" ++ String.join (d.parts.map (k.slotSource d)) ++ "$"
          program }) ∧
    ∀ verb calls name, (Descriptor.ofCalls verb calls).constraintFor? name =
      Descriptor.last? (calls.flatMap Call.constraints) name := by
  refine ⟨⟨fun h => ?_, ?_⟩, Descriptor.constraintFor?_ofCalls⟩
  · have hv := (compileBy_ok h).2
    obtain ⟨hc, hr⟩ := eq_of_compileBy h
    exact ⟨fun name hn pattern hp => hv (name, pattern) (mem_constrained_iff.2 ⟨hn, hp⟩), r.program, hc, hr⟩
  · rintro ⟨hv, program, hp, rfl⟩
    exact compileBy_of_program (fun o ho => hv o.1 (mem_constrained_iff.1 ho).1 o.2 (mem_constrained_iff.1 ho).2) hp

end Compiler
end RouteTable
