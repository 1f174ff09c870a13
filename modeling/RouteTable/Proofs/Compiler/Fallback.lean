/-
The fallback as a constraint. A compiler puts its fallback in a group of its own when it is configured,
and a constraint is put in such a group when the matcher is assembled. So one more constraint, on a
parameter that has none, leaves the matcher as it is if its pattern is the one that the fallback was made
from (`matcherText_constrainAll`), and it is accepted if the compiler has been configured with it. Whether
a descriptor compiles, and to which route, therefore does not depend on which of the two is used
(`compileBy_fallback_iff_constraints`).
-/
import RouteTable.Proofs.Compiler.Result
import RouteTable.Proofs.Descriptor.Calls

namespace RouteTable

variable {φ : Type}

/-! ## Constraints with one pattern -/

namespace Descriptor

variable {d : Descriptor} {name pattern : String} {names : List String}

/-- The parameters of the template that have no constraint. -/
def unconstrained (d : Descriptor) : List String := d.parameters.filter fun name => (d.constraintFor? name).isNone

/-- The descriptor with a call more for each name, which restricts it to the pattern. -/
def constrainAll (d : Descriptor) (names : List String) (pattern : String) : Descriptor :=
  names.foldl (fun d name => d.constraint name pattern) d

theorem mem_unconstrained_iff : name ∈ d.unconstrained ↔ name ∈ d.parameters ∧ d.constraintFor? name = none := by
  rw [unconstrained, List.mem_filter, Option.isNone_iff_eq_none]

/-- Nothing but constraints is set. -/
theorem constrainAll_eq (names : List String) (d : Descriptor) (pattern : String) :
    d.constrainAll names pattern = { d with constraints := (d.constrainAll names pattern).constraints } := by
  induction names generalizing d with
  | nil => rfl
  | cons first names ih => exact ih (d.constraint first pattern)

theorem parts_constrainAll (names : List String) (d : Descriptor) (pattern : String) :
    (d.constrainAll names pattern).parts = d.parts := by rw [constrainAll_eq]

theorem parameters_constrainAll (names : List String) (d : Descriptor) (pattern : String) :
    (d.constrainAll names pattern).parameters = d.parameters := by
  rw [parameters, parts_constrainAll]; rfl

theorem constraintFor?_constrainAll (names : List String) {d : Descriptor} (hd : d.constraints.Sound)
    (pattern name : String) :
    (d.constrainAll names pattern).constraintFor? name =
      if name ∈ names then some pattern else d.constraintFor? name := by
  induction names generalizing d with
  | nil => rfl
  | cons first names ih =>
    have hfirst : (d.constraint first pattern).constraints.Sound := StringMap.sound_insert hd
    have hfound : (d.constraint first pattern).constraintFor? name =
        if name = first then some pattern else d.constraintFor? name := StringMap.get?_insert hd first pattern name
    have hstep : d.constrainAll (first :: names) pattern = (d.constraint first pattern).constrainAll names pattern :=
      rfl
    rw [hstep, ih hfirst, hfound]
    by_cases hname : name ∈ names
    · rw [if_pos hname, if_pos (List.mem_cons_of_mem _ hname)]
    · simp only [List.mem_cons, hname, or_false, if_false]

/-- Where only parameters without a constraint get one, the constraints that were there are kept. -/
theorem constraintFor?_constrainAll_of_some (hd : d.constraints.Sound) (hnames : names ⊆ d.unconstrained)
    {own : String} (hown : d.constraintFor? name = some own) :
    (d.constrainAll names pattern).constraintFor? name = some own := by
  have hnot : name ∉ names := fun hname => by
    rw [(mem_unconstrained_iff.1 (hnames hname)).2] at hown
    cases hown
  rw [constraintFor?_constrainAll names hd, if_neg hnot, hown]

end Descriptor

namespace Compiler

open Descriptor

variable {k k' : Compiler} {check : Checker φ} {d d' : Descriptor} {names : List String} {pattern : String} {r : Route}

/-! ## Matchers -/

/-- Constraints on parameters without one take the place of the fallback, if this is their pattern in its
group; those that get none need a compiler that has the same fallback. -/
theorem matcherText_constrainAll (hd : d.constraints.Sound) (hnames : names ⊆ d.unconstrained)
    (hfallback : k'.parameterPattern = grouped pattern) (hformat : k.formatPattern = k'.formatPattern)
    (hrest : ∀ name ∈ d.unconstrained, name ∉ names → k.parameterPattern = k'.parameterPattern) :
    k.matcherText (d.constrainAll names pattern) = k'.matcherText d := by
  have hslot : ∀ part ∈ d.parts, k.slotSource (d.constrainAll names pattern) part = k'.slotSource d part := by
    intro part hpart
    cases part with
    | literal text => rfl
    | format => exact hformat
    | parameter name =>
      have hparameter := mem_parameters_iff.2 hpart
      simp only [slotSource]
      cases hown : d.constraintFor? name with
      | some own => rw [constraintFor?_constrainAll_of_some hd hnames hown]
      | none =>
        rw [constraintFor?_constrainAll names hd, hown]
        by_cases hname : name ∈ names
        · rw [if_pos hname, hfallback]
          rfl
        · rw [if_neg hname]
          exact hrest name (mem_unconstrained_iff.2 ⟨hparameter, hown⟩) hname
  rw [matcherText, matcherText, parts_constrainAll, List.map_congr_left hslot]

/-! ## Checks -/

/-- If the pattern is accepted, there is nothing more to be checked. -/
theorem accepted_constrainAll_iff (hd : d.constraints.Sound) (hnames : names ⊆ d.unconstrained)
    (hp : Accepted check pattern) :
    (∀ o ∈ (d.constrainAll names pattern).constrained, Accepted check o.2) ↔
      ∀ o ∈ d.constrained, Accepted check o.2 := by
  constructor
  · intro h o ho
    obtain ⟨hparameter, hown⟩ := mem_constrained_iff.1 ho
    rw [← parameters_constrainAll names d pattern] at hparameter
    exact h o (mem_constrained_iff.2 ⟨hparameter, constraintFor?_constrainAll_of_some hd hnames hown⟩)
  · intro h o ho
    obtain ⟨hparameter, hfound⟩ := mem_constrained_iff.1 ho
    rw [parameters_constrainAll] at hparameter
    rw [constraintFor?_constrainAll names hd] at hfound
    by_cases hname : o.1 ∈ names
    · rw [if_pos hname] at hfound
      exact Option.some.inj hfound ▸ hp
    · rw [if_neg hname] at hfound
      exact h o (mem_constrained_iff.2 ⟨hparameter, hfound⟩)

/-! ## Routes -/

/-- Descriptors with the same template, verb and requirements, whose matchers have the same text, compile
to the same route if their constraints are accepted. -/
theorem compileBy_ok_of_matcherText_eq (h : (k.compileBy check d).value = .ok r)
    (hd : d' = { d with constraints := d'.constraints }) (htext : k'.matcherText d' = k.matcherText d)
    (hv : ∀ o ∈ d'.constrained, Accepted check o.2) : (k'.compileBy check d').value = .ok r := by
  obtain ⟨hc, hr⟩ := eq_of_compileBy h
  rw [← htext] at hc hr
  rw [compileBy_of_program hv hc, hr, hd]
  rfl

theorem compileBy_constrainAll_iff (hd : d.constraints.Sound) (hnames : names ⊆ d.unconstrained)
    (hp : Accepted check pattern) (htext : k.matcherText (d.constrainAll names pattern) = k'.matcherText d) :
    (k.compileBy check (d.constrainAll names pattern)).value = .ok r ↔ (k'.compileBy check d).value = .ok r := by
  have hsame := constrainAll_eq names d pattern
  have hchecked := accepted_constrainAll_iff hd hnames hp
  constructor
  · intro h
    have hv := (compileBy_ok h).2
    exact compileBy_ok_of_matcherText_eq h (by rw [hsame]) htext.symm (hchecked.1 hv)
  · intro h
    have hv := (compileBy_ok h).2
    exact compileBy_ok_of_matcherText_eq h hsame htext (hchecked.2 hv)

/-- A compiler's own fallback is the same as a constraint on every parameter that has none, for every
pattern that the compiler can be configured with and every descriptor that calls lead to. With this
fallback the descriptor compiles exactly if, with all these constraints, it does so for the compiler as it
was, and the two routes are the same. And with this fallback, constraints with its pattern on some of these
parameters change neither whether the descriptor compiles nor its route. The constraints may be set in any
order, and again. -/
theorem compileBy_fallback_iff_constraints (hk : k.withParameterPatternBy check pattern = .ok k') (hd : d.Built)
    (names : List String) :
    ((∀ name, name ∈ names ↔ name ∈ d.unconstrained) → ∀ r,
      (k'.compileBy check d).value = .ok r ↔ (k.compileBy check (d.constrainAll names pattern)).value = .ok r) ∧
    ((∀ name ∈ names, name ∈ d.unconstrained) → ∀ r,
      (k'.compileBy check (d.constrainAll names pattern)).value = .ok r ↔ (k'.compileBy check d).value = .ok r) := by
  obtain ⟨hp, rfl⟩ := map_group?_eq_ok hk
  refine ⟨fun hall r => ?_, fun hsome r => ?_⟩
  · have hnames : names ⊆ d.unconstrained := fun name => (hall name).1
    refine (compileBy_constrainAll_iff hd.sound hnames hp ?_).symm
    exact matcherText_constrainAll hd.sound hnames rfl rfl fun name hopen hnot => absurd ((hall name).2 hopen) hnot
  · refine compileBy_constrainAll_iff hd.sound (fun name => hsome name) hp ?_
    exact matcherText_constrainAll hd.sound (fun name => hsome name) rfl rfl fun _ _ _ => rfl

/-- Labels by number or name, with the number given twice. -/
def labelByName : Descriptor := .ofCalls "GET" [.literal "/", .parameter "id", .literal "/", .parameter "name",
  .literal "/", .parameter "id", .constraint "name" "[a-z]+", .servedBy "labels" "show"]

/-- Numbers or one word, as the fallback or as the constraint of the parameter that stands twice. -/
theorem labelByName_by_fallback : ∃ k' r, ({} : Compiler).withParameterPattern "[0-9]+|new" = .ok k' ∧
    (k'.compile labelByName).value = .ok r ∧
    (({} : Compiler).compile (labelByName.constrainAll ["id"] "[0-9]+|new")).value = .ok r ∧
    (k'.compile (labelByName.constrainAll ["id", "id"] "[0-9]+|new")).value = .ok r ∧
    r.matcherSource = "^/(?:[0-9]+|new)/(?:[a-z]+)/(?:[0-9]+|new)$" := by
  let k' : Compiler := { parameterPattern := "(?:[0-9]+|new)" }
  have hk : ({} : Compiler).withParameterPatternBy Pattern.compile "[0-9]+|new" = .ok k' := by decide +kernel
  obtain ⟨r, hr⟩ := exists_ok_of_isOk (show (k'.compile labelByName).value.isOk = true by decide +kernel)
  have hsource : (k'.compile labelByName).value.toOption.map (·.matcherSource) =
      some "^/(?:[0-9]+|new)/(?:[a-z]+)/(?:[0-9]+|new)$" := by decide +kernel
  rw [hr] at hsource
  have hopen : labelByName.unconstrained = ["id", "id"] := by decide +kernel
  have hd : labelByName.Built := ⟨_, _, rfl⟩
  refine ⟨k', r, hk, hr, ?_, ?_, Option.some.inj hsource⟩
  · exact ((compileBy_fallback_iff_constraints hk hd ["id"]).1 (by rw [hopen]; simp) r).1 hr
  · exact ((compileBy_fallback_iff_constraints hk hd ["id", "id"]).2 (by rw [hopen]; exact fun _ h => h) r).2 hr

end Compiler
end RouteTable
