/-
What one walk through a template collects. The path, the parameters and the constrained parameters can be
read off the parts one by one, without the walk (`Descriptor.path`, `Descriptor.parameters`,
`Descriptor.constrained`), and so can the fragments of the matcher. The walk collects just these and counts
the constraints, unless one of them is refused by itself (`gather_eq`). So a compilation checks the constrained
parameters in template order, and then makes a route of what is read off the template (`compileBy_eq`).
-/
import RouteTable.Compiler

namespace RouteTable

variable {φ : Type}

/-! ## Reading a template -/

/-- The part as the route's path displays it. -/
def TemplatePart.display : TemplatePart → String
  | literal text => text
  | parameter name => ":" ++ name
  | format => ""

namespace Descriptor

/-- The template as it is displayed. -/
def path (d : Descriptor) : String := String.join (d.parts.map TemplatePart.display)

/-- The names of the parameters in template order, repetitions kept. -/
def parameters (d : Descriptor) : List String :=
  d.parts.filterMap fun
    | .parameter name => some name
    | _ => none

/-- The constrained parameters in template order, each with its pattern, repetitions kept. -/
def constrained (d : Descriptor) : List (String × String) :=
  d.parameters.filterMap fun name => (d.constraintFor? name).map (name, ·)

/-- The constrained parameters that `parts` begin with. -/
theorem constrained_cons (d : Descriptor) (part : TemplatePart) (parts : List TemplatePart) :
    ({ d with parts := part :: parts } : Descriptor).constrained =
      ({ d with parts := [part] } : Descriptor).constrained ++
        ({ d with parts := parts } : Descriptor).constrained := by
  cases part with
  | literal text => rfl
  | format => rfl
  | parameter name =>
    simp only [constrained, parameters, constraintFor?, List.filterMap_cons, List.filterMap_nil]
    cases d.constraints.get? name <;> rfl

theorem constrained_parameter (d : Descriptor) (name : String) :
    ({ d with parts := [.parameter name] } : Descriptor).constrained =
      ((d.constraintFor? name).map (name, ·)).toList := by
  simp only [constrained, parameters, constraintFor?, List.filterMap_cons, List.filterMap_nil]
  cases d.constraints.get? name <;> rfl

theorem parameters_cons (d : Descriptor) (part : TemplatePart) (parts : List TemplatePart) :
    ({ d with parts := part :: parts } : Descriptor).parameters =
      ({ d with parts := [part] } : Descriptor).parameters ++ ({ d with parts := parts } : Descriptor).parameters := by
  cases part <;> rfl

end Descriptor

/-! ## Results one after the other -/

namespace Traced

variable {α β γ ε : Type}

theorem andThen_of_ok {t : Traced (Except ε α)} {a : α} (h : t.value = .ok a) (next : α → Traced (Except ε β)) :
    t.andThen next = ⟨(next a).value, t.events ++ (next a).events⟩ := by
  obtain ⟨value, events⟩ := t
  cases h
  rfl

theorem andThen_of_error {t : Traced (Except ε α)} {e : ε} (h : t.value = .error e)
    (next : α → Traced (Except ε β)) : t.andThen next = ⟨.error e, t.events⟩ := by
  obtain ⟨value, events⟩ := t
  cases h
  rfl

theorem andThen_assoc (t : Traced (Except ε α)) (f : α → Traced (Except ε β)) (g : β → Traced (Except ε γ)) :
    (t.andThen f).andThen g = t.andThen fun a => (f a).andThen g := by
  cases h : t.value with
  | error e => rw [andThen_of_error h, andThen_of_error h]; rfl
  | ok a =>
    rw [andThen_of_ok h, andThen_of_ok h]
    cases hf : (f a).value with
    | error e => rw [andThen_of_error hf, andThen_of_error rfl]
    | ok b => rw [andThen_of_ok hf, andThen_of_ok rfl, List.append_assoc]

end Traced

namespace Compiler

variable {k : Compiler} {check : Checker φ} {d : Descriptor}

/-! ## What is collected -/

/-- The texts that a part adds to the path. -/
def pathTexts : TemplatePart → List String
  | .literal text => [text]
  | .parameter name => [":", name]
  | .format => []

/-- The fragment that a part adds to the matcher. -/
def fragment (k : Compiler) (d : Descriptor) : TemplatePart → Fragment
  | .literal text => .raw text
  | .format => .raw k.formatPattern
  | .parameter name =>
    match d.constraintFor? name with
    | none => .raw k.parameterPattern
    | some pattern => .constraint name pattern

def fragments (k : Compiler) (d : Descriptor) : List Fragment := d.parts.map (k.fragment d)

/-- What is read off a template. -/
def draft (k : Compiler) (d : Descriptor) : Draft where
  pathTexts := d.parts.flatMap pathTexts
  fragments := k.fragments d
  parameters := d.parameters
  constraints := d.constrained.length

/-- What has been collected from parts and then from others. -/
def Draft.append (a b : Draft) : Draft where
  pathTexts := a.pathTexts ++ b.pathTexts
  fragments := a.fragments ++ b.fragments
  parameters := a.parameters ++ b.parameters
  constraints := a.constraints + b.constraints

theorem Draft.append_assoc (a b c : Draft) : (a.append b).append c = a.append (b.append c) := by
  simp only [append, List.append_assoc, Nat.add_assoc]

theorem draft_cons (k : Compiler) (d : Descriptor) (part : TemplatePart) (parts : List TemplatePart) :
    k.draft { d with parts := part :: parts } =
      (k.draft { d with parts := [part] }).append (k.draft { d with parts }) := by
  simp only [draft, Draft.append, fragments, Descriptor.constrained_cons d part parts, List.length_append,
    Descriptor.parameters_cons d part parts, List.flatMap_cons, List.flatMap_nil, List.append_nil]
  rfl

theorem draft_of_unconstrained {name : String} (h : d.constraintFor? name = none) :
    k.draft { d with parts := [.parameter name] } = ⟨[":", name], [.raw k.parameterPattern], [name], 0⟩ := by
  have hfound : d.constraints.get? name = none := h
  simp only [draft, fragments, Descriptor.constrained_parameter, List.map_cons, List.map_nil, fragment,
    Descriptor.constraintFor?, hfound]
  rfl

theorem draft_of_constrained {name pattern : String} (h : d.constraintFor? name = some pattern) :
    k.draft { d with parts := [.parameter name] } = ⟨[":", name], [.constraint name pattern], [name], 1⟩ := by
  have hfound : d.constraints.get? name = some pattern := h
  simp only [draft, fragments, Descriptor.constrained_parameter, List.map_cons, List.map_nil, fragment,
    Descriptor.constraintFor?, hfound]
  rfl

/-- The texts of the path make up the path. -/
theorem join_pathTexts : ∀ parts : List TemplatePart,
    String.join (parts.flatMap pathTexts) = String.join (parts.map TemplatePart.display)
  | [] => rfl
  | .literal text :: parts => by
    rw [List.map_cons, String.join_cons, ← join_pathTexts parts, List.flatMap_cons, pathTexts, List.singleton_append,
      String.join_cons]
    rfl
  | .parameter name :: parts => by
    rw [List.map_cons, String.join_cons, ← join_pathTexts parts, List.flatMap_cons, pathTexts, List.cons_append,
      List.singleton_append, String.join_cons, String.join_cons, TemplatePart.display, String.append_assoc]
  | .format :: parts => by
    rw [List.map_cons, String.join_cons, ← join_pathTexts parts, TemplatePart.display, String.empty_append]
    rfl

/-- The constraints among the fragments are those of the constrained parameters. -/
theorem constraints_fragments (k : Compiler) (d : Descriptor) : ∀ parts : List TemplatePart,
    (parts.map (k.fragment d)).filterMap Fragment.constraint? = ({ d with parts } : Descriptor).constrained
  | [] => rfl
  | part :: parts => by
    rw [Descriptor.constrained_cons, ← constraints_fragments k d parts, List.map_cons]
    cases part with
    | literal text => rfl
    | format => rfl
    | parameter name =>
      rw [Descriptor.constrained_parameter]
      cases hc : d.constraintFor? name with
      | none => simp only [fragment, hc]; rfl
      | some pattern => simp only [fragment, hc]; rfl

/-! ## The walk -/

/-- Checks constraints by themselves, up to the first that is refused. -/
def vet (check : Checker φ) : List (String × String) → Traced (Except (CompileError φ) Unit)
  | [] => ⟨.ok (), []⟩
  | (name, pattern) :: rest => (checkConstraint check name pattern).andThen fun _ => vet check rest

theorem vet_append (check : Checker φ) (os os' : List (String × String)) :
    vet check (os ++ os') = (vet check os).andThen fun _ => vet check os' := by
  induction os with
  | nil => rfl
  | cons o os ih => rw [List.cons_append, vet, ih, vet, Traced.andThen_assoc]

/-- Where there is nothing to check, what has been collected goes on as it is. -/
theorem vet_nil_andThen (check : Checker φ) (draft : Draft) :
    (vet check []).andThen (fun _ => ⟨.ok draft, []⟩) = (⟨.ok draft, []⟩ : Traced (Except (CompileError φ) Draft)) :=
  rfl

/-- A part is taken up when its constraint, if it has one, has been checked. -/
theorem gatherPart_eq (k : Compiler) (check : Checker φ) (d : Descriptor) (soFar : Draft) (part : TemplatePart) :
    k.gatherPart check d soFar part =
      (vet check ({ d with parts := [part] } : Descriptor).constrained).andThen fun _ =>
        ⟨.ok (soFar.append (k.draft { d with parts := [part] })), []⟩ := by
  cases part with
  | literal text =>
    have hnone : ({ d with parts := [.literal text] } : Descriptor).constrained = [] := rfl
    have hadds : k.draft { d with parts := [.literal text] } = ⟨[text], [.raw text], [], 0⟩ := rfl
    rw [hnone, hadds, vet_nil_andThen]
    simp [gatherPart, Draft.append]
  | format =>
    have hnone : ({ d with parts := [.format] } : Descriptor).constrained = [] := rfl
    have hadds : k.draft { d with parts := [.format] } = ⟨[], [.raw k.formatPattern], [], 0⟩ := rfl
    rw [hnone, hadds, vet_nil_andThen]
    simp [gatherPart, Draft.append]
  | parameter name =>
    rw [Descriptor.constrained_parameter]
    cases hc : d.constraintFor? name with
    | none =>
      rw [draft_of_unconstrained hc, Option.map_none, Option.toList_none, vet_nil_andThen]
      simp [gatherPart, hc, Draft.append]
    | some pattern =>
      have hvet : vet check ((some pattern).map (name, ·)).toList =
          (checkConstraint check name pattern).andThen fun _ => ⟨.ok (), []⟩ := rfl
      rw [draft_of_constrained hc, hvet, Traced.andThen_assoc]
      simp only [gatherPart, hc]
      rfl

/-- Parts are taken up when their constraints have been checked, up to the first that is refused. -/
theorem gather_eq (k : Compiler) (check : Checker φ) (d : Descriptor) : ∀ (parts : List TemplatePart) (soFar : Draft),
    k.gather check d soFar parts =
      (vet check ({ d with parts } : Descriptor).constrained).andThen fun _ =>
        ⟨.ok (soFar.append (k.draft { d with parts })), []⟩
  | [], soFar => by
    have hnothing : soFar.append (k.draft { d with parts := [] }) = soFar := by
      simp [Draft.append, draft, fragments, Descriptor.parameters, Descriptor.constrained]
    rw [hnothing]
    rfl
  | part :: parts, soFar => by
    rw [gather, gatherPart_eq, Descriptor.constrained_cons d part parts, vet_append, Traced.andThen_assoc,
      Traced.andThen_assoc]
    refine congrArg _ (funext fun _ => ?_)
    rw [draft_cons k d part parts, ← Draft.append_assoc]
    exact gather_eq k check d parts _

/-- A compilation checks the constraints of the template's parameters by themselves, and then makes a route of
what is read off the template. -/
theorem compileBy_eq (k : Compiler) (check : Checker φ) (d : Descriptor) :
    k.compileBy check d = (vet check d.constrained).andThen fun _ => k.finish check d (k.draft d) := by
  have hempty : (({} : Draft).append (k.draft d)) = k.draft d := by
    simp [Draft.append, draft]
  rw [compileBy, gather_eq, Traced.andThen_assoc, hempty]
  rfl

/-! ## What is made of it -/

/-- The anchored matcher of a template with the first `inline` constraints in their places. -/
def assemble (k : Compiler) (d : Descriptor) (inline : Nat) : String := k.matcher (k.fragments d) inline

/-- The part responsible for a matcher that is refused for `fault`. -/
def blame (k : Compiler) (check : Checker φ) (d : Descriptor) (fault : φ) : CompileError φ :=
  k.culprit check (k.fragments d) d.path fault

/-- The route with this program for its matcher. -/
def routeOf (k : Compiler) (d : Descriptor) (program : Pattern.Node) : Route where
  path := d.path
  parameters := d.parameters
  verb := d.verb
  metadata := d.metadata
  matcherSource := k.assemble d d.constrained.length
  program := program

theorem finish_of_ok {program : Pattern.Node} (h : check (k.assemble d d.constrained.length) = .ok program) :
    k.finish check d (k.draft d) =
      ⟨.ok (k.routeOf d program), [.compiled d.verb d.path (k.assemble d d.constrained.length)]⟩ := by
  have hmatcher : check (k.matcher (k.fragments d) d.constrained.length) = .ok program := h
  simp only [finish, draft, hmatcher, join_pathTexts]
  rfl

theorem finish_of_error {fault : φ} (h : check (k.assemble d d.constrained.length) = .error fault) :
    k.finish check d (k.draft d) = ⟨.error (k.blame check d fault), []⟩ := by
  have hmatcher : check (k.matcher (k.fragments d) d.constrained.length) = .error fault := h
  simp only [finish, draft, hmatcher, join_pathTexts]
  rfl

theorem blame_of_error {fault : φ} (h : check (k.assemble d 0) = .error fault) (last : φ) :
    k.blame check d last = .template d.path fault := by
  have hmatcher : check (k.matcher (k.fragments d) 0) = .error fault := h
  simp only [blame, culprit, hmatcher]

theorem blame_of_ok {program : Pattern.Node} (h : check (k.assemble d 0) = .ok program) (last : φ) :
    k.blame check d last = k.culpritAmong check (k.fragments d) d.path last 1 d.constrained := by
  have hmatcher : check (k.matcher (k.fragments d) 0) = .ok program := h
  have hconstraints := constraints_fragments k d d.parts
  simp only [blame, culprit, hmatcher]
  rw [fragments, hconstraints]

/-! ## The text of a matcher -/

/-- The texts of parts in the matcher. The first `inline` constrained parameters show their constraint,
the others the fallback. -/
def pieces (k : Compiler) (constraints : StringMap String) :
    Nat → List TemplatePart → List String
  | _, [] => []
  | inline, .literal text :: ps => text :: k.pieces constraints inline ps
  | inline, .format :: ps => k.formatPattern :: k.pieces constraints inline ps
  | inline, .parameter name :: ps =>
    match constraints.get? name, inline with
    | none, inline => k.parameterPattern :: k.pieces constraints inline ps
    | some _, 0 => k.parameterPattern :: k.pieces constraints 0 ps
    | some pattern, inline + 1 => ("(?:" ++ pattern ++ ")") :: k.pieces constraints inline ps

/-- To count the constraints that have been seen is to count down those that are still to be put in place. -/
theorem texts_fragments (k : Compiler) (d : Descriptor) (inline : Nat) : ∀ (parts : List TemplatePart) (seen : Nat),
    k.texts inline seen (parts.map (k.fragment d)) = k.pieces d.constraints (inline - seen) parts
  | [], _ => rfl
  | part :: parts, seen => by
    have ih := texts_fragments k d inline parts
    cases part with
    | literal text => simp only [List.map_cons, fragment, texts, pieces, ih]
    | format => simp only [List.map_cons, fragment, texts, pieces, ih]
    | parameter name =>
      cases hc : d.constraints.get? name with
      | none => simp only [List.map_cons, fragment, Descriptor.constraintFor?, hc, texts, pieces, ih]
      | some pattern =>
        rcases Nat.lt_or_ge seen inline with hlt | hge
        · obtain ⟨left, hleft⟩ : ∃ left, inline - seen = left + 1 := ⟨inline - seen - 1, by omega⟩
          have hnext : inline - (seen + 1) = left := by omega
          simp only [List.map_cons, fragment, Descriptor.constraintFor?, hc, texts, if_pos hlt, hleft, pieces, ih,
            hnext]
          rfl
        · have hnone : inline - seen = 0 := by omega
          have hnext : inline - (seen + 1) = 0 := by omega
          simp only [List.map_cons, fragment, Descriptor.constraintFor?, hc, texts, if_neg (Nat.not_lt.2 hge), hnone,
            pieces, ih, hnext]

theorem assemble_eq_pieces (k : Compiler) (d : Descriptor) (inline : Nat) :
    k.assemble d inline = "^" ++ String.join (k.pieces d.constraints inline d.parts) ++ "$" := by
  rw [assemble, matcher, fragments, texts_fragments, Nat.sub_zero]

end Compiler
end RouteTable
