/-
Descriptors that are built by calls. The calls add parts in order, and of the constraints on one name
and the requirements under one key the last one counts (`ofCalls_eq`). Compiling looks up constraints
only by the names of the template's parameters (`compileBy_congr`), and metadata are determined by what
they find. So two sequences of calls that say the same of the template, of its parameters and of every
requirement are compiled with the same result and the same events, in whatever order they say it
(`compile_ofCalls_eq`).
-/
import RouteTable.Proofs.Compiler.Relabel
import RouteTable.Proofs.Metadata.Containment

namespace RouteTable

variable {φ : Type}

/-! ## What a compilation looks at -/

namespace Compiler

/-- Of the constraints only those of the template's parameters play a role. -/
theorem compileBy_congr (k : Compiler) (check : Checker φ) (d : Descriptor) {constraints' : StringMap String}
    (h : ∀ name ∈ d.parameters, constraints'.get? name = d.constraints.get? name) :
    k.compileBy check { d with constraints := constraints' } = k.compileBy check d := by
  have hparts : d.parts = d.parts.map (TemplatePart.rename id) :=
    (List.map_id'' (fun part => by cases part <;> rfl) d.parts).symm
  have hsame : k.Relabels id d { d with constraints := constraints' } := relabels_of_rename rfl rfl hparts h
  exact hsame.compileBy_eq rfl check

end Compiler

/-! ## Calls -/

/-- A call on a descriptor that is being built. -/
inductive Call
  | literal (text : String)
  | parameter (name : String)
  | format
  | part (p : TemplatePart)
  | constraint (name pattern : String)
  | requirement (key value : String)
  | servedBy (controller action : String)
  deriving DecidableEq, Repr

namespace Call

def apply (d : Descriptor) : Call → Descriptor
  | literal text => d.literal text
  | parameter name => d.parameter name
  | format => d.format
  | part p => d.part p
  | constraint name pattern => d.constraint name pattern
  | requirement key value => d.requirement key value
  | servedBy controller action => d.servedBy controller action

/-- The parts that a call adds to the template. -/
def parts : Call → List TemplatePart
  | literal text => [.literal text]
  | parameter name => [.parameter name]
  | format => [.format]
  | part p => [p]
  | constraint .. | requirement .. | servedBy .. => []

/-- The constraints that a call sets, by name. -/
def constraints : Call → List (String × String)
  | constraint name pattern => [(name, pattern)]
  | literal .. | parameter .. | format | part .. | requirement .. | servedBy .. => []

/-- The requirements that a call sets, by key. -/
def requirements : Call → List (String × String)
  | requirement key value => [(key, value)]
  | servedBy controller action => [("controller", controller), ("action", action)]
  | literal .. | parameter .. | format | part .. | constraint .. => []

theorem apply_eq (d : Descriptor) (call : Call) : call.apply d = {
    verb := d.verb
    parts := d.parts ++ call.parts
    constraints := d.constraints.insertMany call.constraints
    metadata := ⟨d.metadata.map.insertMany call.requirements⟩ } := by
  cases call with
  | literal | parameter | format | part => rfl
  | constraint | requirement | servedBy => simp only [parts, List.append_nil]; rfl

end Call

namespace Descriptor

variable {calls calls' : List Call}

/-- The descriptor that the calls build, one after the other. -/
def ofCalls (verb : String) (calls : List Call) : Descriptor :=
  calls.foldl (fun d call => call.apply d) (ofVerb verb)

theorem foldl_apply (calls : List Call) (d : Descriptor) :
    calls.foldl (fun d call => call.apply d) d = {
      verb := d.verb
      parts := d.parts ++ calls.flatMap Call.parts
      constraints := d.constraints.insertMany (calls.flatMap Call.constraints)
      metadata := ⟨d.metadata.map.insertMany (calls.flatMap Call.requirements)⟩ } := by
  induction calls generalizing d with
  | nil => simp only [List.flatMap_nil, List.append_nil]; rfl
  | cons call calls ih =>
    rw [List.foldl_cons, ih, Call.apply_eq]
    simp only [List.flatMap_cons, List.append_assoc, StringMap.insertMany, List.foldl_append]

theorem ofCalls_eq (verb : String) (calls : List Call) : ofCalls verb calls = {
    verb
    parts := calls.flatMap Call.parts
    constraints := .ofInserts (calls.flatMap Call.constraints)
    metadata := .ofList (calls.flatMap Call.requirements) } :=
  foldl_apply calls (ofVerb verb)

/-- The descriptor is what calls lead to. -/
def Built (d : Descriptor) : Prop := ∃ verb calls, d = ofCalls verb calls

theorem Built.sound {d : Descriptor} (hd : d.Built) : d.constraints.Sound := by
  obtain ⟨verb, calls, rfl⟩ := hd
  rw [ofCalls_eq]
  exact StringMap.sound_ofInserts _

theorem Built.metadata {d : Descriptor} (hd : d.Built) : d.metadata.Built := by
  obtain ⟨verb, calls, rfl⟩ := hd
  rw [ofCalls_eq]
  exact ⟨_, rfl⟩

/-- What the last pair of a key says. -/
def last? (pairs : List (String × String)) (key : String) : Option String := pairs.reverse.lookup key

/-- A name is constrained by what the last call says that constrains it. -/
theorem constraintFor?_ofCalls (verb : String) (calls : List Call) (name : String) :
    (ofCalls verb calls).constraintFor? name = last? (calls.flatMap Call.constraints) name := by
  rw [ofCalls_eq, constraintFor?, StringMap.get?_ofInserts, last?]

/-- The constrained parameters of a template that is built by calls, each with the pattern that the last call
sets for its name. -/
def constrainedByCalls (calls : List Call) : List (String × String) :=
  (calls.flatMap Call.parts).filterMap fun
    | .parameter name => (last? (calls.flatMap Call.constraints) name).map (name, ·)
    | _ => none

theorem constrained_ofCalls (verb : String) (calls : List Call) :
    (ofCalls verb calls).constrained = constrainedByCalls calls := by
  have hparts : (ofCalls verb calls).parts = calls.flatMap Call.parts := by rw [ofCalls_eq]
  rw [constrained, parameters, hparts, List.filterMap_filterMap, constrainedByCalls]
  refine List.filterMap_congr fun part _ => ?_
  cases part with
  | literal text => rfl
  | format => rfl
  | parameter name => exact congrArg (Option.map (name, ·)) (constraintFor?_ofCalls verb calls name)

/-- A pair says nothing about other keys, wherever it stands. -/
theorem last?_of_ne {key other : String} (hne : other ≠ key) (value : String) (before after : List (String × String)) :
    last? (before ++ (key, value) :: after) other = last? (before ++ after) other := by
  have hother : (other == key) = false := beq_eq_false_iff_ne.2 hne
  simp only [last?, List.reverse_append, List.reverse_cons, List.append_assoc, List.lookup_append,
    List.lookup_cons, List.lookup_nil, hother, Option.none_or]

/-- Two sequences of calls say the same: they add the same parts, leave every parameter of the template
with the same constraint or without one, and every key with the same requirement or without one. -/
structure SaySame (calls calls' : List Call) : Prop where
  parts : calls.flatMap Call.parts = calls'.flatMap Call.parts
  constraints : ∀ name, .parameter name ∈ calls.flatMap Call.parts →
    last? (calls.flatMap Call.constraints) name = last? (calls'.flatMap Call.constraints) name
  requirements : ∀ key,
    last? (calls.flatMap Call.requirements) key = last? (calls'.flatMap Call.requirements) key

/-- A constraint on a name that is no parameter of the template says nothing. -/
theorem SaySame.constraint_absent {before after : List Call} {name : String}
    (h : SaySame (before ++ after) calls') (habsent : .parameter name ∉ (before ++ after).flatMap Call.parts)
    (pattern : String) : SaySame (before ++ .constraint name pattern :: after) calls' := by
  have hparts : (before ++ .constraint name pattern :: after).flatMap Call.parts =
      (before ++ after).flatMap Call.parts := by
    rw [List.flatMap_append, List.flatMap_cons, Call.parts, List.nil_append, List.flatMap_append]
  refine ⟨hparts.trans h.parts, fun other hother => ?_, fun key => ?_⟩
  · rw [hparts] at hother
    have hne : other ≠ name := by rintro rfl; exact habsent hother
    rw [← h.constraints other hother, List.flatMap_append, List.flatMap_append, List.flatMap_cons]
    exact last?_of_ne hne pattern _ _
  · rw [← h.requirements key, List.flatMap_append, List.flatMap_append, List.flatMap_cons, Call.requirements,
      List.nil_append]

theorem SaySame.compile_eq [Pattern.PropertyTable] (h : SaySame calls calls') (verb : String) (k : Compiler) :
    k.compile (ofCalls verb calls) = k.compile (ofCalls verb calls') := by
  have hmetadata : Metadata.ofList (calls.flatMap Call.requirements) =
      Metadata.ofList (calls'.flatMap Call.requirements) := by
    refine Metadata.Built.ext ⟨_, rfl⟩ ⟨_, rfl⟩ fun key => ?_
    have hkey := h.requirements key
    rw [last?, last?, ← StringMap.get?_ofInserts, ← StringMap.get?_ofInserts] at hkey
    exact hkey
  rw [ofCalls_eq, ofCalls_eq, ← hmetadata, ← h.parts]
  refine (Compiler.compileBy_congr k Pattern.compile _ fun name hname => ?_).symm
  have hconstraint := h.constraints name (Compiler.mem_parameters_iff.1 hname)
  rw [last?, last?, ← StringMap.get?_ofInserts, ← StringMap.get?_ofInserts] at hconstraint
  exact hconstraint.symm

/-- Two sequences of calls that say the same, beginning with the same verb, are compiled with the same
result, be it a route or an error with all that it tells, and with the same events. A constraint on a
name that is no parameter of the template changes none of this, wherever it is set and whether or not
it is a pattern at all. -/
theorem compile_ofCalls_eq [Pattern.PropertyTable] (h : SaySame calls calls') (verb : String) (k : Compiler) :
    k.compile (ofCalls verb calls) = k.compile (ofCalls verb calls') ∧
    ∀ before after name pattern, calls = before ++ after → .parameter name ∉ calls.flatMap Call.parts →
      k.compile (ofCalls verb (before ++ .constraint name pattern :: after)) =
        k.compile (ofCalls verb calls') := by
  refine ⟨h.compile_eq verb k, ?_⟩
  rintro before after name pattern rfl habsent
  exact (h.constraint_absent habsent pattern).compile_eq verb k

/-- The constraint comes before the parameter or after it, is set once or again, and one on no parameter
of the template is no pattern; the controller is set at once or after another. -/
theorem labels_said_twice :
    SaySame
      [.constraint "id" "[a-z", .literal "/labels/", .parameter "id", .constraint "id" "[0-9]+",
        .servedBy "labels" "show"]
      [.requirement "action" "show", .servedBy "posts" "show", .part (.literal "/labels/"),
        .constraint "id" "[0-9]+", .part (.parameter "id"), .requirement "controller" "labels"] ∧
    ({} : Compiler).compile (ofCalls "GET"
        [.constraint "id" "[a-z", .literal "/labels/", .parameter "id", .constraint "page" "(",
          .constraint "id" "[0-9]+", .servedBy "labels" "show"]) =
      ({} : Compiler).compile (ofCalls "GET"
        [.requirement "action" "show", .servedBy "posts" "show", .part (.literal "/labels/"),
          .constraint "id" "[0-9]+", .part (.parameter "id"), .requirement "controller" "labels"]) := by
  have hsame : SaySame
      [.constraint "id" "[a-z", .literal "/labels/", .parameter "id", .constraint "id" "[0-9]+",
        .servedBy "labels" "show"]
      [.requirement "action" "show", .servedBy "posts" "show", .part (.literal "/labels/"),
        .constraint "id" "[0-9]+", .part (.parameter "id"), .requirement "controller" "labels"] := by
    refine ⟨rfl, fun name hname => ?_, fun key => ?_⟩
    · obtain rfl : name = "id" := by simpa [Call.parts] using hname
      decide
    · by_cases hcontroller : key = "controller"
      · subst hcontroller; decide
      · by_cases haction : key = "action"
        · subst haction; decide
        · simp [last?, Call.requirements, List.lookup_cons, beq_eq_false_iff_ne.2 hcontroller,
            beq_eq_false_iff_ne.2 haction]
  refine ⟨hsame, (compile_ofCalls_eq hsame "GET" {}).2
    [.constraint "id" "[a-z", .literal "/labels/", .parameter "id"] _ "page" "(" rfl ?_⟩
  decide

end Descriptor

end RouteTable
