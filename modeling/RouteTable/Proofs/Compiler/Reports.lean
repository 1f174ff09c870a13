/-
The log of a batch. About each descriptor that a batch comes to, it reports what there is to warn about in
the constraints, up to the first that is refused, and then how the descriptor ended: as a route or left out,
or with nothing more where it ends the batch (`report`). The log is made of these reports, in order
(`events_extendBy`), so nothing is added, left out or reported twice without a line for it, and the routes of
a collection can be read off its log (`log_accounts_for_descriptors`).
-/
import RouteTable.Proofs.Compiler.Batch
import RouteTable.Proofs.Descriptor.Calls

namespace RouteTable

variable {φ : Type}

/-! ## What an event shows -/

namespace Event

/-- An event as it is shown. -/
structure Line where
  level : Level
  message : String
  fields : List (String × Value)
  deriving DecidableEq, Repr

def line (event : Event) : Line := ⟨event.level, event.message, event.fields⟩

end Event

open Event

namespace Compiler

/-- The pattern begins with `^` or ends with `$`. -/
def edgeAnchor (pattern : String) : Bool := ['^'] <+: pattern.toList ∨ ['$'] <:+ pattern.toList

/-- A warning for each constraint that begins or ends so, in order, up to the first that is refused by itself. -/
def warnings (check : Checker φ) (constraints : List (String × String)) : List Line :=
  ((constraints.takeWhile fun o => (check o.2).isOk).filter fun o => edgeAnchor o.2).map fun o =>
    ⟨.warn, "constraint anchors apply to the whole path, not the parameter",
      [("parameter", .text o.1), ("pattern", .text o.2)]⟩

def compiledLine (r : Route) : Line :=
  ⟨.trace, "compiled route", [("verb", .text r.verb), ("path", .text r.path), ("matcher", .text r.matcherSource)]⟩

def skippedLine (d : Descriptor) (e : CompileError) : Line :=
  ⟨.warn, "skipping route", [("verb", .text d.verb), ("error", .text e.message)]⟩

/-- How a descriptor ended, under a policy. -/
def ending (policy : BatchPolicy) (d : Descriptor) : Except CompileError Route → List Line
  | .ok r => [compiledLine r]
  | .error e =>
    match policy with
    | .skip => [skippedLine d e]
    | .abort => []

/-- All that a batch reports about one descriptor: about the constraints that are found for its parameters, in
template order, and about how it ended. -/
def report (k : Compiler) (check : Checker) (policy : BatchPolicy) (d : Descriptor) : List Line :=
  warnings check d.constrained ++ ending policy d (k.compileBy check d).value

variable {k : Compiler} {check : Checker} {policy : BatchPolicy} {d : Descriptor} {ds : List Descriptor}
  {r : Route} {e : CompileError}

/-! ## One descriptor -/

theorem looksAnchored_eq (pattern : String) : looksAnchored pattern = edgeAnchor pattern := by
  rw [looksAnchored, edgeAnchor, Bool.eq_iff_iff, Bool.or_eq_true, beq_iff_eq, beq_iff_eq, decide_eq_true_iff,
    List.singleton_prefix_iff_head?_eq_some, List.singleton_suffix_iff_getLast?_eq_some]

theorem events_vet (check : Checker φ) : ∀ constraints : List (String × String),
    (vet check constraints).events.map line = warnings check constraints
  | [] => rfl
  | (name, pattern) :: rest => by
    have ih := events_vet check rest
    cases hc : check pattern with
    | error fault =>
      simp only [vet, checkConstraint, hc, Traced.andThen, warnings, List.takeWhile_cons, Except.isOk, Except.toBool]
      rfl
    | ok program =>
      simp only [vet, checkConstraint, hc, Traced.andThen, List.map_append, ih, looksAnchored_eq]
      simp only [warnings, List.takeWhile_cons, hc, Except.isOk, Except.toBool, if_true, List.filter_cons]
      cases edgeAnchor pattern <;> rfl

/-- A compilation reports by itself what there is to report when the descriptor ends a batch. -/
theorem events_compileBy (k : Compiler) (check : Checker) (d : Descriptor) :
    (k.compileBy check d).events.map line = k.report check .abort d := by
  have hvet := events_vet check d.constrained
  rw [report, compileBy_eq]
  generalize vet check d.constrained = vetted at hvet ⊢
  obtain ⟨_ | _, events⟩ := vetted
  · simp only [Traced.andThen, ending, List.append_nil]
    exact hvet
  · cases hc : check (k.assemble d d.constrained.length) with
    | error fault =>
      simp only [Traced.andThen, finish_of_error hc, ending, List.append_nil]
      exact hvet
    | ok program =>
      simp only [Traced.andThen, finish_of_ok hc, ending, List.map_append]
      exact congrArg (· ++ _) hvet

theorem report_of_ok (policy : BatchPolicy) (h : (k.compileBy check d).value = .ok r) :
    k.report check policy d = (k.compileBy check d).events.map line := by
  rw [events_compileBy, report, report, h]
  rfl

theorem report_skip_of_error (h : (k.compileBy check d).value = .error e) :
    k.report check .skip d = (k.compileBy check d).events.map line ++ [skippedLine d e] := by
  rw [events_compileBy, report, report, h]
  simp only [ending, List.append_nil]

theorem level_report (k : Compiler) (check : Checker) (policy : BatchPolicy) (d : Descriptor) :
    ∀ l ∈ k.report check policy d, l.level ≠ .debug := by
  intro l hl
  rcases List.mem_append.1 hl with hl | hl
  · obtain ⟨o, -, rfl⟩ := List.mem_map.1 hl
    rintro ⟨⟩
  · cases hc : (k.compileBy check d).value with
    | ok r =>
      rw [hc] at hl
      rw [List.mem_singleton.1 hl]
      rintro ⟨⟩
    | error e =>
      rw [hc] at hl
      cases policy with
      | skip =>
        rw [List.mem_singleton.1 hl]
        rintro ⟨⟩
      | abort => exact absurd hl List.not_mem_nil

/-! ## Batches -/

/-- The log of a batch consists of its reports about the descriptors that it came to. Unless it came to all of
them, it has failed; and a batch that fails does so at the last descriptor that it came to. -/
theorem events_extendBy (k : Compiler) (check : Checker) (policy : BatchPolicy) (ds : List Descriptor) :
    ∀ c : Collection, ∃ done rest, ds = done ++ rest ∧
      (k.extendBy check policy c ds).events.map line = done.flatMap (k.report check policy) ∧
      (rest = [] ∨ policy = .abort ∧ ∃ e, (k.extendBy check policy c ds).value = .error e) ∧
      ∀ e, (k.extendBy check policy c ds).value = .error e →
        ∃ before d, done = before ++ [d] ∧ (∀ d' ∈ before, ∃ r, (k.compileBy check d').value = .ok r) ∧
          (k.compileBy check d).value = .error e := by
  induction ds with
  | nil =>
    intro c
    refine ⟨[], [], rfl, rfl, .inl rfl, fun e h => ?_⟩
    cases h
  | cons d ds ih =>
    intro c
    cases hd : (k.compileBy check d).value with
    | ok r =>
      obtain ⟨done, rest, hds, hlog, hrest, hfail⟩ := ih (c.add r)
      rw [extendBy_of_ok policy c ds hd]
      refine ⟨d :: done, rest, by rw [hds, List.cons_append], ?_, hrest, fun e he => ?_⟩
      · rw [List.map_append, hlog, List.flatMap_cons, report_of_ok policy hd]
      · obtain ⟨before, last, hdone, hbefore, hlast⟩ := hfail e he
        exact ⟨d :: before, last, by rw [hdone, List.cons_append],
          List.forall_mem_cons.2 ⟨⟨r, hd⟩, hbefore⟩, hlast⟩
    | error e =>
      cases policy with
      | skip =>
        obtain ⟨done, rest, hds, hlog, hrest, hfail⟩ := ih c
        rw [extendBy_skip_of_error c ds hd]
        refine ⟨d :: done, rest, by rw [hds, List.cons_append], ?_, hrest, fun e' he => ?_⟩
        · rw [List.map_append, List.map_cons, hlog, List.flatMap_cons, report_skip_of_error hd, List.append_assoc]
          rfl
        · rw [extendBy_skip] at he
          cases he
      | abort =>
        rw [extendBy_abort_of_error c ds hd]
        refine ⟨[d], ds, rfl, ?_, .inr ⟨rfl, e, rfl⟩, fun e' he => ⟨[], d, rfl, ?_, ?_⟩⟩
        · rw [List.flatMap_singleton, events_compileBy]
        · exact fun _ hnone => absurd hnone List.not_mem_nil
        · rw [hd]; exact congrArg _ (Except.error.inj he)

/-- A batch reports what is noteworthy about descriptors and routes; it never reports that anything
was published. -/
theorem level_extendBy (k : Compiler) (check : Checker) (policy : BatchPolicy) (ds : List Descriptor)
    (c : Collection) : ∀ event ∈ (k.extendBy check policy c ds).events, event.level ≠ .debug := by
  intro event h
  obtain ⟨done, -, -, hlog, -⟩ := events_extendBy k check policy ds c
  have hline : event.line ∈ done.flatMap (k.report check policy) := hlog ▸ List.mem_map_of_mem h
  obtain ⟨d, -, hd⟩ := List.mem_flatMap.1 hline
  exact level_report k check policy d event.line hd

/-! ## Counting -/

/-- The lines at the level of single routes. -/
def traces (log : List Line) : List Line := log.filter (·.level = .trace)

/-- The lines about descriptors that were left out. -/
def skips (log : List Line) : List Line := log.filter (·.message = "skipping route")

theorem traces_append (log log' : List Line) : traces (log ++ log') = traces log ++ traces log' :=
  List.filter_append ..

theorem skips_append (log log' : List Line) : skips (log ++ log') = skips log ++ skips log' :=
  List.filter_append ..

theorem traces_warnings (check : Checker φ) (constraints : List (String × String)) :
    traces (warnings check constraints) = [] := by
  refine List.filter_eq_nil_iff.2 fun l hl => ?_
  obtain ⟨o, -, rfl⟩ := List.mem_map.1 hl
  rintro ⟨⟩

theorem skips_warnings (check : Checker φ) (constraints : List (String × String)) :
    skips (warnings check constraints) = [] := by
  refine List.filter_eq_nil_iff.2 fun l hl => ?_
  obtain ⟨o, -, rfl⟩ := List.mem_map.1 hl
  simp

/-- There is one trace about a descriptor that compiles, and none about another. -/
theorem traces_report (k : Compiler) (check : Checker) (policy : BatchPolicy) (d : Descriptor) :
    traces (k.report check policy d) = ending .abort d (k.compileBy check d).value := by
  rw [report, traces_append, traces_warnings, List.nil_append]
  cases (k.compileBy check d).value with
  | ok r => rfl
  | error e => cases policy <;> rfl

theorem skips_report_of_ok (policy : BatchPolicy) (h : (k.compileBy check d).value = .ok r) :
    skips (k.report check policy d) = [] := by
  rw [report, h, skips_append, skips_warnings]
  rfl

theorem skips_report_of_error (h : (k.compileBy check d).value = .error e) :
    skips (k.report check .skip d) = [skippedLine d e] := by
  rw [report, h, skips_append, skips_warnings]
  rfl

/-- The routes can be read off the log. -/
theorem traces_flatMap (k : Compiler) (check : Checker) (policy : BatchPolicy) (ds : List Descriptor) :
    traces (ds.flatMap (k.report check policy)) = (k.routesOf check ds).map compiledLine := by
  induction ds with
  | nil => rfl
  | cons d ds ih =>
    rw [List.flatMap_cons, traces_append, traces_report, ih]
    cases hc : (k.compileBy check d).value with
    | ok r => rw [routesOf_of_ok ds hc]; rfl
    | error e => rw [routesOf_of_error ds hc]; rfl

/-- Each descriptor gives a route or is reported as left out. -/
theorem length_routesOf_add_skips (hall : policy = .skip ∨ ∀ d ∈ ds, ∃ r, (k.compileBy check d).value = .ok r) :
    (k.routesOf check ds).length + (skips (ds.flatMap (k.report check policy))).length = ds.length := by
  induction ds with
  | nil => rfl
  | cons d ds ih =>
    have hrest := ih (hall.imp_right fun h => (List.forall_mem_cons.1 h).2)
    rw [List.flatMap_cons, skips_append, List.length_append, List.length_cons]
    cases hc : (k.compileBy check d).value with
    | ok r =>
      rw [routesOf_of_ok ds hc, skips_report_of_ok policy hc, List.length_cons, List.length_nil]
      omega
    | error e =>
      obtain rfl : policy = .skip := hall.resolve_right fun h => by
        obtain ⟨r, hr⟩ := (List.forall_mem_cons.1 h).1
        rw [hc] at hr
        cases hr
      rw [routesOf_of_error ds hc, skips_report_of_error hc, List.length_singleton]
      omega

/-- The log of a batch accounts for every descriptor, for every compiler, checker, policy and list of
descriptors. It consists, in order, of what is reported about the descriptors that the batch comes to, which are
all unless it aborts: a warning for each constrained parameter, in template order, whose pattern begins with `^`
or ends with `$`, up to the first whose pattern is refused by itself; and then one trace of the route, or one
warning with the message of the error if the descriptor is left out, or nothing if the batch ends with it. Which
parameters of a template that is built by calls are constrained, and by what, is what the last call says of each
name. A batch that fails does so at the last descriptor that it comes to, the first that does not compile. If it
succeeds, then the traces show the routes of the collection, one for each and in order, and together with the
lines about those left out there are as many as descriptors. -/
theorem log_accounts_for_descriptors (k : Compiler) (check : Checker) (policy : BatchPolicy) (ds : List Descriptor) :
    (∃ done rest, ds = done ++ rest ∧
      (k.compileAllBy check policy ds).events.map line = done.flatMap (k.report check policy) ∧
      (rest = [] ∨ policy = .abort ∧ ∃ e, (k.compileAllBy check policy ds).value = .error e) ∧
      ∀ e, (k.compileAllBy check policy ds).value = .error e →
        ∃ before d, done = before ++ [d] ∧ (∀ d' ∈ before, ∃ r, (k.compileBy check d').value = .ok r) ∧
          (k.compileBy check d).value = .error e) ∧
    (∀ verb calls, (Descriptor.ofCalls verb calls).constrained = Descriptor.constrainedByCalls calls) ∧
    ∀ c, (k.compileAllBy check policy ds).value = .ok c →
      traces ((k.compileAllBy check policy ds).events.map line) = c.routes.map compiledLine ∧
      (traces ((k.compileAllBy check policy ds).events.map line)).length = c.size ∧
      (traces ((k.compileAllBy check policy ds).events.map line)).length +
        (skips ((k.compileAllBy check policy ds).events.map line)).length = ds.length := by
  obtain ⟨done, rest, hds, hlog, hrest, hfail⟩ := events_extendBy k check policy ds ∅
  refine ⟨⟨done, rest, hds, hlog, hrest, hfail⟩, Descriptor.constrained_ofCalls, fun c hc => ?_⟩
  obtain ⟨hall, rfl⟩ := compileAllBy_ok k check ds hc
  have hall' : rest = [] := hrest.resolve_right fun hfailed => by
    obtain ⟨-, e, he⟩ := hfailed
    have hvalue : (k.compileAllBy check policy ds).value = .error e := he
    rw [hc] at hvalue
    cases hvalue
  obtain rfl : ds = done := by rw [hds, hall', List.append_nil]
  have hlines : (k.compileAllBy check policy ds).events.map line = ds.flatMap (k.report check policy) := hlog
  rw [hlines, traces_flatMap, List.length_map]
  exact ⟨rfl, rfl, length_routesOf_add_skips hall⟩

end Compiler
end RouteTable
