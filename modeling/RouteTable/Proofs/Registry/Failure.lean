/-
Failing calls. A call fails if the list that its own read was handed does not compile, and then it
fails for the reason that the batch gives. Of the registry it changes nothing but the log, to which it
adds what the batch reports; what is published is what the operations during its read have left
(`failed_call_leaves_registry`). Where descriptors that do not compile are left out, no call fails.
-/
import RouteTable.Proofs.Compiler.Reports
import RouteTable.Proofs.Registry.Answers

namespace RouteTable.Registry

/-- The operation is a call that reads the source if it has to build, with `during` in that read. -/
def Operation.MayRead (op : Operation) (during : List Operation) : Prop :=
  op = .routes during ∨ op = .rebuild during

variable {r : Registry} {op : Operation} {during : List Operation} {e : CompileError}

theorem replace_eq_of_error {ds : List Descriptor} (read : Nat)
    (hc : (r.compiler.compileAllBy r.checker r.policy ds).value = .error e) :
    r.replace read ds = (.failed e, r.logged (r.compiler.compileAllBy r.checker r.policy ds).events) := by
  rw [replace, build_eq_of_error read hc]

/-- Only a list that does not compile makes the end of a build fail. -/
theorem Ended.compileAll_of_failed {read : Nat} {ds : List Descriptor} {o : Answer × Registry}
    (h : Ended r read ds o) (hfailed : o.1 = .failed e) :
    (r.compiler.compileAllBy r.checker r.policy ds).value = .error e := by
  cases h with
  | failed e' hq hc => cases hfailed; exact hc
  | kept g => cases hfailed
  | fresh g => cases hfailed

/-- A failing call is one whose list does not compile, and it ends like a `rebuild`. -/
theorem perform_of_failed (hop : op.MayRead during) (h : (r.perform op).1.answer = .failed e) :
    ((r.afterRead during).compiler.compileAllBy (r.afterRead during).checker (r.afterRead during).policy
      r.source).value = .error e ∧
      (r.perform op).2 = ((r.afterRead during).replace r.reads r.source).2 := by
  rcases hop with rfl | rfl
  · cases hp : r.published with
    | some p =>
      obtain ⟨g, hout, -⟩ := perform_routes_of_published hp during
      rw [hout] at h; cases h
    | none =>
      obtain ⟨hans, -, hreg⟩ := perform_routes_of_unpublished hp during
      rw [hans] at h
      have hc := (settle_ended ..).compileAll_of_failed h
      exact ⟨hc, by rw [hreg, settle_of_error _ hc]⟩
  · obtain ⟨hans, -, hreg⟩ := perform_rebuild r during
    rw [hans] at h
    exact ⟨(replace_ended ..).compileAll_of_failed h, hreg⟩

theorem message_ne_published {event : Event} (h : event.level ≠ .debug) :
    event.message ≠ "published route collection" := by
  cases event with
  | published => exact absurd rfl h
  | anchored | compiled | skipped | invalidated => simp only [Event.message]; decide

/-- In every run, whatever is nested in its reads: a `routes` or `rebuild` call that fails does so for
the reason for which the list of its own read does not compile. It leaves the registry as the
operations during that read have left it, but for the log; so what is published is what they have left,
and without any what was published before. To the log it adds what the batch reports, and nothing of
that is a publication. Where descriptors that do not compile are left out, no call fails. -/
theorem failed_call_leaves_registry {checker : Checker} {compiler : Compiler} {policy : BatchPolicy}
    {source : List Descriptor} {ops : List Operation} {ts : List Task}
    (hrun : Later (.first compiler policy source ops checker) ⟨r, .start op :: ts⟩) (hop : op.MayRead during) :
    (∀ e, (r.perform op).1.answer = .failed e →
      ∃ ds, (r.perform op).2.handedOut[r.reads]? = some ds ∧
        (compiler.compileAllBy checker policy ds).value = .error e ∧
        (r.perform op).2 = (r.afterRead during).logged (compiler.compileAllBy checker policy ds).events ∧
        (r.perform op).2.published = (r.afterRead during).published ∧
        (during = [] → (r.perform op).2.published = r.published) ∧
        ∀ event ∈ (compiler.compileAllBy checker policy ds).events, event.message ≠ "published route collection") ∧
    (policy = .skip → ∀ e, (r.perform op).1.answer ≠ .failed e) := by
  obtain ⟨hchecker, hcompiler, hpolicy⟩ : (r.afterRead during).checker = checker ∧
      (r.afterRead during).compiler = compiler ∧ (r.afterRead during).policy = policy := by
    obtain ⟨hchecker, hcompiler, hpolicy⟩ := settings_of_later hrun
    obtain ⟨hchecker', hcompiler', hpolicy'⟩ := settings_afterRead r during
    exact ⟨hchecker'.trans hchecker, hcompiler'.trans hcompiler, hpolicy'.trans hpolicy⟩
  have hfails : ∀ e, (r.perform op).1.answer = .failed e →
      (compiler.compileAllBy checker policy r.source).value = .error e ∧
        (r.perform op).2 = (r.afterRead during).logged (compiler.compileAllBy checker policy r.source).events := by
    intro e he
    obtain ⟨hc, hreg⟩ := perform_of_failed hop he
    rw [replace_eq_of_error r.reads hc, hchecker, hcompiler, hpolicy] at hreg
    rw [hchecker, hcompiler, hpolicy] at hc
    exact ⟨hc, hreg⟩
  refine ⟨fun e he => ?_, ?_⟩
  · obtain ⟨hc, hreg⟩ := hfails e he
    refine ⟨r.source, ?_, hc, hreg, by rw [hreg]; rfl, ?_, fun event h => ?_⟩
    · rw [hreg]; exact handedOut_afterRead r during
    · rintro rfl
      rw [hreg]; exact published_afterRead_nil r
    · exact message_ne_published (Compiler.level_extendBy compiler checker policy r.source ∅ event h)
  · rintro rfl e he
    rw [Compiler.compileAllBy_skip] at hfails
    cases (hfails e he).1

/-- A descriptor whose literal opens a group and does not close it. -/
def unclosed : Descriptor := (Descriptor.ofVerb "GET").literal "/labels("

/-- A rebuild fails, and while it reads the source changes and another rebuild publishes what it hands
out then: that collection stays published. -/
theorem rebuild_within_failing_stays : ∃ (r : Registry) (e : CompileError) (p : Snapshot),
    Later (.first {} .abort [unclosed] [.rebuild [.setSource [labels], .rebuild []]])
      ⟨r, [.start (.rebuild [.setSource [labels], .rebuild []])]⟩ ∧
    Operation.MayRead (.rebuild [.setSource [labels], .rebuild []]) [.setSource [labels], .rebuild []] ∧
    (r.perform (.rebuild [.setSource [labels], .rebuild []])).1.answer = .failed e ∧
    (r.perform (.rebuild [.setSource [labels], .rebuild []])).2.published = some p ∧ p.read = 1 := by
  have hc : (({} : Compiler).compileAll .abort [unclosed]).value = .error (.template "/labels(" .malformed) :=
    error_of_map_error (by decide +kernel)
  have hrun : Later (.first {} .abort [unclosed] [.rebuild [.setSource [labels], .rebuild []]])
      ⟨{ source := [unclosed] }, [.start (.rebuild [.setSource [labels], .rebuild []])]⟩ := .refl
  have hown : ({ source := [unclosed] } : Registry).ownBuild [.setSource [labels], .rebuild []] =
      .error (.template "/labels(" .malformed) := by
    rw [ownBuild_eq]
    exact congrArg (Except.map _) hc
  have hwithin : (({ source := [unclosed] } : Registry).afterRead [.setSource [labels], .rebuild []]).published.map
      (·.read) = some 1 := by decide +kernel
  -- with a name for the registry, no step below carries out the calls
  generalize ({ source := [unclosed] } : Registry) = r at hrun hown hwithin
  obtain ⟨p, hp, hread⟩ := Option.map_eq_some_iff.1 hwithin
  have hop : Operation.MayRead (.rebuild [.setSource [labels], .rebuild []]) [.setSource [labels], .rebuild []] :=
    .inr rfl
  have hans := (perform_rebuild_of_error hown).1
  obtain ⟨-, -, -, -, hpub, -⟩ := (failed_call_leaves_registry hrun hop).1 _ hans
  exact ⟨r, _, p, hrun, hop, hans, hpub.trans hp, hread⟩

end RouteTable.Registry
