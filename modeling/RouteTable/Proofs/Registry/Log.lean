/-
What the log tells of a registry. A reader who looks only at the publications and invalidations in the
log, and takes from each publication its count, knows at every moment whether a collection is published
and how many routes it has; and he never reads that something was invalidated twice in a row.

One step of a run adds events that lead from the size of what was published to the size of what is
published then (`Next.reports`), where an invalidation has to find something published. So does every run,
and both facts about the log are read off that (`log_faithful`).
-/
import RouteTable.Proofs.Registry.Failure

namespace RouteTable

/-! ## Reading a log -/

namespace Event

/-- The number in the event's field `count`. -/
def count? (e : Event) : Option Nat :=
  match e.fields.lookup "count" with
  | some (.number n) => some n
  | _ => none

/-- How many routes a reader takes to be published after an event, if he took it to be `size` before.
He looks at events of the level `debug` only. -/
def follow (size : Option Nat) (e : Event) : Option Nat :=
  if e.level ≠ .debug then size
  else if e.message = "published route collection" then e.count?
  else if e.message = "invalidated route collection" then none
  else size

theorem follow_of_level {e : Event} (h : e.level ≠ .debug) (size : Option Nat) : e.follow size = size :=
  if_pos h

theorem follow_published (size : Option Nat) (n : Nat) : follow size (.published n) = some n := by
  simp [follow, level, message, count?, fields]

theorem follow_invalidated (size : Option Nat) : follow size .invalidated = none := by
  simp [follow, level, message]

theorem eq_invalidated {e : Event} (h : e.message = "invalidated route collection") : e = .invalidated := by
  cases e <;> simp [message] at h ⊢

end Event

namespace Registry

/-- How many routes a reader of the log takes to be published. -/
def replay (log : List Event) : Option Nat := log.foldl Event.follow none

/-- The events lead from one published size to another: a publication to its count, an invalidation
from some size to none, and no other event changes it. -/
inductive Leads : Option Nat → List Event → Option Nat → Prop
  | nil (size : Option Nat) : Leads size [] size
  | other {size size' : Option Nat} {e : Event} {es : List Event} (hlevel : e.level ≠ .debug)
      (h : Leads size es size') : Leads size (e :: es) size'
  | published {size size' : Option Nat} {n : Nat} {es : List Event} (h : Leads (some n) es size') :
      Leads size (.published n :: es) size'
  | invalidated {size' : Option Nat} {n : Nat} {es : List Event} (h : Leads none es size') :
      Leads (some n) (.invalidated :: es) size'

namespace Leads

variable {size size' size'' : Option Nat} {es fs : List Event}

theorem append (h : Leads size es size') (h' : Leads size' fs size'') : Leads size (es ++ fs) size'' := by
  induction h with
  | nil => exact h'
  | other hlevel _ ih => exact .other hlevel (ih h')
  | published _ ih => exact .published (ih h')
  | invalidated _ ih => exact .invalidated (ih h')

theorem of_quiet (size : Option Nat) : ∀ {es : List Event}, (∀ e ∈ es, e.level ≠ .debug) → Leads size es size
  | [], _ => .nil size
  | _ :: _, h => .other (h _ List.mem_cons_self) (of_quiet size fun e he => h e (List.mem_cons_of_mem _ he))

/-- A reader who follows the events arrives where they lead. -/
theorem foldl_follow (h : Leads size es size') : es.foldl Event.follow size = size' := by
  induction h with
  | nil => rfl
  | other hlevel _ ih => rw [List.foldl_cons, Event.follow_of_level hlevel, ih]
  | published _ ih => rw [List.foldl_cons, Event.follow_published, ih]
  | invalidated _ ih => rw [List.foldl_cons, Event.follow_invalidated, ih]

theorem exists_of_append : ∀ {es : List Event} {size : Option Nat}, Leads size (es ++ fs) size'' →
    ∃ size', Leads size es size' ∧ Leads size' fs size''
  | [], size, h => ⟨size, .nil size, h⟩
  | _ :: es, size, h => by
    cases h with
    | other hlevel h => exact (exists_of_append h).imp fun _ ⟨h₁, h₂⟩ => ⟨.other hlevel h₁, h₂⟩
    | published h => exact (exists_of_append h).imp fun _ ⟨h₁, h₂⟩ => ⟨.published h₁, h₂⟩
    | invalidated h => exact (exists_of_append h).imp fun _ ⟨h₁, h₂⟩ => ⟨.invalidated h₁, h₂⟩

/-- An invalidation finds some size, and leaves none. -/
theorem invalidated_cases (h : Leads size (.invalidated :: es) size') : (∃ n, size = some n) ∧ Leads none es size' := by
  cases h with
  | other hlevel => exact absurd rfl hlevel
  | invalidated h => exact ⟨⟨_, rfl⟩, h⟩

/-- From none to some size leads only a publication. -/
theorem exists_published {n : Nat} (h : Leads none es (some n)) :
    ∃ e ∈ es, e.message = "published route collection" := by
  generalize hsize : (none : Option Nat) = size at h
  generalize hsize' : some n = size' at h
  induction h with
  | nil => rw [← hsize] at hsize'; cases hsize'
  | other _ _ ih =>
    obtain ⟨e, he, hm⟩ := ih hsize hsize'
    exact ⟨e, List.mem_cons_of_mem _ he, hm⟩
  | published => exact ⟨_, List.mem_cons_self, rfl⟩
  | invalidated => cases hsize

end Leads

/-! ## What the parts of an operation report -/

theorem log_showSnapshot (r : Registry) (s : Snapshot) : (r.showSnapshot s).2.log = r.log := by
  unfold showSnapshot
  split <;> rfl

theorem log_showAny (r : Registry) (o : Option Snapshot) : (r.showAny o).2.log = r.log := by
  cases o with
  | none => rfl
  | some s => exact log_showSnapshot r s

theorem log_build (r : Registry) (read : Nat) (ds : List Descriptor) :
    (r.build read ds).2.log = r.log ++ (r.compiler.compileAllBy r.checker r.policy ds).events := by
  cases hc : (r.compiler.compileAllBy r.checker r.policy ds).value with
  | error e => rw [build_eq_of_error read hc]; rfl
  | ok c => simp only [build, hc]

/-- Compiling a batch reports nothing that concerns what is published. -/
theorem level_compileAllBy (k : Compiler) (check : Checker) (policy : BatchPolicy) (ds : List Descriptor) :
    ∀ e ∈ (k.compileAllBy check policy ds).events, e.level ≠ .debug :=
  Compiler.level_extendBy k check policy ds ∅

theorem log_replace_of_ok {r : Registry} {ds : List Descriptor} {c : Collection} (read : Nat)
    (hc : (r.compiler.compileAllBy r.checker r.policy ds).value = .ok c) :
    (r.replace read ds).2.log =
      r.log ++ ((r.compiler.compileAllBy r.checker r.policy ds).events ++ [.published c.size]) := by
  obtain ⟨r', hb, -⟩ := build_of_ok read hc
  have hlog : r'.log = _ := hb ▸ log_build r read ds
  rw [replace, hb]
  simp only [log_showSnapshot, publish, hlog, List.append_assoc]

/-- A `routes` that comes too late reports nothing but what the batch reports. -/
theorem log_settle_of_published {r : Registry} {ds : List Descriptor} {c : Collection} {p : Snapshot} (read : Nat)
    (hc : (r.compiler.compileAllBy r.checker r.policy ds).value = .ok c) (hp : r.published = some p) :
    (r.settle read ds).2.log = r.log ++ (r.compiler.compileAllBy r.checker r.policy ds).events := by
  obtain ⟨r', hb, hp', -⟩ := build_of_ok read hc
  have hlog : r'.log = _ := hb ▸ log_build r read ds
  unfold settle
  simp only [hb, hp'.trans hp, log_showSnapshot, hlog]

/-! ## What a run reports -/

/-- How many routes are published. -/
def publishedSize (r : Registry) : Option Nat := r.published.map (·.routes.size)

/-- From the first registry to the second, events are reported that lead from what was published to
what is published then. -/
def Reports (r r' : Registry) : Prop :=
  ∃ events, r'.log = r.log ++ events ∧ Leads r.publishedSize events r'.publishedSize

theorem Reports.of_same {r r' : Registry} (hl : r'.log = r.log) (hp : r'.published = r.published) :
    Reports r r' :=
  ⟨[], by rw [hl, List.append_nil], by rw [publishedSize, publishedSize, hp]; exact .nil _⟩

theorem reports_invalidate (r : Registry) : Reports r r.invalidate := by
  unfold invalidate
  split
  · rename_i p hp
    refine ⟨[.invalidated], rfl, ?_⟩
    rw [publishedSize, hp]
    exact .invalidated (.nil none)
  · exact .of_same rfl rfl

theorem reports_replace (r : Registry) (read : Nat) (ds : List Descriptor) : Reports r (r.replace read ds).2 := by
  have hquiet := Leads.of_quiet r.publishedSize (level_compileAllBy r.compiler r.checker r.policy ds)
  cases hc : (r.compiler.compileAllBy r.checker r.policy ds).value with
  | error e =>
    rw [replace_eq_of_error read hc]
    exact ⟨_, rfl, hquiet⟩
  | ok c =>
    obtain ⟨g, r', h, hp, -⟩ := replace_of_ok read hc
    have hsize : (r.replace read ds).2.publishedSize = some c.size := by
      rw [h]; simp only [publishedSize, hp, Option.map_some]
    refine ⟨_, log_replace_of_ok read hc, hquiet.append ?_⟩
    rw [hsize]
    exact .published (.nil _)

theorem reports_settle (r : Registry) (read : Nat) (ds : List Descriptor) : Reports r (r.settle read ds).2 := by
  cases hc : (r.compiler.compileAllBy r.checker r.policy ds).value with
  | error e => exact settle_of_error read hc ▸ reports_replace r read ds
  | ok c =>
    cases hp : r.published with
    | none => exact settle_of_unpublished hp read ds ▸ reports_replace r read ds
    | some p =>
      obtain ⟨g, r', h, hp', -⟩ := settle_of_published read hc hp
      have hsize : (r.settle read ds).2.publishedSize = r.publishedSize := by
        rw [h]; simp only [publishedSize, hp, hp']
      refine ⟨_, log_settle_of_published read hc hp, ?_⟩
      rw [hsize]
      exact .of_quiet _ (level_compileAllBy _ _ _ _)

theorem Next.reports {m m' : Moment} (h : Next m m') : Reports m.registry m'.registry := by
  cases h with
  | @cached r p _ ts h =>
    obtain ⟨g, r', hr, hp, -⟩ := showSnapshot_cases r p
    exact .of_same (log_showSnapshot r p) (hr ▸ hp)
  | read => exact .of_same rfl rfl
  | reread => exact .of_same rfl rfl
  | current => exact .of_same (log_showAny ..) (showAny_cases ..).1
  | invalidate => exact reports_invalidate _
  | setSource => exact .of_same rfl rfl
  | showAgain => exact .of_same (log_showAny ..) (showAny_cases ..).1
  | settle => exact reports_settle ..
  | replace => exact reports_replace ..

section Run

variable {checker : Checker} {compiler : Compiler} {policy : BatchPolicy} {source : List Descriptor}
variable {ops : List Operation} {m : Moment}

/-- The whole log leads from nothing to what is published. -/
theorem leads_of_later (hrun : Later (.first compiler policy source ops checker) m) :
    Leads none m.registry.log m.registry.publishedSize := by
  induction hrun with
  | refl => exact .nil none
  | tail _ hn ih =>
    obtain ⟨events, hlog, hleads⟩ := hn.reports
    rw [hlog]
    exact ih.append hleads

/-- The log tells how many routes are published, and between two invalidations it has a publication. -/
structure Faithful (r : Registry) : Prop where
  replayed : replay r.log = r.publishedSize
  alternating : ∀ before between after e e', r.log = before ++ e :: between ++ e' :: after →
    e.message = "invalidated route collection" → e'.message = "invalidated route collection" →
    ∃ x ∈ between, x.message = "published route collection"

theorem faithful_of_later (hrun : Later (.first compiler policy source ops checker) m) : Faithful m.registry where
  replayed := (leads_of_later hrun).foldl_follow
  alternating := by
    rintro before between after e e' hlog he he'
    obtain rfl := Event.eq_invalidated he
    obtain rfl := Event.eq_invalidated he'
    have hleads := leads_of_later hrun
    rw [hlog] at hleads
    -- after the first of the two nothing is published, and the second finds something
    obtain ⟨size, hfirst, hsecond⟩ := hleads.exists_of_append
    obtain ⟨size', -, hbetween⟩ := hfirst.exists_of_append
    obtain ⟨⟨n, rfl⟩, -⟩ := hsecond.invalidated_cases
    exact hbetween.invalidated_cases.2.exists_published

end Run

/-! ## Calls that change nothing -/

/-- Apart from the operations during its read, the call reports only what the batch reports of single
descriptors, and of that nothing is on the level `debug`. -/
structure SilentItself (r : Registry) (op : Operation) (during : List Operation) : Prop where
  start : r.readSource.log = r.log
  finish : (r.perform op).2.log =
    (r.afterRead during).log ++ (r.compiler.compileAllBy r.checker r.policy r.source).events
  own : ∀ e ∈ (r.compiler.compileAllBy r.checker r.policy r.source).events, e.level ≠ .debug

section Calls

variable {r : Registry} {op : Operation} {during : List Operation}

theorem SilentItself.of_log (h : (r.perform op).2.log = (r.afterRead during).log ++
    ((r.afterRead during).compiler.compileAllBy (r.afterRead during).checker (r.afterRead during).policy
      r.source).events) : SilentItself r op during := by
  obtain ⟨hchecker, hcompiler, hpolicy⟩ := settings_afterRead r during
  rw [hchecker, hcompiler, hpolicy] at h
  exact ⟨rfl, h, level_compileAllBy _ _ _ _⟩

theorem log_perform_routes_of_published {p : Snapshot} (h : r.published = some p) (during : List Operation) :
    (r.perform (.routes during)).2.log = r.log := by
  rw [perform]
  simp only [h, log_showSnapshot]

theorem log_perform_current (r : Registry) : (r.perform .current).2.log = r.log := by
  rw [perform]
  exact log_showAny ..

theorem silentItself_of_late {own p : Snapshot} (h : r.published = none) (hown : r.ownBuild during = .ok own)
    (hp : (r.afterRead during).published = some p) : SilentItself r (.routes during) during := by
  refine .of_log ?_
  rw [(perform_routes_of_unpublished h during).2.2]
  exact log_settle_of_published _ (ownBuild_ok hown).2 hp

theorem silentItself_of_failed {e : CompileError} (hop : op.MayRead during)
    (h : (r.perform op).1.answer = .failed e) : SilentItself r op during := by
  obtain ⟨hc, hreg⟩ := perform_of_failed hop h
  refine .of_log ?_
  rw [hreg, replace_eq_of_error _ hc]
  rfl

end Calls

/-- In every run, whatever is nested in its reads, at the end of every operation: the number that a
reader of the log takes to be published is the size of what is published, and nothing if nothing is; and
between any two invalidations in the log stands a publication. A `routes` call that finds something
published reports nothing, and neither does `current`. A `routes` call whose build comes too late and a
call whose build fails report no publication and no invalidation themselves. -/
theorem log_faithful {checker : Checker} {compiler : Compiler} {policy : BatchPolicy} {source : List Descriptor}
    {ops : List Operation} {r : Registry} {op : Operation} {ts : List Task}
    (hrun : Later (.first compiler policy source ops checker) ⟨r, .start op :: ts⟩) :
    Faithful (r.perform op).2 ∧
    (∀ during p, op = .routes during → r.published = some p → (r.perform op).2.log = r.log) ∧
    (op = .current → (r.perform op).2.log = r.log) ∧
    (∀ during own p, op = .routes during → r.published = none → r.ownBuild during = .ok own →
      (r.afterRead during).published = some p → SilentItself r op during) ∧
    ∀ during e, op.MayRead during → (r.perform op).1.answer = .failed e → SilentItself r op during := by
  refine ⟨faithful_of_later (hrun.trans (later_perform r ts op)), ?_, ?_, ?_, fun during e hop h => ?_⟩
  · rintro during p rfl hp
    exact log_perform_routes_of_published hp during
  · rintro rfl
    exact log_perform_current r
  · rintro during own p rfl hnone hown hp
    exact silentItself_of_late hnone hown hp
  · exact silentItself_of_failed hop h

/-- What happens while the call below reads the source. -/
def republishing : List Operation := [.rebuild [], .invalidate, .rebuild []]

/-- While a `routes` call reads the source, two rebuilds publish a collection each, and what the first
has published is invalidated before the second. The call itself reports nothing of the kind, and the log
tells that a collection of one route is published. -/
theorem log_of_late_build : ∃ r : Registry,
    Later (.first {} .abort [labels] [.routes republishing]) ⟨r, [.start (.routes republishing)]⟩ ∧
    (r.perform (.routes republishing)).2.publishedSize = some 1 ∧
    replay (r.perform (.routes republishing)).2.log = some 1 ∧
    SilentItself r (.routes republishing) republishing := by
  obtain ⟨c, hc⟩ := compileAll_labels
  have hrun : Later (.first {} .abort [labels] [.routes republishing])
      ⟨{ source := [labels] }, [.start (.routes republishing)]⟩ := .refl
  have hown : ∃ own, ({ source := [labels] } : Registry).ownBuild republishing = .ok own := by
    rw [ownBuild_eq]
    exact ⟨_, congrArg (Except.map _) hc⟩
  have hwithin : (({ source := [labels] } : Registry).afterRead republishing).published.isSome = true := by
    decide +kernel
  have hsize : (({ source := [labels] } : Registry).perform (.routes republishing)).2.publishedSize = some 1 := by
    decide +kernel
  have hnone : ({ source := [labels] } : Registry).published = none := rfl
  -- with a name for the registry, no step below carries out the calls
  generalize ({ source := [labels] } : Registry) = r at hrun hown hwithin hsize hnone
  obtain ⟨own, hown⟩ := hown
  obtain ⟨p, hp⟩ := Option.isSome_iff_exists.1 hwithin
  obtain ⟨hfaithful, -, -, hlate, -⟩ := log_faithful hrun
  exact ⟨r, hrun, hsize, hfaithful.replayed.trans hsize, hlate _ own p rfl hnone hown hp⟩

end Registry
end RouteTable
