/-
A run of a registry moment by moment. At every moment there is a registry and a list of tasks: the
operations that are still to be started, and the builds that are still to be ended, whose source has
been read. An operation that reads the source leaves in its place what runs during the read, and
after that the end of its own build, so nesting becomes a matter of order in one list.

`later_perform` and `later_performAll` say that this is how `perform` and `performAll` proceed. What
one step can do to the published snapshot, to the lists handed out and to the reads in progress is
said once, and from it follows what holds at every moment of a run (`Sound`).
-/
import RouteTable.Registry
import Mathlib.Logic.Relation

namespace RouteTable.Registry

/-! ## What the parts of an operation do -/

/-- No list is handed out, and the settings stay. -/
structure Quiet (r r' : Registry) : Prop where
  handedOut : r'.handedOut = r.handedOut
  checker : r'.checker = r.checker
  compiler : r'.compiler = r.compiler
  policy : r'.policy = r.policy

theorem Quiet.trans {r r' r'' : Registry} (h : Quiet r r') (h' : Quiet r' r'') : Quiet r r'' :=
  ⟨h'.handedOut.trans h.handedOut, h'.checker.trans h.checker, h'.compiler.trans h.compiler,
    h'.policy.trans h.policy⟩

theorem showSnapshot_cases (r : Registry) (s : Snapshot) :
    ∃ g r', r.showSnapshot s = (.snapshot s g, r') ∧ r'.published = r.published ∧ Quiet r r' ∧
      ∀ t ∈ r'.shown, t ∈ r.shown ∨ t = s := by
  unfold showSnapshot
  split
  · exact ⟨_, r, rfl, rfl, ⟨rfl, rfl, rfl, rfl⟩, fun t ht => .inl ht⟩
  · exact ⟨_, _, rfl, rfl, ⟨rfl, rfl, rfl, rfl⟩, fun t ht => by simpa using ht⟩

theorem showSnapshot_builds (r : Registry) (s : Snapshot) : (r.showSnapshot s).2.builds = r.builds := by
  unfold showSnapshot
  split <;> rfl

theorem showAny_cases (r : Registry) (o : Option Snapshot) :
    (r.showAny o).2.published = r.published ∧ Quiet r (r.showAny o).2 ∧
      ∀ t ∈ (r.showAny o).2.shown, t ∈ r.shown ∨ o = some t := by
  cases o with
  | none => exact ⟨rfl, ⟨rfl, rfl, rfl, rfl⟩, fun t ht => .inl ht⟩
  | some s =>
    obtain ⟨g, r', h, hp, hq, hs⟩ := showSnapshot_cases r s
    simp only [showAny, h]
    exact ⟨hp, hq, fun t ht => (hs t ht).imp_right (congrArg some ·.symm)⟩

theorem invalidate_cases (r : Registry) :
    r.invalidate.published = none ∧ Quiet r r.invalidate ∧ r.invalidate.shown = r.shown := by
  unfold invalidate
  split
  · exact ⟨rfl, ⟨rfl, rfl, rfl, rfl⟩, rfl⟩
  · rename_i h; exact ⟨h, ⟨rfl, rfl, rfl, rfl⟩, rfl⟩

/-- The registry with more events in its log. -/
def logged (r : Registry) (events : List Event) : Registry := { r with log := r.log ++ events }

/-- A list that does not compile leaves everything but the log as it is. -/
theorem build_eq_of_error {r : Registry} {ds : List Descriptor} {e : CompileError} (read : Nat)
    (hc : (r.compiler.compileAllBy r.checker r.policy ds).value = .error e) :
    r.build read ds = (.error e, r.logged (r.compiler.compileAllBy r.checker r.policy ds).events) := by
  simp only [build, hc, logged]

theorem build_of_error {r : Registry} {ds : List Descriptor} {e : CompileError} (read : Nat)
    (hc : (r.compiler.compileAllBy r.checker r.policy ds).value = .error e) :
    ∃ r' : Registry, r.build read ds = (.error e, r') ∧ r'.published = r.published ∧ Quiet r r' ∧
      r'.shown = r.shown ∧ r'.builds = r.builds :=
  ⟨_, build_eq_of_error read hc, rfl, ⟨rfl, rfl, rfl, rfl⟩, rfl, rfl⟩

/-- A list that compiles makes a snapshot of its read, under the next identity. It touches nothing
that is published or shown. -/
theorem build_of_ok {r : Registry} {ds : List Descriptor} {c : Collection} (read : Nat)
    (hc : (r.compiler.compileAllBy r.checker r.policy ds).value = .ok c) :
    ∃ r' : Registry, r.build read ds = (.ok ⟨r.builds, read, c⟩, r') ∧ r'.published = r.published ∧
      Quiet r r' ∧ r'.shown = r.shown ∧ r'.builds = r.builds + 1 := by
  simp only [build, hc]
  exact ⟨_, rfl, rfl, ⟨rfl, rfl, rfl, rfl⟩, rfl, rfl⟩

theorem build_eq (r : Registry) (read : Nat) (ds : List Descriptor) :
    (r.build read ds).1 = (r.compiler.compileAllBy r.checker r.policy ds).value.map fun c => ⟨r.builds, read, c⟩ := by
  cases hc : (r.compiler.compileAllBy r.checker r.policy ds).value with
  | error e =>
    obtain ⟨r', h, -⟩ := build_of_error read hc
    rw [h]; rfl
  | ok c =>
    obtain ⟨r', h, -⟩ := build_of_ok read hc
    rw [h]; rfl

theorem replace_of_error {r : Registry} {ds : List Descriptor} {e : CompileError} (read : Nat)
    (hc : (r.compiler.compileAllBy r.checker r.policy ds).value = .error e) :
    ∃ r' : Registry, r.replace read ds = (.failed e, r') ∧ r'.published = r.published ∧ Quiet r r' ∧
      r'.shown = r.shown ∧ r'.builds = r.builds := by
  obtain ⟨r', hb, hrest⟩ := build_of_error read hc
  exact ⟨r', by rw [replace, hb], hrest⟩

/-- A `rebuild` whose list compiles publishes its snapshot and answers it. -/
theorem replace_of_ok {r : Registry} {ds : List Descriptor} {c : Collection} (read : Nat)
    (hc : (r.compiler.compileAllBy r.checker r.policy ds).value = .ok c) :
    ∃ g r', r.replace read ds = (.snapshot ⟨r.builds, read, c⟩ g, r') ∧
      r'.published = some ⟨r.builds, read, c⟩ ∧ Quiet r r' ∧
      (∀ t ∈ r'.shown, t ∈ r.shown ∨ t = ⟨r.builds, read, c⟩) ∧ r'.builds = r.builds + 1 := by
  obtain ⟨r', hb, -, hq, hs, hn⟩ := build_of_ok read hc
  obtain ⟨g, r'', h, hp', hq', hs'⟩ := showSnapshot_cases (r'.publish ⟨r.builds, read, c⟩) ⟨r.builds, read, c⟩
  have hn' := showSnapshot_builds (r'.publish ⟨r.builds, read, c⟩) ⟨r.builds, read, c⟩
  rw [h] at hn'
  refine ⟨g, r'', by rw [replace, hb]; exact h, hp', ?_, fun t ht => hs ▸ hs' t ht, hn'.trans hn⟩
  exact hq.trans ⟨hq'.handedOut, hq'.checker, hq'.compiler, hq'.policy⟩

/-- While nothing is published, a `routes` ends like a `rebuild`. -/
theorem settle_of_unpublished {r : Registry} (hp : r.published = none) (read : Nat) (ds : List Descriptor) :
    r.settle read ds = r.replace read ds := by
  unfold settle replace
  cases hc : (r.compiler.compileAllBy r.checker r.policy ds).value with
  | error e =>
    obtain ⟨r', hb, -⟩ := build_of_error read hc
    rw [hb]
  | ok c =>
    obtain ⟨r', hb, hp', -⟩ := build_of_ok read hc
    simp only [hb, hp'.trans hp]

theorem settle_of_error {r : Registry} {ds : List Descriptor} {e : CompileError} (read : Nat)
    (hc : (r.compiler.compileAllBy r.checker r.policy ds).value = .error e) :
    r.settle read ds = r.replace read ds := by
  obtain ⟨r', hb, -⟩ := build_of_error read hc
  rw [settle, replace, hb]

/-- A `routes` whose list compiles answers what is published by then, and nothing but the number of
builds tells of its own. -/
theorem settle_of_published {r : Registry} {ds : List Descriptor} {c : Collection} {p : Snapshot} (read : Nat)
    (hc : (r.compiler.compileAllBy r.checker r.policy ds).value = .ok c) (hp : r.published = some p) :
    ∃ g r', r.settle read ds = (.snapshot p g, r') ∧ r'.published = some p ∧ Quiet r r' ∧
      (∀ t ∈ r'.shown, t ∈ r.shown ∨ t = p) ∧ r'.builds = r.builds + 1 := by
  obtain ⟨r', hb, hp', hq, hs, hn⟩ := build_of_ok read hc
  obtain ⟨g, r'', h, hp'', hq', hs'⟩ := showSnapshot_cases r' p
  have hn' := showSnapshot_builds r' p
  rw [h] at hn'
  refine ⟨g, r'', ?_, hp''.trans (hp'.trans hp), hq.trans hq', fun t ht => hs ▸ hs' t ht, hn'.trans hn⟩
  unfold settle
  simp only [hb, hp'.trans hp, h]

/-- What the end of a build can do: to fail, and leave what is published; to find a published
snapshot, and answer that one; or to publish a snapshot of its read, and answer it. -/
inductive Ended (r : Registry) (read : Nat) (ds : List Descriptor) : Answer × Registry → Prop
  | failed {r' : Registry} (e : CompileError) (hq : Quiet r r')
      (hc : (r.compiler.compileAllBy r.checker r.policy ds).value = .error e)
      (hp : r'.published = r.published) (hs : ∀ s ∈ r'.shown, s ∈ r.shown) :
      Ended r read ds (.failed e, r')
  | kept {r' : Registry} {p : Snapshot} (g : Nat) (hq : Quiet r r') {c : Collection}
      (hc : (r.compiler.compileAllBy r.checker r.policy ds).value = .ok c) (hp : r.published = some p)
      (hp' : r'.published = some p) (hs : ∀ s ∈ r'.shown, s ∈ r.shown ∨ s = p) :
      Ended r read ds (.snapshot p g, r')
  | fresh {r' : Registry} {s : Snapshot} (g : Nat) (hq : Quiet r r') (hread : s.read = read)
      (hc : (r.compiler.compileAllBy r.checker r.policy ds).value = .ok s.routes)
      (hp' : r'.published = some s) (hs : ∀ t ∈ r'.shown, t ∈ r.shown ∨ t = s) :
      Ended r read ds (.snapshot s g, r')

theorem replace_ended (r : Registry) (read : Nat) (ds : List Descriptor) :
    Ended r read ds (r.replace read ds) := by
  cases hc : (r.compiler.compileAllBy r.checker r.policy ds).value with
  | error e =>
    obtain ⟨r', h, hp, hq, hs, -⟩ := replace_of_error read hc
    exact h ▸ .failed e hq hc hp fun s hm => hs ▸ hm
  | ok c =>
    obtain ⟨g, r', h, hp, hq, hs, -⟩ := replace_of_ok read hc
    exact h ▸ .fresh g hq rfl hc hp hs

theorem settle_ended (r : Registry) (read : Nat) (ds : List Descriptor) :
    Ended r read ds (r.settle read ds) := by
  cases hc : (r.compiler.compileAllBy r.checker r.policy ds).value with
  | error e => exact settle_of_error read hc ▸ replace_ended r read ds
  | ok c =>
    cases hp : r.published with
    | none => exact settle_of_unpublished hp read ds ▸ replace_ended r read ds
    | some p =>
      obtain ⟨g, r', h, hp', hq, hs, -⟩ := settle_of_published read hc hp
      exact h ▸ .kept g hq hc hp hp' hs

/-! ## Moments -/

/-- What is still to be done at some moment of a run. -/
inductive Task
  /-- Start an operation. -/
  | start (op : Operation)
  /-- End the build of a `routes` that was started, whose read has handed out the list. -/
  | settle (read : Nat) (descriptors : List Descriptor)
  /-- End the build of a `rebuild` that was started, whose read has handed out the list. -/
  | replace (read : Nat) (descriptors : List Descriptor)

structure Moment where
  registry : Registry
  tasks : List Task

/-- The next moment of a run: the first task has been carried out. An operation that reads the
source is replaced by those that run during the read and the end of its build. -/
inductive Next : Moment → Moment → Prop
  | cached {r : Registry} {p : Snapshot} {during : List Operation} {ts : List Task}
      (h : r.published = some p) : Next ⟨r, .start (.routes during) :: ts⟩ ⟨(r.showSnapshot p).2, ts⟩
  | read {r : Registry} {during : List Operation} {ts : List Task} (h : r.published = none) :
      Next ⟨r, .start (.routes during) :: ts⟩
        ⟨r.readSource, during.map .start ++ .settle r.reads r.source :: ts⟩
  | reread {r : Registry} {during : List Operation} {ts : List Task} :
      Next ⟨r, .start (.rebuild during) :: ts⟩
        ⟨r.readSource, during.map .start ++ .replace r.reads r.source :: ts⟩
  | current {r : Registry} {ts : List Task} :
      Next ⟨r, .start .current :: ts⟩ ⟨(r.showAny r.published).2, ts⟩
  | invalidate {r : Registry} {ts : List Task} :
      Next ⟨r, .start .invalidate :: ts⟩ ⟨r.invalidate, ts⟩
  | setSource {r : Registry} {ds : List Descriptor} {ts : List Task} :
      Next ⟨r, .start (.setSource ds) :: ts⟩ ⟨{ r with source := ds }, ts⟩
  | showAgain {r : Registry} {g : Nat} {ts : List Task} :
      Next ⟨r, .start (.recall g) :: ts⟩ ⟨(r.showAny r.shown[g]?).2, ts⟩
  | settle {r : Registry} {read : Nat} {ds : List Descriptor} {ts : List Task} :
      Next ⟨r, .settle read ds :: ts⟩ ⟨(r.settle read ds).2, ts⟩
  | replace {r : Registry} {read : Nat} {ds : List Descriptor} {ts : List Task} :
      Next ⟨r, .replace read ds :: ts⟩ ⟨(r.replace read ds).2, ts⟩

/-- A moment of the same run, now or later. -/
abbrev Later : Moment → Moment → Prop := Relation.ReflTransGen Next

/-- The first moment of a run of `ops` on a new registry. -/
def Moment.first (compiler : Compiler) (policy : BatchPolicy) (source : List Descriptor)
    (ops : List Operation) (checker : Checker := Pattern.compile) : Moment :=
  ⟨{ checker, compiler, policy, source }, ops.map .start⟩

mutual

/-- An operation is carried out from one moment to a later one, and what was to be done after it
still is. -/
theorem later_perform (r : Registry) (ts : List Task) : ∀ op : Operation,
    Later ⟨r, .start op :: ts⟩ ⟨(r.perform op).2, ts⟩
  | .routes during => by
    rw [perform]
    split
    · rename_i p h; exact .single (.cached h)
    · rename_i h
      exact (Relation.ReflTransGen.head (.read h) (later_performAll r.readSource _ during)).tail .settle
  | .rebuild during => by
    rw [perform]
    exact (Relation.ReflTransGen.head .reread (later_performAll r.readSource _ during)).tail .replace
  | .current => by rw [perform]; exact .single .current
  | .invalidate => by rw [perform]; exact .single .invalidate
  | .setSource ds => by rw [perform]; exact .single .setSource
  | .recall g => by rw [perform]; exact .single .showAgain

theorem later_performAll (r : Registry) (ts : List Task) : ∀ ops : List Operation,
    Later ⟨r, ops.map .start ++ ts⟩ ⟨(r.performAll ops).2, ts⟩
  | [] => by rw [performAll]; exact .refl
  | op :: ops => by
    rw [performAll]
    exact (later_perform r _ op).trans (later_performAll _ ts ops)

end

/-! ## What one step can do -/

/-- The read whose build the task ends, with the list that was handed out. -/
def Task.pending? : Task → Option (Nat × List Descriptor)
  | start _ => none
  | settle read ds | replace read ds => some (read, ds)

/-- The reads in progress, the innermost first. -/
def pending (ts : List Task) : List (Nat × List Descriptor) := ts.filterMap Task.pending?

theorem pending_starts (ops : List Operation) (ts : List Task) :
    pending (ops.map .start ++ ts) = pending ts := by
  induction ops with
  | nil => rfl
  | cons op ops ih => exact ih

theorem mem_pending_cons {p : Nat × List Descriptor} {t : Task} {ts : List Task}
    (h : p ∈ pending ts) : p ∈ pending (t :: ts) := by
  obtain ⟨u, hu, hp⟩ := List.mem_filterMap.1 h
  exact List.mem_filterMap.2 ⟨u, List.mem_cons_of_mem _ hu, hp⟩

/-- The snapshot was made of a list of `reads`, each given with its place. -/
def MadeOf (r : Registry) (reads : List (Nat × List Descriptor)) (s : Snapshot) : Prop :=
  ∃ ds, (s.read, ds) ∈ reads ∧ (r.compiler.compileAllBy r.checker r.policy ds).value = .ok s.routes

/-- What one step can do, whatever its task: the source may be read, and that read be in progress
from then on; a snapshot may be published that was made of a read in progress; and what is shown
was published or shown before. -/
structure Step (m m' : Moment) : Prop where
  checker : m'.registry.checker = m.registry.checker
  compiler : m'.registry.compiler = m.registry.compiler
  policy : m'.registry.policy = m.registry.policy
  handedOut : m.registry.handedOut <+: m'.registry.handedOut
  pending : ∀ p ∈ pending m'.tasks, p ∈ pending m.tasks ∨
    (p.1 = m.registry.reads ∧ m'.registry.handedOut[p.1]? = some p.2)
  published : ∀ s, m'.registry.published = some s →
    m.registry.published = some s ∨ MadeOf m.registry (Registry.pending m.tasks) s
  shown : ∀ s ∈ m'.registry.shown, s ∈ m.registry.shown ∨ m.registry.published = some s ∨
    MadeOf m.registry (Registry.pending m.tasks) s

theorem Quiet.step {r r' : Registry} {t : Task} {ts : List Task} (hq : Quiet r r')
    (hp : ∀ s, r'.published = some s → r.published = some s)
    (hs : ∀ s ∈ r'.shown, s ∈ r.shown ∨ r.published = some s) : Step ⟨r, t :: ts⟩ ⟨r', ts⟩ where
  checker := hq.checker
  compiler := hq.compiler
  policy := hq.policy
  handedOut := hq.handedOut ▸ List.prefix_refl _
  pending := fun _ h => .inl (mem_pending_cons h)
  published := fun s h => .inl (hp s h)
  shown := fun s h => (hs s h).imp_right .inl

/-- A step that reads the source. -/
theorem step_read {r : Registry} {during : List Operation} {t u : Task} {ts : List Task}
    (hu : u.pending? = some (r.reads, r.source)) :
    Step ⟨r, t :: ts⟩ ⟨r.readSource, during.map .start ++ u :: ts⟩ where
  checker := rfl
  compiler := rfl
  policy := rfl
  handedOut := List.prefix_append _ _
  pending := fun p h => by
    rw [pending_starts] at h
    obtain ⟨v, hv, hp⟩ := List.mem_filterMap.1 h
    rcases List.mem_cons.1 hv with rfl | hv
    · rw [hu] at hp; cases hp
      exact .inr ⟨rfl, List.getElem?_concat_length ..⟩
    · exact .inl (mem_pending_cons (List.mem_filterMap.2 ⟨v, hv, hp⟩))
  published := fun _ h => .inl h
  shown := fun _ h => .inl h

/-- A step that ends a build. -/
theorem Ended.step {r : Registry} {read : Nat} {ds : List Descriptor} {o : Answer × Registry}
    (h : Ended r read ds o) {t : Task} {ts : List Task} (ht : t.pending? = some (read, ds)) :
    Step ⟨r, t :: ts⟩ ⟨o.2, ts⟩ := by
  have hmem : (read, ds) ∈ Registry.pending (t :: ts) := List.mem_filterMap.2 ⟨t, by simp, ht⟩
  cases h with
  | failed e hq hc hp hs => exact hq.step (fun s h => hp ▸ h) fun s h => .inl (hs s h)
  | kept g hq hc hp hp' hs =>
    exact hq.step (fun s h => by rw [hp, ← hp', h]) fun s h => (hs s h).imp_right (by rintro rfl; exact hp)
  | fresh g hq hread hc hp' hs =>
    subst hread
    exact {
      checker := hq.checker
      compiler := hq.compiler
      policy := hq.policy
      handedOut := hq.handedOut ▸ List.prefix_refl _
      pending := fun _ h => .inl (mem_pending_cons h)
      published := fun s h => .inr (by rw [hp'] at h; cases h; exact ⟨ds, hmem, hc⟩)
      shown := fun s h => (hs s h).imp_right (by rintro rfl; exact .inr ⟨ds, hmem, hc⟩) }

theorem Next.step {m m' : Moment} (h : Next m m') : Step m m' := by
  cases h with
  | @cached r p _ ts h =>
    obtain ⟨g, r', hr, hp, hq, hs⟩ := showSnapshot_cases r p
    rw [hr]
    exact hq.step (fun s h => hp ▸ h) fun s hm => (hs s hm).imp_right (by rintro rfl; exact h)
  | read h => exact step_read rfl
  | reread => exact step_read rfl
  | @current r ts =>
    obtain ⟨hp, hq, hs⟩ := showAny_cases r r.published
    exact hq.step (fun s h => hp ▸ h) hs
  | @invalidate r ts =>
    obtain ⟨hp, hq, hs⟩ := invalidate_cases r
    exact hq.step (fun s h => by rw [hp] at h; cases h) fun s h => .inl (hs ▸ h)
  | setSource => exact Quiet.step ⟨rfl, rfl, rfl, rfl⟩ (fun _ h => h) fun _ h => .inl h
  | @showAgain r g ts =>
    obtain ⟨hp, hq, hs⟩ := showAny_cases r r.shown[g]?
    exact hq.step (fun s h => hp ▸ h) fun s h => .inl ((hs s h).elim id List.mem_of_getElem?)
  | settle => exact (settle_ended ..).step rfl
  | replace => exact (replace_ended ..).step rfl

/-! ## What holds at every moment -/

/-- The snapshot holds what the registry's compiler makes, under its policy, of the list that the
source handed out at the snapshot's read. -/
def Compiled (r : Registry) (s : Snapshot) : Prop :=
  ∃ descriptors, r.handedOut[s.read]? = some descriptors ∧
    (r.compiler.compileAllBy r.checker r.policy descriptors).value = .ok s.routes

/-- Lists that are handed out later change nothing about a snapshot. -/
theorem Compiled.mono {r r' : Registry} {s : Snapshot} (h : r.Compiled s)
    (hh : r.handedOut <+: r'.handedOut)
    (hs : r'.checker = r.checker ∧ r'.compiler = r.compiler ∧ r'.policy = r.policy) : r'.Compiled s := by
  obtain ⟨ds, hd, hc⟩ := h
  obtain ⟨more, hm⟩ := hh
  refine ⟨ds, ?_, by rw [hs.1, hs.2.1, hs.2.2]; exact hc⟩
  rw [← hm, List.getElem?_append_left (List.getElem?_eq_some_iff.1 hd).1, hd]

/-- Reads in progress compile what they were handed, and so was made every snapshot that is
published or shown. -/
structure Sound (m : Moment) : Prop where
  pending : ∀ p ∈ pending m.tasks, m.registry.handedOut[p.1]? = some p.2
  published : ∀ s, m.registry.published = some s → m.registry.Compiled s
  shown : ∀ s ∈ m.registry.shown, m.registry.Compiled s

theorem sound_first (compiler : Compiler) (policy : BatchPolicy) (source : List Descriptor)
    (ops : List Operation) (checker : Checker) : Sound (.first compiler policy source ops checker) where
  pending := fun p h => by
    have := pending_starts ops []
    rw [List.append_nil] at this
    simp only [Moment.first, this] at h
    cases h
  published := fun s h => by cases h
  shown := fun s h => by cases h

theorem Sound.next {m m' : Moment} (h : Sound m) (hn : Next m m') : Sound m' := by
  have hs := hn.step
  have hmono : ∀ s, m.registry.Compiled s → m'.registry.Compiled s := fun s hc =>
    hc.mono hs.handedOut ⟨hs.checker, hs.compiler, hs.policy⟩
  have hmade : ∀ s, MadeOf m.registry (Registry.pending m.tasks) s → m'.registry.Compiled s := by
    rintro s ⟨ds, hd, hc⟩
    exact hmono s ⟨ds, h.pending _ hd, hc⟩
  refine ⟨fun p hp => ?_, fun s hp => ?_, fun s hm => ?_⟩
  · rcases hs.pending p hp with hp | ⟨-, hp⟩
    · -- the list of an older read stays where it was
      obtain ⟨more, he⟩ := hs.handedOut
      have hlt := (List.getElem?_eq_some_iff.1 (h.pending p hp)).1
      rw [← he, List.getElem?_append_left hlt]
      exact h.pending p hp
    · exact hp
  · rcases hs.published s hp with hp | hm
    · exact hmono s (h.published s hp)
    · exact hmade s hm
  · rcases hs.shown s hm with hm | hp | hm
    · exact hmono s (h.shown s hm)
    · exact hmono s (h.published s hp)
    · exact hmade s hm

theorem Sound.later {m m' : Moment} (h : Sound m) (hl : Later m m') : Sound m' := by
  induction hl with
  | refl => exact h
  | tail _ hn ih => exact ih.next hn

end RouteTable.Registry
