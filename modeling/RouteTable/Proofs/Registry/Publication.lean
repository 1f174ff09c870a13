/-
In which order collections are published. Reads in progress are nested, so they are ended in the
opposite order: the innermost is the latest, and it is its build that can be published next. A
collection is therefore made of a later read than one that was published before it, unless that one
was published during its own read (`read_later_iff_not_in_progress`).
-/
import RouteTable.Proofs.Registry.Invalidation
import RouteTable.Proofs.Registry.Snapshots

namespace RouteTable.Registry

/-! ## Reads in progress are nested -/

theorem pending_suffix (t : Task) (ts : List Task) : pending ts <:+ pending (t :: ts) := by
  cases t with
  | start op => exact List.suffix_refl _
  | settle read ds => exact List.suffix_cons _ _
  | replace read ds => exact List.suffix_cons _ _

/-- A step starts at most one read, inside all others. -/
theorem Next.pending_cases {m m' : Moment} (h : Next m m') :
    pending m'.tasks <:+ pending m.tasks ∨
      pending m'.tasks = (m.registry.reads, m.registry.source) :: pending m.tasks := by
  cases h with
  | read h => exact .inr (pending_starts ..)
  | reread => exact .inr (pending_starts ..)
  | cached h => exact .inl (pending_suffix ..)
  | current => exact .inl (pending_suffix ..)
  | invalidate => exact .inl (pending_suffix ..)
  | setSource => exact .inl (pending_suffix ..)
  | showAgain => exact .inl (pending_suffix ..)
  | settle => exact .inl (pending_suffix ..)
  | replace => exact .inl (pending_suffix ..)

theorem pending_sorted {checker : Checker} {compiler : Compiler} {policy : BatchPolicy} {source : List Descriptor}
    {ops : List Operation} {m : Moment} (h : Later (.first compiler policy source ops checker) m) :
    (pending m.tasks).Pairwise fun p q => q.1 < p.1 := by
  induction h with
  | refl =>
    have hstarts := pending_starts ops []
    rw [List.append_nil] at hstarts
    rw [Moment.first, hstarts]
    exact .nil
  | @tail m m' hl hn ih =>
    rcases hn.pending_cases with hs | hs
    · exact ih.sublist hs.sublist
    · rw [hs, List.pairwise_cons]
      refine ⟨fun q hq => ?_, ih⟩
      -- the list of `q` was handed out before
      have hq := ((sound_first compiler policy source ops checker).later hl).pending q hq
      exact (List.getElem?_eq_some_iff.1 hq).1

theorem reads_le_of_later {m m' : Moment} (h : Later m m') : m.registry.reads ≤ m'.registry.reads :=
  (handedOut_of_later h).length_le

/-- A read in progress was so before, or it has begun since. -/
theorem pending_of_later {m m' : Moment} (h : Later m m') :
    ∀ p ∈ pending m'.tasks, p ∈ pending m.tasks ∨ m.registry.reads ≤ p.1 := by
  induction h with
  | refl => exact fun p hp => .inl hp
  | tail hl hn ih =>
    intro p hp
    rcases hn.step.pending p hp with hp | ⟨he, -⟩
    · exact ih p hp
    · exact .inr (he ▸ reads_le_of_later hl)

/-! ## Publications -/

/-- The step from `m` to `m'` publishes `s`, which was not published just before. -/
structure Publishes (m m' : Moment) (s : Snapshot) : Prop where
  next : Next m m'
  published : m'.registry.published = some s
  new : m.registry.published ≠ some s

/-- The end of a build leaves what is published, or publishes what was made of its read. -/
theorem Ended.published {r : Registry} {read : Nat} {ds : List Descriptor} {o : Answer × Registry}
    (h : Ended r read ds o) {s : Snapshot} (hs : o.2.published = some s) :
    r.published = some s ∨ s.read = read := by
  cases h with
  | failed e hq hc hp => exact .inl (hp ▸ hs)
  | kept g hq hc hp hp' => exact .inl (by rw [hp, ← hp', hs])
  | fresh g hq hread hc hp => rw [hp] at hs; cases hs; exact .inr hread

/-- What is published was made of the innermost read in progress, which is ended by that. -/
theorem Publishes.pending {m m' : Moment} {s : Snapshot} (h : Publishes m m' s) :
    ∃ ds, pending m.tasks = (s.read, ds) :: pending m'.tasks := by
  obtain ⟨hn, hs, hnew⟩ := h
  -- only the end of a build can publish anything, and it ends the read of that build
  cases hn with
  | @cached r p _ ts hp =>
    obtain ⟨g, r', hr, hp', -⟩ := showSnapshot_cases r p
    rw [hr] at hs
    exact absurd (hp' ▸ hs) hnew
  | read h => exact absurd hs hnew
  | reread => exact absurd hs hnew
  | @current r ts => exact absurd ((showAny_cases r _).1 ▸ hs) hnew
  | @invalidate r ts => rw [(invalidate_cases r).1] at hs; cases hs
  | setSource => exact absurd hs hnew
  | @showAgain r g ts => exact absurd ((showAny_cases r _).1 ▸ hs) hnew
  | @settle r read ds ts =>
    obtain rfl := ((settle_ended r read ds).published hs).resolve_left hnew
    exact ⟨ds, rfl⟩
  | @replace r read ds ts =>
    obtain rfl := ((replace_ended r read ds).published hs).resolve_left hnew
    exact ⟨ds, rfl⟩

/-- In every run, whatever is nested in its reads: of two published collections, each compiled from
the list of its read, the later one comes from a later read exactly if that read was not in progress
when the earlier one was published. -/
theorem read_later_iff_not_in_progress {checker : Checker} {compiler : Compiler} {policy : BatchPolicy}
    {source : List Descriptor} {ops : List Operation} {m₁ m₁' m₂ m₂' : Moment} {p s : Snapshot}
    (hrun : Later (.first compiler policy source ops checker) m₁) (hp : Publishes m₁ m₁' p)
    (hlater : Later m₁' m₂) (hs : Publishes m₂ m₂' s) :
    m₁'.registry.Compiled p ∧ m₂'.registry.Compiled s ∧
      (p.read < s.read ↔ s.read ∉ (pending m₁'.tasks).map (·.1)) := by
  obtain ⟨ds, hpend⟩ := hp.pending
  obtain ⟨ds', hpend'⟩ := hs.pending
  have hsound := (sound_first compiler policy source ops checker).later hrun
  have hsound₁ := hsound.next hp.next
  have hsound₂ := (hsound₁.later hlater).next hs.next
  refine ⟨hsound₁.published p hp.published, hsound₂.published s hs.published, fun hlt hmem => ?_, fun hout => ?_⟩
  · -- the reads around that of `p` are earlier
    obtain ⟨q, hq, hqs⟩ := List.mem_map.1 hmem
    have hsorted := pending_sorted hrun
    rw [hpend, List.pairwise_cons] at hsorted
    have := hsorted.1 q hq
    omega
  · rcases pending_of_later hlater (s.read, ds') (by rw [hpend']; exact List.mem_cons_self) with hold | hnew
    · exact absurd (List.mem_map_of_mem hold) hout
    · -- the read of `s` began after `p` was published
      have hread := (List.getElem?_eq_some_iff.1 (hsound.pending (p.read, ds) (by rw [hpend]; simp))).1
      exact Nat.lt_of_lt_of_le (Nat.lt_of_lt_of_le hread hp.next.step.handedOut.length_le) hnew

/-! ## A rebuild during the read of another -/

/-- The end of a rebuild whose list compiles publishes the next build. -/
theorem publishes_replace {checker : Checker} {compiler : Compiler} {policy : BatchPolicy} {source : List Descriptor}
    {ops : List Operation} {r : Registry} {read : Nat} {ds : List Descriptor} {ts : List Task} {c : Collection}
    (hrun : Later (.first compiler policy source ops checker) ⟨r, .replace read ds :: ts⟩)
    (hc : (compiler.compileAllBy checker policy ds).value = .ok c) :
    Publishes ⟨r, .replace read ds :: ts⟩ ⟨(r.replace read ds).2, ts⟩ ⟨r.builds, read, c⟩ := by
  obtain ⟨hchecker, hcompiler, hpolicy⟩ := settings_of_later hrun
  have hc' : (r.compiler.compileAllBy r.checker r.policy ds).value = .ok c := by
    rw [show r.checker = checker from hchecker, show r.compiler = compiler from hcompiler,
      show r.policy = policy from hpolicy]
    exact hc
  obtain ⟨g, r', h, hpub, -⟩ := replace_of_ok read hc'
  refine ⟨.replace, by rw [h]; exact hpub, fun hold => ?_⟩
  exact absurd (known_lt hrun _ (.inl hold)) (Nat.lt_irrefl _)

/-- The rebuild within publishes the collection of the second read, and then the rebuild around it
that of the first. -/
theorem publishes_twice : ∃ (m₁ m₁' m₂' : Moment) (p s : Snapshot),
    Later (.first {} .abort [labels] [.rebuild [.rebuild []]]) m₁ ∧ Publishes m₁ m₁' p ∧
      Publishes m₁' m₂' s ∧ p.read = 1 ∧ s.read = 0 := by
  obtain ⟨c, hc⟩ := compileAll_labels
  have hwithin : Later (.first {} .abort [labels] [.rebuild [.rebuild []]])
      ⟨({ source := [labels] } : Registry).readSource.readSource, [.replace 1 [labels], .replace 0 [labels]]⟩ :=
    (Relation.ReflTransGen.single .reread).tail .reread
  -- both reads were handed the same list, so `hc` says of both that they compile
  have hp := publishes_replace hwithin hc
  have hs := publishes_replace (hwithin.tail hp.next) hc
  exact ⟨_, _, _, _, _, hwithin, hp, hs, rfl, rfl⟩

/-- So the read of the first was in progress when the collection of the second was published. -/
theorem rebuild_within_rebuild_goes_back : ∃ (m₁ m₁' m₂' : Moment) (p s : Snapshot),
    Later (.first {} .abort [labels] [.rebuild [.rebuild []]]) m₁ ∧ Publishes m₁ m₁' p ∧
      Later m₁' m₁' ∧ Publishes m₁' m₂' s ∧ s.read < p.read ∧ s.read ∈ (pending m₁'.tasks).map (·.1) := by
  obtain ⟨m₁, m₁', m₂', p, s, hrun, hp, hs, hpread, hsread⟩ := publishes_twice
  have hlt : s.read < p.read := by omega
  have hiff := (read_later_iff_not_in_progress hrun hp .refl hs).2.2
  refine ⟨m₁, m₁', m₂', p, s, hrun, hp, .refl, hs, hlt, ?_⟩
  by_contra hout
  exact Nat.lt_asymm hlt (hiff.2 hout)

/-- And not every collection comes from a later read than those that were published before it. -/
theorem not_forall_read_later : ¬ ∀ (compiler : Compiler) (policy : BatchPolicy) (source : List Descriptor)
    (ops : List Operation) (m₁ m₁' m₂ m₂' : Moment) (p s : Snapshot),
    Later (.first compiler policy source ops) m₁ → Publishes m₁ m₁' p → Later m₁' m₂ →
      Publishes m₂ m₂' s → p.read < s.read := by
  intro h
  obtain ⟨m₁, m₁', m₂', p, s, hrun, hp, hs, hpread, hsread⟩ := publishes_twice
  have := h _ _ _ _ m₁ m₁' m₁' m₂' p s hrun hp .refl hs
  omega

end RouteTable.Registry
