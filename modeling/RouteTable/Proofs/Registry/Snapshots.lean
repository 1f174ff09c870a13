/-
What tells snapshots apart, and who reads the source. A snapshot becomes known only by the build that
the step ends, if that succeeds (`Next.advances`), and the build takes the next identity. So no snapshot
that is published or shown has the identity of a later build, and a build whose snapshot is discarded
leaves an identity that is never seen (`known_lt`, `unseen_later`). Every list that is handed out goes
to one operation, whose outcome tells of it (`reads_perform`).
-/
import RouteTable.Proofs.Registry.Moments

namespace RouteTable.Registry

/-! ## Settings and lists -/

theorem settings_of_later {m m' : Moment} (h : Later m m') :
    m'.registry.checker = m.registry.checker ∧ m'.registry.compiler = m.registry.compiler ∧
      m'.registry.policy = m.registry.policy := by
  induction h with
  | refl => exact ⟨rfl, rfl, rfl⟩
  | tail _ hn ih =>
    obtain ⟨hchecker, hcompiler, hpolicy⟩ := ih
    exact ⟨hn.step.checker.trans hchecker, hn.step.compiler.trans hcompiler, hn.step.policy.trans hpolicy⟩

theorem handedOut_of_later {m m' : Moment} (h : Later m m') :
    m.registry.handedOut <+: m'.registry.handedOut := by
  induction h with
  | refl => exact List.prefix_refl _
  | tail _ hn ih => exact ih.trans hn.step.handedOut

/-! ## Identities -/

/-- The snapshot is published, or some answer has shown it. -/
def Known (r : Registry) (s : Snapshot) : Prop := r.published = some s ∨ s ∈ r.shown

theorem showAny_builds (r : Registry) (o : Option Snapshot) : (r.showAny o).2.builds = r.builds := by
  cases o with
  | none => rfl
  | some s => exact showSnapshot_builds r s

theorem invalidate_builds (r : Registry) : r.invalidate.builds = r.builds := by
  unfold invalidate
  split <;> rfl

/-- One more snapshot has been shown, with an identity that was not shown before, or none has. -/
def ShowsMore (r r' : Registry) : Prop :=
  r'.shown = r.shown ∨ ∃ s, (∀ t ∈ r.shown, t.identity ≠ s.identity) ∧ r'.shown = r.shown ++ [s]

theorem ShowsMore.of_shown_eq {r r' r'' : Registry} (h : ShowsMore r' r'') (hs : r'.shown = r.shown) :
    ShowsMore r r'' := by
  unfold ShowsMore at *
  rwa [hs] at h

theorem showsMore_showSnapshot (r : Registry) (s : Snapshot) : ShowsMore r (r.showSnapshot s).2 := by
  unfold showSnapshot
  split
  · exact .inl rfl
  · rename_i hnone
    refine .inr ⟨s, fun t ht => ?_, rfl⟩
    simpa using List.findIdx?_eq_none_iff.1 hnone t ht

theorem showsMore_showAny (r : Registry) (o : Option Snapshot) : ShowsMore r (r.showAny o).2 := by
  cases o with
  | none => exact .inl rfl
  | some s => exact showsMore_showSnapshot r s

/-- What can become known from one registry to the other, if `built` is the snapshot of the build that
has succeeded in between. -/
structure Advances (built : Option Snapshot) (r r' : Registry) : Prop where
  builds : r'.builds = r.builds + built.toList.length
  known : ∀ s, r'.Known s → r.Known s ∨ built = some s
  shown : ShowsMore r r'

/-- Where no build has succeeded, nothing becomes known. -/
theorem Advances.of_quiet {r r' : Registry} (hb : r'.builds = r.builds)
    (hk : ∀ s, r'.Known s → r.Known s) (hs : ShowsMore r r') : Advances none r r' where
  builds := hb
  known := fun s h => .inl (hk s h)
  shown := hs

theorem advances_replace (r : Registry) (read : Nat) (ds : List Descriptor) :
    Advances (r.build read ds).1.toOption r (r.replace read ds).2 := by
  cases hc : (r.compiler.compileAllBy r.checker r.policy ds).value with
  | error e =>
    obtain ⟨r', h, hp, -, hs, hb⟩ := replace_of_error read hc
    rw [h, build_eq_of_error read hc]
    exact .of_quiet hb (fun s hk => by rwa [Known, hp, hs] at hk) (.inl hs)
  | ok c =>
    obtain ⟨r', hbuild, -, -, hs, -⟩ := build_of_ok read hc
    obtain ⟨g, r'', h, hp, -, hs', hb⟩ := replace_of_ok read hc
    have hshown := showsMore_showSnapshot (r'.publish ⟨r.builds, read, c⟩) ⟨r.builds, read, c⟩
    simp only [replace, hbuild] at h ⊢
    rw [h] at hshown ⊢
    refine ⟨hb, fun s hk => ?_, hshown.of_shown_eq hs⟩
    rcases hk with hk | hk
    · rw [hp] at hk; cases hk; exact .inr rfl
    · exact (hs' s hk).imp .inr (congrArg some ·.symm)

theorem advances_settle (r : Registry) (read : Nat) (ds : List Descriptor) :
    Advances (r.build read ds).1.toOption r (r.settle read ds).2 := by
  cases hc : (r.compiler.compileAllBy r.checker r.policy ds).value with
  | error e => exact settle_of_error read hc ▸ advances_replace r read ds
  | ok c =>
    cases hp : r.published with
    | none => exact settle_of_unpublished hp read ds ▸ advances_replace r read ds
    | some p =>
      obtain ⟨r', hbuild, hp', -, hs, -⟩ := build_of_ok read hc
      obtain ⟨g, r'', h, hp'', -, hs', hb⟩ := settle_of_published read hc hp
      have hshown := showsMore_showSnapshot r' p
      simp only [settle, hbuild, hp'.trans hp] at h ⊢
      rw [h] at hshown ⊢
      -- the build has taken its identity, but what is shown is `p`
      refine ⟨hb, fun s hk => .inl ?_, hshown.of_shown_eq hs⟩
      rcases hk with hk | hk
      · exact .inl (by rw [hp, ← hp'', hk])
      · exact (hs' s hk).elim .inr (by rintro rfl; exact .inl hp)

/-- The snapshot of the build that the next step ends, if it ends one and that succeeds. -/
def Moment.built? (m : Moment) : Option Snapshot :=
  (m.tasks.head?.bind Task.pending?).bind fun p => (m.registry.build p.1 p.2).1.toOption

/-- A build takes the next identity. -/
theorem identity_of_built {m : Moment} {s : Snapshot} (h : m.built? = some s) :
    s.identity = m.registry.builds := by
  obtain ⟨p, -, hp⟩ := Option.bind_eq_some_iff.1 h
  rw [build_eq] at hp
  cases hc : (m.registry.compiler.compileAllBy m.registry.checker m.registry.policy p.2).value with
  | error e => rw [hc] at hp; cases hp
  | ok c => rw [hc] at hp; cases hp; rfl

theorem Next.advances {m m' : Moment} (h : Next m m') : Advances m.built? m.registry m'.registry := by
  -- apart from the two ends of a build, a step shows only what is known and drops what is published
  cases h with
  | @cached r p _ ts h =>
    have hshown := showsMore_showSnapshot r p
    obtain ⟨g, r', hr, hp, -, hs⟩ := showSnapshot_cases r p
    refine .of_quiet (showSnapshot_builds r p) (fun s hk => ?_) hshown
    rw [hr] at hk
    rcases hk with hk | hk
    · exact .inl (hp ▸ hk)
    · exact (hs s hk).elim .inr (by rintro rfl; exact .inl h)
  | read h => exact .of_quiet rfl (fun _ hk => hk) (.inl rfl)
  | reread => exact .of_quiet rfl (fun _ hk => hk) (.inl rfl)
  | @current r ts =>
    obtain ⟨hp, -, hs⟩ := showAny_cases r r.published
    refine .of_quiet (showAny_builds r _) (fun s hk => ?_) (showsMore_showAny r _)
    exact hk.elim (fun hk => .inl (hp ▸ hk)) fun hk => (hs s hk).symm
  | @invalidate r ts =>
    obtain ⟨hp, -, hs⟩ := invalidate_cases r
    refine .of_quiet (invalidate_builds r) (fun s hk => ?_) (.inl hs)
    exact hk.elim (fun hk => by rw [hp] at hk; cases hk) fun hk => .inr (hs ▸ hk)
  | setSource => exact .of_quiet rfl (fun _ hk => hk) (.inl rfl)
  | @showAgain r g ts =>
    obtain ⟨hp, -, hs⟩ := showAny_cases r r.shown[g]?
    refine .of_quiet (showAny_builds r _) (fun s hk => ?_) (showsMore_showAny r _)
    exact hk.elim (fun hk => .inl (hp ▸ hk)) fun hk => .inr ((hs s hk).elim id List.mem_of_getElem?)
  | settle => exact advances_settle ..
  | replace => exact advances_replace ..

/-- From one registry to the other, a snapshot becomes known only by a build, which takes the next
identity. -/
structure Numbered (r r' : Registry) : Prop where
  builds : r.builds ≤ r'.builds
  known : ∀ s, r'.Known s → r.Known s ∨ s.identity = r.builds ∧ r.builds < r'.builds

theorem Next.numbered {m m' : Moment} (h : Next m m') : Numbered m.registry m'.registry := by
  obtain ⟨hb, hk, -⟩ := h.advances
  refine ⟨by omega, fun s hs => (hk s hs).imp_right fun hbuilt => ⟨identity_of_built hbuilt, ?_⟩⟩
  rw [hb, hbuilt, Option.toList_some, List.length_singleton]
  exact Nat.lt_succ_self _

theorem builds_le_of_later {m m' : Moment} (h : Later m m') : m.registry.builds ≤ m'.registry.builds := by
  induction h with
  | refl => exact Nat.le_refl _
  | tail _ hn ih => exact Nat.le_trans ih hn.numbered.builds

/-- The next build has an identity that nothing known has. -/
theorem known_lt {checker : Checker} {compiler : Compiler} {policy : BatchPolicy} {source : List Descriptor}
    {ops : List Operation} {m : Moment} (h : Later (.first compiler policy source ops checker) m) :
    ∀ s, m.registry.Known s → s.identity < m.registry.builds := by
  induction h with
  | refl => rintro s (hk | hk) <;> cases hk
  | tail _ hn ih =>
    intro s hk
    rcases hn.numbered.known s hk with hk | ⟨hid, hlt⟩
    · exact Nat.lt_of_lt_of_le (ih s hk) hn.numbered.builds
    · exact hid ▸ hlt

/-- An identity that was taken and that nothing known has is never seen again. -/
theorem unseen_later {identity : Nat} {m m' : Moment} (ht : identity < m.registry.builds)
    (hk : ∀ s, m.registry.Known s → s.identity ≠ identity) (h : Later m m') :
    ∀ s, m'.registry.Known s → s.identity ≠ identity := by
  induction h with
  | refl => exact hk
  | tail hl hn ih =>
    intro s hs
    rcases hn.numbered.known s hs with hs | ⟨hid, -⟩
    · exact ih s hs
    · have := builds_le_of_later hl; omega

/-! ## Reads -/

mutual

/-- How often the source was read for an operation: by itself, and by those during its read. -/
def Outcome.readings : Outcome → Nat
  | ⟨_, _, none⟩ => 0
  | ⟨_, _, some outcomes⟩ => 1 + readingsOf outcomes

/-- How often the source was read for some operations. -/
def readingsOf : List Outcome → Nat
  | [] => 0
  | outcome :: outcomes => outcome.readings + readingsOf outcomes

end

theorem Quiet.reads {r r' : Registry} (h : Quiet r r') : r'.reads = r.reads := by
  rw [Registry.reads, Registry.reads, h.handedOut]

theorem reads_readSource (r : Registry) : r.readSource.reads = r.reads + 1 := by
  simp [reads, readSource]

theorem Ended.quiet {r : Registry} {read : Nat} {ds : List Descriptor} {o : Answer × Registry}
    (h : Ended r read ds o) : Quiet r o.2 := by
  cases h with
  | failed e hq => exact hq
  | kept g hq => exact hq
  | fresh g hq => exact hq

mutual

/-- Every list that is handed out while an operation is carried out is counted once in its outcome. -/
theorem reads_perform (r : Registry) : ∀ op : Operation,
    (r.perform op).2.reads = r.reads + (r.perform op).1.readings
  | .routes during => by
    rw [perform]
    split
    · rename_i p _
      obtain ⟨g, r', h, -, hq, -⟩ := showSnapshot_cases r p
      simp only [h, Outcome.readings]
      exact hq.reads
    · have ih := reads_performAll r.readSource during
      rw [reads_readSource] at ih
      simp only [(settle_ended ..).quiet.reads, ih, Outcome.readings]
      omega
  | .rebuild during => by
    have ih := reads_performAll r.readSource during
    rw [reads_readSource] at ih
    rw [perform]
    simp only [(replace_ended ..).quiet.reads, ih, Outcome.readings]
    omega
  | .current => by
    rw [perform]; simp only [Outcome.readings]; exact (showAny_cases r _).2.1.reads
  | .invalidate => by
    rw [perform]; simp only [Outcome.readings]; exact (invalidate_cases r).2.1.reads
  | .setSource ds => by rw [perform]; simp only [Outcome.readings]; rfl
  | .recall g => by
    rw [perform]; simp only [Outcome.readings]; exact (showAny_cases r _).2.1.reads

theorem reads_performAll (r : Registry) : ∀ ops : List Operation,
    (r.performAll ops).2.reads = r.reads + readingsOf (r.performAll ops).1
  | [] => by rw [performAll]; simp only [readingsOf]; rfl
  | op :: ops => by
    rw [performAll]
    simp only [readingsOf, reads_performAll _ ops, reads_perform r op]
    omega

end

end RouteTable.Registry
