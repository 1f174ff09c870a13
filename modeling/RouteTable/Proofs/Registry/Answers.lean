/-
What the callers of a registry get. A `routes` call answers what is published when it returns: what
it finds, or what was published while it read the source, or else its own build, which it publishes.
So it never replaces what is published, and a build of its own that comes too late is never seen. A
`rebuild` reads the source and publishes its own build in any case (`first_publication_wins`).

The build of a call is ended in the registry that the operations during its read have left
(`afterRead`), so every case of the end of a build is a case of that registry.
-/
import RouteTable.Proofs.Registry.Invalidation
import RouteTable.Proofs.Registry.Snapshots

namespace RouteTable.Registry

/-! ## Calls that read the source -/

/-- The registry when the operations during a read that begins now have ended. -/
def afterRead (r : Registry) (during : List Operation) : Registry := (r.readSource.performAll during).2

theorem settings_afterRead (r : Registry) (during : List Operation) :
    (r.afterRead during).checker = r.checker ∧ (r.afterRead during).compiler = r.compiler ∧
      (r.afterRead during).policy = r.policy :=
  settings_of_later (later_performAll r.readSource [] during)

/-- The list of a read stays in its place among those that are handed out. -/
theorem handedOut_afterRead (r : Registry) (during : List Operation) :
    (r.afterRead during).handedOut[r.reads]? = some r.source := by
  have hread : r.readSource.handedOut[r.reads]? = some r.source := List.getElem?_concat_length ..
  obtain ⟨more, hmore⟩ := handedOut_of_later (later_performAll r.readSource [] during)
  have hlt := (List.getElem?_eq_some_iff.1 hread).1
  exact hmore ▸ (List.getElem?_append_left hlt).trans hread

theorem published_afterRead_nil (r : Registry) : (r.afterRead []).published = r.published := by
  rw [afterRead, performAll]; rfl

/-- What a call that reads the source now makes of the list it is handed, once the operations during
that read have ended. -/
def ownBuild (r : Registry) (during : List Operation) : Except CompileError Snapshot :=
  ((r.afterRead during).build r.reads r.source).1

theorem perform_routes_of_published {r : Registry} {p : Snapshot} (h : r.published = some p)
    (during : List Operation) : ∃ g, (r.perform (.routes during)).1 = ⟨r.reads, .snapshot p g, none⟩ ∧
      (r.perform (.routes during)).2.published = some p ∧
      (r.perform (.routes during)).2.handedOut = r.handedOut := by
  obtain ⟨g, r', hr, hp, hq, -⟩ := showSnapshot_cases r p
  refine ⟨g, ?_⟩
  rw [perform]
  simp only [h, hr, hq.reads]
  exact ⟨trivial, hp.trans h, hq.handedOut⟩

theorem perform_routes_of_unpublished {r : Registry} (h : r.published = none) (during : List Operation) :
    (r.perform (.routes during)).1.answer = ((r.afterRead during).settle r.reads r.source).1 ∧
      (r.perform (.routes during)).1.during = some (r.readSource.performAll during).1 ∧
      (r.perform (.routes during)).2 = ((r.afterRead during).settle r.reads r.source).2 := by
  rw [perform]
  simp only [h, afterRead, and_self]

theorem perform_rebuild (r : Registry) (during : List Operation) :
    (r.perform (.rebuild during)).1.answer = ((r.afterRead during).replace r.reads r.source).1 ∧
      (r.perform (.rebuild during)).1.during = some (r.readSource.performAll during).1 ∧
      (r.perform (.rebuild during)).2 = ((r.afterRead during).replace r.reads r.source).2 := by
  rw [perform]
  exact ⟨rfl, rfl, rfl⟩

/-- A call's own build compiles the list of its own read, under the identity that is next when the
operations during that read have ended. -/
theorem ownBuild_eq (r : Registry) (during : List Operation) :
    r.ownBuild during = (r.compiler.compileAllBy r.checker r.policy r.source).value.map fun c =>
      ⟨(r.afterRead during).builds, r.reads, c⟩ := by
  obtain ⟨hchecker, hcompiler, hpolicy⟩ := settings_afterRead r during
  rw [ownBuild, build_eq, hchecker, hcompiler, hpolicy]

/-- The operation reads the source once itself, whatever it answers: its outcome tells of the
operations during that read, and besides it only they were handed a list. -/
structure ReadsOnce (r : Registry) (op : Operation) (nested : List Operation) : Prop where
  during : (r.perform op).1.during = some (r.readSource.performAll nested).1
  reads : (r.perform op).2.reads = r.reads + 1 + readingsOf (r.readSource.performAll nested).1

theorem readsOnce_of_during {r : Registry} {op : Operation} {nested : List Operation}
    (h : (r.perform op).1.during = some (r.readSource.performAll nested).1) : ReadsOnce r op nested := by
  refine ⟨h, ?_⟩
  have hreads := reads_perform r op
  generalize (r.perform op).1 = outcome at h hreads
  obtain ⟨reads, answer, during⟩ := outcome
  subst h
  rw [hreads, Outcome.readings, Nat.add_assoc]

/-! ## The two calls -/

/-- Nothing that is published or shown has the identity, at any moment of the run from `m` to `m'`. -/
def Unseen (m m' : Moment) (identity : Nat) : Prop :=
  ∀ now s, Later m now → Later now m' → now.registry.Known s → s.identity ≠ identity

section Calls

variable (first : Moment) (r : Registry) (during : List Operation) (ts : List Task)

/-- What a `routes` call does, in a run that began at `first` and still has to do `ts` after it. While
a collection is published it answers that one and reads nothing. Otherwise it reads the source once.
Then it keeps what was published meanwhile, and its own build is never seen; or, if nothing was, it
publishes its own build, which is new. -/
structure FirstWins : Prop where
  answer : ∀ s g, (r.perform (.routes during)).1.answer = .snapshot s g →
    (r.perform (.routes during)).2.published = some s
  cached : ∀ p, r.published = some p →
    ∃ g, (r.perform (.routes during)).1 = ⟨r.reads, .snapshot p g, none⟩ ∧
      (r.perform (.routes during)).2.published = some p ∧
      (r.perform (.routes during)).2.handedOut = r.handedOut
  reads : r.published = none → ReadsOnce r (.routes during) during
  failed : r.published = none → ∀ e, r.ownBuild during = .error e →
    (r.perform (.routes during)).1.answer = .failed e ∧
      (r.perform (.routes during)).2.published = (r.afterRead during).published
  kept : r.published = none → ∀ own p, r.ownBuild during = .ok own →
    (r.afterRead during).published = some p →
      (∃ g, (r.perform (.routes during)).1.answer = .snapshot p g) ∧
      (r.perform (.routes during)).2.published = some p ∧
      ∀ m, Unseen ⟨(r.perform (.routes during)).2, ts⟩ m own.identity
  won : r.published = none → ∀ own, r.ownBuild during = .ok own → (r.afterRead during).published = none →
      (∃ g, (r.perform (.routes during)).1.answer = .snapshot own g) ∧
      (r.perform (.routes during)).2.published = some own ∧
      Unseen first ⟨r.afterRead during, .settle r.reads r.source :: ts⟩ own.identity

/-- What a `rebuild` call does: it reads the source once, and what it answers is its own build, which
is new and which it leaves published, whatever was published before. -/
structure LastReplaces : Prop where
  reads : ReadsOnce r (.rebuild during) during
  answer : ∀ s g, (r.perform (.rebuild during)).1.answer = .snapshot s g →
    r.ownBuild during = .ok s ∧ (r.perform (.rebuild during)).2.published = some s ∧
      Unseen first ⟨r.afterRead during, .replace r.reads r.source :: ts⟩ s.identity
  built : ∀ own, r.ownBuild during = .ok own → ∃ g, (r.perform (.rebuild during)).1.answer = .snapshot own g
  failed : ∀ e, r.ownBuild during = .error e →
    (r.perform (.rebuild during)).1.answer = .failed e ∧
      (r.perform (.rebuild during)).2.published = (r.afterRead during).published

end Calls

section Proofs

variable {checker : Checker} {compiler : Compiler} {policy : BatchPolicy} {source : List Descriptor}
  {ops : List Operation}
variable {r : Registry} {during : List Operation} {ts : List Task}

/-- The identity of the next build is new. -/
theorem unseen_builds (m : Moment) : Unseen (.first compiler policy source ops checker) m m.registry.builds :=
  fun _ s hrun hlater hk => Nat.ne_of_lt (Nat.lt_of_lt_of_le (known_lt hrun s hk) (builds_le_of_later hlater))

theorem ownBuild_error {e : CompileError} (h : r.ownBuild during = .error e) :
    ((r.afterRead during).compiler.compileAllBy (r.afterRead during).checker (r.afterRead during).policy
      r.source).value = .error e := by
  rw [ownBuild, build_eq] at h
  cases hc : ((r.afterRead during).compiler.compileAllBy (r.afterRead during).checker (r.afterRead during).policy
    r.source).value with
  | error e' => rw [hc] at h; cases h; rfl
  | ok c => rw [hc] at h; cases h

theorem ownBuild_ok {own : Snapshot} (h : r.ownBuild during = .ok own) :
    own = ⟨(r.afterRead during).builds, r.reads, own.routes⟩ ∧
      ((r.afterRead during).compiler.compileAllBy (r.afterRead during).checker (r.afterRead during).policy
        r.source).value = .ok own.routes := by
  rw [ownBuild, build_eq] at h
  cases hc : ((r.afterRead during).compiler.compileAllBy (r.afterRead during).checker (r.afterRead during).policy
    r.source).value with
  | error e => rw [hc] at h; cases h
  | ok c => rw [hc] at h; cases h; exact ⟨rfl, rfl⟩

theorem identity_of_ownBuild {own : Snapshot} (h : r.ownBuild during = .ok own) :
    own.identity = (r.afterRead during).builds :=
  congrArg Snapshot.identity (ownBuild_ok h).1

/-- The end of a `rebuild` whose own build succeeds. -/
theorem perform_rebuild_of_ok {own : Snapshot} (h : r.ownBuild during = .ok own) :
    (∃ g, (r.perform (.rebuild during)).1.answer = .snapshot own g) ∧
      (r.perform (.rebuild during)).2.published = some own := by
  obtain ⟨heq, hc⟩ := ownBuild_ok h
  obtain ⟨hans, -, hreg⟩ := perform_rebuild r during
  obtain ⟨g, r', hr, hp, -⟩ := replace_of_ok r.reads hc
  rw [hans, hreg, hr, heq]
  exact ⟨⟨g, rfl⟩, hp⟩

theorem perform_rebuild_of_error {e : CompileError} (h : r.ownBuild during = .error e) :
    (r.perform (.rebuild during)).1.answer = .failed e ∧
      (r.perform (.rebuild during)).2.published = (r.afterRead during).published := by
  obtain ⟨hans, -, hreg⟩ := perform_rebuild r during
  obtain ⟨r', hr, hp, -⟩ := replace_of_error r.reads (ownBuild_error h)
  rw [hans, hreg, hr]
  exact ⟨rfl, hp⟩

theorem lastReplaces : LastReplaces (.first compiler policy source ops checker) r during ts where
  reads := readsOnce_of_during (perform_rebuild r during).2.1
  answer := fun s g hans => by
    cases hown : r.ownBuild during with
    | error e => rw [(perform_rebuild_of_error hown).1] at hans; cases hans
    | ok own =>
      obtain ⟨⟨g', hans'⟩, hp⟩ := perform_rebuild_of_ok hown
      rw [hans'] at hans
      cases hans
      exact ⟨rfl, hp, identity_of_ownBuild hown ▸ unseen_builds _⟩
  built := fun own hown => (perform_rebuild_of_ok hown).1
  failed := fun e he => perform_rebuild_of_error he

/-- A `routes` call that finds nothing published ends like a `rebuild`, unless its own build succeeds
and something is published by then. -/
theorem perform_routes_eq_rebuild (h : r.published = none)
    (hend : (r.afterRead during).published = none ∨ ∃ e, r.ownBuild during = .error e) :
    (r.perform (.routes during)).1.answer = (r.perform (.rebuild during)).1.answer ∧
      (r.perform (.routes during)).2 = (r.perform (.rebuild during)).2 := by
  obtain ⟨hans, -, hreg⟩ := perform_routes_of_unpublished h during
  obtain ⟨hans', -, hreg'⟩ := perform_rebuild r during
  -- the two calls differ only in how they end, in the same registry and with the same list
  have heq : (r.afterRead during).settle r.reads r.source = (r.afterRead during).replace r.reads r.source := by
    rcases hend with hp | ⟨e, he⟩
    · exact settle_of_unpublished hp ..
    · exact settle_of_error _ (ownBuild_error he)
  rw [hans, hans', hreg, hreg', heq]
  exact ⟨rfl, rfl⟩

/-- The end of a `routes` whose own build succeeds too late. -/
theorem perform_routes_of_late {own p : Snapshot} (h : r.published = none) (hown : r.ownBuild during = .ok own)
    (hp : (r.afterRead during).published = some p) :
    (∃ g, (r.perform (.routes during)).1.answer = .snapshot p g) ∧
      (r.perform (.routes during)).2.published = some p ∧
      (r.perform (.routes during)).2.builds = (r.afterRead during).builds + 1 ∧
      ∀ s, (r.perform (.routes during)).2.Known s → (r.afterRead during).Known s := by
  obtain ⟨hans, -, hreg⟩ := perform_routes_of_unpublished h during
  obtain ⟨g, r', hr, hp', -, hs, hb⟩ := settle_of_published r.reads (ownBuild_ok hown).2 hp
  rw [hans, hreg, hr]
  refine ⟨⟨g, rfl⟩, hp', hb, fun s hk => ?_⟩
  rcases hk with hk | hk
  · exact .inl (by rw [hp, ← hp', hk])
  · exact (hs s hk).elim .inr (by rintro rfl; exact .inl hp)

theorem firstWins (hrun : Later (.first compiler policy source ops checker) ⟨r, .start (.routes during) :: ts⟩) :
    FirstWins (.first compiler policy source ops checker) r during ts where
  answer := fun s g hans => Operation.Asks.published (.inr ⟨during, rfl⟩) hans
  cached := fun p hp => perform_routes_of_published hp during
  reads := fun h => readsOnce_of_during (perform_routes_of_unpublished h during).2.1
  failed := fun h e he => by
    obtain ⟨hans, hreg⟩ := perform_routes_eq_rebuild h (.inr ⟨e, he⟩)
    rw [hans, hreg]
    exact perform_rebuild_of_error he
  kept := fun h own p hown hp => by
    obtain ⟨hans, hp', hb, hk⟩ := perform_routes_of_late h hown hp
    refine ⟨hans, hp', fun m now s hlater _ hs => ?_⟩
    have hid := identity_of_ownBuild hown
    -- the build took its identity, and nothing has become known with it
    have hafter : Later (.first compiler policy source ops checker)
        ⟨r.afterRead during, .settle r.reads r.source :: ts⟩ :=
      hrun.trans (.head (.read h) (later_performAll r.readSource _ during))
    have htaken : own.identity < (r.perform (.routes during)).2.builds := by omega
    refine unseen_later htaken (fun s hs => ?_) hlater s hs
    exact hid ▸ Nat.ne_of_lt (known_lt hafter s (hk s hs))
  won := fun h own hown hp => by
    obtain ⟨hans, hreg⟩ := perform_routes_eq_rebuild h (.inl hp)
    obtain ⟨hans', hp'⟩ := perform_rebuild_of_ok hown
    exact ⟨hans ▸ hans', hreg ▸ hp', identity_of_ownBuild hown ▸ unseen_builds _⟩

end Proofs

/-- In every run, whatever is nested in its reads: a `routes` call never replaces what is published,
and answers what is published when it returns; it reads the source itself once if nothing is
published when it starts, and else not at all. A `rebuild` call always reads the source itself once,
and leaves published the new collection that it answers. -/
theorem first_publication_wins {checker : Checker} {compiler : Compiler} {policy : BatchPolicy}
    {source : List Descriptor} {ops : List Operation} {r : Registry} {during : List Operation} {ts : List Task} :
    (Later (.first compiler policy source ops checker) ⟨r, .start (.routes during) :: ts⟩ →
      FirstWins (.first compiler policy source ops checker) r during ts) ∧
    (Later (.first compiler policy source ops checker) ⟨r, .start (.rebuild during) :: ts⟩ →
      LastReplaces (.first compiler policy source ops checker) r during ts) :=
  ⟨firstWins, fun _ => lastReplaces⟩

theorem afterRead_singleton (r : Registry) (op : Operation) :
    r.afterRead [op] = (r.readSource.perform op).2 := by
  simp only [afterRead, performAll]

/-- A `rebuild` during the read of a `routes` call publishes the collection of the second read. So
the call around it answers that one, and its own build, of the first read, is never seen. -/
theorem late_build_discarded : ∃ (r : Registry) (own p : Snapshot) (g : Nat),
    Later (.first {} .abort [labels] [.routes [.rebuild []]]) ⟨r, [.start (.routes [.rebuild []])]⟩ ∧
    r.ownBuild [.rebuild []] = .ok own ∧ own.read = 0 ∧ p.read = 1 ∧
    (r.perform (.routes [.rebuild []])).1.answer = .snapshot p g ∧
    (r.perform (.routes [.rebuild []])).2.published = some p ∧
    ∀ m, Unseen ⟨(r.perform (.routes [.rebuild []])).2, []⟩ m own.identity := by
  obtain ⟨c, hc⟩ := compileAll_labels
  have hrun : Later (.first {} .abort [labels] [.routes [.rebuild []]])
      ⟨{ source := [labels] }, [.start (.routes [.rebuild []])]⟩ := .refl
  -- with a name for the registry, no step below carries out the calls
  generalize hr : ({ source := [labels] } : Registry) = r at hrun
  have hnone : r.published = none := by rw [← hr]
  have hown : ∀ during, r.ownBuild during = .ok ⟨(r.afterRead during).builds, 0, c⟩ := fun during => by
    rw [ownBuild_eq, ← hr]
    exact congrArg (Except.map _) hc
  have hwithin : r.readSource.ownBuild [] = .ok ⟨(r.readSource.afterRead []).builds, 1, c⟩ := by
    rw [ownBuild_eq, ← hr]
    exact congrArg (Except.map _) hc
  have within := first_publication_wins.2 (hrun.tail (.read hnone))
  obtain ⟨g, hans⟩ := within.built _ hwithin
  have hpub := (within.answer _ g hans).2.1
  rw [← afterRead_singleton] at hpub
  obtain ⟨⟨g', hans'⟩, hp, hunseen⟩ := (first_publication_wins.1 hrun).kept hnone _ _ (hown _) hpub
  exact ⟨r, _, _, g', hrun, hown _, rfl, rfl, hans', hp, hunseen⟩

end RouteTable.Registry
