/-
What an invalidation achieves. After it, a collection that is handed to a caller comes from a list
that the source handed out later, or from one whose read was in progress while the registry was
invalidated: such a read had its list already, and the end of its build finds nothing that tells it
so. With no read in progress an invalidation is therefore never lost; during a read it is lost as
soon as the build of that read ends well (`stale_answer_iff_read_in_progress`).

The invariant over the moments after an invalidation (`Since`) bounds the reads that anything
published, or any build still to be ended, can come from.
-/
import RouteTable.Proofs.Compiler.Blame
import RouteTable.Proofs.Registry.Moments

namespace RouteTable.Registry

/-! ## Callers get what is published -/

/-- The operation asks for the published collection. -/
def Operation.Asks (op : Operation) : Prop := op = .current ∨ ∃ during, op = .routes during

/-- Whoever asks for the published collection gets the one that is published when the answer is
given. -/
theorem Operation.Asks.published {op : Operation} (ha : op.Asks) {r : Registry} {s : Snapshot}
    {g : Nat} (h : (r.perform op).1.answer = .snapshot s g) :
    (r.perform op).2.published = some s := by
  have hshow : ∀ {r : Registry} {p : Snapshot}, r.published = some p →
      (r.showSnapshot p).1 = .snapshot s g → (r.showSnapshot p).2.published = some s := by
    intro r p hp hs
    obtain ⟨g', r', hr, hp', -⟩ := showSnapshot_cases r p
    rw [hr] at hs ⊢
    cases hs
    exact hp'.trans hp
  rcases ha with rfl | ⟨during, rfl⟩
  · rw [perform] at h ⊢
    cases hp : r.published with
    | none => rw [hp] at h; cases h
    | some p => rw [hp] at h; exact hshow hp h
  · rw [perform] at h ⊢
    cases hp : r.published with
    | some p => rw [hp] at h; exact hshow hp h
    | none =>
      simp only [hp] at h ⊢
      generalize (r.readSource.performAll during).2 = later at h ⊢
      have he := settle_ended later r.reads r.source
      generalize later.settle r.reads r.source = ended at he h ⊢
      cases he with
      | failed e => cases h
      | kept g' hq hc hp hp' => cases h; exact hp'
      | fresh g' hq hread hc hp' => cases h; exact hp'

/-! ## Since an invalidation -/

/-- At least `reads` lists have been handed out, and of the earlier ones only those in `old` can be
behind the published snapshot or a build that is still to be ended. -/
structure Since (reads : Nat) (old : List Nat) (m : Moment) : Prop where
  le : reads ≤ m.registry.reads
  published : ∀ s, m.registry.published = some s → s.read < reads → s.read ∈ old
  pending : ∀ p ∈ pending m.tasks, p.1 < reads → p.1 ∈ old

theorem since_invalidate (r : Registry) (ts : List Task) :
    Since r.reads ((pending ts).map (·.1)) ⟨r.invalidate, ts⟩ where
  le := Nat.le_of_eq (by rw [reads, reads, (invalidate_cases r).2.1.handedOut])
  published := fun s h => by rw [(invalidate_cases r).1] at h; cases h
  pending := fun p h _ => List.mem_map_of_mem h

theorem Since.next {reads : Nat} {old : List Nat} {m m' : Moment} (h : Since reads old m)
    (hn : Next m m') : Since reads old m' := by
  have hs := hn.step
  refine ⟨Nat.le_trans h.le hs.handedOut.length_le, fun s hp hlt => ?_, fun p hp hlt => ?_⟩
  · rcases hs.published s hp with hp | ⟨ds, hd, -⟩
    · exact h.published s hp hlt
    · exact h.pending _ hd hlt
  · rcases hs.pending p hp with hp | ⟨he, -⟩
    · exact h.pending p hp hlt
    · -- a read that starts now comes after the invalidation
      exact absurd hlt (by have := h.le; omega)

theorem Since.later {reads : Nat} {old : List Nat} {m m' : Moment} (h : Since reads old m)
    (hl : Later m m') : Since reads old m' := by
  induction hl with
  | refl => exact h
  | tail _ hn ih => exact ih.next hn

/-- The end of a build publishes the build, if it succeeds and finds nothing published. -/
theorem Ended.published_fresh {r : Registry} {read : Nat} {ds : List Descriptor} {o : Answer × Registry}
    (h : Ended r read ds o) {c : Collection}
    (hc : (r.compiler.compileAllBy r.checker r.policy ds).value = .ok c) (hp : r.published = none) :
    ∃ s, o.2.published = some s ∧ s.read = read := by
  cases h with
  | failed e hq hc' => rw [hc] at hc'; cases hc'
  | kept g hq hc' hp' => rw [hp] at hp'; cases hp'
  | fresh g hq hread hc' hp' => exact ⟨_, hp', hread⟩

theorem perform_current_of_published {r : Registry} {s : Snapshot} (h : r.published = some s) :
    ∃ g, (r.perform .current).1.answer = .snapshot s g := by
  obtain ⟨g, r', hr, -⟩ := showSnapshot_cases r s
  exact ⟨g, by rw [perform, h]; simp only [showAny, hr]⟩

/-- What becomes of an invalidation, in every run and whatever is nested in its reads. A collection
that is handed, some time later, to a caller who asks for the published one is compiled from the
list of its read, and that list was handed out before the invalidation exactly if its read was in
progress then. And where the invalidation is the last thing to happen during a read, it is lost if
the list of that read compiles: the next caller gets the stale collection. -/
theorem stale_answer_iff_read_in_progress {checker : Checker} {compiler : Compiler} {policy : BatchPolicy}
    {source : List Descriptor} {ops : List Operation} {r : Registry} {ts : List Task}
    (hrun : Later (.first compiler policy source ops checker) ⟨r, .start .invalidate :: ts⟩) :
    (∀ r' op ts' s g, Later ⟨r.invalidate, ts⟩ ⟨r', .start op :: ts'⟩ → op.Asks →
      (r'.perform op).1.answer = .snapshot s g →
      (r'.perform op).2.Compiled s ∧ (s.read < r.reads ↔ s.read ∈ (pending ts).map (·.1))) ∧
    ∀ t ts' read ds c, ts = t :: ts' → t.pending? = some (read, ds) →
      (r.compiler.compileAllBy r.checker r.policy ds).value = .ok c →
      ∃ r' s g, Next ⟨r.invalidate, ts⟩ ⟨r', ts'⟩ ∧
        (r'.perform .current).1.answer = .snapshot s g ∧ s.read = read ∧ s.read < r.reads := by
  have hsound := (sound_first compiler policy source ops checker).later hrun
  refine ⟨fun r' op ts' s g hlater hop hans => ?_, fun t ts' read ds c hts ht hc => ?_⟩
  · have hend := hlater.trans (later_perform r' ts' op)
    have hpub := hop.published hans
    refine ⟨((hsound.next .invalidate).later hend).published s hpub, fun hlt => ?_, fun hmem => ?_⟩
    · exact ((since_invalidate r ts).later hend).published s hpub hlt
    · obtain ⟨p, hp, hps⟩ := List.mem_map.1 hmem
      rw [← hps]
      exact (List.getElem?_eq_some_iff.1 (hsound.pending p hp)).1
  · subst hts
    obtain ⟨hnone, hq, -⟩ := invalidate_cases r
    have hlt : read < r.reads :=
      (List.getElem?_eq_some_iff.1 (hsound.pending (read, ds) (List.mem_filterMap.2 ⟨t, by simp, ht⟩))).1
    rw [← hq.checker, ← hq.compiler, ← hq.policy] at hc
    cases t with
    | start op => cases ht
    | settle read' ds' =>
      cases ht
      obtain ⟨s, hs, rfl⟩ := (settle_ended r.invalidate read ds).published_fresh hc hnone
      obtain ⟨g, hg⟩ := perform_current_of_published hs
      exact ⟨_, s, g, .settle, hg, rfl, hlt⟩
    | replace read' ds' =>
      cases ht
      obtain ⟨s, hs, rfl⟩ := (replace_ended r.invalidate read ds).published_fresh hc hnone
      obtain ⟨g, hg⟩ := perform_current_of_published hs
      exact ⟨_, s, g, .replace, hg, rfl, hlt⟩

/-- The route of the runs below. -/
def labels : Descriptor := (Descriptor.ofVerb "GET").literal "/labels"

theorem compileAll_labels : ∃ c, (({} : Compiler).compileAll .abort [labels]).value = .ok c := by
  have h : (({} : Compiler).compileAll .abort [labels]).value.isOk = true := by decide +kernel
  exact exists_ok_of_isOk h

/-- A rebuild during whose read the registry is invalidated, up to the invalidation. -/
theorem later_labels : Later (.first {} .abort [labels] [.rebuild [.invalidate], .current])
    ⟨({ source := [labels] } : Registry).readSource,
      [.start .invalidate, .replace 0 [labels], .start .current]⟩ :=
  .single .reread

/-- A rebuild during whose read the registry is invalidated, and then a call for what is published:
the caller gets the collection of the first read. -/
theorem stale_answer_after_rebuild :
    ∃ r ts r' s g, Later (.first {} .abort [labels] [.rebuild [.invalidate], .current])
        ⟨r, .start .invalidate :: ts⟩ ∧
      Later ⟨r.invalidate, ts⟩ ⟨r', [.start .current]⟩ ∧
      (r'.perform .current).1.answer = .snapshot s g ∧ s.read = 0 ∧ r.reads = 1 := by
  obtain ⟨c, hc⟩ := compileAll_labels
  have hrun := later_labels
  obtain ⟨r', s, g, hn, hans, hread, -⟩ :=
    (stale_answer_iff_read_in_progress hrun).2 _ _ _ _ c rfl rfl hc
  exact ⟨_, _, r', s, g, hrun, .single hn, hans, hread, rfl⟩

/-- So not every answer after an invalidation comes from a list that was handed out later. -/
theorem not_forall_answers_fresh : ¬ ∀ (compiler : Compiler) (policy : BatchPolicy)
    (source : List Descriptor) (ops : List Operation) (r r' : Registry) (ts ts' : List Task)
    (op : Operation) (s : Snapshot) (g : Nat),
    Later (.first compiler policy source ops) ⟨r, .start .invalidate :: ts⟩ →
    Later ⟨r.invalidate, ts⟩ ⟨r', .start op :: ts'⟩ → op.Asks →
    (r'.perform op).1.answer = .snapshot s g → r.reads ≤ s.read := by
  intro h
  obtain ⟨c, hc⟩ := compileAll_labels
  obtain ⟨s, hs, hread⟩ := (replace_ended ({ source := [labels] } : Registry).readSource.invalidate
    0 [labels]).published_fresh hc rfl
  obtain ⟨g, hg⟩ := perform_current_of_published hs
  have := h {} .abort [labels] [.rebuild [.invalidate], .current] _ _ _ [] .current s g later_labels
    (.single .replace) (.inl rfl) hg
  rw [hread] at this
  exact absurd this (by decide)

end RouteTable.Registry
