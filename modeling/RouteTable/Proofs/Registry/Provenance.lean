/-
Where collections come from, and that they stay what they are. The moments of a run follow one another
in one order, and every snapshot that is published or shown was built at one of them
(`exists_built_of_known`). Of two builds the later one takes the greater identity, so in a whole run an
identity stands for one snapshot (`eq_of_identity_eq`); and a snapshot keeps its place among those that
were shown, so whoever asks for it again gets it (`perform_recall_of_shown`).
-/
import RouteTable.Proofs.Registry.Answers

namespace RouteTable.Registry

/-! ## Builds -/

theorem rightUnique_next : Relator.RightUnique Next := by
  intro m m₁ m₂ h₁ h₂
  cases h₁ with
  | cached h =>
    cases h₂ with
    | cached h' => rw [h] at h'; cases h'; rfl
    | read h' => rw [h] at h'; cases h'
  | read h =>
    cases h₂ with
    | cached h' => rw [h] at h'; cases h'
    | read => rfl
  | reread => cases h₂; rfl
  | current => cases h₂; rfl
  | invalidate => cases h₂; rfl
  | setSource => cases h₂; rfl
  | showAgain => cases h₂; rfl
  | settle => cases h₂; rfl
  | replace => cases h₂; rfl

/-- Of two builds the later one takes the greater identity, whatever they contain. -/
theorem identity_lt_of_built {m m' m₂ : Moment} {s t : Snapshot} (hs : m.built? = some s) (hn : Next m m')
    (hl : Later m' m₂) (ht : m₂.built? = some t) : s.identity < t.identity := by
  have hnext := hn.advances.builds
  rw [hs, Option.toList_some, List.length_singleton] at hnext
  have hle := builds_le_of_later hl
  rw [identity_of_built hs, identity_of_built ht]
  omega

theorem eq_of_built_of_later {m m₂ : Moment} {s t : Snapshot} (hl : Later m m₂) (hs : m.built? = some s)
    (ht : m₂.built? = some t) (hid : s.identity = t.identity) : s = t := by
  rcases hl.cases_head with rfl | ⟨m', hn, hl⟩
  · rw [hs] at ht; cases ht; rfl
  · exact absurd (identity_lt_of_built hs hn hl ht) (Nat.not_lt.2 (Nat.le_of_eq hid.symm))

section Run

variable {checker : Checker} {compiler : Compiler} {policy : BatchPolicy} {source : List Descriptor}
  {ops : List Operation}
variable {m m' : Moment} {s t : Snapshot}

/-- What is published or shown was built before. -/
theorem exists_built_of_known (hrun : Later (.first compiler policy source ops checker) m)
    (hk : m.registry.Known s) : ∃ m₀, Later (.first compiler policy source ops checker) m₀ ∧ m₀.built? = some s := by
  induction hrun with
  | refl => rcases hk with hk | hk <;> cases hk
  | tail hl hn ih =>
    rcases hn.advances.known s hk with hk | hb
    · exact ih hk
    · exact ⟨_, hl, hb⟩

/-- In a whole run an identity stands for one snapshot. -/
theorem eq_of_identity_eq (hrun : Later (.first compiler policy source ops checker) m)
    (hrun' : Later (.first compiler policy source ops checker) m') (hs : m.registry.Known s)
    (ht : m'.registry.Known t) (hid : s.identity = t.identity) : s = t := by
  obtain ⟨m₀, h₀, hs₀⟩ := exists_built_of_known hrun hs
  obtain ⟨m₁, h₁, ht₁⟩ := exists_built_of_known hrun' ht
  rcases Relation.ReflTransGen.total_of_right_unique rightUnique_next h₀ h₁ with hl | hl
  · exact eq_of_built_of_later hl hs₀ ht₁ hid
  · exact (eq_of_built_of_later hl ht₁ hs₀ hid.symm).symm

/-! ## Places -/

theorem shown_of_later (h : Later m m') : m.registry.shown <+: m'.registry.shown := by
  induction h with
  | refl => exact List.prefix_refl _
  | tail _ hn ih =>
    rcases hn.advances.shown with hs | ⟨s, -, hs⟩
    · rw [hs]; exact ih
    · rw [hs]; exact ih.trans (List.prefix_append _ _)

/-- No snapshot is shown at two places. -/
theorem shown_pairwise (hrun : Later (.first compiler policy source ops checker) m) :
    m.registry.shown.Pairwise fun s t => s.identity ≠ t.identity := by
  induction hrun with
  | refl => exact .nil
  | tail _ hn ih =>
    rcases hn.advances.shown with hs | ⟨s, hnew, hs⟩
    · rw [hs]; exact ih
    · rw [hs]
      refine List.pairwise_append.2 ⟨ih, List.pairwise_singleton _ _, fun t ht u hu => ?_⟩
      rw [List.mem_singleton.1 hu]
      exact hnew t ht

/-- Whoever asks for the snapshot at a place gets it, at that place. -/
theorem perform_recall_of_shown {r : Registry} {ts : List Task} {g : Nat}
    (hrun : Later (.first compiler policy source ops checker) ⟨r, ts⟩) (hs : r.shown[g]? = some s) :
    (r.perform (.recall g)).1.answer = .snapshot s g := by
  obtain ⟨hlt, hget⟩ := List.getElem?_eq_some_iff.1 hs
  have hdistinct := List.pairwise_iff_getElem.1 (shown_pairwise hrun)
  have hplace : r.generation? s = some g := by
    refine List.findIdx?_eq_some_iff_getElem.2 ⟨hlt, by simp [hget], fun j hj => ?_⟩
    have hne := hdistinct j g (Nat.lt_trans hj hlt) hlt hj
    rw [hget] at hne
    simpa using hne
  rw [perform, hs]
  simp only [showAny, showSnapshot, hplace]

end Run

/-! ## Answers -/

theorem showSnapshot_answer {r : Registry} {p s : Snapshot} {g : Nat} (h : (r.showSnapshot p).1 = .snapshot s g) :
    p = s ∧ ∃ t, (r.showSnapshot p).2.shown[g]? = some t ∧ t.identity = s.identity := by
  unfold showSnapshot at h ⊢
  split at h
  · rename_i g' hplace
    cases h
    obtain ⟨hlt, hid, -⟩ := List.findIdx?_eq_some_iff_getElem.1 hplace
    exact ⟨rfl, _, List.getElem?_eq_getElem hlt, by simpa using hid⟩
  · cases h
    exact ⟨rfl, p, List.getElem?_concat_length .., rfl⟩

/-- A snapshot is answered only by showing it. -/
def AnswersByShowing (o : Answer × Registry) : Prop :=
  (∃ r s, o = showSnapshot r s) ∨ ∀ s g, o.1 ≠ .snapshot s g

theorem answersByShowing_showAny (r : Registry) (o : Option Snapshot) : AnswersByShowing (r.showAny o) := by
  cases o with
  | none => exact .inr fun s g => nofun
  | some s => exact .inl ⟨r, s, rfl⟩

theorem answersByShowing_replace (r : Registry) (read : Nat) (ds : List Descriptor) :
    AnswersByShowing (r.replace read ds) := by
  unfold replace
  split
  · exact .inr fun s g => nofun
  · exact .inl ⟨_, _, rfl⟩

theorem answersByShowing_settle (r : Registry) (read : Nat) (ds : List Descriptor) :
    AnswersByShowing (r.settle read ds) := by
  unfold settle
  split
  · exact .inr fun s g => nofun
  · split
    · exact .inl ⟨_, _, rfl⟩
    · exact .inl ⟨_, _, rfl⟩

theorem answersByShowing_perform (r : Registry) (op : Operation) :
    AnswersByShowing ((r.perform op).1.answer, (r.perform op).2) := by
  cases op with
  | routes during =>
    rw [perform]
    cases hp : r.published with
    | some p => exact .inl ⟨r, p, rfl⟩
    | none => exact answersByShowing_settle ..
  | rebuild during => rw [perform]; exact answersByShowing_replace ..
  | current => rw [perform]; exact answersByShowing_showAny ..
  | invalidate => rw [perform]; exact .inr fun s g => nofun
  | setSource ds => rw [perform]; exact .inr fun s g => nofun
  | «recall» g => rw [perform]; exact answersByShowing_showAny ..

theorem known_of_answer {r : Registry} {op : Operation} {s : Snapshot} {g : Nat}
    (h : (r.perform op).1.answer = .snapshot s g) : (r.perform op).2.Known s := by
  cases op with
  | routes during => exact .inl (Operation.Asks.published (.inr ⟨during, rfl⟩) h)
  | current => exact .inl (Operation.Asks.published (.inl rfl) h)
  | rebuild during =>
    cases hown : r.ownBuild during with
    | error e => rw [(perform_rebuild_of_error hown).1] at h; cases h
    | ok own =>
      obtain ⟨⟨g', hans⟩, hp⟩ := perform_rebuild_of_ok hown
      rw [hans] at h
      cases h
      exact .inl hp
  | invalidate => rw [perform] at h; cases h
  | setSource ds => rw [perform] at h; cases h
  | «recall» g' =>
    rw [perform] at h ⊢
    cases hs : r.shown[g']? with
    | none => rw [hs] at h; cases h
    | some p =>
      rw [hs] at h
      obtain ⟨rfl, -⟩ := showSnapshot_answer h
      -- it was shown before, and stays so
      refine .inr ?_
      rcases showsMore_showSnapshot r p with hsame | ⟨q, -, hmore⟩
      · simp only [showAny, hsame]; exact List.mem_of_getElem? hs
      · simp only [showAny, hmore]; exact List.mem_append_left _ (List.mem_of_getElem? hs)

section Run

variable {checker : Checker} {compiler : Compiler} {policy : BatchPolicy} {source : List Descriptor}
  {ops : List Operation}
variable {m : Moment} {s : Snapshot}

theorem compiled_of_known (hrun : Later (.first compiler policy source ops checker) m) (hk : m.registry.Known s) :
    ∃ ds, m.registry.handedOut[s.read]? = some ds ∧ (compiler.compileAllBy checker policy ds).value = .ok s.routes := by
  obtain ⟨hchecker, hcompiler, hpolicy⟩ := settings_of_later hrun
  have hsound := (sound_first compiler policy source ops checker).later hrun
  have hcompiled : m.registry.Compiled s := hk.elim (hsound.published s) (hsound.shown s)
  rw [Compiled, hchecker, hcompiler, hpolicy] at hcompiled
  exact hcompiled

/-- A snapshot that is answered is shown at the place that the answer names. -/
theorem shown_of_answer {r : Registry} {op : Operation} {ts : List Task} {g : Nat}
    (hrun : Later (.first compiler policy source ops checker) ⟨r, .start op :: ts⟩)
    (h : (r.perform op).1.answer = .snapshot s g) : (r.perform op).2.shown[g]? = some s := by
  have hafter := hrun.trans (later_perform r ts op)
  rcases answersByShowing_perform r op with ⟨r₀, p, ho⟩ | hno
  · have hans : (r₀.showSnapshot p).1 = .snapshot s g := (congrArg Prod.fst ho).symm.trans h
    obtain ⟨-, t, ht, hid⟩ := showSnapshot_answer hans
    rw [← ho] at ht
    have hknown : (r.perform op).2.Known t := .inr (List.mem_of_getElem? ht)
    rw [ht, eq_of_identity_eq hafter hafter hknown (known_of_answer h) hid]
  · exact absurd h (hno s g)

/-- In every run, whatever is nested in its reads and however its source changes. Every collection that
is published or was shown is what the compiler makes, under the policy, of the list that one read has
handed out. So is every collection that is answered; it is then known, and whoever asks for it again,
at any later moment, gets the same. A build that succeeds takes an identity that no earlier one has
taken, even if it contains the same routes. And an identity that was seen stands for the same snapshot,
with the same routes in the same order, at every later moment. -/
theorem snapshot_provenance (hrun : Later (.first compiler policy source ops checker) m) :
    (∀ s, m.registry.Known s →
      ∃ ds, m.registry.handedOut[s.read]? = some ds ∧ (compiler.compileAllBy checker policy ds).value = .ok s.routes) ∧
    (∀ r op ts s g, m = ⟨r, .start op :: ts⟩ → (r.perform op).1.answer = .snapshot s g →
      (∃ ds, (r.perform op).2.handedOut[s.read]? = some ds ∧
        (compiler.compileAllBy checker policy ds).value = .ok s.routes) ∧
      (r.perform op).2.Known s ∧
      ∀ r' ts', Later ⟨(r.perform op).2, ts⟩ ⟨r', ts'⟩ →
        (r'.perform (.recall g)).1.answer = .snapshot s g) ∧
    (∀ m₁ m₂ s t, m.built? = some s → Next m m₁ → Later m₁ m₂ → m₂.built? = some t →
      s.identity ≠ t.identity) ∧
    ∀ m' s t, Later m m' → m.registry.Known s → m'.registry.Known t → s.identity = t.identity → s = t := by
  refine ⟨fun s hk => compiled_of_known hrun hk, ?_, fun m₁ m₂ s t hs hn hl ht => ?_, fun m' s t hl hs ht hid => ?_⟩
  · rintro r op ts s g rfl h
    have hafter := hrun.trans (later_perform r ts op)
    refine ⟨compiled_of_known hafter (known_of_answer h), known_of_answer h, fun r' ts' hl => ?_⟩
    obtain ⟨more, hmore⟩ := shown_of_later hl
    have hs := shown_of_answer hrun h
    refine perform_recall_of_shown (hafter.trans hl) ?_
    rw [← hmore, List.getElem?_append_left (List.getElem?_eq_some_iff.1 hs).1, hs]
  · exact Nat.ne_of_lt (identity_lt_of_built hs hn hl ht)
  · exact eq_of_identity_eq hrun (hrun.trans hl) hs ht hid

end Run

theorem built?_replace {r : Registry} {ds : List Descriptor} {c : Collection} (read : Nat) (ts : List Task)
    (hc : (r.compiler.compileAllBy r.checker r.policy ds).value = .ok c) :
    (⟨r, .replace read ds :: ts⟩ : Moment).built? = some ⟨r.builds, read, c⟩ := by
  show (r.build read ds).1.toOption = _
  rw [build_eq, hc]
  rfl

/-- A rebuild within another, both of the same list: the two snapshots have the same routes and
different identities. -/
theorem equal_builds_distinct : ∃ (m m₁ : Moment) (s t : Snapshot),
    Later (.first {} .abort [labels] [.rebuild [.rebuild []]]) m ∧ m.built? = some s ∧ Next m m₁ ∧
      m₁.built? = some t ∧ s.routes = t.routes ∧ s.identity ≠ t.identity := by
  obtain ⟨c, hc⟩ := compileAll_labels
  have hcompiles : ∀ m, Later (.first {} .abort [labels] [.rebuild [.rebuild []]]) m →
      (m.registry.compiler.compileAllBy m.registry.checker m.registry.policy [labels]).value = .ok c := fun m h => by
    obtain ⟨hchecker, hcompiler, hpolicy⟩ := settings_of_later h
    rw [hchecker, hcompiler, hpolicy]
    exact hc
  have hrun : Later (.first {} .abort [labels] [.rebuild [.rebuild []]])
      ⟨({ source := [labels] } : Registry).readSource.readSource, [.replace 1 [labels], .replace 0 [labels]]⟩ :=
    (Relation.ReflTransGen.single .reread).tail .reread
  generalize ({ source := [labels] } : Registry).readSource.readSource = r at hrun
  have hn : Next ⟨r, [.replace 1 [labels], .replace 0 [labels]]⟩ ⟨(r.replace 1 [labels]).2, [.replace 0 [labels]]⟩ :=
    .replace
  have hs := built?_replace 1 [.replace 0 [labels]] (hcompiles _ hrun)
  have ht := built?_replace 0 [] (hcompiles _ (hrun.tail hn))
  exact ⟨_, _, _, _, hrun, hs, hn, ht, rfl, (snapshot_provenance hrun).2.2.1 _ _ _ _ hs hn .refl ht⟩

end RouteTable.Registry
