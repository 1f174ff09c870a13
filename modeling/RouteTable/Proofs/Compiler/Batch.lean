/-
Compiling many descriptors into one collection. A descriptor that compiles adds its route under either
policy; one that does not is left out, or ends the batch. So a batch that leaves out always gives the
routes of the descriptors that compile, in order. One that aborts gives the same if all of them
compile, and otherwise what the first failing descriptor is refused for (`compileAll_by_policy`).

There are three cases of the next descriptor: `extendBy_of_ok`, `extendBy_skip_of_error` and
`extendBy_abort_of_error`. All else follows the list by them.
-/
import RouteTable.Batch
import RouteTable.Proofs.Compiler.Blame

namespace RouteTable
namespace Compiler

variable {k : Compiler} {check : Checker} {d : Descriptor} {ds : List Descriptor} {r : Route} {e : CompileError}

/-! ## The next descriptor -/

theorem extendBy_of_ok (policy : BatchPolicy) (c : Collection) (ds : List Descriptor)
    (h : (k.compileBy check d).value = .ok r) :
    k.extendBy check policy c (d :: ds) =
      ⟨(k.extendBy check policy (c.add r) ds).value,
        (k.compileBy check d).events ++ (k.extendBy check policy (c.add r) ds).events⟩ := by
  rw [extendBy]
  generalize k.compileBy check d = compiled at h ⊢
  obtain ⟨value, events⟩ := compiled
  cases h
  rfl

theorem extendBy_skip_of_error (c : Collection) (ds : List Descriptor)
    (h : (k.compileBy check d).value = .error e) :
    k.extendBy check .skip c (d :: ds) =
      ⟨(k.extendBy check .skip c ds).value,
        (k.compileBy check d).events ++ .skipped d.verb e :: (k.extendBy check .skip c ds).events⟩ := by
  rw [extendBy]
  generalize k.compileBy check d = compiled at h ⊢
  obtain ⟨value, events⟩ := compiled
  cases h
  rfl

theorem extendBy_abort_of_error (c : Collection) (ds : List Descriptor)
    (h : (k.compileBy check d).value = .error e) :
    k.extendBy check .abort c (d :: ds) = ⟨.error e, (k.compileBy check d).events⟩ := by
  rw [extendBy]
  generalize k.compileBy check d = compiled at h ⊢
  obtain ⟨value, events⟩ := compiled
  cases h
  rfl

/-! ## Whole batches -/

/-- The routes of the descriptors that compile, in order. -/
def routesOf (k : Compiler) (check : Checker) (ds : List Descriptor) : List Route :=
  ds.filterMap fun d => (k.compileBy check d).value.toOption

theorem routesOf_of_ok (ds : List Descriptor) (h : (k.compileBy check d).value = .ok r) :
    k.routesOf check (d :: ds) = r :: k.routesOf check ds :=
  List.filterMap_cons_some (by rw [h]; rfl)

theorem routesOf_of_error (ds : List Descriptor) (h : (k.compileBy check d).value = .error e) :
    k.routesOf check (d :: ds) = k.routesOf check ds :=
  List.filterMap_cons_none (by rw [h]; rfl)

theorem extendBy_skip (k : Compiler) (check : Checker) : ∀ (ds : List Descriptor) (c : Collection),
    (k.extendBy check .skip c ds).value = .ok ⟨c.routes ++ k.routesOf check ds⟩
  | [], c => by rw [routesOf, List.filterMap_nil, List.append_nil]; rfl
  | d :: ds, c => by
    cases h : (k.compileBy check d).value with
    | ok r =>
      rw [extendBy_of_ok .skip c ds h, extendBy_skip k check ds, routesOf_of_ok ds h, Collection.add,
        List.append_assoc, List.singleton_append]
    | error e => rw [extendBy_skip_of_error c ds h, extendBy_skip k check ds, routesOf_of_error ds h]

/-- Where every descriptor compiles, nothing is left out and nothing aborts. -/
theorem extendBy_abort_eq_skip (hall : ∀ d ∈ ds, ∃ r, (k.compileBy check d).value = .ok r) (c : Collection) :
    k.extendBy check .abort c ds = k.extendBy check .skip c ds := by
  induction ds generalizing c with
  | nil => rfl
  | cons d ds ih =>
    obtain ⟨⟨r, hr⟩, hrest⟩ := List.forall_mem_cons.1 hall
    rw [extendBy_of_ok .abort c ds hr, extendBy_of_ok .skip c ds hr, ih hrest]

theorem map_compileBy_value (hall : ∀ d ∈ ds, ∃ r, (k.compileBy check d).value = .ok r) :
    ds.map (fun d => (k.compileBy check d).value) = (k.routesOf check ds).map .ok := by
  induction ds with
  | nil => rfl
  | cons d ds ih =>
    obtain ⟨⟨r, hr⟩, hrest⟩ := List.forall_mem_cons.1 hall
    rw [routesOf_of_ok ds hr, List.map_cons, List.map_cons, hr, ih hrest]

/-- A batch aborts at the first descriptor that does not compile, whatever comes after it. -/
theorem extendBy_abort_of_first {before : List Descriptor} (after : List Descriptor)
    (hbefore : ∀ d' ∈ before, ∃ r, (k.compileBy check d').value = .ok r)
    (h : (k.compileBy check d).value = .error e) (c : Collection) :
    (k.extendBy check .abort c (before ++ d :: after)).value = .error e := by
  induction before generalizing c with
  | nil => rw [List.nil_append, extendBy_abort_of_error c after h]
  | cons d' before ih =>
    obtain ⟨⟨r, hr⟩, hrest⟩ := List.forall_mem_cons.1 hbefore
    rw [List.cons_append, extendBy_of_ok .abort c _ hr]
    exact ih hrest (c.add r)

theorem foldl_add (c : Collection) (rs : List Route) : rs.foldl Collection.add c = ⟨c.routes ++ rs⟩ := by
  induction rs generalizing c with
  | nil => rw [List.append_nil]; rfl
  | cons r rs ih => rw [List.foldl_cons, ih, Collection.add, List.append_assoc, List.singleton_append]

section Policies

variable (k : Compiler) (check : Checker) (ds : List Descriptor)

theorem compileAllBy_skip :
    (k.compileAllBy check .skip ds).value = .ok (.ofList (k.routesOf check ds)) :=
  extendBy_skip k check ds ∅

/-- The batch aborts, and what for; or everything compiles, and it does not. -/
theorem compileAllBy_abort_cases :
    ((∀ d ∈ ds, ∃ r, (k.compileBy check d).value = .ok r) ∧
        k.compileAllBy check .abort ds = k.compileAllBy check .skip ds) ∨
      ∃ before d after e, ds = before ++ d :: after ∧ (∀ d' ∈ before, ∃ r, (k.compileBy check d').value = .ok r) ∧
        (k.compileBy check d).value = .error e ∧ (k.compileAllBy check .abort ds).value = .error e := by
  rcases forall_ok_or_first_error (fun d => (k.compileBy check d).value) ds with
    hall | ⟨before, d, after, e, rfl, hbefore, he⟩
  · exact .inl ⟨hall, extendBy_abort_eq_skip hall ∅⟩
  · exact .inr ⟨before, d, after, e, rfl, hbefore, he, extendBy_abort_of_first after hbefore he ∅⟩

/-- A batch that succeeds has come to every descriptor, and gives the routes of those that compile. -/
theorem compileAllBy_ok {policy : BatchPolicy} {c : Collection} (h : (k.compileAllBy check policy ds).value = .ok c) :
    (policy = .skip ∨ ∀ d ∈ ds, ∃ r, (k.compileBy check d).value = .ok r) ∧ c = .ofList (k.routesOf check ds) := by
  cases policy with
  | skip =>
    rw [compileAllBy_skip] at h
    exact ⟨.inl rfl, (Except.ok.inj h).symm⟩
  | abort =>
    rcases compileAllBy_abort_cases k check ds with ⟨hall, hsame⟩ | ⟨-, -, -, e, -, -, -, he⟩
    · rw [hsame, compileAllBy_skip] at h
      exact ⟨.inr hall, (Except.ok.inj h).symm⟩
    · rw [h] at he; cases he

/-- Every route of a batch is that of one of its descriptors. -/
theorem exists_of_mem_compileAllBy {policy : BatchPolicy} {c : Collection}
    (h : (k.compileAllBy check policy ds).value = .ok c) (hr : r ∈ c.routes) :
    ∃ d ∈ ds, (k.compileBy check d).value = .ok r := by
  obtain ⟨-, rfl⟩ := compileAllBy_ok k check ds h
  obtain ⟨d, hd, hvalue⟩ := List.mem_filterMap.1 hr
  refine ⟨d, hd, ?_⟩
  cases hc : (k.compileBy check d).value with
  | ok r' => rw [hc] at hvalue; cases hvalue; rfl
  | error e => rw [hc] at hvalue; cases hvalue

/-- Compiling many descriptors, for every compiler, every checker and every list of them. Leaving out what does
not compile always succeeds, with the routes of those that compile, in order. Aborting succeeds exactly if
all descriptors compile; then it does what leaving out does, and the collection is made of their routes,
added one by one or taken as a list. Otherwise it gives what the first failing descriptor is refused
for, whatever comes after that one. And leaving out from two lists, one after the other, gives the
routes that are left of the first and then those of the second. -/
theorem compileAll_by_policy :
    (k.compileAllBy check .skip ds).value = .ok (.ofList (ds.filterMap fun d => (k.compileBy check d).value.toOption)) ∧
    ((∃ c, (k.compileAllBy check .abort ds).value = .ok c) ↔ ∀ d ∈ ds, ∃ r, (k.compileBy check d).value = .ok r) ∧
    (∀ c, (k.compileAllBy check .abort ds).value = .ok c →
      k.compileAllBy check .abort ds = k.compileAllBy check .skip ds ∧
      ∃ rs : List Route, ds.map (fun d => (k.compileBy check d).value) = rs.map .ok ∧
        c = rs.foldl Collection.add ∅ ∧ c = .ofList rs) ∧
    (∀ e, (k.compileAllBy check .abort ds).value = .error e ↔
      ∃ before d after, ds = before ++ d :: after ∧ (∀ d' ∈ before, ∃ r, (k.compileBy check d').value = .ok r) ∧
        (k.compileBy check d).value = .error e) ∧
    ∀ ds', ∃ c c', (k.compileAllBy check .skip ds).value = .ok c ∧ (k.compileAllBy check .skip ds').value = .ok c' ∧
      (k.compileAllBy check .skip (ds ++ ds')).value = .ok (.ofList (c.routes ++ c'.routes)) := by
  have hskip := compileAllBy_skip k check
  have hall : ∀ c, (k.compileAllBy check .abort ds).value = .ok c →
      (∀ d ∈ ds, ∃ r, (k.compileBy check d).value = .ok r) ∧
        k.compileAllBy check .abort ds = k.compileAllBy check .skip ds := by
    intro c hc
    rcases compileAllBy_abort_cases k check ds with h | ⟨-, -, -, e, -, -, -, he⟩
    · exact h
    · rw [hc] at he; cases he
  refine ⟨hskip ds, ⟨fun ⟨c, hc⟩ => (hall c hc).1, fun h => ?_⟩, fun c hc => ?_, fun e => ⟨fun he => ?_, ?_⟩,
    fun ds' => ?_⟩
  · exact ⟨_, (congrArg Traced.value (extendBy_abort_eq_skip h ∅)).trans (hskip ds)⟩
  · obtain ⟨hcompile, hsame⟩ := hall c hc
    rw [hsame, hskip ds] at hc
    obtain rfl := Except.ok.inj hc
    exact ⟨hsame, k.routesOf check ds, map_compileBy_value hcompile, (foldl_add ∅ _).symm, rfl⟩
  · rcases compileAllBy_abort_cases k check ds with ⟨-, hsame⟩ | ⟨before, d, after, e', hds, hbefore, hd, he'⟩
    · rw [hsame, hskip ds] at he; cases he
    · rw [he'] at he
      cases he
      exact ⟨before, d, after, hds, hbefore, hd⟩
  · rintro ⟨before, d, after, rfl, hbefore, hd⟩
    exact extendBy_abort_of_first after hbefore hd ∅
  · refine ⟨_, _, hskip ds, hskip ds', (hskip (ds ++ ds')).trans ?_⟩
    rw [routesOf, List.filterMap_append]
    rfl

end Policies

end Compiler
end RouteTable
