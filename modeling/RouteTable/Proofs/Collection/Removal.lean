/-
Removing routes by path. A path stands for the first route that accepts it, so removal takes away
that route, with those equal to it, and leaves unequal routes that accept the same path. The next
removal by the same paths then finds one of those: removal changes a collection exactly if some route
of it accepts one of the paths (`without_beq_self_iff`), and is therefore idempotent just where
nothing that accepts a path is left by it (`without_without_beq_iff`).
-/
import RouteTable.Batch
import RouteTable.Proofs.Compiler.Blame

namespace RouteTable

instance : ReflBEq Route where
  rfl {r} := by
    show (r.path == r.path && r.verb == r.verb && r.parameters == r.parameters &&
      r.metadata == r.metadata && r.matcherSource == r.matcherSource) = true
    simp only [beq_self_eq_true, Bool.and_self]

instance : ReflBEq Collection where
  rfl {c} := beq_self_eq_true c.routes

namespace Collection

variable {c : Collection} {paths : List String} {path : String} {r : Route}

/-! ## What is removed -/

theorem matchFor?_some (h : c.matchFor? path = some r) : r ∈ c.routes ∧ r.matchesPath path = true :=
  ⟨List.mem_of_find?_eq_some h, List.find?_some (p := fun s : Route => s.matchesPath path) h⟩

/-- Where some route accepts a path, the path stands for a route. -/
theorem exists_matchFor? (hr : r ∈ c.routes) (hm : r.matchesPath path = true) : ∃ x, c.matchFor? path = some x :=
  Option.isSome_iff_exists.1 (List.find?_isSome.2 ⟨r, hr, hm⟩)

/-- The route is the one that some of the paths stands for. -/
def Resolves (c : Collection) (paths : List String) (r : Route) : Prop :=
  ∃ path ∈ paths, c.matchFor? path = some r

theorem Resolves.mem (h : c.Resolves paths r) : r ∈ c.routes := by
  obtain ⟨path, -, h⟩ := h
  exact (matchFor?_some h).1

/-- Which routes removal keeps. -/
theorem kept_iff : (!(paths.filterMap c.matchFor?).any (· == r)) = true ↔
    ∀ x, c.Resolves paths x → (x == r) = false := by
  simp only [Bool.not_eq_true', List.any_eq_false, List.mem_filterMap, Bool.not_eq_true, Resolves]

/-- Where the paths resolve to nothing, filtering leaves all routes as well. -/
theorem without_eq_select (c : Collection) (paths : List String) :
    c.without paths = c.select fun r => !(paths.filterMap c.matchFor?).any (· == r) := by
  simp only [without]
  split
  · rename_i hnone
    have hkept : c.routes.filter (fun _ => true) = c.routes := List.filter_eq_self.2 fun _ _ => rfl
    simp only [List.isEmpty_iff.1 hnone, List.any_nil, Bool.not_false, select, hkept]
  · rfl

theorem mem_without_iff :
    r ∈ (c.without paths).routes ↔ r ∈ c.routes ∧ ∀ x, c.Resolves paths x → (x == r) = false := by
  rw [without_eq_select, select, List.mem_filter, kept_iff]

/-- Removal by paths that some routes accept leaves fewer routes. -/
theorem size_without_lt (hp : path ∈ paths) (hr : r ∈ c.routes) (hm : r.matchesPath path = true) :
    (c.without paths).size < c.size := by
  obtain ⟨x, hx⟩ := exists_matchFor? hr hm
  have hres : c.Resolves paths x := ⟨path, hp, hx⟩
  rw [without_eq_select]
  refine List.length_filter_lt_length_iff_exists.2 ⟨x, hres.mem, fun hkept => ?_⟩
  have hself := kept_iff.1 hkept x hres
  rw [beq_self_eq_true] at hself
  cases hself

/-- Removal by paths that resolve to nothing leaves the collection as it is. -/
theorem without_of_matchFor?_none (h : ∀ path ∈ paths, c.matchFor? path = none) : c.without paths = c := by
  have hremoved : paths.filterMap c.matchFor? = [] := List.filterMap_eq_nil_iff.2 h
  simp only [without, hremoved, List.isEmpty_nil, if_true]

theorem without_of_unmatched (h : ∀ r ∈ c.routes, ∀ path ∈ paths, r.matchesPath path = false) :
    c.without paths = c :=
  without_of_matchFor?_none fun path hp =>
    List.find?_eq_none.2 fun r hr => by rw [h r hr path hp]; exact Bool.false_ne_true

theorem without_beq_self_iff :
    (c.without paths == c) = true ↔ ∀ r ∈ c.routes, ∀ path ∈ paths, r.matchesPath path = false := by
  constructor
  · intro heq r hr path hp
    by_contra hm
    have hlt := size_without_lt hp hr (by simpa using hm)
    have hlength : (c.without paths).size = c.size := List.length_eq_of_beq heq
    omega
  · intro h
    rw [without_of_unmatched h]
    exact beq_self_eq_true c

/-! ## Removing twice -/

/-- Removing by some paths twice is removing by them once exactly if every route that accepts one of
them is equal to a route that one of them stands for. -/
theorem without_without_beq_iff (c : Collection) (paths : List String) :
    ((c.without paths).without paths == c.without paths) = true ↔
      ∀ r ∈ c.routes, (∃ path ∈ paths, r.matchesPath path = true) →
        ∃ x, c.Resolves paths x ∧ (x == r) = true := by
  rw [without_beq_self_iff]
  constructor
  · rintro h r hr ⟨path, hp, hm⟩
    by_contra hnot
    -- `r` is left by the first removal, and is then one of those that accept the path
    have hleft : r ∈ (c.without paths).routes :=
      mem_without_iff.2 ⟨hr, fun x hx => Bool.eq_false_iff.2 fun heq => hnot ⟨x, hx, heq⟩⟩
    rw [h r hleft path hp] at hm
    cases hm
  · intro h r hleft path hp
    obtain ⟨hr, hkept⟩ := mem_without_iff.1 hleft
    by_contra hm
    obtain ⟨x, hx, heq⟩ := h r hr ⟨path, hp, by simpa using hm⟩
    rw [hkept x hx] at heq
    cases heq

/-- A number is shown under one method and removed under another. -/
def numberRoute (verb : String) : Descriptor := ((Descriptor.ofVerb verb).literal "/labels/").parameter "id"

/-- Of two routes that accept the same path under different methods, the second is removed only when
the first is gone. -/
theorem not_forall_without_without_beq :
    ¬ ∀ (c : Collection) (paths : List String),
      ((c.without paths).without paths == c.without paths) = true := by
  intro h
  have hok : (({} : Compiler).compileAll .abort [numberRoute "GET", numberRoute "DELETE"]).value.isOk = true := by
    decide +kernel
  have htwice : (({} : Compiler).compileAll .abort [numberRoute "GET", numberRoute "DELETE"]).value.toOption.map
      (fun c => (c.without ["/labels/12"]).without ["/labels/12"] == c.without ["/labels/12"]) = some false := by
    decide +kernel
  obtain ⟨c, hc⟩ := exists_ok_of_isOk hok
  rw [hc] at htwice
  have := h c ["/labels/12"]
  simp only [Except.toOption, Option.map_some, Option.some.injEq] at htwice
  rw [htwice] at this
  cases this

end Collection
end RouteTable
