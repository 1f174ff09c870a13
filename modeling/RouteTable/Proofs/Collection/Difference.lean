/-
Removal by path as a difference. Every path is resolved in the collection as it was, and what is left are
its routes, in their order, without those that are equal to one that a path resolves to. So removal
depends on nothing but the routes that the paths resolve to (`without_congr`). A removed path may still be
accepted by what is left, but only by a route that stood behind the removed one
(`without_removes_exactly`).
-/
import RouteTable.Proofs.Collection.Convergence

namespace RouteTable.Collection

variable {c : Collection} {paths paths' : List String} {path : String} {x y r : Route}

/-! ## What is left -/

/-- Removal is decided by the routes that the paths resolve to. -/
theorem without_congr (h : ∀ x, c.Resolves paths x ↔ c.Resolves paths' x) : c.without paths = c.without paths' := by
  rw [without_eq_select, without_eq_select]
  refine congrArg Collection.mk (List.filter_congr fun r _ => Bool.eq_iff_iff.2 ?_)
  rw [kept_iff, kept_iff]
  exact forall_congr' fun x => imp_congr_left (h x)

/-- A route is left exactly if it is equal to none that a path resolves to. -/
theorem routes_without (c : Collection) (paths : List String) :
    (c.without paths).routes = c.routes.filter fun r => paths.all fun path => c.matchFor? path != some r := by
  rw [without_eq_select]
  refine List.filter_congr fun r _ => Bool.eq_iff_iff.2 ?_
  rw [kept_iff, List.all_eq_true]
  constructor
  · intro h path hp
    cases hx : c.matchFor? path with
    | none => rfl
    | some x =>
      show (!(x == r)) = true
      rw [h x ⟨path, hp, hx⟩]
      rfl
  · rintro h x ⟨path, hp, hx⟩
    have hne := h path hp
    rw [hx] at hne
    have hne : (!(x == r)) = true := hne
    rwa [Bool.not_eq_true'] at hne

/-! ## Where the routes stand -/

/-- Of two unequal compiled routes that accept a path, the one that the path resolves to stands first. -/
theorem idxOf_lt_of_matchFor? [Pattern.PropertyTable] (hc : c.Compiled) (hx : c.matchFor? path = some x)
    (hy : y ∈ c.routes) (hm : y.matchesPath path = true) (hne : (x == y) = false) :
    c.routes.idxOf x < c.routes.idxOf y := by
  obtain ⟨-, i, hi, hxi, hbefore⟩ := List.find?_eq_some_iff_getElem.1 hx
  have hj : c.routes.idxOf y < c.routes.length := List.findIdx_lt_length.2 ⟨y, hy, beq_self_eq_true y⟩
  have hyj : (c.routes[c.routes.idxOf y] == y) = true := List.findIdx_getElem (p := (· == y))
  have hle : c.routes.idxOf x ≤ i := by
    by_contra hlt
    have hbefore := List.not_of_lt_findIdx (Nat.not_le.1 hlt)
    rw [hxi, beq_self_eq_true] at hbefore
    cases hbefore
  -- the first route equal to `y` accepts the path as `y` does, so it does not stand before `x`
  have hnotlt : ¬ c.routes.idxOf y < i := by
    intro hlt
    have hmj := hc _ (List.getElem_mem hj)|>.matchesPath_eq (hc y hy) hyj path
    have hnot := hbefore _ hlt
    rw [hmj, hm] at hnot
    cases hnot
  have hnoteq : c.routes.idxOf y ≠ i := by
    rintro rfl
    rw [hxi, hne] at hyj
    cases hyj
  omega

/-- If a path is still accepted after the removal, then by a route behind the one that was removed. -/
theorem matchFor?_without [Pattern.PropertyTable] (hc : c.Compiled) (hp : path ∈ paths)
    (h : (c.without paths).matchFor? path = some y) :
    ∃ x, c.matchFor? path = some x ∧ (x == y) = false ∧ c.routes.idxOf x < c.routes.idxOf y := by
  obtain ⟨hleft, hm⟩ := matchFor?_some h
  obtain ⟨hy, hkept⟩ := mem_without_iff.1 hleft
  obtain ⟨x, hx⟩ := exists_matchFor? hy hm
  have hne := hkept x ⟨path, hp, hx⟩
  exact ⟨x, hx, hne, idxOf_lt_of_matchFor? hc hx hy hm hne⟩

/-! ## The difference -/

/-- Removal is the difference between the collection and what the paths resolve to in it. What is left
are its routes, in their order and as often as they were there, but for all that are equal to a route that
some path resolves to; an unequal route stays, also if it accepts one of the paths. Neither the order nor
the repetition of the paths matters, nor do paths that resolve to nothing; and if no path resolves to
anything, the collection is left as it is. If a removed path is accepted by what is left, then it resolves
there to a route unequal to the removed one, whose first place in the collection is behind that one's. -/
theorem without_removes_exactly [Pattern.PropertyTable] (c : Collection) (paths : List String) :
    ((c.without paths).routes = c.routes.filter fun r => paths.all fun path => c.matchFor? path != some r) ∧
    (∀ r, r ∈ (c.without paths).routes ↔ r ∈ c.routes ∧ ∀ x, c.Resolves paths x → (x == r) = false) ∧
    (∀ paths', (∀ path, path ∈ paths' ↔ path ∈ paths) → c.without paths' = c.without paths) ∧
    c.without (paths.filter fun path => (c.matchFor? path).isSome) = c.without paths ∧
    ((∀ path ∈ paths, c.matchFor? path = none) → c.without paths = c) ∧
    (c.Compiled → ∀ path ∈ paths, ∀ y, (c.without paths).matchFor? path = some y →
      ∃ x, c.matchFor? path = some x ∧ (x == y) = false ∧ c.routes.idxOf x < c.routes.idxOf y) := by
  refine ⟨routes_without c paths, fun r => mem_without_iff, fun paths' h => ?_, ?_, without_of_matchFor?_none,
    fun hc path hp y hy => matchFor?_without hc hp hy⟩
  · exact without_congr fun x => exists_congr fun path => and_congr_left fun _ => h path
  · refine without_congr fun x => exists_congr fun path => and_congr_left fun hx => ?_
    rw [List.mem_filter, hx]
    exact and_iff_left rfl

/-- A path that is accepted by two routes, one of which is there twice: given twice, in another order
and beside another path, it takes both copies of the first, and then resolves to the second. -/
theorem without_repeated_path : ∃ c : Collection, (({} : Compiler).compileAll .abort labelRoutes).value = .ok c ∧
    c.without ["/labels/12", "/about", "/labels/12"] = c.without ["/about", "/labels/12"] ∧
    c.without ["/nowhere"] = c ∧
    ∃ x y, (c.without ["/about", "/labels/12"]).matchFor? "/labels/12" = some y ∧
      c.matchFor? "/labels/12" = some x ∧ (x == y) = false ∧ c.routes.idxOf x < c.routes.idxOf y := by
  have hok : (({} : Compiler).compileAll .abort labelRoutes).value.isOk = true := by decide +kernel
  have hfound : (({} : Compiler).compileAll .abort labelRoutes).value.toOption.map (fun c =>
      ((c.matchFor? "/nowhere").isNone, ((c.without ["/about", "/labels/12"]).matchFor? "/labels/12").isSome)) =
      some (true, true) := by decide +kernel
  obtain ⟨c, hc⟩ := exists_ok_of_isOk hok
  rw [hc] at hfound
  simp only [Except.toOption, Option.map_some, Option.some.injEq, Prod.mk.injEq] at hfound
  obtain ⟨hnowhere, hleft⟩ := hfound
  obtain ⟨y, hy⟩ := Option.isSome_iff_exists.1 hleft
  obtain ⟨-, -, hset, -, -, hbehind⟩ := without_removes_exactly c ["/about", "/labels/12"]
  obtain ⟨-, -, -, -, hsame, -⟩ := without_removes_exactly c ["/nowhere"]
  obtain ⟨x, hx, hne, hlt⟩ := hbehind (compiled_of_compileAll hc) "/labels/12" (by simp) y hy
  refine ⟨c, hc, hset _ fun path => ?_, hsame fun path hp => ?_, x, y, hy, hx, hne, hlt⟩
  · simp only [List.mem_cons, List.not_mem_nil, or_false]
    tauto
  · rw [List.mem_singleton.1 hp]
    exact Option.isNone_iff_eq_none.1 hnowhere

end RouteTable.Collection
