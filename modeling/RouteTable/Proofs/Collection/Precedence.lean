/-
Collections that grow. Routes are added behind those that are there, and a lookup takes the first route
that meets its conditions. So whatever has been found is found again at its place after any additions
(`FirstAt.addAll`), and the added routes answer only where nothing was found (`find?_addAll`). Filters keep
the order, and removal resolves its paths by the same rule: of routes that are added in two lots, it is the
lot that came first that decides (`first_added_wins`).
-/
import RouteTable.Proofs.Collection.Difference
import RouteTable.Proofs.Collection.Lookup

namespace RouteTable.Collection

variable {c : Collection} {meets : Route → Prop} {r : Route} {i : Nat}

/-! ## Adding routes -/

/-- The collection after the routes have been added one by one. -/
def addAll (c : Collection) (rs : List Route) : Collection := rs.foldl add c

/-- What adding the routes to nothing leads to. -/
def ofAdds (rs : List Route) : Collection := (∅ : Collection).addAll rs

theorem routes_addAll (c : Collection) (rs : List Route) : (c.addAll rs).routes = c.routes ++ rs := by
  rw [addAll, Compiler.foldl_add]

theorem routes_ofAdds (rs : List Route) : (ofAdds rs).routes = rs := routes_addAll ∅ rs

/-! ## What was found before -/

/-- The first of `xs` that qualifies and, where none does, the first of `ys` that does. -/
def firstOf (xs ys : List Route) (p : Route → Bool) : Option Route := (xs.find? p).or (ys.find? p)

/-- The added routes answer only where nothing was found among the others. -/
theorem find?_addAll (c : Collection) (rs : List Route) (p : Route → Bool) :
    (c.addAll rs).routes.find? p = firstOf c.routes rs p := by
  rw [routes_addAll, List.find?_append, firstOf]

/-- The first route that meets some conditions keeps its place. -/
theorem FirstAt.addAll (h : c.FirstAt meets i r) (rs : List Route) : (c.addAll rs).FirstAt meets i r := by
  obtain ⟨hi, -⟩ := List.getElem?_eq_some_iff.1 h.get
  -- up to this place nothing has been added
  have hsame : ∀ j ≤ i, (c.addAll rs).get? j = c.get? j := fun j hj => by
    rw [get?, get?, routes_addAll, List.getElem?_append_left (Nat.lt_of_le_of_lt hj hi)]
  refine ⟨(hsame i (Nat.le_refl i)).trans h.get, h.here, fun j hj s hs => h.earlier j hj s ?_⟩
  rw [← hs, hsame j (Nat.le_of_lt hj)]

/-! ## Two lots of routes -/

/-- The collection answers like `a` wherever that has an answer, and otherwise like `b`. -/
structure Defers (c a b : Collection) : Prop where
  matchFor : ∀ path, c.matchFor? path = (a.matchFor? path).or (b.matchFor? path)
  find : ∀ m path, c.find? m path = (a.find? m path).or (b.find? m path)
  routeFor : ∀ criteria, c.routeFor? criteria = (a.routeFor? criteria).or (b.routeFor? criteria)

/-- No path of the list resolves to a route equal to this one: neither among the routes of the first lot nor,
where none of these accepts it, among those of the second. -/
def spares (xs ys : List Route) (paths : List String) (r : Route) : Bool :=
  paths.all fun path => firstOf xs ys (·.matchesPath path) != some r

/-- The collection holds the routes of two lots, in their order. A lookup gives the first route of `xs` that
qualifies, or else the first of `ys`; filters leave what qualifies of `xs` and then of `ys`; and removal
leaves the routes of both that are unequal to every route that the paths resolve to in this way. -/
structure Joins (c : Collection) (xs ys : List Route) : Prop where
  routes : c.routes = xs ++ ys
  matchFor : ∀ path, c.matchFor? path = firstOf xs ys (·.matchesPath path)
  find : ∀ m path, c.find? m path = firstOf xs ys fun r => r.accepts m && r.matchesPath path
  routeFor : ∀ criteria, c.routeFor? criteria = firstOf xs ys (·.metadata.containsAll criteria)
  select : ∀ p, (c.select p).routes = xs.filter p ++ ys.filter p
  controller : ∀ name, (c.controller name).routes =
    xs.filter (·.controller? == some name) ++ ys.filter (·.controller? == some name)
  verb : ∀ m, (c.verb m).routes = xs.filter (·.accepts m) ++ ys.filter (·.accepts m)
  without : ∀ paths, (c.without paths).routes =
    xs.filter (spares xs ys paths) ++ ys.filter (spares xs ys paths)

theorem find?_ofAdds_addAll (xs ys : List Route) (p : Route → Bool) :
    ((ofAdds xs).addAll ys).routes.find? p = firstOf xs ys p := by
  rw [find?_addAll, routes_ofAdds]

theorem routes_select_addAll (xs ys : List Route) (p : Route → Bool) :
    (((ofAdds xs).addAll ys).select p).routes = xs.filter p ++ ys.filter p := by
  rw [select, routes_addAll, routes_ofAdds, List.filter_append]

theorem joins_addAll (xs ys : List Route) : ((ofAdds xs).addAll ys).Joins xs ys where
  routes := by rw [routes_addAll, routes_ofAdds]
  matchFor _ := find?_ofAdds_addAll xs ys _
  find _ _ := find?_ofAdds_addAll xs ys _
  routeFor _ := find?_ofAdds_addAll xs ys _
  select p := routes_select_addAll xs ys p
  controller _ := routes_select_addAll xs ys _
  verb _ := routes_select_addAll xs ys _
  without paths := by
    have hresolves : ∀ path, ((ofAdds xs).addAll ys).matchFor? path = firstOf xs ys (·.matchesPath path) :=
      fun _ => find?_ofAdds_addAll xs ys _
    rw [routes_without, routes_addAll, routes_ofAdds, ← List.filter_append]
    exact List.filter_congr fun r _ => by simp only [spares, hresolves]

theorem defers_addAll (xs ys : List Route) : ((ofAdds xs).addAll ys).Defers (.ofList xs) (.ofList ys) where
  matchFor := (joins_addAll xs ys).matchFor
  find := (joins_addAll xs ys).find
  routeFor := (joins_addAll xs ys).routeFor

/-- Of routes that are added in two lots, the first lot wins. Every lookup has the answer that it has in the
first lot alone, if it has one, and otherwise its answer in the second alone. What filters leave is left of
the one and then of the other, and paths are resolved for removal by the same rule. So nothing that is added
later changes an answer: neither by path, by method and path or by criteria, nor the place of the first
route that meets any other conditions. -/
theorem first_added_wins (xs ys : List Route) :
    ((ofAdds xs).addAll ys).Joins xs ys ∧
    ((ofAdds xs).addAll ys).Defers (.ofList xs) (.ofList ys) ∧
    (ofAdds xs).routes = xs ∧
    (∀ path r, (ofAdds xs).matchFor? path = some r → ((ofAdds xs).addAll ys).matchFor? path = some r) ∧
    (∀ m path r, (ofAdds xs).find? m path = some r → ((ofAdds xs).addAll ys).find? m path = some r) ∧
    (∀ criteria r, (ofAdds xs).routeFor? criteria = some r →
      ((ofAdds xs).addAll ys).routeFor? criteria = some r) ∧
    ∀ meets i r, (ofAdds xs).FirstAt meets i r → ((ofAdds xs).addAll ys).FirstAt meets i r := by
  have hstays : ∀ p r, (ofAdds xs).routes.find? p = some r → ((ofAdds xs).addAll ys).routes.find? p = some r := by
    intro p r h
    rw [find?_addAll, firstOf, h, Option.some_or]
  exact ⟨joins_addAll xs ys, defers_addAll xs ys, routes_ofAdds xs, fun path r h => hstays _ r h,
    fun m path r h => hstays _ r h, fun criteria r h => hstays _ r h, fun _ _ _ h => h.addAll ys⟩

end RouteTable.Collection
