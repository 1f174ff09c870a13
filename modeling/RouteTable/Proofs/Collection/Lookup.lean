/-
Finding one route. Every lookup answers with the route at the least place that meets its conditions, if
there is one (`FindsFirst`). Filtering keeps the order, so a lookup by several conditions is a lookup by
one of them among the routes that meet the others (`lookup_eq_lookup_filtered`). What meets more criteria
meets fewer, so a lookup by fewer ends at the same place or before (`routeFor_antitone`). A route is found
by its own requirements because it lists what it finds; this is known of requirements that insertions lead
to, and those of compiled routes are such (`metadata_built_of_compile`).
-/
import RouteTable.Proofs.Compiler.Batch
import RouteTable.Proofs.Compiler.Result
import RouteTable.Proofs.Descriptor.Calls
import Mathlib.Data.List.Find
import Mathlib.Data.Nat.Find
import Mathlib.Order.Nat

namespace RouteTable.Collection

variable {c : Collection} {meets meets' : Route → Prop} {r s : Route} {i j k : Nat}

/-! ## The first route -/

/-- The route stands at this place and meets the conditions, and none at an earlier place does. -/
structure FirstAt (c : Collection) (meets : Route → Prop) (i : Nat) (r : Route) : Prop where
  get : c.get? i = some r
  here : meets r
  earlier : ∀ j < i, ∀ s, c.get? j = some s → ¬ meets s

/-- The answer is the first route that meets the conditions, and there is none exactly if no route does. -/
structure FindsFirst (c : Collection) (meets : Route → Prop) (answer : Option Route) : Prop where
  some_iff : ∀ r, answer = some r ↔ ∃ i, c.FirstAt meets i r
  none_iff : answer = none ↔ ∀ i r, c.get? i = some r → ¬ meets r

theorem findsFirst_find? (c : Collection) (p : Route → Bool) :
    c.FindsFirst (fun r => p r = true) (c.routes.find? p) := by
  refine ⟨fun r => ?_, ?_⟩
  · rw [List.find?_eq_some_iff_getElem]
    constructor
    · rintro ⟨hp, i, hi, hr, hearlier⟩
      refine ⟨i, List.getElem?_eq_some_iff.2 ⟨hi, hr⟩, hp, fun j hj s hs => ?_⟩
      obtain ⟨-, rfl⟩ := List.getElem?_eq_some_iff.1 hs
      simpa using hearlier j hj
    · rintro ⟨i, hget, hp, hearlier⟩
      obtain ⟨hi, hr⟩ := List.getElem?_eq_some_iff.1 hget
      refine ⟨hp, i, hi, hr, fun j hj => ?_⟩
      simpa using hearlier j hj _ (List.getElem?_eq_getElem (Nat.lt_trans hj hi))
  · rw [List.find?_eq_none]
    exact ⟨fun h i r hget => h r (List.mem_of_getElem? hget), fun h r hr =>
      (List.mem_iff_getElem?.1 hr).elim fun i hget => h i r hget⟩

/-- Conditions that say the same are answered alike. -/
theorem FindsFirst.congr {answer : Option Route} (h : ∀ r, meets r ↔ meets' r) (hf : c.FindsFirst meets answer) :
    c.FindsFirst meets' answer := by
  obtain rfl : meets = meets' := funext fun r => propext (h r)
  exact hf

/-- Where some route meets the conditions, the first that does stands there or before. -/
theorem exists_firstAt (hget : c.get? k = some r) (hr : meets r) : ∃ i s, i ≤ k ∧ c.FirstAt meets i s := by
  classical
  have hex : ∃ i s, c.get? i = some s ∧ meets s := ⟨k, r, hget, hr⟩
  obtain ⟨s, hs, hm⟩ := Nat.find_spec hex
  exact ⟨Nat.find hex, s, Nat.find_min' hex ⟨r, hget, hr⟩, hs, hm,
    fun j hj s' hs' hm' => Nat.find_min hex hj ⟨s', hs', hm'⟩⟩

/-! ## Lookups among some of the routes -/

theorem find?_select (c : Collection) (p q : Route → Bool) :
    (c.select p).routes.find? q = c.routes.find? fun r => p r && q r := by
  rw [select, List.find?_filter]
  exact List.find?_congr fun r _ => by rw [Bool.decide_and, Bool.decide_eq_true, Bool.decide_eq_true]

theorem find?_eq_matchFor?_verb (c : Collection) (m : Method) (path : String) :
    c.find? m path = (c.verb m).matchFor? path := (find?_select c ..).symm

theorem routeFor?_eq_routeFor?_controller (c : Collection) (name : String) (before after : List (String × String)) :
    c.routeFor? (before ++ ("controller", name) :: after) = (c.controller name).routeFor? (before ++ after) := by
  rw [controller, routeFor?, routeFor?, find?_select]
  exact List.find?_congr fun _ _ => Metadata.containsAll_append_cons before after

theorem first?_select (c : Collection) (p : Route → Bool) : (c.select p).first? = c.routes.find? p := by
  rw [first?, get?, select, ← List.head?_eq_getElem?, List.head?_filter]

/-- Lookups by several conditions at once, and among the routes that a filter leaves. Finding by method and
path is finding by path among the routes that accept the method. Finding by criteria, with a controller at
any place among them, is finding by the others among the routes of the controller; by the controller alone
it gives the first of these. The answer is in each case the route of the whole collection at the least
place that meets all conditions, and there is none exactly if no place does. -/
theorem lookup_eq_lookup_filtered (c : Collection) (m : Method) (path name : String)
    (before after : List (String × String)) :
    (c.find? m path = (c.verb m).matchFor? path ∧
      c.FindsFirst (fun r => r.accepts m = true ∧ r.matchesPath path = true) (c.find? m path)) ∧
    (c.routeFor? (before ++ ("controller", name) :: after) = (c.controller name).routeFor? (before ++ after) ∧
      c.FindsFirst (fun r => r.controller? = some name ∧ r.metadata.containsAll (before ++ after) = true)
        (c.routeFor? (before ++ ("controller", name) :: after))) ∧
    c.routeFor? [("controller", name)] = (c.controller name).first? ∧
      c.FindsFirst (fun r => r.controller? = some name) (c.routeFor? [("controller", name)]) := by
  have hfirst : c.routeFor? [("controller", name)] = (c.controller name).first? := by
    rw [controller, first?_select]
    exact List.find?_congr fun r _ => Bool.and_true _
  refine ⟨⟨find?_eq_matchFor?_verb c m path, ?_⟩, ⟨routeFor?_eq_routeFor?_controller c name before after, ?_⟩,
    hfirst, ?_⟩
  · exact (findsFirst_find? c _).congr fun r => Bool.and_eq_true_iff
  · rw [routeFor?_eq_routeFor?_controller, routeFor?, controller, find?_select]
    exact (findsFirst_find? c _).congr fun r => by rw [Bool.and_eq_true, beq_iff_eq]
  · rw [hfirst, controller, first?_select]
    exact (findsFirst_find? c _).congr fun r => beq_iff_eq

/-! ## Lookups by criteria -/

/-- The requirements of the route contain the criteria. -/
def Meets (criteria : List (String × String)) (r : Route) : Prop := r.metadata.containsAll criteria = true

section Criteria

variable {criteria criteria' : List (String × String)}

theorem findsFirst_routeFor? (c : Collection) (criteria : List (String × String)) :
    c.FindsFirst (Meets criteria) (c.routeFor? criteria) := findsFirst_find? c _

/-- Where some route meets the criteria, the one that is found stands there or before. -/
theorem exists_routeFor?_le (hget : c.get? k = some r) (hr : Meets criteria r) :
    ∃ i s, i ≤ k ∧ c.FirstAt (Meets criteria) i s ∧ c.routeFor? criteria = some s := by
  obtain ⟨i, s, hle, hs⟩ := exists_firstAt hget hr
  exact ⟨i, s, hle, hs, ((findsFirst_routeFor? c criteria).some_iff s).2 ⟨i, hs⟩⟩

/-- If a route is found by more criteria, then one is found by fewer, at the same place or before. -/
theorem exists_routeFor?_of_subset (hsub : criteria ⊆ criteria') (h : c.routeFor? criteria' = some s) :
    ∃ i j r, i ≤ j ∧ c.FirstAt (Meets criteria') j s ∧ c.FirstAt (Meets criteria) i r ∧
      c.routeFor? criteria = some r := by
  obtain ⟨j, hs⟩ := ((findsFirst_routeFor? c criteria').some_iff s).1 h
  obtain ⟨i, r, hle, hr, hfound⟩ := exists_routeFor?_le hs.get (Metadata.containsAll_of_subset hsub hs.here)
  exact ⟨i, j, r, hle, hs, hr, hfound⟩

theorem routeFor?_of_conflict {key value value' : String} (h : (key, value) ∈ criteria) (h' : (key, value') ∈ criteria)
    (hne : value ≠ value') : c.routeFor? criteria = none :=
  List.find?_eq_none.2 fun r _ => by
    rw [Metadata.containsAll_of_conflict h h' hne]
    exact Bool.false_ne_true

/-- What is found by more criteria stands no earlier than what is found by fewer, and if nothing is found
by the fewer, then nothing by the more. Only the set of the criteria matters, and by criteria that give
one key two values nothing is found. By all requirements of a route, in any order, a route is found that
has all of them, at the place of that route or before. -/
theorem routeFor_antitone (c : Collection) :
    (∀ criteria criteria', criteria ⊆ criteria' →
      (∀ s, c.routeFor? criteria' = some s → ∃ i j r, i ≤ j ∧ c.FirstAt (Meets criteria') j s ∧
        c.FirstAt (Meets criteria) i r ∧ c.routeFor? criteria = some r) ∧
      (c.routeFor? criteria = none → c.routeFor? criteria' = none)) ∧
    (∀ criteria criteria', (∀ e, e ∈ criteria ↔ e ∈ criteria') → c.routeFor? criteria = c.routeFor? criteria') ∧
    (∀ criteria key value value', (key, value) ∈ criteria → (key, value') ∈ criteria → value ≠ value' →
      c.routeFor? criteria = none) ∧
    ∀ k r, c.get? k = some r → r.metadata.Built →
      ∀ criteria : List (String × String), criteria.Perm r.metadata.toList →
        ∃ i s, i ≤ k ∧ c.get? i = some s ∧ c.routeFor? criteria = some s ∧
          s.metadata.containsAll r.metadata.toList = true := by
  refine ⟨fun criteria criteria' hsub => ⟨fun s => exists_routeFor?_of_subset hsub, fun hnone => ?_⟩,
    fun criteria criteria' h => ?_, fun criteria key value value' => routeFor?_of_conflict,
    fun k r hget hbuilt criteria hperm => ?_⟩
  · refine Option.eq_none_iff_forall_ne_some.2 fun s hs => ?_
    obtain ⟨i, j, r, -, -, -, hr⟩ := exists_routeFor?_of_subset hsub hs
    rw [hnone] at hr
    cases hr
  · exact List.find?_congr fun r _ => Metadata.containsAll_congr h
  · have hall : ∀ m : Metadata, m.containsAll criteria = m.containsAll r.metadata.toList := fun m =>
      Metadata.containsAll_congr fun e => hperm.mem_iff
    obtain ⟨i, s, hle, hs, hfound⟩ := exists_routeFor?_le hget ((hall _).trans hbuilt.containsAll_self)
    exact ⟨i, s, hle, hs.get, hfound, (hall _).symm.trans hs.here⟩

end Criteria

/-! ## Requirements of compiled routes -/

/-- Compiled routes have the requirements of their descriptors, which calls have inserted. -/
theorem metadata_built_of_compile [Pattern.PropertyTable] {k : Compiler} {d : Descriptor} (hd : d.Built)
    (h : (k.compile d).value = .ok r) : r.metadata.Built := by
  rw [(Compiler.eq_of_compileBy h).2]
  exact hd.metadata

theorem metadata_built_of_compileAll [Pattern.PropertyTable] {k : Compiler} {policy : BatchPolicy}
    {ds : List Descriptor} (hds : ∀ d ∈ ds, d.Built) (h : (k.compileAll policy ds).value = .ok c)
    (hr : r ∈ c.routes) : r.metadata.Built := by
  obtain ⟨d, hd, hvalue⟩ := Compiler.exists_of_mem_compileAllBy k Pattern.compile ds h hr
  exact metadata_built_of_compile (hds d hd) hvalue

/-- Pages of labels: all of them, the form for one, and the form. -/
def labelPages : List Descriptor := [
  .ofCalls "GET" [.literal "/labels", .servedBy "labels" "index"],
  .ofCalls "GET" [.literal "/labels/12/edit", .servedBy "labels" "edit", .requirement "id" "12"],
  .ofCalls "GET" [.literal "/labels/edit", .requirement "action" "edit", .requirement "controller" "labels"]]

/-- By the controller the first page is found, and by controller and action the second, which has all
requirements of the third as well. -/
theorem routeFor_of_labelPages : ∃ c, (({} : Compiler).compileAll .abort labelPages).value = .ok c ∧
    (∃ i j r s, i ≤ j ∧ c.routeFor? [("controller", "labels")] = some r ∧
      c.routeFor? [("action", "edit"), ("controller", "labels"), ("action", "edit")] = some s ∧
      c.FirstAt (Meets [("controller", "labels")]) i r ∧
      c.FirstAt (Meets [("action", "edit"), ("controller", "labels"), ("action", "edit")]) j s) ∧
    c.routeFor? [("action", "edit"), ("controller", "labels"), ("action", "index")] = none ∧
    ∃ r, c.get? 2 = some r ∧ ∃ i s, i ≤ 2 ∧ c.get? i = some s ∧
      c.routeFor? r.metadata.toList.reverse = some s ∧ s.metadata.containsAll r.metadata.toList = true := by
  have hok : (({} : Compiler).compileAll .abort labelPages).value.isOk = true := by decide +kernel
  have hfound : (({} : Compiler).compileAll .abort labelPages).value.toOption.map (fun c =>
      ((c.routeFor? [("action", "edit"), ("controller", "labels"), ("action", "edit")]).isSome, (c.get? 2).isSome)) =
      some (true, true) := by decide +kernel
  obtain ⟨c, hc⟩ := exists_ok_of_isOk hok
  rw [hc] at hfound
  simp only [Except.toOption, Option.map_some, Option.some.injEq, Prod.mk.injEq] at hfound
  obtain ⟨s, hs⟩ := Option.isSome_iff_exists.1 hfound.1
  obtain ⟨r, hr⟩ := Option.isSome_iff_exists.1 hfound.2
  have hbuilt : ∀ d ∈ labelPages, d.Built := by
    simp only [labelPages, List.forall_mem_cons]
    exact ⟨⟨_, _, rfl⟩, ⟨_, _, rfl⟩, ⟨_, _, rfl⟩, fun _ hd => absurd hd List.not_mem_nil⟩
  obtain ⟨hfewer, -, hconflict, hown⟩ := routeFor_antitone c
  obtain ⟨i, j, t, hle, hsj, hti, ht⟩ := (hfewer [("controller", "labels")] _ (by simp)).1 s hs
  exact ⟨c, hc, ⟨i, j, t, s, hle, ht, hs, hti, hsj⟩,
    hconflict _ "action" "edit" "index" (by simp) (by simp) (by decide), r, hr,
    hown 2 r hr (metadata_built_of_compileAll hbuilt hc (List.mem_of_getElem? hr)) _ (List.reverse_perm _)⟩

end RouteTable.Collection
