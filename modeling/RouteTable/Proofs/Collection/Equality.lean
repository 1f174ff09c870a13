/-
Equality of routes and of collections. Two routes are compared without their programs, and it is their
programs that decide which paths they accept. A compiled route's program is what the text of its matcher
stands for, so compiled routes that are equal have the same program as well (`Route.Compiled.eq_of_beq`):
no question tells them apart, and none tells apart equal collections of such routes (`alike_of_beq`).
-/
import RouteTable.Proofs.Collection.Removal
import RouteTable.Proofs.Compiler.Batch
import RouteTable.Proofs.Compiler.Result

namespace RouteTable

/-! ## Compiled routes -/

namespace Route

variable {r s : Route}

/-- Routes are equal if they agree in all but their programs. -/
theorem beq_iff : (r == s) = true ↔ r.path = s.path ∧ r.verb = s.verb ∧ r.parameters = s.parameters ∧
    r.metadata = s.metadata ∧ r.matcherSource = s.matcherSource := by
  show (r.path == s.path && r.verb == s.verb && r.parameters == s.parameters &&
    r.metadata == s.metadata && r.matcherSource == s.matcherSource) = true ↔ _
  simp only [Bool.and_eq_true, beq_iff_eq, and_assoc]

section Compiled

variable [Pattern.PropertyTable]

/-- The route has come out of a compilation. -/
def Compiled (r : Route) : Prop := ∃ (k : Compiler) (d : Descriptor), (k.compile d).value = .ok r

theorem Compiled.program (h : r.Compiled) : Pattern.compile r.matcherSource = .ok r.program := by
  obtain ⟨k, d, h⟩ := h
  obtain ⟨hp, hr⟩ := Compiler.eq_of_compileBy h
  rw [hr]
  exact hp

/-- Compiled routes that are equal agree in their programs too. -/
theorem Compiled.eq_of_beq (hr : r.Compiled) (hs : s.Compiled) (h : (r == s) = true) : r = s := by
  obtain ⟨hpath, hverb, hparameters, hmetadata, hsource⟩ := beq_iff.1 h
  have hprogram := hr.program
  rw [hsource, hs.program] at hprogram
  have hsame : r.program = s.program := (Except.ok.inj hprogram).symm
  cases r
  cases s
  simp only at hpath hverb hparameters hmetadata hsource hsame
  rw [hpath, hverb, hparameters, hmetadata, hsource, hsame]

theorem Compiled.matchesPath_eq (hr : r.Compiled) (hs : s.Compiled) (h : (r == s) = true) (path : String) :
    r.matchesPath path = s.matchesPath path := by
  rw [hr.eq_of_beq hs h]

end Compiled

end Route

namespace Collection

variable [Pattern.PropertyTable] {c c' : Collection} {r : Route}

/-- All routes have come out of compilations. -/
def Compiled (c : Collection) : Prop := ∀ r ∈ c.routes, r.Compiled

theorem Compiled.without (hc : c.Compiled) (paths : List String) : (c.without paths).Compiled :=
  fun r hr => hc r (mem_without_iff.1 hr).1

/-- Whatever a batch leads to has come out of compilations. -/
theorem compiled_of_compileAll {k : Compiler} {policy : BatchPolicy} {ds : List Descriptor}
    (h : (k.compileAll policy ds).value = .ok c) : c.Compiled := by
  intro r hr
  obtain ⟨d, -, hd⟩ := Compiler.exists_of_mem_compileAllBy k Pattern.compile ds h hr
  exact ⟨k, d, hd⟩

theorem routes_eq_of_beq : ∀ {rs ss : List Route}, (∀ r ∈ rs, r.Compiled) → (∀ s ∈ ss, s.Compiled) →
    (rs == ss) = true → rs = ss
  | [], [], _, _, _ => rfl
  | [], _ :: _, _, _, h => by cases h
  | _ :: _, [], _, _, h => by cases h
  | r :: rs, s :: ss, hr, hs, h => by
    have hboth : (r == s && rs == ss) = true := h
    obtain ⟨hhead, htail⟩ := Bool.and_eq_true_iff.1 hboth
    rw [(hr r List.mem_cons_self).eq_of_beq (hs s List.mem_cons_self) hhead,
      routes_eq_of_beq (fun x hx => hr x (List.mem_cons_of_mem _ hx)) (fun x hx => hs x (List.mem_cons_of_mem _ hx))
        htail]

theorem Compiled.eq_of_beq (hc : c.Compiled) (hc' : c'.Compiled) (h : (c == c') = true) : c = c' :=
  congrArg Collection.mk (routes_eq_of_beq hc hc' h)

end Collection

/-! ## Questions -/

/-- Two routes answer every question alike. -/
structure Route.Alike (r s : Route) : Prop where
  matchesPath : ∀ path, r.matchesPath path = s.matchesPath path
  accepts : ∀ m, r.accepts m = s.accepts m
  method : r.method? = s.method?
  metadata : ∀ key, r.metadata.get? key = s.metadata.get? key
  requestLine : r.requestLine = s.requestLine

/-- Two collections answer every question alike: with equal routes or both with none, and with equal
collections. -/
structure Collection.Alike (c c' : Collection) : Prop where
  matchFor : ∀ path, (c.matchFor? path == c'.matchFor? path) = true
  find : ∀ m path, (c.find? m path == c'.find? m path) = true
  routeFor : ∀ criteria, (c.routeFor? criteria == c'.routeFor? criteria) = true
  get : ∀ i, (c.get? i == c'.get? i) = true
  first : (c.first? == c'.first?) = true
  last : (c.last? == c'.last?) = true
  controller : ∀ name, (c.controller name == c'.controller name) = true
  verb : ∀ m, (c.verb m == c'.verb m) = true
  without : ∀ paths, (c.without paths == c'.without paths) = true

theorem Collection.Alike.refl (c : Collection) : c.Alike c where
  matchFor := fun _ => beq_self_eq_true _
  find := fun _ _ => beq_self_eq_true _
  routeFor := fun _ => beq_self_eq_true _
  get := fun _ => beq_self_eq_true _
  first := beq_self_eq_true _
  last := beq_self_eq_true _
  controller := fun _ => beq_self_eq_true _
  verb := fun _ => beq_self_eq_true _
  without := fun _ => beq_self_eq_true _

/-- Compiled routes that are equal answer every question alike, whichever compilers and descriptors they
come from; and so do equal collections of compiled routes. -/
theorem alike_of_beq [Pattern.PropertyTable] :
    (∀ r s : Route, r.Compiled → s.Compiled → (r == s) = true → r.Alike s) ∧
    ∀ c c' : Collection, c.Compiled → c'.Compiled → (c == c') = true → c.Alike c' := by
  refine ⟨fun r s hr hs h => ?_, fun c c' hc hc' h => ?_⟩
  · obtain rfl := hr.eq_of_beq hs h
    exact ⟨fun _ => rfl, fun _ => rfl, rfl, fun _ => rfl, rfl⟩
  · obtain rfl := hc.eq_of_beq hc' h
    exact .refl c

/-- Numbers as the fallback of a compiler, and as a constraint under the default one: the two routes are
equal. -/
theorem alike_of_fallback_and_constraint : ∃ (k : Compiler) (r s : Route),
    ({} : Compiler).withParameterPattern "[0-9]+" = .ok k ∧
    (k.compile (Collection.numberRoute "GET")).value = .ok r ∧
    (compile ((Collection.numberRoute "GET").constraint "id" "[0-9]+")).value = .ok s ∧
    (r == s) = true ∧ r.Alike s ∧ (Collection.ofList [r]).Alike (Collection.ofList [s]) := by
  let k : Compiler := { parameterPattern := "(?:[0-9]+)" }
  have hk : ({} : Compiler).withParameterPattern "[0-9]+" = .ok k := by decide +kernel
  obtain ⟨r, hr⟩ := exists_ok_of_isOk
    (show (k.compile (Collection.numberRoute "GET")).value.isOk = true by decide +kernel)
  obtain ⟨s, hs⟩ := exists_ok_of_isOk
    (show (compile ((Collection.numberRoute "GET").constraint "id" "[0-9]+")).value.isOk = true by decide +kernel)
  have heq : ((k.compile (Collection.numberRoute "GET")).value.toOption ==
      (compile ((Collection.numberRoute "GET").constraint "id" "[0-9]+")).value.toOption) = true := by
    decide +kernel
  rw [hr, hs] at heq
  have hroutes : (r == s) = true := heq
  have hrc : r.Compiled := ⟨k, _, hr⟩
  have hsc : s.Compiled := ⟨{}, _, hs⟩
  refine ⟨k, r, s, hk, hr, hs, hroutes, alike_of_beq.1 r s hrc hsc hroutes, alike_of_beq.2 _ _ ?_ ?_ ?_⟩
  · exact fun x hx => List.mem_singleton.1 hx ▸ hrc
  · exact fun x hx => List.mem_singleton.1 hx ▸ hsc
  · show (r == s && true) = true
    rw [hroutes, Bool.and_self]

end RouteTable
