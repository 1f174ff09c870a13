/-
Removing by the same paths again and again. Removal takes away only routes that accept one of the paths
(`avoiding_without`), for compiled routes that are equal accept the same paths. As long as there are such
routes each round takes at least one away, so after as many rounds as there are routes exactly the others
are left (`rounds_size_eq_avoiding`).
-/
import RouteTable.Proofs.Collection.Equality
import Mathlib.Logic.Function.Iterate

namespace RouteTable.Collection

variable {c : Collection} {paths : List String} {r : Route}

/-! ## Rounds -/

/-- The routes that accept none of the paths, in order. -/
def avoiding (c : Collection) (paths : List String) : Collection :=
  c.select fun r => paths.all fun path => !r.matchesPath path

/-- What is left after some rounds of removal. -/
def rounds (c : Collection) (paths : List String) (n : Nat) : Collection := (fun c => c.without paths)^[n] c

theorem rounds_succ (c : Collection) (paths : List String) (n : Nat) :
    c.rounds paths (n + 1) = (c.rounds paths n).without paths := Function.iterate_succ_apply' ..

theorem Compiled.rounds [Pattern.PropertyTable] (hc : c.Compiled) (paths : List String) :
    ∀ n, (c.rounds paths n).Compiled
  | 0 => hc
  | n + 1 => by rw [rounds_succ]; exact (Compiled.rounds hc paths n).without paths

/-- A route that accepts none of the paths stays. -/
theorem mem_without_of_avoids [Pattern.PropertyTable] (hc : c.Compiled) (hr : r ∈ c.routes)
    (hm : ∀ path ∈ paths, r.matchesPath path = false) : r ∈ (c.without paths).routes := by
  refine mem_without_iff.2 ⟨hr, fun x hx => Bool.eq_false_iff.2 fun heq => ?_⟩
  obtain ⟨path, hp, hfound⟩ := hx
  obtain ⟨hmem, haccepts⟩ := matchFor?_some hfound
  have hsame := (hc x hmem).matchesPath_eq (hc r hr) heq path
  rw [haccepts, hm path hp] at hsame
  cases hsame

theorem avoiding_without [Pattern.PropertyTable] (hc : c.Compiled) (paths : List String) :
    (c.without paths).avoiding paths = c.avoiding paths := by
  refine congrArg Collection.mk ?_
  rw [without_eq_select, select, List.filter_filter]
  refine List.filter_congr fun r hr => ?_
  cases hall : paths.all fun path => !r.matchesPath path with
  | false => rfl
  | true =>
    have hm : ∀ path ∈ paths, r.matchesPath path = false := by simpa using hall
    exact kept_iff.2 (mem_without_iff.1 (mem_without_of_avoids hc hr hm)).2

theorem avoiding_rounds [Pattern.PropertyTable] (hc : c.Compiled) (paths : List String) : ∀ n,
    (c.rounds paths n).avoiding paths = c.avoiding paths
  | 0 => rfl
  | n + 1 => by rw [rounds_succ, avoiding_without (hc.rounds paths n), avoiding_rounds hc paths n]

theorem avoiding_of_unmatched (h : ∀ r ∈ c.routes, ∀ path ∈ paths, r.matchesPath path = false) :
    c.avoiding paths = c := by
  refine congrArg Collection.mk (List.filter_eq_self.2 fun r hr => ?_)
  rw [List.all_eq_true]
  exact fun path hp => by rw [h r hr path hp]; rfl

/-- Either nothing is left to remove, or every round has taken a route away. -/
theorem rounds_unmatched_or_shorter (c : Collection) (paths : List String) : ∀ n,
    (∀ r ∈ (c.rounds paths n).routes, ∀ path ∈ paths, r.matchesPath path = false) ∨
      (c.rounds paths n).size + n ≤ c.size
  | 0 => .inr (Nat.le_refl _)
  | n + 1 => by
    rw [rounds_succ]
    by_cases h : ∀ r ∈ (c.rounds paths n).routes, ∀ path ∈ paths, r.matchesPath path = false
    · left; rwa [without_of_unmatched h]
    · right
      have hsize := (rounds_unmatched_or_shorter c paths n).resolve_left h
      push Not at h
      obtain ⟨r, hr, path, hp, hm⟩ := h
      have hlt := size_without_lt hp hr (by simpa using hm)
      omega

/-- As many rounds as there are routes leave nothing to remove. -/
theorem rounds_size_unmatched (c : Collection) (paths : List String) :
    ∀ r ∈ (c.rounds paths c.size).routes, ∀ path ∈ paths, r.matchesPath path = false := by
  rcases rounds_unmatched_or_shorter c paths c.size with h | h
  · exact h
  · have hnil : (c.rounds paths c.size).routes = [] := List.length_eq_zero_iff.1 (by rw [size] at h; omega)
    simp [hnil]

/-- Removal by the same paths, repeated as often as a collection of compiled routes has routes, leaves
exactly the routes that accept none of the paths, in their order and as often as they were there. Every
round takes some route away as long as a route accepts one of the paths, and no round takes away a route
that accepts none. -/
theorem rounds_size_eq_avoiding [Pattern.PropertyTable] (hc : c.Compiled) (paths : List String) :
    c.rounds paths c.size = c.avoiding paths ∧
    ∀ n, ((∃ r ∈ (c.rounds paths n).routes, ∃ path ∈ paths, r.matchesPath path = true) →
        ((c.rounds paths n).without paths).size < (c.rounds paths n).size) ∧
      ((c.rounds paths n).without paths).avoiding paths = (c.rounds paths n).avoiding paths := by
  refine ⟨?_, fun n => ⟨?_, avoiding_without (hc.rounds paths n) paths⟩⟩
  · rw [← avoiding_of_unmatched (rounds_size_unmatched c paths), avoiding_rounds hc]
  · rintro ⟨r, hr, path, hp, hm⟩
    exact size_without_lt hp hr hm

/-- Labels under two methods, one of them twice, and a route that accepts no label. -/
def labelRoutes : List Descriptor :=
  [numberRoute "GET", numberRoute "DELETE", (Descriptor.ofVerb "GET").literal "/about", numberRoute "GET"]

/-- The first round takes the two equal routes away, the second the one that they stood before. -/
theorem rounds_of_labelRoutes : ∃ c : Collection, c.Compiled ∧ c.size = 4 ∧
    c.rounds ["/labels/12"] c.size = c.avoiding ["/labels/12"] ∧ (c.without ["/labels/12"]).size < c.size ∧
    (c.avoiding ["/labels/12"]).routes.map (·.requestLine) = ["GET /about"] := by
  have hok : (({} : Compiler).compileAll .abort labelRoutes).value.isOk = true := by decide +kernel
  have hshown : (({} : Compiler).compileAll .abort labelRoutes).value.toOption.map (fun c =>
      (c.size, (c.avoiding ["/labels/12"]).routes.map (·.requestLine))) = some (4, ["GET /about"]) := by decide +kernel
  obtain ⟨c, hc⟩ := exists_ok_of_isOk hok
  rw [hc] at hshown
  simp only [Except.toOption, Option.map_some, Option.some.injEq, Prod.mk.injEq] at hshown
  obtain ⟨hsize, hleft⟩ := hshown
  obtain ⟨hrounds, hround⟩ := rounds_size_eq_avoiding (compiled_of_compileAll hc) ["/labels/12"]
  refine ⟨c, compiled_of_compileAll hc, hsize, hrounds, (hround 0).1 ?_, hleft⟩
  -- otherwise nothing would be taken away
  by_contra hnone
  have hkept : c.avoiding ["/labels/12"] = c := avoiding_of_unmatched fun r hr path hp =>
    Bool.eq_false_iff.2 fun hm => hnone ⟨r, hr, path, hp, hm⟩
  rw [hkept] at hleft
  have hlength := congrArg List.length hleft
  rw [List.length_map] at hlength
  exact absurd (hsize.symm.trans hlength) (by decide)

end RouteTable.Collection
