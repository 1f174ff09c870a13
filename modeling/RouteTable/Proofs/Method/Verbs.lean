/-
Verbs and methods. A route can be asked for the one method that its verb names, and whether it accepts a
given method; the first reads the verb as a whole, the second cuts it at every bar. The two agree: a verb
that is not empty accepts a method exactly if one of its segments, taken as a verb, names that method
(`accepts_iff_segment_names`). For a segment contains no bar, and a method's name is not empty.
-/
import RouteTable.Method
import RouteTable.Proofs.Compiler.Result

namespace RouteTable

/-! ## Names of methods -/

namespace Method

variable {m m' : Method} {name : String}

theorem eq_of_name_eq (h : m.name = m'.name) : m = m' := by
  cases m; cases m'; cases h; rfl

theorem ofName?_eq_some_iff : Method.ofName? name = some m ↔ name = m.name := by
  unfold ofName?
  constructor
  · intro h
    split at h
    · cases h; rfl
    · cases h
  · rintro rfl
    rw [dif_pos m.isName]

theorem name_ne_empty (m : Method) : m.name ≠ "" := by
  intro h
  have hname := m.isName
  rw [h] at hname
  exact absurd hname (by decide)

end Method

/-! ## Segments of verbs -/

/-- A verb is cut as lists are split. -/
theorem betweenBars_eq_splitOn : ∀ cs : List Char, betweenBars cs = cs.splitOn '|'
  | [] => (List.splitOn_nil _).symm
  | c :: cs => by
    rw [betweenBars, betweenBars_eq_splitOn cs, List.splitOn_cons_eq_if_modifyHead]
    by_cases hc : c = '|'
    · rw [if_pos hc, if_pos (beq_iff_eq.2 hc)]
    · rw [if_neg hc, if_neg (by simpa using hc)]
      cases hcs : cs.splitOn '|' with
      | nil => exact absurd hcs (List.splitOn_ne_nil _ _)
      | cons s rest => rfl

theorem mem_verbNames_iff {verb s : String} : s ∈ verbNames verb ↔ s.toList ∈ verb.toList.splitOn '|' := by
  rw [verbNames, betweenBars_eq_splitOn, List.mem_map]
  constructor
  · rintro ⟨cs, hcs, rfl⟩
    rwa [String.toList_ofList]
  · exact fun h => ⟨s.toList, h, String.ofList_toList⟩

/-- No segment contains a bar. -/
theorem bar_not_mem_of_mem_betweenBars : ∀ {cs s : List Char}, s ∈ betweenBars cs → '|' ∉ s
  | [], s, h => by rw [List.mem_singleton.1 h]; exact List.not_mem_nil
  | c :: cs, s, h => by
    rw [betweenBars] at h
    split at h
    · rcases List.mem_cons.1 h with rfl | h
      · exact List.not_mem_nil
      · exact bar_not_mem_of_mem_betweenBars h
    · rename_i hc
      split at h
      · rename_i first rest hcs
        rcases List.mem_cons.1 h with rfl | h
        · have hfirst : '|' ∉ first := bar_not_mem_of_mem_betweenBars (hcs ▸ List.mem_cons_self)
          exact fun hmem => (List.mem_cons.1 hmem).elim (fun heq => hc heq.symm) hfirst
        · exact bar_not_mem_of_mem_betweenBars (hcs ▸ List.mem_cons_of_mem _ h)
      · rw [List.mem_singleton.1 h]
        exact fun hmem => hc (List.mem_singleton.1 hmem).symm

theorem bar_not_mem_of_mem_verbNames {verb s : String} (h : s ∈ verbNames verb) : '|' ∉ s.toList := by
  rw [mem_verbNames_iff, ← betweenBars_eq_splitOn] at h
  exact bar_not_mem_of_mem_betweenBars h

theorem verbNames_of_bar_not_mem {verb : String} (h : '|' ∉ verb.toList) : verbNames verb = [verb] := by
  rw [verbNames, betweenBars_eq_splitOn, List.splitOn_eq_singleton h, List.map_singleton, String.ofList_toList]

/-! ## The two questions -/

namespace Route

variable {r : Route} {m : Method}

/-- A verb names a method exactly if it is its name and contains no bar. -/
theorem method?_eq_some_iff : r.method? = some m ↔ r.verb = m.name ∧ '|' ∉ r.verb.toList := by
  unfold method?
  split
  · rename_i h
    refine iff_of_false nofun fun ⟨hname, hbar⟩ => ?_
    rcases Bool.or_eq_true_iff.1 h with hempty | hmem
    · exact m.name_ne_empty (hname ▸ String.isEmpty_iff.1 hempty)
    · exact hbar (List.contains_iff_mem.1 hmem)
  · rename_i h
    have hbar : '|' ∉ r.verb.toList := fun hmem => h (by simp [hmem])
    rw [Method.ofName?_eq_some_iff]
    exact ⟨fun hname => ⟨hname, hbar⟩, And.left⟩

theorem accepts_iff : r.accepts m = true ↔ r.verb = "" ∨ m.name ∈ verbNames r.verb := by
  rw [accepts, Bool.or_eq_true_iff, String.isEmpty_iff, List.contains_iff_mem]

/-- A verb that names a method accepts just that one. -/
theorem accepts_iff_of_method? {m' : Method} (h : r.method? = some m) : r.accepts m' = true ↔ m' = m := by
  obtain ⟨hname, hbar⟩ := method?_eq_some_iff.1 h
  rw [accepts_iff, verbNames_of_bar_not_mem hbar, List.mem_singleton, hname]
  constructor
  · rintro (hempty | hsame)
    · exact absurd hempty m.name_ne_empty
    · exact Method.eq_of_name_eq hsame
  · rintro rfl
    exact .inr rfl

/-- A verb without a bar that names no method accepts none. -/
theorem accepts_of_method?_none (hverb : r.verb ≠ "") (hbar : '|' ∉ r.verb.toList) (h : r.method? = none)
    (m : Method) : r.accepts m = false := by
  rw [Bool.eq_false_iff]
  intro haccepts
  rw [accepts_iff, verbNames_of_bar_not_mem hbar, List.mem_singleton] at haccepts
  have hname := method?_eq_some_iff.2 ⟨(haccepts.resolve_left hverb).symm, hbar⟩
  rw [h] at hname
  cases hname

/-- Whether a route accepts a method and which method its verb names agree, for every verb. A verb that
is not empty accepts a method exactly if one of the segments between its bars is, as a verb, the name of
that method. So a verb that names a method accepts that one only, and one without a bar that names none
accepts none; of the segments only those that are not empty count; and a method whose name contains a bar
is accepted by the empty verb only. -/
theorem accepts_iff_segment_names (r : Route) :
    (∀ m, r.accepts m = true ↔ r.verb = "" ∨ ∃ s : String, s.toList ∈ r.verb.toList.splitOn '|' ∧
      ∀ r' : Route, r'.verb = s → r'.method? = some m) ∧
    (∀ m, r.method? = some m → ∀ m', r.accepts m' = true ↔ m' = m) ∧
    (r.verb ≠ "" → '|' ∉ r.verb.toList → r.method? = none → ∀ m, r.accepts m = false) ∧
    (r.verb ≠ "" → ∀ m, r.accepts m = true ↔
      ∃ s : String, s ≠ "" ∧ s.toList ∈ r.verb.toList.splitOn '|' ∧ s = m.name) ∧
    ∀ m, '|' ∈ m.name.toList → (r.accepts m = true ↔ r.verb = "") := by
  refine ⟨fun m => ?_, fun m h m' => accepts_iff_of_method? h, accepts_of_method?_none, fun hverb m => ?_,
    fun m hbar => ?_⟩
  · rw [accepts_iff]
    refine or_congr_right ⟨fun h => ⟨m.name, mem_verbNames_iff.1 h, fun r' hr' => ?_⟩, ?_⟩
    · exact method?_eq_some_iff.2 ⟨hr', hr' ▸ bar_not_mem_of_mem_verbNames h⟩
    · rintro ⟨s, hs, hnames⟩
      have hname : s = m.name := (method?_eq_some_iff.1 (hnames { r with verb := s } rfl)).1
      exact mem_verbNames_iff.2 (hname ▸ hs)
  · rw [accepts_iff, or_iff_right hverb, mem_verbNames_iff]
    constructor
    · exact fun h => ⟨m.name, m.name_ne_empty, h, rfl⟩
    · rintro ⟨s, -, hs, rfl⟩
      exact hs
  · rw [accepts_iff]
    exact or_iff_left fun h => bar_not_mem_of_mem_verbNames h hbar

/-- A verb with an empty segment in the middle and one at the end, and a method whose name is that verb. -/
theorem accepts_of_doubled_bar : ∃ (r : Route) (patch barred : Method),
    (compile ((Descriptor.ofVerb "GET||PATCH|").literal "/labels")).value = .ok r ∧
    patch.name = "PATCH" ∧ barred.name = r.verb ∧
    r.accepts patch = true ∧ r.accepts barred = false ∧
    ({ r with verb := "PATCH" } : Route).accepts barred = false ∧
    ({ r with verb := "PATCH " } : Route).accepts patch = false := by
  obtain ⟨r, hr⟩ := exists_ok_of_isOk
    (show (compile ((Descriptor.ofVerb "GET||PATCH|").literal "/labels")).value.isOk = true by decide +kernel)
  have hverb : r.verb = "GET||PATCH|" := by rw [(Compiler.eq_of_compileBy hr).2]; rfl
  let patch : Method := ⟨"PATCH", by decide⟩
  let barred : Method := ⟨"GET||PATCH|", by decide⟩
  refine ⟨r, patch, barred, hr, rfl, hverb.symm, ?_, ?_, ?_, ?_⟩
  · refine ((accepts_iff_segment_names r).1 patch).2 (.inr ⟨"PATCH", ?_, fun r' hr' => ?_⟩)
    · rw [hverb]; decide
    · exact method?_eq_some_iff.2 ⟨hr', by rw [hr']; decide⟩
  · rw [Bool.eq_false_iff, Ne, (accepts_iff_segment_names r).2.2.2.2 barred (by decide), hverb]
    decide
  · have hpatch : ({ r with verb := "PATCH" } : Route).method? = some patch :=
      method?_eq_some_iff.2 ⟨rfl, show '|' ∉ "PATCH".toList by decide⟩
    rw [Bool.eq_false_iff, Ne, (accepts_iff_segment_names _).2.1 patch hpatch barred]
    decide
  · have hverb : "PATCH " ≠ "" := by decide
    have hbar : '|' ∉ "PATCH ".toList := by decide
    have hnone : ({ r with verb := "PATCH " } : Route).method? = none := by
      show (if "PATCH ".isEmpty || "PATCH ".toList.contains '|' then none else Method.ofName? "PATCH ") = none
      decide
    exact (accepts_iff_segment_names { r with verb := "PATCH " }).2.2.1 hverb hbar hnone patch

end Route
end RouteTable
