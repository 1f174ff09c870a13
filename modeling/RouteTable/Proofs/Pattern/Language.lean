/-
What a pattern matches, and that the search decides it. `Node.Matches` says when a node matches a
stretch of a text, given the text before and the text after it, by recursion on the node; the
conditions on a position are the only thing that looks beyond the stretch. `search_iff`: the search
over sets of positions finds a match exactly if some stretch of the text is one.

The digits of a set of positions are followed through a plan (`testBit_run`): a digit is set in the
result if a match leads to it from a digit that was set before. The rounds of a repetition stop early
or after one round per position; the first is harmless because a round that changes nothing changes
nothing ever after, the second because a copy that matches nothing can be left out.
-/
import RouteTable.Pattern.Search
import Mathlib.Logic.Function.Iterate

namespace RouteTable.Pattern

/-! ## Matches -/

/-- `k` stretches of a text, one after the other, each of which satisfies `R` with what is before
and after it. -/
def Copies (R : List Char → List Char → List Char → Prop) :
    Nat → List Char → List Char → List Char → Prop
  | 0, _, word, _ => word = []
  | k + 1, before, word, after =>
    ∃ u v, word = u ++ v ∧ R before u (v ++ after) ∧ Copies R k (before ++ u) v after

/-- The node matches `word` in the text `before ++ word ++ after`. -/
def Node.Matches : Node → List Char → List Char → List Char → Prop
  | .empty, _, word, _ => word = []
  | .set s, _, word, _ => ∃ c, word = [c] ∧ s.contains c = true
  | .look l, before, word, after => word = [] ∧ l.holds before.getLast? after.head? = true
  | .cat m n, before, word, after =>
    ∃ u v, word = u ++ v ∧ m.Matches before u (v ++ after) ∧ n.Matches (before ++ u) v after
  | .alt m n, before, word, after => m.Matches before word after ∨ n.Matches before word after
  | .repeated body least most, before, word, after =>
    ∃ k, least ≤ k ∧ (∀ m, most = some m → k ≤ least + (m - least)) ∧
      Copies body.Matches k before word after
  | .capture body, before, word, after => body.Matches before word after

/-- The node matches the stretch of `text` between two positions. -/
def Node.Spans (node : Node) (text : List Char) (i j : Nat) : Prop :=
  ∃ before word after, text = before ++ word ++ after ∧ before.length = i ∧
    i + word.length = j ∧ node.Matches before word after

theorem Node.Spans.le {node : Node} {text : List Char} {i j : Nat} (h : node.Spans text i j) :
    i ≤ j ∧ j ≤ text.length := by
  obtain ⟨b, w, a, rfl, rfl, rfl, -⟩ := h
  simp only [List.length_append]; omega

/-- Two cuts of a text that meet: the first leaves for the second what begins where it ends. -/
theorem cuts_meet {text b u a b' v a' : List Char} (ht : text = b ++ u ++ a) (ht' : text = b' ++ v ++ a')
    (hlen : b'.length = b.length + u.length) : b ++ u = b' ∧ a = v ++ a' := by
  have heq : (b ++ u) ++ a = b' ++ (v ++ a') := by rw [← ht, ht', List.append_assoc]
  exact List.append_inj heq (by rw [List.length_append, hlen])

/-! ## Paths of copies -/

/-- `k` steps of a relation between positions. -/
def Hops (R : Nat → Nat → Prop) : Nat → Nat → Nat → Prop
  | 0, i, j => i = j
  | k + 1, i, j => ∃ m, R i m ∧ Hops R k m j

theorem hops_add {R : Nat → Nat → Prop} {l : Nat} : ∀ {k i j : Nat},
    Hops R (k + l) i j ↔ ∃ m, Hops R k i m ∧ Hops R l m j
  | 0, i, j => by simp [Hops]
  | k + 1, i, j => by
    rw [Nat.add_right_comm]
    simp only [Hops, hops_add (k := k)]
    constructor
    · rintro ⟨m, h1, m', h2, h3⟩; exact ⟨m', ⟨m, h1, h2⟩, h3⟩
    · rintro ⟨m', ⟨m, h1, h2⟩, h3⟩; exact ⟨m, h1, m', h2, h3⟩

/-- Steps that lead nowhere can be left out, and there is only room for so many others. -/
theorem hops_short {R : Nat → Nat → Prop} (hR : ∀ i j, R i j → i ≤ j) : ∀ {k i j : Nat},
    Hops R k i j → i ≤ j ∧ ∃ k' ≤ j - i, Hops R k' i j
  | 0, i, j, h => by cases h; exact ⟨Nat.le_refl _, 0, Nat.zero_le _, rfl⟩
  | k + 1, i, j, ⟨m, hm, h⟩ => by
    obtain ⟨hmj, k', hk', h'⟩ := hops_short hR h
    have him := hR i m hm
    refine ⟨Nat.le_trans him hmj, ?_⟩
    -- a step that stays where it is can be left out
    by_cases he : i = m
    · subst he; exact ⟨k', hk', h'⟩
    · exact ⟨k' + 1, by omega, m, hm, h'⟩

/-- Copies of a node lead from position to position by its spans. -/
theorem hops_spans_iff {node : Node} {text : List Char} : ∀ {k i j : Nat}, i ≤ text.length →
    (Hops (node.Spans text) k i j ↔ ∃ before word after, text = before ++ word ++ after ∧
      before.length = i ∧ i + word.length = j ∧ Copies node.Matches k before word after)
  | 0, i, j, hi => by
    constructor
    · rintro rfl
      exact ⟨text.take i, [], text.drop i, by simp, List.length_take_of_le hi, rfl, rfl⟩
    · rintro ⟨b, w, a, -, -, rfl, rfl⟩; rfl
  | k + 1, i, j, hi => by
    constructor
    · rintro ⟨m, ⟨b, u, a, ht, rfl, rfl, hm⟩, h⟩
      obtain ⟨b', v, a', ht', hb', rfl, hk⟩ := (hops_spans_iff (by rw [ht]; simp)).1 h
      obtain ⟨rfl, rfl⟩ := cuts_meet ht ht' hb'
      exact ⟨b, u ++ v, a', by rw [ht]; simp, rfl, by simp [Nat.add_assoc], u, v, rfl, hm, hk⟩
    · rintro ⟨b, w, a, ht, rfl, rfl, u, v, rfl, hm, hk⟩
      refine ⟨b.length + u.length, ⟨b, u, v ++ a, by rw [ht]; simp, rfl, rfl, hm⟩, ?_⟩
      refine (hops_spans_iff (by rw [ht]; simp)).2 ⟨b ++ u, v, a, ?_, by simp, ?_, hk⟩
      · rw [ht]; simp
      · simp [Nat.add_assoc]

/-! ## Spans of each kind of node -/

section Spans

variable {text : List Char} {i j : Nat}

theorem spans_empty : Node.empty.Spans text i j ↔ i = j ∧ i ≤ text.length := by
  constructor
  · rintro ⟨b, w, a, rfl, rfl, rfl, rfl⟩; simp
  · rintro ⟨rfl, hi⟩
    exact ⟨text.take i, [], text.drop i, by simp, List.length_take_of_le hi, rfl, rfl⟩

theorem spans_set {s : CharSet} : (Node.set s).Spans text i j ↔
    j = i + 1 ∧ ∃ c, text[i]? = some c ∧ s.contains c = true := by
  constructor
  · rintro ⟨b, w, a, rfl, rfl, rfl, c, rfl, hc⟩
    exact ⟨rfl, c, by simp, hc⟩
  · rintro ⟨rfl, c, hc, hs⟩
    obtain ⟨hi, hget⟩ := List.getElem?_eq_some_iff.1 hc
    refine ⟨text.take i, [c], text.drop (i + 1), ?_, List.length_take_of_le (Nat.le_of_lt hi), rfl, c, rfl, hs⟩
    rw [← hget, List.append_assoc, List.singleton_append, List.getElem_cons_drop, List.take_append_drop]

theorem spans_look {l : Look} : (Node.look l).Spans text i j ↔
    i = j ∧ i ≤ text.length ∧ l.holds (text.take i).getLast? (text.drop i).head? = true := by
  constructor
  · rintro ⟨b, w, a, rfl, rfl, rfl, rfl, hl⟩; simpa using hl
  · rintro ⟨rfl, hi, hl⟩
    exact ⟨text.take i, [], text.drop i, by simp, List.length_take_of_le hi, rfl, rfl, hl⟩

theorem spans_cat {m n : Node} : (Node.cat m n).Spans text i j ↔
    ∃ k, m.Spans text i k ∧ n.Spans text k j := by
  constructor
  · rintro ⟨b, w, a, rfl, rfl, rfl, u, v, rfl, hm, hn⟩
    exact ⟨b.length + u.length, ⟨b, u, v ++ a, by simp, rfl, rfl, hm⟩,
      ⟨b ++ u, v, a, by simp, by simp, by simp [Nat.add_assoc], hn⟩⟩
  · rintro ⟨k, ⟨b, u, a, ht, rfl, rfl, hm⟩, b', v, a', ht', hb', rfl, hn⟩
    obtain ⟨rfl, rfl⟩ := cuts_meet ht ht' hb'
    exact ⟨b, u ++ v, a', by rw [ht]; simp, rfl, by simp [Nat.add_assoc], u, v, rfl, hm, hn⟩

theorem spans_alt {m n : Node} : (Node.alt m n).Spans text i j ↔ m.Spans text i j ∨ n.Spans text i j := by
  constructor
  · rintro ⟨b, w, a, ht, hi, hj, h | h⟩
    · exact .inl ⟨b, w, a, ht, hi, hj, h⟩
    · exact .inr ⟨b, w, a, ht, hi, hj, h⟩
  · rintro (⟨b, w, a, ht, hi, hj, h⟩ | ⟨b, w, a, ht, hi, hj, h⟩)
    · exact ⟨b, w, a, ht, hi, hj, .inl h⟩
    · exact ⟨b, w, a, ht, hi, hj, .inr h⟩

theorem spans_repeated {body : Node} {least : Nat} {most : Option Nat} (hi : i ≤ text.length) :
    (Node.repeated body least most).Spans text i j ↔
      ∃ k, least ≤ k ∧ (∀ m, most = some m → k ≤ least + (m - least)) ∧ Hops (body.Spans text) k i j := by
  constructor
  · rintro ⟨b, w, a, ht, hb, hj, k, hk, hm, hc⟩
    exact ⟨k, hk, hm, (hops_spans_iff hi).2 ⟨b, w, a, ht, hb, hj, hc⟩⟩
  · rintro ⟨k, hk, hm, h⟩
    obtain ⟨b, w, a, ht, hb, hj, hc⟩ := (hops_spans_iff hi).1 h
    exact ⟨b, w, a, ht, hb, hj, k, hk, hm, hc⟩

end Spans

/-! ## Sets of positions -/

theorem testBit_two_mul_add (n i : Nat) (b : Bool) :
    (2 * n + if b then 1 else 0).testBit (i + 1) = n.testBit i := by
  rw [Nat.testBit_add_one]
  congr 1
  cases b
  · simp
  · simp; omega

theorem testBit_two_mul_add_zero (n : Nat) (b : Bool) :
    (2 * n + if b then 1 else 0).testBit 0 = b := by
  cases b <;> simp [Nat.testBit_zero]

theorem testBit_charPositions (s : CharSet) : ∀ (text : List Char) (i : Nat),
    (charPositions s text).testBit i = true ↔ ∃ c, text[i]? = some c ∧ s.contains c = true
  | [], i => by simp [charPositions]
  | c :: cs, 0 => by rw [charPositions, testBit_two_mul_add_zero]; simp
  | c :: cs, i + 1 => by
    rw [charPositions, testBit_two_mul_add, testBit_charPositions s cs i]; simp

/-- The text that a condition looks at begins with `pre`. -/
theorem testBit_lookPositions (l : Look) : ∀ (text pre : List Char) (i : Nat),
    (lookPositions l pre.getLast? text).testBit i = true ↔
      i ≤ text.length ∧ l.holds (pre ++ text.take i).getLast? (text.drop i).head? = true
  | [], pre, 0 => by
    have := testBit_two_mul_add_zero 0 (l.holds pre.getLast? none)
    simp only [Nat.mul_zero, Nat.zero_add] at this
    rw [lookPositions, this]; simp
  | [], pre, i + 1 => by
    have := testBit_two_mul_add 0 i (l.holds pre.getLast? none)
    simp only [Nat.mul_zero, Nat.zero_add] at this
    rw [lookPositions, this]; simp
  | c :: cs, pre, 0 => by rw [lookPositions, testBit_two_mul_add_zero]; simp
  | c :: cs, pre, i + 1 => by
    have hpre : some c = (pre ++ [c]).getLast? := by simp
    rw [lookPositions, testBit_two_mul_add, hpre, testBit_lookPositions l cs (pre ++ [c]) i]
    simp

theorem testBit_allPositions : ∀ (text : List Char) (i : Nat),
    (allPositions text).testBit i = true ↔ i ≤ text.length
  | [], 0 => by simp [allPositions]
  | [], i + 1 => by simp [allPositions, Nat.testBit_add_one]
  | _ :: cs, 0 => by have := testBit_two_mul_add_zero (allPositions cs) true; simp_all [allPositions]
  | _ :: cs, i + 1 => by
    have := testBit_two_mul_add (allPositions cs) i true
    simp only [if_true] at this
    rw [allPositions, this, testBit_allPositions cs i]; simp

/-! ## Rounds -/

/-- A round that changes nothing can be repeated at no cost. -/
theorem iterate_eq (f : Nat → Nat) : ∀ k s, iterate f k s = f^[k] s
  | 0, _ => rfl
  | k + 1, s => by
    rw [iterate, Function.iterate_succ_apply]
    split
    · rename_i h; rw [h, Function.iterate_fixed h]
    · exact iterate_eq f k (f s)

/-- In sets of positions up to `n`, the function sets the digits that `R` leads to. -/
def Follows (n : Nat) (f : Nat → Nat) (R : Nat → Nat → Prop) : Prop :=
  ∀ s, (∀ i, s.testBit i = true → i ≤ n) →
    (∀ j, (f s).testBit j = true ↔ ∃ i, s.testBit i = true ∧ R i j) ∧
      ∀ j, (f s).testBit j = true → j ≤ n

theorem Follows.iterate {n : Nat} {f : Nat → Nat} {R : Nat → Nat → Prop} (hf : Follows n f R) :
    ∀ k, Follows n f^[k] (Hops R k)
  | 0, s, hs => ⟨fun j => by simp [Hops], hs⟩
  | k + 1, s, hs => by
    obtain ⟨h1, h2⟩ := hf s hs
    obtain ⟨h3, h4⟩ := hf.iterate k (f s) h2
    rw [Function.iterate_succ_apply]
    refine ⟨fun j => ?_, h4⟩
    simp only [h3, h1, Hops]
    constructor
    · rintro ⟨m, ⟨i, hi, hm⟩, h⟩; exact ⟨i, hi, m, hm, h⟩
    · rintro ⟨i, hi, m, hm, h⟩; exact ⟨m, ⟨i, hi, hm⟩, h⟩

/-- At most `k` rounds that keep what was reached before. -/
theorem Follows.reach {n : Nat} {f : Nat → Nat} {R : Nat → Nat → Prop} (hf : Follows n f R) :
    ∀ k, Follows n (reach f k) (fun i j => ∃ l ≤ k, Hops R l i j) := by
  intro k s hs
  unfold Pattern.reach
  rw [iterate_eq]
  induction k generalizing s with
  | zero => exact ⟨fun j => by simp [Hops], hs⟩
  | succ k ih =>
    obtain ⟨h1, h2⟩ := hf s hs
    obtain ⟨h3, h4⟩ := ih (s ||| f s) fun j hj => by
      rw [Nat.testBit_or, Bool.or_eq_true] at hj
      exact hj.elim (hs j) (h2 j)
    rw [Function.iterate_succ_apply]
    refine ⟨fun j => ?_, h4⟩
    simp only [h3, Nat.testBit_or, Bool.or_eq_true, h1]
    constructor
    · rintro ⟨m, hm | ⟨i, hi, hm⟩, l, hl, h⟩
      · exact ⟨m, hm, l, by omega, h⟩
      · exact ⟨i, hi, l + 1, by omega, m, hm, h⟩
    · rintro ⟨i, hi, l, hl, h⟩
      cases l with
      | zero => exact ⟨i, .inl hi, 0, Nat.zero_le _, h⟩
      | succ l =>
        obtain ⟨m, hm, h⟩ := h
        exact ⟨m, .inr ⟨i, hi, hm⟩, l, by omega, h⟩

/-- The rounds of a repetition: the copies that there have to be, and then those that there may
be. Without an upper bound, a round per position is enough. -/
theorem Follows.repeated {n : Nat} {f : Nat → Nat} {R : Nat → Nat → Prop} (hf : Follows n f R)
    (hR : ∀ i j, R i j → i ≤ j ∧ j ≤ n) (least : Nat) (most : Option Nat) :
    Follows n (fun s => Pattern.reach f ((most.map (· - least)).getD (n + 1)) (Pattern.iterate f least s))
      (fun i j => ∃ k, least ≤ k ∧ (∀ m, most = some m → k ≤ least + (m - least)) ∧ Hops R k i j) := by
  intro s hs
  simp only [iterate_eq]
  obtain ⟨h1, h2⟩ := hf.iterate least s hs
  obtain ⟨h3, h4⟩ := hf.reach ((most.map (· - least)).getD (n + 1)) (f^[least] s) h2
  refine ⟨fun j => ?_, h4⟩
  simp only [h3, h1]
  constructor
  · rintro ⟨m, ⟨i, hi, hm⟩, l, hl, h⟩
    refine ⟨i, hi, least + l, by omega, fun b hb => ?_, hops_add.2 ⟨m, hm, h⟩⟩
    subst hb
    simpa using hl
  · rintro ⟨i, hi, k, hk, hm, h⟩
    obtain ⟨l, rfl⟩ := Nat.exists_eq_add_of_le hk
    obtain ⟨m, hm', h⟩ := hops_add.1 h
    refine ⟨m, ⟨i, hi, hm'⟩, ?_⟩
    cases most with
    | some b => exact ⟨l, by have := hm b rfl; simp only [Option.map_some, Option.getD_some]; omega, h⟩
    | none =>
      -- no more copies are needed than there are positions, so the rounds are enough for them
      obtain ⟨hmj, l', hl', h'⟩ := hops_short (fun i j h => (hR i j h).1) h
      have hj : j ≤ n ∨ j = m := by
        cases l' with
        | zero => exact .inr h'.symm
        | succ l' =>
          obtain ⟨m', -, hlast⟩ := hops_add.1 (h' : Hops R (l' + 1) m j)
          obtain ⟨_, hlast, rfl⟩ := hlast
          exact .inl (hR _ _ hlast).2
      refine ⟨l', ?_, h'⟩
      simp only [Option.map_none, Option.getD_none]
      omega

/-! ## The search -/

/-- Running the plan of a node follows its spans. -/
theorem follows_run (text : List Char) : ∀ node : Node,
    Follows text.length ((node.plan text).run text.length) (node.Spans text)
  | .empty => fun s hs => ⟨fun j => by
      simp only [Node.plan, Plan.run, spans_empty]
      constructor
      · intro h; exact ⟨j, h, rfl, hs j h⟩
      · rintro ⟨i, hi, rfl, -⟩; exact hi, hs⟩
  | .set cs => fun s hs => by
    have hbit : ∀ j, ((s &&& charPositions cs text) <<< 1).testBit j = true ↔
        ∃ i, s.testBit i = true ∧ (Node.set cs).Spans text i j := by
      intro j
      simp only [Nat.testBit_shiftLeft, Nat.testBit_and, Bool.and_eq_true, decide_eq_true_eq, spans_set,
        testBit_charPositions]
      constructor
      · rintro ⟨hj, hb, hc⟩; exact ⟨j - 1, hb, by omega, hc⟩
      · rintro ⟨i, hb, rfl, hc⟩; exact ⟨by omega, hb, hc⟩
    exact ⟨hbit, fun j hj => by obtain ⟨i, -, h⟩ := (hbit j).1 hj; exact h.le.2⟩
  | .look l => fun s hs => by
    have hbit : ∀ j, (s &&& lookPositions l none text).testBit j = true ↔
        ∃ i, s.testBit i = true ∧ (Node.look l).Spans text i j := by
      intro j
      have hpos := testBit_lookPositions l text [] j
      simp only [List.getLast?_nil, List.nil_append] at hpos
      simp only [Nat.testBit_and, Bool.and_eq_true, spans_look, hpos]
      constructor
      · rintro ⟨hb, hj, hl⟩; exact ⟨j, hb, rfl, hj, hl⟩
      · rintro ⟨i, hb, rfl, hj, hl⟩; exact ⟨hb, hj, hl⟩
    exact ⟨hbit, fun j hj => by obtain ⟨i, -, h⟩ := (hbit j).1 hj; exact h.le.2⟩
  | .cat m n => fun s hs => by
    obtain ⟨h1, h2⟩ := follows_run text m s hs
    obtain ⟨h3, h4⟩ := follows_run text n _ h2
    refine ⟨fun j => ?_, h4⟩
    simp only [Node.plan, Plan.run, h3, h1, spans_cat]
    constructor
    · rintro ⟨k, ⟨i, hi, hm⟩, hn⟩; exact ⟨i, hi, k, hm, hn⟩
    · rintro ⟨i, hi, k, hm, hn⟩; exact ⟨k, ⟨i, hi, hm⟩, hn⟩
  | .alt m n => fun s hs => by
    obtain ⟨h1, h2⟩ := follows_run text m s hs
    obtain ⟨h3, h4⟩ := follows_run text n s hs
    have hbit : ∀ j, ((m.plan text).run text.length s ||| (n.plan text).run text.length s).testBit j = true ↔
        ∃ i, s.testBit i = true ∧ (Node.alt m n).Spans text i j := by
      intro j
      simp only [Nat.testBit_or, Bool.or_eq_true, h1, h3, spans_alt]
      constructor
      · rintro (⟨i, hi, h⟩ | ⟨i, hi, h⟩)
        · exact ⟨i, hi, .inl h⟩
        · exact ⟨i, hi, .inr h⟩
      · rintro ⟨i, hi, h | h⟩
        · exact .inl ⟨i, hi, h⟩
        · exact .inr ⟨i, hi, h⟩
    exact ⟨hbit, fun j hj => by obtain ⟨i, -, h⟩ := (hbit j).1 hj; exact h.le.2⟩
  | .repeated body least most => fun s hs => by
    obtain ⟨h1, h2⟩ := (follows_run text body).repeated (fun _ _ h => h.le) least most s hs
    refine ⟨fun j => (h1 j).trans (exists_congr fun i => and_congr_right fun hi => ?_), h2⟩
    exact (spans_repeated (hs i hi)).symm
  | .capture body => follows_run text body

/-- The search finds a match exactly if the node matches some stretch of the text. -/
theorem search_iff (node : Node) (text : List Char) : node.search text = true ↔
    ∃ before word after, text = before ++ word ++ after ∧ node.Matches before word after := by
  obtain ⟨hrun, -⟩ := follows_run text node (allPositions text)
    fun i h => (testBit_allPositions text i).1 h
  have hne : ∀ {x : Nat}, (x != 0) = true ↔ ∃ i, x.testBit i = true := by
    intro x
    rw [bne_iff_ne]
    constructor
    · exact Nat.exists_testBit_of_ne_zero
    · rintro ⟨i, hi⟩ rfl; simp at hi
  unfold Node.search
  rw [hne]
  simp only [hrun, testBit_allPositions]
  constructor
  · rintro ⟨j, i, -, b, w, a, ht, -, -, hm⟩; exact ⟨b, w, a, ht, hm⟩
  · rintro ⟨b, w, a, ht, hm⟩
    exact ⟨_, b.length, by rw [ht]; simp, b, w, a, ht, rfl, rfl, hm⟩

end RouteTable.Pattern
