/-
What a step of the parser can do. Outside classes it opens or closes something, repeats the last item, or adds an item
(`Steps`); in a class it changes the classes that are open and nothing else, until the last of them is closed
(`stepClass_cases`). What all steps keep is then shown for each of these once, and never along their definition.
-/
import RouteTable.Proofs.Pattern.Reading

namespace RouteTable.Pattern

open Unicode

namespace Parser

variable {st st' : Parser} {c : Char} {rest : List Char} {k : Nat}

theorem taken_le (rest left : List Char) : taken rest left ≤ rest.length := Nat.sub_le ..

/-! ## Outside classes -/

/-- What a step outside classes does at a character before `rest`: the state it leads to and the number of further
characters that it takes. -/
inductive Steps (st : Parser) (rest : List Char) : Char → Parser → Nat → Prop
  | opens {o : Opening} {left : List Char} {st' : Parser} (ho : opening st.verbose rest = .ok (o, left))
      (hst : st.openGroup o = .ok st') : Steps st rest '(' st' (taken rest left)
  | closes {st' : Parser} (hst : st.leave = .ok st') : Steps st rest ')' st' 0
  | branches : Steps st rest '|' st.branch 0
  | beginsClass : Steps st rest '[' { st with classes := [{}] } 0
  | repeats {c : Char} {least : Nat} {most : Option Nat} {st' : Parser} (hc : c ≠ '^' ∧ c ≠ '$')
      (hst : st.repeatLast least most = .ok st') : Steps st rest c st' (taken rest (dropLazyMark rest))
  | counted {least : Nat} {most : Option Nat} {left : List Char} {st' : Parser}
      (hcounts : counts st.verbose rest = .ok ((least, most), left)) (hst : st.repeatLast least most = .ok st') :
      Steps st rest '\x7b' st' (taken rest (dropLazyMark (gap st.verbose left)))
  | escapes {e : Escape} {left : List Char} (he : escape st.verbose rest = .ok (e, left)) :
      Steps st rest '\\' (st.push e.toExpr) (taken rest left)
  | dot : Steps st rest '.' (st.push .dot) 0
  | lineStart : Steps st rest '^' (st.push (.assertion .lineStart)) 0
  | lineEnd : Steps st rest '$' (st.push (.assertion .lineEnd)) 0
  | literal {c : Char} (hc : c ≠ '^' ∧ c ≠ '$') : Steps st rest c (st.push (.literal ⟨c, false⟩)) 0

theorem stepItem_cases (h : st.stepItem c rest = .ok (st', k)) : Steps st rest c st' k := by
  unfold stepItem at h
  split at h
  · obtain ⟨⟨o, left⟩, ho, h⟩ := bind_eq_ok.1 h
    obtain ⟨st₁, hst, h⟩ := bind_eq_ok.1 h
    cases h
    exact .opens ho hst
  · obtain ⟨st₁, hst, h⟩ := bind_eq_ok.1 h
    cases h
    exact .closes hst
  · cases h
    exact .branches
  · cases h
    exact .beginsClass
  iterate 3
    · obtain ⟨st₁, hst, h⟩ := bind_eq_ok.1 h
      cases h
      exact .repeats (by decide) hst
  · obtain ⟨⟨⟨least, most⟩, left⟩, hcounts, h⟩ := bind_eq_ok.1 h
    obtain ⟨st₁, hst, h⟩ := bind_eq_ok.1 h
    cases h
    exact .counted hcounts hst
  · obtain ⟨⟨e, left⟩, he, h⟩ := bind_eq_ok.1 h
    cases h
    exact .escapes he
  · cases h
    exact .dot
  · cases h
    exact .lineStart
  · cases h
    exact .lineEnd
  · rename_i hcaret hdollar
    cases h
    exact .literal ⟨hcaret, hdollar⟩

theorem stepItem_le (h : st.stepItem c rest = .ok (st', k)) : k ≤ rest.length := by
  cases stepItem_cases h with
  | opens | repeats | counted | escapes => exact taken_le ..
  | closes | branches | beginsClass | dot | lineStart | lineEnd | literal => exact Nat.zero_le _

/-! ## In a class -/

/-- A step in a class changes the classes that are open, or closes the innermost. -/
theorem stepClass_cases {level : ClassLevel} {outer : List ClassLevel}
    (h : st.stepClass level outer c rest = .ok (st', k)) :
    (∃ first classes, st' = { st with classes := first :: classes } ∧ k ≤ rest.length) ∨
      c = ']' ∧ k = 0 ∧ ∃ level', st' = st.leaveClass level' outer := by
  have hitem : ∀ {l : ClassLevel},
      (classItem st.verbose c rest >>= fun r =>
        .ok (({ st with classes := l.push r.1 :: outer } : Parser), taken rest r.2)) = .ok (st', k) →
      ∃ first classes, st' = { st with classes := first :: classes } ∧ k ≤ rest.length := by
    intro l h
    obtain ⟨_, -, h⟩ := bind_eq_ok.1 h
    cases h
    exact ⟨_, _, rfl, taken_le ..⟩
  unfold stepClass stepBody at h
  dsimp only at h
  split at h
  · cases h
    exact .inl ⟨_, _, rfl, Nat.zero_le _⟩
  split at h
  · cases h
    exact .inl ⟨_, _, rfl, Nat.zero_le _⟩
  split at h
  · cases h
    exact .inl ⟨_, _, rfl, Nat.zero_le _⟩
  split at h
  · split at h
    · cases h
      exact .inl ⟨_, _, rfl, taken_le ..⟩
    · cases h
      exact .inl ⟨_, _, rfl, Nat.zero_le _⟩
  · cases h
    exact .inr ⟨rfl, rfl, _, rfl⟩
  iterate 3
    · split at h
      · obtain ⟨left, rfl⟩ := List.head?_eq_some_iff.1 ‹rest.head? = some _›
        cases h
        exact .inl ⟨_, _, rfl, Nat.succ_le_succ (Nat.zero_le _)⟩
      · exact .inl (hitem h)
  · exact .inl (hitem h)

/-! ## Anywhere -/

/-- The parser stands outside classes and comments. -/
structure Reads (st : Parser) : Prop where
  classes : st.classes = []
  inComment : st.inComment = false

/-- A step passes over a blank or a character of a comment, or it reads an item, or a character of a class. -/
theorem step_cases (h : st.step c rest = .ok (st', k)) :
    (∃ inComment, st' = { st with inComment } ∧ k = 0 ∧ (st.inComment = true ∨ isWhiteSpace c = true ∨ c = '#')) ∨
    (st.Reads ∧ st.stepItem c rest = .ok (st', k)) ∨
    ∃ level outer, st.classes = level :: outer ∧ st.stepClass level outer c rest = .ok (st', k) := by
  unfold step at h
  split at h
  · rename_i hcomment
    cases h
    exact .inl ⟨_, rfl, rfl, .inl hcomment⟩
  rename_i hcomment
  split at h
  · rename_i hblank
    cases h
    exact .inl ⟨st.inComment, rfl, rfl, .inr (.inl (Bool.and_eq_true_iff.1 hblank).2)⟩
  split at h
  · rename_i hhash
    cases h
    exact .inl ⟨true, rfl, rfl, .inr (.inr (of_decide_eq_true (Bool.and_eq_true_iff.1 hhash).2))⟩
  split at h
  · exact .inr (.inl ⟨⟨‹_›, Bool.eq_false_iff.2 hcomment⟩, h⟩)
  · exact .inr (.inr ⟨_, _, ‹_›, h⟩)

/-- A step takes no more than there is. -/
theorem step_le (h : st.step c rest = .ok (st', k)) : k ≤ rest.length := by
  rcases step_cases h with ⟨inComment, -, rfl, -⟩ | ⟨-, h⟩ | ⟨level, outer, -, h⟩
  · exact Nat.zero_le _
  · exact stepItem_le h
  · rcases stepClass_cases h with ⟨first, classes, -, hk⟩ | ⟨-, rfl, -⟩
    · exact hk
    · exact Nat.zero_le _

end Parser

end RouteTable.Pattern
