/-
Where the anchors of a pattern stand. The parser goes through a text step by step, and `Comes` says which places
it comes to. A step adds a condition `^` or `$` exactly if it is taken at this character outside classes and
comments (`step_anchored`). So a pattern has an anchor exactly if the parser comes to one (`anchored_iff_comes`):
escaped characters, members of classes and the text of comments are passed over, or read in another way.
-/
import RouteTable.Proofs.Pattern.Embedding

namespace RouteTable.Pattern

open Unicode

/-! ## Anchors in a pattern -/

/-- The condition `^` or `$` occurs in the pattern. -/
def Expr.anchored : Expr → Bool
  | .assertion a => a = .lineStart || a = .lineEnd
  | .repeated body _ _ => body.anchored
  | .group _ _ body => body.anchored
  | .cat first rest => first.anchored || rest.anchored
  | .alt first rest => first.anchored || rest.anchored
  | _ => false

/-- The text is a pattern in which an anchor occurs. -/
def Anchored (pattern : String) : Prop := ∃ e, parse pattern = .ok e ∧ e.anchored = true

theorem anchored_ofItems : ∀ items : List Expr, (Expr.ofItems items).anchored = items.any Expr.anchored
  | [] => rfl
  | [e] => by simp [Expr.ofItems]
  | e :: e' :: es => by
    have hcons : Expr.ofItems (e :: e' :: es) = .cat e (Expr.ofItems (e' :: es)) := rfl
    simp only [hcons, Expr.anchored, anchored_ofItems (e' :: es), List.any_cons]

theorem anchored_ofBranches : ∀ branches : List Expr,
    (Expr.ofBranches branches).anchored = branches.any Expr.anchored
  | [] => rfl
  | [e] => by simp [Expr.ofBranches]
  | e :: e' :: es => by
    have hcons : Expr.ofBranches (e :: e' :: es) = .alt e (Expr.ofBranches (e' :: es)) := rfl
    simp only [hcons, Expr.anchored, anchored_ofBranches (e' :: es), List.any_cons]

def GroupLevel.anchored (l : GroupLevel) : Bool := l.branches.any Expr.anchored || l.items.any Expr.anchored

theorem GroupLevel.anchored_finish (l : GroupLevel) : l.finish.anchored = l.anchored := by
  rw [finish, anchored_ofBranches, List.any_reverse, List.any_cons, anchored_ofItems, List.any_reverse, Bool.or_comm]
  rfl

/-! ## What an escape is -/

section Escapes

variable {verbose negated : Bool} {width : Nat} {cs left : List Char} {e : Escape}

theorem codePoint_cases (h : codePoint verbose width cs = .ok (e, left)) : (∃ l, e = .literal l) ∧
    ((∃ inner digits, gap verbose cs = '\x7b' :: inner ∧ braced verbose false inner = .ok (digits, left)) ∨
      ∃ n, hexDigits verbose 0 width (gap verbose cs) = .ok (n, left)) := by
  unfold codePoint at h
  dsimp only at h
  split at h
  · rename_i inner hgap
    obtain ⟨⟨digits, left₁⟩, hb, h⟩ := bind_eq_ok.1 h
    dsimp only [bind, Except.bind] at h
    split at h
    · dsimp only [pure, Except.pure] at h
      split at h
      · cases h
        exact ⟨⟨_, rfl⟩, .inl ⟨inner, digits, hgap, hb⟩⟩
      · cases h
    · cases h
  · obtain ⟨⟨n, left₁⟩, hx, h⟩ := bind_eq_ok.1 h
    dsimp only [pure, Except.pure, bind, Except.bind] at h
    split at h
    · cases h
      exact ⟨⟨_, rfl⟩, .inr ⟨n, hx⟩⟩
    · cases h

theorem property_cases (h : property verbose negated cs = .ok (e, left)) :
    (∃ name negated', e = .property name negated') ∧
    ((∃ inner name, gap verbose cs = '\x7b' :: inner ∧ braced verbose false inner = .ok (name, left)) ∨
      ∃ c, c ≠ '\\' ∧ gap verbose cs = c :: left ∧ e = .property (.single (String.singleton c)) negated) := by
  unfold property at h
  split at h
  · cases h
  · rename_i inner hgap
    obtain ⟨⟨name, left₁⟩, hb, h⟩ := bind_eq_ok.1 h
    cases h
    refine ⟨?_, .inl ⟨inner, name, hgap, hb⟩⟩
    unfold namedProperty
    dsimp only
    split
    · exact ⟨_, _, rfl⟩
    · split <;> exact ⟨_, _, rfl⟩
  · cases h
  · rename_i c left₁ hbrace hbackslash hgap
    cases h
    exact ⟨⟨_, _, rfl⟩, .inr ⟨c, hbackslash, hgap, rfl⟩⟩

theorem boundary_cases (h : boundary verbose cs = .ok (e, left)) : e.toExpr.anchored = false ∧
    (left = cs ∨ ∃ inner name, cs = '\x7b' :: inner ∧ braced verbose false inner = .ok (name, left)) := by
  unfold boundary at h
  split at h
  · rename_i inner
    split at h
    · cases h
    · split at h
      · obtain ⟨⟨name, left₁⟩, hb, h⟩ := bind_eq_ok.1 h
        dsimp only at h
        split at h <;> cases h <;> exact ⟨rfl, .inr ⟨inner, name, rfl, hb⟩⟩
      · cases h
        exact ⟨rfl, .inl rfl⟩
  · cases h
    exact ⟨rfl, .inl rfl⟩

/-- What follows a backslash: a code point, a property, a boundary, or a single character. -/
theorem escape_cases (h : escape verbose cs = .ok (e, left)) : ∃ c more, cs = c :: more ∧
    ((∃ width, 0 < width ∧ codePoint verbose width more = .ok (e, left)) ∨
      (∃ negated, property verbose negated more = .ok (e, left)) ∨ boundary verbose more = .ok (e, left) ∨
      left = more ∧ e.toExpr.anchored = false) := by
  cases cs with
  | nil => cases h
  | cons c more =>
    refine ⟨c, more, rfl, ?_⟩
    unfold escape at h
    dsimp only at h
    split at h
    all_goals first
      | exact .inl ⟨_, by decide, h⟩
      | exact .inr (.inl ⟨_, h⟩)
      | exact .inr (.inr (.inl h))
      | (cases h; exact .inr (.inr (.inr ⟨rfl, rfl⟩)))
      | skip
    split at h
    · cases h
      exact .inr (.inr (.inr ⟨rfl, rfl⟩))
    · cases h

end Escapes

namespace Parser

variable {st st' st₁ st₂ t : Parser} {c : Char} {rest rest' text : List Char} {k : Nat}

/-- An anchor has been read. -/
def anchored (st : Parser) : Bool := st.level.anchored || st.enclosing.any (·.level.anchored)

/-! ## What a step adds -/

theorem anchored_push (st : Parser) (e : Expr) : (st.push e).anchored = (e.anchored || st.anchored) := by
  simp only [anchored, push, GroupLevel.push, GroupLevel.anchored, List.any_cons]
  ac_rfl

theorem repeatLast_anchored {least : Nat} {most : Option Nat} (h : st.repeatLast least most = .ok st') :
    st'.anchored = st.anchored := by
  unfold repeatLast at h
  split at h
  · cases h
  · cases h
  · rename_i e es _ hitems
    cases h
    simp only [anchored, GroupLevel.anchored, hitems, List.any_cons, Expr.anchored]

theorem openGroup_anchored {o : Opening} (h : st.openGroup o = .ok st') : st'.anchored = st.anchored := by
  have henter : ∀ capturing settings, (st.enter capturing settings).anchored = st.anchored := by
    intro capturing settings
    simp only [anchored, enter, GroupLevel.anchored, List.any_cons, List.any_nil, Bool.false_or]
  unfold openGroup at h
  split at h
  · cases h; exact henter ..
  · split at h
    · cases h
    · cases h; exact henter ..
  · cases h; exact henter ..
  · cases h; exact anchored_push st _

theorem leave_anchored (h : st.leave = .ok st') : st'.anchored = st.anchored := by
  unfold leave at h
  split at h
  · cases h
  · rename_i e outer henclosing
    cases h
    simp only [anchored, GroupLevel.push, GroupLevel.anchored, List.any_cons, Expr.anchored, GroupLevel.anchored_finish,
      henclosing]
    ac_rfl

/-- No escape stands for an anchor: those that are conditions ask for the ends of the text or of a word. -/
theorem escape_anchored {verbose : Bool} {cs left : List Char} {e : Escape} (h : escape verbose cs = .ok (e, left)) :
    e.toExpr.anchored = false := by
  obtain ⟨d, more, -, h⟩ := escape_cases h
  rcases h with ⟨width, -, h⟩ | ⟨negated, h⟩ | h | ⟨-, h⟩
  · obtain ⟨⟨l, rfl⟩, -⟩ := codePoint_cases h
    rfl
  · obtain ⟨⟨name, negated', rfl⟩, -⟩ := property_cases h
    rfl
  · exact (boundary_cases h).1
  · exact h

theorem stepItem_anchored (h : st.stepItem c rest = .ok (st', k)) :
    st'.anchored = true ↔ st.anchored = true ∨ c = '^' ∨ c = '$' := by
  cases stepItem_cases h with
  | opens ho hst => simp [openGroup_anchored hst]
  | closes hst => simp [leave_anchored hst]
  | branches => simp [branch, anchored, GroupLevel.anchored, anchored_ofItems, or_comm]
  | beginsClass => simp [anchored]
  | repeats hc hst => simp [repeatLast_anchored hst, hc]
  | counted hcounts hst => simp [repeatLast_anchored hst]
  | escapes he => simp [anchored_push, escape_anchored he]
  | dot | lineStart | lineEnd => simp [anchored_push, Expr.anchored]
  | literal hc => simp [anchored_push, Expr.anchored, hc]

theorem stepClass_anchored {level : ClassLevel} {outer : List ClassLevel}
    (h : st.stepClass level outer c rest = .ok (st', k)) : st'.anchored = st.anchored := by
  rcases stepClass_cases h with ⟨first, classes, rfl, -⟩ | ⟨-, -, level', rfl⟩
  · rfl
  · unfold leaveClass
    split
    · exact anchored_push st _
    · rfl

/-- A step adds an anchor exactly if it is taken at one. -/
theorem step_anchored (h : st.step c rest = .ok (st', k)) :
    st'.anchored = true ↔ st.anchored = true ∨ st.Reads ∧ (c = '^' ∨ c = '$') := by
  rcases step_cases h with ⟨inComment, rfl, -, hpassed⟩ | ⟨hreads, h⟩ | ⟨level, outer, hclasses, h⟩
  · refine ⟨.inl, fun h => h.resolve_right ?_⟩
    rintro ⟨hreads, hc⟩
    rcases hpassed with hcomment | hblank | rfl
    · rw [hreads.inComment] at hcomment
      cases hcomment
    · rcases hc with rfl | rfl <;> exact absurd hblank (by decide)
    · rcases hc with hc | hc <;> cases hc
  · rw [stepItem_anchored h]
    exact or_congr_right (iff_and_self.2 fun _ => hreads)
  · rw [stepClass_anchored h]
    refine ⟨.inl, fun h => h.resolve_right fun h => ?_⟩
    rw [h.1.classes] at hclasses
    cases hclasses

/-! ## The places that the parser comes to -/

/-- Reading a text step by step, the parser comes in a state to the rest of the text. -/
inductive Comes : Parser → List Char → Parser → List Char → Prop
  | here (st : Parser) (text : List Char) : Comes st text st text
  | step {st st₁ st' : Parser} {c : Char} {more taken text rest : List Char} (hmore : more = taken ++ text)
      (hstep : st.step c more = .ok (st₁, taken.length)) (hnext : Comes st₁ text st' rest) :
      Comes st (c :: more) st' rest

theorem Comes.advance (h : Comes st text st' rest) : st.advance 0 text = st'.advance 0 rest := by
  induction h with
  | here => rfl
  | step hmore hstep _ ih =>
    subst hmore
    rw [advance_of_step_append hstep, ih]

/-- From the beginning of a text the parser comes to where its first step leads, and from there on. -/
theorem comes_cons_iff {taken : List Char} (hstep : st.step c (taken ++ text) = .ok (st₁, taken.length)) :
    Comes st (c :: (taken ++ text)) st' rest ↔ st' = st ∧ rest = c :: (taken ++ text) ∨ Comes st₁ text st' rest := by
  constructor
  · intro h
    cases h with
    | here => exact .inl ⟨rfl, rfl⟩
    | step hmore hstep' hnext =>
      rw [hstep] at hstep'
      simp only [Except.ok.injEq, Prod.mk.injEq] at hstep'
      obtain ⟨rfl, hlen⟩ := hstep'
      obtain ⟨-, rfl⟩ := List.append_inj hmore hlen
      exact .inr hnext
  · rintro (⟨rfl, rfl⟩ | h)
    · exact .here ..
    · exact .step rfl hstep h

/-- The first step of a text that is read. -/
theorem exists_first_step (h : st.advance 0 (c :: rest) = .ok t) : ∃ st₁ taken text, rest = taken ++ text ∧
    st.step c (taken ++ text) = .ok (st₁, taken.length) ∧ st₁.advance 0 text = .ok t := by
  obtain ⟨⟨st₁, k⟩, hstep, h⟩ := bind_eq_ok.1 h
  have hlen : (rest.take k).length = k := by rw [List.length_take, Nat.min_eq_left (step_le hstep)]
  refine ⟨st₁, rest.take k, rest.drop k, (List.take_append_drop ..).symm, ?_, ?_⟩
  · rw [List.take_append_drop, hlen]
    exact hstep
  · rw [← advance_skip st₁ (rest.take k), List.take_append_drop, hlen]
    exact h

/-- What holds at the end of a text, and before each step if it holds behind it, holds at the beginning. -/
theorem read_induction {motive : Parser → List Char → Prop} (hend : motive t [])
    (hback : ∀ {st st₁ : Parser} {c : Char} {taken text : List Char},
      st.step c (taken ++ text) = .ok (st₁, taken.length) → st₁.advance 0 text = .ok t → motive st₁ text →
        motive st (c :: (taken ++ text))) :
    ∀ (text : List Char) {st : Parser}, st.advance 0 text = .ok t → motive st text
  | [], _, h => by
    cases h
    exact hend
  | c :: more, st, h => by
    obtain ⟨st₁, taken, text, hmore, hstep, hlater⟩ := exists_first_step h
    have : text.length < (c :: more).length := by
      rw [hmore, List.length_cons, List.length_append]
      omega
    have ih := read_induction hend hback text hlater
    subst hmore
    exact hback hstep hlater ih
termination_by text => text.length

/-- An anchor has been read exactly if there was one before, or the parser came to one. -/
theorem anchored_iff_comes (h : st.advance 0 text = .ok t) : t.anchored = true ↔ st.anchored = true ∨
    ∃ st' c rest, Comes st text st' (c :: rest) ∧ st'.Reads ∧ (c = '^' ∨ c = '$') := by
  refine read_induction (motive := fun st text => t.anchored = true ↔ st.anchored = true ∨
    ∃ st' c rest, Comes st text st' (c :: rest) ∧ st'.Reads ∧ (c = '^' ∨ c = '$')) ?_ ?_ text h
  · refine ⟨.inl, fun h => h.resolve_right ?_⟩
    rintro ⟨st', c, rest, hcomes, -⟩
    cases hcomes
  · intro st st₁ c taken text hstep _ ih
    simp only [comes_cons_iff hstep]
    rw [ih, step_anchored hstep, or_assoc]
    refine or_congr_right ⟨?_, ?_⟩
    · rintro (⟨hreads, hc⟩ | ⟨st', d, rest, hcomes, hd⟩)
      · exact ⟨st, c, _, .inl ⟨rfl, rfl⟩, hreads, hc⟩
      · exact ⟨st', d, rest, .inr hcomes, hd⟩
    · rintro ⟨st', d, rest, ⟨rfl, heq⟩ | hcomes, hd⟩
      · cases heq
        exact .inl hd
      · exact .inr ⟨st', d, rest, hcomes, hd⟩

end Parser

/-- The parser comes to the rest of the pattern, and stands there outside classes and comments. -/
def Stands (pattern : String) (rest : List Char) : Prop :=
  ∃ st, Parser.Comes {} pattern.toList st rest ∧ st.Reads

/-- A pattern has an anchor exactly if the parser comes to one outside classes and comments. -/
theorem anchored_iff_stands {pattern : String} {e : Expr} (h : parse pattern = .ok e) :
    Anchored pattern ↔ ∃ c rest, Stands pattern (c :: rest) ∧ (c = '^' ∨ c = '$') := by
  obtain ⟨t, ht, -, hopen, rfl, -⟩ := parse_eq_ok.1 h
  have hanchored : Anchored pattern ↔ t.anchored = true := by
    rw [Parser.anchored, hopen, ← GroupLevel.anchored_finish, List.any_nil, Bool.or_false]
    exact ⟨fun ⟨e, he, ha⟩ => by rw [h] at he; cases he; exact ha, fun ha => ⟨_, h, ha⟩⟩
  rw [hanchored, Parser.anchored_iff_comes ht]
  constructor
  · rintro (hnone | ⟨st, c, rest, hcomes, hreads, hc⟩)
    · cases hnone
    · exact ⟨c, rest, ⟨st, hcomes, hreads⟩, hc⟩
  · rintro ⟨c, rest, ⟨st, hcomes, hreads⟩, hc⟩
    exact .inr ⟨st, c, rest, hcomes, hreads, hc⟩

end RouteTable.Pattern
