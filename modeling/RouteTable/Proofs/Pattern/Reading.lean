/-
Reading a pattern piece by piece. A text that stands outside classes, where white space counts, and
that leaves nothing open adds items to the branch it stands in: `Yields text items`. Such texts can
be put one after the other (`Yields.append`), and a pattern made of them is the sequence of their
items (`parse_of_yields`). The pieces here are the ones that routes are put together from: text
without special characters, anchors, the default patterns, and alternations in a group.
-/
import RouteTable.Pattern
import Mathlib.Data.List.Basic

namespace RouteTable.Pattern

variable {α : Type}

theorem bind_eq_ok {β φ : Type} {x : Except φ α} {f : α → Except φ β} {b : β} :
    (x >>= f) = .ok b ↔ ∃ a, x = .ok a ∧ f a = .ok b := by
  cases x <;> simp [bind, Except.bind]

/-- The characters that mean something in a pattern. -/
def metacharacters : List Char :=
  ['\\', '.', '+', '*', '?', '(', ')', '|', '[', ']', '\x7b', '\x7d', '^', '$']

/-- The text stands for itself in a pattern. -/
def Plain (text : List Char) : Prop := ∀ c ∈ text, c ∉ metacharacters

instance (text : List Char) : Decidable (Plain text) :=
  decidable_of_iff (text.all fun c => !metacharacters.contains c) (by simp [Plain])

namespace Parser

/-! ## Steps outside classes -/

/-- The parser stands outside classes, and white space counts. -/
structure Outside (st : Parser) : Prop where
  classes : st.classes = []
  verbose : st.verbose = false
  inComment : st.inComment = false

/-- Adds items to the current branch. -/
def pushAll (st : Parser) (items : List Expr) : Parser :=
  { st with level := { st.level with items := items.reverse ++ st.level.items } }

/-- Goes on to the next branch. -/
def branch (st : Parser) : Parser :=
  { st with level := ⟨.ofItems st.level.items.reverse :: st.level.branches, []⟩ }

/-- The parser with other names taken. -/
def named (st : Parser) (names : List String) : Parser := { st with names }

theorem pushAll_singleton (st : Parser) (e : Expr) : st.pushAll [e] = st.push e := rfl

theorem pushAll_append (st : Parser) (items items' : List Expr) :
    st.pushAll (items ++ items') = (st.pushAll items).pushAll items' := by
  simp [pushAll]

theorem Outside.push {st : Parser} (h : st.Outside) (e : Expr) : (st.push e).Outside :=
  ⟨h.classes, h.verbose, h.inComment⟩

theorem Outside.pushAll {st : Parser} (h : st.Outside) (items : List Expr) :
    (st.pushAll items).Outside :=
  ⟨h.classes, h.verbose, h.inComment⟩

theorem Outside.branch {st : Parser} (h : st.Outside) : st.branch.Outside :=
  ⟨h.classes, h.verbose, h.inComment⟩

theorem Outside.named {st : Parser} (h : st.Outside) (names : List String) : (st.named names).Outside :=
  ⟨h.classes, h.verbose, h.inComment⟩

theorem Outside.enter {st : Parser} (h : st.Outside) : (st.enter false []).Outside :=
  ⟨h.classes, h.verbose, h.inComment⟩

theorem Outside.step {st : Parser} (h : st.Outside) (c : Char) (rest : List Char) :
    st.step c rest = st.stepItem c rest := by
  simp [Parser.step, h.classes, h.verbose, h.inComment]

theorem advance_of_step {st st' : Parser} {c : Char} {rest : List Char} {k : Nat}
    (h : st.step c rest = .ok (st', k)) : st.advance 0 (c :: rest) = st'.advance k rest := by
  rw [advance, h]; rfl

theorem advance_of_step_error {st : Parser} {c : Char} {rest : List Char} {fault : Fault}
    (h : st.step c rest = .error fault) : st.advance 0 (c :: rest) = .error fault := by
  rw [advance, h]; rfl

theorem advance_skip (st : Parser) : ∀ (pre rest : List Char),
    st.advance pre.length (pre ++ rest) = st.advance 0 rest
  | [], _ => rfl
  | _ :: pre, rest => advance_skip st pre rest

theorem advance_length (st : Parser) (rest : List Char) : st.advance rest.length rest = .ok st := by
  have hskip := advance_skip st rest []
  rwa [List.append_nil] at hskip

@[simp] theorem taken_self (rest : List Char) : taken rest rest = 0 := Nat.sub_self _

@[simp] theorem taken_append (pre rest : List Char) : taken (pre ++ rest) rest = pre.length := by
  simp [taken]

/-- A step may take the characters that `pre` holds beyond the one it stands at. -/
theorem advance_of_step_append {st st' : Parser} {c : Char} {pre rest : List Char}
    (h : st.step c (pre ++ rest) = .ok (st', pre.length)) :
    st.advance 0 (c :: (pre ++ rest)) = st'.advance 0 rest := by
  rw [advance_of_step h, advance_skip]

theorem dropLazyMark_eq {rest : List Char} (h : rest.head? ≠ some '?') : dropLazyMark rest = rest := by
  unfold dropLazyMark
  split
  · simp at h
  · rfl

section Steps

variable {st : Parser} {rest : List Char}

theorem advance_lineStart (h : st.Outside) :
    st.advance 0 ('^' :: rest) = (st.push (.assertion .lineStart)).advance 0 rest :=
  advance_of_step (by rw [h.step]; rfl)

theorem advance_lineEnd (h : st.Outside) :
    st.advance 0 ('$' :: rest) = (st.push (.assertion .lineEnd)).advance 0 rest :=
  advance_of_step (by rw [h.step]; rfl)

theorem advance_bar (h : st.Outside) :
    st.advance 0 ('|' :: rest) = st.branch.advance 0 rest :=
  advance_of_step (by rw [h.step]; rfl)

theorem advance_groupOpen (h : st.Outside) :
    st.advance 0 ('(' :: '?' :: ':' :: rest) = (st.enter false []).advance 0 rest := by
  have hstep : st.step '(' (['?', ':'] ++ rest) = .ok (st.enter false [], 2) := by
    rw [h.step]
    simp [stepItem, opening, gap, h.verbose, flagSettings, openGroup, bind, Except.bind, pure, Except.pure, taken]
    omega
  exact advance_of_step_append hstep

/-- A parenthesis closes a group also where white space is skipped. -/
theorem advance_groupClose {e : Enclosing} {outer : List Enclosing} (hclasses : st.classes = [])
    (hcomment : st.inComment = false) (he : st.enclosing = e :: outer) :
    st.advance 0 (')' :: rest) =
      ({ st with
        level := e.level.push (.group e.capturing e.settings st.level.finish)
        enclosing := outer
        verbose := e.verbose } : Parser).advance 0 rest := by
  have hblank : Unicode.isWhiteSpace ')' = false := by decide
  refine advance_of_step ?_
  simp [step, hclasses, hcomment, hblank, stepItem, leave, he, bind, Except.bind, pure, Except.pure]

/-- One or more characters other than a slash. -/
def notSlashes : Expr := .repeated (.bracketed true (.literal ⟨'/', false⟩)) 1 none

theorem advance_notSlashes (h : st.Outside) (hr : rest.head? ≠ some '?') :
    st.advance 0 ('[' :: '^' :: '/' :: ']' :: '+' :: rest) = (st.push notSlashes).advance 0 rest := by
  obtain ⟨level, enclosing, classes, names, verbose, inComment⟩ := st
  obtain ⟨rfl, rfl, rfl⟩ : classes = [] ∧ verbose = false ∧ inComment = false := ⟨h.1, h.2, h.3⟩
  simp [advance, step, stepItem, stepClass, stepBody, classItem, classAtom, gap, Escape.toItem, leaveClass,
    repeatLast, dropLazyMark_eq hr, bind, Except.bind, pure, Except.pure, ClassLevel.push, ClassLevel.finish,
    ClassExpr.ofItems, push, GroupLevel.push, notSlashes]

/-- A character that stands for itself. -/
theorem stepItem_plain {c : Char} (hc : c ∉ metacharacters) :
    st.stepItem c rest = .ok (st.push (.literal ⟨c, false⟩), 0) := by
  unfold stepItem
  split <;> first | rfl | exact absurd (by decide) hc

theorem advance_plain : ∀ {text : List Char} {st : Parser}, st.Outside → Plain text →
    st.advance 0 (text ++ rest) = (st.pushAll (text.map fun c => .literal ⟨c, false⟩)).advance 0 rest
  | [], _, _, _ => rfl
  | c :: text, st, h, hp => by
    have hstep : st.step c (text ++ rest) = .ok (st.push (.literal ⟨c, false⟩), 0) := by
      rw [h.step, stepItem_plain (hp c (List.mem_cons_self ..))]
    rw [List.cons_append, advance_of_step hstep,
      advance_plain (h.push _) fun d hd => hp d (List.mem_cons_of_mem _ hd), List.map_cons,
      ← List.singleton_append, pushAll_append, pushAll_singleton]

/-- A group that is closed where it began to be read. -/
theorem enter_groupClose {level : GroupLevel} {names : List String} (h : st.Outside) :
    ({ st.enter false [] with level, names } : Parser).advance 0 (')' :: rest) =
      ((st.push (.group false [] level.finish)).named names).advance 0 rest := by
  have hclasses : ({ st.enter false [] with level, names } : Parser).classes = [] := h.classes
  exact advance_groupClose hclasses h.inComment rfl

/-- A dot and then one or more characters other than a slash, or nothing. -/
def optionalSuffix : Expr :=
  .repeated (.group false [] (.cat (.literal ⟨'.', false⟩) notSlashes)) 0 (some 1)

theorem advance_optionalSuffix (h : st.Outside) (hr : rest.head? ≠ some '?') :
    st.advance 0 ("(?:\\.[^/]+)?".toList ++ rest) = (st.push optionalSuffix).advance 0 rest := by
  have htext : "(?:\\.[^/]+)?".toList ++ rest =
      '(' :: '?' :: ':' :: '\\' :: '.' :: ('[' :: '^' :: '/' :: ']' :: '+' :: ')' :: '?' :: rest) := rfl
  have hdot : (st.enter false []).step '\\' ('.' :: ('[' :: '^' :: '/' :: ']' :: '+' :: ')' :: '?' :: rest)) =
      .ok ((st.enter false []).push (.literal ⟨'.', false⟩), 1) := by
    rw [h.enter.step]
    simp [stepItem, escape, isEscapable, Escape.toExpr, bind, Except.bind, pure, Except.pure, taken]
  have hmark : (st.push (.group false [] (.cat (.literal ⟨'.', false⟩) notSlashes))).step '?' rest =
      .ok (st.push optionalSuffix, 0) := by
    rw [(h.push _).step]
    simp [stepItem, repeatLast, push, GroupLevel.push, dropLazyMark_eq hr, optionalSuffix, bind, Except.bind,
      pure, Except.pure]
  rw [htext, advance_groupOpen h, advance_of_step hdot]
  rw [show ∀ st' : Parser, st'.advance 1 ('.' :: ('[' :: '^' :: '/' :: ']' :: '+' :: ')' :: '?' :: rest)) =
    st'.advance 0 ('[' :: '^' :: '/' :: ']' :: '+' :: ')' :: '?' :: rest) from fun _ => rfl]
  rw [advance_notSlashes (h.enter.push _) (by simp)]
  exact (enter_groupClose h).trans (advance_of_step hmark)

end Steps

/-! ## Texts that add items -/

/-- Outside classes and before anything but a question mark, the text adds the items to the current
branch, if it is read at all. -/
def Yields (text : List Char) (items : List Expr) : Prop :=
  text.head? ≠ some '?' ∧
    ∀ {st t : Parser} {rest : List Char}, st.Outside → rest.head? ≠ some '?' →
      st.advance 0 (text ++ rest) = .ok t →
        ∃ names, ((st.pushAll items).named names).advance 0 rest = .ok t

/-- There the text adds the items and does nothing else, so it is read. -/
structure AddsOnly (text : List Char) (items : List Expr) : Prop where
  head : text.head? ≠ some '?'
  reads : ∀ {st : Parser} {rest : List Char}, st.Outside → rest.head? ≠ some '?' →
    st.advance 0 (text ++ rest) = (st.pushAll items).advance 0 rest

theorem AddsOnly.yields {text : List Char} {items : List Expr} (h : AddsOnly text items) : Yields text items :=
  ⟨h.head, fun {st _ _} hst hr ht => ⟨st.names, by rw [h.reads hst hr] at ht; exact ht⟩⟩

theorem AddsOnly.nil : AddsOnly [] [] := ⟨by simp, fun _ _ => rfl⟩

theorem Yields.append {text text' : List Char} {items items' : List Expr} (h : Yields text items)
    (h' : Yields text' items') : Yields (text ++ text') (items ++ items') := by
  refine ⟨?_, fun {st t rest} hst hr ht => ?_⟩
  · cases text with
    | nil => exact h'.1
    | cons c text => exact h.1
  · rw [List.append_assoc] at ht
    have hr' : (text' ++ rest).head? ≠ some '?' := by
      cases text' with
      | nil => exact hr
      | cons c text' => exact h'.1
    obtain ⟨names, ht⟩ := h.2 hst hr' ht
    obtain ⟨names', ht⟩ := h'.2 ((hst.pushAll items).named names) hr ht
    rw [pushAll_append]
    exact ⟨names', ht⟩

theorem Yields.flatMap {text : α → List Char} {items : α → List Expr} : ∀ {l : List α},
    (∀ a ∈ l, Yields (text a) (items a)) → Yields (l.flatMap text) (l.flatMap items)
  | [], _ => AddsOnly.nil.yields
  | a :: l, h => by
    rw [List.flatMap_cons, List.flatMap_cons]
    exact (h a (List.mem_cons_self ..)).append (flatMap fun b hb => h b (List.mem_cons_of_mem _ hb))

theorem addsOnly_lineStart : AddsOnly ['^'] [.assertion .lineStart] :=
  ⟨by simp, fun h _ => advance_lineStart h⟩

theorem addsOnly_lineEnd : AddsOnly ['$'] [.assertion .lineEnd] :=
  ⟨by simp, fun h _ => advance_lineEnd h⟩

theorem addsOnly_plain {text : List Char} (hp : Plain text) :
    AddsOnly text (text.map fun c => .literal ⟨c, false⟩) := by
  refine ⟨fun hq => ?_, fun h _ => advance_plain h hp⟩
  exact hp '?' (List.mem_of_mem_head? hq) (by decide)

theorem addsOnly_notSlashes : AddsOnly "[^/]+".toList [notSlashes] :=
  ⟨by decide, fun h hr => advance_notSlashes h hr⟩

theorem addsOnly_optionalSuffix : AddsOnly "(?:\\.[^/]+)?".toList [optionalSuffix] :=
  ⟨by decide, fun h hr => advance_optionalSuffix h hr⟩

/-- Branches between bars, read where a group begins or after a bar. -/
theorem advance_branches {text : α → List Char} {items : α → List Expr} : ∀ {branches : List α} {st t : Parser}
    {rest : List Char}, branches ≠ [] → (∀ b ∈ branches, Yields (text b) (items b)) → st.Outside →
      st.level.items = [] → rest.head? ≠ some '?' →
      st.advance 0 (['|'].intercalate (branches.map text) ++ rest) = .ok t →
        ∃ names level, level.finish =
            .ofBranches (st.level.branches.reverse ++ branches.map fun b => .ofItems (items b)) ∧
          ({ st with level, names } : Parser).advance 0 rest = .ok t
  | [b], st, t, rest, _, hy, hst, hi, hr, ht => by
    obtain ⟨names, ht⟩ := (hy b (List.mem_cons_self ..)).2 hst hr (by simpa using ht)
    refine ⟨names, (st.pushAll (items b)).level, ?_, ht⟩
    simp [GroupLevel.finish, pushAll, hi]
  | b :: b' :: bs, st, t, rest, _, hy, hst, hi, hr, ht => by
    have htext : ['|'].intercalate ((b :: b' :: bs).map text) ++ rest =
        text b ++ ('|' :: (['|'].intercalate ((b' :: bs).map text) ++ rest)) := by
      simp [List.intercalate]
    rw [htext] at ht
    obtain ⟨names, ht⟩ := (hy b (List.mem_cons_self ..)).2 hst (by simp) ht
    have hmid := (hst.pushAll (items b)).named names
    rw [advance_bar hmid] at ht
    obtain ⟨names', level, hf, ht⟩ := advance_branches (List.cons_ne_nil _ _)
      (fun c hc => hy c (List.mem_cons_of_mem _ hc)) hmid.branch rfl hr ht
    refine ⟨names', level, ?_, ht⟩
    rw [hf]
    simp [pushAll, named, branch, hi]

/-- An alternation in a group is one item. -/
theorem yields_alternation {text : α → List Char} {items : α → List Expr} {branches : List α}
    (hne : branches ≠ []) (hy : ∀ b ∈ branches, Yields (text b) (items b)) :
    Yields ('(' :: '?' :: ':' :: (['|'].intercalate (branches.map text) ++ [')']))
      [.group false [] (.ofBranches (branches.map fun b => .ofItems (items b)))] := by
  refine ⟨by simp, fun {st t rest} hst hr ht => ?_⟩
  simp only [List.cons_append, List.append_assoc, List.nil_append] at ht
  rw [advance_groupOpen hst] at ht
  obtain ⟨names, level, hf, ht⟩ := advance_branches hne hy hst.enter rfl (by simp) ht
  rw [enter_groupClose hst, hf] at ht
  exact ⟨names, ht⟩

end Parser

/-! ## Whole patterns -/

/-- A text is a pattern if it is read to the end, nothing is open there, and it is not nested too
deeply. -/
theorem parse_eq_ok {source : String} {e : Expr} : parse source = .ok e ↔
    ∃ t, ({} : Parser).advance 0 source.toList = .ok t ∧ t.classes = [] ∧ t.enclosing = [] ∧
      t.level.finish = e ∧ e.nesting ≤ nestingLimit := by
  unfold parse
  cases ht : ({} : Parser).advance 0 source.toList with
  | error fault => simp [bind, Except.bind]
  | ok t =>
    simp only [bind, Except.bind, Parser.finish, Except.ok.injEq, exists_eq_left', Bool.and_eq_true,
      List.isEmpty_iff]
    by_cases hopen : t.classes = [] ∧ t.enclosing = []
    · rw [if_pos hopen]
      by_cases hn : t.level.finish.nesting ≤ nestingLimit
      · simp only [if_pos hn, pure, Except.pure, Except.ok.injEq]
        constructor
        · rintro rfl; exact ⟨hopen.1, hopen.2, rfl, hn⟩
        · rintro ⟨-, -, he, -⟩; exact he
      · simp only [if_neg hn]
        constructor
        · intro h; cases h
        · rintro ⟨-, -, rfl, hn'⟩; exact absurd hn' hn
    · rw [if_neg hopen]
      constructor
      · intro h; cases h
      · rintro ⟨h1, h2, -⟩; exact absurd ⟨h1, h2⟩ hopen

/-- A pattern that adds items is the sequence of them. -/
theorem parse_of_yields {source : String} {items : List Expr} {e : Expr}
    (hy : Parser.Yields source.toList items) (hp : parse source = .ok e) : e = .ofItems items := by
  obtain ⟨t, ht, -, -, rfl, -⟩ := parse_eq_ok.1 hp
  rw [← List.append_nil source.toList] at ht
  obtain ⟨names, ht⟩ := hy.2 ⟨rfl, rfl, rfl⟩ (by simp) ht
  cases ht
  simp [Parser.named, Parser.pushAll, GroupLevel.finish, Expr.ofBranches]

end RouteTable.Pattern
