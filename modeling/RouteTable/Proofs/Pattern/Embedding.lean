/-
A pattern inside a group of a longer one. The parser reads it there as it reads the pattern alone,
with the groups around it below its own (`inside`): a step sees the end of what it takes, or runs
into a comment that the pattern leaves open. So if the pattern is accepted in a group of its own,
it is one item wherever that group stands (`yields_group`); and if a comment is left open, the
group goes on behind the next line break (`Overruns`).
-/
import RouteTable.Proofs.Pattern.Locality
import RouteTable.Proofs.Pattern.Names

namespace RouteTable.Pattern

open Unicode

namespace Parser

/-- The parser with further groups around it, in which names have been taken. -/
def inside (st : Parser) (outer : List Enclosing) (names : List String) : Parser :=
  { st with enclosing := st.enclosing ++ outer, names := st.names ++ names }

variable {st st' t : Parser} {c : Char} {rest : List Char} {k : Nat}

section Inside

variable (st : Parser) (outer : List Enclosing) (names : List String)

@[simp] theorem inside_level : (st.inside outer names).level = st.level := rfl
@[simp] theorem inside_enclosing : (st.inside outer names).enclosing = st.enclosing ++ outer := rfl
@[simp] theorem inside_classes : (st.inside outer names).classes = st.classes := rfl
@[simp] theorem inside_names : (st.inside outer names).names = st.names ++ names := rfl
@[simp] theorem inside_verbose : (st.inside outer names).verbose = st.verbose := rfl
@[simp] theorem inside_inComment : (st.inside outer names).inComment = st.inComment := rfl

end Inside

/-! ## What a step takes -/

@[simp] theorem taken_append_append (rest left more : List Char) :
    taken (rest ++ more) (left ++ more) = taken rest left := by
  simp [taken, Nat.add_sub_add_right]

theorem dropLazyMark_append (left more : List Char) :
    dropLazyMark (left ++ ')' :: more) = dropLazyMark left ++ ')' :: more := by
  rcases left with _ | ⟨d, left⟩
  · rfl
  by_cases hd : d = '?'
  · subst hd; rfl
  · rw [dropLazyMark_eq (by simpa using hd), dropLazyMark_eq (by simpa using hd)]

theorem repeatLast_inside (st : Parser) (outer : List Enclosing) (names : List String) (least : Nat)
    (most : Option Nat) :
    (st.inside outer names).repeatLast least most = (st.repeatLast least most).map (·.inside outer names) := by
  unfold repeatLast
  rw [inside_level]
  split <;> rfl

/-- One way of stepping. -/
abbrev Act := Parser → List Char → Except Fault (Parser × Nat)

variable {act : Act}

theorem repeatLast_inComment {least : Nat} {most : Option Nat} (h : st.repeatLast least most = .ok st') :
    st'.inComment = st.inComment := by
  unfold repeatLast at h
  split at h <;> cases h
  rfl

/-- The step is the same in a longer text, unless it is refused there because a name is taken. -/
def Stays (act : Act) (st : Parser) (rest : List Char) (st' : Parser) (k : Nat) : Prop :=
  ∀ outer names more, act (st.inside outer names) (rest ++ ')' :: more) = .ok (st'.inside outer names, k) ∨
    (∃ name ∈ names, name ∈ st'.names) ∧ ∃ fault, act (st.inside outer names) (rest ++ ')' :: more) = .error fault

/-- The step ends in a comment, which goes on in a longer text up to the next line break. -/
structure EndsInComment (act : Act) (st : Parser) (rest : List Char) (st' : Parser) : Prop where
  inComment : st'.inComment = false
  swallows : ∀ outer names u, '\n' ∉ u → act (st.inside outer names) (rest ++ ')' :: u) =
    .ok (st'.inside outer names, (rest ++ ')' :: u).length)
  resumes : ∀ outer names u more, '\n' ∉ u →
    act (st.inside outer names) ((rest ++ ')' :: u ++ ['\n']) ++ ')' :: more) =
      .ok (st'.inside outer names, (rest ++ ')' :: u ++ ['\n']).length)

theorem resumed_text (text u more : List Char) :
    (text ++ ')' :: u ++ ['\n']) ++ ')' :: more = text ++ ')' :: (u ++ '\n' :: ')' :: more) := by simp

/-- What a step can do at the end of its text: a group is opened there, or a comment runs on, or the
step has seen the end of what it takes. -/
inductive Reaches (act : Act) (st : Parser) (rest : List Char) (st' : Parser) (k : Nat) : Prop
  | opens (hk : k = rest.length) (ho : st'.enclosing ≠ [])
  | comment (hk : k = rest.length) (hc : EndsInComment act st rest st')
  | stays (hs : Stays act st rest st' k)

theorem Stays.of_eq (h : ∀ outer names more,
    act (st.inside outer names) (rest ++ ')' :: more) = .ok (st'.inside outer names, k)) :
    Stays act st rest st' k := fun outer names more => .inl (h outer names more)

theorem Reaches.congr {act' : Act} (h : Reaches act st rest st' k)
    (hact : ∀ outer names rest, act' (st.inside outer names) rest = act (st.inside outer names) rest) :
    Reaches act' st rest st' k := by
  cases h with
  | opens hk ho => exact .opens hk ho
  | comment hk hc =>
    refine .comment hk ⟨hc.inComment, ?_, ?_⟩
    · intro outer names u hu
      rw [hact, hc.swallows outer names u hu]
    · intro outer names u more hu
      rw [hact, hc.resumes outer names u more hu]
  | stays hs =>
    refine .stays fun outer names more => ?_
    rw [hact]
    exact hs outer names more

/-! ## Outside classes -/

theorem reaches_open (h : st.stepItem '(' rest = .ok (st', k)) :
    Reaches (fun st rest => st.stepItem '(' rest) st rest st' k := by
  unfold stepItem at h
  obtain ⟨⟨o, left⟩, ho, h⟩ := bind_eq_ok.1 h
  obtain ⟨st₁, hst, h⟩ := bind_eq_ok.1 h
  cases h
  by_cases hgap : gap st.verbose rest = []
  · -- nothing follows the parenthesis, so its group is open at the end
    have hempty : opening st.verbose rest = .ok (.capture none, []) := by
      unfold opening
      rw [hgap]
    rw [hempty] at ho
    cases ho
    cases hst
    refine .opens (by simp [taken]) ?_
    exact List.cons_ne_nil _ _
  · refine .stays fun outer names more => ?_
    have hopening : ∀ {st₂ : Parser}, (st.inside outer names).openGroup o = .ok st₂ →
        (st.inside outer names).stepItem '(' (rest ++ ')' :: more) = .ok (st₂, taken rest left) := by
      intro st₂ hst₂
      unfold stepItem
      rw [inside_verbose, opening_append ho hgap more]
      simp only [bind, Except.bind, hst₂, taken_append_append]
      rfl
    cases o with
    | capture name =>
      cases name with
      | none => cases hst; exact .inl (hopening rfl)
      | some name =>
        unfold openGroup at hst
        dsimp only at hst
        split at hst
        · cases hst
        · rename_i hfree
          cases hst
          by_cases hname : name ∈ names
          · -- the name is free in the pattern, but not around it
            refine .inr ⟨⟨name, hname, List.mem_cons_self ..⟩, .malformed, ?_⟩
            unfold stepItem
            rw [inside_verbose, opening_append ho hgap more]
            simp only [bind, Except.bind, openGroup]
            rw [inside_names, if_pos (List.mem_append_right _ hname)]
          · refine .inl (hopening ?_)
            unfold openGroup
            dsimp only
            rw [inside_names, if_neg (by simp [hfree, hname])]
            rfl
    | plain settings => cases hst; exact .inl (hopening rfl)
    | directive settings => cases hst; exact .inl (hopening rfl)

theorem reaches_close (h : st.stepItem ')' rest = .ok (st', k)) :
    Reaches (fun st rest => st.stepItem ')' rest) st rest st' k := by
  unfold stepItem at h
  obtain ⟨st₁, hst, h⟩ := bind_eq_ok.1 h
  cases h
  refine .stays (.of_eq fun outer names more => ?_)
  unfold leave at hst
  split at hst
  · cases hst
  · rename_i e es he
    cases hst
    unfold stepItem leave
    rw [inside_enclosing, he]; rfl

/-- Repetition marks look at most at a question mark behind them. -/
theorem stays_repeat {least : Nat} {most : Option Nat}
    (h : (do return (← st.repeatLast least most, taken rest (dropLazyMark rest))) = .ok (st', k)) :
    Stays (fun st rest => do return (← st.repeatLast least most, taken rest (dropLazyMark rest))) st rest st' k := by
  obtain ⟨st₁, hst, h⟩ := bind_eq_ok.1 h
  cases h
  refine .of_eq fun outer names more => ?_
  rw [repeatLast_inside, hst, dropLazyMark_append, taken_append_append]
  rfl

/-- Where blanks end a text, they are over, or a comment runs on. -/
theorem dropBlanks_eq_nil : ∀ {cs : List Char} {inComment : Bool}, dropBlanks inComment cs = [] →
    (∀ more, dropBlanks inComment (cs ++ ')' :: more) = ')' :: more) ∨
      ∀ u, '\n' ∉ u → dropBlanks inComment (cs ++ u) = [] ∧
        ∀ more, dropBlanks inComment ((cs ++ u ++ ['\n']) ++ ')' :: more) = ')' :: more
  | [], false, _ => .inl fun more => rfl
  | [], true, _ => by
    refine .inr fun u hu => ?_
    induction u with
    | nil => exact ⟨rfl, fun more => rfl⟩
    | cons d u ih =>
      have hd : (d != '\n') = true := bne_iff_ne.2 fun h => hu (by rw [h]; exact List.mem_cons_self ..)
      obtain ⟨h1, h2⟩ := ih fun h => hu (List.mem_cons_of_mem _ h)
      refine ⟨?_, fun more => ?_⟩
      · rw [List.nil_append] at h1 ⊢
        rw [dropBlanks, if_pos rfl, hd]; exact h1
      · have := h2 more
        simp only [List.nil_append, List.cons_append] at this ⊢
        rw [dropBlanks, if_pos rfl, hd]; exact this
  | d :: cs, inComment, h => by
    simp only [List.cons_append]
    unfold dropBlanks at h ⊢
    by_cases hcomment : inComment = true
    · simp only [if_pos hcomment] at h ⊢
      exact dropBlanks_eq_nil h
    · simp only [if_neg hcomment] at h ⊢
      by_cases hblank : isWhiteSpace d = true
      · simp only [if_pos hblank] at h ⊢
        exact dropBlanks_eq_nil h
      · simp only [if_neg hblank] at h ⊢
        by_cases hhash : d = '#'
        · simp only [if_pos hhash] at h ⊢
          exact dropBlanks_eq_nil h
        · rw [if_neg hhash] at h; cases h

theorem reaches_counts (hcomment : st.inComment = false) (h : st.stepItem '\x7b' rest = .ok (st', k)) :
    Reaches (fun st rest => st.stepItem '\x7b' rest) st rest st' k := by
  unfold stepItem at h
  obtain ⟨⟨⟨least, most⟩, left⟩, hcounts, h⟩ := bind_eq_ok.1 h
  obtain ⟨st₁, hst, h⟩ := bind_eq_ok.1 h
  cases h
  have hin : ∀ outer names more, (st.inside outer names).stepItem '\x7b' (rest ++ ')' :: more) =
      .ok (st'.inside outer names, taken (rest ++ ')' :: more)
        (dropLazyMark (gap st.verbose (left ++ ')' :: more)))) := by
    intro outer names more
    unfold stepItem
    rw [inside_verbose, local_counts hcounts more]
    simp only [bind, Except.bind]
    rw [repeatLast_inside, hst]
    rfl
  have hlast : gap st.verbose left = [] → (∀ more, gap st.verbose (left ++ ')' :: more) = ')' :: more) ∨
      ∀ u, '\n' ∉ u → gap st.verbose (left ++ u) = [] ∧
        ∀ more, gap st.verbose ((left ++ u ++ ['\n']) ++ ')' :: more) = ')' :: more := by
    intro hgap
    cases hv : st.verbose with
    | false =>
      rw [hv] at hgap
      have hleft : left = [] := hgap
      exact .inl fun more => by rw [hleft]; rfl
    | true =>
      rw [hv] at hgap
      exact dropBlanks_eq_nil hgap
  cases hgap : gap st.verbose left with
  | cons d left₁ =>
    refine .stays (.of_eq fun outer names more => ?_)
    rw [hin, gap_append hgap, ← List.cons_append, dropLazyMark_append, taken_append_append]
  | nil =>
    have hk : taken rest (dropLazyMark []) = rest.length := Nat.sub_zero _
    -- what follows the braces reaches the end of the text, and perhaps in a comment
    rcases hlast hgap with hover | hruns
    · refine .stays (.of_eq fun outer names more => ?_)
      have hmark : dropLazyMark (')' :: more) = ')' :: more := rfl
      rw [hin, hover, hk, hmark, taken_append]
    · refine .comment hk ⟨(repeatLast_inComment hst).trans hcomment, ?_, ?_⟩
      · intro outer names u hu
        have hu' : '\n' ∉ ')' :: u := by simpa using hu
        rw [hin, (hruns _ hu').1]
        rfl
      · intro outer names u more hu
        have hu' : '\n' ∉ ')' :: u := by simpa using hu
        have hmark : dropLazyMark (')' :: more) = ')' :: more := rfl
        have hover := (hruns _ hu').2 more
        rw [resumed_text] at hover
        rw [resumed_text, hin, hover, hmark, ← resumed_text, taken_append]

theorem reaches_escape (h : st.stepItem '\\' rest = .ok (st', k)) :
    Reaches (fun st rest => st.stepItem '\\' rest) st rest st' k := by
  unfold stepItem at h
  obtain ⟨⟨e, left⟩, hescape, h⟩ := bind_eq_ok.1 h
  cases h
  refine .stays (.of_eq fun outer names more => ?_)
  unfold stepItem
  rw [inside_verbose, local_escape hescape more]
  simp only [bind, Except.bind, taken_append_append]
  rfl

theorem reaches_item (hcomment : st.inComment = false) (h : st.stepItem c rest = .ok (st', k)) :
    Reaches (fun st rest => st.stepItem c rest) st rest st' k := by
  by_cases hopen : c = '('
  · subst hopen; exact reaches_open h
  by_cases hclose : c = ')'
  · subst hclose; exact reaches_close h
  by_cases hcounts : c = '\x7b'
  · subst hcounts; exact reaches_counts hcomment h
  by_cases hescape : c = '\\'
  · subst hescape; exact reaches_escape h
  refine .stays ?_
  unfold stepItem at h
  split at h
  all_goals first
    | exact stays_repeat h
    | contradiction
    | (cases h; exact .of_eq fun outer names more => rfl)
    | skip
  -- any other character stands for itself
  cases h
  refine .of_eq fun outer names more => ?_
  unfold stepItem
  split <;> first | contradiction | rfl

/-! ## Inside classes -/

theorem leaveClass_inside (st : Parser) (outer : List Enclosing) (names : List String) (level : ClassLevel)
    (classes : List ClassLevel) :
    (st.inside outer names).leaveClass level classes = (st.leaveClass level classes).inside outer names := by
  cases classes <;> rfl

theorem head?_append_close (hc : c ≠ ')') (more : List Char) :
    (rest ++ ')' :: more).head? = some c ↔ rest.head? = some c := by
  cases rest with
  | nil => simpa using Ne.symm hc
  | cons d rest => rfl

/-- The step at the first character of a member of the class. -/
def member (st : Parser) (level : ClassLevel) (classes : List ClassLevel) (c : Char) (rest : List Char) :
    Except Fault (Parser × Nat) :=
  classItem st.verbose c rest >>= fun read =>
    .ok ({ st with classes := level.push read.1 :: classes }, taken rest read.2)

theorem member_inside {level : ClassLevel} {classes : List ClassLevel}
    (h : st.member level classes c rest = .ok (st', k)) (outer : List Enclosing) (names : List String)
    (more : List Char) :
    (st.inside outer names).member level classes c (rest ++ ')' :: more) = .ok (st'.inside outer names, k) := by
  obtain ⟨⟨e, left⟩, he, h⟩ := bind_eq_ok.1 h
  cases h
  unfold member
  rw [inside_verbose, local_classItem c he more]
  simp only [bind, Except.bind, taken_append_append]
  rfl

/-- The step at a character that makes an operator if it is doubled, and else is a member. -/
def doubled (st : Parser) (level : ClassLevel) (classes : List ClassLevel) (c : Char) (rest : List Char)
    (kind : SetOp) : Except Fault (Parser × Nat) :=
  if rest.head? = some c then .ok ({ st with classes := level.operator kind :: classes }, 1)
  else st.member level classes c rest

theorem doubled_inside {level : ClassLevel} {classes : List ClassLevel} {kind : SetOp} (hc : c ≠ ')')
    (h : st.doubled level classes c rest kind = .ok (st', k)) (outer : List Enclosing) (names : List String)
    (more : List Char) :
    (st.inside outer names).doubled level classes c (rest ++ ')' :: more) kind = .ok (st'.inside outer names, k) := by
  unfold doubled at h ⊢
  split at h
  · rw [if_pos ((head?_append_close hc more).2 ‹_›)]
    cases h; rfl
  · rw [if_neg (mt (head?_append_close hc more).1 ‹_›)]
    exact member_inside h outer names more

theorem stays_body {level : ClassLevel} {classes : List ClassLevel}
    (h : st.stepBody level classes c rest = .ok (st', k)) :
    Stays (fun st rest => st.stepBody level classes c rest) st rest st' k := by
  refine .of_eq fun outer names more => ?_
  unfold stepBody at h ⊢
  dsimp only at h ⊢
  rw [asciiClass?_append]
  split at h
  · cases hascii : asciiClass? rest with
    | none => rw [hascii] at h; cases h; rfl
    | some r =>
      rw [hascii] at h
      cases h
      simp only [Option.map_some, taken_append_append]
      rfl
  · cases h
    rw [leaveClass_inside]
  · exact doubled_inside (by decide) h outer names more
  · exact doubled_inside (by decide) h outer names more
  · exact doubled_inside (by decide) h outer names more
  · exact member_inside h outer names more

theorem stays_class {level : ClassLevel} {classes : List ClassLevel}
    (h : st.stepClass level classes c rest = .ok (st', k)) :
    Stays (fun st rest => st.stepClass level classes c rest) st rest st' k := by
  unfold stepClass at h
  dsimp only at h
  split at h
  · cases h
    refine .of_eq fun outer names more => ?_
    unfold stepClass
    rw [if_pos ‹_›]; rfl
  · split at h
    · cases h
      refine .of_eq fun outer names more => ?_
      unfold stepClass
      rw [if_neg ‹_›, if_pos ‹_›]; rfl
    · split at h
      · cases h
        refine .of_eq fun outer names more => ?_
        unfold stepClass
        rw [if_neg ‹_›, if_neg ‹_›, if_pos ‹_›]; rfl
      · intro outer names more
        unfold stepClass
        dsimp only
        rw [if_neg ‹_›, if_neg ‹_›, if_neg ‹_›]
        exact stays_body h outer names more

/-! ## Any step -/

/-- The step at a character that is neither in a comment nor skipped. -/
def stepText (st : Parser) (c : Char) (rest : List Char) : Except Fault (Parser × Nat) :=
  match st.classes with
  | [] => st.stepItem c rest
  | level :: classes => st.stepClass level classes c rest

theorem step_eq (st : Parser) (c : Char) (rest : List Char) : st.step c rest =
    if st.inComment then .ok ({ st with inComment := c != '\n' }, 0)
    else if st.verbose && isWhiteSpace c then .ok (st, 0)
    else if st.verbose && c = '#' then .ok ({ st with inComment := true }, 0)
    else st.stepText c rest := rfl

theorem reaches_text (hcomment : st.inComment = false) (h : st.stepText c rest = .ok (st', k)) :
    Reaches (fun st rest => st.stepText c rest) st rest st' k := by
  unfold stepText at h
  split at h
  · rename_i hnil
    refine (reaches_item hcomment h).congr fun outer names rest => ?_
    rw [stepText, inside_classes, hnil]
  · rename_i level classes hcons
    refine (Reaches.stays (stays_class h)).congr fun outer names rest => ?_
    rw [stepText, inside_classes, hcons]

theorem reaches_step (h : st.step c rest = .ok (st', k)) :
    Reaches (fun st rest => st.step c rest) st rest st' k := by
  have hin : ∀ outer names rest, (st.inside outer names).step c rest =
      if st.inComment then .ok (({ st with inComment := c != '\n' } : Parser).inside outer names, 0)
      else if st.verbose && isWhiteSpace c then .ok (st.inside outer names, 0)
      else if st.verbose && c = '#' then .ok (({ st with inComment := true } : Parser).inside outer names, 0)
      else (st.inside outer names).stepText c rest := fun _ _ _ => rfl
  rw [step_eq] at h
  split at h
  · cases h
    refine .stays (.of_eq fun outer names more => ?_)
    rw [hin, if_pos ‹_›]
  · rename_i hcomment
    split at h
    · cases h
      refine .stays (.of_eq fun outer names more => ?_)
      rw [hin, if_neg hcomment, if_pos ‹_›]
    · split at h
      · cases h
        refine .stays (.of_eq fun outer names more => ?_)
        rw [hin, if_neg hcomment, if_neg ‹_›, if_pos ‹_›]
      · refine (reaches_text (Bool.eq_false_iff.2 hcomment) h).congr fun outer names rest => ?_
        rw [hin, if_neg hcomment, if_neg ‹_›, if_neg ‹_›]

/-! ## Whole patterns -/

/-- In a comment nothing counts but the end of the line. -/
theorem advance_comment : ∀ {u : List Char} {st : Parser} (rest : List Char), st.inComment = true → '\n' ∉ u →
    st.advance 0 (u ++ rest) = st.advance 0 rest
  | [], _, _, _, _ => rfl
  | d :: u, st, rest, hst, hu => by
    have hd : (d != '\n') = true := bne_iff_ne.2 fun h => hu (by rw [h]; exact List.mem_cons_self ..)
    have hstep : st.step d (u ++ rest) = .ok (st, 0) := by
      rw [step, if_pos hst, hd]
      rw [← hst]
    rw [List.cons_append, advance_of_step hstep]
    exact advance_comment rest hst fun h => hu (List.mem_cons_of_mem _ h)

/-- The text ends in a comment, which goes on in a longer text up to the next line break. -/
structure Overruns (st : Parser) (k : Nat) (text : List Char) (t : Parser) : Prop where
  swallows : ∀ outer names u t', '\n' ∉ u →
    (st.inside outer names).advance k (text ++ ')' :: u) = .ok t' → t'.enclosing = t.enclosing ++ outer
  resumes : ∀ outer names u more t', '\n' ∉ u →
    (st.inside outer names).advance k ((text ++ ')' :: u ++ ['\n']) ++ ')' :: more) = .ok t' →
      (({ t with inComment := false } : Parser).inside outer names).advance 0 (')' :: more) = .ok t'

/-- The text is read in a longer one as it is read alone, unless a name is taken there. -/
structure Settled (st : Parser) (k : Nat) (text : List Char) (t : Parser) : Prop where
  inComment : t.inComment = false
  reads : ∀ outer names more,
    (st.inside outer names).advance k (text ++ ')' :: more) = (t.inside outer names).advance 0 (')' :: more) ∨
      (∃ name ∈ names, name ∈ t.names) ∧
        ∃ fault, (st.inside outer names).advance k (text ++ ')' :: more) = .error fault

/-- At the end of its text the parser is outside comments, or the comment that it is in goes on. -/
theorem settled_or_overruns_nil (st : Parser) : Settled st 0 [] st ∨ Overruns st 0 [] st := by
  cases hcomment : st.inComment with
  | false => exact .inl ⟨hcomment, fun outer names more => .inl rfl⟩
  | true =>
    have hin : ∀ outer names, (st.inside outer names).inComment = true := fun _ _ => by
      rw [inside_inComment, hcomment]
    refine .inr ⟨fun outer names u t' hu ht => ?_, fun outer names u more t' hu ht => ?_⟩
    · have hu' : '\n' ∉ ')' :: u := by simpa using hu
      have hend := advance_comment [] (hin outer names) hu'
      rw [List.append_nil] at hend
      rw [List.nil_append, hend] at ht
      cases ht; rfl
    · have hu' : '\n' ∉ ')' :: u := by simpa using hu
      have hline : (st.inside outer names).step '\n' (')' :: more) =
          .ok (({ st with inComment := false } : Parser).inside outer names, 0) := by
        rw [step, if_pos (hin _ _)]
        rfl
      have htext : [] ++ ')' :: u ++ ['\n'] ++ ')' :: more = (')' :: u) ++ ('\n' :: ')' :: more) := by simp
      rw [htext, advance_comment _ (hin _ _) hu', advance_of_step hline] at ht
      exact ht

theorem EndsInComment.overruns (h : EndsInComment (fun st rest => st.step c rest) st rest st') :
    Overruns st 0 (c :: rest) st' := by
  refine ⟨fun outer names u t' hu ht => ?_, fun outer names u more t' hu ht => ?_⟩
  · rw [List.cons_append, advance_of_step (h.swallows outer names u hu), advance_length] at ht
    cases ht; rfl
  · rw [List.cons_append, List.cons_append, List.cons_append, advance_of_step (h.resumes outer names u more hu),
      advance_skip] at ht
    have hsame : ({ st' with inComment := false } : Parser) = st' := by rw [← h.inComment]
    rw [hsame]
    exact ht

theorem Settled.step (hs : Stays (fun st rest => st.step c rest) st rest st' k) (hn : NamesGrow st' t)
    (h : Settled st' k rest t) : Settled st 0 (c :: rest) t := by
  refine ⟨h.inComment, fun outer names more => ?_⟩
  rcases hs outer names more with hstep | ⟨⟨name, htaken, hname⟩, fault, hstep⟩
  · rw [List.cons_append, advance_of_step hstep]
    exact h.reads outer names more
  · exact .inr ⟨⟨name, htaken, hn.suffix.mem hname⟩, fault, advance_of_step_error hstep⟩

theorem Overruns.step (hs : Stays (fun st rest => st.step c rest) st rest st' k) (h : Overruns st' k rest t) :
    Overruns st 0 (c :: rest) t := by
  have hok : ∀ outer names more t', (st.inside outer names).advance 0 (c :: rest ++ ')' :: more) = .ok t' →
      (st'.inside outer names).advance k (rest ++ ')' :: more) = .ok t' := by
    intro outer names more t' ht
    rw [List.cons_append] at ht
    rcases hs outer names more with hstep | ⟨-, fault, hstep⟩
    · rw [advance_of_step hstep] at ht; exact ht
    · rw [advance_of_step_error hstep] at ht; cases ht
  refine ⟨fun outer names u t' hu ht => ?_, fun outer names u more t' hu ht => ?_⟩
  · exact h.swallows _ _ _ _ hu (hok _ _ _ _ ht)
  · refine h.resumes _ _ u _ _ hu ?_
    rw [resumed_text] at ht ⊢
    exact hok _ _ _ _ ht

/-- A text that opens no group for good is read in a longer one as it is read alone, or a comment at
its end takes what follows. -/
theorem settled_or_overruns : ∀ {text : List Char} {st t : Parser} {k : Nat}, st.advance k text = .ok t →
    k ≤ text.length → t.enclosing = [] → Settled st k text t ∨ Overruns st k text t
  | [], st, t, k, h, hk, _ => by
    cases h
    obtain rfl : k = 0 := Nat.le_zero.1 hk
    exact settled_or_overruns_nil st
  | c :: rest, st, t, k + 1, h, hk, ho => by
    rcases settled_or_overruns (k := k) h (Nat.le_of_succ_le_succ hk) ho with hs | hr
    · exact .inl ⟨hs.inComment, hs.reads⟩
    · exact .inr ⟨hr.swallows, hr.resumes⟩
  | c :: rest, st, t, 0, h, _, ho => by
    obtain ⟨⟨st₁, k⟩, hstep, h⟩ := bind_eq_ok.1 h
    -- a step that takes all of the rest ends the text
    have hend : k = rest.length → st₁ = t := by
      rintro rfl
      dsimp only at h
      rw [advance_length] at h
      cases h; rfl
    cases reaches_step hstep with
    | opens hk hopen =>
      rw [hend hk] at hopen
      exact absurd ho hopen
    | comment hk hc =>
      obtain rfl := hend hk
      exact .inr hc.overruns
    | stays hs =>
      exact (settled_or_overruns h (step_le hstep) ho).imp (Settled.step hs (advance_names h)) (Overruns.step hs)

/-! ## Groups -/

/-- A group that is opened outside classes is read like a pattern of its own. -/
theorem enter_eq_inside (h : st.Outside) : st.enter false [] =
    ({} : Parser).inside (⟨st.level, false, [], st.verbose⟩ :: st.enclosing) st.names := by
  obtain ⟨level, enclosing, classes, names, verbose, inComment⟩ := st
  obtain ⟨rfl, rfl, rfl⟩ : classes = [] ∧ verbose = false ∧ inComment = false := ⟨h.1, h.2, h.3⟩
  rfl

/-- The close of the group around a pattern that has been read. -/
theorem inside_close {outer : Parser} (hst : outer.Outside) (hclasses : t.classes = []) (hcomment : t.inComment = false)
    (hopen : t.enclosing = []) :
    (t.inside (⟨outer.level, false, [], outer.verbose⟩ :: outer.enclosing) outer.names).advance 0 (')' :: rest) =
      ((outer.push (.group false [] t.level.finish)).named (t.names ++ outer.names)).advance 0 rest := by
  have henclosing : (t.inside (⟨outer.level, false, [], outer.verbose⟩ :: outer.enclosing) outer.names).enclosing =
      ⟨outer.level, false, [], outer.verbose⟩ :: outer.enclosing := by
    rw [inside, hopen]; rfl
  have hclasses' : ∀ outer names, (t.inside outer names).classes = [] := fun _ _ => hclasses
  have hcomment' : ∀ outer names, (t.inside outer names).inComment = false := fun _ _ => hcomment
  rw [advance_groupClose (hclasses' _ _) (hcomment' _ _) henclosing]
  obtain ⟨level, enclosing, classes, names, verbose, inComment⟩ := outer
  obtain ⟨rfl, rfl, rfl⟩ : classes = [] ∧ verbose = false ∧ inComment = false := ⟨hst.1, hst.2, hst.3⟩
  rw [← hclasses, ← hcomment]
  rfl

end Parser

open RouteTable.Pattern.Parser

theorem toList_group (pattern : String) :
    ("(?:" ++ pattern ++ ")").toList = '(' :: '?' :: ':' :: (pattern.toList ++ [')']) := by
  rw [String.toList_append, String.toList_append]; rfl

/-- A pattern is read to its end inside its group if nothing is open at the end of a line that goes
on behind the group. -/
theorem settled_of_closed {pattern : String} {st t t' : Parser} {u : List Char}
    (ht : ({} : Parser).advance 0 pattern.toList = .ok t) (hopen : t.enclosing = []) (hst : st.Outside) (hu : '\n' ∉ u)
    (ht' : st.advance 0 (("(?:" ++ pattern ++ ")").toList ++ u) = .ok t') (hclosed : t'.enclosing = []) :
    Settled {} 0 pattern.toList t := by
  rcases settled_or_overruns ht (Nat.zero_le _) hopen with hs | hr
  · exact hs
  rw [toList_group] at ht'
  simp only [List.cons_append, List.append_assoc, List.nil_append] at ht'
  rw [advance_groupOpen hst, enter_eq_inside hst] at ht'
  -- a comment would have kept the group open
  have := hr.swallows _ _ u t' hu ht'
  rw [hclosed, hopen] at this
  cases this

/-- A pattern whose group is a pattern too is read to its end inside the group. -/
theorem settled_of_parse_group {pattern : String} {e : Expr} {t : Parser}
    (hg : parse ("(?:" ++ pattern ++ ")") = .ok e) (ht : ({} : Parser).advance 0 pattern.toList = .ok t)
    (hopen : t.enclosing = []) : Settled {} 0 pattern.toList t := by
  obtain ⟨t', ht', -, hclosed, -⟩ := parse_eq_ok.1 hg
  rw [← List.append_nil ("(?:" ++ pattern ++ ")").toList] at ht'
  exact settled_of_closed ht hopen ⟨rfl, rfl, rfl⟩ (by simp) ht' hclosed

/-- The group is read as one item, and the names in it are taken, unless one of them is taken already. -/
theorem advance_group_of_settled {pattern : String} {t st : Parser} (hs : Settled {} 0 pattern.toList t)
    (hclasses : t.classes = []) (hopen : t.enclosing = []) (hst : st.Outside) (rest : List Char) :
    st.advance 0 (("(?:" ++ pattern ++ ")").toList ++ rest) =
        ((st.push (.group false [] t.level.finish)).named (t.names ++ st.names)).advance 0 rest ∨
      (∃ name ∈ st.names, name ∈ t.names) ∧
        ∃ fault, st.advance 0 (("(?:" ++ pattern ++ ")").toList ++ rest) = .error fault := by
  rw [toList_group]
  simp only [List.cons_append, List.append_assoc, List.nil_append]
  rw [advance_groupOpen hst, enter_eq_inside hst, ← inside_close hst hclasses hs.inComment hopen]
  exact hs.reads ..

theorem head?_group (pattern : String) : ("(?:" ++ pattern ++ ")").toList.head? ≠ some '?' := by
  rw [toList_group]; simp

theorem yields_of_settled {pattern : String} {t : Parser} (hs : Settled {} 0 pattern.toList t)
    (hclasses : t.classes = []) (hopen : t.enclosing = []) :
    Yields ("(?:" ++ pattern ++ ")").toList [.group false [] t.level.finish] := by
  refine ⟨head?_group pattern, fun {st t' rest} hst _ ht' => ⟨t.names ++ st.names, ?_⟩⟩
  rcases advance_group_of_settled hs hclasses hopen hst rest with hr | ⟨-, fault, hr⟩
  · rw [hr] at ht'; exact ht'
  · rw [hr] at ht'; cases ht'

theorem adds_of_settled {pattern : String} {t : Parser} (hs : Settled {} 0 pattern.toList t)
    (hclasses : t.classes = []) (hopen : t.enclosing = []) :
    Adds ("(?:" ++ pattern ++ ")").toList [.group false [] t.level.finish] t.names := by
  refine ⟨head?_group pattern, fun {st rest} hst _ hd => ?_, fun {st t' rest} hst _ hd ht' => ?_⟩
  · rcases advance_group_of_settled hs hclasses hopen hst rest with hr | ⟨⟨name, htaken, hname⟩, -⟩
    · exact hr
    · exact absurd rfl ((List.nodup_append.1 hd).2.2 name hname name htaken)
  · have hall := (advance_names ht').nodup hd
    rcases advance_group_of_settled hs hclasses hopen hst rest with hr | ⟨-, fault, hr⟩
    · rw [hr] at ht'
      exact (advance_names ht').suffix.sublist.nodup hall
    · rw [hr] at ht'; cases ht'

/-- A pattern that is also accepted in a group is one item in every place where the group stands. -/
theorem yields_group {pattern : String} {e e' : Expr} (hp : parse pattern = .ok e)
    (hg : parse ("(?:" ++ pattern ++ ")") = .ok e') :
    Yields ("(?:" ++ pattern ++ ")").toList [.group false [] e] := by
  obtain ⟨t, ht, hclasses, hopen, rfl, -⟩ := parse_eq_ok.1 hp
  exact yields_of_settled (settled_of_parse_group hg ht hopen) hclasses hopen

/-- A pattern that is read to its end inside the group is accepted there, unless that nests too
deeply. -/
theorem parse_group_of_settled {pattern : String} {t : Parser} (hs : Settled {} 0 pattern.toList t)
    (hclasses : t.classes = []) (hopen : t.enclosing = [])
    (hn : (Expr.group false [] t.level.finish).nesting ≤ nestingLimit) :
    parse ("(?:" ++ pattern ++ ")") = .ok (.group false [] t.level.finish) := by
  have hfirst : ({} : Parser).Outside := ⟨rfl, rfl, rfl⟩
  refine parse_eq_ok.2
    ⟨(({} : Parser).push (.group false [] t.level.finish)).named (t.names ++ []), ?_, rfl, rfl, rfl, hn⟩
  rw [← List.append_nil ("(?:" ++ pattern ++ ")").toList]
  rcases advance_group_of_settled hs hclasses hopen hfirst [] with hr | ⟨⟨name, htaken, -⟩, -⟩
  · exact hr
  · cases htaken

end RouteTable.Pattern
