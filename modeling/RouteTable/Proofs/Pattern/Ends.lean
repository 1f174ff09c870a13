/-
How a pattern ends. Where nothing is open at the end of a pattern, the parser stands at a mark near the end, or a step
jumps over it, and that can only be an escape (`stands_or_escaped`). So a dollar sign at the end of a pattern that means
something is an anchor exactly if an even number of backslashes stands before it and no comment is open behind it
(`stands_last_iff`), and a pattern that looks as if it were anchored is so exactly if it begins with `^`, ends in such
a `$`, or has an anchor within (`anchored_iff_of_edge`).
-/
import RouteTable.Proofs.Pattern.Faults
import RouteTable.Proofs.Pattern.Stops
import Mathlib.Algebra.Group.Nat.Even
import Mathlib.Data.List.Induction

namespace RouteTable.Pattern

open Unicode

namespace Parser

variable {st st' st'' st₁ t : Parser} {c x : Char} {rest rest' text left u : List Char} {k : Nat}

/-! ## A closing parenthesis behind the text -/

@[simp] theorem inside_nil (st : Parser) : st.inside [] [] = st := by
  simp only [inside, List.append_nil]

/-- A step that opens no group for good sees the end of what it takes, or ends in a comment. -/
theorem step_append_close (h : st.step c rest = .ok (st', k)) : k = rest.length ∧ st'.enclosing ≠ [] ∨
    k = rest.length ∧ st.step c (rest ++ [')']) = .ok (st', rest.length + 1) ∨
    st.step c (rest ++ [')']) = .ok (st', k) := by
  cases reaches_step h with
  | opens hk ho => exact .inl ⟨hk, ho⟩
  | comment hk hc =>
    have hswallows := hc.swallows [] [] [] List.not_mem_nil
    rw [inside_nil, inside_nil, List.length_append] at hswallows
    exact .inr (.inl ⟨hk, hswallows⟩)
  | stays hs =>
    have hstays := hs [] [] []
    rw [inside_nil, inside_nil] at hstays
    refine .inr (.inr (hstays.resolve_right ?_))
    rintro ⟨⟨name, hname, -⟩, -⟩
    cases hname

theorem Comes.suffix (h : Comes st text st' rest) : rest <:+ text := by
  induction h with
  | here => exact List.suffix_refl _
  | step hmore _ _ ih =>
    rw [hmore]
    exact ih.trans ((List.suffix_append ..).trans (List.suffix_cons ..))

/-- The parser comes to the same places if a closing parenthesis follows. -/
theorem Comes.append_close (h : Comes st text st' rest) (hrest : rest ≠ []) :
    Comes st (text ++ [')']) st' (rest ++ [')']) := by
  induction h with
  | here => exact .here ..
  | step hmore hstep hnext ih =>
    rename_i st st₁ st' c more pre text rest
    have htext : text ≠ [] := by
      rintro rfl
      exact hrest (List.suffix_nil.1 hnext.suffix)
    have hlen : pre.length ≠ more.length := by
      have := List.length_pos_iff.2 htext
      rw [hmore, List.length_append]
      omega
    have hstep' : st.step c (more ++ [')']) = .ok (st₁, pre.length) := by
      rcases step_append_close hstep with ⟨hk, -⟩ | ⟨hk, -⟩ | hstep'
      · exact absurd hk hlen
      · exact absurd hk hlen
      · exact hstep'
    refine .step ?_ hstep' (ih hrest)
    rw [hmore]
    exact List.append_assoc ..

/-- Of two places that the parser comes to, it comes to one from the other. -/
theorem Comes.linear (h : Comes st text st' rest) (h' : Comes st text st'' rest') :
    Comes st' rest st'' rest' ∨ Comes st'' rest' st' rest := by
  induction h with
  | here => exact .inl h'
  | step hmore hstep hnext ih =>
    subst hmore
    rcases (comes_cons_iff hstep).1 h' with ⟨rfl, rfl⟩ | hlater
    · exact .inr (.step rfl hstep hnext)
    · exact ih hlater

/-- A step that begins in `q` takes the beginning `v` of the rest too. -/
def Jumps (st : Parser) (q rest : List Char) : Prop :=
  ∃ q₁ c pre v left st' st₁, q = q₁ ++ c :: pre ∧ rest = v ++ left ∧ v ≠ [] ∧
    Comes st (q ++ rest) st' (c :: (pre ++ rest)) ∧ st'.step c (pre ++ rest) = .ok (st₁, (pre ++ v).length)

/-- The parser comes to a place of the text, or a step jumps over it. -/
theorem comes_or_jumps (h : st.advance 0 text = .ok t) :
    ∀ q, text = q ++ rest → (∃ st', Comes st text st' rest) ∨ Jumps st q rest := by
  refine read_induction
    (motive := fun st text => ∀ q, text = q ++ rest → (∃ st', Comes st text st' rest) ∨ Jumps st q rest) ?_ ?_ text h
  · intro q hq
    obtain ⟨-, rfl⟩ := List.append_eq_nil_iff.1 hq.symm
    exact .inl ⟨t, .here ..⟩
  · intro st st₁ c taken text hstep _ ih q hq
    rcases q with _ | ⟨d, q⟩
    · subst hq
      exact .inl ⟨st, .here ..⟩
    obtain ⟨rfl, htail⟩ := List.cons.inj hq
    -- the place is among the characters that the first step takes, or behind them
    rcases List.append_eq_append_iff.1 htail with ⟨q', rfl, rfl⟩ | ⟨v, rfl, rfl⟩
    · rcases ih q' rfl with ⟨st', hcomes⟩ | ⟨q₁, d, pre, v, left, st', st₂, rfl, hrest, hv, hcomes, hjump⟩
      · exact .inl ⟨st', .step rfl hstep hcomes⟩
      · rw [← List.append_assoc] at hstep
        refine .inr ⟨c :: (taken ++ q₁), d, pre, v, left, st', st₂, ?_, hrest, hv, ?_, hjump⟩
        · rw [List.cons_append, List.append_assoc]
        · exact .step (List.append_assoc ..) hstep hcomes
    · by_cases hv : v = []
      · subst hv
        exact .inl ⟨st₁, .step rfl hstep (.here ..)⟩
      · rw [List.append_assoc] at hstep ⊢
        exact .inr ⟨[], c, q, v, text, st, st₁, rfl, rfl, hv, .here .., hstep⟩

/-- The text is read to its end, and there no class, group or comment is open: a parenthesis that followed would close
a group that is not there. -/
structure Closed (st : Parser) (text : List Char) (t : Parser) : Prop where
  ends : st.advance 0 text = .ok t
  classes : t.classes = []
  enclosing : t.enclosing = []
  comment : st.advance 0 (text ++ [')']) ≠ .ok t

/-- Where nothing is open at the end, no class and no comment is open before a rest that closes none. -/
theorem Closed.reads (hclosed : Closed st text t) (h : Comes st text st' rest) (hrest : rest ≠ [])
    (hbracket : ']' ∉ rest) (hline : '\n' ∉ rest) : st'.Reads := by
  have hlater : st'.advance 0 rest = .ok t := h.advance ▸ hclosed.ends
  refine ⟨?_, ?_⟩
  · by_contra hne
    exact advance_classes hlater hbracket hne hclosed.classes
  · by_contra hcomment
    rw [Bool.not_eq_false] at hcomment
    have hend := advance_comment [] hcomment hline
    rw [List.append_nil, hlater] at hend
    cases hend
    have hline' : '\n' ∉ rest ++ [')'] := by simpa using hline
    have hend' := advance_comment [] hcomment hline'
    rw [List.append_nil, ← (h.append_close hrest).advance] at hend'
    exact hclosed.comment hend'

/-- Where nothing is open at the end, a step whose last character is a mark is an escape if no class is closed behind
it. -/
theorem Closed.escapesMark (hclosed : Closed st text t) (h : Comes st text st' (c :: (u ++ [x] ++ left))) (hx : Mark x)
    (hstep : st'.step c (u ++ [x] ++ left) = .ok (st₁, (u ++ [x]).length)) (hbracket : ']' ∉ left) :
    EscapesMark st' c u x st₁ := by
  have hlater : st₁.advance 0 left = .ok t := by
    rw [← advance_of_step_append hstep, ← h.advance]
    exact hclosed.ends
  have hlast : st₁.classes ≠ [] ∨ EscapesMark st' c u x st₁ := by
    by_cases hleft : left = []
    · -- the step ends the text, so the group or the comment that it may open would be open there
      subst hleft
      cases hlater
      rw [List.append_nil] at h hstep
      rcases step_append_close hstep with ⟨-, hne⟩ | ⟨-, hswallow⟩ | hstay
      · exact absurd hclosed.enclosing hne
      · refine absurd ?_ hclosed.comment
        have hlen : (u ++ [x]).length + 1 = (u ++ [x] ++ [')']).length := by simp
        rw [(h.append_close (List.cons_ne_nil _ _)).advance, List.cons_append, advance_of_step hswallow, hlen,
          advance_length]
      · exact step_last hx (List.cons_ne_nil _ _) hstay
    · exact step_last hx hleft hstep
  exact hlast.resolve_left fun hne => advance_classes hlater hbracket hne hclosed.classes

end Parser

/-! ## Meanings -/

/-- No property is called by a dollar sign, for names are made of letters and digits. -/
theorem property?_dollar [table : PropertyTable] : (PropertyName.single "$").property? = none := by
  have hloose : looseName "$" = "$" := by decide +kernel
  have hunnamed : ∀ entry ∈ table.binary ++ table.scripts, ("$" != entry.1) = true := by
    intro entry hentry
    refine bne_iff_ne.2 fun heq => ?_
    have hletters := List.all_eq_true.1 table.named entry hentry
    rw [← heq] at hletters
    exact absurd hletters (by decide)
  have hbinary : table.binary.lookup "$" = none := List.lookup_eq_none_iff.2 fun entry hentry =>
    hunnamed entry (List.mem_append_left _ hentry)
  have hscript : table.scripts.lookup "$" = none := List.lookup_eq_none_iff.2 fun entry hentry =>
    hunnamed entry (List.mem_append_right _ hentry)
  simp only [PropertyName.property?, hloose, hbinary, hscript, ite_self]
  rfl

section Meanings

variable [PropertyTable]

theorem exists_toNode_of_mem_ofItems : ∀ {items : List Expr} {e : Expr} {f : Flags} {r : Node × Flags},
    (Expr.ofItems items).toNode f = .ok r → e ∈ items → ∃ f' r', e.toNode f' = .ok r'
  | [], _, _, _, _, he => absurd he List.not_mem_nil
  | [d], e, f, r, h, he => by
    rw [List.mem_singleton.1 he]
    exact ⟨f, r, h⟩
  | d :: d' :: ds, e, f, r, h, he => by
    have hcons : Expr.ofItems (d :: d' :: ds) = .cat d (Expr.ofItems (d' :: ds)) := rfl
    rw [hcons, Expr.toNode] at h
    obtain ⟨⟨m, f₁⟩, hd, h⟩ := bind_eq_ok.1 h
    obtain ⟨⟨n, f₂⟩, hds, -⟩ := bind_eq_ok.1 h
    rcases List.mem_cons.1 he with rfl | he
    · exact ⟨f, _, hd⟩
    · exact exists_toNode_of_mem_ofItems hds he

theorem exists_toNode_of_mem_ofBranches : ∀ {branches : List Expr} {e : Expr} {f : Flags} {r : Node × Flags},
    (Expr.ofBranches branches).toNode f = .ok r → e ∈ branches → ∃ f' r', e.toNode f' = .ok r'
  | [], _, _, _, _, he => absurd he List.not_mem_nil
  | [d], e, f, r, h, he => by
    rw [List.mem_singleton.1 he]
    exact ⟨f, r, h⟩
  | d :: d' :: ds, e, f, r, h, he => by
    have hcons : Expr.ofBranches (d :: d' :: ds) = .alt d (Expr.ofBranches (d' :: ds)) := rfl
    rw [hcons, Expr.toNode] at h
    obtain ⟨⟨m, f₁⟩, hd, h⟩ := bind_eq_ok.1 h
    obtain ⟨⟨n, f₂⟩, hds, -⟩ := bind_eq_ok.1 h
    rcases List.mem_cons.1 he with rfl | he
    · exact ⟨f, _, hd⟩
    · exact exists_toNode_of_mem_ofBranches hds he

theorem toNode_unknown (negated : Bool) (f : Flags) (r : Node × Flags) :
    (Expr.property (.single "$") negated).toNode f ≠ .ok r := by
  have hname : (PropertyName.single "$").property? = none := property?_dollar
  intro h
  rw [Expr.toNode, PropertyName.resolve, hname] at h
  cases hu : f.unicode <;> rw [hu] at h <;> cases h

theorem toNode_finish_unknown (st : Parser) (negated : Bool) (f : Flags) (r : Node × Flags) :
    (st.push (.property (.single "$") negated)).level.finish.toNode f ≠ .ok r := by
  intro h
  obtain ⟨f', r', hlast⟩ := exists_toNode_of_mem_ofBranches h (List.mem_reverse.2 (List.mem_cons_self ..))
  obtain ⟨f'', r'', hitem⟩ := exists_toNode_of_mem_ofItems hlast (List.mem_reverse.2 (List.mem_cons_self ..))
  exact toNode_unknown negated f'' r'' hitem

end Meanings

/-! ## The last character of a pattern -/

/-- The pattern ends in a comment that goes on behind it. So a closing parenthesis that follows is passed over, and
does not close a group that was never opened. -/
def CommentOpen (pattern : String) : Prop := ∃ e, parse (pattern ++ ")") = .ok e

/-- How many backslashes the text ends in. -/
def backslashes (text : List Char) : Nat := (text.reverse.takeWhile (· = '\\')).length

theorem backslashes_concat (text : List Char) (c : Char) :
    backslashes (text ++ [c]) = if c = '\\' then backslashes text + 1 else 0 := by
  unfold backslashes
  rw [List.reverse_append, List.reverse_singleton, List.singleton_append, List.takeWhile_cons]
  by_cases hc : c = '\\' <;> simp [hc]

section Last

variable {pattern : String} {q bs : List Char}

open RouteTable.Pattern.Parser

theorem exists_closed [PropertyTable] (hp : WellFormed pattern) (hopen : ¬ CommentOpen pattern) : ∃ t node flags,
    Closed {} pattern.toList t ∧ t.level.finish.toNode {} = .ok (node, flags) := by
  obtain ⟨e, node, flags, hparse, hnode⟩ := hp
  obtain ⟨t, ht, hclasses, henclosing, rfl, hn⟩ := parse_eq_ok.1 hparse
  refine ⟨t, node, flags, ⟨ht, hclasses, henclosing, fun h => ?_⟩, hnode⟩
  refine hopen ⟨_, parse_eq_ok.2 ⟨t, ?_, hclasses, henclosing, rfl, hn⟩⟩
  rw [String.toList_append]
  exact h

/-- A dollar sign behind backslashes that end a text is its last character. -/
theorem eq_nil_of_dollar {v left : List Char} (hbs : ∀ b ∈ bs, b = '\\') (h : bs ++ ['$'] = v ++ ['$'] ++ left) :
    left = [] := by
  rcases List.eq_nil_or_concat left with hnil | ⟨l, y, rfl⟩
  · exact hnil
  · rw [List.concat_eq_append, ← List.append_assoc] at h
    have hmem : '$' ∈ bs := by
      rw [(List.append_inj' h rfl).1]
      exact List.mem_append_left _ (List.mem_append_right _ (List.mem_singleton_self _))
    cases hbs _ hmem

/-- Among the marks that end a pattern which means something and leaves no comment open, the parser stands at each one
that is not escaped. -/
theorem stands_or_escaped [PropertyTable] (hp : WellFormed pattern) (hopen : ¬ CommentOpen pattern)
    (hq : pattern.toList = q ++ (bs ++ ['$'])) (hbs : ∀ b ∈ bs, b = '\\') : Stands pattern (bs ++ ['$']) ∨
      ∃ q', q = q' ++ ['\\'] ∧ Stands pattern ('\\' :: (bs ++ ['$'])) := by
  obtain ⟨t, node, flags, hclosed, hnode⟩ := exists_closed hp hopen
  have hmark : ∀ x ∈ bs ++ ['$'], Mark x := fun x hx => (List.mem_append.1 hx).imp (hbs x) List.mem_singleton.1
  have hbracket : ']' ∉ bs ++ ['$'] := fun hmem => absurd (hmark _ hmem) (by decide)
  have hline : '\n' ∉ bs ++ ['$'] := fun hmem => absurd (hmark _ hmem) (by decide)
  unfold Stands
  rw [hq] at hclosed ⊢
  rcases comes_or_jumps hclosed.ends q rfl with
    ⟨st, hcomes⟩ | ⟨q₁, c, pre, v, left, st, st₁, rfl, hrest, hv, hcomes, hstep⟩
  · exact .inl ⟨st, hcomes, hclosed.reads hcomes (by simp) hbracket hline⟩
  · obtain ⟨v', x, rfl⟩ : ∃ v' x, v = v' ++ [x] := ⟨_, _, (List.dropLast_append_getLast hv).symm⟩
    have htext : pre ++ (bs ++ ['$']) = pre ++ v' ++ [x] ++ left := by
      rw [hrest, List.append_assoc, List.append_assoc, List.append_assoc]
    have hcomes' := hcomes
    rw [htext] at hcomes' hstep
    rw [← List.append_assoc] at hstep
    have hx : Mark x := hmark x (hrest ▸ List.mem_append_left _ (List.mem_append_right _ (List.mem_singleton_self x)))
    have hleft : ']' ∉ left := fun hmem => hbracket (hrest ▸ List.mem_append_right _ hmem)
    obtain ⟨hreads, rfl, hu | ⟨rfl, negated, rfl⟩⟩ := hclosed.escapesMark hcomes' hx hstep hleft
    · obtain ⟨rfl, -⟩ := List.append_eq_nil_iff.1 hu
      exact .inr ⟨q₁, rfl, st, hcomes, hreads⟩
    · -- the step ends the text, so the property would be the last item of the pattern
      obtain rfl := eq_nil_of_dollar hbs hrest
      have hend := hcomes'.advance
      rw [advance_of_step_append hstep, hclosed.ends] at hend
      cases hend
      exact absurd hnode (toNode_finish_unknown st negated {} _)

/-- The parser does not stand behind a backslash that it stands at. -/
theorem not_stands_of_stands [PropertyTable] {rest : List Char} (hp : WellFormed pattern)
    (h : Stands pattern ('\\' :: rest)) : ¬ Stands pattern rest := by
  rintro ⟨st', hcomes', -⟩
  obtain ⟨st, hcomes, hreads⟩ := h
  obtain ⟨e, -, -, hparse, -⟩ := hp
  obtain ⟨t, ht, -⟩ := parse_eq_ok.1 hparse
  have hlater : Comes st ('\\' :: rest) st' rest := by
    refine (hcomes.linear hcomes').resolve_right fun h => ?_
    have := h.suffix.length_le
    rw [List.length_cons] at this
    omega
  rw [hcomes.advance] at ht
  obtain ⟨st₁, pre, text, rfl, hstep, -⟩ := exists_first_step ht
  have hpre := hreads.taken_ne_zero hstep
  rcases (comes_cons_iff hstep).1 hlater with ⟨-, heq⟩ | h
  · have := congrArg List.length heq
    rw [List.length_cons] at this
    omega
  · have := h.suffix.length_le
    rw [List.length_append] at this
    omega

/-- Of the marks that end the pattern, the first is not escaped exactly if an even number of backslashes stands before
it. -/
theorem stands_iff_even [PropertyTable] (hp : WellFormed pattern) (hopen : ¬ CommentOpen pattern)
    (q : List Char) : ∀ {bs : List Char}, pattern.toList = q ++ (bs ++ ['$']) → (∀ b ∈ bs, b = '\\') →
      (Stands pattern (bs ++ ['$']) ↔ Even (backslashes q)) := by
  induction q using List.reverseRecOn with
  | nil =>
    intro bs hq hbs
    refine ⟨fun _ => Even.zero, fun _ => ⟨{}, ?_, rfl, rfl⟩⟩
    rw [hq]
    exact .here ..
  | append_singleton q c ih =>
    intro bs hq hbs
    have hstands := stands_or_escaped hp hopen hq hbs
    rw [backslashes_concat]
    split
    · rename_i hc
      subst hc
      rw [List.append_assoc] at hq
      rw [Nat.even_add_one, ← ih hq (List.forall_mem_cons.2 ⟨rfl, hbs⟩)]
      exact ⟨fun h h' => not_stands_of_stands hp h' h, fun h => hstands.resolve_right fun ⟨_, _, h'⟩ => h h'⟩
    · rename_i hc
      refine ⟨fun _ => Even.zero, fun _ => hstands.resolve_right fun ⟨q', hq', _⟩ => hc ?_⟩
      exact List.singleton_inj.1 (List.append_inj' hq' rfl).2

/-- At an anchor that ends the pattern no comment is open: a parenthesis behind it would close a group. -/
theorem not_commentOpen_of_stands [PropertyTable] (hp : WellFormed pattern) (h : Stands pattern ['$']) :
    ¬ CommentOpen pattern := by
  rintro ⟨e', hclose⟩
  obtain ⟨st, hcomes, hreads⟩ := h
  obtain ⟨e, -, -, hparse, -⟩ := hp
  obtain ⟨t, ht, -, henclosing, -⟩ := parse_eq_ok.1 hparse
  obtain ⟨t', ht', -⟩ := parse_eq_ok.1 hclose
  have hlast : ∀ rest, st.step '$' rest = .ok (st.push (.assertion .lineEnd), 0) := fun rest =>
    hreads.step_eq_stepItem (.inr (.inl rfl)) rest
  have hreads' : (st.push (.assertion .lineEnd)).Reads := ⟨hreads.classes, hreads.inComment⟩
  rw [hcomes.advance, advance_of_step (hlast [])] at ht
  cases ht
  have hleave : (st.push (.assertion .lineEnd)).step ')' [] = .error .malformed := by
    rw [hreads'.step_eq_stepItem (.inr (.inr rfl)), stepItem, leave, henclosing]
    rfl
  have happend : (pattern ++ ")").toList = pattern.toList ++ [')'] := String.toList_append ..
  rw [happend, (hcomes.append_close (List.cons_ne_nil _ _)).advance, List.singleton_append,
    advance_of_step (hlast [')']), advance_of_step_error hleave] at ht'
  cases ht'

/-- A dollar sign at the end of a pattern that means something is read as an anchor exactly if an even number of
backslashes stands before it and no comment is open at the end. -/
theorem stands_last_iff [PropertyTable] (hp : WellFormed pattern) (hq : pattern.toList = q ++ ['$']) :
    Stands pattern ['$'] ↔ Even (backslashes q) ∧ ¬ CommentOpen pattern := by
  by_cases hopen : CommentOpen pattern
  · exact iff_of_false (fun h => not_commentOpen_of_stands hp h hopen) fun h => h.2 hopen
  · rw [and_iff_left hopen]
    exact stands_iff_even hp hopen q hq fun _ hnone => absurd hnone List.not_mem_nil

-- the comment takes the dollar sign, and would take more
example : CommentOpen "(?x)a#$" := ⟨_, rfl⟩

/-- The pattern ends in a dollar sign that is not escaped and stands in no comment. -/
def EndsInAnchor (pattern : String) : Prop :=
  ∃ q, pattern.toList = q ++ ['$'] ∧ Even (backslashes q) ∧ ¬ CommentOpen pattern

/-- The parser comes to an anchor before the last character of the pattern. -/
def AnchorWithin (pattern : String) : Prop :=
  ∃ c rest, rest ≠ [] ∧ Stands pattern (c :: rest) ∧ (c = '^' ∨ c = '$')

theorem stands_of_caret (h : ['^'] <+: pattern.toList) : ∃ rest, Stands pattern ('^' :: rest) := by
  obtain ⟨rest, hrest⟩ := h
  refine ⟨rest, {}, ?_, rfl, rfl⟩
  rw [← hrest]
  exact .here ..

theorem Stands.suffix {rest : List Char} (h : Stands pattern rest) : rest <:+ pattern.toList :=
  h.elim fun _ h => h.1.suffix

/-- A pattern that means something and begins with `^` or ends with `$` has an anchor exactly if one of these is an
anchor, or it has one within. -/
theorem anchored_iff_of_edge [PropertyTable] (hp : WellFormed pattern)
    (hedge : ['^'] <+: pattern.toList ∨ ['$'] <:+ pattern.toList) :
    Anchored pattern ↔ ['^'] <+: pattern.toList ∨ EndsInAnchor pattern ∨ AnchorWithin pattern := by
  have ⟨e, _, _, hparse, _⟩ := hp
  rw [anchored_iff_stands hparse]
  constructor
  · rintro ⟨c, rest, hstands, hc⟩
    by_cases hrest : rest = []
    · subst hrest
      rcases hc with rfl | rfl
      · refine hedge.imp_right fun hdollar => ?_
        have heq := List.suffix_of_suffix_length_le hstands.suffix hdollar (Nat.le_refl _)
        cases heq.eq_of_length rfl
      · obtain ⟨q, hq⟩ := hstands.suffix
        exact .inr (.inl ⟨q, hq.symm, (stands_last_iff hp hq.symm).1 hstands⟩)
    · exact .inr (.inr ⟨c, rest, hrest, hstands, hc⟩)
  · rintro (hcaret | ⟨q, hq, hlast⟩ | ⟨c, rest, -, hstands, hc⟩)
    · obtain ⟨rest, hstands⟩ := stands_of_caret hcaret
      exact ⟨'^', rest, hstands, .inl rfl⟩
    · exact ⟨'$', [], (stands_last_iff hp hq).2 hlast, .inr rfl⟩
    · exact ⟨c, rest, hstands, hc⟩

end Last

end RouteTable.Pattern
