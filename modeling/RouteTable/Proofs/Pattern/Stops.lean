/-
Where the readers of the parts of a pattern stop. A part ends in a bracket, a brace, a digit, a letter or white space,
but never in one of the two marks that decide how a pattern ends, a backslash and a dollar sign (`Closes`). So a step
that takes a mark as its last character is taken in a class, or it is an escape that takes nothing else (`step_last`).
-/
import RouteTable.Proofs.Pattern.Anchors

namespace RouteTable.Pattern

open Unicode

/-! ## Where the readers stop -/

/-- A backslash or a dollar sign. -/
def Mark (c : Char) : Prop := c = '\\' ∨ c = '$'

instance : DecidablePred Mark := fun c => inferInstanceAs (Decidable (c = '\\' ∨ c = '$'))

/-- The text before `left` ends, and not in a mark. -/
def Closes (cs left : List Char) : Prop := ∃ x, x :: left <:+ cs ∧ ¬ Mark x

section Readers

variable {verbose : Bool} {c : Char} {cs cs' left : List Char}

theorem Closes.mono (h : Closes cs left) (hs : cs <:+ cs') : Closes cs' left :=
  h.imp fun _ hx => ⟨hx.1.trans hs, hx.2⟩

theorem dropBlanks_suffix : ∀ (inComment : Bool) (cs : List Char), dropBlanks inComment cs <:+ cs
  | _, [] => List.suffix_refl _
  | inComment, c :: cs => by
    unfold dropBlanks
    split
    · exact (dropBlanks_suffix _ cs).trans (List.suffix_cons ..)
    split
    · exact (dropBlanks_suffix _ cs).trans (List.suffix_cons ..)
    split
    · exact (dropBlanks_suffix _ cs).trans (List.suffix_cons ..)
    · exact List.suffix_refl _

theorem gap_suffix (verbose : Bool) (cs : List Char) : gap verbose cs <:+ cs := by
  unfold gap
  split
  · exact dropBlanks_suffix ..
  · exact List.suffix_refl _

/-- Blanks end in white space, and a comment in a line break. -/
theorem closes_dropBlanks : ∀ {cs : List Char} {inComment : Bool}, dropBlanks inComment cs = c :: left →
    inComment = false ∧ cs = c :: left ∨ Closes cs (c :: left)
  | [], _, h => by cases h
  | d :: cs, inComment, h => by
    unfold dropBlanks at h
    split at h
    · refine .inr ?_
      rcases closes_dropBlanks h with ⟨hd, rfl⟩ | hcloses
      · obtain rfl : d = '\n' := by simpa using hd
        exact ⟨'\n', List.suffix_refl _, by decide⟩
      · exact hcloses.mono (List.suffix_cons ..)
    split at h
    · rename_i hblank
      refine .inr ?_
      rcases closes_dropBlanks h with ⟨-, rfl⟩ | hcloses
      · refine ⟨d, List.suffix_refl _, ?_⟩
        rintro (rfl | rfl) <;> exact absurd hblank (by decide)
      · exact hcloses.mono (List.suffix_cons ..)
    split at h
    · rcases closes_dropBlanks h with ⟨hfalse, -⟩ | hcloses
      · cases hfalse
      · exact .inr (hcloses.mono (List.suffix_cons ..))
    · exact .inl ⟨Bool.eq_false_iff.2 ‹_›, h⟩

theorem closes_gap (h : gap verbose cs = c :: left) : cs = c :: left ∨ Closes cs (c :: left) := by
  unfold gap at h
  split at h
  · exact (closes_dropBlanks h).imp_left And.right
  · exact .inl h

theorem braced_suffix : ∀ {cs name : List Char} {inComment : Bool},
    braced verbose inComment cs = .ok (name, left) → '\x7d' :: left <:+ cs
  | [], _, _, h => by cases h
  | c :: cs, name, inComment, h => by
    unfold braced at h
    split at h
    · exact (braced_suffix h).trans (List.suffix_cons ..)
    split at h
    · exact (braced_suffix h).trans (List.suffix_cons ..)
    split at h
    · exact (braced_suffix h).trans (List.suffix_cons ..)
    split at h
    · rename_i hbrace
      cases h
      exact hbrace ▸ List.suffix_refl _
    · obtain ⟨⟨name', left'⟩, hb, h⟩ := bind_eq_ok.1 h
      cases h
      exact (braced_suffix hb).trans (List.suffix_cons ..)

theorem closes_of_brace (h : '\x7d' :: left <:+ cs) : Closes cs left := ⟨_, h, by decide⟩

/-- In braces, after blanks. -/
theorem closes_braced {inner name : List Char} (hgap : gap verbose cs = '\x7b' :: inner)
    (h : braced verbose false inner = .ok (name, left)) : Closes cs left :=
  (closes_of_brace (braced_suffix h)).mono ((List.suffix_cons ..).trans (hgap ▸ gap_suffix verbose cs))

theorem digits_suffix : ∀ (inComment : Bool) (n : Option Nat) (cs : List Char),
    (digits verbose inComment n cs).2 <:+ cs
  | _, _, [] => List.suffix_refl _
  | inComment, n, c :: cs => by
    unfold digits
    split
    · exact (digits_suffix _ _ cs).trans (List.suffix_cons ..)
    split
    · exact (digits_suffix _ _ cs).trans (List.suffix_cons ..)
    split
    · exact (digits_suffix _ _ cs).trans (List.suffix_cons ..)
    split
    · exact (digits_suffix _ _ cs).trans (List.suffix_cons ..)
    · exact List.suffix_refl _

theorem decimal_suffix {n : Nat} (h : decimal verbose cs = .ok (n, left)) : left <:+ cs := by
  have hdigits : (digits verbose false none (cs.dropWhile isWhiteSpace)).2 <:+ cs.dropWhile isWhiteSpace :=
    digits_suffix ..
  unfold decimal at h
  split at h
  · rename_i m left' hd
    rw [hd] at hdigits
    split at h
    · cases h
      exact (List.dropWhile_suffix _).trans (hdigits.trans (List.dropWhile_suffix _))
    · cases h
  · cases h

theorem counts_suffix {bounds : Nat × Option Nat} (h : counts verbose cs = .ok (bounds, left)) :
    '\x7d' :: left <:+ cs := by
  unfold counts at h
  obtain ⟨⟨least, left₁⟩, hleast, h⟩ := bind_eq_ok.1 h
  have hleft₁ := (decimal_suffix hleast).trans (gap_suffix verbose cs)
  dsimp only at h
  split at h
  · cases h
    exact hleft₁
  · rename_i left₂
    have hgap : gap verbose left₂ <:+ cs := (gap_suffix verbose left₂).trans ((List.suffix_cons ..).trans hleft₁)
    split at h
    · rename_i heq
      cases h
      exact heq ▸ hgap
    · obtain ⟨⟨most, left₃⟩, hmost, h⟩ := bind_eq_ok.1 h
      have hleft₃ := (decimal_suffix hmost).trans hgap
      dsimp only at h
      split at h
      · split at h
        · cases h
          exact hleft₃
        · cases h
      · cases h
  · cases h

theorem closes_hexDigits {k : Nat} : ∀ {n m : Nat} {cs : List Char},
    hexDigits verbose n (k + 1) cs = .ok (m, left) → Closes cs left := by
  induction k with
  | zero =>
    intro n m cs h
    unfold hexDigits at h
    split at h
    · cases h
    · rename_i c rest hgap
      split at h
      · rename_i d hd
        cases h
        refine ⟨c, hgap ▸ gap_suffix verbose cs, ?_⟩
        rintro (rfl | rfl) <;> cases hd
      · cases h
  | succ k ih =>
    intro n m cs h
    rw [hexDigits] at h
    split at h
    · cases h
    · rename_i c rest hgap
      split at h
      · exact (ih h).mono ((List.suffix_cons ..).trans (hgap ▸ gap_suffix verbose cs))
      · cases h

theorem closes_codePoint {width : Nat} {e : Escape} (hw : 0 < width)
    (h : codePoint verbose width cs = .ok (e, left)) : Closes cs left := by
  rcases (codePoint_cases h).2 with ⟨inner, digits, hgap, hb⟩ | ⟨n, hx⟩
  · exact closes_braced hgap hb
  · obtain ⟨k, rfl⟩ := Nat.exists_eq_succ_of_ne_zero (Nat.ne_of_gt hw)
    exact (closes_hexDigits hx).mono (gap_suffix verbose cs)

/-- The letter of a property may be a dollar sign, though no property has that name. -/
theorem closes_property {negated : Bool} {e : Escape} (h : property verbose negated cs = .ok (e, left)) :
    Closes cs left ∨ '$' :: left <:+ cs ∧ e = .property (.single "$") negated := by
  rcases (property_cases h).2 with ⟨inner, name, hgap, hb⟩ | ⟨c, hc, hgap, rfl⟩
  · exact .inl (closes_braced hgap hb)
  · by_cases hdollar : c = '$'
    · subst hdollar
      exact .inr ⟨hgap ▸ gap_suffix verbose cs, rfl⟩
    · exact .inl ⟨c, hgap ▸ gap_suffix verbose cs, not_or.2 ⟨hc, hdollar⟩⟩

theorem closes_boundary {e : Escape} (h : boundary verbose cs = .ok (e, left)) : left = cs ∨ Closes cs left := by
  rcases (boundary_cases h).2 with rfl | ⟨inner, name, rfl, hb⟩
  · exact .inl rfl
  · exact .inr ((closes_of_brace (braced_suffix hb)).mono (List.suffix_cons ..))

/-- An escape takes a single character, or stops behind one of the others, or asks for a property that there is
not. -/
theorem closes_escape {e : Escape} (h : escape verbose cs = .ok (e, left)) : ∃ d more, cs = d :: more ∧
    (left = more ∨ Closes more left ∨ '$' :: left <:+ more ∧ ∃ negated, e = .property (.single "$") negated) := by
  obtain ⟨d, more, hcs, hcases⟩ := escape_cases h
  refine ⟨d, more, hcs, ?_⟩
  rcases hcases with ⟨width, hw, h⟩ | ⟨negated, h⟩ | h | ⟨rfl, -⟩
  · exact .inr (.inl (closes_codePoint hw h))
  · exact .inr ((closes_property h).imp_right fun he => ⟨he.1, negated, he.2⟩)
  · exact (closes_boundary h).imp_right .inl
  · exact .inl rfl

theorem closes_groupName {o : Opening} (h : groupName cs = .ok (o, left)) : Closes cs left := by
  unfold groupName at h
  split at h
  · rename_i c name d left' htake hdrop
    have hd : d = '>' := by
      have := List.head?_dropWhile_not (· != '>') cs
      rw [hdrop] at this
      simpa using this
    split at h
    · cases h
      subst hd
      exact ⟨'>', hdrop ▸ List.dropWhile_suffix _, by decide⟩
    · cases h
  · cases h

theorem closes_flagSettings : ∀ {cs : List Char} {turnOn hanging : Bool} {settings : FlagSettings} {o : Opening},
    flagSettings turnOn hanging settings cs = .ok (o, left) → Closes cs left
  | [], _, _, _, _, h => by cases h
  | c :: cs, turnOn, hanging, settings, o, h => by
    by_cases hcolon : c = ':'
    · subst hcolon
      simp only [flagSettings] at h
      split at h <;> cases h
      exact ⟨_, List.suffix_refl _, by decide⟩
    by_cases hclose : c = ')'
    · subst hclose
      simp only [flagSettings] at h
      split at h <;> cases h
      exact ⟨_, List.suffix_refl _, by decide⟩
    by_cases hhyphen : c = '-'
    · subst hhyphen
      simp only [flagSettings] at h
      split at h
      · exact (closes_flagSettings h).mono (List.suffix_cons ..)
      · cases h
    · rw [flagSettings] at h
      · split at h
        · split at h
          · cases h
          · exact (closes_flagSettings h).mono (List.suffix_cons ..)
        · cases h
      all_goals assumption

/-! ## Where a step may stop -/

/-- Nothing has been taken before `left`, or all of the text, or what has been taken closes. -/
def Stops (cs left : List Char) : Prop := left = cs ∨ left = [] ∨ Closes cs left

theorem Stops.of_closes (h : Closes cs left) : Stops cs left := .inr (.inr h)

theorem Stops.suffix (h : Stops cs left) : left <:+ cs := by
  rcases h with rfl | rfl | ⟨x, hx, -⟩
  · exact List.suffix_refl _
  · exact List.nil_suffix
  · exact (List.suffix_cons ..).trans hx

theorem Stops.trans (h : Stops cs cs') (h' : Stops cs' left) : Stops cs left := by
  rcases h' with rfl | rfl | h'
  · exact h
  · exact .inr (.inl rfl)
  · exact .of_closes (h'.mono h.suffix)

theorem stops_gap (verbose : Bool) (cs : List Char) : Stops cs (gap verbose cs) := by
  cases hgap : gap verbose cs with
  | nil => exact .inr (.inl rfl)
  | cons c left => exact (closes_gap hgap).imp Eq.symm .inr

theorem stops_dropLazyMark (cs : List Char) : Stops cs (dropLazyMark cs) := by
  unfold dropLazyMark
  split
  · exact .of_closes ⟨_, List.suffix_refl _, by decide⟩
  · exact .inl rfl

theorem stops_opening {o : Opening} (h : opening verbose cs = .ok (o, left)) : Stops cs left := by
  have hgap := gap_suffix verbose cs
  rcases opening_cases h with ⟨-, -, rfl⟩ | ⟨name, hname, h⟩ | ⟨c, name, hname, -, h⟩ | ⟨c, flags, hflags, -, h⟩
  · exact stops_gap verbose cs
  · rw [hname] at hgap
    have hname' : name <:+ '?' :: 'P' :: '<' :: name := List.suffix_append ['?', 'P', '<'] name
    exact .of_closes ((closes_groupName h).mono (hname'.trans hgap))
  · rw [hname] at hgap
    have hname' : c :: name <:+ '?' :: '<' :: c :: name := List.suffix_append ['?', '<'] (c :: name)
    exact .of_closes ((closes_groupName h).mono (hname'.trans hgap))
  · rw [hflags] at hgap
    exact .of_closes ((closes_flagSettings h).mono ((List.suffix_cons ..).trans hgap))

end Readers

namespace Parser

variable {st st' st'' st₁ t : Parser} {c x : Char} {rest rest' text left u : List Char} {k : Nat}

/-- What a step at `c` outside classes takes before `left`: it stops so, or a single character is escaped, or an
escape asks for a property that there is not. -/
inductive Takes (st : Parser) (c : Char) (rest : List Char) (st' : Parser) (left : List Char) : Prop
  | stops (h : Stops rest left)
  | escaped (d : Char) (hc : c = '\\') (hrest : rest = d :: left)
  | unknown (negated : Bool) (hc : c = '\\') (hleft : '$' :: left <:+ rest)
      (hst : st' = st.push (.property (.single "$") negated))

theorem Takes.suffix (h : Takes st c rest st' left) : left <:+ rest := by
  cases h with
  | stops h => exact h.suffix
  | escaped d hc hrest => exact hrest ▸ List.suffix_cons ..
  | unknown negated hc hleft hst => exact (List.suffix_cons ..).trans hleft

theorem stepItem_takes (h : st.stepItem c rest = .ok (st', k)) :
    ∃ left, k = taken rest left ∧ Takes st c rest st' left := by
  have hnone : ∃ left, 0 = taken rest left ∧ Takes st c rest st' left :=
    ⟨rest, (taken_self rest).symm, .stops (.inl rfl)⟩
  cases stepItem_cases h with
  | opens ho hst => exact ⟨_, rfl, .stops (stops_opening ho)⟩
  | repeats hc hst => exact ⟨_, rfl, .stops (stops_dropLazyMark rest)⟩
  | counted hcounts hst =>
    have hleft := Stops.of_closes (closes_of_brace (counts_suffix hcounts))
    exact ⟨_, rfl, .stops (hleft.trans ((stops_gap ..).trans (stops_dropLazyMark _)))⟩
  | escapes he =>
    refine ⟨_, rfl, ?_⟩
    obtain ⟨d, more, rfl, rfl | hcloses | ⟨hleft, negated, rfl⟩⟩ := closes_escape he
    · exact .escaped d rfl rfl
    · exact .stops (.of_closes (hcloses.mono (List.suffix_cons ..)))
    · exact .unknown negated rfl (hleft.trans (List.suffix_cons ..)) rfl
  | closes | branches | beginsClass | dot | lineStart | lineEnd | literal => exact hnone

/-- Outside classes and comments, a character that cannot begin a comment is read as an item. -/
theorem Reads.step_eq_stepItem (h : st.Reads) (hc : c = '\\' ∨ c = '$' ∨ c = ')') (rest : List Char) :
    st.step c rest = st.stepItem c rest := by
  have hother : isWhiteSpace c = false ∧ c ≠ '#' := by
    rcases hc with rfl | rfl | rfl <;> decide
  rw [step_eq, h.inComment, hother.1, decide_eq_false hother.2, Bool.and_false, stepText, h.classes]
  rfl

/-- A backslash outside classes and comments takes the character behind it. -/
theorem Reads.taken_ne_zero (h : st.Reads) (hstep : st.step '\\' rest = .ok (st', k)) : k ≠ 0 := by
  rw [h.step_eq_stepItem (.inl rfl), stepItem] at hstep
  obtain ⟨⟨e, left⟩, he, hstep⟩ := bind_eq_ok.1 hstep
  cases hstep
  obtain ⟨d, more, rfl, hleft⟩ := closes_escape he
  have hle : left.length ≤ more.length := by
    rcases hleft with rfl | ⟨x, hx, -⟩ | ⟨hx, -⟩
    · exact Nat.le_refl _
    · exact ((List.suffix_cons ..).trans hx).length_le
    · exact ((List.suffix_cons ..).trans hx).length_le
  rw [taken, List.length_cons]
  omega

/-! ## Open classes -/

/-- A class stays open, unless its bracket is closed here. -/
theorem step_classes (h : st.step c rest = .ok (st', k)) (hst : st.classes ≠ []) :
    st'.classes ≠ [] ∨ c = ']' ∧ k = 0 := by
  rcases step_cases h with ⟨inComment, rfl, -⟩ | ⟨hreads, -⟩ | ⟨level, outer, -, h⟩
  · exact .inl hst
  · exact absurd hreads.classes hst
  · rcases stepClass_cases h with ⟨first, classes, rfl, -⟩ | ⟨hc, hk, -⟩
    · exact .inl (List.cons_ne_nil _ _)
    · exact .inr ⟨hc, hk⟩

/-- An open class is closed by a bracket only. -/
theorem advance_classes (h : st.advance 0 text = .ok t) : ']' ∉ text → st.classes ≠ [] → t.classes ≠ [] := by
  refine read_induction (motive := fun st text => ']' ∉ text → st.classes ≠ [] → t.classes ≠ []) ?_ ?_ text h
  · exact fun _ hst => hst
  · intro st st₁ c taken text hstep _ ih hbracket hst
    refine ih (fun hmem => hbracket (List.mem_cons_of_mem _ (List.mem_append_right _ hmem))) ?_
    refine (step_classes hstep hst).resolve_right fun hc => hbracket ?_
    rw [hc.1]
    exact List.mem_cons_self ..

/-! ## The last character that a step takes -/

theorem eq_of_taken {pre : List Char} (hs : left <:+ pre ++ text) (hk : pre.length = taken (pre ++ text) left) :
    left = text := by
  obtain ⟨front, hfront⟩ := hs
  rw [← hfront, taken_append] at hk
  exact (List.append_inj hfront hk.symm).2

/-- A text closes behind its last character only. -/
theorem eq_of_suffix {y : Char} (h : y :: text <:+ u ++ [x] ++ text) : y = x := by
  rw [List.append_assoc] at h
  have heq : y :: text = [x] ++ text :=
    (List.suffix_of_suffix_length_le h (List.suffix_append u _) (Nat.le_refl _)).eq_of_length rfl
  exact (List.cons.inj heq).1

/-- A step at `c` that takes `u` and then the mark `x` is an escape of this mark alone, or asks for a property that
there is not. -/
structure EscapesMark (st : Parser) (c : Char) (u : List Char) (x : Char) (st' : Parser) : Prop where
  reads : st.Reads
  backslash : c = '\\'
  alone : u = [] ∨ x = '$' ∧ ∃ negated, st' = st.push (.property (.single "$") negated)

theorem stepItem_last (hst : st.Reads) (hx : Mark x) (htext : text ≠ [])
    (h : st.stepItem c (u ++ [x] ++ text) = .ok (st', (u ++ [x]).length)) : EscapesMark st c u x st' := by
  obtain ⟨left, hk, htakes⟩ := stepItem_takes h
  obtain rfl := eq_of_taken htakes.suffix hk
  cases htakes with
  | stops hstops =>
    rcases hstops with hall | hnil | ⟨y, hy, hmark⟩
    · have := congrArg List.length hall
      simp only [List.length_append, List.length_cons, List.length_nil] at this
      omega
    · exact absurd hnil htext
    · rw [eq_of_suffix hy] at hmark
      exact absurd hx hmark
  | escaped d hc hrest =>
    refine ⟨hst, hc, .inl ?_⟩
    have := congrArg List.length hrest
    simp only [List.length_append, List.length_cons, List.length_nil] at this
    exact List.length_eq_zero_iff.1 (by omega)
  | unknown negated hc hleft hst' => exact ⟨hst, hc, .inr ⟨(eq_of_suffix hleft).symm, negated, hst'⟩⟩

/-- A step whose last character is a mark is an escape, or is taken in a class. -/
theorem step_last (hx : Mark x) (htext : text ≠ [])
    (h : st.step c (u ++ [x] ++ text) = .ok (st', (u ++ [x]).length)) :
    st'.classes ≠ [] ∨ EscapesMark st c u x st' := by
  have hlen : (u ++ [x]).length ≠ 0 := by simp
  rcases step_cases h with ⟨inComment, -, hnone, -⟩ | ⟨hreads, hitem⟩ | ⟨level, outer, hclasses, -⟩
  · exact absurd hnone hlen
  · exact .inr (stepItem_last hreads hx htext hitem)
  · exact .inl ((step_classes h (hclasses ▸ List.cons_ne_nil _ _)).resolve_right fun hc => hlen hc.2)

end Parser

end RouteTable.Pattern
