/-
What the readers of the parts of a pattern take from a text does not depend on what follows the
text: a reader that succeeds has seen the end of its part. Only blanks and comments have no end of
their own; they are over when a significant character comes (`gap_append`), or when the text ends
outside a comment.
-/
import RouteTable.Proofs.Pattern.Reading
import Mathlib.Data.List.TakeWhile

namespace RouteTable.Pattern

open Unicode

variable {α : Type} {verbose : Bool}

/-- When the reader succeeds on a text, it does the same if a closing parenthesis and any other text
follow, and leaves them. -/
def Local (read : List Char → Except Fault (α × List Char)) : Prop :=
  ∀ {cs left : List Char} {a : α}, read cs = .ok (a, left) →
    ∀ more, read (cs ++ ')' :: more) = .ok (a, left ++ ')' :: more)

/-! ## Blanks -/

theorem dropBlanks_append {c : Char} {left : List Char} (more : List Char) : ∀ {cs : List Char} {inComment : Bool},
    dropBlanks inComment cs = c :: left → dropBlanks inComment (cs ++ more) = c :: (left ++ more)
  | [], _, h => by cases h
  | d :: cs, inComment, h => by
    rw [List.cons_append]
    unfold dropBlanks at h ⊢
    split at h
    · rw [if_pos ‹_›]; exact dropBlanks_append more h
    · rw [if_neg ‹_›]
      split at h
      · rw [if_pos ‹_›]; exact dropBlanks_append more h
      · rw [if_neg ‹_›]
        split at h
        · rw [if_pos ‹_›]; exact dropBlanks_append more h
        · rw [if_neg ‹_›]; cases h; rfl

theorem gap_append {c : Char} {cs left : List Char} (h : gap verbose cs = c :: left) (more : List Char) :
    gap verbose (cs ++ more) = c :: (left ++ more) := by
  unfold gap at h ⊢
  split at h
  · rw [if_pos ‹_›]; exact dropBlanks_append more h
  · rw [if_neg ‹_›, h, List.cons_append]

theorem dropWhile_append_of_cons {p : Char → Bool} {c : Char} {cs left : List Char}
    (h : cs.dropWhile p = c :: left) (more : List Char) : (cs ++ more).dropWhile p = c :: (left ++ more) := by
  rw [List.dropWhile_append, h]; rfl

theorem takeWhile_append_of_cons {p : Char → Bool} {c : Char} {cs left : List Char}
    (h : cs.dropWhile p = c :: left) (more : List Char) : (cs ++ more).takeWhile p = cs.takeWhile p := by
  have hlen : (cs.takeWhile p).length ≠ cs.length := by
    have := congrArg List.length (List.takeWhile_append_dropWhile (p := p) (l := cs))
    rw [List.length_append, h, List.length_cons] at this
    omega
  rw [List.takeWhile_append, if_neg hlen]

theorem local_braced : ∀ inComment, Local (braced verbose inComment) := by
  intro inComment cs
  induction cs generalizing inComment with
  | nil => intro left name h; cases h
  | cons c cs ih =>
    intro left name h more
    rw [List.cons_append]
    unfold braced at h ⊢
    split at h
    · rw [if_pos ‹_›]; exact ih _ h more
    · rw [if_neg ‹_›]
      split at h
      · rw [if_pos ‹_›]; exact ih _ h more
      · rw [if_neg ‹_›]
        split at h
        · rw [if_pos ‹_›]; exact ih _ h more
        · rw [if_neg ‹_›]
          split at h
          · rw [if_pos ‹_›]; cases h; rfl
          · rw [if_neg ‹_›]
            obtain ⟨⟨name', left'⟩, hb, h⟩ := bind_eq_ok.1 h
            cases h
            rw [ih _ hb more]; rfl

/-! ## Repetition counts -/

theorem digits_append {c : Char} {left : List Char} {r : Option Nat} (more : List Char) :
    ∀ {cs : List Char} {inComment : Bool} {n : Option Nat}, digits verbose inComment n cs = (r, c :: left) →
      digits verbose inComment n (cs ++ more) = (r, c :: (left ++ more))
  | [], _, _, h => by cases h
  | d :: cs, inComment, n, h => by
    rw [List.cons_append]
    unfold digits at h ⊢
    split at h
    · rw [if_pos ‹_›]; exact digits_append more h
    · rw [if_neg ‹_›]
      split at h
      · rw [if_pos ‹_›]; exact digits_append more h
      · rw [if_neg ‹_›]
        split at h
        · rw [if_pos ‹_›]; exact digits_append more h
        · rw [if_neg ‹_›]
          split at h
          · rw [if_pos ‹_›]; exact digits_append more h
          · rw [if_neg ‹_›]; cases h; rfl

theorem decimal_append {c : Char} {cs left : List Char} {n : Nat} (h : decimal verbose cs = .ok (n, c :: left))
    (more : List Char) : decimal verbose (cs ++ more) = .ok (n, c :: (left ++ more)) := by
  unfold decimal at h ⊢
  cases hcs : cs.dropWhile isWhiteSpace with
  | nil => rw [hcs] at h; cases h
  | cons d ds =>
    rw [dropWhile_append_of_cons hcs, ← List.cons_append]
    rw [hcs] at h
    cases hd : digits verbose false none (d :: ds) with
    | mk r left' =>
      rw [hd] at h
      cases r with
      | none => cases h
      | some m =>
        simp only at h
        split at h
        · rename_i hm
          rw [Except.ok.injEq, Prod.mk.injEq] at h
          obtain ⟨rfl, h⟩ := h
          cases left' with
          | nil => cases h
          | cons e left' =>
            rw [digits_append more hd]
            simp only [if_pos hm]
            rw [← List.cons_append, dropWhile_append_of_cons h]
        · cases h

theorem decimal_gap_append {c : Char} {cs left : List Char} {n : Nat}
    (h : decimal verbose (gap verbose cs) = .ok (n, c :: left)) (more : List Char) :
    decimal verbose (gap verbose (cs ++ more)) = .ok (n, c :: (left ++ more)) := by
  cases hcs : gap verbose cs with
  | nil => rw [hcs] at h; cases h
  | cons d ds => rw [gap_append hcs, ← List.cons_append]; rw [hcs] at h; exact decimal_append h more

theorem local_counts : Local (counts verbose) := by
  intro cs left bounds h more
  unfold counts at h ⊢
  obtain ⟨⟨least, left₁⟩, hleast, h⟩ := bind_eq_ok.1 h
  dsimp only at h
  split at h
  · cases h
    rw [decimal_gap_append hleast (')' :: more)]; rfl
  · rename_i left₂
    rw [decimal_gap_append hleast (')' :: more)]
    simp only [bind, Except.bind]
    split at h
    · -- no upper bound
      rename_i hgap
      cases h
      rw [gap_append hgap (')' :: more)]; rfl
    · -- an upper bound, whose digits show that the text does not end here
      rename_i hopen
      obtain ⟨⟨most, left₃⟩, hmost, h⟩ := bind_eq_ok.1 h
      dsimp only at h
      split at h
      · have hmost' := decimal_gap_append hmost (')' :: more)
        split
        · rename_i hgap
          cases hleft : gap verbose left₂ with
          | nil => rw [hleft] at hmost; cases hmost
          | cons d ds =>
            rw [gap_append hleft] at hgap
            cases hgap
            exact absurd hleft (hopen ds)
        · rw [hmost']
          simp only
          split at h
          · rw [if_pos ‹_›]; cases h; rfl
          · cases h
      · cases h
  · cases h

/-! ## Escapes -/

theorem local_hexDigits (k n : Nat) : Local (hexDigits verbose n k) := by
  induction k generalizing n with
  | zero =>
    intro cs left m h more
    cases h; rfl
  | succ k ih =>
    intro cs left m h more
    unfold hexDigits at h ⊢
    cases hgap : gap verbose cs with
    | nil => simp only [hgap] at h; cases h
    | cons c rest =>
      simp only [hgap] at h
      simp only [gap_append hgap]
      cases hv : hexValue? c with
      | none => simp only [hv] at h; cases h
      | some d => simp only [hv] at h ⊢; exact ih _ h more

theorem local_codePoint {width : Nat} (hw : 0 < width) : Local (codePoint verbose width) := by
  intro cs left e h more
  unfold codePoint at h ⊢
  dsimp only at h ⊢
  split at h
  · rename_i left₁ hgap
    simp only [gap_append hgap]
    obtain ⟨⟨ds, left₂⟩, hb, h⟩ := bind_eq_ok.1 h
    rw [local_braced false hb more]
    dsimp only [bind, Except.bind] at h ⊢
    split at h
    · dsimp only [pure, Except.pure] at h ⊢
      split at h
      · cases h; rfl
      · cases h
    · cases h
  · rename_i hopen
    obtain ⟨⟨n, left₁⟩, hx, h⟩ := bind_eq_ok.1 h
    cases hgap : gap verbose cs with
    | nil =>
      -- the text has ended, but there is a digit to come
      obtain ⟨k, rfl⟩ := Nat.exists_eq_succ_of_ne_zero (Nat.ne_of_gt hw)
      have hnil : gap verbose [] = [] := by cases verbose <;> rfl
      rw [hgap, hexDigits, hnil] at hx
      cases hx
    | cons c rest =>
      rw [hgap] at hx
      rw [gap_append hgap, ← List.cons_append]
      dsimp only [pure, Except.pure, bind, Except.bind] at h
      split
      · rename_i heq
        cases heq
        exact absurd hgap (hopen rest)
      · rw [local_hexDigits _ _ hx more]
        dsimp only [bind, Except.bind, pure, Except.pure]
        split at h
        · cases h; rfl
        · cases h

theorem local_property (negated : Bool) : Local (property verbose negated) := by
  intro cs left e h more
  unfold property at h ⊢
  split at h
  · cases h
  · rename_i hgap
    simp only [gap_append hgap]
    obtain ⟨⟨name, left₁⟩, hb, h⟩ := bind_eq_ok.1 h
    cases h
    rw [local_braced false hb more]; rfl
  · cases h
  · rename_i c left₁ hbrace hbackslash hgap
    cases h
    simp only [gap_append hgap]

theorem local_boundary : Local (boundary verbose) := by
  intro cs left e h more
  unfold boundary at h ⊢
  split at h
  · rename_i inner
    rw [List.cons_append]
    simp only
    split at h
    · cases h
    · rename_i c left₁ hgap
      simp only [gap_append hgap]
      split at h
      · rw [if_pos ‹_›]
        obtain ⟨⟨name, left₂⟩, hb, h⟩ := bind_eq_ok.1 h
        rw [local_braced false hb more]
        simp only [bind, Except.bind]
        dsimp only at h
        split at h <;> cases h <;> rfl
      · rw [if_neg ‹_›]
        cases h; rfl
  · rename_i hbrace
    cases h
    split
    · rename_i heq
      cases cs with
      | nil => cases heq
      | cons c cs => cases heq; exact absurd rfl (hbrace cs)
    · rfl

theorem local_escape : Local (escape verbose) := by
  intro cs left e h more
  cases cs with
  | nil => cases h
  | cons c cs =>
    rw [List.cons_append]
    unfold escape at h ⊢
    dsimp only at h ⊢
    split at h
    all_goals first
      | exact local_codePoint (by decide) h more
      | exact local_property _ h more
      | exact local_boundary h more
      | (cases h; rfl)
      | skip
    split at h
    · rw [if_pos ‹_›]; cases h; rfl
    · cases h

/-! ## Openings of groups -/

theorem local_groupName : Local groupName := by
  intro cs left o h more
  unfold groupName at h ⊢
  cases hd : cs.dropWhile (· != '>') with
  | nil => rw [hd] at h; split at h <;> simp_all
  | cons d rest =>
    rw [dropWhile_append_of_cons hd, takeWhile_append_of_cons hd]
    rw [hd] at h
    split at h
    · rename_i c name _ left₁ htake hdrop
      cases hdrop
      split at h
      · rw [htake]
        simp only
        rw [if_pos ‹_›]; cases h; rfl
      · cases h
    · cases h

theorem local_flagSettings (turnOn hanging : Bool) (settings : FlagSettings) :
    Local (flagSettings turnOn hanging settings) := by
  intro cs
  induction cs generalizing turnOn hanging settings with
  | nil => intro left o h; cases h
  | cons c cs ih =>
    intro left o h more
    rw [List.cons_append]
    by_cases hcolon : c = ':'
    · subst hcolon
      simp only [flagSettings] at h ⊢
      split at h
      · cases h
      · rw [if_neg ‹_›]; cases h; rfl
    by_cases hclose : c = ')'
    · subst hclose
      simp only [flagSettings] at h ⊢
      split at h
      · cases h
      · rw [if_neg ‹_›]; cases h; rfl
    by_cases hhyphen : c = '-'
    · subst hhyphen
      simp only [flagSettings] at h ⊢
      split at h
      · rw [if_pos ‹_›]; exact ih _ _ _ h more
      · cases h
    · rw [flagSettings] at h ⊢
      cases hf : flagOf? c with
      | none => simp only [hf] at h; cases h
      | some flag =>
        simp only [hf] at h ⊢
        split at h
        · cases h
        · rw [if_neg ‹_›]; exact ih _ _ _ h more
      all_goals assumption

section Opening

variable {cs left name flags : List Char} {o : Opening} {c : Char}

theorem opening_of_capture (h : (gap verbose cs).head? ≠ some '?') :
    opening verbose cs = .ok (.capture none, gap verbose cs) := by
  unfold opening
  split
  case h_8 => rfl
  all_goals exact absurd (by rw [‹gap verbose cs = _›]; rfl) h

theorem opening_of_name (h : gap verbose cs = '?' :: 'P' :: '<' :: name) : opening verbose cs = groupName name := by
  unfold opening
  rw [h]
  rfl

theorem opening_of_angle (h : gap verbose cs = '?' :: '<' :: c :: name) (hc : c ≠ '=' ∧ c ≠ '!') :
    opening verbose cs = groupName (c :: name) := by
  unfold opening
  rw [h]
  split
  case h_8 hmark => exact absurd rfl (hmark _)
  case h_7 _ hangle heq => cases heq; exact absurd rfl (hangle _)
  all_goals rename_i heq; cases heq
  · exact absurd rfl hc.1
  · exact absurd rfl hc.2
  · rfl

/-- Flags follow the mark, unless a name or a look-around does. -/
theorem opening_of_flags (h : gap verbose cs = '?' :: c :: flags) (hc : c ∉ ['=', '!', '<', 'P']) :
    opening verbose cs = flagSettings true false [] (c :: flags) := by
  unfold opening
  rw [h]
  split
  case h_8 hmark => exact absurd rfl (hmark _)
  case h_7 heq => cases heq; rfl
  all_goals rename_i heq; cases heq; exact absurd (by decide) hc

/-- What an opening parenthesis can open. -/
theorem opening_cases (h : opening verbose cs = .ok (o, left)) :
    ((gap verbose cs).head? ≠ some '?' ∧ o = .capture none ∧ left = gap verbose cs) ∨
    (∃ name, gap verbose cs = '?' :: 'P' :: '<' :: name ∧ groupName name = .ok (o, left)) ∨
    (∃ c name, gap verbose cs = '?' :: '<' :: c :: name ∧ (c ≠ '=' ∧ c ≠ '!') ∧ groupName (c :: name) = .ok (o, left)) ∨
    ∃ c flags, gap verbose cs = '?' :: c :: flags ∧ c ∉ ['=', '!', '<', 'P'] ∧
      flagSettings true false [] (c :: flags) = .ok (o, left) := by
  unfold opening at h
  split at h
  · cases h
  · cases h
  · cases h
  · cases h
  · exact .inr (.inl ⟨_, ‹_›, h⟩)
  · rename_i name hahead hnot hgap
    rcases name with _ | ⟨c, name⟩
    · cases h
    · exact .inr (.inr (.inl ⟨c, name, hgap, ⟨fun hc => hahead _ (by rw [hc]), fun hc => hnot _ (by rw [hc])⟩, h⟩))
  · rename_i flags hahead hnot hbehind hnotBehind hnamed hangle hgap
    rcases flags with _ | ⟨c, flags⟩
    · cases h
    · refine .inr (.inr (.inr ⟨c, flags, hgap, ?_, h⟩))
      simp only [List.mem_cons, List.not_mem_nil, or_false]
      rintro (rfl | rfl | rfl | rfl) <;> cases h
  · rename_i hmark
    cases h
    refine .inl ⟨fun hhead => ?_, rfl, rfl⟩
    obtain ⟨rest, hrest⟩ := List.head?_eq_some_iff.1 hhead
    exact hmark _ hrest

/-- The opening of a group is seen to its end if anything follows the parenthesis at all. -/
theorem opening_append (h : opening verbose cs = .ok (o, left)) (hgap : gap verbose cs ≠ []) (more : List Char) :
    opening verbose (cs ++ ')' :: more) = .ok (o, left ++ ')' :: more) := by
  obtain ⟨d, rest, hd⟩ := List.exists_cons_of_ne_nil hgap
  rcases opening_cases h with ⟨hmark, rfl, rfl⟩ | ⟨name, hname, h⟩ | ⟨c, name, hname, hc, h⟩ | ⟨c, flags, hflags, hc, h⟩
  · have hmark' : (gap verbose (cs ++ ')' :: more)).head? ≠ some '?' := by
      rw [gap_append hd]; rwa [hd] at hmark
    rw [opening_of_capture hmark', gap_append hd, hd, List.cons_append]
  · rw [opening_of_name (gap_append hname _)]
    exact local_groupName h more
  · rw [opening_of_angle (gap_append hname _) hc]
    exact local_groupName h more
  · rw [opening_of_flags (gap_append hflags _) hc]
    exact local_flagSettings true false [] h more

end Opening

/-! ## Classes -/

/-- No named class has a parenthesis in its name. -/
theorem ofName?_eq_none {name : List Char} (h : ')' ∈ name) : AsciiClass.ofName? (String.ofList name) = none := by
  have hname : ')' ∈ (String.ofList name).toList := by simpa using h
  generalize String.ofList name = s at hname
  unfold AsciiClass.ofName?
  split
  all_goals first
    | rfl
    | exact absurd hname (by decide)

/-- The rest of a named class after the caret that it may begin with. -/
def namedClass? (negated : Bool) (cs : List Char) : Option (ClassExpr × List Char) :=
  match cs.dropWhile (· != ':') with
  | ':' :: ']' :: left =>
    (AsciiClass.ofName? (String.ofList (cs.takeWhile (· != ':')))).map fun kind => (.ascii kind negated, left)
  | _ => none

theorem namedClass?_append (negated : Bool) (cs more : List Char) :
    namedClass? negated (cs ++ ')' :: more) = (namedClass? negated cs).map fun p => (p.1, p.2 ++ ')' :: more) := by
  unfold namedClass?
  cases hd : cs.dropWhile (· != ':') with
  | nil =>
    have hall : ∀ c ∈ cs, (c != ':') = true := List.dropWhile_eq_nil_iff.1 hd
    have hmem : ')' ∈ (cs ++ ')' :: more).takeWhile (· != ':') := by
      rw [List.takeWhile_append_of_pos hall]
      simp
    rw [ofName?_eq_none hmem]
    simp only [Option.map_none]
    split <;> rfl
  | cons c rest =>
    rw [dropWhile_append_of_cons hd, takeWhile_append_of_cons hd]
    by_cases hend : c = ':' ∧ rest.head? = some ']'
    · obtain ⟨rfl, hrest⟩ := hend
      obtain ⟨left, rfl⟩ := List.head?_eq_some_iff.1 hrest
      simp only [List.cons_append]
      cases AsciiClass.ofName? (String.ofList (cs.takeWhile (· != ':'))) <;> rfl
    · split
      · rename_i left heq
        cases rest with
        | nil => cases heq
        | cons d rest => cases heq; exact absurd ⟨rfl, rfl⟩ hend
      · split
        · rename_i heq; cases heq; exact absurd ⟨rfl, rfl⟩ hend
        · rfl

/-- Whether a bracket begins a named class is decided before the text ends. -/
theorem asciiClass?_append (cs more : List Char) :
    asciiClass? (cs ++ ')' :: more) = (asciiClass? cs).map fun p => (p.1, p.2 ++ ')' :: more) := by
  rcases cs with _ | ⟨c, cs⟩
  · rfl
  rw [List.cons_append]
  by_cases hc : c = ':'
  · subst hc
    unfold asciiClass?
    by_cases hcaret : cs.head? = some '^'
    · obtain ⟨name, rfl⟩ := List.head?_eq_some_iff.1 hcaret
      exact namedClass?_append true name more
    · have hcaret' : (cs ++ ')' :: more).head? ≠ some '^' := by
        cases cs with
        | nil => simp
        | cons d cs => exact hcaret
      simp only [beq_eq_false_iff_ne.2 hcaret, beq_eq_false_iff_ne.2 hcaret']
      exact namedClass?_append false cs more
  · unfold asciiClass?
    split
    · rename_i heq; cases heq; exact absurd rfl hc
    · split
      · rename_i heq; cases heq; exact absurd rfl hc
      · rfl

theorem local_classAtom (c : Char) : Local (classAtom verbose c) := by
  intro cs left e h more
  unfold classAtom at h ⊢
  split at h
  · rw [if_pos ‹_›]; exact local_escape h more
  · rw [if_neg ‹_›]; cases h; rfl

theorem peekPast_append {c : Char} (more : List Char) : ∀ {cs : List Char} {hashSeen : Bool},
    peekPast hashSeen cs = some c → peekPast hashSeen (cs ++ more) = some c
  | [], _, h => by cases h
  | d :: cs, hashSeen, h => by
    rw [List.cons_append]
    unfold peekPast at h ⊢
    split at h
    · rw [if_pos ‹_›]; exact peekPast_append more h
    · rw [if_neg ‹_›]
      split at h
      · rw [if_pos ‹_›]; exact peekPast_append more h
      · rw [if_neg ‹_›]; exact h

/-- Where something significant follows, the character that decides about a range is found. -/
theorem exists_peekPast {c : Char} {left : List Char} : ∀ {cs : List Char} {inComment : Bool} (hashSeen : Bool),
    dropBlanks inComment cs = c :: left → ∃ d, peekPast hashSeen cs = some d
  | [], _, _, h => by cases h
  | d :: cs, inComment, hashSeen, h => by
    unfold dropBlanks at h
    unfold peekPast
    by_cases hblank : isWhiteSpace d = true
    · rw [if_pos hblank]
      rw [if_pos hblank] at h
      split at h <;> exact exists_peekPast _ h
    · rw [if_neg hblank]
      rw [if_neg hblank] at h
      split
      · rename_i hhash
        have hd : d = '#' := of_decide_eq_true (Bool.and_eq_true_iff.1 hhash).1
        rw [if_pos hd] at h
        split at h <;> exact exists_peekPast _ h
      · exact ⟨d, rfl⟩

theorem peek?_append {c : Char} {cs left : List Char} (h : gap verbose cs = c :: left) (more : List Char) :
    peek? verbose (cs ++ more) = peek? verbose cs := by
  unfold gap at h
  unfold peek?
  split at h
  · obtain ⟨d, hd⟩ := exists_peekPast false h
    rw [if_pos ‹_›, if_pos ‹_›, hd, peekPast_append more hd]; rfl
  · rw [if_neg ‹_›, if_neg ‹_›, h]; rfl

/-- A character that rules a range out is found before the text ends. -/
theorem peek?_append_of_mem {c : Char} {cs : List Char} (hc : c ∈ [']', '-']) (h : peek? verbose cs = some c)
    (more : List Char) : peek? verbose (cs ++ more) = some c := by
  have hhead : cs.head? = some c → ∃ left, cs = c :: left := by
    intro hhead
    obtain ⟨left, rfl⟩ := List.head?_eq_some_iff.1 hhead
    exact ⟨left, rfl⟩
  unfold peek? at h ⊢
  split at h
  · rw [if_pos ‹_›]
    cases hp : peekPast false cs with
    | some d =>
      rw [hp] at h
      rw [peekPast_append more hp]; exact h
    | none =>
      rw [hp] at h
      obtain ⟨left, rfl⟩ := hhead h
      have hsome : peekPast false (c :: left) = some c := by
        rcases List.mem_cons.1 hc with rfl | hc
        · rfl
        · rw [List.mem_singleton.1 hc]; rfl
      rw [hsome] at hp; cases hp
  · rw [if_neg ‹_›]
    obtain ⟨left, rfl⟩ := hhead h
    rfl

theorem local_classItem (c : Char) : Local (classItem verbose c) := by
  intro cs left e h more
  unfold classItem at h ⊢
  obtain ⟨⟨first, left₁⟩, hfirst, h⟩ := bind_eq_ok.1 h
  rw [local_classAtom c hfirst more]
  dsimp only [bind, Except.bind] at h ⊢
  split at h
  · cases h
  · rename_i after hgap
    simp only [gap_append hgap]
    split at h
    · -- the hyphen ends the class or belongs to an operator
      rename_i hend
      have hpeek : peek? verbose (after ++ ')' :: more) = peek? verbose after := by
        rcases Bool.or_eq_true_iff.1 hend with hp | hp
        · rw [of_decide_eq_true hp, peek?_append_of_mem (by decide) (of_decide_eq_true hp)]
        · rw [of_decide_eq_true hp, peek?_append_of_mem (by decide) (of_decide_eq_true hp)]
      rw [hpeek, if_pos hend]
      cases hi : first.toItem with
      | error fault => rw [hi] at h; cases h
      | ok item => rw [hi] at h; cases h; rfl
    · -- the hyphen makes a range
      rename_i hend
      cases hafter : gap verbose after with
      | nil => rw [hafter] at h; cases h
      | cons d left₂ =>
        rw [peek?_append hafter, if_neg hend, gap_append hafter]
        rw [hafter] at h
        dsimp only at h ⊢
        cases hlast : classAtom verbose d left₂ with
        | error fault => rw [hlast] at h; cases h
        | ok r =>
          obtain ⟨last, left₃⟩ := r
          rw [local_classAtom d hlast more]
          rw [hlast] at h
          dsimp only at h ⊢
          split at h
          · split at h
            · rw [if_pos ‹_›]; cases h; rfl
            · cases h
          · cases h
  · rename_i hnil hhyphen
    cases hgap : gap verbose left₁ with
    | nil => exact absurd hgap hnil
    | cons d left₂ =>
      rw [gap_append hgap]
      rw [hgap] at h
      split
      · rename_i heq; cases heq
      · rename_i heq
        cases heq
        exact absurd hgap (hhyphen left₂)
      · cases hi : first.toItem with
        | error fault => rw [hi] at h; cases h
        | ok item => rw [hi] at h; cases h; rfl

end RouteTable.Pattern
