/-
What a sequence of items matches. `Cut` cuts a stretch of a text into consecutive pieces, one for
each member of a list; the items of a pattern that leave the flags alone match one after the other
in this sense (`matches_ofItems`), and an anchored pattern made of them matches a text if the whole
of it can be cut so (`search_of_yields`). The rest is what the items match that routes are put
together from.
-/
import RouteTable.Proofs.Pattern.Language
import RouteTable.Proofs.Pattern.Reading

namespace RouteTable.Pattern

/-! ## Cuts -/

section Cut

variable {α β : Type} {R S : α → List Char → List Char → List Char → Prop}
  {before word after : List Char}

/-- The stretch `word` of a text consists of consecutive pieces, one for each member of the list,
that `R` admits for it, given the text before and the text after the piece. -/
def Cut (R : α → List Char → List Char → List Char → Prop) :
    List α → List Char → List Char → List Char → Prop
  | [], _, word, _ => word = []
  | a :: l, before, word, after =>
    ∃ u v, word = u ++ v ∧ R a before u (v ++ after) ∧ Cut R l (before ++ u) v after

theorem cut_singleton {a : α} : Cut R [a] before word after ↔ R a before word after := by
  constructor
  · rintro ⟨u, v, rfl, h, rfl⟩; simpa using h
  · intro h; exact ⟨word, [], by simp, by simpa using h, rfl⟩

theorem cut_append {l' : List α} : ∀ {l : List α} {before word : List Char},
    Cut R (l ++ l') before word after ↔
      ∃ u v, word = u ++ v ∧ Cut R l before u (v ++ after) ∧ Cut R l' (before ++ u) v after
  | [], before, word => by
    constructor
    · intro h; exact ⟨[], word, rfl, rfl, by simpa using h⟩
    · rintro ⟨u, v, rfl, rfl, h⟩; simpa using h
  | a :: l, before, word => by
    simp only [List.cons_append, Cut, cut_append (l := l)]
    constructor
    · rintro ⟨u, v, rfl, ha, u', v', rfl, h, h'⟩
      exact ⟨u ++ u', v', by simp, ⟨u, u', rfl, by simpa using ha, h⟩, by simpa using h'⟩
    · rintro ⟨u, v, rfl, ⟨u', v', rfl, ha, h⟩, h'⟩
      exact ⟨u', v' ++ v, by simp, by simpa using ha, v', v, rfl, h, by simpa using h'⟩

theorem cut_flatMap {items : β → List α} : ∀ {l : List β} {before word : List Char},
    Cut R (l.flatMap items) before word after ↔ Cut (fun b => Cut R (items b)) l before word after
  | [], _, _ => Iff.rfl
  | b :: l, before, word => by
    rw [List.flatMap_cons, cut_append]
    simp only [Cut, cut_flatMap (l := l)]

theorem cut_congr : ∀ {l : List α} {before word : List Char},
    (∀ a ∈ l, ∀ before word after, R a before word after ↔ S a before word after) →
      (Cut R l before word after ↔ Cut S l before word after)
  | [], _, _, _ => Iff.rfl
  | a :: l, before, word, h => by
    simp only [Cut, h a (List.mem_cons_self ..), cut_congr fun b hb => h b (List.mem_cons_of_mem _ hb)]

/-- A cut whose pieces do not depend on what is around them is a list of pieces. -/
theorem cut_iff_forall₂ {F : α → List Char → Prop} : ∀ {l : List α} {before word after : List Char},
    Cut (fun a _ piece _ => F a piece) l before word after ↔
      ∃ pieces : List (List Char), word = pieces.flatten ∧ List.Forall₂ F l pieces
  | [], _, word, _ => by
    constructor
    · rintro rfl; exact ⟨[], rfl, .nil⟩
    · rintro ⟨pieces, rfl, h⟩; cases h; rfl
  | a :: l, before, word, after => by
    simp only [Cut, cut_iff_forall₂ (l := l)]
    constructor
    · rintro ⟨u, _, rfl, ha, pieces, rfl, h⟩
      exact ⟨u :: pieces, rfl, .cons ha h⟩
    · rintro ⟨pieces, rfl, h⟩
      cases h with
      | cons ha h => exact ⟨_, _, rfl, ha, _, rfl, h⟩

end Cut

/-! ## Items -/

section Items

variable [PropertyTable]

/-- The pattern matches `word` in the text `before ++ word ++ after`, when no flags are set. -/
def Expr.Matches (e : Expr) (before word after : List Char) : Prop :=
  ∃ node flags, e.toNode {} = .ok (node, flags) ∧ node.Matches before word after

/-- The flags after the pattern are those before it, when those are the default. -/
def Expr.KeepsFlags (e : Expr) : Prop := ∀ {node : Node} {flags : Flags},
  e.toNode {} = .ok (node, flags) → flags = {}

theorem Expr.matches_iff {e : Expr} {node : Node} {flags : Flags} (h : e.toNode {} = .ok (node, flags))
    {before word after : List Char} : e.Matches before word after ↔ node.Matches before word after := by
  constructor
  · rintro ⟨_, _, h', hm⟩; rw [h] at h'; cases h'; exact hm
  · intro hm; exact ⟨node, flags, h, hm⟩

/-- Items match one after the other. -/
theorem matches_ofItems : ∀ {items : List Expr} {node : Node} {flags : Flags} {before word after : List Char},
    (∀ e ∈ items, e.KeepsFlags) → (Expr.ofItems items).toNode {} = .ok (node, flags) →
      (node.Matches before word after ↔ Cut Expr.Matches items before word after)
  | [], node, flags, before, word, after, _, h => by cases h; rfl
  | [e], node, flags, before, word, after, _, h => by
    rw [cut_singleton]
    exact (Expr.matches_iff h).symm
  | e :: e' :: es, node, flags, before, word, after, hk, h => by
    simp only [Expr.ofItems, Expr.toNode] at h
    cases he : e.toNode {} with
    | error fault => rw [he] at h; cases h
    | ok r =>
      obtain ⟨m, f⟩ := r
      -- the first item leaves the flags alone, so the others are read under the same
      have hf : f = {} := hk e (List.mem_cons_self ..) he
      subst hf
      rw [he] at h
      cases hes : (Expr.ofItems (e' :: es)).toNode {} with
      | error fault => simp only [bind, Except.bind, hes] at h; cases h
      | ok r =>
        obtain ⟨n, f⟩ := r
        simp only [bind, Except.bind, hes] at h
        cases h
        have ih : ∀ {before word after}, n.Matches before word after ↔
            Cut Expr.Matches (e' :: es) before word after := fun {_ _ _} =>
          matches_ofItems (fun d hd => hk d (List.mem_cons_of_mem _ hd)) hes
        rw [Cut]
        simp only [Node.Matches, ih, Expr.matches_iff he]

/-! ## Items that keep the flags -/

theorem keepsFlags_literal (l : Literal) : (Expr.literal l).KeepsFlags := fun {node flags} h => by
  unfold Expr.toNode at h
  cases hs : l.toSet {} with
  | error fault => rw [hs] at h; cases h
  | ok s => rw [hs] at h; cases h; rfl

theorem keepsFlags_assertion (a : Assertion) : (Expr.assertion a).KeepsFlags := fun h => by cases h; rfl

theorem keepsFlags_group (capturing : Bool) (settings : FlagSettings) (body : Expr) :
    (Expr.group capturing settings body).KeepsFlags := fun {node flags} h => by
  unfold Expr.toNode at h
  cases hb : body.toNode (Flags.apply {} settings) with
  | error fault => rw [hb] at h; cases h
  | ok r => rw [hb] at h; cases h; rfl

/-! ## Branches -/

/-- The pattern means something when no flags are set, and sets none. -/
def Expr.Settles (e : Expr) : Prop := ∃ node, e.toNode {} = .ok (node, {})

theorem Expr.Settles.keepsFlags {e : Expr} (h : e.Settles) : e.KeepsFlags := fun h' => by
  obtain ⟨node, hn⟩ := h
  rw [hn] at h'; cases h'; rfl

theorem settles_ofItems : ∀ {items : List Expr}, (∀ e ∈ items, e.Settles) → (Expr.ofItems items).Settles
  | [], _ => ⟨.empty, rfl⟩
  | [e], h => h e (List.mem_cons_self ..)
  | e :: e' :: es, h => by
    obtain ⟨m, hm⟩ := h e (List.mem_cons_self ..)
    obtain ⟨n, hn⟩ := settles_ofItems fun d hd => h d (List.mem_cons_of_mem _ hd)
    refine ⟨.cat m n, ?_⟩
    simp only [Expr.ofItems, Expr.toNode, hm, bind, Except.bind, hn, pure, Except.pure]

theorem matches_ofItems_of_settles {items : List Expr} {before word after : List Char}
    (h : ∀ e ∈ items, e.Settles) :
    (Expr.ofItems items).Matches before word after ↔ Cut Expr.Matches items before word after := by
  obtain ⟨node, hn⟩ := settles_ofItems h
  rw [Expr.matches_iff hn, matches_ofItems (fun e he => (h e he).keepsFlags) hn]

/-- Branches offer what each of them matches. -/
theorem toNode_ofBranches : ∀ {branches : List Expr}, branches ≠ [] → (∀ e ∈ branches, e.Settles) →
    ∃ node, (Expr.ofBranches branches).toNode {} = .ok (node, {}) ∧ ∀ before word after,
      node.Matches before word after ↔ ∃ e ∈ branches, e.Matches before word after
  | [e], _, h => by
    obtain ⟨node, hn⟩ := h e (List.mem_cons_self ..)
    refine ⟨node, hn, fun before word after => ?_⟩
    rw [← Expr.matches_iff hn]
    simp
  | e :: e' :: es, _, h => by
    obtain ⟨m, hm⟩ := h e (List.mem_cons_self ..)
    obtain ⟨n, hn, hes⟩ := toNode_ofBranches (List.cons_ne_nil _ _) fun d hd => h d (List.mem_cons_of_mem _ hd)
    refine ⟨.alt m n, ?_, fun before word after => ?_⟩
    · simp only [Expr.ofBranches, Expr.toNode, hm, bind, Except.bind, hn, pure, Except.pure]
    · rw [Node.Matches, hes, ← Expr.matches_iff hm]
      simp only [List.mem_cons, or_and_right, exists_or, exists_eq_left]

/-- A group that captures nothing and sets no flags is its body. -/
theorem matches_group {body : Expr} {before word after : List Char} :
    (Expr.group false [] body).Matches before word after ↔ body.Matches before word after := by
  have hflags : Flags.apply {} [] = {} := rfl
  unfold Expr.Matches
  rw [Expr.toNode, hflags]
  cases hn : body.toNode {} with
  | error fault => simp [bind, Except.bind]
  | ok r =>
    obtain ⟨n, f⟩ := r
    simp [bind, Except.bind, pure, Except.pure]

end Items

/-! ## Single characters -/

section Characters

variable {before word after : List Char}

theorem contains_single (c d : Char) : (CharSet.single c).contains d = true ↔ d = c := by
  simp only [CharSet.single, CharSet.contains, Bool.and_eq_true, decide_eq_true_eq]
  constructor
  · rintro ⟨h1, h2⟩; exact Char.le_antisymm h2 h1
  · rintro rfl; exact ⟨Char.le_refl _, Char.le_refl _⟩

theorem matches_literal [PropertyTable] (c : Char) :
    (Expr.literal ⟨c, false⟩).Matches before word after ↔ word = [c] := by
  have h : (Expr.literal ⟨c, false⟩).toNode {} = .ok (.set (.single c), {}) := rfl
  rw [Expr.matches_iff h]
  simp only [Node.Matches, contains_single]
  constructor
  · rintro ⟨d, rfl, rfl⟩; rfl
  · rintro rfl; exact ⟨c, rfl, rfl⟩

theorem cut_literals [PropertyTable] : ∀ {text before word : List Char},
    Cut Expr.Matches (text.map fun c => .literal ⟨c, false⟩) before word after ↔ word = text
  | [], _, _ => Iff.rfl
  | c :: text, before, word => by
    simp only [List.map_cons, Cut, matches_literal, cut_literals]
    constructor
    · rintro ⟨u, v, rfl, rfl, rfl⟩; rfl
    · rintro rfl; exact ⟨[c], text, rfl, rfl, rfl⟩

/-- Copies of a set are as many characters of it. -/
theorem copies_set {s : CharSet} : ∀ {k : Nat} {before word : List Char},
    Copies (Node.set s).Matches k before word after ↔ word.length = k ∧ ∀ c ∈ word, s.contains c = true
  | 0, before, word => by
    simp only [Copies, List.length_eq_zero_iff]
    constructor
    · rintro rfl; simp
    · exact And.left
  | k + 1, before, word => by
    constructor
    · rintro ⟨u, v, rfl, ⟨c, rfl, hc⟩, h⟩
      obtain ⟨rfl, hv⟩ := copies_set.1 h
      exact ⟨rfl, by simpa using ⟨hc, hv⟩⟩
    · rintro ⟨hlen, hall⟩
      cases word with
      | nil => cases hlen
      | cons c v =>
        refine ⟨[c], v, rfl, ⟨c, rfl, hall c (List.mem_cons_self ..)⟩, copies_set.2 ⟨by simpa using hlen, ?_⟩⟩
        exact fun d hd => hall d (List.mem_cons_of_mem _ hd)

/-- One or more characters of a set. -/
theorem matches_oneOrMore {s : CharSet} : (Node.repeated (.set s) 1 none).Matches before word after ↔
    word ≠ [] ∧ ∀ c ∈ word, s.contains c = true := by
  constructor
  · rintro ⟨k, hk, -, h⟩
    obtain ⟨rfl, hall⟩ := copies_set.1 h
    exact ⟨List.ne_nil_of_length_pos hk, hall⟩
  · rintro ⟨hne, hall⟩
    exact ⟨word.length, List.length_pos_iff.2 hne, by simp, copies_set.2 ⟨rfl, hall⟩⟩

end Characters

/-! ## The default patterns -/

section Defaults

variable [PropertyTable] {before word after : List Char}

theorem toNode_notSlashes : Parser.notSlashes.toNode {} =
    .ok (.repeated (.set (.compl (.single '/'))) 1 none, {}) := rfl

theorem keepsFlags_notSlashes : Parser.notSlashes.KeepsFlags := fun h => by
  rw [toNode_notSlashes] at h; cases h; rfl

theorem matches_notSlashes : Parser.notSlashes.Matches before word after ↔ word ≠ [] ∧ '/' ∉ word := by
  rw [Expr.matches_iff toNode_notSlashes, matches_oneOrMore]
  have hset : ∀ c, (CharSet.compl (.single '/')).contains c = true ↔ c ≠ '/' := fun c => by
    rw [CharSet.contains, Bool.not_eq_true', ← Bool.not_eq_true, contains_single]
  simp only [hset]
  refine and_congr_right fun _ => ⟨fun h hs => h _ hs rfl, fun h c hc he => h (he ▸ hc)⟩

theorem toNode_optionalSuffix : Parser.optionalSuffix.toNode {} = .ok (.repeated (.cat (.set (.single '.'))
    (.repeated (.set (.compl (.single '/'))) 1 none)) 0 (some 1), {}) := rfl

theorem keepsFlags_optionalSuffix : Parser.optionalSuffix.KeepsFlags := fun h => by
  rw [toNode_optionalSuffix] at h; cases h; rfl

theorem matches_optionalSuffix : Parser.optionalSuffix.Matches before word after ↔
    word = [] ∨ ∃ suffix, word = '.' :: suffix ∧ suffix ≠ [] ∧ '/' ∉ suffix := by
  have hrest : ∀ {before word after}, (Node.repeated (.set (.compl (.single '/'))) 1 none).Matches before word after ↔
      word ≠ [] ∧ '/' ∉ word := fun {_ _ _} => by rw [← matches_notSlashes, Expr.matches_iff toNode_notSlashes]
  rw [Expr.matches_iff toNode_optionalSuffix, Node.Matches]
  constructor
  · rintro ⟨k, -, hk, h⟩
    have hk : k ≤ 1 := by simpa using hk 1 rfl
    match k, hk with
    | 0, _ => exact .inl h
    | 1, _ =>
      obtain ⟨u, v, rfl, ⟨_, suffix, rfl, ⟨c, rfl, hc⟩, hsuffix⟩, hv⟩ := h
      obtain rfl : v = [] := hv
      rw [contains_single] at hc
      subst hc
      exact .inr ⟨suffix, by simp, hrest.1 hsuffix⟩
  · rintro (rfl | ⟨suffix, rfl, hsuffix⟩)
    · exact ⟨0, Nat.le_refl _, by simp, rfl⟩
    · refine ⟨1, Nat.zero_le _, by simp, '.' :: suffix, [], by simp, ?_, rfl⟩
      exact ⟨['.'], suffix, rfl, ⟨'.', rfl, by decide⟩, hrest.2 hsuffix⟩

end Defaults

/-! ## Nesting -/

theorem nesting_lt_cat (first rest : Expr) : first.nesting < (Expr.cat first rest).nesting := by
  rw [Expr.nesting.eq_def (Expr.cat first rest)]
  dsimp only
  omega

theorem nesting_le_cat (first rest : Expr) : rest.nesting ≤ (Expr.cat first rest).nesting := by
  rw [Expr.nesting.eq_def (Expr.cat first rest)]
  dsimp only
  split <;> omega

theorem nesting_le_ofItems {e : Expr} : ∀ {items : List Expr}, e ∈ items → e.nesting ≤ (Expr.ofItems items).nesting
  | [d], h => by rw [List.mem_singleton.1 h]; exact Nat.le_refl _
  | d :: d' :: ds, h => by
    rw [show Expr.ofItems (d :: d' :: ds) = .cat d (Expr.ofItems (d' :: ds)) from rfl]
    rcases List.mem_cons.1 h with rfl | h
    · exact Nat.le_of_lt (nesting_lt_cat ..)
    · exact Nat.le_trans (nesting_le_ofItems h) (nesting_le_cat ..)

/-- Items do not nest more deeply in a sequence than one level. -/
theorem nesting_ofItems_le {limit : Nat} : ∀ {items : List Expr}, (∀ e ∈ items, e.nesting + 1 ≤ limit) →
    (Expr.ofItems items).nesting ≤ limit
  | [], _ => Nat.zero_le _
  | [e], h => Nat.le_of_succ_le (h e (List.mem_cons_self ..))
  | e :: e' :: es, h => by
    have he := h e (List.mem_cons_self ..)
    have hes := nesting_ofItems_le fun d hd => h d (List.mem_cons_of_mem _ hd)
    have he' := h e' (List.mem_cons_of_mem _ (List.mem_cons_self ..))
    rw [show Expr.ofItems (e :: e' :: es) = .cat e (Expr.ofItems (e' :: es)) from rfl, Expr.nesting.eq_def]
    dsimp only
    -- a single item behind `e` counts as a level of its own
    cases es with
    | nil =>
      rw [show Expr.ofItems [e'] = e' from rfl] at hes ⊢
      split <;> omega
    | cons d ds =>
      rw [show Expr.ofItems (e' :: d :: ds) = .cat e' (Expr.ofItems (d :: ds)) from rfl] at hes ⊢
      dsimp only
      omega

/-! ## Conditions on a position -/

/-- Some condition on a position occurs in the pattern. -/
def Expr.hasAssertion : Expr → Bool
  | .assertion _ => true
  | .repeated body _ _ => body.hasAssertion
  | .group _ _ body => body.hasAssertion
  | .cat first rest => first.hasAssertion || rest.hasAssertion
  | .alt first rest => first.hasAssertion || rest.hasAssertion
  | _ => false

def Node.hasLook : Node → Bool
  | .look _ => true
  | .repeated body _ _ => body.hasLook
  | .capture body => body.hasLook
  | .cat m n => m.hasLook || n.hasLook
  | .alt m n => m.hasLook || n.hasLook
  | _ => false

theorem hasLook_of_toNode [PropertyTable] (e : Expr) : ∀ {f f' : Flags} {node : Node}, e.hasAssertion = false →
    e.toNode f = .ok (node, f') → node.hasLook = false := by
  induction e with
  | empty | flags settings => intro f f' node _ h; cases h; rfl
  | assertion a => intro f f' node he _; cases he
  | literal l | dot | shorthand kind negated | property name negated | bracketed negated body =>
    intro f f' node _ h
    unfold Expr.toNode at h
    obtain ⟨s, _, h⟩ := bind_eq_ok.1 h
    -- a set of characters is looked up in one step or in two
    first
      | (cases h; rfl)
      | (obtain ⟨s, _, h⟩ := bind_eq_ok.1 h; cases h; rfl)
  | repeated body least most ih =>
    intro f f' node he h
    unfold Expr.toNode at h
    obtain ⟨⟨n, f''⟩, hn, h⟩ := bind_eq_ok.1 h
    cases h
    have hbody : n.hasLook = false := ih he hn
    exact hbody
  | group capturing settings body ih =>
    intro f f' node he h
    unfold Expr.toNode at h
    obtain ⟨⟨n, f''⟩, hn, h⟩ := bind_eq_ok.1 h
    have hlook := ih he hn
    cases capturing <;> cases h <;> exact hlook
  | cat first rest ih ih' | alt first rest ih ih' =>
    intro f f' node he h
    unfold Expr.toNode at h
    obtain ⟨⟨m, f₁⟩, hm, h⟩ := bind_eq_ok.1 h
    obtain ⟨⟨n, f₂⟩, hn, h⟩ := bind_eq_ok.1 h
    cases h
    obtain ⟨he, he'⟩ := Bool.or_eq_false_iff.1 he
    exact Bool.or_eq_false_iff.2 ⟨ih he hm, ih' he' hn⟩

theorem copies_anywhere {R : List Char → List Char → List Char → Prop}
    (hR : ∀ before word after before' after', R before word after → R before' word after') :
    ∀ {k : Nat} {before word after : List Char} (before' after' : List Char),
      Copies R k before word after → Copies R k before' word after'
  | 0, _, _, _, _, _, h => h
  | _ + 1, _, _, _, _, _, ⟨u, v, hw, hu, hv⟩ =>
    ⟨u, v, hw, hR _ _ _ _ _ hu, copies_anywhere hR _ _ hv⟩

/-- Without conditions on positions it does not matter what is around a stretch. -/
theorem matches_anywhere : ∀ (node : Node) {before word after : List Char}, node.hasLook = false →
    ∀ before' after', node.Matches before word after → node.Matches before' word after'
  | .empty, _, _, _, _, _, _, h => h
  | .set _, _, _, _, _, _, _, h => h
  | .cat m n, _, _, _, hl, _, _, ⟨u, v, hw, hm, hn⟩ =>
    have hl := Bool.or_eq_false_iff.1 hl
    ⟨u, v, hw, matches_anywhere m hl.1 _ _ hm, matches_anywhere n hl.2 _ _ hn⟩
  | .alt m n, _, _, _, hl, _, _, h =>
    have hl := Bool.or_eq_false_iff.1 hl
    h.imp (matches_anywhere m hl.1 _ _) (matches_anywhere n hl.2 _ _)
  | .repeated body _ _, _, _, _, hl, _, _, ⟨k, hk, hm, hc⟩ =>
    have hbody : ∀ before word after before' after',
        body.Matches before word after → body.Matches before' word after' :=
      fun _ _ _ => matches_anywhere body hl
    ⟨k, hk, hm, copies_anywhere hbody _ _ hc⟩
  | .capture body, _, _, _, hl, _, _, h => matches_anywhere body hl _ _ h

/-! ## Anchored patterns -/

section Anchored

variable [PropertyTable]

theorem matches_lineStart {before word after : List Char} :
    (Expr.assertion .lineStart).Matches before word after ↔ word = [] ∧ before = [] := by
  have h : (Expr.assertion .lineStart).toNode {} = .ok (.look .textStart, {}) := rfl
  rw [Expr.matches_iff h]
  simp [Node.Matches, Look.holds]

theorem matches_lineEnd {before word after : List Char} :
    (Expr.assertion .lineEnd).Matches before word after ↔ word = [] ∧ after = [] := by
  have h : (Expr.assertion .lineEnd).toNode {} = .ok (.look .textEnd, {}) := rfl
  rw [Expr.matches_iff h]
  simp [Node.Matches, Look.holds]

/-- A text has a program if it is a pattern that means something and is not too large. -/
theorem compile_eq_ok {source : String} {node : Node} : compile source = .ok node ↔
    ∃ e flags, parse source = .ok e ∧ e.toNode {} = .ok (node, flags) ∧ node.size ≤ sizeLimit := by
  unfold compile
  cases hp : parse source with
  | error fault => simp [bind, Except.bind]
  | ok e =>
    simp only [bind, Except.bind, Except.ok.injEq, exists_and_left, exists_eq_left']
    cases hn : e.toNode {} with
    | error fault => simp
    | ok r =>
      obtain ⟨node', flags⟩ := r
      simp only [Except.ok.injEq, Prod.mk.injEq]
      by_cases hs : node'.size ≤ sizeLimit
      · rw [if_pos hs]
        constructor
        · intro h; cases h; exact ⟨flags, ⟨rfl, rfl⟩, hs⟩
        · rintro ⟨_, ⟨rfl, rfl⟩, -⟩; rfl
      · rw [if_neg hs]
        constructor
        · intro h; cases h
        · rintro ⟨_, ⟨rfl, rfl⟩, hs'⟩; exact absurd hs' hs

/-- A pattern of items between anchors matches a text if the whole of it can be cut among them. -/
theorem search_of_parse {source : String} {items : List Expr} {node : Node}
    (hp : parse source = .ok (.ofItems ([.assertion .lineStart] ++ (items ++ [.assertion .lineEnd]))))
    (hk : ∀ e ∈ items, e.KeepsFlags) (hc : compile source = .ok node) (path : List Char) :
    node.search path = true ↔ Cut Expr.Matches items [] path [] := by
  have hk' : ∀ e ∈ [.assertion .lineStart] ++ (items ++ [.assertion .lineEnd]), e.KeepsFlags := by
    simp only [List.singleton_append, List.mem_cons, List.mem_append, List.not_mem_nil, or_false]
    rintro e (rfl | he | rfl)
    · exact keepsFlags_assertion _
    · exact hk e he
    · exact keepsFlags_assertion _
  obtain ⟨e, flags, hp', hn, -⟩ := compile_eq_ok.1 hc
  rw [hp] at hp'
  cases hp'
  rw [search_iff]
  simp only [matches_ofItems hk' hn, cut_append, cut_singleton, matches_lineStart, matches_lineEnd]
  constructor
  · rintro ⟨before, word, after, rfl, u, v, rfl, ⟨rfl, rfl⟩, u', v', rfl, h, rfl, rfl⟩
    simpa using h
  · intro h
    exact ⟨[], path, [], by simp, [], path, rfl, ⟨rfl, rfl⟩, path, [], by simp, by simpa using h, rfl, rfl⟩

theorem search_of_yields {source : String} {text : List Char} {items : List Expr} {node : Node}
    (hs : source.toList = '^' :: (text ++ ['$'])) (hy : Parser.Yields text items)
    (hk : ∀ e ∈ items, e.KeepsFlags) (hc : compile source = .ok node) (path : List Char) :
    node.search path = true ↔ Cut Expr.Matches items [] path [] := by
  have hy' : Parser.Yields source.toList ([.assertion .lineStart] ++ (items ++ [.assertion .lineEnd])) := by
    rw [hs]
    exact Parser.addsOnly_lineStart.yields.append (hy.append Parser.addsOnly_lineEnd.yields)
  obtain ⟨e, flags, hp, -, -⟩ := compile_eq_ok.1 hc
  have he := parse_of_yields hy' hp
  rw [he] at hp
  exact search_of_parse hp hk hc path

end Anchored
end RouteTable.Pattern
