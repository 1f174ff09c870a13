/-
Whether the patterns of a route stay inside their slots. Constraints and the compiler's own patterns
are put into the matcher as text, each in a group. A pattern that is accepted by itself and again in
its group keeps to its slot, whatever flags it sets and whatever stands around it; one that leaves a
comment open takes the close of its group, and all that follows on the line, into the comment.
-/
import RouteTable.Proofs.Compiler.Matcher
import RouteTable.Proofs.Pattern.Embedding
import RouteTable.Proofs.StringMap.Canonical
import Mathlib.Tactic.Choose

namespace RouteTable

open Pattern

/-! ## Patterns by themselves -/

/-- No condition on a position occurs in the pattern. -/
def NoAssertion (pattern : String) : Prop := ∀ e, parse pattern = .ok e → e.hasAssertion = false

theorem noAssertion_of_parse {pattern : String} {e : Expr} (hp : parse pattern = .ok e) (he : e.hasAssertion = false) :
    NoAssertion pattern := by
  intro e' he'
  rw [hp] at he'
  cases he'; exact he

section Patterns

variable [PropertyTable]

/-- The pattern, taken by itself, matches the whole of the text. -/
def MatchesFully (pattern : String) (text : List Char) : Prop :=
  ∃ node, Pattern.compile pattern = .ok node ∧ node.Matches [] text []

/-- The pattern is accepted in its group too, so it leaves no comment open. -/
def KeepsToGroup (pattern : String) : Prop := Accepted Pattern.compile (grouped pattern)

/-- The text stands in a matcher for the pattern: it is one item there, which matches what the
pattern matches by itself. -/
structure StandsFor (text pattern : String) (e : Expr) : Prop where
  yields : Parser.Yields text.toList [e]
  keepsFlags : e.KeepsFlags
  matches_iff : ∀ before word after, e.Matches before word after ↔ MatchesFully pattern word

theorem matchesFully_iff {pattern : String} {node : Node} (h : Pattern.compile pattern = .ok node) (text : List Char) :
    MatchesFully pattern text ↔ node.Matches [] text [] := by
  constructor
  · rintro ⟨node', h', hm⟩; rw [h] at h'; cases h'; exact hm
  · intro hm; exact ⟨node, h, hm⟩

/-- Without conditions on positions the group of a pattern matches what the pattern matches. -/
theorem matches_group_iff {pattern : String} {e : Expr} (hp : Accepted Pattern.compile pattern)
    (he : parse pattern = .ok e) (ha : NoAssertion pattern) (before word after : List Char) :
    (Expr.group false [] e).Matches before word after ↔ MatchesFully pattern word := by
  obtain ⟨node, hc⟩ := hp
  obtain ⟨e', flags, he', hn, -⟩ := compile_eq_ok.1 hc
  rw [he] at he'
  cases he'
  have hlook : node.hasLook = false := hasLook_of_toNode e (ha e he) hn
  rw [matches_group, Expr.matches_iff hn, matchesFully_iff hc]
  exact ⟨matches_anywhere node hlook _ _, matches_anywhere node hlook _ _⟩

theorem standsFor_grouped {pattern : String} (hp : Accepted Pattern.compile pattern) (hg : KeepsToGroup pattern)
    (ha : NoAssertion pattern) : ∃ e, StandsFor (grouped pattern) pattern e := by
  obtain ⟨node, hc⟩ := hp
  obtain ⟨node', hc'⟩ := hg
  obtain ⟨e, flags, he, -, -⟩ := compile_eq_ok.1 hc
  obtain ⟨e', flags', he', -, -⟩ := compile_eq_ok.1 hc'
  exact ⟨_, yields_group he he', keepsFlags_group _ _ _, matches_group_iff ⟨node, hc⟩ he ha⟩

theorem standsFor_notSlashes : StandsFor "[^/]+" "[^/]+" Parser.notSlashes := by
  refine ⟨Parser.addsOnly_notSlashes.yields, keepsFlags_notSlashes, fun before word after => ?_⟩
  have hc : Pattern.compile "[^/]+" = .ok (.repeated (.set (.compl (.single '/'))) 1 none) := by rfl
  rw [matchesFully_iff hc, matches_notSlashes, ← Expr.matches_iff toNode_notSlashes, matches_notSlashes]

theorem standsFor_optionalSuffix :
    StandsFor "(?:\\.[^/]+)?" "(?:\\.[^/]+)?" Parser.optionalSuffix := by
  refine ⟨Parser.addsOnly_optionalSuffix.yields, keepsFlags_optionalSuffix, fun before word after => ?_⟩
  have hc : Pattern.compile "(?:\\.[^/]+)?" = .ok (.repeated (.cat (.set (.single '.'))
    (.repeated (.set (.compl (.single '/'))) 1 none)) 0 (some 1)) := by rfl
  rw [matchesFully_iff hc, matches_optionalSuffix, ← Expr.matches_iff toNode_optionalSuffix, matches_optionalSuffix]

end Patterns

/-! ## Compilers and their slots -/

theorem mem_constrained {d : Descriptor} {name pattern : String} (hn : .parameter name ∈ d.parts)
    (hc : d.constraintFor? name = some pattern) : (name, pattern) ∈ d.constrained :=
  Compiler.mem_constrained_iff.2 ⟨Compiler.mem_parameters_iff.2 hn, hc⟩

section Compilers

variable [PropertyTable]

/-- The compiler has come from the default one by replacing patterns with accepted ones, and
`fallback` and `format` are the patterns that it has now. -/
inductive Configured : Compiler → String → String → Prop
  | default : Configured {} "[^/]+" "(?:\\.[^/]+)?"
  | parameter {k k' : Compiler} {fallback format pattern : String} (hk : Configured k fallback format)
      (h : k.withParameterPattern pattern = .ok k') : Configured k' pattern format
  | format {k k' : Compiler} {fallback format pattern : String} (hk : Configured k fallback format)
      (h : k.withFormatPattern pattern = .ok k') : Configured k' fallback pattern

/-- The pattern of a part of a template: none for a literal. -/
def slotPattern? (d : Descriptor) (fallback format : String) : TemplatePart → Option String
  | .literal _ => none
  | .format => some format
  | .parameter name => some ((d.constraintFor? name).getD fallback)

/-- The piece of a path that a part of a template stands for: a literal for its text, any other part
for what its pattern matches by itself. -/
def Fills (d : Descriptor) (fallback format : String) (part : TemplatePart) (piece : List Char) : Prop :=
  match part with
  | .literal text => piece = text.toList
  | .format => MatchesFully format piece
  | .parameter name => MatchesFully ((d.constraintFor? name).getD fallback) piece

/-- The text of a slot pattern is the default, or an accepted pattern in its group. -/
theorem Configured.cases {k : Compiler} {fallback format : String} (h : Configured k fallback format) :
    (k.parameterPattern = "[^/]+" ∧ fallback = "[^/]+" ∨
      k.parameterPattern = grouped fallback ∧ Accepted Pattern.compile fallback) ∧
    (k.formatPattern = "(?:\\.[^/]+)?" ∧ format = "(?:\\.[^/]+)?" ∨
      k.formatPattern = grouped format ∧ Accepted Pattern.compile format) := by
  induction h with
  | default => exact ⟨.inl ⟨rfl, rfl⟩, .inl ⟨rfl, rfl⟩⟩
  | parameter hk h ih =>
    obtain ⟨hp, rfl⟩ := map_group?_eq_ok h
    exact ⟨.inr ⟨rfl, hp⟩, ih.2⟩
  | format hk h ih =>
    obtain ⟨hp, rfl⟩ := map_group?_eq_ok h
    exact ⟨ih.1, .inr ⟨rfl, hp⟩⟩

/-- The text of a slot stands for the pattern of the slot. -/
theorem exists_standsFor {k : Compiler} {d : Descriptor} {fallback format pattern : String} {part : TemplatePart}
    (hk : Configured k fallback format) (hv : ∀ o ∈ d.constrained, Accepted Pattern.compile o.2)
    (hpart : part ∈ d.parts) (hp : slotPattern? d fallback format part = some pattern)
    (ha : NoAssertion pattern) (hg : KeepsToGroup pattern) :
    ∃ e, StandsFor (k.slotSource d part) pattern e := by
  cases part with
  | literal text => cases hp
  | format =>
    cases hp
    rcases hk.cases.2 with ⟨htext, rfl⟩ | ⟨htext, hacc⟩
    · exact ⟨_, by rw [Compiler.slotSource, htext]; exact standsFor_optionalSuffix⟩
    · rw [Compiler.slotSource, htext]; exact standsFor_grouped hacc hg ha
  | parameter name =>
    cases hc : d.constraintFor? name with
    | none =>
      simp only [slotPattern?, hc, Option.getD_none, Option.some.injEq] at hp
      subst hp
      simp only [Compiler.slotSource, hc]
      rcases hk.cases.1 with ⟨htext, rfl⟩ | ⟨htext, hacc⟩
      · exact ⟨_, by rw [htext]; exact standsFor_notSlashes⟩
      · rw [htext]; exact standsFor_grouped hacc hg ha
    | some constraint =>
      simp only [slotPattern?, hc, Option.getD_some, Option.some.injEq] at hp
      subst hp
      simp only [Compiler.slotSource, hc]
      exact standsFor_grouped (hv (name, constraint) (mem_constrained hpart hc)) hg ha

/-- If every pattern keeps to its group, and none asks for a position, then the route accepts the
concatenations of what its literals are and what the patterns of its slots match by themselves. -/
theorem matchesPath_iff_pieces {k : Compiler} {fallback format : String} {d : Descriptor} {r : Route}
    (hk : Configured k fallback format) (hliteral : ∀ text, .literal text ∈ d.parts → Plain text.toList)
    (hslots : ∀ part ∈ d.parts, ∀ pattern, slotPattern? d fallback format part = some pattern →
      NoAssertion pattern ∧ KeepsToGroup pattern)
    (hr : (k.compile d).value = .ok r) (path : String) :
    r.matchesPath path = true ↔
      ∃ pieces : List (List Char), path.toList = pieces.flatten ∧
        List.Forall₂ (Fills d fallback format) d.parts pieces := by
  have hv := (Compiler.compileBy_ok hr).2
  -- the text of every part adds items that match what may fill the part
  have hitems : ∀ part, ∃ items : List Expr, part ∈ d.parts →
      Parser.Yields (k.slotSource d part).toList items ∧ (∀ e ∈ items, e.KeepsFlags) ∧
        ∀ before word after, Cut Expr.Matches items before word after ↔ Fills d fallback format part word := by
    intro part
    by_cases hpart : part ∈ d.parts
    · cases hp : slotPattern? d fallback format part with
      | none =>
        cases part with
        | literal text =>
          refine ⟨text.toList.map fun c => .literal ⟨c, false⟩, fun _ =>
            ⟨(Parser.addsOnly_plain (hliteral text hpart)).yields, fun e he => ?_,
              fun before word after => cut_literals⟩⟩
          obtain ⟨c, -, rfl⟩ := List.mem_map.1 he
          exact keepsFlags_literal _
        | format => cases hp
        | parameter name => cases hp
      | some pattern =>
        obtain ⟨ha, hg⟩ := hslots part hpart pattern hp
        obtain ⟨e, he⟩ := exists_standsFor hk hv hpart hp ha hg
        refine ⟨[e], fun _ => ⟨he.yields, fun e' he' => ?_, fun before word after => ?_⟩⟩
        · rw [List.mem_singleton.1 he']; exact he.keepsFlags
        · rw [cut_singleton, he.matches_iff]
          cases part <;> cases hp <;> rfl
    · exact ⟨[], fun h => absurd h hpart⟩
  choose items hitems using hitems
  rw [Compiler.matchesPath_iff_cut (fun part hpart => (hitems part hpart).1)
    (fun part hpart => (hitems part hpart).2.1) hr, ← cut_iff_forall₂]
  exact cut_congr fun part hpart before word after => (hitems part hpart).2.2 before word after

end Compilers

/-! ## Comments that are left open -/

/-- A compiler with a format pattern that, behind an open comment, closes the group before it and
opens one of its own. By itself the pattern is a class of five characters. -/
def spilling : Compiler := { formatPattern := grouped "[\n)(?:]" }

/-- One constrained parameter before a format part. -/
def spilt (pattern : String) : Descriptor :=
  (((Descriptor.ofVerb "GET").parameter "x").format).constraint "x" pattern

theorem configured_spilling [PropertyTable] : Configured spilling "[^/]+" "[\n)(?:]" := by
  have hc : Pattern.compile "[\n)(?:]" = .ok (.set (.union (.single '\n') (.union (.single ')')
    (.union (.single '(') (.union (.single '?') (.single ':')))))) := by rfl
  refine .format .default ?_
  unfold Compiler.withFormatPattern Compiler.withFormatPatternBy Compiler.group?
  rw [hc]; rfl

theorem spilt_parts (pattern : String) : (spilt pattern).parts = [.parameter "x", .format] := rfl

theorem constraintFor?_spilt (pattern : String) : (spilt pattern).constraintFor? "x" = some pattern :=
  (StringMap.get?_insert StringMap.sound_empty "x" pattern "x").trans (if_pos rfl)

theorem assemble_spilt (pattern : String) :
    (spilling.assemble (spilt pattern) (spilt pattern).constrained.length).toList =
      ['^'] ++ ((grouped pattern).toList ++ ((grouped "[\n)(?:]").toList ++ ['$'])) := by
  have hx : spilling.slotSource (spilt pattern) (.parameter "x") = grouped pattern := by
    simp only [Compiler.slotSource, constraintFor?_spilt]
    rfl
  have hf : spilling.slotSource (spilt pattern) .format = grouped "[\n)(?:]" := rfl
  rw [Compiler.assemble_full, spilt_parts]
  simp only [List.flatMap_cons, List.flatMap_nil, hx, hf, List.append_nil, List.append_assoc, List.singleton_append]

/-- Behind an open comment the format part is a group that stands for a bracket. -/
theorem parse_spilt {pattern : String} {t : Parser} {e : Expr} (hclasses : t.classes = []) (hopen : t.enclosing = [])
    (ho : Parser.Overruns {} 0 pattern.toList t)
    (hp : parse (spilling.assemble (spilt pattern) (spilt pattern).constrained.length) = .ok e) :
    e = .ofItems ([Expr.assertion .lineStart] ++
      ([Expr.group false [] t.level.finish, Expr.group false [] (.literal ⟨']', false⟩)] ++
        [Expr.assertion .lineEnd])) := by
  obtain ⟨t', ht', -, -, rfl, -⟩ := parse_eq_ok.1 hp
  have hfirst : ({} : Parser).Outside := ⟨rfl, rfl, rfl⟩
  have hline := hfirst.push (.assertion .lineStart)
  have htext : ['^'] ++ ((grouped pattern).toList ++ ((grouped "[\n)(?:]").toList ++ ['$'])) =
      '^' :: '(' :: '?' :: ':' ::
        ((pattern.toList ++ ')' :: "(?:[".toList ++ ['\n']) ++ ')' :: "(?:])$".toList) := by
    simp [grouped]
  rw [assemble_spilt, htext, Parser.advance_lineStart hfirst, Parser.advance_groupOpen hline,
    Parser.enter_eq_inside hline] at ht'
  -- the comment takes all up to the line break of the class, and the parser goes on behind it
  have ht' := ho.resumes _ _ _ _ t' (by decide) ht'
  have hclasses' : ({ t with inComment := false } : Parser).classes = [] := hclasses
  have hopen' : ({ t with inComment := false } : Parser).enclosing = [] := hopen
  rw [Parser.inside_close hline hclasses' rfl hopen'] at ht'
  have hslot := (hline.push (.group false [] t.level.finish)).named (t.names ++ [])
  have hrest : Parser.Yields "(?:])$".toList [.group false [] (.literal ⟨']', false⟩), .assertion .lineEnd] := by
    have hbracket : parse "]" = .ok (.literal ⟨']', false⟩) := by rfl
    have hgroup : parse "(?:])" = .ok (.group false [] (.literal ⟨']', false⟩)) := by rfl
    exact (yields_group hbracket hgroup).append Parser.addsOnly_lineEnd.yields
  rw [← List.append_nil "(?:])$".toList] at ht'
  obtain ⟨names, ht'⟩ := hrest.2 hslot (by simp) ht'
  cases ht'
  rfl

/-- A pattern that does not keep to its group leaves a comment open, unless the group is nested too
deeply for any matcher. -/
theorem overruns_of_not_keepsToGroup [PropertyTable] {pattern : String} {t : Parser} {e : Expr}
    (hp : Accepted Pattern.compile pattern) (hg : ¬ KeepsToGroup pattern)
    (ht : ({} : Parser).advance 0 pattern.toList = .ok t) (hclasses : t.classes = [])
    (hopen : t.enclosing = [])
    (hs : parse (spilling.assemble (spilt pattern) (spilt pattern).constrained.length) = .ok e) :
    Parser.Overruns {} 0 pattern.toList t := by
  rcases Parser.settled_or_overruns ht (Nat.zero_le _) hopen with hsettled | ho
  · -- then the group can only be refused for its depth, and the matcher would be too
    exfalso
    obtain ⟨f, hf⟩ : ∃ f, parse "[\n)(?:]" = .ok f := ⟨_, rfl⟩
    obtain ⟨f', hf'⟩ : ∃ f, parse (grouped "[\n)(?:]") = .ok f := ⟨_, rfl⟩
    have hy := Parser.addsOnly_lineStart.yields.append ((yields_of_settled hsettled hclasses hopen).append
      ((yields_group hf hf').append Parser.addsOnly_lineEnd.yields))
    have he := parse_of_yields (by rw [assemble_spilt]; exact hy) hs
    obtain ⟨-, -, -, -, -, hn⟩ := parse_eq_ok.1 hs
    have hgroup := parse_group_of_settled hsettled hclasses hopen
      (Nat.le_trans (nesting_le_ofItems (by simp)) (he ▸ hn))
    obtain ⟨node, hc⟩ := hp
    obtain ⟨e', flags, hp', hnode, hsize⟩ := compile_eq_ok.1 hc
    obtain ⟨t', ht', -, -, rfl, -⟩ := parse_eq_ok.1 hp'
    rw [ht] at ht'
    cases ht'
    refine hg ⟨node, compile_eq_ok.2 ⟨_, {}, hgroup, ?_, hsize⟩⟩
    have hflags : Flags.apply {} [] = {} := rfl
    rw [Expr.toNode, hflags, hnode]
    rfl
  · exact ho

/-- A pattern that does not keep to its group lets a bracket follow where only one of five other
characters may. -/
theorem matchesPath_spilt [PropertyTable] {pattern : String} {r : Route} {word : List Char}
    (hp : Accepted Pattern.compile pattern) (ha : NoAssertion pattern) (hg : ¬ KeepsToGroup pattern)
    (hr : (spilling.compile (spilt pattern)).value = .ok r)
    (hw : MatchesFully pattern word) : r.matchesPath (String.ofList (word ++ [']'])) = true := by
  obtain ⟨hc, -⟩ := Compiler.compileBy_ok hr
  obtain ⟨e, flags, hs, -, -⟩ := compile_eq_ok.1 hc
  obtain ⟨node, hpc⟩ := hp
  obtain ⟨e', flags', hpp, -, -⟩ := compile_eq_ok.1 hpc
  obtain ⟨t, ht, hclasses, hopen, rfl, -⟩ := parse_eq_ok.1 hpp
  have ho := overruns_of_not_keepsToGroup ⟨node, hpc⟩ hg ht hclasses hopen hs
  have he := parse_spilt hclasses hopen ho hs
  subst he
  have hk : ∀ e ∈ [Expr.group false [] t.level.finish, .group false [] (.literal ⟨']', false⟩)], e.KeepsFlags := by
    intro e he
    rcases List.mem_cons.1 he with rfl | he
    · exact keepsFlags_group _ _ _
    · rw [List.mem_singleton.1 he]; exact keepsFlags_group _ _ _
  rw [Route.matchesPath, search_of_parse hs hk hc, String.toList_ofList]
  refine ⟨word, [']'], rfl, ?_, [']'], [], rfl, ?_, rfl⟩
  · exact (matches_group_iff ⟨node, hpc⟩ hpp ha _ _ _).2 hw
  · exact matches_group.2 ((matches_literal ']').2 rfl)

theorem not_pieces_spilt [PropertyTable] (fallback pattern : String) (word : List Char) :
    ¬ ∃ pieces : List (List Char), word ++ [']'] = pieces.flatten ∧
      List.Forall₂ (Fills (spilt pattern) fallback "[\n)(?:]") (spilt pattern).parts pieces := by
  rintro ⟨pieces, hpieces, h⟩
  have hc : Pattern.compile "[\n)(?:]" = .ok (.set (.union (.single '\n') (.union (.single ')')
    (.union (.single '(') (.union (.single '?') (.single ':')))))) := by rfl
  rw [spilt_parts] at h
  match pieces, h with
  | [u, v], .cons _ (.cons hv .nil) =>
    -- the last piece is one of the five characters
    obtain ⟨c, rfl, hset⟩ := (matchesFully_iff hc v).1 hv
    have hlast : [']'] = [c] ++ [] := (List.append_inj' hpieces rfl).2
    cases hlast
    exact absurd hset (by decide)

theorem grouped_inj {pattern pattern' : String} (h : grouped pattern = grouped pattern') : pattern = pattern' := by
  have htext := congrArg String.toList h
  simp only [grouped, String.toList_append, List.append_cancel_right_eq, List.append_cancel_left_eq] at htext
  exact String.toList_inj.1 htext

/-- The format pattern of the compiler above is known from the compiler. -/
theorem Configured.format_of_spilling [PropertyTable] {fallback format : String}
    (h : Configured spilling fallback format) : format = "[\n)(?:]" := by
  rcases h.cases.2 with ⟨htext, -⟩ | ⟨htext, -⟩
  · exact absurd htext (by decide)
  · exact (grouped_inj htext).symm

/-- Patterns stay inside their slots if they keep to their groups. For a route whose slots ask for
no positions: if the pattern of every slot keeps to its group, then the route accepts exactly the
concatenations of what its literals are and what the patterns of its slots match by themselves,
whatever flags, branches, classes or comments they hold. No pattern that is accepted, but does not
keep to its group because it leaves a comment open, can be excepted from that: in the template
`spilt` the route accepts whatever the pattern matches with a bracket behind it, which is no such
concatenation. -/
theorem slots_kept_of_keepsToGroup [PropertyTable] {k : Compiler} {fallback format : String} {d : Descriptor}
    {r : Route} (hk : Configured k fallback format)
    (hliteral : ∀ text, .literal text ∈ d.parts → Plain text.toList)
    (hassertion : ∀ part ∈ d.parts, ∀ pattern, slotPattern? d fallback format part = some pattern →
      NoAssertion pattern)
    (hr : (k.compile d).value = .ok r) :
    ((∀ part ∈ d.parts, ∀ pattern, slotPattern? d fallback format part = some pattern → KeepsToGroup pattern) →
      ∀ path : String, r.matchesPath path = true ↔ ∃ pieces : List (List Char), path.toList = pieces.flatten ∧
        List.Forall₂ (Fills d fallback format) d.parts pieces) ∧
    ∀ pattern word, k = spilling → d = spilt pattern → ¬ KeepsToGroup pattern → MatchesFully pattern word →
      r.matchesPath (String.ofList (word ++ [']'])) = true ∧
        ¬ ∃ pieces : List (List Char), word ++ [']'] = pieces.flatten ∧
          List.Forall₂ (Fills d fallback format) d.parts pieces := by
  constructor
  · intro hgroups path
    refine matchesPath_iff_pieces hk hliteral (fun part hpart pattern hp => ?_) hr path
    exact ⟨hassertion part hpart pattern hp, hgroups part hpart pattern hp⟩
  · rintro pattern word rfl rfl hg hw
    have hpart : .parameter "x" ∈ (spilt pattern).parts := List.mem_cons_self ..
    have hslot : slotPattern? (spilt pattern) fallback format (.parameter "x") = some pattern := by
      rw [slotPattern?, constraintFor?_spilt]; rfl
    have hp : Accepted Pattern.compile pattern :=
      (Compiler.compileBy_ok hr).2 ("x", pattern) (mem_constrained hpart (constraintFor?_spilt pattern))
    have hformat := hk.format_of_spilling
    subst hformat
    exact ⟨matchesPath_spilt hp (hassertion _ hpart _ hslot) hg hr hw, not_pieces_spilt fallback pattern word⟩

/-- A letter, and a comment that is left open. -/
def openComment : String := "(?x)a#"

theorem compile_openComment : Pattern.compile openComment =
    .ok (.cat .empty (.set (.single 'a'))) := by rfl

theorem noAssertion_openComment : NoAssertion openComment := by
  have hp : parse openComment = .ok (.cat (.flags [(.verbose, true)]) (.literal ⟨'a', false⟩)) := by rfl
  exact noAssertion_of_parse hp rfl

theorem not_keepsToGroup_openComment : ¬ KeepsToGroup openComment := by
  rintro ⟨node, hc⟩
  have hrefused : Pattern.compile (grouped openComment) = .error .malformed := by rfl
  rw [hrefused] at hc; cases hc

theorem compile_spilt_openComment : ∃ r, (spilling.compile (spilt openComment)).value = .ok r := by
  have hok : (spilling.compile (spilt openComment)).value.isOk = true := by decide +kernel
  exact exists_ok_of_isOk hok

theorem matchesFully_openComment : MatchesFully openComment ['a'] :=
  ⟨_, compile_openComment, [], ['a'], rfl, rfl, 'a', rfl, by decide⟩

/-- An article is named by a number, or by `new` in any case. -/
def article : Descriptor :=
  (((Descriptor.ofVerb "GET").literal "/articles/").parameter "id").format.constraint "id" "(?i)new|[0-9]+"

theorem slots_spilt_openComment {part : TemplatePart} {pattern : String} (hpart : part ∈ (spilt openComment).parts)
    (hp : slotPattern? (spilt openComment) "[^/]+" "[\n)(?:]" part = some pattern) : NoAssertion pattern := by
  rw [spilt_parts] at hpart
  rcases List.mem_cons.1 hpart with rfl | hpart
  · rw [slotPattern?, constraintFor?_spilt] at hp
    cases hp
    exact noAssertion_openComment
  · rw [List.mem_singleton.1 hpart] at hp
    cases hp
    exact noAssertion_of_parse rfl rfl

/-- The slots of an article are kept; the one before the open comment is not. -/
theorem slots_kept_of_article :
    (∃ r, (({} : Compiler).compile article).value = .ok r ∧ ∀ path : String, r.matchesPath path = true ↔
      ∃ pieces : List (List Char), path.toList = pieces.flatten ∧
        List.Forall₂ (Fills article "[^/]+" "(?:\\.[^/]+)?") article.parts pieces) ∧
    ∃ r, (spilling.compile (spilt openComment)).value = .ok r ∧
      r.matchesPath (String.ofList (['a'] ++ [']'])) = true ∧
        ¬ ∃ pieces : List (List Char), ['a'] ++ [']'] = pieces.flatten ∧
          List.Forall₂ (Fills (spilt openComment) "[^/]+" "[\n)(?:]") (spilt openComment).parts pieces := by
  have hparts : article.parts = [.literal "/articles/", .parameter "id", .format] := rfl
  have hconstraint : article.constraintFor? "id" = some "(?i)new|[0-9]+" := by decide +kernel
  have hliteral : ∀ text, .literal text ∈ article.parts → Plain text.toList := by
    intro text ht
    have htext : text = "/articles/" := by simpa [hparts] using ht
    rw [htext]
    decide
  have hgroups : (Pattern.compile (grouped "(?i)new|[0-9]+")).isOk = true ∧
      (Pattern.compile (grouped "(?:\\.[^/]+)?")).isOk = true := by decide +kernel
  have hslots : ∀ part ∈ article.parts, ∀ pattern, slotPattern? article "[^/]+" "(?:\\.[^/]+)?" part = some pattern →
      NoAssertion pattern ∧ KeepsToGroup pattern := by
    intro part hpart pattern hp
    rw [hparts] at hpart
    simp only [List.mem_cons, List.not_mem_nil, or_false] at hpart
    rcases hpart with rfl | rfl | rfl
    · cases hp
    · rw [slotPattern?, hconstraint] at hp
      cases hp
      exact ⟨noAssertion_of_parse rfl rfl, exists_ok_of_isOk hgroups.1⟩
    · cases hp
      exact ⟨noAssertion_of_parse rfl rfl, exists_ok_of_isOk hgroups.2⟩
  have hok : (({} : Compiler).compile article).value.isOk = true := by decide +kernel
  obtain ⟨r, hr⟩ := exists_ok_of_isOk hok
  obtain ⟨r', hr'⟩ := compile_spilt_openComment
  have hkept := (slots_kept_of_keepsToGroup .default hliteral (fun part hpart pattern hp =>
    (hslots part hpart pattern hp).1) hr).1 fun part hpart pattern hp => (hslots part hpart pattern hp).2
  have hspilt := (slots_kept_of_keepsToGroup configured_spilling (by simp [spilt_parts]) (fun _ hpart _ =>
    slots_spilt_openComment hpart) hr').2 openComment ['a'] rfl rfl not_keepsToGroup_openComment
    matchesFully_openComment
  exact ⟨⟨r, hr, hkept⟩, r', hr', hspilt⟩

/-- So it is not enough that every pattern is accepted by itself. -/
theorem not_forall_slots_kept : ¬ ∀ (k : Compiler) (fallback format : String) (d : Descriptor) (r : Route),
    Configured k fallback format →
    (∀ text, .literal text ∈ d.parts →
      Plain text.toList ∧ ∀ c ∈ text.toList, Unicode.isWhiteSpace c = false ∧ c ≠ '#') →
    (∀ name ∈ d.parameters, ∀ pattern, d.constraintFor? name = some pattern → NoAssertion pattern) →
    NoAssertion fallback → NoAssertion format → (k.compile d).value = .ok r →
    ∀ path : String, r.matchesPath path = true ↔ ∃ pieces : List (List Char), path.toList = pieces.flatten ∧
      List.Forall₂ (Fills d fallback format) d.parts pieces := by
  intro h
  obtain ⟨r, hr⟩ := compile_spilt_openComment
  have hconstraint : ∀ name ∈ (spilt openComment).parameters, ∀ pattern,
      (spilt openComment).constraintFor? name = some pattern → NoAssertion pattern := by
    intro name hname pattern hp
    have hx : name = "x" := by simpa [Descriptor.parameters, spilt_parts] using hname
    rw [hx, constraintFor?_spilt] at hp
    cases hp
    exact noAssertion_openComment
  have hkept := h spilling "[^/]+" "[\n)(?:]" (spilt openComment) r configured_spilling (by simp [spilt_parts])
    hconstraint (noAssertion_of_parse rfl rfl) (noAssertion_of_parse rfl rfl) hr (String.ofList (['a'] ++ [']']))
  have haccepts := matchesPath_spilt ⟨_, compile_openComment⟩ noAssertion_openComment not_keepsToGroup_openComment hr
    matchesFully_openComment
  obtain ⟨pieces, hpieces, hfills⟩ := hkept.1 haccepts
  rw [String.toList_ofList] at hpieces
  exact not_pieces_spilt "[^/]+" openComment ['a'] ⟨pieces, hpieces, hfills⟩

end RouteTable
