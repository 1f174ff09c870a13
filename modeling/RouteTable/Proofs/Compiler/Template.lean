/-
When a template is named for being malformed. What is named is the matcher without any constraint
(`compileBy_eq_template_iff`): plain literals, and the compiler's own patterns in their groups, each as
often as the template asks for it. A pattern that was accepted may still not fit into a slot, because
it leaves a comment open or is nested too deeply for a group in a sequence (`FitsSlot`); and if all of
them fit, the matcher is malformed exactly if two slots give a group the same name
(`wellFormed_assemble_iff`). So the literals are never named for it by just those compilers whose
patterns fit and name no groups.
-/
import RouteTable.Proofs.Compiler.Slots
import RouteTable.Proofs.StringMap.Canonical

namespace RouteTable

open Pattern

variable {k : Compiler} {d : Descriptor} {fallback format : String}

/-! ## The matcher without constraints -/

namespace Compiler

/-- A compilation names the literals for a fault if no constraint is refused by itself, the matcher is
refused, and the matcher without constraints is refused for this fault. -/
theorem compileBy_eq_template_iff {φ : Type} {check : Checker φ} {fault : φ} :
    (∃ path, (k.compileBy check d).value = .error (.template path fault)) ↔
      (∀ o ∈ d.constrained, Accepted check o.2) ∧ ¬ Accepted check (k.assemble d d.constrained.length) ∧
        check (k.assemble d 0) = .error fault := by
  constructor
  · rintro ⟨path, h⟩
    have hv : ∀ o ∈ d.constrained, Accepted check o.2 := by
      rcases exists_first_refused check d.constrained with hv | ⟨pre, name, pattern, post, fault', ho, hv, hp⟩
      · exact hv
      · rw [compileBy_of_unvetted ho hv hp] at h; cases h
    refine ⟨hv, fun hacc => ?_, ?_⟩
    · obtain ⟨r, hr⟩ := compileBy_of_accepted hv hacc
      rw [hr] at h; cases h
    · rcases compileBy_cases (k := k) hv with ⟨r, hr⟩ | ⟨fault', hf, hr⟩ | ⟨i, name, pattern, fault', -, -, -, hr⟩
      · rw [hr] at h; cases h
      · rw [hr] at h; cases h; exact hf
      · rw [hr] at h; cases h
  · rintro ⟨hv, hlast, hf⟩
    obtain ⟨last, hlast⟩ := (accepted_or_error check _).resolve_left hlast
    exact ⟨d.path, by rw [compileBy_of_refused hv hlast, blame_of_error hf]⟩

theorem assemble_zero (k : Compiler) (d : Descriptor) :
    k.assemble d 0 = "^" ++ String.join (d.parts.map k.openSource) ++ "$" := by
  rw [assemble_eq_pieces, pieces_zero]

end Compiler

/-! ## Own patterns -/

theorem toList_anchored (text : String) : ("^" ++ text ++ "$").toList = '^' :: (text.toList ++ ['$']) := by
  rw [String.toList_append, String.toList_append]; rfl

section OwnPatterns

variable [PropertyTable]

/-- The pattern makes up a matcher by itself: its group is well formed between anchors. -/
def FitsSlot (pattern : String) : Prop := WellFormed ("^" ++ grouped pattern ++ "$")

/-- The compiler's own pattern for a part of a template: none for a literal. -/
def ownPattern? (fallback format : String) : TemplatePart → Option String
  | .literal _ => none
  | .format => some format
  | .parameter _ => some fallback

/-- The compiler's own patterns that stand in the matcher when no constraint is in place, in template
order with their repetitions. -/
def Descriptor.ownPatterns (d : Descriptor) (fallback format : String) : List String :=
  d.parts.filterMap (ownPattern? fallback format)

/-- The text is one item of a matcher that has a meaning, and gives the names of the pattern. -/
structure EmbedsAs (text pattern : String) (e : Expr) : Prop where
  adds : Parser.Adds text.toList [e] (groupNames pattern)
  settles : e.Settles
  nesting : e.nesting + 1 ≤ nestingLimit

theorem embedsAs_grouped {pattern : String} (hp : Accepted Pattern.compile pattern) (hf : FitsSlot pattern) :
    ∃ e, EmbedsAs (grouped pattern) pattern e := by
  obtain ⟨node, hc⟩ := hp
  obtain ⟨e, flags, he, hnode, -⟩ := compile_eq_ok.1 hc
  obtain ⟨t, ht, hclasses, hopen, rfl, -⟩ := parse_eq_ok.1 he
  obtain ⟨e', node', flags', hf, -⟩ := hf
  have hfirst : ({} : Parser).Outside := ⟨rfl, rfl, rfl⟩
  have hs : Parser.Settled {} 0 pattern.toList t := by
    obtain ⟨t', ht', -, hclosed, -⟩ := parse_eq_ok.1 hf
    rw [toList_anchored, Parser.advance_lineStart hfirst] at ht'
    exact settled_of_closed ht hopen (hfirst.push _) (by decide) ht' hclosed
  have hnames : groupNames pattern = t.names := by rw [groupNames, ht]
  refine ⟨.group false [] t.level.finish, hnames ▸ adds_of_settled hs hclasses hopen, ⟨node, ?_⟩, ?_⟩
  · have hflags : Flags.apply {} [] = {} := rfl
    rw [Expr.toNode, hflags, hnode]
    rfl
  · -- the group stands before the end of the line, in the sequence of a matcher
    have hy : Parser.Yields ("^" ++ grouped pattern ++ "$").toList
        ([.assertion .lineStart] ++ ([.group false [] t.level.finish] ++ [.assertion .lineEnd])) := by
      rw [toList_anchored]
      exact Parser.addsOnly_lineStart.yields.append
        ((yields_of_settled hs hclasses hopen).append Parser.addsOnly_lineEnd.yields)
    have he' := parse_of_yields hy hf
    obtain ⟨-, -, -, -, -, hn⟩ := parse_eq_ok.1 hf
    rw [he'] at hn
    exact Nat.le_trans (nesting_lt_cat _ _) (Nat.le_trans (nesting_le_cat _ _) hn)

theorem embedsAs_notSlashes : EmbedsAs "[^/]+" "[^/]+" Parser.notSlashes :=
  ⟨Parser.addsOnly_notSlashes.adds, ⟨_, toNode_notSlashes⟩, by decide⟩

theorem embedsAs_optionalSuffix : EmbedsAs "(?:\\.[^/]+)?" "(?:\\.[^/]+)?" Parser.optionalSuffix :=
  ⟨Parser.addsOnly_optionalSuffix.adds, ⟨_, toNode_optionalSuffix⟩, by decide⟩

theorem fitsSlot_default : FitsSlot "[^/]+" ∧ FitsSlot "(?:\\.[^/]+)?" :=
  ⟨⟨_, _, _, rfl, rfl⟩, _, _, _, rfl, rfl⟩

/-- The text of a part without a constraint is the default, or an accepted pattern in its group. -/
theorem Configured.openSource_cases (hk : Configured k fallback format) {part : TemplatePart} {pattern : String}
    (hp : ownPattern? fallback format part = some pattern) :
    (∃ e, EmbedsAs (k.openSource part) pattern e) ∧ FitsSlot pattern ∨
      k.openSource part = grouped pattern ∧ Accepted Pattern.compile pattern := by
  cases part with
  | literal text => cases hp
  | format =>
    cases hp
    rcases hk.cases.2 with ⟨htext, rfl⟩ | hgrouped
    · exact .inl ⟨⟨_, by rw [Compiler.openSource, htext]; exact embedsAs_optionalSuffix⟩, fitsSlot_default.2⟩
    · exact .inr hgrouped
  | parameter name =>
    cases hp
    rcases hk.cases.1 with ⟨htext, rfl⟩ | hgrouped
    · exact .inl ⟨⟨_, by rw [Compiler.openSource, htext]; exact embedsAs_notSlashes⟩, fitsSlot_default.1⟩
    · exact .inr hgrouped

theorem Configured.exists_embedsAs (hk : Configured k fallback format) {part : TemplatePart} {pattern : String}
    (hp : ownPattern? fallback format part = some pattern) (hf : FitsSlot pattern) :
    ∃ e, EmbedsAs (k.openSource part) pattern e := by
  rcases hk.openSource_cases hp with ⟨he, -⟩ | ⟨htext, hacc⟩
  · exact he
  · rw [htext]; exact embedsAs_grouped hacc hf

end OwnPatterns

/-! ## Names in several slots -/

/-- The names that a part gives in the matcher without constraints. -/
def partNames (fallback format : String) (part : TemplatePart) : List String :=
  (ownPattern? fallback format part).toList.flatMap groupNames

theorem partNames_of_own {part : TemplatePart} {pattern : String}
    (h : ownPattern? fallback format part = some pattern) : partNames fallback format part = groupNames pattern := by
  rw [partNames, h]
  exact List.append_nil _

theorem flatMap_partNames (d : Descriptor) :
    d.parts.flatMap (partNames fallback format) = (d.ownPatterns fallback format).flatMap groupNames := by
  unfold Descriptor.ownPatterns
  induction d.parts with
  | nil => rfl
  | cons part parts ih =>
    rw [List.flatMap_cons, ih, List.filterMap_cons]
    cases h : ownPattern? fallback format part <;> simp [partNames, h]

theorem exists_items [PropertyTable] {part : TemplatePart} (hk : Configured k fallback format)
    (hliteral : ∀ text, part = .literal text → Plain text.toList)
    (hfits : ∀ pattern, ownPattern? fallback format part = some pattern → FitsSlot pattern) :
    ∃ items, Parser.Adds (k.openSource part).toList items (partNames fallback format part) ∧
      ∀ e ∈ items, e.Settles ∧ e.nesting + 1 ≤ nestingLimit := by
  cases hp : ownPattern? fallback format part with
  | none =>
    cases part with
    | literal text =>
      refine ⟨_, (Parser.addsOnly_plain (hliteral text rfl)).adds, fun e he => ?_⟩
      obtain ⟨c, -, rfl⟩ := List.mem_map.1 he
      have hlimit : 0 + 1 ≤ nestingLimit := by decide
      exact ⟨⟨_, rfl⟩, hlimit⟩
    | format | parameter => cases hp
  | some pattern =>
    obtain ⟨e, he⟩ := hk.exists_embedsAs hp (hfits pattern hp)
    refine ⟨[e], partNames_of_own hp ▸ he.adds, fun e' he' => ?_⟩
    rw [List.mem_singleton.1 he']
    exact ⟨he.settles, he.nesting⟩

/-- If the own patterns fit, then the matcher without constraints is well formed exactly if no two of
their groups have the same name. -/
theorem wellFormed_assemble_iff [PropertyTable] (hk : Configured k fallback format)
    (hliteral : ∀ text, .literal text ∈ d.parts → Plain text.toList)
    (hfits : ∀ pattern ∈ d.ownPatterns fallback format, FitsSlot pattern) :
    WellFormed (k.assemble d 0) ↔ ((d.ownPatterns fallback format).flatMap groupNames).Nodup := by
  have hitems : ∀ part, ∃ items, part ∈ d.parts →
      Parser.Adds (k.openSource part).toList items (partNames fallback format part) ∧
        ∀ e ∈ items, e.Settles ∧ e.nesting + 1 ≤ nestingLimit := by
    intro part
    by_cases hpart : part ∈ d.parts
    · obtain ⟨items, h⟩ := exists_items hk (fun text ht => hliteral text (ht ▸ hpart)) fun pattern hp =>
        hfits pattern (List.mem_filterMap.2 ⟨part, hpart, hp⟩)
      exact ⟨items, fun _ => h⟩
    · exact ⟨[], fun h => absurd h hpart⟩
  choose items hitems using hitems
  have hadds := Parser.addsOnly_lineStart.adds.append
    ((Parser.Adds.flatMap fun part hpart => (hitems part hpart).1).append Parser.addsOnly_lineEnd.adds)
  have hall : ∀ e ∈ [Expr.assertion .lineStart] ++ (d.parts.flatMap items ++ [Expr.assertion .lineEnd]),
      e.Settles ∧ e.nesting + 1 ≤ nestingLimit := by
    intro e he
    simp only [List.singleton_append, List.mem_cons, List.mem_append, List.not_mem_nil, or_false] at he
    rcases he with rfl | he | rfl
    · exact ⟨⟨_, rfl⟩, by decide⟩
    · obtain ⟨part, hpart, he⟩ := List.mem_flatMap.1 he
      exact (hitems part hpart).2 e he
    · exact ⟨⟨_, rfl⟩, by decide⟩
  have htext : (k.assemble d 0).toList =
      ['^'] ++ (d.parts.flatMap (fun part => (k.openSource part).toList) ++ ['$']) := by
    rw [Compiler.assemble_zero, toList_anchored, Compiler.toList_join, List.flatMap_map]
    rfl
  rw [wellFormed_iff_nodup (htext ▸ hadds) (fun e he => (hall e he).1) fun e he => (hall e he).2]
  -- the order of the names does not matter
  rw [List.append_nil, List.nil_append, (List.reverse_perm d.parts).flatMap_right _ |>.nodup_iff, flatMap_partNames]

/-! ## Templates named for being malformed -/

theorem constrained_of_empty (hd : d.constraints = ∅) : d.constrained = [] := by
  refine List.eq_nil_iff_forall_not_mem.2 fun o ho => ?_
  obtain ⟨name, -, ho⟩ := List.mem_filterMap.1 ho
  rw [Descriptor.constraintFor?, hd, StringMap.get?_empty] at ho
  cases ho

/-- Copies of a part that stands for a pattern hold no literals. -/
theorem plain_of_own {part : TemplatePart} {pattern : String} (hp : ownPattern? fallback format part = some pattern)
    {parts : List TemplatePart} (hparts : ∀ part' ∈ parts, part' = part) (text : String)
    (ht : .literal text ∈ ({ parts } : Descriptor).parts) : Plain text.toList := by
  rw [← hparts _ ht] at hp
  cases hp

section Named

variable [PropertyTable]

theorem exists_template_iff (hk : Configured k fallback format)
    (hliteral : ∀ text, .literal text ∈ d.parts → Plain text.toList)
    (hfits : ∀ pattern ∈ d.ownPatterns fallback format, FitsSlot pattern) :
    (∃ path, (k.compile d).value = .error (.template path .malformed)) ↔
      (∀ o ∈ d.constrained, Accepted Pattern.compile o.2) ∧
        ¬ Accepted Pattern.compile (k.assemble d d.constrained.length) ∧
        ¬ ((d.ownPatterns fallback format).flatMap groupNames).Nodup := by
  rw [← wellFormed_assemble_iff hk hliteral hfits, ← compile_eq_malformed_iff]
  exact Compiler.compileBy_eq_template_iff

/-- A template without constraints is named for being malformed if its matcher is. -/
theorem exists_template_of_not_wellFormed (hd : d.constraints = ∅) (hw : ¬ WellFormed (k.assemble d 0)) :
    ∃ path, (k.compile d).value = .error (.template path .malformed) := by
  have hrefused := compile_eq_malformed_iff.2 hw
  refine Compiler.compileBy_eq_template_iff.2 ⟨?_, ?_, hrefused⟩
  · simp [constrained_of_empty hd]
  · rw [constrained_of_empty hd]; exact not_accepted_of_error hrefused

theorem wellFormed_of_not_template (hd : d.constraints = ∅)
    (h : ∀ path, (k.compile d).value ≠ .error (.template path .malformed)) : WellFormed (k.assemble d 0) := by
  by_contra hw
  obtain ⟨path, hpath⟩ := exists_template_of_not_wellFormed hd hw
  exact h path hpath

/-- A pattern fits if a template of one slot for it is not named. -/
theorem fitsSlot_of_not_template (hk : Configured k fallback format) {part : TemplatePart} {pattern : String}
    (hp : ownPattern? fallback format part = some pattern)
    (h : ∀ path, (k.compile { parts := [part] }).value ≠ .error (.template path .malformed)) : FitsSlot pattern := by
  rcases hk.openSource_cases hp with ⟨-, hf⟩ | ⟨htext, -⟩
  · exact hf
  · have hw := wellFormed_of_not_template rfl h
    rw [Compiler.assemble_zero, List.map_singleton, htext, String.join_cons, String.join_nil, String.append_empty] at hw
    exact hw

/-- A pattern that fits names no groups if a template of two slots for it is not named. -/
theorem groupNames_of_not_template (hk : Configured k fallback format) {part : TemplatePart} {pattern : String}
    (hp : ownPattern? fallback format part = some pattern) (hf : FitsSlot pattern)
    (h : ∀ path, (k.compile { parts := [part, part] }).value ≠ .error (.template path .malformed)) :
    groupNames pattern = [] := by
  have hown : ({ parts := [part, part] } : Descriptor).ownPatterns fallback format = [pattern, pattern] := by
    simp [Descriptor.ownPatterns, hp]
  have hd := (wellFormed_assemble_iff hk (plain_of_own hp (by simp)) (by simp [hown, hf])).1
    (wellFormed_of_not_template rfl h)
  rw [hown, List.flatMap_cons, List.flatMap_cons, List.flatMap_nil, List.append_nil] at hd
  refine List.eq_nil_iff_forall_not_mem.2 fun name hname => ?_
  exact (List.nodup_append.1 hd).2.2 name hname name hname rfl

/-- Literals without special characters are named for a malformed template only through the compiler's
own patterns. (1) If the own patterns that a template asks for fit into their slots, then it is named
for being malformed exactly if its constraints are accepted by themselves, the matcher is refused, and
two slots of the matcher without constraints give a group the same name. (2) A compiler never names
such literals for being malformed exactly if its fallback and its format pattern fit into a slot and
name no groups; that they are accepted by themselves is not enough. -/
theorem template_malformed_iff (hk : Configured k fallback format) :
    (∀ d : Descriptor, (∀ text, .literal text ∈ d.parts → Plain text.toList) →
      (∀ pattern ∈ d.ownPatterns fallback format, FitsSlot pattern) →
      ((∃ path, (k.compile d).value = .error (.template path .malformed)) ↔
        (∀ o ∈ d.constrained, Accepted Pattern.compile o.2) ∧
          ¬ Accepted Pattern.compile (k.assemble d d.constrained.length) ∧
          ¬ ((d.ownPatterns fallback format).flatMap groupNames).Nodup)) ∧
    ((∀ d : Descriptor, (∀ text, .literal text ∈ d.parts → Plain text.toList) →
        ∀ path, (k.compile d).value ≠ .error (.template path .malformed)) ↔
      ∀ pattern ∈ [fallback, format], FitsSlot pattern ∧ groupNames pattern = []) := by
  refine ⟨fun d hliteral hfits => exists_template_iff hk hliteral hfits, fun h => ?_,
    fun h d hliteral path hpath => ?_⟩
  · -- templates of one slot and of two
    have hslots : ∀ (part : TemplatePart) (pattern : String), ownPattern? fallback format part = some pattern →
        FitsSlot pattern ∧ groupNames pattern = [] := by
      intro part pattern hp
      have hf := fitsSlot_of_not_template hk hp (h _ (plain_of_own hp (by simp)))
      exact ⟨hf, groupNames_of_not_template hk hp hf (h _ (plain_of_own hp (by simp)))⟩
    intro pattern hpattern
    simp only [List.mem_cons, List.not_mem_nil, or_false] at hpattern
    rcases hpattern with rfl | rfl
    · exact hslots (.parameter "") _ rfl
    · exact hslots .format _ rfl
  · have hown : ∀ pattern ∈ d.ownPatterns fallback format, pattern ∈ [fallback, format] := by
      intro pattern hpattern
      obtain ⟨part, -, hp⟩ := List.mem_filterMap.1 hpattern
      cases part <;> cases hp <;> simp
    have hempty : (d.ownPatterns fallback format).flatMap groupNames = [] :=
      List.flatMap_eq_nil_iff.2 fun pattern hpattern => (h pattern (hown pattern hpattern)).2
    have hfits : ∀ pattern ∈ d.ownPatterns fallback format, FitsSlot pattern := fun pattern hpattern =>
      (h pattern (hown pattern hpattern)).1
    obtain ⟨-, -, hnames⟩ := (exists_template_iff hk hliteral hfits).1 ⟨path, hpath⟩
    rw [hempty] at hnames
    exact hnames .nil

end Named

/-- A compiler whose fallback names the number that it stands for. -/
def numbered : Compiler := { parameterPattern := grouped "(?P<n>[0-9]+)" }

/-- Two parameters between slashes. -/
def pair : Descriptor := ((((Descriptor.ofVerb "GET").literal "/").parameter "x").literal "/").parameter "y"

theorem configured_numbered : Configured numbered "(?P<n>[0-9]+)" "(?:\\.[^/]+)?" := by
  refine .parameter .default ?_
  have hc : Pattern.compile "(?P<n>[0-9]+)" = .ok (.capture (.repeated (.set (.range '0' '9')) 1 none)) := by rfl
  unfold Compiler.withParameterPattern Compiler.withParameterPatternBy Compiler.group?
  rw [hc]; rfl

theorem plain_pair (text : String) (ht : .literal text ∈ pair.parts) : Plain text.toList := by
  have hparts : pair.parts = [.literal "/", .parameter "x", .literal "/", .parameter "y"] := rfl
  have htext : text = "/" := by simpa [hparts] using ht
  rw [htext]
  decide

theorem compile_pair_matcher : Pattern.compile (numbered.assemble pair 0) = .error .malformed := by
  rw [Compiler.assemble_zero]; rfl

/-- The default patterns never have literals named for being malformed; a fallback with a name does so
for two parameters. -/
theorem template_malformed_of_pair :
    (∀ d : Descriptor, (∀ text, .literal text ∈ d.parts → Plain text.toList) →
      ∀ path, (({} : Compiler).compile d).value ≠ .error (.template path .malformed)) ∧
    ∃ path, (numbered.compile pair).value = .error (.template path .malformed) := by
  have hnames : groupNames "[^/]+" = [] ∧ groupNames "(?:\\.[^/]+)?" = [] := ⟨rfl, rfl⟩
  have hfits : FitsSlot "(?P<n>[0-9]+)" := ⟨_, _, _, rfl, rfl⟩
  have hown : pair.ownPatterns "(?P<n>[0-9]+)" "(?:\\.[^/]+)?" = ["(?P<n>[0-9]+)", "(?P<n>[0-9]+)"] := rfl
  have hconstrained := constrained_of_empty (d := pair) rfl
  refine ⟨(template_malformed_iff .default).2.2 ?_,
    ((template_malformed_iff configured_numbered).1 pair plain_pair ?_).2 ⟨?_, ?_, ?_⟩⟩
  · simp [fitsSlot_default, hnames]
  · simp [hown, hfits]
  · simp [hconstrained]
  · rw [hconstrained]
    exact not_accepted_of_error compile_pair_matcher
  · rw [hown]; decide

/-- So it is not enough that the own patterns are accepted by themselves. -/
theorem not_forall_ne_template_malformed : ¬ ∀ (k : Compiler) (fallback format : String) (d : Descriptor),
    Configured k fallback format → (∀ text, .literal text ∈ d.parts → Plain text.toList) →
      ∀ path, (k.compile d).value ≠ .error (.template path .malformed) := by
  intro h
  have hw := compile_eq_malformed_iff.1 compile_pair_matcher
  obtain ⟨path, hpath⟩ := exists_template_of_not_wellFormed rfl hw
  exact h _ _ _ _ configured_numbered plain_pair path hpath

end RouteTable
