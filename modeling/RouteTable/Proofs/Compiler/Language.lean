/-
The language of a route compiled with the default patterns, for templates whose literals have no
special characters and whose constraints are alternations of words and numbers. The path is cut into
one piece per part of the template (`Admits`). An anchor in a branch of a constraint looks at the
whole path, so such a branch counts only for a piece at that end of the path.
-/
import RouteTable.Proofs.Compiler.Matcher

namespace RouteTable

open Pattern

/-! ## Branches of a constraint -/

/-- What a branch asks of the text between its anchors. -/
inductive Body
  /-- The text itself. -/
  | word (text : String)
  /-- One or more decimal digits, written `[0-9]+`. -/
  | digits

/-- One branch of a constraint, between two optional anchors. -/
structure Branch where
  fromStart : Bool := false
  body : Body
  toEnd : Bool := false

def Body.source : Body → String
  | .word text => text
  | .digits => "[0-9]+"

def Branch.source (b : Branch) : String :=
  (if b.fromStart then "^" else "") ++ b.body.source ++ (if b.toEnd then "$" else "")

/-- The pattern that offers the branches. -/
def alternation (branches : List Branch) : String :=
  String.intercalate "|" (branches.map (·.source))

/-- A word has no special characters. -/
def Body.Plain : Body → Prop
  | .word text => Pattern.Plain text.toList
  | .digits => True

def Body.Admits : Body → List Char → Prop
  | .word text, piece => piece = text.toList
  | .digits, piece => piece ≠ [] ∧ ∀ c ∈ piece, c.isDigit = true

/-- The branch admits a piece of a path, given the text before and the text after the piece. -/
structure Branch.Admits (b : Branch) (before piece after : List Char) : Prop where
  body : b.body.Admits piece
  fromStart : b.fromStart = true → before = []
  toEnd : b.toEnd = true → after = []

/-- The part of a template admits a piece of a path; `branches` are those of the constraints. -/
def Admits (d : Descriptor) (branches : String → List Branch) (part : TemplatePart)
    (before piece after : List Char) : Prop :=
  match part with
  | .literal text => piece = text.toList
  | .format => piece = [] ∨ ∃ suffix, piece = '.' :: suffix ∧ suffix ≠ [] ∧ '/' ∉ suffix
  | .parameter name =>
    match d.constraintFor? name with
    | none => piece ≠ [] ∧ '/' ∉ piece
    | some _ => ∃ b ∈ branches name, b.Admits before piece after

/-! ## Their items -/

/-- The item that `[0-9]+` is read as. -/
def digitsItem : Expr := .repeated (.bracketed false (.range ⟨'0', false⟩ ⟨'9', false⟩)) 1 none

def Body.items : Body → List Expr
  | .word text => text.toList.map fun c => .literal ⟨c, false⟩
  | .digits => [digitsItem]

def Branch.items (b : Branch) : List Expr :=
  (if b.fromStart then [.assertion .lineStart] else []) ++ b.body.items ++
    (if b.toEnd then [.assertion .lineEnd] else [])

theorem advance_digits {st : Parser} {rest : List Char} (h : st.Outside) (hr : rest.head? ≠ some '?') :
    st.advance 0 ("[0-9]+".toList ++ rest) = (st.push digitsItem).advance 0 rest := by
  obtain ⟨level, enclosing, classes, names, verbose, inComment⟩ := st
  obtain ⟨rfl, rfl, rfl⟩ : classes = [] ∧ verbose = false ∧ inComment = false := ⟨h.1, h.2, h.3⟩
  have htext : "[0-9]+".toList ++ rest = '[' :: '0' :: '-' :: '9' :: ']' :: '+' :: rest := rfl
  rw [htext]
  simp [Parser.advance, Parser.step, Parser.stepItem, Parser.stepClass, Parser.stepBody, classItem, classAtom,
    gap, peek?, Parser.leaveClass, Parser.repeatLast, Parser.dropLazyMark_eq hr, Parser.taken, bind,
    Except.bind, pure, Except.pure, ClassLevel.push, ClassLevel.finish, ClassExpr.ofItems, Parser.push,
    GroupLevel.push, digitsItem]

theorem Body.yields {b : Body} (hp : b.Plain) : Parser.Yields b.source.toList b.items := by
  cases b with
  | word text => exact (Parser.addsOnly_plain hp).yields
  | digits => exact Parser.AddsOnly.yields ⟨by decide, fun h hr => advance_digits h hr⟩

theorem Branch.yields {b : Branch} (hp : b.body.Plain) : Parser.Yields b.source.toList b.items := by
  unfold Branch.source Branch.items
  rw [String.toList_append, String.toList_append]
  refine .append (.append ?_ (Body.yields hp)) ?_
  · cases b.fromStart
    · exact Parser.AddsOnly.nil.yields
    · exact Parser.addsOnly_lineStart.yields
  · cases b.toEnd
    · exact Parser.AddsOnly.nil.yields
    · exact Parser.addsOnly_lineEnd.yields

theorem yields_grouped_alternation {branches : List Branch} (hne : branches ≠ [])
    (hp : ∀ b ∈ branches, b.body.Plain) : Parser.Yields (grouped (alternation branches)).toList
      [.group false [] (.ofBranches (branches.map fun b => .ofItems b.items))] := by
  have htext : (grouped (alternation branches)).toList =
      '(' :: '?' :: ':' :: (['|'].intercalate (branches.map fun b => b.source.toList) ++ [')']) := by
    unfold grouped alternation
    rw [String.toList_append, String.toList_append, String.toList_intercalate, List.map_map]
    rfl
  rw [htext]
  exact Parser.yields_alternation hne fun b hb => Branch.yields (hp b hb)

/-! ## What they match -/

section Meaning

variable {before piece after : List Char}

theorem toNode_digitsItem [PropertyTable] :
    digitsItem.toNode {} = .ok (.repeated (.set (.range '0' '9')) 1 none, {}) := rfl

theorem isDigit_iff (c : Char) : (CharSet.range '0' '9').contains c = true ↔ c.isDigit = true := by
  simp [CharSet.contains, Char.isDigit, Char.le_def]

theorem Body.settles [PropertyTable] (b : Body) : ∀ e ∈ b.items, e.Settles := by
  cases b with
  | word text =>
    intro e he
    obtain ⟨c, -, rfl⟩ := List.mem_map.1 he
    exact ⟨_, rfl⟩
  | digits =>
    intro e he
    rw [List.mem_singleton.1 he]
    exact ⟨_, toNode_digitsItem⟩

theorem Body.cut_iff [PropertyTable] (b : Body) : Cut Expr.Matches b.items before piece after ↔ b.Admits piece := by
  cases b with
  | word text => exact cut_literals
  | digits =>
    rw [Body.items, cut_singleton, Expr.matches_iff toNode_digitsItem, matches_oneOrMore]
    simp only [isDigit_iff, Body.Admits]

theorem Branch.settles [PropertyTable] (b : Branch) : ∀ e ∈ b.items, e.Settles := by
  have hanchor : ∀ (on : Bool) (a : Assertion), ∀ e ∈ (if on then [Expr.assertion a] else []), e.Settles := by
    intro on a e he
    cases on with
    | false => cases he
    | true => rw [List.mem_singleton.1 he]; exact ⟨_, rfl⟩
  intro e he
  simp only [Branch.items, List.mem_append] at he
  rcases he with (he | he) | he
  · exact hanchor _ _ e he
  · exact b.body.settles e he
  · exact hanchor _ _ e he

theorem Branch.matches_iff [PropertyTable] (b : Branch) :
    (Expr.ofItems b.items).Matches before piece after ↔ b.Admits before piece after := by
  have hstart : ∀ {before piece after}, Cut Expr.Matches (if b.fromStart then [.assertion .lineStart] else [])
      before piece after ↔ piece = [] ∧ (b.fromStart = true → before = []) := fun {_ _ _} => by
    cases b.fromStart
    · simp [Cut]
    · simp [cut_singleton, matches_lineStart]
  have hend : ∀ {before piece after}, Cut Expr.Matches (if b.toEnd then [.assertion .lineEnd] else [])
      before piece after ↔ piece = [] ∧ (b.toEnd = true → after = []) := fun {_ _ _} => by
    cases b.toEnd
    · simp [Cut]
    · simp [cut_singleton, matches_lineEnd]
  rw [matches_ofItems_of_settles b.settles]
  simp only [Branch.items, cut_append, hstart, hend, Body.cut_iff]
  constructor
  · rintro ⟨u, v, rfl, ⟨u', v', rfl, ⟨rfl, h1⟩, h2⟩, rfl, h3⟩
    exact ⟨by simpa using h2, h1, h3⟩
  · rintro ⟨h2, h1, h3⟩
    exact ⟨piece, [], by simp, ⟨[], piece, rfl, ⟨rfl, h1⟩, h2⟩, rfl, h3⟩

theorem matches_alternation [PropertyTable] {branches : List Branch} (hne : branches ≠ []) :
    (Expr.group false [] (.ofBranches (branches.map fun b => .ofItems b.items))).Matches before piece after ↔
      ∃ b ∈ branches, b.Admits before piece after := by
  have hs : ∀ e ∈ branches.map (fun b => Expr.ofItems b.items), e.Settles := by
    intro e he
    obtain ⟨b, -, rfl⟩ := List.mem_map.1 he
    exact settles_ofItems b.settles
  obtain ⟨node, hn, hm⟩ := toNode_ofBranches (by simpa using hne) hs
  rw [matches_group, Expr.matches_iff hn, hm]
  simp only [List.mem_map, exists_exists_and_eq_and, Branch.matches_iff]

end Meaning

/-! ## Routes -/

/-- The items of a part of a template. -/
def partItems (d : Descriptor) (branches : String → List Branch) : TemplatePart → List Expr
  | .literal text => text.toList.map fun c => .literal ⟨c, false⟩
  | .format => [Parser.optionalSuffix]
  | .parameter name =>
    match d.constraintFor? name with
    | none => [Parser.notSlashes]
    | some _ => [.group false [] (.ofBranches ((branches name).map fun b => .ofItems b.items))]

/-- A route compiled with the default patterns, from literals without special characters and
constraints that are alternations of words and numbers, accepts exactly the paths that can be cut
into consecutive pieces that the parts of the template admit. -/
theorem matchesPath_iff_cut_admits [PropertyTable] {d : Descriptor} {branches : String → List Branch} {r : Route}
    (hliteral : ∀ text, .literal text ∈ d.parts → Plain text.toList)
    (hconstraint : ∀ name, .parameter name ∈ d.parts → ∀ pattern, d.constraintFor? name = some pattern →
      branches name ≠ [] ∧ (∀ b ∈ branches name, b.body.Plain) ∧ pattern = alternation (branches name))
    (hr : (compile d).value = .ok r) (path : String) :
    r.matchesPath path = true ↔ Cut (Admits d branches) d.parts [] path.toList [] := by
  have hy : ∀ part ∈ d.parts,
      Parser.Yields (({} : Compiler).slotSource d part).toList (partItems d branches part) := by
    intro part hpart
    cases part with
    | literal text => exact (Parser.addsOnly_plain (hliteral text hpart)).yields
    | format => exact Parser.addsOnly_optionalSuffix.yields
    | parameter name =>
      simp only [Compiler.slotSource, partItems]
      cases hc : d.constraintFor? name with
      | none => exact Parser.addsOnly_notSlashes.yields
      | some pattern =>
        obtain ⟨hne, hplain, rfl⟩ := hconstraint name hpart pattern hc
        exact yields_grouped_alternation hne hplain
  have hk : ∀ part ∈ d.parts, ∀ e ∈ partItems d branches part, e.KeepsFlags := by
    intro part _ e he
    cases part with
    | literal text =>
      obtain ⟨c, -, rfl⟩ := List.mem_map.1 he
      exact keepsFlags_literal _
    | format => rw [List.mem_singleton.1 he]; exact keepsFlags_optionalSuffix
    | parameter name =>
      simp only [partItems] at he
      cases hc : d.constraintFor? name with
      | none => rw [hc] at he; rw [List.mem_singleton.1 he]; exact keepsFlags_notSlashes
      | some pattern => rw [hc] at he; rw [List.mem_singleton.1 he]; exact keepsFlags_group false [] _
  rw [Compiler.matchesPath_iff_cut hy hk hr]
  refine cut_congr fun part hpart before piece after => ?_
  cases part with
  | literal text => exact cut_literals
  | format => rw [partItems, cut_singleton, matches_optionalSuffix, Admits]
  | parameter name =>
    simp only [partItems, Admits]
    cases hc : d.constraintFor? name with
    | none => rw [cut_singleton, matches_notSlashes]
    | some pattern =>
      rw [cut_singleton, matches_alternation (hconstraint name hpart pattern hc).1]

/-- A label is `new` or a number; `all` is one only where the path ends with it. -/
def label : Descriptor :=
  (((Descriptor.ofVerb "GET").literal "/labels/").parameter "id").format.constraint "id" "new|[0-9]+|all$"

def labelBranches : List Branch := [⟨false, .word "new", false⟩, ⟨false, .digits, false⟩, ⟨false, .word "all", true⟩]

theorem constraintFor?_label : label.constraintFor? "id" = some "new|[0-9]+|all$" := by decide +kernel

theorem admits_label_iff {before id after : List Char} :
    Admits label (fun _ => labelBranches) (.parameter "id") before id after ↔
      id = "new".toList ∨ (id ≠ [] ∧ ∀ c ∈ id, c.isDigit = true) ∨ id = "all".toList ∧ after = [] := by
  simp only [Admits, constraintFor?_label, labelBranches, List.mem_cons, List.not_mem_nil, or_false,
    exists_eq_or_imp, exists_eq_left]
  refine or_congr ?_ (or_congr ?_ ?_)
  · exact ⟨fun h => h.body, fun h => ⟨h, by rintro ⟨⟩, by rintro ⟨⟩⟩⟩
  · exact ⟨fun h => h.body, fun h => ⟨h, by rintro ⟨⟩, by rintro ⟨⟩⟩⟩
  · exact ⟨fun h => ⟨h.body, h.toEnd rfl⟩, fun h => ⟨h.1, by rintro ⟨⟩, fun _ => h.2⟩⟩

/-- A path is a label's if its slot is `new`, a number or, at the very end of the path, `all`; a suffix may
follow the first two. -/
theorem label_matchesPath_iff : ∃ r, (compile label).value = .ok r ∧ ∀ path, r.matchesPath path = true ↔
    ∃ id suffix : List Char, path.toList = "/labels/".toList ++ (id ++ suffix) ∧
      (id = "new".toList ∨ (id ≠ [] ∧ ∀ c ∈ id, c.isDigit = true) ∨ id = "all".toList ∧ suffix = []) ∧
      (suffix = [] ∨ ∃ ending, suffix = '.' :: ending ∧ ending ≠ [] ∧ '/' ∉ ending) := by
  have hok : (compile label).value.isOk = true := by decide +kernel
  obtain ⟨r, hr⟩ := exists_ok_of_isOk hok
  have hparts : label.parts = [.literal "/labels/", .parameter "id", .format] := rfl
  have hcut : ∀ path, r.matchesPath path = true ↔
      Cut (Admits label fun _ => labelBranches) label.parts [] path.toList [] := by
    refine matchesPath_iff_cut_admits ?_ ?_ hr
    · intro text ht
      have htext : text = "/labels/" := by simpa [hparts] using ht
      rw [htext]
      decide
    · intro name hn pattern hc
      have hname : name = "id" := by simpa [hparts] using hn
      rw [hname, constraintFor?_label] at hc
      cases hc
      refine ⟨by simp [labelBranches], ?_, by decide⟩
      simp only [labelBranches, List.forall_mem_cons, Body.Plain]
      exact ⟨by decide, trivial, by decide, by simp⟩
  refine ⟨r, hr, fun path => ?_⟩
  rw [hcut, hparts]
  constructor
  · rintro ⟨_, _, hpath, rfl, id, _, rfl, hid, suffix, _, rfl, hsuffix, rfl⟩
    rw [List.append_nil] at hpath hid
    exact ⟨id, suffix, hpath, admits_label_iff.1 (by simpa using hid), hsuffix⟩
  · rintro ⟨id, suffix, hpath, hid, hsuffix⟩
    exact ⟨_, _, hpath, rfl, id, suffix, rfl, admits_label_iff.2 (by simpa using hid), suffix, [],
      (List.append_nil _).symm, hsuffix, rfl⟩

end RouteTable
