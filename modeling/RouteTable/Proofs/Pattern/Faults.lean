/-
Why a text is no pattern. Everything up to the size of the program can be refused for one reason only
(`OnlyMalformed`), and the size is the last thing that is looked at; so a text is malformed exactly if
it is not read, or not read as something that has a meaning (`compile_eq_malformed_iff`).
-/
import RouteTable.Proofs.Pattern.Reading

namespace RouteTable.Pattern

variable {α β : Type}

/-- Whatever is refused is refused as malformed. -/
inductive OnlyMalformed : Except Fault α → Prop
  | ok (a : α) : OnlyMalformed (.ok a)
  | malformed : OnlyMalformed (.error .malformed)

namespace OnlyMalformed

variable {x y : Except Fault α}

theorem bind {f : α → Except Fault β} (hx : OnlyMalformed x) (hf : ∀ a, OnlyMalformed (f a)) :
    OnlyMalformed (x >>= f) := by
  cases hx with
  | ok a => exact hf a
  | malformed => exact .malformed

theorem map {f : α → β} (hx : OnlyMalformed x) : OnlyMalformed (x >>= fun a => pure (f a)) :=
  hx.bind fun _ => .ok _

theorem ite {p : Prop} [Decidable p] (hx : OnlyMalformed x) (hy : OnlyMalformed y) :
    OnlyMalformed (if p then x else y) := by
  split
  · exact hx
  · exact hy

theorem eq_malformed (hx : OnlyMalformed x) (h : ¬ ∃ a, x = .ok a) : x = .error .malformed := by
  cases hx with
  | ok a => exact absurd ⟨a, rfl⟩ h
  | malformed => rfl

end OnlyMalformed

/-! ## Parts of several characters -/

section Readers

variable (verbose : Bool)

theorem onlyMalformed_braced : ∀ (inComment : Bool) (cs : List Char), OnlyMalformed (braced verbose inComment cs)
  | _, [] => .malformed
  | inComment, c :: cs => by
    unfold braced
    refine .ite (onlyMalformed_braced _ cs) (.ite (onlyMalformed_braced _ cs) (.ite (onlyMalformed_braced _ cs) ?_))
    exact .ite (.ok _) (onlyMalformed_braced _ cs).map

theorem onlyMalformed_decimal (cs : List Char) : OnlyMalformed (decimal verbose cs) := by
  unfold decimal
  split
  · exact .ite (.ok _) .malformed
  · exact .malformed

theorem onlyMalformed_counts (cs : List Char) : OnlyMalformed (counts verbose cs) := by
  refine (onlyMalformed_decimal verbose _).bind fun ⟨least, left⟩ => ?_
  dsimp only
  split
  · exact .ok _
  · split
    · exact .ok _
    · refine (onlyMalformed_decimal verbose _).bind fun ⟨most, left⟩ => ?_
      dsimp only
      split
      · exact .ite (.ok _) .malformed
      · exact .malformed
  · exact .malformed

theorem onlyMalformed_hexDigits : ∀ (k n : Nat) (cs : List Char), OnlyMalformed (hexDigits verbose n k cs)
  | 0, _, _ => .ok _
  | k + 1, n, cs => by
    unfold hexDigits
    split
    · exact .malformed
    · split
      · exact onlyMalformed_hexDigits k _ _
      · exact .malformed

theorem onlyMalformed_codePoint (width : Nat) (cs : List Char) : OnlyMalformed (codePoint verbose width cs) := by
  unfold codePoint
  dsimp only
  -- either way of writing the number ends in a look for its character
  split
  · refine (onlyMalformed_braced verbose _ _).bind fun ⟨ds, left⟩ => ?_
    dsimp only
    split
    · refine OnlyMalformed.bind (.ok _) fun ⟨n, left, hexPair⟩ => ?_
      dsimp only
      split
      · exact .ok _
      · exact .malformed
    · exact .malformed
  · refine (onlyMalformed_hexDigits verbose _ _ _).bind fun ⟨n, left⟩ => ?_
    refine OnlyMalformed.bind (.ok _) fun ⟨n, left, hexPair⟩ => ?_
    dsimp only
    split
    · exact .ok _
    · exact .malformed

theorem onlyMalformed_property (negated : Bool) (cs : List Char) : OnlyMalformed (property verbose negated cs) := by
  unfold property
  split
  · exact .malformed
  · exact (onlyMalformed_braced verbose _ _).map
  · exact .malformed
  · exact .ok _

theorem onlyMalformed_boundary (cs : List Char) : OnlyMalformed (boundary verbose cs) := by
  unfold boundary
  split
  · split
    · exact .malformed
    · refine .ite ((onlyMalformed_braced verbose _ _).bind fun ⟨name, left⟩ => ?_) (.ok _)
      dsimp only
      split
      all_goals first | exact .ok _ | exact .malformed
  · exact .ok _

theorem onlyMalformed_escape (cs : List Char) : OnlyMalformed (escape verbose cs) := by
  unfold escape
  split
  · exact .malformed
  · dsimp only
    split
    all_goals first
      | exact .ok _
      | exact onlyMalformed_codePoint ..
      | exact onlyMalformed_property ..
      | exact onlyMalformed_boundary ..
      | exact .ite (.ok _) .malformed

theorem onlyMalformed_groupName (cs : List Char) : OnlyMalformed (groupName cs) := by
  unfold groupName
  split
  · exact .ite (.ok _) .malformed
  · exact .malformed

theorem onlyMalformed_flagSettings (turnOn hanging : Bool) (settings : FlagSettings) (cs : List Char) :
    OnlyMalformed (flagSettings turnOn hanging settings cs) := by
  fun_induction flagSettings turnOn hanging settings cs
  all_goals first | exact .malformed | exact .ok _ | assumption

theorem onlyMalformed_opening (cs : List Char) : OnlyMalformed (opening verbose cs) := by
  unfold opening
  split
  all_goals first
    | exact .malformed
    | exact .ok _
    | exact onlyMalformed_groupName _
    | exact onlyMalformed_flagSettings ..

theorem onlyMalformed_classAtom (c : Char) (rest : List Char) : OnlyMalformed (classAtom verbose c rest) :=
  .ite (onlyMalformed_escape verbose rest) (.ok _)

theorem onlyMalformed_toItem (e : Escape) : OnlyMalformed e.toItem := by
  cases e with
  | assertion a => exact .malformed
  | literal | shorthand | property => exact .ok _

theorem onlyMalformed_classItem (c : Char) (rest : List Char) : OnlyMalformed (classItem verbose c rest) := by
  refine (onlyMalformed_classAtom verbose c rest).bind fun ⟨first, left⟩ => ?_
  dsimp only
  split
  · exact .malformed
  · refine .ite (onlyMalformed_toItem first).map ?_
    split
    · exact .malformed
    · refine (onlyMalformed_classAtom verbose _ _).bind fun ⟨last, left⟩ => ?_
      dsimp only
      split
      · exact .ite (.ok _) .malformed
      · exact .malformed
  · exact (onlyMalformed_toItem first).map

end Readers

/-! ## The parser -/

namespace Parser

variable (st : Parser) (c : Char) (rest : List Char)

theorem onlyMalformed_repeatLast (least : Nat) (most : Option Nat) : OnlyMalformed (st.repeatLast least most) := by
  unfold repeatLast
  split
  · exact .malformed
  · exact .malformed
  · exact .ok _

theorem onlyMalformed_openGroup (o : Opening) : OnlyMalformed (st.openGroup o) := by
  unfold openGroup
  split
  · exact .ok _
  · exact .ite .malformed (.ok _)
  · exact .ok _
  · exact .ok _

theorem onlyMalformed_leave : OnlyMalformed st.leave := by
  unfold leave
  split
  · exact .malformed
  · exact .ok _

theorem onlyMalformed_stepItem : OnlyMalformed (st.stepItem c rest) := by
  unfold stepItem
  split
  · exact (onlyMalformed_opening _ rest).bind fun ⟨o, _⟩ => (onlyMalformed_openGroup st o).map
  · exact (onlyMalformed_leave st).map
  · exact .ok _
  · exact .ok _
  · exact (onlyMalformed_repeatLast st ..).map
  · exact (onlyMalformed_repeatLast st ..).map
  · exact (onlyMalformed_repeatLast st ..).map
  · exact (onlyMalformed_counts _ rest).bind fun ⟨⟨_, _⟩, _⟩ => (onlyMalformed_repeatLast st ..).map
  · exact (onlyMalformed_escape _ rest).map
  all_goals exact .ok _

theorem onlyMalformed_stepClass (level : ClassLevel) (outer : List ClassLevel) :
    OnlyMalformed (st.stepClass level outer c rest) := by
  refine .ite (.ok _) (.ite (.ok _) (.ite (.ok _) ?_))
  unfold stepBody
  have hitem := (onlyMalformed_classItem st.verbose c rest).map (f := fun r =>
    ({ st with classes := { level with phase := .body, items := r.1 :: level.items } :: outer }, taken rest r.2))
  dsimp only
  split
  · split <;> exact .ok _
  · exact .ok _
  · exact .ite (.ok _) hitem
  · exact .ite (.ok _) hitem
  · exact .ite (.ok _) hitem
  · exact hitem

theorem onlyMalformed_step : OnlyMalformed (st.step c rest) := by
  refine .ite (.ok _) (.ite (.ok _) (.ite (.ok _) ?_))
  split
  · exact onlyMalformed_stepItem st c rest
  · exact onlyMalformed_stepClass st c rest _ _

theorem onlyMalformed_advance : ∀ (text : List Char) (st : Parser) (skip : Nat), OnlyMalformed (st.advance skip text)
  | [], _, _ => .ok _
  | _ :: rest, st, skip + 1 => onlyMalformed_advance rest st skip
  | c :: rest, st, 0 => (onlyMalformed_step st c rest).bind fun ⟨st', k⟩ => onlyMalformed_advance rest st' k

end Parser

theorem onlyMalformed_parse (source : String) : OnlyMalformed (parse source) := by
  refine (Parser.onlyMalformed_advance _ _ _).bind fun t => OnlyMalformed.bind ?_ fun e => ?_
  · exact .ite (.ok _) .malformed
  · exact .ite (.ok _) .malformed

/-! ## Meanings -/

section Meanings

variable (f : Flags)

theorem onlyMalformed_foldAndNegate (negated : Bool) (s : CharSet) : OnlyMalformed (s.foldAndNegate f negated) :=
  .ite (.ok _) (.ite (.ok _) .malformed)

theorem onlyMalformed_toSet (l : Literal) : OnlyMalformed (l.toSet f) := .ite .malformed (.ite (.ok _) (.ok _))

theorem onlyMalformed_shorthand (negated : Bool) (kind : Shorthand) : OnlyMalformed (kind.resolve f negated) :=
  .ite (.ok _) .malformed

theorem onlyMalformed_propertyName [PropertyTable] (negated : Bool) (name : PropertyName) :
    OnlyMalformed (name.resolve f negated) := by
  refine .ite ?_ .malformed
  split
  · exact onlyMalformed_foldAndNegate f _ _
  · exact .malformed

theorem onlyMalformed_classSet [PropertyTable] : ∀ e : ClassExpr, OnlyMalformed (e.toSet f)
  | .empty => .ok _
  | .literal _ => .ite (.ok _) .malformed
  | .range _ _ => .ite (.ok _) .malformed
  | .shorthand kind negated => onlyMalformed_shorthand f negated kind
  | .ascii _ _ => onlyMalformed_foldAndNegate f _ _
  | .property name negated => onlyMalformed_propertyName f negated name
  | .nested _ body => (onlyMalformed_classSet body).bind fun _ => onlyMalformed_foldAndNegate f _ _
  | .union first rest => (onlyMalformed_classSet first).bind fun _ => (onlyMalformed_classSet rest).map
  | .op _ left right => (onlyMalformed_classSet left).bind fun _ => (onlyMalformed_classSet right).map

theorem onlyMalformed_dotSet : OnlyMalformed (dotSet f) := .ite .malformed (.ite (.ok _) (.ite (.ok _) (.ok _)))

theorem onlyMalformed_toNode [PropertyTable] : ∀ (e : Expr) (f : Flags), OnlyMalformed (e.toNode f)
  | .empty, _ | .flags _, _ | .assertion _, _ => .ok _
  | .literal l, f => (onlyMalformed_toSet f l).map
  | .dot, f => (onlyMalformed_dotSet f).map
  | .shorthand kind negated, f => (onlyMalformed_shorthand f negated kind).map
  | .property name negated, f => (onlyMalformed_propertyName f negated name).map
  | .bracketed negated body, f =>
    (onlyMalformed_classSet f body).bind fun s => (onlyMalformed_foldAndNegate f negated s).map
  | .repeated body _ _, f => (onlyMalformed_toNode body f).map
  | .group _ settings body, f => (onlyMalformed_toNode body (f.apply settings)).map
  | .cat first rest, f | .alt first rest, f =>
    (onlyMalformed_toNode first f).bind fun ⟨_, f'⟩ => (onlyMalformed_toNode rest f').map

end Meanings

/-! ## Whole patterns -/

/-- The text is a pattern of the language, and means something. -/
def WellFormed [PropertyTable] (source : String) : Prop :=
  ∃ e node flags, parse source = .ok e ∧ e.toNode {} = .ok (node, flags)

/-- A text is refused as .malformed exactly if it is no pattern, or one without a meaning. -/
theorem compile_eq_malformed_iff [PropertyTable] {source : String} :
    compile source = .error .malformed ↔ ¬ WellFormed source := by
  constructor
  · rintro h ⟨e, node, flags, hp, hn⟩
    simp only [compile, hp, hn, bind, Except.bind] at h
    split at h <;> cases h
  · intro h
    by_cases hp : ∃ e, parse source = .ok e
    · obtain ⟨e, hp⟩ := hp
      have hn : e.toNode {} = .error .malformed :=
        (onlyMalformed_toNode e {}).eq_malformed fun ⟨⟨node, flags⟩, hn⟩ => h ⟨e, node, flags, hp, hn⟩
      simp only [compile, hp, hn, bind, Except.bind]
    · simp only [compile, (onlyMalformed_parse source).eq_malformed hp, bind, Except.bind]

end RouteTable.Pattern
