/-
The names that a pattern gives to its groups. A step takes at most one name more, and that was free
(`NamesGrow`); so the names of a text that has been read are distinct. A text that stands outside
classes and leaves nothing open adds items and names (`Adds text items names`), and it is the names
alone that decide whether it is read. Such texts can be put one after the other, and a pattern made
of them is well formed exactly if no name occurs twice (`wellFormed_iff_nodup`).
-/
import RouteTable.Proofs.Pattern.Faults
import RouteTable.Proofs.Pattern.Items
import RouteTable.Proofs.Pattern.Steps

namespace RouteTable.Pattern

namespace Parser

variable {st st' t : Parser} {c : Char} {rest : List Char} {k : Nat}

/-! ## Names that are taken -/

/-- Names have been taken from the first state to the second, each when it was free. -/
structure NamesGrow (st t : Parser) : Prop where
  suffix : st.names <:+ t.names
  nodup : st.names.Nodup → t.names.Nodup

theorem NamesGrow.of_eq (h : t.names = st.names) : NamesGrow st t :=
  ⟨h ▸ List.suffix_refl _, fun hd => h ▸ hd⟩

theorem NamesGrow.trans (h : NamesGrow st st') (h' : NamesGrow st' t) : NamesGrow st t :=
  ⟨h.suffix.trans h'.suffix, fun hd => h'.nodup (h.nodup hd)⟩

theorem openGroup_names {o : Opening} (h : st.openGroup o = .ok st') : NamesGrow st st' := by
  unfold openGroup at h
  split at h
  · cases h; exact .of_eq rfl
  · split at h
    · cases h
    · rename_i name hfree
      cases h
      exact ⟨List.suffix_cons name _, fun hd => List.nodup_cons.2 ⟨hfree, hd⟩⟩
  · cases h; exact .of_eq rfl
  · cases h; exact .of_eq rfl

theorem leave_names (h : st.leave = .ok st') : st'.names = st.names := by
  unfold leave at h
  split at h <;> cases h
  rfl

theorem repeatLast_names {least : Nat} {most : Option Nat} (h : st.repeatLast least most = .ok st') :
    st'.names = st.names := by
  unfold repeatLast at h
  split at h <;> cases h
  rfl

theorem stepItem_names (h : st.stepItem c rest = .ok (st', k)) : NamesGrow st st' := by
  cases stepItem_cases h with
  | opens ho hst => exact openGroup_names hst
  | closes hst => exact .of_eq (leave_names hst)
  | repeats hc hst => exact .of_eq (repeatLast_names hst)
  | counted hcounts hst => exact .of_eq (repeatLast_names hst)
  | branches | beginsClass | escapes | dot | lineStart | lineEnd | literal => exact .of_eq rfl

theorem stepClass_names {level : ClassLevel} {outer : List ClassLevel}
    (h : st.stepClass level outer c rest = .ok (st', k)) : st'.names = st.names := by
  rcases stepClass_cases h with ⟨first, classes, rfl, -⟩ | ⟨-, -, level', rfl⟩
  · rfl
  · unfold leaveClass
    split <;> rfl

theorem step_names (h : st.step c rest = .ok (st', k)) : NamesGrow st st' := by
  rcases step_cases h with ⟨inComment, rfl, -⟩ | ⟨-, h⟩ | ⟨level, outer, -, h⟩
  · exact .of_eq rfl
  · exact stepItem_names h
  · exact .of_eq (stepClass_names h)

/-- Reading a text takes names that are free, and no others. -/
theorem advance_names : ∀ {text : List Char} {st t : Parser} {k : Nat}, st.advance k text = .ok t → NamesGrow st t
  | [], _, _, _, h => by cases h; exact .of_eq rfl
  | _ :: _, _, _, k + 1, h => advance_names (k := k) h
  | _ :: _, _, _, 0, h => by
    obtain ⟨⟨st₁, k⟩, hstep, h⟩ := bind_eq_ok.1 h
    exact (step_names hstep).trans (advance_names h)

/-! ## Texts that add items and names -/

/-- Outside classes and before anything but a question mark, the text adds the items to the current
branch and the names to those that are taken. It is read exactly if that leaves no name taken twice. -/
structure Adds (text : List Char) (items : List Expr) (names : List String) : Prop where
  head : text.head? ≠ some '?'
  reads : ∀ {st : Parser} {rest : List Char}, st.Outside → rest.head? ≠ some '?' → (names ++ st.names).Nodup →
    st.advance 0 (text ++ rest) = ((st.pushAll items).named (names ++ st.names)).advance 0 rest
  fresh : ∀ {st t : Parser} {rest : List Char}, st.Outside → rest.head? ≠ some '?' → st.names.Nodup →
    st.advance 0 (text ++ rest) = .ok t → (names ++ st.names).Nodup

theorem AddsOnly.adds {text : List Char} {items : List Expr} (h : AddsOnly text items) : Adds text items [] :=
  ⟨h.head, fun hst hr _ => h.reads hst hr, fun _ _ hd _ => hd⟩

theorem Adds.append {text text' : List Char} {items items' : List Expr} {names names' : List String}
    (h : Adds text items names) (h' : Adds text' items' names') :
    Adds (text ++ text') (items ++ items') (names' ++ names) := by
  have hhead : ∀ {rest : List Char}, rest.head? ≠ some '?' → (text' ++ rest).head? ≠ some '?' := by
    intro rest hr
    cases text' with
    | nil => exact hr
    | cons c text' => exact h'.head
  have hmid : ∀ {st : Parser}, st.Outside → ((st.pushAll items).named (names ++ st.names)).Outside := fun hst =>
    (hst.pushAll items).named _
  refine ⟨?_, fun {st rest} hst hr hd => ?_, fun {st t rest} hst hr hd ht => ?_⟩
  · cases text with
    | nil => exact h'.head
    | cons c text => exact h.head
  · rw [List.append_assoc] at hd
    rw [List.append_assoc, h.reads hst (hhead hr) (List.nodup_append.1 hd).2.1, h'.reads (hmid hst) hr hd,
      pushAll_append, List.append_assoc]
    rfl
  · rw [List.append_assoc] at ht ⊢
    have hd' := h.fresh hst (hhead hr) hd ht
    rw [h.reads hst (hhead hr) hd'] at ht
    exact h'.fresh (hmid hst) hr hd' ht

/-- The names of a later text stand before those of an earlier one. -/
theorem Adds.flatMap {α : Type} {text : α → List Char} {items : α → List Expr} {names : α → List String} :
    ∀ {l : List α}, (∀ a ∈ l, Adds (text a) (items a) (names a)) →
      Adds (l.flatMap text) (l.flatMap items) (l.reverse.flatMap names)
  | [], _ => AddsOnly.nil.adds
  | a :: l, h => by
    have hl := flatMap fun b hb => h b (List.mem_cons_of_mem _ hb)
    have happend := (h a (List.mem_cons_self ..)).append hl
    simpa [List.flatMap_append] using happend

end Parser

/-! ## Whole patterns -/

/-- The names of the groups in a pattern, the latest first. -/
def groupNames (pattern : String) : List String :=
  match ({} : Parser).advance 0 pattern.toList with
  | .ok t => t.names
  | .error _ => []

/-- A pattern that adds items is well formed exactly if no name is given twice. -/
theorem wellFormed_iff_nodup [PropertyTable] {source : String} {items : List Expr} {names : List String}
    (ha : Parser.Adds source.toList items names) (hs : ∀ e ∈ items, e.Settles)
    (hn : ∀ e ∈ items, e.nesting + 1 ≤ nestingLimit) : WellFormed source ↔ names.Nodup := by
  have hfirst : ({} : Parser).Outside := ⟨rfl, rfl, rfl⟩
  have hnames : names ++ ({} : Parser).names = names := List.append_nil names
  constructor
  · rintro ⟨e, node, flags, hp, -⟩
    obtain ⟨t, ht, -⟩ := parse_eq_ok.1 hp
    rw [← List.append_nil source.toList] at ht
    rw [← hnames]
    exact ha.fresh hfirst (by simp) .nil ht
  · intro hd
    obtain ⟨node, hnode⟩ := settles_ofItems hs
    have ht : ({} : Parser).advance 0 (source.toList ++ []) =
        .ok ((({} : Parser).pushAll items).named (names ++ [])) :=
      ha.reads hfirst (by simp) (by rw [hnames]; exact hd)
    rw [List.append_nil] at ht
    refine ⟨.ofItems items, node, {}, parse_eq_ok.2 ⟨_, ht, rfl, rfl, ?_, nesting_ofItems_le hn⟩, hnode⟩
    simp [Parser.named, Parser.pushAll, GroupLevel.finish, Expr.ofBranches]

end RouteTable.Pattern
