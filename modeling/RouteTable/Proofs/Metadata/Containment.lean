/-
Containment of requirements. A list of criteria is contained if every pair of it is stored, so neither
the order nor the repetition of the pairs matters, and a list with two values for one key is contained
nowhere. Of requirements that insertions lead to, each pair that is listed is found again. So to contain
the pairs of other requirements is a partial order (`containsAll_partialOrder`).
-/
import RouteTable.Proofs.StringMap.Canonical

namespace RouteTable.Metadata

variable {a b c : Metadata} {criteria criteria' : List (String × String)} {key value value' : String}

/-- The requirements are what insertions lead to, beginning with none. -/
def Built (m : Metadata) : Prop := ∃ pairs, m = ofList pairs

theorem Built.sound (ha : a.Built) : a.map.Sound := by
  obtain ⟨pairs, rfl⟩ := ha
  exact StringMap.sound_ofInserts pairs

/-- What is listed is what is found. -/
theorem Built.mem_toList_iff (ha : a.Built) : (key, value) ∈ a.toList ↔ a.get? key = some value :=
  (StringMap.get?_eq_some_iff ha.sound).symm

/-- Requirements are determined by what they find. -/
theorem Built.ext (ha : a.Built) (hb : b.Built) (h : ∀ key, a.get? key = b.get? key) : a = b :=
  congrArg Metadata.mk (StringMap.eq_of_get? ha.sound hb.sound h)

/-! ## Lists of criteria -/

theorem containsAll_iff : a.containsAll criteria = true ↔ ∀ e ∈ criteria, a.get? e.1 = some e.2 := by
  simp only [containsAll, List.all_eq_true, beq_iff_eq]

theorem Built.containsAll_iff (ha : a.Built) : a.containsAll criteria = true ↔ ∀ e ∈ criteria, e ∈ a.toList := by
  rw [Metadata.containsAll_iff]
  exact forall₂_congr fun _ _ => ha.mem_toList_iff.symm

/-- One pair is looked up apart from the others, wherever it stands. -/
theorem containsAll_append_cons (before after : List (String × String)) :
    a.containsAll (before ++ (key, value) :: after) =
      (a.get? key == some value && a.containsAll (before ++ after)) := by
  rw [containsAll, containsAll, List.all_append, List.all_append, List.all_cons, Bool.and_left_comm]

/-- Of a list that is contained every part is. -/
theorem containsAll_of_subset (hsub : criteria ⊆ criteria') (h : a.containsAll criteria' = true) :
    a.containsAll criteria = true :=
  containsAll_iff.2 fun e he => containsAll_iff.1 h e (hsub he)

theorem containsAll_congr (h : ∀ e, e ∈ criteria ↔ e ∈ criteria') : a.containsAll criteria = a.containsAll criteria' :=
  Bool.eq_iff_iff.2 ⟨containsAll_of_subset fun e => (h e).2, containsAll_of_subset fun e => (h e).1⟩

/-- A key is found with one value only. -/
theorem containsAll_of_conflict (h : (key, value) ∈ criteria) (h' : (key, value') ∈ criteria) (hne : value ≠ value') :
    a.containsAll criteria = false := by
  refine Bool.eq_false_iff.2 fun hall => hne ?_
  have hvalue := containsAll_iff.1 hall _ h
  rw [containsAll_iff.1 hall _ h'] at hvalue
  exact (Option.some.inj hvalue).symm

/-! ## The order of requirements -/

theorem Built.containsAll_self (ha : a.Built) : a.containsAll a.toList = true :=
  ha.containsAll_iff.2 fun _ he => he

theorem Built.containsAll_trans (hb : b.Built) (hab : a.containsAll b.toList = true)
    (hbc : b.containsAll c.toList = true) : a.containsAll c.toList = true :=
  containsAll_of_subset (hb.containsAll_iff.1 hbc) hab

/-- What contains all pairs of requirements finds what they find. -/
theorem Built.get?_of_containsAll (hb : b.Built) (h : a.containsAll b.toList = true) (hv : b.get? key = some value) :
    a.get? key = some value :=
  Metadata.containsAll_iff.1 h _ (hb.mem_toList_iff.2 hv)

theorem Built.eq_of_containsAll (ha : a.Built) (hb : b.Built) (hab : a.containsAll b.toList = true)
    (hba : b.containsAll a.toList = true) : a = b :=
  ha.ext hb fun _ => Option.ext fun _ => ⟨ha.get?_of_containsAll hba, hb.get?_of_containsAll hab⟩

/-- Requirements are rebuilt from their pairs, in whatever order these are taken. -/
theorem Built.ofList_of_perm (ha : a.Built) {pairs : List (String × String)} (hp : pairs.Perm a.toList) :
    ofList pairs = a :=
  congrArg Metadata.mk (StringMap.ofInserts_of_perm ha.sound hp)

/-- Containment, of whatever requirements insertions lead to. A list of criteria is contained exactly if
all of its pairs are listed; so only the set of its pairs matters, the empty list is contained and a list
with two values for one key is not. To contain all pairs of the other is a partial order: requirements
contain their own, what contains a container contains what is in it, and those that contain each other
are equal. And the pairs of requirements, taken in any order, lead to them again. -/
theorem containsAll_partialOrder (ha : a.Built) (hb : b.Built) (c : Metadata) :
    (∀ criteria, a.containsAll criteria = true ↔ ∀ e ∈ criteria, e ∈ a.toList) ∧
    (∀ criteria criteria', (∀ e, e ∈ criteria ↔ e ∈ criteria') →
      a.containsAll criteria = a.containsAll criteria') ∧
    a.containsAll [] = true ∧
    (∀ criteria key value value', (key, value) ∈ criteria → (key, value') ∈ criteria → value ≠ value' →
      a.containsAll criteria = false) ∧
    a.containsAll a.toList = true ∧
    (a.containsAll b.toList = true → b.containsAll c.toList = true → a.containsAll c.toList = true) ∧
    (a.containsAll b.toList = true ∧ b.containsAll a.toList = true ↔ (a == b) = true) ∧
    ∀ pairs : List (String × String), pairs.Perm a.toList → (ofList pairs == a) = true := by
  refine ⟨fun _ => ha.containsAll_iff, fun _ _ => containsAll_congr, rfl, fun _ _ _ _ => containsAll_of_conflict,
    ha.containsAll_self, hb.containsAll_trans, ⟨fun h => ?_, fun h => ?_⟩, fun pairs hp => ?_⟩
  · rw [ha.eq_of_containsAll hb h.1 h.2]
    exact beq_self_eq_true b
  · obtain rfl : a = b := beq_iff_eq.1 h
    exact ⟨ha.containsAll_self, ha.containsAll_self⟩
  · rw [ha.ofList_of_perm hp]
    exact beq_self_eq_true a

/-- The form for one label, set out of order and with a second action. -/
def editOne : Metadata := ofList [("id", "12"), ("action", "show"), ("controller", "labels"), ("action", "edit")]

/-- The form for labels. -/
def edit : Metadata := ofList [("controller", "labels"), ("action", "edit")]

/-- The form for one label has what every form for labels has, and that has what all pages of labels have.
The converse does not hold, the first action does not count, and the pairs in descending order lead to the
same requirements. -/
theorem editOne_containsAll : editOne.Built ∧ edit.Built ∧
    editOne.containsAll edit.toList = true ∧
    edit.containsAll (ofList [("controller", "labels")]).toList = true ∧
    editOne.containsAll (ofList [("controller", "labels")]).toList = true ∧
    edit.containsAll editOne.toList = false ∧
    editOne.containsAll [("action", "edit"), ("action", "show")] = false ∧
    (ofList editOne.toList.reverse == editOne) = true := by
  have hone : editOne.Built := ⟨_, rfl⟩
  have hedit : edit.Built := ⟨_, rfl⟩
  have hforms : editOne.containsAll edit.toList = true := by decide +kernel
  have hpages : edit.containsAll (ofList [("controller", "labels")]).toList = true := by decide +kernel
  obtain ⟨-, -, -, hconflict, -, htrans, hboth, hrebuilt⟩ :=
    containsAll_partialOrder hone hedit (ofList [("controller", "labels")])
  have hne : (editOne == edit) = false := by decide +kernel
  refine ⟨hone, hedit, hforms, hpages, htrans hforms hpages, Bool.eq_false_iff.2 fun hback => ?_,
    hconflict _ "action" "edit" "show" (by simp) (by simp) (by decide), hrebuilt _ (List.reverse_perm _)⟩
  have heq := hboth.1 ⟨hforms, hback⟩
  rw [hne] at heq
  cases heq

end RouteTable.Metadata
