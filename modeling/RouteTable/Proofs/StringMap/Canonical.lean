/-
The map as a finite function. Insertions keep the two arrays of a map in step and the keys ascending
(`Sound`). Of such a map, a key cuts the pairs of keys and values into those before it, its own if it has
one, and those after it; `exchange` puts the new pair between the two others (`exists_cut`). From that follow
the laws of insertion and that a map is determined by what it finds (`eq_of_get?`), so the map that insertions
lead to depends only on the last value of each key (`ofInserts_canonical`).
-/
import RouteTable.Metadata
import RouteTable.Proofs.StringMap.Search
import Mathlib.Data.List.Nodup

namespace RouteTable
namespace StringMap

variable {α : Type} {m m' : StringMap α} {key : String} {value : α}

/-- The keys are in strictly ascending order. -/
def Ascending (m : StringMap α) : Prop := m.keys.toList.Pairwise Before

/-- There is one value for each key, and the keys ascend. -/
structure Sound (m : StringMap α) : Prop where
  aligned : m.keys.size = m.values.size
  ascending : m.Ascending

/-- The map that a sequence of insertions leads to, beginning without keys. -/
def ofInserts (pairs : List (String × α)) : StringMap α := (∅ : StringMap α).insertMany pairs

/-! ## Pairs of keys and values -/

/-- The pairs, with keys and values apart. -/
def ofPairs (pairs : List (String × α)) : StringMap α := ⟨(pairs.map (·.1)).toArray, (pairs.map (·.2)).toArray⟩

theorem toList_ofPairs (pairs : List (String × α)) : (ofPairs pairs).toList = pairs := by
  simp [toList, ofPairs, List.zip_map']

theorem ofPairs_toList (h : m.keys.size = m.values.size) : ofPairs m.toList = m := by
  have hkeys : m.toList.map (·.1) = m.keys.toList := List.map_fst_zip (Nat.le_of_eq h)
  have hvalues : m.toList.map (·.2) = m.values.toList := List.map_snd_zip (Nat.le_of_eq h.symm)
  rw [ofPairs, hkeys, hvalues]

theorem sound_ofPairs_iff {pairs : List (String × α)} :
    (ofPairs pairs).Sound ↔ pairs.Pairwise fun e e' => Before e.1 e'.1 :=
  ⟨fun h => List.pairwise_map.1 h.ascending, fun h => ⟨by simp [ofPairs], List.pairwise_map.2 h⟩⟩

theorem Sound.exists_eq_ofPairs (h : m.Sound) : ∃ pairs, m = ofPairs pairs := ⟨_, (ofPairs_toList h.aligned).symm⟩

theorem Sound.pairwise (h : m.Sound) : m.toList.Pairwise fun e e' => Before e.1 e'.1 := by
  rw [← ofPairs_toList h.aligned] at h
  exact sound_ofPairs_iff.1 h

theorem Sound.nodup (h : m.Sound) : (m.toList.map (·.1)).Nodup :=
  List.pairwise_map.2 (h.pairwise.imp Before.ne)

/-! ## The cut at a key -/

theorem Ascending.place_finds (h : m.Ascending) (key : String) : (m.place key).Finds m.keys key :=
  placeBetween_finds (fun i j hi hj hij => List.pairwise_iff_getElem.1 h i j hi hj hij) 0 _ _ (Nat.zero_le _)
    (fun _ _ hj => absurd hj (Nat.not_lt_zero _)) fun _ hj hj' => absurd hj (Nat.not_lt.2 hj')

theorem insertIdx_length_append {β : Type} (pre post : List β) (b : β) :
    (pre ++ post).insertIdx pre.length b = pre ++ b :: post := by
  induction pre with
  | nil => rfl
  | cons a pre ih => simpa using ih

section Exchange

variable {pre post : List (String × α)} {old : α}

theorem get?_of_occupied (hp : (ofPairs (pre ++ (key, old) :: post)).place key = .occupied pre.length) :
    (ofPairs (pre ++ (key, old) :: post)).get? key = some old := by
  rw [get?, hp]
  simp [ofPairs]

/-- Where the key stands, its value is replaced. -/
theorem exchange_of_occupied (hp : (ofPairs (pre ++ (key, old) :: post)).place key = .occupied pre.length)
    (value : α) : (ofPairs (pre ++ (key, old) :: post)).exchange key value =
      (some old, ofPairs (pre ++ (key, value) :: post)) := by
  rw [exchange, hp]
  simp [ofPairs]

/-- Where the key belongs, the value and then the key are put between the others. -/
theorem exchange_of_vacant (hp : (ofPairs (pre ++ post)).place key = .vacant pre.length) (value : α) :
    (ofPairs (pre ++ post)).exchange key value = (none, ofPairs (pre ++ (key, value) :: post)) := by
  have hkeys := insertIdx_length_append (pre.map (·.1)) (post.map (·.1)) key
  have hvalues := insertIdx_length_append (pre.map (·.2)) (post.map (·.2)) value
  rw [List.length_map] at hkeys hvalues
  rw [exchange, hp]
  simp only [ofPairs, List.map_append, List.insertIdxIfInBounds_toArray, hkeys, hvalues, List.map_cons]

end Exchange

/-- The pairs lie before the key, at it or after it, and an exchange replaces what lies at it. -/
theorem exists_cut (h : m.Sound) (key : String) : ∃ pre post, (∀ e ∈ pre, Before e.1 key) ∧
    (∀ e ∈ post, Before key e.1) ∧ m.toList = pre ++ ((m.get? key).map (key, ·)).toList ++ post ∧
    ∀ value, m.exchange key value = (m.get? key, ofPairs (pre ++ (key, value) :: post)) := by
  obtain ⟨pairs, rfl⟩ := h.exists_eq_ofPairs
  have hsorted := sound_ofPairs_iff.1 h
  have hfinds := h.ascending.place_finds key
  have hkey : ∀ (j : Nat) (hj : j < pairs.length), (ofPairs pairs).keys[j]? = some pairs[j].1 := fun j hj => by
    simp [ofPairs, hj]
  cases hp : (ofPairs pairs).place key with
  | occupied i =>
    rw [hp] at hfinds
    obtain ⟨hi, hfound⟩ := hfinds
    have hlen : i < pairs.length := by simpa [ofPairs] using hi
    obtain ⟨pre, old, post, rfl, rfl⟩ : ∃ pre old post, pairs = pre ++ (key, old) :: post ∧ pre.length = i := by
      refine ⟨pairs.take i, pairs[i].2, pairs.drop (i + 1), ?_, by rw [List.length_take]; omega⟩
      have hpair : pairs[i] = (key, pairs[i].2) := Prod.ext (by simpa [ofPairs] using hfound) rfl
      rw [← hpair, List.getElem_cons_drop, List.take_append_drop]
    obtain ⟨-, hafter, hbefore⟩ := List.pairwise_append.1 hsorted
    refine ⟨pre, post, fun e he => hbefore e he _ (List.mem_cons_self ..), (List.pairwise_cons.1 hafter).1, ?_,
      fun value => ?_⟩
    · rw [get?_of_occupied hp, toList_ofPairs, List.append_assoc]
      rfl
    · rw [get?_of_occupied hp, exchange_of_occupied hp]
  | vacant i =>
    rw [hp] at hfinds
    obtain ⟨hi, hparts⟩ := hfinds
    have hnone : (ofPairs pairs).get? key = none := by rw [get?, hp]
    have hsize : (ofPairs pairs).keys.size = pairs.length := by simp [ofPairs]
    obtain ⟨pre, post, rfl, rfl⟩ : ∃ pre post, pairs = pre ++ post ∧ pre.length = i :=
      ⟨pairs.take i, pairs.drop i, (List.take_append_drop ..).symm, by rw [List.length_take]; omega⟩
    refine ⟨pre, post, fun e he => ?_, fun e he => ?_, ?_, fun value => ?_⟩
    · obtain ⟨j, hj, rfl⟩ := List.mem_iff_getElem.1 he
      simpa [ofPairs, hj] using (hparts j (by rw [hsize, List.length_append]; omega)).1 hj
    · obtain ⟨j, hj, rfl⟩ := List.mem_iff_getElem.1 he
      simpa [ofPairs] using (hparts (pre.length + j) (by rw [hsize, List.length_append]; omega)).2 (by omega)
    · rw [hnone, toList_ofPairs, Option.map_none, Option.toList_none, List.append_nil]
    · rw [hnone, exchange_of_vacant hp]

/-- The pairs after an insertion are the new one and those of other keys. -/
theorem mem_toList_insert (h : m.Sound) {e : String × α} :
    e ∈ (m.insert key value).toList ↔ e = (key, value) ∨ e.1 ≠ key ∧ e ∈ m.toList := by
  obtain ⟨pre, post, hpre, hpost, hm, hexchange⟩ := exists_cut h key
  have hinsert : (m.insert key value).toList = pre ++ (key, value) :: post := by
    rw [insert, hexchange, toList_ofPairs]
  have hother : ∀ e ∈ ((m.get? key).map (key, ·)).toList, e.1 = key := by
    intro e he
    obtain ⟨v, -, rfl⟩ := Option.map_eq_some_iff.1 (Option.mem_toList.1 he)
    rfl
  rw [hinsert, hm]
  simp only [List.mem_append, List.mem_cons]
  constructor
  · rintro (he | rfl | he)
    · exact .inr ⟨(hpre e he).ne, .inl (.inl he)⟩
    · exact .inl rfl
    · exact .inr ⟨(hpost e he).ne.symm, .inr he⟩
  · rintro (rfl | ⟨hne, (he | he) | he⟩)
    · exact .inr (.inl rfl)
    · exact .inl he
    · exact absurd (hother e he) hne
    · exact .inr (.inr he)

/-! ## Laws of insertion -/

theorem sound_empty : (∅ : StringMap α).Sound := ⟨rfl, List.Pairwise.nil⟩

/-- An insertion keeps the arrays in step and the keys ascending. -/
theorem sound_insert (h : m.Sound) : (m.insert key value).Sound := by
  obtain ⟨pre, post, hpre, hpost, hm, hexchange⟩ := exists_cut h key
  have hsorted := h.pairwise
  rw [hm] at hsorted
  obtain ⟨hleft, hright, -⟩ := List.pairwise_append.1 hsorted
  rw [insert, hexchange]
  refine sound_ofPairs_iff.2 (List.pairwise_append.2
    ⟨(List.pairwise_append.1 hleft).1, List.pairwise_cons.2 ⟨hpost, hright⟩, ?_⟩)
  intro e he e' he'
  rcases List.mem_cons.1 he' with rfl | he'
  · exact hpre e he
  · exact (hpre e he).trans (hpost e' he')

theorem get?_eq_some_iff (h : m.Sound) : m.get? key = some value ↔ (key, value) ∈ m.toList := by
  obtain ⟨pre, post, hpre, hpost, hm, -⟩ := exists_cut h key
  rw [hm]
  simp only [List.mem_append, Option.mem_toList, Option.map_eq_some_iff, Prod.mk.injEq, true_and, exists_eq_right]
  constructor
  · exact fun hget => .inl (.inr hget)
  · rintro ((he | hget) | he)
    · exact absurd rfl (hpre _ he).ne
    · exact hget
    · exact absurd rfl (hpost _ he).ne

theorem get?_empty (key : String) : (∅ : StringMap α).get? key = none := by
  refine Option.eq_none_iff_forall_ne_some.2 fun v hv => ?_
  cases (get?_eq_some_iff sound_empty).1 hv

theorem get?_insert (h : m.Sound) (key : String) (value : α) (other : String) :
    (m.insert key value).get? other = if other = key then some value else m.get? other := by
  refine Option.ext fun v => ?_
  rw [get?_eq_some_iff (sound_insert h), mem_toList_insert h]
  by_cases hkey : other = key
  · rw [if_pos hkey]
    simp [hkey, eq_comm]
  · rw [if_neg hkey, get?_eq_some_iff h]
    simp [hkey]

/-- An exchange gives the value that was found, and is an insertion. -/
theorem exchange_eq (h : m.Sound) (key : String) (value : α) :
    m.exchange key value = (m.get? key, m.insert key value) := by
  obtain ⟨pre, post, -, -, -, hexchange⟩ := exists_cut h key
  rw [insert, hexchange]

/-- Maps whose arrays are in step and whose keys ascend are equal if they find the same. -/
theorem eq_of_get? (h : m.Sound) (h' : m'.Sound) (hget : ∀ key, m.get? key = m'.get? key) : m = m' := by
  have hmem : ∀ e, e ∈ m.toList ↔ e ∈ m'.toList := fun e => by
    rw [← get?_eq_some_iff h, ← get?_eq_some_iff h', hget]
  have hperm := (List.perm_ext_iff_of_nodup h.nodup.of_map h'.nodup.of_map).2 hmem
  have hlist : m.toList = m'.toList := hperm.eq_of_pairwise
    (fun a b _ _ hab hba => absurd hba hab.not_before) h.pairwise h'.pairwise
  rw [← ofPairs_toList h.aligned, hlist, ofPairs_toList h'.aligned]

/-! ## Sequences of insertions -/

theorem sound_insertMany : ∀ (pairs : List (String × α)) {m : StringMap α}, m.Sound →
    (m.insertMany pairs).Sound
  | [], _, h => h
  | (key, value) :: pairs, m, h => by
    have hfirst : (m.insert key value).Sound := sound_insert h
    exact sound_insertMany pairs hfirst

theorem sound_ofInserts (pairs : List (String × α)) : (ofInserts pairs).Sound :=
  sound_insertMany pairs sound_empty

theorem get?_insertMany (key : String) : ∀ (pairs : List (String × α)) {m : StringMap α}, m.Sound →
    (m.insertMany pairs).get? key = (pairs.reverse.lookup key).or (m.get? key)
  | [], _, _ => rfl
  | (first, value) :: pairs, m, h => by
    have hfirst : (m.insert first value).Sound := sound_insert h
    have ih := get?_insertMany key pairs hfirst
    have hstep : m.insertMany ((first, value) :: pairs) = (m.insert first value).insertMany pairs := rfl
    rw [hstep, ih, get?_insert h, List.reverse_cons, List.lookup_append, Option.or_assoc]
    by_cases hkey : key = first
    · simp [hkey]
    · have hother : (key == first) = false := beq_eq_false_iff_ne.2 hkey
      simp only [List.lookup_cons, hother, List.lookup_nil, if_neg hkey, Option.none_or]

/-- What is found under a key is the value of its last insertion. -/
theorem get?_ofInserts (pairs : List (String × α)) (key : String) :
    (ofInserts pairs).get? key = pairs.reverse.lookup key := by
  rw [ofInserts, get?_insertMany key pairs sound_empty, get?_empty, Option.or_none]

/-- Of pairs with different keys every insertion counts, and only those of other keys are left of what
was stored before. -/
theorem mem_toList_insertMany {e : String × α} : ∀ (pairs : List (String × α)) {m : StringMap α}, m.Sound →
    (pairs.map (·.1)).Nodup →
      (e ∈ (m.insertMany pairs).toList ↔ e ∈ pairs ∨ e.1 ∉ pairs.map (·.1) ∧ e ∈ m.toList)
  | [], m, _, _ => by
    have hstep : m.insertMany [] = m := rfl
    simp [hstep]
  | (key, value) :: pairs, m, h, hnodup => by
    obtain ⟨hkey, hrest⟩ := List.nodup_cons.1 hnodup
    have hfirst : (m.insert key value).Sound := sound_insert h
    have ih := mem_toList_insertMany (e := e) pairs hfirst hrest
    have hstep : m.insertMany ((key, value) :: pairs) = (m.insert key value).insertMany pairs := rfl
    rw [hstep, ih, mem_toList_insert h, List.map_cons, List.mem_cons, List.mem_cons, not_or]
    constructor
    · rintro (he | ⟨hnot, rfl | ⟨hne, he⟩⟩)
      · exact .inl (.inr he)
      · exact .inl (.inl rfl)
      · exact .inr ⟨⟨hne, hnot⟩, he⟩
    · rintro ((rfl | he) | ⟨⟨hne, hnot⟩, he⟩)
      · exact .inr ⟨hkey, .inl rfl⟩
      · exact .inl he
      · exact .inr ⟨hnot, .inr ⟨hne, he⟩⟩

/-- A map is rebuilt from its pairs, in whatever order they are inserted. -/
theorem ofInserts_of_perm {pairs : List (String × α)} (h : m.Sound) (hp : pairs.Perm m.toList) :
    ofInserts pairs = m := by
  have hkeys : (m.toList.map (·.1)).Nodup := h.nodup
  have hnodup : (pairs.map (·.1)).Nodup := (hp.map (·.1)).nodup_iff.2 hkeys
  refine eq_of_get? (sound_ofInserts pairs) h fun key => Option.ext fun v => ?_
  have hempty : (key, v) ∉ (∅ : StringMap α).toList := List.not_mem_nil
  rw [get?_eq_some_iff (sound_ofInserts pairs), get?_eq_some_iff h, ofInserts,
    mem_toList_insertMany pairs sound_empty hnodup, hp.mem_iff]
  exact or_iff_left fun hold => hempty hold.2

theorem ofInserts_append (pairs : List (String × α)) (key : String) (value : α) :
    ofInserts (pairs ++ [(key, value)]) = (ofInserts pairs).insert key value := by
  rw [ofInserts, insertMany, List.foldl_append]; rfl

/-- A map is a canonical finite function, for every sequence of insertions that leads to it. The arrays of keys
and of values have the same length, and the keys ascend. A key is found with the value of its last insertion. The
next insertion gives the value that was found under its key, and changes what is found there alone. And
two such maps are equal, array by array, exactly if they find the same under every key, in whatever order and how
often the keys were inserted; so are two sets of requirements. -/
theorem ofInserts_canonical (pairs : List (String × α)) :
    ((ofInserts pairs).keys.size = (ofInserts pairs).values.size ∧ (ofInserts pairs).keys.toList.Pairwise Before) ∧
    (∀ key, (ofInserts pairs).get? key = pairs.reverse.lookup key) ∧
    (∀ key value, (ofInserts pairs).exchange key value =
        ((ofInserts pairs).get? key, ofInserts (pairs ++ [(key, value)])) ∧
      ∀ other, (ofInserts (pairs ++ [(key, value)])).get? other =
        if other = key then some value else (ofInserts pairs).get? other) ∧
    (∀ pairs', ofInserts pairs = ofInserts pairs' ↔
      ∀ key, (ofInserts pairs).get? key = (ofInserts pairs').get? key) ∧
    ∀ required required' : List (String × String),
      (Metadata.ofList required == Metadata.ofList required') = true ↔
        ∀ key, (Metadata.ofList required).get? key = (Metadata.ofList required').get? key := by
  have hext : ∀ {β : Type} (ps ps' : List (String × β)), ofInserts ps = ofInserts ps' ↔
      ∀ key, (ofInserts ps).get? key = (ofInserts ps').get? key := fun ps ps' =>
    ⟨fun h key => by rw [h], eq_of_get? (sound_ofInserts ps) (sound_ofInserts ps')⟩
  refine ⟨⟨(sound_ofInserts pairs).aligned, (sound_ofInserts pairs).ascending⟩, get?_ofInserts pairs,
    fun key value => ⟨?_, fun other => ?_⟩, hext pairs, fun required required' => ?_⟩
  · rw [ofInserts_append]
    exact exchange_eq (sound_ofInserts pairs) key value
  · rw [ofInserts_append]
    exact get?_insert (sound_ofInserts pairs) key value other
  · have hmap : ∀ ps ps', Metadata.ofList ps = Metadata.ofList ps' ↔ ofInserts ps = ofInserts ps' :=
      fun ps ps' => Metadata.mk.injEq _ _ ▸ Iff.rfl
    rw [beq_iff_eq, hmap]
    exact hext required required'

end StringMap
end RouteTable
