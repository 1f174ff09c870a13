/-
The rounds of the search for a key. `Stage.next` is one round that takes nothing for granted: the search has
`failed` if the bounds have crossed, or if no key stands in the middle. No search comes to that, in whatever
order the keys are (`inBounds_iterate`). Each round leaves at most half of the stretch, so the search ends
after one round more than the number of keys has binary digits, with what `place` says
(`iterate_next_eq_ended`). Where the keys ascend, that is the index of the key, or the one at which it can be
inserted (`search_ends_in_place`).
-/
import RouteTable.Proofs.StringMap.Canonical
import Mathlib.Algebra.Group.Nat.Defs
import Mathlib.Logic.Function.Iterate

namespace RouteTable
namespace StringMap

variable {α : Type} {keys : Array String} {m : StringMap α} {key : String}

/-! ## Rounds -/

/-- How far a search has come. -/
inductive Stage
  /-- The key is looked for from the index `lo` up to, but not including, `hi`. -/
  | looking (lo hi : Nat)
  | ended (place : Place)
  | failed
  deriving DecidableEq, Repr

namespace Stage

/-- One round of a search. -/
def next (keys : Array String) (key : String) : Stage → Stage
  | looking lo hi =>
    if lo < hi then
      let mid := lo + (hi - lo) / 2
      match keys[mid]? with
      | none => failed
      | some middle =>
        match compareBytes middle key with
        | .lt => looking (mid + 1) hi
        | .eq => ended (.occupied mid)
        | .gt => looking lo mid
    else if lo = hi then ended (.vacant lo) else failed
  | ended place => ended place
  | failed => failed

/-- The search has not failed, and the stretch it looks at lies among the keys. -/
def InBounds (size : Nat) : Stage → Prop
  | looking lo hi => lo ≤ hi ∧ hi ≤ size
  | ended _ => True
  | failed => False

theorem InBounds.next {stage : Stage} (h : stage.InBounds keys.size) :
    (stage.next keys key).InBounds keys.size := by
  cases stage with
  | looking lo hi =>
    obtain ⟨hle, hhi⟩ := h
    by_cases hlt : lo < hi
    · have hmid : lo + (hi - lo) / 2 < hi := by omega
      have hmiddle := Array.getElem?_eq_getElem (Nat.lt_of_lt_of_le hmid hhi)
      simp only [Stage.next, if_pos hlt, hmiddle]
      cases compareBytes keys[lo + (hi - lo) / 2] key with
      | lt => exact ⟨hmid, hhi⟩
      | eq => trivial
      | gt => exact ⟨Nat.le_add_right .., Nat.le_trans (Nat.le_of_lt hmid) hhi⟩
    · have heq : lo = hi := Nat.le_antisymm hle (Nat.le_of_not_lt hlt)
      simp only [Stage.next, if_neg hlt, if_pos heq]
      trivial
  | ended place => trivial
  | failed => cases h

end Stage

/-- A search does not fail and does not leave the keys. -/
theorem inBounds_iterate (keys : Array String) (key : String) (n : Nat) :
    ((Stage.next keys key)^[n] (.looking 0 keys.size)).InBounds keys.size := by
  induction n with
  | zero => exact ⟨Nat.zero_le _, Nat.le_refl _⟩
  | succ n ih =>
    rw [Function.iterate_succ_apply']
    exact ih.next

/-- A round leaves at most half of the stretch, so a stretch of less than `2 ^ n` keys is empty after `n`
rounds, and one more round sees that. -/
theorem iterate_next_eq_ended (n : Nat) : ∀ {lo hi : Nat} (hhi : hi ≤ keys.size), lo ≤ hi → hi - lo < 2 ^ n →
    (Stage.next keys key)^[n + 1] (.looking lo hi) = .ended (placeBetween keys key lo hi hhi) := by
  have hended : ∀ n place, (Stage.next keys key)^[n] (.ended place) = .ended place := fun n _ =>
    Function.iterate_fixed rfl n
  induction n with
  | zero =>
    intro lo hi hhi hle hlen
    obtain rfl : lo = hi := by omega
    rw [placeBetween, dif_neg (Nat.lt_irrefl _), Function.iterate_one, Stage.next, if_neg (Nat.lt_irrefl _), if_pos rfl]
  | succ n ih =>
    intro lo hi hhi hle hlen
    rw [Function.iterate_succ_apply, placeBetween]
    by_cases hlt : lo < hi
    · have hmid : lo + (hi - lo) / 2 < hi := by omega
      have hmiddle := Array.getElem?_eq_getElem (Nat.lt_of_lt_of_le hmid hhi)
      rw [Nat.pow_succ] at hlen
      simp only [Stage.next, if_pos hlt, hmiddle, dif_pos hlt]
      cases compareBytes keys[lo + (hi - lo) / 2] key with
      | lt => exact ih hhi hmid (by omega)
      | eq => exact hended ..
      | gt => exact ih _ (Nat.le_add_right ..) (by omega)
    · obtain rfl : lo = hi := Nat.le_antisymm hle (Nat.le_of_not_lt hlt)
      simp only [Stage.next, if_neg hlt, if_pos, dif_neg hlt]
      exact hended ..

/-! ## Where a search ends -/

/-- The search for a key in all of the keys, after a number of rounds. -/
def search (m : StringMap α) (key : String) (rounds : Nat) : Stage :=
  (Stage.next m.keys key)^[rounds] (.looking 0 m.size)

theorem place_of_mem (h : m.Ascending) (hkey : key ∈ m.keys) :
    ∃ i, m.place key = .occupied i ∧ m.keys[i]? = some key := by
  have hfinds := h.place_finds key
  cases hp : m.place key with
  | occupied i =>
    rw [hp] at hfinds
    obtain ⟨hi, hfound⟩ := hfinds
    exact ⟨i, rfl, by rw [Array.getElem?_eq_getElem hi, hfound]⟩
  | vacant i =>
    -- the key would have to be smaller or greater than itself
    rw [hp] at hfinds
    obtain ⟨j, hj, rfl⟩ := Array.mem_iff_getElem.1 hkey
    obtain ⟨hbelow, habove⟩ := hfinds.2 j hj
    rcases Nat.lt_or_ge j i with hij | hij
    · exact absurd rfl (hbelow hij).ne
    · exact absurd rfl (habove hij).ne

theorem place_of_not_mem (h : m.Ascending) (hkey : key ∉ m.keys) : ∃ i, m.place key = .vacant i ∧ i ≤ m.size ∧
    (∀ k ∈ m.keys.toList.take i, Before k key) ∧ ∀ k ∈ m.keys.toList.drop i, Before key k := by
  have hfinds := h.place_finds key
  have hsize : m.keys.toList.length = m.keys.size := Array.length_toList
  cases hp : m.place key with
  | occupied i =>
    rw [hp] at hfinds
    obtain ⟨hi, rfl⟩ := hfinds
    exact absurd (Array.getElem_mem hi) hkey
  | vacant i =>
    rw [hp] at hfinds
    obtain ⟨hi, hparts⟩ := hfinds
    refine ⟨i, rfl, hi, fun k hk => ?_, fun k hk => ?_⟩
    · obtain ⟨j, hj, rfl⟩ := List.mem_take_iff_getElem.1 hk
      exact (hparts j (by omega)).1 (by omega)
    · obtain ⟨j, hj, rfl⟩ := List.mem_drop_iff_getElem.1 hk
      exact (hparts (i + j) (by omega)).2 (by omega)

/-- A key that parts the keys into smaller and greater ones keeps them ascending when it stands between. -/
theorem pairwise_insertIdx {keys : List String} {i : Nat} (hkeys : keys.Pairwise Before) (hi : i ≤ keys.length)
    (hbelow : ∀ k ∈ keys.take i, Before k key) (habove : ∀ k ∈ keys.drop i, Before key k) :
    (keys.insertIdx i key).Pairwise Before := by
  have hinsert := insertIdx_length_append (keys.take i) (keys.drop i) key
  rw [List.take_append_drop, List.length_take, Nat.min_eq_left hi] at hinsert
  rw [hinsert]
  refine List.pairwise_append.2 ⟨hkeys.sublist (List.take_sublist ..), ?_, fun a ha b hb => ?_⟩
  · exact List.pairwise_cons.2 ⟨habove, hkeys.sublist (List.drop_sublist ..)⟩
  · rcases List.mem_cons.1 hb with rfl | hb
    · exact hbelow a ha
    · exact (hbelow a ha).trans (habove b hb)

/-- The search for any key among ascending keys. After no number of rounds it has failed: the bounds have not
crossed, they lie among the keys, and there is a key in the middle of every stretch that is not empty.
The search ends, after one round more than the number of keys has binary digits, with the place of the
key. That is an index of the key, if the key is there; and otherwise an index that parts the smaller keys from
the greater ones, at which the key can be inserted. -/
theorem search_ends_in_place (h : m.Ascending) (key : String) :
    (∀ n, m.search key n ≠ .failed) ∧
    (∀ n lo hi, m.search key n = .looking lo hi →
      lo ≤ hi ∧ hi ≤ m.size ∧ (lo < hi → lo + (hi - lo) / 2 < m.size)) ∧
    (∀ n, m.size < 2 ^ n → m.search key (n + 1) = .ended (m.place key)) ∧
    (key ∈ m.keys → ∃ i, m.place key = .occupied i ∧ m.keys[i]? = some key) ∧
    (key ∉ m.keys → ∃ i, m.place key = .vacant i ∧ i ≤ m.size ∧
      (∀ k ∈ m.keys.toList.take i, Before k key) ∧ (∀ k ∈ m.keys.toList.drop i, Before key k) ∧
      (m.keys.toList.insertIdx i key).Pairwise Before) := by
  have hbounds : ∀ n, (m.search key n).InBounds m.size := inBounds_iterate m.keys key
  refine ⟨fun n hn => ?_, fun n lo hi hn => ?_, fun n hn => ?_, place_of_mem h, fun hkey => ?_⟩
  · have hfailed := hbounds n
    rw [hn] at hfailed
    exact hfailed
  · have hlooking := hbounds n
    rw [hn] at hlooking
    obtain ⟨hle, hhi⟩ := hlooking
    exact ⟨hle, hhi, fun hlt => by omega⟩
  · exact iterate_next_eq_ended n (Nat.le_refl _) (Nat.zero_le _) hn
  · obtain ⟨i, hp, hi, hbelow, habove⟩ := place_of_not_mem h hkey
    exact ⟨i, hp, hi, hbelow, habove, pairwise_insertIdx h hi hbelow habove⟩

/-- Keys of one, two and no characters, one of which is written in two bytes. -/
def shortKeys : StringMap Nat := ofInserts [("zz", 0), ("é", 1), ("", 2), ("z", 3)]

/-- Byte by byte, `é` comes after every key of ASCII characters, and `zoo` belongs between `z` and `zz`. -/
theorem search_shortKeys : shortKeys.Ascending ∧ shortKeys.keys = #["", "z", "zz", "é"] ∧
    shortKeys.search "é" 4 = .ended (shortKeys.place "é") ∧
    (∃ i, shortKeys.place "é" = .occupied i ∧ shortKeys.keys[i]? = some "é") ∧
    shortKeys.place "zoo" = .vacant 2 ∧ (shortKeys.keys.toList.insertIdx 2 "zoo").Pairwise Before := by
  have h : shortKeys.Ascending := (sound_ofInserts _).ascending
  have hkeys : shortKeys.keys = #["", "z", "zz", "é"] := by decide +kernel
  have hplace : shortKeys.place "zoo" = .vacant 2 := by decide +kernel
  obtain ⟨-, -, hends, hmem, -⟩ := search_ends_in_place h "é"
  obtain ⟨-, -, -, -, hnot⟩ := search_ends_in_place h "zoo"
  obtain ⟨i, hp, -, -, -, hinsert⟩ := hnot (by rw [hkeys]; simp)
  obtain rfl : 2 = i := by rw [hplace] at hp; exact Place.vacant.inj hp
  exact ⟨h, hkeys, hends 3 (by decide +kernel), hmem (by rw [hkeys]; simp), hplace, hinsert⟩

end StringMap
end RouteTable
