/-
The order of keys and the search for a key. By their UTF-8 bytes keys are in a strict linear order
(`Before`). Among keys that ascend in it, halving finds the index of a key, or the one that parts the
smaller keys from the greater ones (`placeBetween_finds`).
-/
import RouteTable.StringMap
import Mathlib.Data.List.Basic

namespace RouteTable

/-! ## The order of bytes -/

instance : Std.TransCmp compareBytes :=
  inferInstanceAs (Std.TransCmp (compareOn fun s : String => s.toByteArray.data.toList))

instance : Std.LawfulEqCmp compareBytes where
  eq_of_compare {a b} h := by
    have hbytes : a.toByteArray.data.toList = b.toByteArray.data.toList :=
      Std.LawfulEqCmp.compare_eq_iff_eq.1 h
    exact String.toByteArray_inj.1 (ByteArray.ext (Array.toList_inj.1 hbytes))

/-- The first key comes before the second in the order of bytes. -/
def Before (a b : String) : Prop := compareBytes a b = .lt

theorem Before.trans {a b c : String} (h : Before a b) (h' : Before b c) : Before a c :=
  Std.TransCmp.lt_trans h h'

theorem Before.ne {a b : String} (h : Before a b) : a ≠ b := by
  rintro rfl
  have hself : compareBytes a a = .eq := Std.ReflCmp.compare_self
  rw [Before, hself] at h
  cases h

theorem Before.not_before {a b : String} (h : Before a b) : ¬ Before b a := fun h' => (h.trans h').ne rfl

namespace StringMap

variable {keys : Array String} {key : String}

/-! ## Halving -/

/-- What is found out about a key: it stands at the index, or the keys below the index are smaller and
the others greater. -/
def Place.Finds (keys : Array String) (key : String) : Place → Prop
  | .occupied i => ∃ h : i < keys.size, keys[i] = key
  | .vacant i => i ≤ keys.size ∧
    ∀ j (h : j < keys.size), (j < i → Before keys[j] key) ∧ (i ≤ j → Before key keys[j])

/-- The search keeps the smaller keys below its stretch and the greater ones above. -/
theorem placeBetween_finds
    (hs : ∀ i j (hi : i < keys.size) (hj : j < keys.size), i < j → Before keys[i] keys[j])
    (lo hi : Nat) (hhi : hi ≤ keys.size) (hle : lo ≤ hi)
    (hbelow : ∀ j (h : j < keys.size), j < lo → Before keys[j] key)
    (habove : ∀ j (h : j < keys.size), hi ≤ j → Before key keys[j]) :
    (placeBetween keys key lo hi hhi).Finds keys key := by
  fun_induction placeBetween keys key lo hi hhi with
  | case1 lo hi hhi hlt mid hcmp ih =>
    -- the middle key is smaller, and with it all below
    refine ih (by omega) (fun j h hj => ?_) habove
    rcases Nat.lt_or_eq_of_le (Nat.le_of_lt_succ hj) with hj | rfl
    · exact (hs j mid h (by omega) hj).trans hcmp
    · exact hcmp
  | case2 lo hi hhi hlt mid hcmp => exact ⟨by omega, Std.LawfulEqCmp.compare_eq_iff_eq.1 hcmp⟩
  | case3 lo hi hhi hlt mid hcmp ih =>
    have hcmp' : Before key keys[mid] := Std.OrientedCmp.gt_iff_lt.1 hcmp
    refine ih (by omega) hbelow fun j h hj => ?_
    rcases Nat.lt_or_eq_of_le hj with hj | rfl
    · exact hcmp'.trans (hs mid j (by omega) h hj)
    · exact hcmp'
  | case4 lo hi hhi hlt =>
    refine ⟨by omega, fun j h => ⟨hbelow j h, fun hj => habove j h (by omega)⟩⟩

end StringMap
end RouteTable
