/-
Texts in quotes can be read back. One character is read by `readChar`, which takes from a longer text what
`escape` has written and nothing more (`readChar_escape`), and reads nothing where the closing quote stands.
So what is written in quotes tells where it ends, whatever follows it, and which text it stands for
(`encode_append_inj`).
-/
import RouteTable.Text.Quoted
import Mathlib.Data.List.Basic

namespace RouteTable.Text.Quoted

open Unicode

/-! ## Hexadecimal digits -/

/-- The value of a digit; letters are lower-case. -/
def digitValue (c : Char) : Nat := if c.isDigit then c.toNat - 48 else c.toNat - 87

/-- The number that the digits write. -/
def numberOf (digits : List Char) : Nat := digits.foldl (fun n c => 16 * n + digitValue c) 0

theorem digitValue_digitChar : ∀ d < 16, digitValue (Nat.digitChar d) = d := by decide

theorem digitChar_ne_brace : ∀ d < 16, Nat.digitChar d ≠ '\x7d' := by decide

theorem numberOf_toDigits (n : Nat) : numberOf (Nat.toDigits 16 n) = n := by
  induction n using Nat.strongRecOn with
  | _ n ih =>
    rw [Nat.toDigits_eq_if (by decide)]
    split
    · rename_i hn
      rw [numberOf, List.foldl_cons, digitValue_digitChar n hn]
      simp
    · rename_i hn
      have hlast : digitValue (Nat.digitChar (n % 16)) = n % 16 := digitValue_digitChar _ (Nat.mod_lt _ (by decide))
      have hfront : numberOf (Nat.toDigits 16 (n / 16)) = n / 16 := ih _ (by omega)
      rw [numberOf, List.foldl_append, ← numberOf, hfront, List.foldl_cons, List.foldl_nil, hlast]
      omega

theorem brace_not_mem_toDigits (n : Nat) : '\x7d' ∉ Nat.toDigits 16 n := by
  induction n using Nat.strongRecOn with
  | _ n ih =>
    rw [Nat.toDigits_eq_if (by decide)]
    split
    · rename_i hn
      exact fun h => digitChar_ne_brace n hn (List.mem_singleton.1 h).symm
    · intro h
      rcases List.mem_append.1 h with h | h
      · exact ih _ (by omega) h
      · exact digitChar_ne_brace _ (Nat.mod_lt _ (by decide)) (List.mem_singleton.1 h).symm

/-! ## One character -/

/-- The characters with a short escape, and what follows the backslash in it. -/
def shortEscapes : List (Char × Char) :=
  [('\x00', '0'), ('\t', 't'), ('\r', 'r'), ('\n', 'n'), ('"', '"'), ('\\', '\\')]

/-- Reads one character as it is written between quotes; `none` at a quote. -/
def readChar : List Char → Option (Char × List Char)
  | '\\' :: 'u' :: '\x7b' :: cs =>
    some (Char.ofNat (numberOf (cs.takeWhile (· != '\x7d'))), (cs.dropWhile (· != '\x7d')).drop 1)
  | '\\' :: x :: cs => (shortEscapes.find? (·.2 == x)).map fun p => (p.1, cs)
  | '"' :: _ => none
  | c :: cs => some (c, cs)
  | [] => none

/-- A character has a short escape, or is written by its code point, or stands for itself. -/
theorem escape_cases (c : Char) : (∃ x, (c, x) ∈ shortEscapes ∧ escape c = ['\\', x]) ∨ escape c = codePoint c ∨
    c ≠ '"' ∧ c ≠ '\\' ∧ escape c = [c] := by
  unfold escape
  split
  case h_7 hquote hbackslash =>
    split
    · exact .inr (.inl rfl)
    · exact .inr (.inr ⟨hquote, hbackslash, rfl⟩)
  all_goals exact .inl ⟨_, by decide, rfl⟩

theorem readChar_codePoint (c : Char) (rest : List Char) : readChar (codePoint c ++ rest) = some (c, rest) := by
  have hdigits : ∀ d ∈ Nat.toDigits 16 c.toNat, (d != '\x7d') = true := fun d hd =>
    bne_iff_ne.2 fun h => brace_not_mem_toDigits c.toNat (h ▸ hd)
  have htext : codePoint c ++ rest =
      '\\' :: 'u' :: '\x7b' :: (Nat.toDigits 16 c.toNat ++ '\x7d' :: rest) := by simp [codePoint]
  rw [htext, readChar, List.takeWhile_append_of_pos hdigits, List.dropWhile_append_of_pos hdigits]
  simp [numberOf_toDigits]

/-- What has been written for a character is read as this character, and no further. -/
theorem readChar_escape (c : Char) (rest : List Char) : readChar (escape c ++ rest) = some (c, rest) := by
  rcases escape_cases c with ⟨x, hx, hc⟩ | hc | ⟨hquote, hbackslash, hc⟩
  · rw [hc]
    simp only [shortEscapes, List.mem_cons, List.not_mem_nil, Prod.mk.injEq, or_false] at hx
    rcases hx with ⟨rfl, rfl⟩ | ⟨rfl, rfl⟩ | ⟨rfl, rfl⟩ | ⟨rfl, rfl⟩ | ⟨rfl, rfl⟩ | ⟨rfl, rfl⟩ <;> rfl
  · rw [hc, readChar_codePoint]
  · rw [hc]
    unfold readChar
    split <;> simp_all

theorem escape_append_inj {c d : Char} {rest rest' : List Char} (h : escape c ++ rest = escape d ++ rest') :
    c = d ∧ rest = rest' := by
  have hread := congrArg readChar h
  rw [readChar_escape, readChar_escape] at hread
  simpa using hread

theorem escape_append_ne_quote (c : Char) (rest rest' : List Char) : escape c ++ rest ≠ '"' :: rest' := by
  intro h
  have hread := congrArg readChar h
  rw [readChar_escape, readChar] at hread
  cases hread

/-! ## Whole texts -/

theorem flatMap_escape_append_inj : ∀ {cs ds rest rest' : List Char},
    cs.flatMap escape ++ '"' :: rest = ds.flatMap escape ++ '"' :: rest' → cs = ds ∧ rest = rest'
  | [], [], _, _, h => by simpa using h
  | [], d :: ds, _, _, h => by
    rw [List.flatMap_cons, List.append_assoc] at h
    exact (escape_append_ne_quote d _ _ h.symm).elim
  | c :: cs, [], _, _, h => by
    rw [List.flatMap_cons, List.append_assoc] at h
    exact (escape_append_ne_quote c _ _ h).elim
  | c :: cs, d :: ds, rest, rest', h => by
    rw [List.flatMap_cons, List.flatMap_cons, List.append_assoc, List.append_assoc] at h
    obtain ⟨rfl, htail⟩ := escape_append_inj h
    obtain ⟨rfl, hrest⟩ := flatMap_escape_append_inj htail
    exact ⟨rfl, hrest⟩

/-- A text in quotes tells where it ends and what it stands for, whatever follows it. -/
theorem encode_append_inj {cs ds rest rest' : List Char} (h : encode cs ++ rest = encode ds ++ rest') :
    cs = ds ∧ rest = rest' := by
  simp only [encode, List.cons_append, List.append_assoc, List.cons.injEq, true_and, List.nil_append] at h
  exact flatMap_escape_append_inj h

end RouteTable.Text.Quoted

namespace RouteTable

theorem quoted_append_inj {s t rest rest' : String} (h : quoted s ++ rest = quoted t ++ rest') :
    s = t ∧ rest = rest' := by
  have hlists := congrArg String.toList h
  simp only [quoted, String.toList_append, String.toList_ofList] at hlists
  obtain ⟨hst, hrest⟩ := Text.Quoted.encode_append_inj hlists
  exact ⟨String.toList_inj.1 hst, String.toList_inj.1 hrest⟩

theorem quoted_injective : Function.Injective quoted := fun _ _ h =>
  (quoted_append_inj (congrArg (· ++ "") h)).1

end RouteTable
