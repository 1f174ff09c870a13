/-
The messages of errors. Each kind of error has a beginning of its own, which begins no message of another kind,
and what is at fault follows in quotes. So no choice of names, patterns and paths gives different errors the same
message (`message_eq_iff_subject_eq`).
-/
import RouteTable.CompileError
import RouteTable.Proofs.Text.Quoted

namespace RouteTable
namespace CompileError

variable {φ ψ : Type}

/-- What is at fault, without what the checker of patterns said of it. -/
def subject : CompileError φ → CompileError Unit
  | constraint name source _ => constraint name source ()
  | template path _ => template path ()
  | pattern source _ => pattern source ()

theorem message_subject (e : CompileError φ) : e.subject.message = e.message := by
  cases e <;> rfl

theorem message_constraint (name source : String) (fault : φ) : (constraint name source fault).message =
    "invalid constraint for parameter " ++ (quoted name ++ (": pattern = " ++ quoted source)) := by
  show "invalid constraint for parameter " ++ quoted name ++ ": pattern = " ++ quoted source = _
  simp only [String.append_assoc]

/-- Texts with different beginnings differ, if neither beginning is the beginning of the other. -/
theorem append_ne_append {first second : String} (h : ¬ first.toList <+: second.toList)
    (h' : ¬ second.toList <+: first.toList) (rest rest' : String) : first ++ rest ≠ second ++ rest' := by
  intro heq
  have hfirst : first.toList <+: (first ++ rest).toList := by
    rw [String.toList_append]
    exact List.prefix_append ..
  have hsecond : second.toList <+: (first ++ rest).toList := by
    rw [heq, String.toList_append]
    exact List.prefix_append ..
  exact (List.prefix_or_prefix_of_prefix hfirst hsecond).elim h h'

/-- The messages of errors are the same exactly if the errors are of the same kind and name the same parameter
and pattern, the same path, or the same pattern. -/
theorem message_eq_iff_subject_eq (e : CompileError φ) (e' : CompileError ψ) :
    e.message = e'.message ↔ e.subject = e'.subject := by
  refine ⟨fun h => ?_, fun h => by rw [← message_subject e, ← message_subject e', h]⟩
  cases e with
  | constraint name source fault =>
    rw [message_constraint] at h
    cases e' with
    | constraint name' source' fault' =>
      rw [message_constraint, String.append_right_inj] at h
      obtain ⟨rfl, hrest⟩ := quoted_append_inj h
      obtain rfl := quoted_injective ((String.append_right_inj _).1 hrest)
      rfl
    | template path' fault' => exact (append_ne_append (by decide) (by decide) _ _ h).elim
    | pattern source' fault' => exact (append_ne_append (by decide) (by decide) _ _ h).elim
  | template path fault =>
    cases e' with
    | constraint name' source' fault' =>
      rw [message_constraint] at h
      exact (append_ne_append (by decide) (by decide) _ _ h).elim
    | template path' fault' =>
      obtain rfl := quoted_injective ((String.append_right_inj _).1 h)
      rfl
    | pattern source' fault' => exact (append_ne_append (by decide) (by decide) _ _ h).elim
  | pattern source fault =>
    cases e' with
    | constraint name' source' fault' =>
      rw [message_constraint] at h
      exact (append_ne_append (by decide) (by decide) _ _ h).elim
    | template path' fault' => exact (append_ne_append (by decide) (by decide) _ _ h).elim
    | pattern source' fault' =>
      obtain rfl := quoted_injective ((String.append_right_inj _).1 h)
      rfl

end CompileError
end RouteTable
