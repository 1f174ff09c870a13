/-
What the warning about anchors says of a constraint. Compiling looks at the first and the last character of the text,
and warns only of a constraint that is accepted by itself (`accepted_of_warned`). So a constraint that is warned of has
an anchor if it begins with `^`; and if it ends with `$`, then that is an anchor exactly if it is neither escaped nor
part of a comment (`anchored_iff_of_warned`). Otherwise there may be no anchor at all (`not_forall_warned_anchored`).
-/
import RouteTable.Proofs.Compiler.Reports
import RouteTable.Proofs.Pattern.Ends

namespace RouteTable
namespace Compiler

open Event Pattern

variable {φ : Type} {k : Compiler} {check : Checker} {d : Descriptor} {name pattern : String}

/-- A warning is about a constraint that is accepted by itself and begins with `^` or ends with `$`. -/
theorem accepted_of_warned (h : .anchored name pattern ∈ (k.compileBy check d).events) :
    Accepted check pattern ∧ (['^'] <+: pattern.toList ∨ ['$'] <:+ pattern.toList) := by
  have hline : (Event.anchored name pattern).line ∈ k.report check .abort d :=
    events_compileBy k check d ▸ List.mem_map_of_mem h
  rcases List.mem_append.1 hline with hwarning | hending
  · obtain ⟨o, ho, heq⟩ := List.mem_map.1 hwarning
    cases heq
    obtain ⟨ho, hedge⟩ := List.mem_filter.1 ho
    have hok := List.mem_takeWhile_imp ho
    refine ⟨?_, of_decide_eq_true hedge⟩
    cases hc : check o.2 with
    | ok program => exact ⟨program, hc⟩
    | error fault =>
      rw [hc] at hok
      cases hok
  · cases hc : (k.compileBy check d).value with
    | ok r =>
      rw [hc] at hending
      cases List.mem_singleton.1 hending
    | error e =>
      rw [hc] at hending
      cases hending

/-- A constraint that is warned of while a descriptor compiles has an anchor exactly if it begins with `^`, if it ends
with a `$` before which an even number of backslashes stands and that is no part of a comment, or if the parser comes
to another anchor before the last character. -/
theorem anchored_iff_of_warned [PropertyTable] (k : Compiler) (d : Descriptor) (name pattern : String)
    (h : .anchored name pattern ∈ (k.compile d).events) :
    Anchored pattern ↔ ['^'] <+: pattern.toList ∨ EndsInAnchor pattern ∨ AnchorWithin pattern := by
  obtain ⟨⟨program, hprogram⟩, hedge⟩ := accepted_of_warned h
  obtain ⟨e, flags, hparse, hnode, -⟩ := compile_eq_ok.1 hprogram
  exact anchored_iff_of_edge ⟨e, program, flags, hparse, hnode⟩ hedge

/-- One parameter with a constraint. -/
def priced (pattern : String) : Descriptor :=
  (((Descriptor.ofVerb "GET").literal "/").parameter "price").constraint "price" pattern

/-- A class with an escaped dollar sign and a caret as members, two escaped backslashes, and an anchor. -/
def backslashesAtEnd : String := "[\\$^]\\\\\\\\$"

theorem anchored_backslashesAtEnd :
    .anchored "price" backslashesAtEnd ∈ (({} : Compiler).compile (priced backslashesAtEnd)).events ∧
      EndsInAnchor backslashesAtEnd ∧ Anchored backslashesAtEnd := by
  have h : .anchored "price" backslashesAtEnd ∈ (({} : Compiler).compile (priced backslashesAtEnd)).events := by
    decide +kernel
  have hends : EndsInAnchor backslashesAtEnd := by
    refine ⟨"[\\$^]\\\\\\\\".toList, by decide +kernel, by decide +kernel, ?_⟩
    rintro ⟨e, he⟩
    have hrefused : parse (backslashesAtEnd ++ ")") = .error .malformed := by decide +kernel
    rw [hrefused] at he
    cases he
  have hiff := anchored_iff_of_warned {} (priced backslashesAtEnd) "price" backslashesAtEnd h
  exact ⟨h, hends, hiff.2 (.inr (.inl hends))⟩

/-- Of `a\$` there is a warning too, though its dollar sign is a character to match. -/
theorem not_forall_warned_anchored : ¬ ∀ (k : Compiler) (d : Descriptor) (name pattern : String),
    .anchored name pattern ∈ (k.compile d).events → Anchored pattern := by
  intro h
  obtain ⟨e, he, hanchored⟩ := h {} (priced "a\\$") "price" "a\\$" (by decide +kernel)
  have hparse : parse "a\\$" = .ok (.cat (.literal ⟨'a', false⟩) (.literal ⟨'$', false⟩)) := by decide +kernel
  rw [hparse] at he
  cases he
  cases hanchored

end Compiler
end RouteTable
